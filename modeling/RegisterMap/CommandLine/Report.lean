import RegisterMap.CommandLine.Finished
import RegisterMap.Json.Report

/-!
# Finished runs as JSON

What is reported of a run of the command: how it ended, what it said, and the files that it made,
with their sizes in bytes unless those depend on the run.
-/

namespace RegisterMap

namespace Json

/-- A file of a directory: its path, its size, and its text if that is shown. -/
def ofFile (sized : Bool) (shown : String → Bool) (file : String × String) : Json :=
  let size := if sized then [ofNat file.2.utf8ByteSize] else []
  let text := if shown file.1 then [ofString file.2] else []
  array (ofString file.1 :: size ++ text)

/-- A finished run in a directory as it was before. -/
def ofFinished (sized complaining : Bool) (shown : String → Bool) (before : Disk) (f : Finished) :
    Json :=
  let complaints := if complaining then [("stderr", ofString f.complaints)] else []
  ofMembers ([("code", ofNat f.code), ("stdout", ofString f.output),
    ("files", array ((f.disk.without before).map (ofFile sized shown)))] ++ complaints)

end Json

end RegisterMap
