import RegisterMap.CommandLine.Disk
import RegisterMap.CommandLine.Help
import RegisterMap.CommandLine.Run

/-!
# Finished runs

The run of the command in a directory, from its arguments to the end of its process: what it says,
how it exits, and what the directory holds afterwards.
-/

namespace RegisterMap

/-- What a finished run leaves behind. -/
structure Finished where
  code : Nat
  output : String
  complaints : String
  disk : Disk

/-- The lines as text, each with its end. -/
def saidLines (lines : List String) : String := Lines.toText lines

/-- What the command says of its version. -/
def versionLine : String := "xtask 0.1.0"

/-- What the command says of its use. -/
def usageLine : String := "Usage: xtask ral-gen --input <INPUT> [OPTIONS]"

/-- Runs the command with arguments in a directory. -/
def runCommand [RunHash] (arguments : List String) (d : Disk) : Finished :=
  match Arguments.parse arguments with
  | .error (.refused reason) => ⟨2, "", saidLines ["error: " ++ reason, usageLine], d⟩
  | .error (.help topic) => ⟨0, saidLines (Help.lines topic), "", d⟩
  | .error .version => ⟨0, saidLines [versionLine], "", d⟩
  | .ok a =>
    let run := a.run fun path => (d.read path).mapError DiskFault.message
    match run.result with
    | .failed complaint => ⟨1, saidLines run.lines, saidLines ["Error: " ++ complaint], d⟩
    | .aborted cause => ⟨101, saidLines run.lines, saidLines [cause], d⟩
    | .written files lines complaint =>
      match d.writeAll files with
      | (.ok (), d) =>
        let complaints := saidLines (complaint.toList.map ("Error: " ++ ·))
        ⟨if complaint.isSome then 1 else 0, saidLines (run.lines ++ lines), complaints, d⟩
      | (.error complaint, d) => ⟨1, saidLines run.lines, saidLines ["Error: " ++ complaint], d⟩

end RegisterMap
