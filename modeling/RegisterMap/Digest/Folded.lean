/-!
# A quick digest

A digest of 64 bits that takes one multiplication a byte, and a seed, so that every run may have one
of its own.  It tells different inputs apart well enough for the types of one export, but nobody
should rely on its values.
-/

namespace RegisterMap

namespace Folded

/-- Folds a byte into the digest. -/
def step (hash : UInt64) (byte : UInt8) : UInt64 := (hash ^^^ byte.toUInt64) * 0x100000001b3

/-- The digest of a message as a signed number. -/
def head64 (seed : UInt64) (message : List UInt8) : Int64 := (message.foldl step seed).toInt64

end Folded

end RegisterMap
