import RegisterMap.Bus.Simulator

/-!
# Injected faults

A simulated bus that misbehaves on purpose: chosen calls fail at chosen addresses, some kinds of
access are not offered at all, block accesses are advertised whatever the simulator says, and block
reads answer with the wrong length.  A call that is refused does not reach the simulator.
-/

namespace RegisterMap

/-- How a bus misbehaves. -/
structure Injection where
  /-- What is advertised about block reads, in place of the simulator's switch. -/
  blockReads : Option Bool
  /-- What is advertised about block writes, in place of the simulator's switch. -/
  blockWrites : Option Bool
  /-- The kinds of access that are not offered. -/
  missing : List CallKind
  /-- The calls that fail: kind, start address, and the reason that is given. -/
  failures : List (CallKind × Nat × String)
  /-- The length to which every block read is cut or extended by zeros. -/
  blockLength : Option Nat
deriving Repr, Inhabited

namespace Injection

def none : Injection := ⟨.none, .none, [], [], .none⟩

/-- The fault that is injected into a call, if any. -/
def faultOf (i : Injection) (c : Call) : Option Fault :=
  match i.failures.find? fun f => f.1 == c.kind && f.2.1 == c.address with
  | some (_, address, reason) => some (.bus address reason)
  | .none => if i.missing.contains c.kind then some (.missingCallback c.kind c.address) else .none

/-- Words cut or extended by zeros to a length. -/
def resize (length : Nat) (words : List Nat) : List Nat :=
  words.take length ++ List.replicate (length - words.length) 0

/-- The reply to a call with the length of blocks adjusted. -/
def adjust (i : Injection) : (c : Call) → c.Reply → c.Reply
  | .readBlock .., words => (i.blockLength.map fun n => resize n words).getD words
  | .read .., word => word
  | .write .., _ => ()
  | .writeBlock .., _ => ()

/-- The simulated bus with the faults in it. -/
def toBus (i : Injection) : Bus Simulator where
  answer c s :=
    match i.faultOf c with
    | some e => (.error e, s)
    | .none =>
      let (reply, s') := s.answer c
      (reply.map (i.adjust c), s')
  blockReads s := i.blockReads.getD s.blockAccess
  blockWrites s := i.blockWrites.getD s.blockAccess

end Injection

end RegisterMap
