import Mathlib
import RegisterMap.Proofs.Bus.Cells
import RegisterMap.Proofs.Device.Relations
import RegisterMap.Proofs.Results

/-!
# Block and single accesses cannot be told apart

Whether a bus offers block accesses decides how words travel: back to back words go through one call
or through one call each.  On a simulated bus that is all it decides.  `Unseen` relates operations
that end alike whatever each of their buses says about block accesses, from worlds with the same
contents and the same locks, and it goes along with everything devices are made of (`unseen`).

The moving of words is the one place where the answers matter.  There each way of going on sees and
leaves the same contents (`Transfer.yields_readOffered`, `Transfer.yields_writeOffered`), and neither
of them asks again or takes a lock (`Plain`), so one may stand for the other (`Unseen.of_yields`).
-/

namespace RegisterMap

/-- The bus of a simulator that says what it likes about block accesses. -/
def Simulator.offering (reads writes : Simulator → Bool) : Bus Simulator where
  answer := answer
  blockReads := reads
  blockWrites := writes

/-- Two runs on simulated buses end alike.  The counts of accesses and the traces may differ. -/
structure EndsAlike {α : Type} (r r' : Except Fault α × World Simulator) : Prop where
  outcome : r.1 = r'.1
  contents : r.2.bus.contents = r'.2.bus.contents
  locks : r.2.locks = r'.2.locks

namespace Blocking

variable {α β : Type}

/-! ## Operations that only make calls -/

/-- The operation does not depend on what is said about block accesses, and leaves the locks. -/
structure Plain (x : Blocking Simulator α) : Prop where
  run_eq : ∀ (reads writes : Simulator → Bool) (w : World Simulator),
    x.run (Simulator.offering reads writes) w = x.run Simulator.toBus w
  locks : ∀ w : World Simulator, (x.run Simulator.toBus w).2.locks = w.locks

lemma Plain.pure (a : α) : Plain (Pure.pure a) := ⟨fun _ _ _ => rfl, fun _ => rfl⟩

lemma Plain.fail (e : Fault) : Plain (Port.fail e : Blocking Simulator α) :=
  ⟨fun _ _ _ => rfl, fun _ => rfl⟩

lemma Plain.call (c : Call) : Plain (Port.call c) where
  run_eq _ _ _ := by cases c <;> rfl
  locks w := by cases c <;> rfl

lemma Plain.bind {x : Blocking Simulator α} {f : α → Blocking Simulator β} (hx : Plain x)
    (hf : ∀ a, Plain (f a)) : Plain (x >>= f) where
  run_eq reads writes w := by
    rw [run_bind, run_bind, hx.run_eq]
    rcases x.run Simulator.toBus w with ⟨_ | a, w'⟩
    · rfl
    · exact (hf a).run_eq reads writes w'
  locks w := by
    have hlocks := hx.locks w
    rw [run_bind]
    revert hlocks
    rcases x.run Simulator.toBus w with ⟨_ | a, w'⟩ <;> intro hlocks
    · exact hlocks
    · exact ((hf a).locks w').trans hlocks

lemma keptBySteps_plain : KeptBySteps fun α (x : Blocking Simulator α) => Plain x :=
  ⟨Plain.pure, Plain.bind⟩

lemma Plain.mapM {ι : Type} {f : ι → Blocking Simulator α} {l : List ι} (h : ∀ i, Plain (f i)) :
    Plain (l.mapM f) :=
  keptBySteps_plain.mapM fun i _ => h i

lemma Plain.forM {ι : Type} {f : ι → Blocking Simulator PUnit} {l : List ι}
    (h : ∀ i, Plain (f i)) : Plain (l.forM f) :=
  keptBySteps_plain.forM fun i _ => h i

lemma plain_readOffered (t : Transfer) (offered : Bool) : Plain (t.readOffered offered) := by
  unfold Transfer.readOffered
  split
  · refine .bind (.call _) fun words => ?_
    split
    · exact .pure words
    · exact .fail _
  · exact .mapM fun i => .call _

lemma plain_writeOffered (t : Transfer) (words : List ℕ) (offered : Bool) :
    Plain (t.writeOffered words offered) := by
  unfold Transfer.writeOffered
  split
  · exact .call _
  · exact .forM fun p => .call _

/-! ## Operations that end alike -/

/-- From the same contents and locks the operations end alike, whatever either bus says about block
accesses. -/
def Unseen (x y : Blocking Simulator α) : Prop :=
  ∀ (reads writes reads' writes' : Simulator → Bool) (w w' : World Simulator),
    w.bus.contents = w'.bus.contents → w.locks = w'.locks →
      EndsAlike (x.run (Simulator.offering reads writes) w)
        (y.run (Simulator.offering reads' writes') w')

lemma Unseen.pure (a : α) : Unseen (Pure.pure a) (Pure.pure a) :=
  fun _ _ _ _ _ _ hcontents hlocks => ⟨rfl, hcontents, hlocks⟩

lemma Unseen.fail (e : Fault) : Unseen (Port.fail e : Blocking Simulator α) (Port.fail e) :=
  fun _ _ _ _ _ _ hcontents hlocks => ⟨rfl, hcontents, hlocks⟩

lemma Unseen.bind {x y : Blocking Simulator α} {f g : α → Blocking Simulator β}
    (hx : Unseen x y) (hf : ∀ a, Unseen (f a) (g a)) : Unseen (x >>= f) (y >>= g) := by
  intro reads writes reads' writes' w w' hcontents hlocks
  have hend := hx reads writes reads' writes' w w' hcontents hlocks
  rw [run_bind, run_bind]
  revert hend
  rcases x.run (Simulator.offering reads writes) w with ⟨outcome, w₁⟩
  rcases y.run (Simulator.offering reads' writes') w' with ⟨outcome', w₁'⟩
  rintro ⟨houtcome, hcontents₁, hlocks₁⟩
  dsimp only at houtcome
  subst houtcome
  cases outcome with
  | error e => exact ⟨rfl, hcontents₁, hlocks₁⟩
  | ok a => exact hf a reads writes reads' writes' w₁ w₁' hcontents₁ hlocks₁

lemma Unseen.attempt {x y : Blocking Simulator α} (hx : Unseen x y) :
    Unseen (Port.attempt x) (Port.attempt y) := by
  intro reads writes reads' writes' w w' hcontents hlocks
  obtain ⟨houtcome, hcontents₁, hlocks₁⟩ := hx reads writes reads' writes' w w' hcontents hlocks
  rw [run_attempt, run_attempt]
  exact ⟨congrArg Except.ok houtcome, hcontents₁, hlocks₁⟩

/-- Operations that see and leave the same contents end alike. -/
theorem Unseen.of_yields {x y : Blocking Simulator α} (hx : Plain x) (hy : Plain y)
    (h : ∀ c, ∃ a c', Yields x c a c' ∧ Yields y c a c') : Unseen x y := by
  intro reads writes reads' writes' w w' hcontents hlocks
  obtain ⟨a, c', hyx, hyy⟩ := h w.bus.contents
  obtain ⟨w₁, hrun, hc⟩ := hyx w rfl
  obtain ⟨w₁', hrun', hc'⟩ := hyy w' hcontents.symm
  have hlocks₁ := hx.locks w
  have hlocks₁' := hy.locks w'
  rw [hx.run_eq, hy.run_eq]
  rw [hrun] at hlocks₁ ⊢
  rw [hrun'] at hlocks₁' ⊢
  exact ⟨rfl, hc.trans hc'.symm, hlocks₁.trans (hlocks.trans hlocks₁'.symm)⟩

lemma unseen_call (c : Call) : Unseen (Port.call c) (Port.call c) := by
  refine .of_yields (.call c) (.call c) fun contents => ?_
  cases c with
  | read address width accessWidth =>
    exact ⟨_, _, yields_read _ _ _ _, yields_read _ _ _ _⟩
  | write address width accessWidth data =>
    exact ⟨_, _, yields_write _ _ _ _ _, yields_write _ _ _ _ _⟩
  | readBlock address width accessWidth length =>
    exact ⟨_, _, yields_readBlock _ _ _ _ _, yields_readBlock _ _ _ _ _⟩
  | writeBlock address width accessWidth data =>
    exact ⟨_, _, yields_writeBlock _ _ _ _ _, yields_writeBlock _ _ _ _ _⟩

lemma unseen_acquire (lock : LockId) :
    Unseen (Port.ask (.acquire lock)) (Port.ask (.acquire lock)) := by
  intro _ _ _ _ w w' hcontents hlocks
  refine ⟨?_, hcontents, ?_⟩
  · change Except.ok (w.locks.acquire lock).1 = Except.ok (w'.locks.acquire lock).1
    rw [hlocks]
  · change (w.locks.acquire lock).2 = (w'.locks.acquire lock).2
    rw [hlocks]

lemma unseen_release (lock : LockId) :
    Unseen (Port.ask (.release lock)) (Port.ask (.release lock)) := by
  intro _ _ _ _ w w' hcontents hlocks
  refine ⟨rfl, hcontents, ?_⟩
  change w.locks.release lock = w'.locks.release lock
  rw [hlocks]

/-- Simulated buses that say different things about block accesses, as related ports. -/
def unseen : PortRelation (Blocking Simulator) (Blocking Simulator) where
  rel := Unseen
  pure := Unseen.pure
  bind := Unseen.bind
  fail := Unseen.fail
  attempt := Unseen.attempt
  call := unseen_call
  acquire := unseen_acquire
  release := unseen_release

/-- What follows a question has to end alike for any two answers. -/
lemma Unseen.ofBlockReads {f g : Bool → Blocking Simulator β}
    (h : ∀ offered offered', Unseen (f offered) (g offered')) :
    Unseen (Port.blockReads >>= f) (Port.blockReads >>= g) :=
  fun reads writes reads' writes' w w' =>
    h (reads w.bus) (reads' w'.bus) reads writes reads' writes' w w'

lemma Unseen.ofBlockWrites {f g : Bool → Blocking Simulator β}
    (h : ∀ offered offered', Unseen (f offered) (g offered')) :
    Unseen (Port.blockWrites >>= f) (Port.blockWrites >>= g) :=
  fun reads writes reads' writes' w w' =>
    h (writes w.bus) (writes' w'.bus) reads writes reads' writes' w w'

/-- Words that travel in one block and words that travel one by one. -/
theorem movesWords_unseen : unseen.MovesWords where
  readWords t := by
    rw [Transfer.readWords_eq]
    by_cases hzero : t.entries = 0
    · rw [if_pos hzero]
      exact .pure []
    · rw [if_neg hzero]
      refine Unseen.ofBlockReads fun offered offered' => ?_
      refine .of_yields (plain_readOffered t _) (plain_readOffered t _) fun c => ?_
      exact ⟨_, _, t.yields_readOffered offered c, t.yields_readOffered offered' c⟩
  writeWords t words := by
    rw [Transfer.writeWords_eq]
    by_cases hlength : words.length = t.entries
    · rw [if_neg (not_not.2 hlength)]
      split
      · exact .pure ()
      · refine Unseen.ofBlockWrites fun offered offered' => ?_
        refine .of_yields (plain_writeOffered t _ _) (plain_writeOffered t _ _) fun c => ?_
        exact ⟨_, _, t.yields_writeOffered words hlength offered c,
          t.yields_writeOffered words hlength offered' c⟩
    · rw [if_pos hlength]
      exact .fail _

end Blocking

/-! ## Operations, sessions and programs -/

/-- Whatever a simulated bus says about block reads and about block writes, an operation ends with
the same outcome and leaves the same contents and locks, and so does a program with its sessions.
In particular nothing depends on the way in which the simulator's own switch is set. -/
theorem block_access_unseen (w : World Simulator) (reads writes reads' writes' : Simulator → Bool) :
    (∀ op : DeviceOperation,
      EndsAlike (Blocking.run op.perform (Simulator.offering reads writes) w)
        (Blocking.run op.perform (Simulator.offering reads' writes') w)) ∧
    (∀ (α : Type) (p : Program α),
      EndsAlike (Blocking.run p.run (Simulator.offering reads writes) w)
        (Blocking.run p.run (Simulator.offering reads' writes') w)) ∧
    ∀ (α : Type) (p : Program α) (enabled : Bool),
      EndsAlike (Blocking.run p.run Simulator.toBus w)
        (Blocking.run p.run Simulator.toBus { w with bus := w.bus.setBlockAccess enabled }) := by
  have hwords := Blocking.movesWords_unseen
  refine ⟨fun op => ?_, fun α p => ?_, fun α p enabled => ?_⟩
  · exact hwords.perform op _ _ _ _ w w rfl rfl
  · exact hwords.run p _ _ _ _ w w rfl rfl
  · exact hwords.run p Simulator.blockAccess Simulator.blockAccess Simulator.blockAccess
      Simulator.blockAccess w _ rfl rfl

end RegisterMap
