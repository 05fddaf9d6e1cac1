import Mathlib
import RegisterMap.Proofs.Bus.Cells

/-!
# The calls that reach a simulated bus

`Yields` tells the value of an operation and what it stores, and leaves the trace out.  `Issues`
tells the calls: which ones depends on whether the simulator offers block accesses, and no call
changes that offer.  As `Yields` does, it composes along `do`, where the calls of the second
operation may depend on the value of the first.

A transfer of words that lie back to back is one block access where these are offered, and one
access a word in ascending order otherwise (`issues_readWords`, `issues_writeWords`).
-/

namespace RegisterMap

lemma Simulator.blockAccess_foldl_put (s : Simulator) (cells : List (ℕ × ℕ)) (width : ℕ) :
    (cells.foldl (fun s p => s.put p.1 width p.2) s).blockAccess = s.blockAccess := by
  induction cells generalizing s with
  | nil => rfl
  | cons p rest ih => rw [List.foldl_cons, ih]; rfl

namespace Blocking

variable {α β ι : Type}

/-- On every simulator of contents `c`, the operation issues these calls, given whether block
accesses are offered. -/
def Issues (x : Blocking Simulator α) (c : Contents) (calls : Bool → List Call) : Prop :=
  ∀ w : World Simulator, w.bus.contents = c →
    (x.run Simulator.toBus w).2.trace = w.trace ++ calls w.bus.blockAccess ∧
      (x.run Simulator.toBus w).2.bus.blockAccess = w.bus.blockAccess

variable {x : Blocking Simulator α} {f : α → Blocking Simulator β} {c c' : Contents} {a : α}
  {calls calls' : Bool → List Call}

lemma Issues.pure (a : α) (c : Contents) : Issues (Pure.pure a) c fun _ => [] :=
  fun _ _ => ⟨(List.append_nil _).symm, rfl⟩

lemma Issues.bind (hyields : Yields x c a c') (hx : Issues x c calls)
    (hf : Issues (f a) c' calls') : Issues (x >>= f) c fun block => calls block ++ calls' block := by
  intro w hw
  obtain ⟨w₁, hrun, hw₁⟩ := hyields w hw
  obtain ⟨htrace, hblock⟩ := hx w hw
  obtain ⟨htrace', hblock'⟩ := hf w₁ hw₁
  rw [hrun] at htrace hblock
  have hbind : Blocking.run (x >>= f) Simulator.toBus w = (f a).run Simulator.toBus w₁ := by
    change Blocking.bind x f Simulator.toBus w = _
    unfold Blocking.bind
    rw [show x Simulator.toBus w = _ from hrun]
    rfl
  rw [hbind]
  refine ⟨?_, hblock'.trans hblock⟩
  rw [htrace', htrace, hblock, List.append_assoc]

/-- An operation whose calls are all in its first step. -/
lemma Issues.bindSilent (hyields : Yields x c a c') (hx : Issues x c calls)
    (hf : Issues (f a) c' fun _ => []) : Issues (x >>= f) c calls := by
  simpa only [List.append_nil] using Issues.bind hyields hx hf

/-- A check that passes issues no call. -/
lemma Issues.decideThen {outcome : Except Fault α} (h : outcome = .ok a)
    (hf : Issues (f a) c calls) : Issues (Port.decide outcome >>= f) c calls := by
  subst h
  exact hf

/-- Which calls follow a question about block accesses depends on the answer. -/
lemma Issues.ofBlockReads {f : Bool → Blocking Simulator β}
    (h : ∀ offered, Issues (f offered) c fun _ => calls offered) :
    Issues (Port.blockReads >>= f) c calls :=
  fun w hw => h w.bus.blockAccess w hw

lemma Issues.ofBlockWrites {f : Bool → Blocking Simulator β}
    (h : ∀ offered, Issues (f offered) c fun _ => calls offered) :
    Issues (Port.blockWrites >>= f) c calls :=
  fun w hw => h w.bus.blockAccess w hw

/-- Operations that change nothing issue their calls one after the other. -/
lemma Issues.mapM {f : ι → Blocking Simulator α} {g : ι → α} {call : ι → Call} {l : List ι}
    (hyields : ∀ i ∈ l, Yields (f i) c (g i) c) (h : ∀ i ∈ l, Issues (f i) c fun _ => [call i]) :
    Issues (l.mapM f) c fun _ => l.map call := by
  induction l with
  | nil => exact .pure _ _
  | cons i rest ih =>
    have hrest := ih (fun j hj => hyields j (List.mem_cons_of_mem _ hj))
      fun j hj => h j (List.mem_cons_of_mem _ hj)
    have hyieldsRest : Yields (rest.mapM f) c (rest.map g) c :=
      .mapM fun j hj => hyields j (List.mem_cons_of_mem _ hj)
    rw [List.mapM_cons]
    exact Issues.bind (hyields i List.mem_cons_self) (h i List.mem_cons_self)
      (.bindSilent hyieldsRest hrest (.pure _ _))

lemma Issues.forM {f : ι → Blocking Simulator PUnit} {cells : ι → List (ℕ × ℕ)} {call : ι → Call}
    {l : List ι} (hyields : ∀ i ∈ l, ∀ c, Yields (f i) c () (c.setAll (cells i)))
    (h : ∀ i ∈ l, ∀ c, Issues (f i) c fun _ => [call i]) (c : Contents) :
    Issues (l.forM f) c fun _ => l.map call := by
  induction l generalizing c with
  | nil => exact .pure _ _
  | cons i rest ih =>
    exact Issues.bind (hyields i List.mem_cons_self c) (h i List.mem_cons_self c)
      (ih (fun j hj => hyields j (List.mem_cons_of_mem _ hj))
        (fun j hj => h j (List.mem_cons_of_mem _ hj)) _)

/-! ## Physical accesses -/

lemma issues_read (c : Contents) (address width accessWidth : ℕ) :
    Issues (Port.call (.read address width accessWidth)) c
      fun _ => [.read address width accessWidth] :=
  fun _ _ => ⟨rfl, rfl⟩

lemma issues_readBlock (c : Contents) (address width accessWidth length : ℕ) :
    Issues (Port.call (.readBlock address width accessWidth length)) c
      fun _ => [.readBlock address width accessWidth length] :=
  fun _ _ => ⟨rfl, rfl⟩

lemma issues_write (c : Contents) (address width accessWidth data : ℕ) :
    Issues (Port.call (.write address width accessWidth data)) c
      fun _ => [.write address width accessWidth data] :=
  fun _ _ => ⟨rfl, rfl⟩

lemma issues_writeBlock (c : Contents) (address width accessWidth : ℕ) (data : List ℕ) :
    Issues (Port.call (.writeBlock address width accessWidth data)) c
      fun _ => [.writeBlock address width accessWidth data] := by
  refine fun w _ => ⟨rfl, ?_⟩
  have hfold := (w.bus.counted .writeBlock).blockAccess_foldl_put
    (data.zipIdx.map fun p => (address + p.2 * entryBytes width, p.1)) width
  rw [List.foldl_map] at hfold
  exact hfold

end Blocking

/-! ## Transfers of words -/

namespace Transfer

open Blocking

/-- The calls that read every entry as one word. -/
def readCalls (t : Transfer) (block : Bool) : List Call :=
  if t.isContiguous && block then [.readBlock t.address t.width t.accessWidth t.entries]
  else (List.range t.entries).map fun i => .read (t.entryAddress i) t.width t.accessWidth

/-- The calls that write every entry as one word. -/
def writeCalls (t : Transfer) (words : List ℕ) (block : Bool) : List Call :=
  if t.isContiguous && block then [.writeBlock t.address t.width t.accessWidth words]
  else words.zipIdx.map fun p => .write (t.entryAddress p.2) t.width t.accessWidth p.1

variable {t : Transfer}

theorem issues_readWords (hpos : 0 < t.entries) (c : Contents) :
    Issues t.readWords c t.readCalls := by
  rw [readWords_eq, if_neg hpos.ne']
  refine Issues.ofBlockReads fun offered => ?_
  unfold readOffered readCalls
  by_cases hblock : (t.isContiguous && offered) = true
  · simp only [hblock, if_true]
    refine Issues.bindSilent (yields_readBlock c _ _ _ _) (issues_readBlock c _ _ _ _) ?_
    simp only [List.length_map, List.length_range, if_true]
    exact .pure _ _
  · simp only [hblock, Bool.false_eq_true, if_false]
    exact .mapM (fun i _ => yields_read c _ _ _) fun i _ => issues_read c _ _ _

theorem issues_writeWords {words : List ℕ} (hlength : words.length = t.entries)
    (hpos : 0 < t.entries) (c : Contents) :
    Issues (t.writeWords words) c (t.writeCalls words) := by
  have hnonempty : ¬ words.isEmpty = true := by
    rw [List.isEmpty_iff]
    exact List.ne_nil_of_length_pos (hlength ▸ hpos)
  rw [writeWords_eq, if_neg (not_not.2 hlength), if_neg hnonempty]
  refine Issues.ofBlockWrites fun offered => ?_
  unfold writeOffered writeCalls
  by_cases hblock : (t.isContiguous && offered) = true
  · simp only [hblock, if_true]
    exact issues_writeBlock c _ _ _ _
  · simp only [hblock, Bool.false_eq_true, if_false]
    exact .forM (fun p _ c => yields_write c _ _ _ _) (fun p _ c => issues_write c _ _ _ _) c

end Transfer

end RegisterMap
