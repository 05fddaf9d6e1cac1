import Mathlib
import RegisterMap.Proofs.Device.Requests

/-!
# Programs side by side

Suspended programs that share a world take turns, and a schedule says whose turn it is (`Pool.run`).
In one turn the pending request of a program is carried out, and nothing finer can be told apart:
what a program does between two requests touches nothing that is shared.  Longer turns are turns in
a row (`Pool.exists_schedule`), up to those that run one program after the other to its end
(`Pool.exists_schedule_inTurn`).

Programs do not notice each other if each keeps to a part of the world (`Parts`).  Then a program
goes under every schedule the way that it goes alone (`Parts.alone`), and all schedules that
complete all programs end alike (`Parts.Alike.of_finished`).
-/

namespace RegisterMap

open Suspended

/-- Programs that share a world. -/
structure Pool (σ ι β : Type) where
  programs : ι → Suspended β
  world : World σ

namespace Pool

variable {σ ι α β : Type} [DecidableEq ι] (bus : Bus σ)

/-- One turn of a program, in which its pending request is carried out. -/
def advance (p : Pool σ ι β) (i : ι) : Pool σ ι β :=
  match p.programs i with
  | .done _ => p
  | .await q resume =>
    { programs := Function.update p.programs i (resume (q.perform bus p.world).1)
      world := (q.perform bus p.world).2 }

/-- The turns that a schedule lists. -/
def run (schedule : List ι) (p : Pool σ ι β) : Pool σ ι β := schedule.foldl (advance bus) p

/-- A turn in which a program is run to its end. -/
def complete (p : Pool σ ι β) (i : ι) : Pool σ ι β where
  programs := Function.update p.programs i (.done (Suspended.run bus (p.programs i) p.world).1)
  world := (Suspended.run bus (p.programs i) p.world).2

/-- The programs are run one after the other, each to its end. -/
def inTurn (order : List ι) (p : Pool σ ι β) : Pool σ ι β := order.foldl (complete bus) p

/-- All programs have ended. -/
def Finished (p : Pool σ ι β) : Prop := ∀ i, ∃ outcome, p.programs i = .done outcome

variable {bus}

lemma run_append (schedule schedule' : List ι) (p : Pool σ ι β) :
    run bus (schedule ++ schedule') p = run bus schedule' (run bus schedule p) :=
  List.foldl_append

/-- A longer turn, in which the first part of a program is run to its end. -/
theorem exists_schedule (bus : Bus σ) {p : Pool σ ι β} {i : ι} {x : Suspended α}
    {next : Except Fault α → Suspended β} (h : p.programs i = x.onDone next) :
    ∃ schedule, run bus schedule p =
      ⟨Function.update p.programs i (next (Suspended.run bus x p.world).1),
        (Suspended.run bus x p.world).2⟩ := by
  induction x generalizing p with
  | done outcome =>
    refine ⟨[], ?_⟩
    change p = ⟨Function.update p.programs i (next outcome), p.world⟩
    rw [show next outcome = p.programs i from h.symm, Function.update_eq_self]
  | await q resume ih =>
    have hturn : p.advance bus i = ⟨Function.update p.programs i
        ((resume (q.perform bus p.world).1).onDone next), (q.perform bus p.world).2⟩ := by
      unfold advance
      rw [h]
      rfl
    obtain ⟨schedule, hschedule⟩ := ih (q.perform bus p.world).1 (p := p.advance bus i)
      (by rw [hturn]; exact Function.update_self ..)
    refine ⟨i :: schedule, hschedule.trans ?_⟩
    rw [hturn]
    dsimp only
    rw [Function.update_idem]
    rfl

lemma exists_schedule_complete (bus : Bus σ) (p : Pool σ ι β) (i : ι) :
    ∃ schedule, run bus schedule p = p.complete bus i :=
  exists_schedule bus (onDone_done _).symm

/-- Running programs one after the other is a schedule. -/
theorem exists_schedule_inTurn (bus : Bus σ) (order : List ι) (p : Pool σ ι β) :
    ∃ schedule, run bus schedule p = inTurn bus order p := by
  induction order generalizing p with
  | nil => exact ⟨[], rfl⟩
  | cons i rest ih =>
    obtain ⟨first, hfirst⟩ := p.exists_schedule_complete bus i
    obtain ⟨later, hlater⟩ := ih (p.complete bus i)
    refine ⟨first ++ later, ?_⟩
    rw [run_append, hfirst, hlater]
    rfl

/-- All programs that had their turn have ended. -/
lemma ended_inTurn {order : List ι} {p : Pool σ ι β} {i : ι}
    (h : i ∈ order ∨ ∃ outcome, p.programs i = .done outcome) :
    ∃ outcome, (inTurn bus order p).programs i = .done outcome := by
  induction order generalizing p with
  | nil => exact h.resolve_left List.not_mem_nil
  | cons j rest ih =>
    refine ih ?_
    by_cases hij : i = j
    · subst hij
      exact Or.inr ⟨_, Function.update_self ..⟩
    · refine h.imp (fun hmem => (List.mem_cons.1 hmem).resolve_left hij) ?_
      rintro ⟨outcome, hdone⟩
      exact ⟨outcome, (Function.update_of_ne hij ..).trans hdone⟩

lemma finished_inTurn {order : List ι} (h : ∀ i, i ∈ order) (p : Pool σ ι β) :
    (inTurn bus order p).Finished :=
  fun i => ended_inTurn (Or.inl (h i))

end Pool

/-! ## Parts of the world -/

/-- Every program has a part of the world of its own.  What it sees is its view, and its requests
change the view of no other program. -/
structure Parts {σ : Type} (bus : Bus σ) (ι V U : Type) where
  /-- The requests that a program may issue. -/
  asks : ι → Request → Prop
  /-- What is true of the world at all times. -/
  inv : World σ → Prop
  /-- What a program sees of the world. -/
  view : ι → World σ → V
  /-- What is no part of any program. -/
  rest : World σ → U
  inv_perform : ∀ {i q w}, asks i q → inv w → inv (q.perform bus w).2
  /-- Replies and views depend on the view. -/
  own : ∀ {i q w w'}, asks i q → inv w → inv w' → view i w = view i w' →
    (q.perform bus w).1 = (q.perform bus w').1 ∧
      view i (q.perform bus w).2 = view i (q.perform bus w').2
  other : ∀ {i j q w}, i ≠ j → asks j q → inv w → view i (q.perform bus w).2 = view i w
  rest_perform : ∀ {i q w}, asks i q → inv w → rest (q.perform bus w).2 = rest w

namespace Parts

variable {σ ι β V U : Type} {bus : Bus σ} (parts : Parts bus ι V U)

/-- As far as the program can see, the pool is where the program alone would be. -/
def Alone (start p : Pool σ ι β) (i : ι) : Prop :=
  ∃ w, parts.inv w ∧ parts.view i w = parts.view i p.world ∧
    (p.programs i).Asks (parts.asks i) (fun _ => True) ∧
    Suspended.run bus (p.programs i) w = Suspended.run bus (start.programs i) start.world

/-- What is true of a pool at all times. -/
structure Alike (start p : Pool σ ι β) : Prop where
  inv : parts.inv p.world
  rest : parts.rest p.world = parts.rest start.world
  alone : ∀ i, parts.Alone start p i

variable [DecidableEq ι] {parts} {start p : Pool σ ι β}

lemma Alike.advance (h : parts.Alike start p) (j : ι) : parts.Alike start (p.advance bus j) := by
  obtain ⟨wj, hinvj, hviewj, hasksj, hrunj⟩ := h.alone j
  unfold Pool.advance
  split
  · exact h
  · next q resume hpending =>
    rw [hpending] at hasksj hrunj
    obtain ⟨hq, hresume⟩ := hasksj
    refine ⟨parts.inv_perform hq h.inv, (parts.rest_perform hq h.inv).trans h.rest, fun i => ?_⟩
    by_cases hij : i = j
    · subst hij
      obtain ⟨hreply, hview⟩ := parts.own hq hinvj h.inv hviewj
      refine ⟨(q.perform bus wj).2, parts.inv_perform hq hinvj, hview, ?_, ?_⟩
      · dsimp only
        rw [Function.update_self]
        exact hresume _
      · dsimp only
        rw [Function.update_self, ← hreply]
        exact hrunj
    · -- the program is not at its turn, and its part of the world stays
      obtain ⟨w, hinv, hview, hasks, hrun⟩ := h.alone i
      refine ⟨w, hinv, hview.trans (parts.other hij hq h.inv).symm, ?_, ?_⟩
      · dsimp only
        rwa [Function.update_of_ne hij]
      · dsimp only
        rwa [Function.update_of_ne hij]

/-- Under every schedule, every program goes the way that it goes alone. -/
theorem alone (hinv : parts.inv start.world)
    (hasks : ∀ i, (start.programs i).Asks (parts.asks i) (fun _ => True)) (schedule : List ι) :
    parts.Alike start (start.run bus schedule) := by
  have hkeeps : ∀ p : Pool σ ι β, parts.Alike start p → parts.Alike start (p.run bus schedule) := by
    induction schedule with
    | nil => exact fun _ h => h
    | cons i rest ih => exact fun p h => ih (p.advance bus i) (h.advance i)
  exact hkeeps start ⟨hinv, rfl, fun i => ⟨start.world, hinv, rfl, hasks i, rfl⟩⟩

omit [DecidableEq ι] in
/-- When all programs have ended, each has the outcome that it has alone, its part of the world is
as it is when the program is run alone, and the rest is as it was. -/
theorem Alike.of_finished (h : parts.Alike start p) (hfinished : p.Finished) :
    (∀ i, p.programs i = .done (Suspended.run bus (start.programs i) start.world).1 ∧
      parts.view i p.world =
        parts.view i (Suspended.run bus (start.programs i) start.world).2) ∧
    parts.rest p.world = parts.rest start.world := by
  refine ⟨fun i => ?_, h.rest⟩
  obtain ⟨w, -, hview, -, hrun⟩ := h.alone i
  obtain ⟨outcome, hdone⟩ := hfinished i
  rw [hdone] at hrun ⊢
  rw [← hrun]
  exact ⟨rfl, hview.symm⟩

omit [DecidableEq ι] in
/-- When all programs have ended in two ways from one start, the ends are the same. -/
theorem Alike.ends_alike {p' : Pool σ ι β} (h : parts.Alike start p) (h' : parts.Alike start p')
    (hfinished : p.Finished) (hfinished' : p'.Finished) :
    p.programs = p'.programs ∧ (∀ i, parts.view i p.world = parts.view i p'.world) ∧
      parts.rest p.world = parts.rest p'.world := by
  obtain ⟨halone, hrest⟩ := h.of_finished hfinished
  obtain ⟨halone', hrest'⟩ := h'.of_finished hfinished'
  exact ⟨funext fun i => (halone i).1.trans (halone' i).1.symm,
    fun i => (halone i).2.trans (halone' i).2.symm, hrest.trans hrest'.symm⟩

end Parts

end RegisterMap
