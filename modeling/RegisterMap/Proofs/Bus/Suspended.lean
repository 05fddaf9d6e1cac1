import Mathlib
import RegisterMap.Bus.Port
import RegisterMap.Proofs.Results

/-!
# Suspended programs

A suspended program is a tree of requests.  Driven on a bus, each request is carried out and the
program resumed with the reply (`Suspended.run`), and a program that goes on with the outcome of
another one is driven from where the other ends (`run_onDone`).

What a program can ask of its surroundings shows in the tree: `Suspended.Asks P Q` says that it
issues only requests of which `P` holds, whatever the replies are, and that `Q` holds of whatever it
succeeds with.  Nothing is assumed of the bus, so the judgement is a bound on the program alone.
Driven on any bus the program then makes only calls of that kind (`Asks.calls`), and what such
requests keep, it keeps (`Asks.keeps`).
-/

namespace RegisterMap

/-! ## Running suspended programs -/

namespace Suspended

variable {σ α β : Type}

lemma onDone_onDone {γ : Type} (x : Suspended α) (f : Except Fault α → Suspended β)
    (g : Except Fault β → Suspended γ) :
    (x.onDone f).onDone g = x.onDone fun outcome => (f outcome).onDone g := by
  induction x with
  | done outcome => rfl
  | await q resume ih =>
    simp only [onDone]
    congr 1
    funext reply
    exact ih reply

lemma onDone_done (x : Suspended α) : x.onDone done = x := by
  induction x with
  | done outcome => rfl
  | await q resume ih =>
    simp only [onDone]
    congr 1
    funext reply
    exact ih reply

instance : LawfulMonad Suspended :=
  LawfulMonad.mk' _
    (fun x => by
      refine Eq.trans ?_ (onDone_done x)
      change x.onDone _ = x.onDone _
      congr 1
      funext outcome
      cases outcome <;> rfl)
    (fun _ _ => rfl)
    (fun x f g => by
      refine (onDone_onDone x _ _).trans ?_
      change x.onDone _ = x.onDone _
      congr 1
      funext outcome
      cases outcome <;> rfl)

/-- A program that goes on with the outcome of another one is driven from where the other ends. -/
theorem run_onDone (bus : Bus σ) (x : Suspended α) (f : Except Fault α → Suspended β)
    (w : World σ) : run bus (x.onDone f) w = run bus (f (run bus x w).1) (run bus x w).2 := by
  induction x generalizing w with
  | done outcome => rfl
  | await q resume ih => exact ih (q.perform bus w).1 (q.perform bus w).2

lemma run_bind (bus : Bus σ) (x : Suspended α) (f : α → Suspended β) (w : World σ) :
    run bus (x >>= f) w = match run bus x w with
      | (.ok a, w') => run bus (f a) w'
      | (.error e, w') => (.error e, w') := by
  refine (run_onDone bus x _ w).trans ?_
  rcases run bus x w with ⟨_ | a, w'⟩ <;> rfl

lemma run_attempt (bus : Bus σ) (x : Suspended α) (w : World σ) :
    run bus (Port.attempt x) w = (.ok (run bus x w).1, (run bus x w).2) :=
  run_onDone bus x _ w

lemma run_askThen (bus : Bus σ) (q : Request) (f : q.Reply → Suspended β) (w : World σ) :
    run bus (Port.ask q >>= f) w = run bus (f (q.perform bus w).1) (q.perform bus w).2 := rfl

lemma run_attemptThen (bus : Bus σ) (x : Suspended α) (f : Except Fault α → Suspended β)
    (w : World σ) :
    run bus (Port.attempt x >>= f) w = run bus (f (run bus x w).1) (run bus x w).2 := by
  rw [run_bind, run_attempt]

end Suspended

/-! ## Requests of programs -/

namespace Suspended

variable {σ α β ι : Type} {P P' : Request → Prop} {Q Q' : α → Prop} {R : β → Prop}

/-- Whatever the replies are, the program issues only requests of which `P` holds, and `Q` holds of
its result. -/
def Asks (P : Request → Prop) (Q : α → Prop) : Suspended α → Prop
  | done outcome => ∀ a, outcome = .ok a → Q a
  | await q resume => P q ∧ ∀ reply, Asks P Q (resume reply)

namespace Asks

variable {x : Suspended α} {f : α → Suspended β}

lemma pure {a : α} (h : Q a) : Asks P Q (Pure.pure a) := by
  intro b hb
  cases hb
  exact h

lemma fail (e : Fault) : Asks P Q (Port.fail e : Suspended α) := nofun

lemma decide {outcome : Except Fault α} (h : ∀ a, outcome = .ok a → Q a) :
    Asks P Q (Port.decide outcome) := by
  cases outcome with
  | ok a => exact .pure (h a rfl)
  | error e => exact .fail e

lemma ask {q : Request} (h : P q) : Asks P (fun _ => True) (Port.ask q) :=
  ⟨h, fun _ _ _ => trivial⟩

lemma mono (h : Asks P Q x) (hP : ∀ q, P q → P' q) (hQ : ∀ a, Q a → Q' a) : Asks P' Q' x := by
  induction x with
  | done outcome => exact fun a ha => hQ a (h a ha)
  | await q resume ih => exact ⟨hP q h.1, fun reply => ih reply (h.2 reply)⟩

lemma onDone {f : Except Fault α → Suspended β} (hx : Asks P Q x)
    (hok : ∀ a, Q a → Asks P R (f (.ok a))) (herror : ∀ e, Asks P R (f (.error e))) :
    Asks P R (x.onDone f) := by
  induction x with
  | done outcome =>
    cases outcome with
    | ok a => exact hok a (hx a rfl)
    | error e => exact herror e
  | await q resume ih => exact ⟨hx.1, fun reply => ih reply (hx.2 reply)⟩

lemma bind (hx : Asks P Q x) (hf : ∀ a, Q a → Asks P R (f a)) : Asks P R (x >>= f) :=
  hx.onDone hf .fail

lemma attempt (hx : Asks P Q x) : Asks P (fun outcome => ∀ a, outcome = .ok a → Q a)
    (Port.attempt x) :=
  hx.onDone (fun _ ha => .pure fun _ heq => Except.ok.inj heq ▸ ha) fun _ => .pure nofun

lemma call {c : Call} (h : P (.call c)) : Asks P (fun _ => True) (Port.call c) :=
  .bind (.ask h) fun _ _ => .decide fun _ _ => trivial

lemma keptBySteps : KeptBySteps fun α (x : Suspended α) => Asks P (fun _ => True) x :=
  ⟨fun _ => .pure trivial, fun hx hf => .bind hx fun a _ => hf a⟩

lemma mapM {f : ι → Suspended α} {l : List ι} (h : ∀ i ∈ l, Asks P (fun _ => True) (f i)) :
    Asks P (fun _ => True) (l.mapM f) :=
  keptBySteps.mapM h

lemma forM {f : ι → Suspended PUnit} {l : List ι} (h : ∀ i ∈ l, Asks P (fun _ => True) (f i)) :
    Asks P (fun _ => True) (l.forM f) :=
  keptBySteps.forM h

/-! ## Running -/

variable {bus : Bus σ} {w : World σ}

/-- What every request of the program keeps, the whole program keeps. -/
theorem keeps (h : Asks P Q x) (inv : World σ → Prop)
    (hstep : ∀ q, P q → ∀ w, inv w → inv (q.perform bus w).2) (hw : inv w) :
    inv (run bus x w).2 := by
  induction x generalizing w with
  | done outcome => exact hw
  | await q resume ih => exact ih (q.perform bus w).1 (h.2 _) (hstep q h.1 w hw)

/-- The calls that the program makes are among those that it asks for. -/
theorem calls (h : Asks P Q x) (bus : Bus σ) (w : World σ) :
    ∃ calls, (run bus x w).2.trace = w.trace ++ calls ∧ ∀ c ∈ calls, P (.call c) := by
  refine h.keeps (fun w' => ∃ calls, w'.trace = w.trace ++ calls ∧ ∀ c ∈ calls, P (.call c)) ?_
    ⟨[], (List.append_nil _).symm, nofun⟩
  rintro q hq w' ⟨calls, htrace, hcalls⟩
  cases q with
  | call c =>
    refine ⟨calls ++ [c], ?_, ?_⟩
    · change w'.trace ++ [c] = _
      rw [htrace, List.append_assoc]
    · intro c' hc'
      rcases List.mem_append.1 hc' with hold | hnew
      · exact hcalls c' hold
      · rw [List.mem_singleton.1 hnew]
        exact hq
  | blockReads => exact ⟨calls, htrace, hcalls⟩
  | blockWrites => exact ⟨calls, htrace, hcalls⟩
  | acquire lock => exact ⟨calls, htrace, hcalls⟩
  | release lock => exact ⟨calls, htrace, hcalls⟩

end Asks

end Suspended

end RegisterMap
