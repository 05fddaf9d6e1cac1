import Mathlib
import RegisterMap.Bus.Simulator
import RegisterMap.Bus.Transfer

/-!
# What a simulated bus holds

The contents of a simulator are what later reads can tell: the word that is stored at every address,
and the word that reads of an address are made to return.  The counts of accesses, the trace and the
locks are left out, and so is the switch for block accesses, since block and single accesses see and
leave the same contents.

`Yields` says of a blocking operation that it succeeds with a value on every simulator of given
contents, and which contents it leaves.  It composes along `do`, so the effect of a device operation
is read off the effects of its physical accesses.
-/

namespace RegisterMap

/-! ## Contents -/

/-- What reads of a simulated bus can tell. -/
structure Contents where
  /-- The word at every address. -/
  stored : ℕ → ℕ
  /-- The words that reads return instead. -/
  forced : ℕ → Option ℕ

namespace Contents

/-- The word that a read sees before it is cut to the width of the access. -/
def seen (c : Contents) (address : ℕ) : ℕ := (c.forced address).getD (c.stored address)

/-- The contents after a word was stored. -/
def set (c : Contents) (address word : ℕ) : Contents :=
  { c with stored := Function.update c.stored address word }

/-- The contents after several words were stored, later ones last. -/
def setAll (c : Contents) (cells : List (ℕ × ℕ)) : Contents :=
  cells.foldl (fun c p => c.set p.1 p.2) c

lemma stored_set (c : Contents) (address word a : ℕ) :
    (c.set address word).stored a = if a = address then word else c.stored a :=
  Function.update_apply _ _ _ _

@[simp] lemma setAll_nil (c : Contents) : c.setAll [] = c := rfl

@[simp] lemma setAll_cons (c : Contents) (p : ℕ × ℕ) (cells : List (ℕ × ℕ)) :
    c.setAll (p :: cells) = (c.set p.1 p.2).setAll cells := rfl

lemma setAll_append (c : Contents) (cells cells' : List (ℕ × ℕ)) :
    c.setAll (cells ++ cells') = (c.setAll cells).setAll cells' :=
  List.foldl_append

@[simp] lemma forced_setAll (c : Contents) (cells : List (ℕ × ℕ)) :
    (c.setAll cells).forced = c.forced := by
  induction cells generalizing c with
  | nil => rfl
  | cons p rest ih => rw [setAll_cons, ih]; rfl

/-- Storing words leaves all other addresses alone. -/
lemma stored_setAll_of_notMem {c : Contents} {cells : List (ℕ × ℕ)} {address : ℕ}
    (h : address ∉ cells.map Prod.fst) : (c.setAll cells).stored address = c.stored address := by
  induction cells generalizing c with
  | nil => rfl
  | cons p rest ih =>
    simp only [List.map_cons, List.mem_cons, not_or] at h
    rw [setAll_cons, ih h.2, stored_set, if_neg h.1]

/-- An address that was stored to holds a word that was stored there. -/
lemma stored_setAll_mem {c : Contents} {cells : List (ℕ × ℕ)} {address : ℕ}
    (h : address ∈ cells.map Prod.fst) :
    (address, (c.setAll cells).stored address) ∈ cells := by
  induction cells generalizing c with
  | nil => simp at h
  | cons p rest ih =>
    by_cases hrest : address ∈ rest.map Prod.fst
    · exact List.mem_cons_of_mem _ (ih hrest)
    · -- the first word is the last one stored at this address
      have hp : address = p.1 := by simpa [hrest] using h
      rw [setAll_cons, stored_setAll_of_notMem hrest, stored_set, if_pos hp, hp]
      exact List.mem_cons_self

/-- Where no address is stored to twice, it holds the word that was stored there. -/
lemma stored_setAll_of_mem {c : Contents} {cells : List (ℕ × ℕ)} {address word : ℕ}
    (hnodup : (cells.map Prod.fst).Nodup) (h : (address, word) ∈ cells) :
    (c.setAll cells).stored address = word := by
  have hmem := stored_setAll_mem (c := c) (List.mem_map_of_mem (f := Prod.fst) h)
  exact congrArg Prod.snd (List.inj_on_of_nodup_map hnodup hmem h rfl)

/-- Reads see the word that was stored, unless they are overridden. -/
lemma seen_setAll_of_mem {c : Contents} {cells : List (ℕ × ℕ)} {address word : ℕ}
    (hnodup : (cells.map Prod.fst).Nodup) (h : (address, word) ∈ cells)
    (hforced : c.forced address = none) : (c.setAll cells).seen address = word := by
  rw [seen, forced_setAll, hforced, Option.getD_none, stored_setAll_of_mem hnodup h]

end Contents

namespace Simulator

/-- The contents of a simulator. -/
def contents (s : Simulator) : Contents := ⟨s.peek, fun address => s.overrides[address]?⟩

lemma contents_forced {s : Simulator} (h : ∀ address : ℕ, s.overrides[address]? = none) :
    s.contents.forced = fun _ => none :=
  funext h

@[simp] lemma contents_counted (s : Simulator) (kind : CallKind) :
    (s.counted kind).contents = s.contents := rfl

@[simp] lemma contents_preload (s : Simulator) (address value : ℕ) :
    (s.preload address value).contents = s.contents.set address value := by
  have hpeek : (s.preload address value).peek = Function.update s.peek address value := by
    funext a
    rw [Function.update_apply]
    simp only [preload, peek, Std.HashMap.getD_insert, beq_iff_eq, eq_comm (a := a)]
  simp only [contents, Contents.set, hpeek]
  rfl

@[simp] lemma contents_put (s : Simulator) (address width value : ℕ) :
    (s.put address width value).contents = s.contents.set address (value &&& wordMask width) :=
  contents_preload s address _

lemma contents_overrideRead (s : Simulator) (address value : ℕ) :
    (s.overrideRead address value).contents =
      { s.contents with forced := Function.update s.contents.forced address (some value) } := by
  have hforced : (fun a : ℕ => (s.overrideRead address value).overrides[a]?) =
      Function.update s.contents.forced address (some value) := by
    funext a
    rw [Function.update_apply]
    simp only [overrideRead, contents, Std.HashMap.getElem?_insert, beq_iff_eq, eq_comm (a := a)]
  rw [contents, hforced]
  rfl

/-- A new simulator holds nothing but zeros, and all of them are seen. -/
lemma contents_new (blockAccess : Bool) :
    (new.setBlockAccess blockAccess).contents = ⟨fun _ => 0, fun _ => none⟩ := by
  have hstored : (new.setBlockAccess blockAccess).peek = fun _ => 0 :=
    funext fun address => Std.HashMap.getD_empty
  have hforced : (fun address : ℕ => (new.setBlockAccess blockAccess).overrides[address]?) =
      fun _ => none :=
    funext fun address => Std.HashMap.getElem?_empty
  rw [contents, hstored, hforced]

lemma contents_foldl_put (s : Simulator) (cells : List (ℕ × ℕ)) (width : ℕ) :
    (cells.foldl (fun s p => s.put p.1 width p.2) s).contents =
      s.contents.setAll (cells.map fun p => (p.1, p.2 &&& wordMask width)) := by
  induction cells generalizing s with
  | nil => rfl
  | cons p rest ih => rw [List.foldl_cons, ih, contents_put, List.map_cons, Contents.setAll_cons]

end Simulator

/-! ## Operations -/

namespace Blocking

variable {σ α β : Type}

instance : LawfulMonad (Blocking σ) :=
  LawfulMonad.mk' _
    (fun x => by
      funext bus w
      change Blocking.bind x _ bus w = x bus w
      unfold Blocking.bind
      rcases x bus w with ⟨_ | a, w'⟩ <;> rfl)
    (fun _ _ => rfl)
    (fun x f g => by
      funext bus w
      change Blocking.bind (Blocking.bind x f) g bus w =
        Blocking.bind x (fun a => Blocking.bind (f a) g) bus w
      unfold Blocking.bind
      rcases x bus w with ⟨_ | a, w'⟩ <;> rfl)

lemma run_bind (bus : Bus σ) (x : Blocking σ α) (f : α → Blocking σ β) (w : World σ) :
    (x >>= f).run bus w = match x.run bus w with
      | (.ok a, w') => (f a).run bus w'
      | (.error e, w') => (.error e, w') := rfl

/-- What succeeded is followed by the rest. -/
lemma run_bind_of_ok {bus : Bus σ} {x : Blocking σ α} {w w' : World σ} {a : α}
    (h : x.run bus w = (.ok a, w')) (f : α → Blocking σ β) :
    (x >>= f).run bus w = (f a).run bus w' := by
  rw [run_bind, h]

lemma run_attempt (bus : Bus σ) (x : Blocking σ α) (w : World σ) :
    (Port.attempt x : Blocking σ _).run bus w = (.ok (x.run bus w).1, (x.run bus w).2) := rfl

lemma run_askThen (bus : Bus σ) (q : Request) (f : q.Reply → Blocking σ β) (w : World σ) :
    (Port.ask q >>= f).run bus w = (f (q.perform bus w).1).run bus (q.perform bus w).2 := rfl

lemma run_attemptThen (bus : Bus σ) (x : Blocking σ α) (f : Except Fault α → Blocking σ β)
    (w : World σ) :
    (Port.attempt x >>= f).run bus w = (f (x.run bus w).1).run bus (x.run bus w).2 := rfl

/-- On every simulator of contents `c`, the operation succeeds with `a` and leaves contents `c'`. -/
def Yields (x : Blocking Simulator α) (c : Contents) (a : α) (c' : Contents) : Prop :=
  ∀ w : World Simulator, w.bus.contents = c →
    ∃ w', x.run Simulator.toBus w = (.ok a, w') ∧ w'.bus.contents = c'

variable {x : Blocking Simulator α} {f : α → Blocking Simulator β} {c c' c'' : Contents} {a : α}
  {b : β}

lemma Yields.pure (a : α) (c : Contents) : Yields (Pure.pure a) c a c :=
  fun w hw => ⟨w, rfl, hw⟩

lemma Yields.bind (hx : Yields x c a c') (hf : Yields (f a) c' b c'') :
    Yields (x >>= f) c b c'' := by
  intro w hw
  obtain ⟨w₁, hrun, hw₁⟩ := hx w hw
  obtain ⟨w₂, hrun₂, hw₂⟩ := hf w₁ hw₁
  exact ⟨w₂, (run_bind_of_ok hrun f).trans hrun₂, hw₂⟩

/-- A check that passes changes nothing. -/
lemma Yields.decide {outcome : Except Fault α} (h : outcome = .ok a) (c : Contents) :
    Yields (Port.decide outcome) c a c := by
  subst h
  exact .pure a c

/-- An operation that succeeds after a check had the check pass. -/
lemma run_decideThen_eq_ok {σ : Type} {outcome : Except Fault α} {f : α → Blocking σ β}
    {bus : Bus σ} {w w' : World σ}
    (h : Blocking.run (Port.decide outcome >>= f) bus w = (.ok b, w')) :
    ∃ a, outcome = .ok a ∧ Blocking.run (f a) bus w = (.ok b, w') := by
  cases outcome with
  | error e => cases congrArg Prod.fst h
  | ok a => exact ⟨a, rfl, h⟩

/-- What follows a question about block accesses has to go well for either answer. -/
lemma Yields.ofBlockReads {f : Bool → Blocking Simulator β}
    (h : ∀ offered, Yields (f offered) c b c') :
    Yields (Port.blockReads >>= f) c b c' :=
  fun w hw => h w.bus.blockAccess w hw

lemma Yields.ofBlockWrites {f : Bool → Blocking Simulator β}
    (h : ∀ offered, Yields (f offered) c b c') : Yields (Port.blockWrites >>= f) c b c' :=
  fun w hw => h w.bus.blockAccess w hw

/-- Operations that change nothing give their values one by one. -/
lemma Yields.mapM {ι : Type} {f : ι → Blocking Simulator α} {g : ι → α} {l : List ι}
    (h : ∀ i ∈ l, Yields (f i) c (g i) c) : Yields (l.mapM f) c (l.map g) c := by
  induction l with
  | nil => exact .pure _ _
  | cons i rest ih =>
    rw [List.mapM_cons, List.map_cons]
    refine Yields.bind (h i List.mem_cons_self) ?_
    refine Yields.bind (ih fun j hj => h j (List.mem_cons_of_mem _ hj)) ?_
    exact .pure _ _

/-- Operations of which each stores some words store all of them one after the other. -/
lemma Yields.forM {ι : Type} {f : ι → Blocking Simulator PUnit} {cells : ι → List (ℕ × ℕ)}
    {l : List ι} (h : ∀ i ∈ l, ∀ c, Yields (f i) c () (c.setAll (cells i))) (c : Contents) :
    Yields (l.forM f) c () (c.setAll (l.flatMap cells)) := by
  induction l generalizing c with
  | nil => exact .pure _ _
  | cons i rest ih =>
    rw [List.flatMap_cons, Contents.setAll_append]
    exact Yields.bind (h i List.mem_cons_self c)
      (ih (fun j hj => h j (List.mem_cons_of_mem _ hj)) _)

/-! ## Physical accesses -/

lemma yields_read (c : Contents) (address width accessWidth : ℕ) :
    Yields (Port.call (.read address width accessWidth)) c (c.seen address &&& wordMask width)
      c := by
  rintro w rfl
  exact ⟨_, rfl, rfl⟩

lemma yields_readBlock (c : Contents) (address width accessWidth length : ℕ) :
    Yields (Port.call (.readBlock address width accessWidth length)) c
      ((List.range length).map fun i =>
        c.seen (address + i * entryBytes width) &&& wordMask width) c := by
  rintro w rfl
  exact ⟨_, rfl, rfl⟩

lemma yields_write (c : Contents) (address width accessWidth data : ℕ) :
    Yields (Port.call (.write address width accessWidth data)) c ()
      (c.setAll [(address, data &&& wordMask width)]) := by
  rintro w rfl
  exact ⟨_, rfl, Simulator.contents_put _ _ _ _⟩

lemma yields_writeBlock (c : Contents) (address width accessWidth : ℕ) (data : List ℕ) :
    Yields (Port.call (.writeBlock address width accessWidth data)) c ()
      (c.setAll (data.zipIdx.map fun p =>
        (address + p.2 * entryBytes width, p.1 &&& wordMask width))) := by
  rintro w rfl
  refine ⟨_, rfl, ?_⟩
  have hfold := Simulator.contents_foldl_put (w.bus.counted .writeBlock)
    (data.zipIdx.map fun p => (address + p.2 * entryBytes width, p.1)) width
  rw [List.foldl_map, List.map_map] at hfold
  exact hfold

end Blocking

end RegisterMap
