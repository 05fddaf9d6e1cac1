import Mathlib
import RegisterMap.Session.Lock

/-!
# Locks and the guards that hold them

A lock that was taken is held by a guard until the guard is dropped.  A `Custody` is a forest of
locks next to the guards that are out, and it changes by events: a lock is created, an attempt is
made to take one, a guard is dropped.

The marks and counters of the forest tell of the guards and of nothing else (`Custody.Sound`): a
lock is marked exactly when a guard holds it, and it counts the guards that hold its children.
Every event keeps this (`Sound.step`), although an attempt changes a counter and a mark before it
knows whether it succeeds, because a refused attempt leaves no trace (`acquire_eq`).  It follows
that the look at the counter is a look at all children, and that no counter is lowered below zero
(`Custody.locks_exclude`).
-/

namespace RegisterMap

namespace LockForest

variable {forest : LockForest} {id j p : LockId} {f : LockState → LockState} {active : Bool}

/-! ## What a change leaves -/

lemma ext_states {forest forest' : LockForest}
    (h : ∀ j : ℕ, forest.states[j]? = forest'.states[j]?) : forest = forest' :=
  congrArg LockForest.mk (Array.ext_getElem? h)

lemma states_update : (forest.update id f).states[j]? =
    if id = j then forest.states[j]?.map f else forest.states[j]? :=
  Array.getElem?_modify

@[simp] lemma size_update : (forest.update id f).states.size = forest.states.size :=
  Array.size_modify

@[simp] lemma size_announce : (forest.announce id).states.size = forest.states.size := by
  unfold announce
  split <;> simp

/-- A part of the state that the change leaves alone. -/
lemma map_update {α : Type} {part : LockState → α} (hf : ∀ s, part (f s) = part s) :
    (forest.update id f).states[j]?.map part = forest.states[j]?.map part := by
  rw [states_update]
  split
  · cases forest.states[j]? with
    | none => rfl
    | some s => exact congrArg some (hf s)
  · rfl

lemma parent?_update (hf : ∀ s, (f s).parent = s.parent) :
    (forest.update id f).parent? j = forest.parent? j := by
  have hmap : (forest.update id f).states[j]?.map LockState.parent =
      forest.states[j]?.map LockState.parent := map_update hf
  have hparent := congrArg (Option.bind · fun parent => parent) hmap
  simpa only [parent?, Option.bind_map, Function.comp_def] using hparent

lemma isActive_update (hf : ∀ s, (f s).active = s.active) :
    (forest.update id f).isActive j = forest.isActive j :=
  congrArg (Option.getD · false) (map_update hf)

lemma nested_update (hf : ∀ s, (f s).nested = s.nested) :
    (forest.update id f).nested j = forest.nested j :=
  congrArg (Option.getD · 0) (map_update hf)

@[simp] lemma parent?_setActive : (forest.setActive id active).parent? j = forest.parent? j :=
  parent?_update fun _ => rfl

@[simp] lemma nested_setActive : (forest.setActive id active).nested j = forest.nested j :=
  nested_update fun _ => rfl

@[simp] lemma parent?_announce : (forest.announce id).parent? j = forest.parent? j := by
  unfold announce
  split
  · exact parent?_update fun _ => rfl
  · rfl

@[simp] lemma isActive_announce : (forest.announce id).isActive j = forest.isActive j := by
  unfold announce
  split
  · exact isActive_update fun _ => rfl
  · rfl

@[simp] lemma parent?_withdraw : (forest.withdraw id).parent? j = forest.parent? j := by
  unfold withdraw
  split
  · exact parent?_update fun _ => rfl
  · rfl

@[simp] lemma isActive_withdraw : (forest.withdraw id).isActive j = forest.isActive j := by
  unfold withdraw
  split
  · exact isActive_update fun _ => rfl
  · rfl

lemma lt_size_of_parent? (h : forest.parent? id = some p) : id < forest.states.size := by
  by_contra hge
  unfold parent? at h
  rw [Array.getElem?_eq_none (Nat.le_of_not_lt hge)] at h
  cases h

lemma lt_size_of_isActive (h : forest.isActive id = true) : id < forest.states.size := by
  by_contra hge
  unfold isActive at h
  rw [Array.getElem?_eq_none (Nat.le_of_not_lt hge)] at h
  cases h

lemma isActive_setActive_self (h : id < forest.states.size) :
    (forest.setActive id active).isActive id = active := by
  unfold isActive setActive
  rw [states_update, if_pos rfl, Array.getElem?_eq_getElem h]
  rfl

lemma isActive_setActive_of_ne (h : id ≠ j) :
    (forest.setActive id active).isActive j = forest.isActive j := by
  unfold isActive setActive
  rw [states_update, if_neg h]

lemma nested_announce_of_ne (h : forest.parent? id ≠ some j) :
    (forest.announce id).nested j = forest.nested j := by
  unfold announce
  split
  · next p hp =>
    have hne : p ≠ j := fun heq => h (heq ▸ hp)
    unfold nested
    rw [states_update, if_neg hne]
  · rfl

lemma nested_announce_of_parent (h : forest.parent? id = some p) (hp : p < forest.states.size) :
    (forest.announce id).nested p = forest.nested p + 1 := by
  unfold announce
  rw [h]
  unfold nested
  dsimp only
  rw [states_update, if_pos rfl, Array.getElem?_eq_getElem hp]
  rfl

lemma nested_withdraw_of_ne (h : forest.parent? id ≠ some j) :
    (forest.withdraw id).nested j = forest.nested j := by
  unfold withdraw
  split
  · next p hp =>
    have hne : p ≠ j := fun heq => h (heq ▸ hp)
    unfold nested
    rw [states_update, if_neg hne]
  · rfl

lemma nested_withdraw_of_parent (h : forest.parent? id = some p) :
    (forest.withdraw id).nested p = forest.nested p - 1 := by
  unfold withdraw
  rw [h]
  unfold nested
  dsimp only
  rw [states_update, if_pos rfl]
  cases forest.states[p]? <;> rfl

/-! ## Attempts -/

/-- No session is open on the lock, on its parent or, as far as the counter tells, on a child; and
the lock is not its own parent. -/
def Free (forest : LockForest) (id : LockId) : Prop :=
  forest.isActive id = false ∧ forest.parentActive id = false ∧ forest.nested id = 0 ∧
    forest.parent? id ≠ some id

instance : Decidable (forest.Free id) := inferInstanceAs (Decidable (_ ∧ _ ∧ _ ∧ _))

/-- What was announced can be taken back. -/
lemma withdraw_announce : (forest.announce id).withdraw id = forest := by
  unfold withdraw
  rw [parent?_announce]
  unfold announce
  cases forest.parent? id with
  | none => rfl
  | some p =>
    refine ext_states fun j => ?_
    dsimp only
    rw [states_update, states_update]
    split
    · cases forest.states[j]? <;> rfl
    · rfl

/-- A mark can be set back to what it was. -/
lemma setActive_setActive (h : forest.isActive id = false) :
    (forest.setActive id true).setActive id false = forest := by
  refine ext_states fun j => ?_
  unfold setActive
  rw [states_update, states_update]
  split
  · next heq =>
    subst heq
    unfold isActive at h
    cases hs : forest.states[id]? with
    | none => rfl
    | some s =>
      rw [hs] at h
      change s.active = false at h
      change some { s with active := false } = some s
      rw [← h]
  · rfl

/-- An attempt to take a lock that is free succeeds, and any other one changes nothing. -/
theorem acquire_eq (forest : LockForest) (id : LockId) : forest.acquire id =
    if forest.Free id then (true, (forest.announce id).setActive id true) else (false, forest) := by
  have hparent : (forest.announce id).parentActive id = forest.parentActive id := by
    unfold parentActive
    rw [parent?_announce]
    cases forest.parent? id with
    | none => rfl
    | some p => exact isActive_announce
  unfold acquire
  dsimp only
  rw [hparent, isActive_announce, withdraw_announce, nested_setActive]
  by_cases hopen : (forest.parentActive id || forest.isActive id) = true
  · have hnot : ¬ forest.Free id := by
      rintro ⟨hid, hp, -⟩
      rw [hid, hp] at hopen
      cases hopen
    rw [if_pos hopen, if_neg hnot]
  · rw [if_neg hopen]
    rw [Bool.or_eq_true, not_or, Bool.not_eq_true, Bool.not_eq_true] at hopen
    obtain ⟨hp, hid⟩ := hopen
    have hback : ((forest.announce id).setActive id true).setActive id false = forest.announce id :=
      setActive_setActive (isActive_announce.trans hid)
    by_cases hself : forest.parent? id = some id
    · -- the announcement itself is counted as an open child
      have hcount : 0 < (forest.announce id).nested id := by
        rw [nested_announce_of_parent hself (lt_size_of_parent? hself)]
        exact Nat.succ_pos _
      rw [if_pos hcount, if_neg fun hfree => hfree.2.2.2 hself, hback, withdraw_announce]
    · rw [nested_announce_of_ne hself]
      by_cases hcount : 0 < forest.nested id
      · rw [if_pos hcount, if_neg fun hfree => hcount.ne' hfree.2.2.1, hback, withdraw_announce]
      · rw [if_neg hcount, if_pos ⟨hid, hp, Nat.eq_zero_of_not_pos hcount, hself⟩]

lemma acquire_eq_true : (forest.acquire id).1 = true ↔ forest.Free id := by
  rw [acquire_eq]
  split <;> simp_all

lemma acquire_of_free (h : forest.Free id) :
    forest.acquire id = (true, (forest.announce id).setActive id true) := by
  rw [acquire_eq, if_pos h]

lemma acquire_of_not_free (h : ¬ forest.Free id) : forest.acquire id = (false, forest) := by
  rw [acquire_eq, if_neg h]

/-- A lock that is taken and given back leaves all locks as they were. -/
theorem release_of_acquire {forest' : LockForest} (h : forest.acquire id = (true, forest')) :
    forest'.release id = forest := by
  have hfree : forest.Free id := acquire_eq_true.1 (by rw [h])
  rw [acquire_of_free hfree] at h
  obtain ⟨-, rfl⟩ := Prod.mk.inj h
  unfold release
  rw [setActive_setActive (isActive_announce.trans hfree.1), withdraw_announce]

/-! ## New locks -/

section Create

variable {parent : Option LockId}

lemma states_create : (forest.create parent).1.states[j]? =
    if j = forest.states.size then some ⟨false, 0, parent⟩ else forest.states[j]? :=
  Array.getElem?_push

lemma parent?_create : (forest.create parent).1.parent? j =
    if j = forest.states.size then parent else forest.parent? j := by
  unfold parent?
  rw [states_create]
  split <;> rfl

/-- A new lock is open for nobody. -/
lemma isActive_create : (forest.create parent).1.isActive j = forest.isActive j := by
  unfold isActive
  rw [states_create]
  split
  · next hnew => rw [hnew, Array.getElem?_eq_none le_rfl]; rfl
  · rfl

lemma nested_create : (forest.create parent).1.nested j = forest.nested j := by
  unfold nested
  rw [states_create]
  split
  · next hnew => rw [hnew, Array.getElem?_eq_none le_rfl]; rfl
  · rfl

lemma size_create : (forest.create parent).1.states.size = forest.states.size + 1 :=
  Array.size_push ..

lemma states_createChildren {lock : LockId} {n j : ℕ} :
    (forest.createChildren lock n).states[j]? =
      if forest.states.size ≤ j ∧ j < forest.states.size + n then some ⟨false, 0, some lock⟩
      else forest.states[j]? := by
  induction n generalizing forest with
  | zero => rw [createChildren, if_neg (by omega)]
  | succ n ih =>
    rw [createChildren, ih, states_create, size_create]
    by_cases hj : j = forest.states.size
    · rw [if_neg (by omega), if_pos hj, if_pos (by omega)]
    · rw [if_neg hj]
      by_cases hin : forest.states.size ≤ j ∧ j < forest.states.size + (n + 1)
      · rw [if_pos hin, if_pos (by omega)]
      · rw [if_neg hin, if_neg (by omega)]

end Create

end LockForest

/-! ## Guards -/

/-- A forest of locks and the guards that are out.  A guard is known by the lock that it holds. -/
structure Custody where
  forest : LockForest
  guards : List LockId

/-- What can happen to locks. -/
inductive LockEvent where
  /-- A lock without a parent is created. -/
  | root
  /-- A lock is created below another one. -/
  | child (parent : LockId)
  /-- An attempt is made to take a lock. -/
  | acquire (lock : LockId)
  /-- A guard of a lock is dropped. -/
  | drop (lock : LockId)

namespace Custody

open LockForest

def empty : Custody := ⟨.empty, []⟩

/-- What an event leaves.  A lock that does not exist has no children and no guards, and only a
guard that is out can be dropped. -/
def step (c : Custody) : LockEvent → Custody
  | .root => { c with forest := (c.forest.create none).1 }
  | .child parent =>
    if parent < c.forest.states.size then { c with forest := (c.forest.create (some parent)).1 }
    else c
  | .acquire lock =>
    if lock < c.forest.states.size then
      match c.forest.acquire lock with
      | (true, forest) => ⟨forest, lock :: c.guards⟩
      | (false, forest) => { c with forest }
    else c
  | .drop lock =>
    if lock ∈ c.guards then ⟨c.forest.release lock, c.guards.erase lock⟩ else c

/-- What a sequence of events leaves, from the time when there are no locks. -/
def run (events : List LockEvent) : Custody := events.foldl step empty

/-- The marks and the counters tell of the guards, and no lock has a guard together with its
parent. -/
structure Sound (c : Custody) : Prop where
  /-- Parents are older than their children. -/
  below : ∀ lock parent, c.forest.parent? lock = some parent → parent < lock
  single : c.guards.Nodup
  active : ∀ lock, c.forest.isActive lock = true ↔ lock ∈ c.guards
  nested : ∀ lock, c.forest.nested lock =
    c.guards.countP fun guard => c.forest.parent? guard = some lock
  apart : ∀ lock ∈ c.guards, ∀ parent, c.forest.parent? lock = some parent → parent ∉ c.guards

variable {c : Custody} {lock : LockId}

namespace Sound

lemma empty : Sound empty where
  below := nofun
  single := List.nodup_nil
  active _ := ⟨nofun, nofun⟩
  nested _ := rfl
  apart := nofun

variable (h : c.Sound)
include h

lemma lt_size (hlock : lock ∈ c.guards) : lock < c.forest.states.size :=
  lt_size_of_isActive ((h.active lock).2 hlock)

lemma not_active : c.forest.isActive lock = false ↔ lock ∉ c.guards := by
  rw [← h.active, Bool.not_eq_true]

/-- The counter of a lock says whether a child has a guard. -/
lemma nested_eq_zero : c.forest.nested lock = 0 ↔
    ∀ child, c.forest.parent? child = some lock → c.forest.isActive child = false := by
  rw [h.nested, List.countP_eq_zero]
  constructor
  · intro hnone child hchild
    rw [h.not_active]
    exact fun hguard => hnone child hguard (decide_eq_true hchild)
  · intro hclosed guard hguard hparent
    exact h.not_active.1 (hclosed guard (of_decide_eq_true hparent)) hguard

/-- A lock is free when no session is open on it, on its parent and on its children. -/
theorem free_iff : c.forest.Free lock ↔ c.forest.isActive lock = false ∧
    (∀ parent, c.forest.parent? lock = some parent → c.forest.isActive parent = false) ∧
    ∀ child, c.forest.parent? child = some lock → c.forest.isActive child = false := by
  have hself : c.forest.parent? lock ≠ some lock := fun heq => (h.below lock lock heq).false
  have hparent : c.forest.parentActive lock = false ↔
      ∀ parent, c.forest.parent? lock = some parent → c.forest.isActive parent = false := by
    unfold parentActive
    cases c.forest.parent? lock <;> simp
  unfold Free
  rw [hparent, h.nested_eq_zero]
  simp only [hself, ne_eq, not_false_eq_true, and_true]

/-! ## Steps -/

lemma create {parent : Option LockId}
    (hparent : ∀ p, parent = some p → p < c.forest.states.size) :
    Sound { c with forest := (c.forest.create parent).1 } where
  below lock p hp := by
    dsimp only at hp
    rw [parent?_create] at hp
    split at hp
    · next hnew => exact hnew ▸ hparent p hp
    · exact h.below lock p hp
  single := h.single
  active lock := by
    dsimp only
    rw [isActive_create]
    exact h.active lock
  nested lock := by
    dsimp only
    rw [nested_create, h.nested]
    refine List.countP_congr fun guard hguard => ?_
    rw [parent?_create, if_neg (h.lt_size hguard).ne]
  apart lock hlock p hp := by
    dsimp only at hp
    rw [parent?_create, if_neg (h.lt_size hlock).ne] at hp
    exact h.apart lock hlock p hp

/-- A lock that is free gets a guard. -/
lemma taken (hlock : lock < c.forest.states.size) (hfree : c.forest.Free lock) :
    Sound ⟨(c.forest.announce lock).setActive lock true, lock :: c.guards⟩ where
  below j p hp := by
    simp only [parent?_setActive, parent?_announce] at hp
    exact h.below j p hp
  single := List.nodup_cons.2 ⟨h.not_active.1 hfree.1, h.single⟩
  active j := by
    dsimp only
    by_cases hj : lock = j
    · subst hj
      rw [isActive_setActive_self (by rwa [size_announce])]
      simp
    · rw [isActive_setActive_of_ne hj, isActive_announce, h.active, List.mem_cons]
      exact ⟨Or.inr, fun hmem => hmem.resolve_left fun heq => hj heq.symm⟩
  nested j := by
    simp only [parent?_setActive, parent?_announce, nested_setActive]
    rw [List.countP_cons, ← h.nested]
    by_cases hj : c.forest.parent? lock = some j
    · have hless : j < c.forest.states.size := (h.below lock j hj).trans hlock
      rw [nested_announce_of_parent hj hless, if_pos (decide_eq_true hj)]
    · rw [nested_announce_of_ne hj, if_neg (by simpa using hj), Nat.add_zero]
  apart j hj p hp := by
    simp only [parent?_setActive, parent?_announce] at hp
    obtain ⟨-, hparent, hchildren⟩ := h.free_iff.1 hfree
    rw [List.mem_cons, not_or]
    rcases List.mem_cons.1 hj with rfl | hguard
    · exact ⟨(h.below j p hp).ne, h.not_active.1 (hparent p hp)⟩
    · refine ⟨fun heq => ?_, h.apart j hguard p hp⟩
      exact h.not_active.1 (hchildren j (heq ▸ hp)) hguard

/-- A guard is dropped. -/
lemma dropped (hlock : lock ∈ c.guards) : Sound ⟨c.forest.release lock, c.guards.erase lock⟩ where
  below j p hp := by
    simp only [release, parent?_withdraw, parent?_setActive] at hp
    exact h.below j p hp
  single := h.single.erase lock
  active j := by
    simp only [release, isActive_withdraw]
    by_cases hj : lock = j
    · subst hj
      rw [isActive_setActive_self (h.lt_size hlock)]
      exact ⟨nofun, fun hmem => absurd hmem h.single.not_mem_erase⟩
    · rw [isActive_setActive_of_ne hj, h.active, List.mem_erase_of_ne (Ne.symm hj)]
  nested j := by
    have hcount := (List.perm_cons_erase hlock).countP_eq fun guard =>
      decide (c.forest.parent? guard = some j)
    rw [← h.nested, List.countP_cons] at hcount
    simp only [release, parent?_withdraw, parent?_setActive]
    by_cases hj : c.forest.parent? lock = some j
    · rw [if_pos (decide_eq_true hj)] at hcount
      rw [nested_withdraw_of_parent (by rwa [parent?_setActive]), nested_setActive, hcount]
      rfl
    · rw [if_neg (by simpa using hj)] at hcount
      rw [nested_withdraw_of_ne (by rwa [parent?_setActive]), nested_setActive, hcount]
      rfl
  apart j hj p hp := by
    simp only [release, parent?_withdraw, parent?_setActive] at hp
    exact fun hmem => h.apart j (List.mem_of_mem_erase hj) p hp (List.mem_of_mem_erase hmem)

theorem step (event : LockEvent) : (c.step event).Sound := by
  cases event with
  | root => exact h.create fun p hp => by cases hp
  | child parent =>
    unfold Custody.step
    dsimp only
    split
    · next hparent => exact h.create fun p hp => Option.some.inj hp ▸ hparent
    · exact h
  | acquire lock =>
    unfold Custody.step
    dsimp only
    split
    · next hlock =>
      by_cases hfree : c.forest.Free lock
      · rw [acquire_of_free hfree]
        exact h.taken hlock hfree
      · rw [acquire_of_not_free hfree]
        exact h
    · exact h
  | drop lock =>
    unfold Custody.step
    dsimp only
    split
    · next hlock => exact h.dropped hlock
    · exact h

end Sound

theorem sound_run (events : List LockEvent) : (run events).Sound := by
  have hkeeps : ∀ c : Custody, c.Sound → (events.foldl Custody.step c).Sound := by
    induction events with
    | nil => exact fun _ h => h
    | cons event rest ih => exact fun c h => ih (c.step event) (h.step event)
  exact hkeeps empty .empty

/-- Whatever locks were created, taken and given back, in any order: a lock is marked exactly when
it has one guard, and it never has more; its counter is the number of guards of its children; no
lock is marked together with its parent; and the parent of a lock that has a guard counts it, so
that the counter can be lowered when the guard is dropped.  An attempt succeeds exactly when no
session is open on the lock, its parent and its children, and if it fails, it leaves all locks as
they were. -/
theorem locks_exclude (events : List LockEvent) :
    let c := run events
    (∀ lock,
      (c.forest.isActive lock = true ↔ c.guards.count lock = 1) ∧
      c.guards.count lock ≤ 1 ∧
      c.forest.nested lock = c.guards.countP (fun guard => c.forest.parent? guard = some lock) ∧
      ∀ parent, c.forest.parent? lock = some parent →
        ¬ (c.forest.isActive lock = true ∧ c.forest.isActive parent = true) ∧
        (lock ∈ c.guards → 0 < c.forest.nested parent)) ∧
    ∀ lock < c.forest.states.size,
      ((c.forest.acquire lock).1 = true ↔
        c.forest.isActive lock = false ∧
        (∀ parent, c.forest.parent? lock = some parent → c.forest.isActive parent = false) ∧
        ∀ child, c.forest.parent? child = some lock → c.forest.isActive child = false) ∧
      ((c.forest.acquire lock).1 = false → (c.forest.acquire lock).2 = c.forest) := by
  intro c
  have h : c.Sound := sound_run events
  refine ⟨fun lock => ⟨?_, List.nodup_iff_count_le_one.1 h.single lock, h.nested lock,
    fun parent hparent => ⟨?_, fun hguard => ?_⟩⟩, fun lock _ => ⟨?_, fun hrefused => ?_⟩⟩
  · rw [h.active]
    exact ⟨List.count_eq_one_of_mem h.single, fun hone => List.count_pos_iff.1 (hone ▸ Nat.one_pos)⟩
  · rintro ⟨hlock, hopen⟩
    exact h.apart lock ((h.active lock).1 hlock) parent hparent ((h.active parent).1 hopen)
  · rw [h.nested, List.countP_pos_iff]
    exact ⟨lock, hguard, decide_eq_true hparent⟩
  · rw [acquire_eq_true, h.free_iff]
  · have hnot : ¬ c.forest.Free lock := fun hfree => by
      rw [acquire_of_free hfree] at hrefused
      cases hrefused
    rw [acquire_of_not_free hnot]

end Custody

end RegisterMap
