import Mathlib
import RegisterMap.Proofs.Bus.Plans
import RegisterMap.Proofs.Device.ElementLocks
import RegisterMap.Proofs.Device.Flavours
import RegisterMap.Proofs.Index.RowMajor

/-!
# Arrays are as long as their dimensions

An element is looked up at the position of its index, and nothing checks that something stands
there.  Something does, because everything that is looked up in has one element for each position:
arrays of nodes however they are made (`NodeArray.size_ofFn`, `NodeArray.size_tryOfFn`), the locks of
the elements of a register array, and the copy in a session, whether it was read from any bus or is
blank, and after any edits (`SessionCopy.length_eq`).  A lookup therefore fails exactly as the index
does (`row_major_positions`).
-/

namespace RegisterMap

namespace Index

/-- Looking up an index fails as the index does, and finds what stands at its position otherwise:
something always stands there. -/
def LooksUp {α : Type} (dimensions : List ℕ) (elements : List α)
    (lookup : List ℕ → Except Fault α) : Prop :=
  ∀ index, match flatten index dimensions with
    | .ok flat => ∃ x, elements[flat]? = some x ∧ lookup index = .ok x
    | .error e => lookup index = .error e

variable {α : Type} {dimensions index : List ℕ} {elements : List α}
  {lookup : List ℕ → Except Fault α} {flat : ℕ}

/-- It is enough that there is an element for each position. -/
lemma looksUp_of_length (hlength : elements.length = count dimensions)
    (herror : ∀ index e, flatten index dimensions = .error e → lookup index = .error e)
    (hok : ∀ index flat x, flatten index dimensions = .ok flat → elements[flat]? = some x →
      lookup index = .ok x) : LooksUp dimensions elements lookup := by
  intro index
  cases hflat : flatten index dimensions with
  | error e => exact herror index e hflat
  | ok flat =>
    have hless : flat < elements.length := hlength ▸ flatten_lt hflat
    have hx := List.getElem?_eq_getElem hless
    exact ⟨elements[flat], hx, hok index flat _ hflat hx⟩

lemma LooksUp.eq_ok (h : LooksUp dimensions elements lookup)
    (hflat : flatten index dimensions = .ok flat) :
    ∃ x, elements[flat]? = some x ∧ lookup index = .ok x := by
  have hindex := h index
  rw [hflat] at hindex
  exact hindex

end Index

/-! ## Arrays of nodes -/

namespace NodeArray

variable {α ε : Type} {a : NodeArray α} {dimensions : List ℕ} {elements : List α}

lemma looksUp (h : a.size = Index.count a.dimensions) :
    Index.LooksUp a.dimensions a.elements a.get :=
  Index.looksUp_of_length h (fun index e hflat => by rw [get, hflat]; rfl)
    fun index flat x hflat hx => by rw [get, bind_of_eq_ok hflat, hx]; rfl

lemma ofList_eq_ok (h : ofList dimensions elements = .ok a) :
    a.dimensions = dimensions ∧ a.elements = elements ∧ a.size = Index.count a.dimensions := by
  unfold ofList at h
  split at h
  · next hlength =>
    cases h
    exact ⟨rfl, rfl, hlength⟩
  · cases h

lemma size_ofFn (dimensions : List ℕ) (f : ℕ → List ℕ → α) :
    (ofFn dimensions f).size = Index.count dimensions := by
  simp [size, ofFn]

/-- What stands at a position was made from the position and its index. -/
lemma get_ofFn (dimensions : List ℕ) (f : ℕ → List ℕ → α) (index : List ℕ) :
    (ofFn dimensions f).get index =
      (Index.flatten index dimensions).map fun flat => f flat index := by
  have hindex := looksUp (size_ofFn dimensions f) index
  cases hflat : Index.flatten index dimensions with
  | error e =>
    simp only [ofFn, hflat] at hindex
    exact hindex
  | ok flat =>
    obtain ⟨hless, hback⟩ := Index.flatten_eq_ok_iff.1 hflat
    simp only [ofFn, hflat, List.getElem?_map, List.getElem?_range hless, Option.map_some,
      Option.some.injEq, exists_eq_left'] at hindex
    rw [hback] at hindex
    exact hindex

lemma tryOfFn_eq_ok {f : ℕ → List ℕ → Except ε α} (h : tryOfFn dimensions f = .ok a) :
    a.dimensions = dimensions ∧ List.Forall₂
      (fun flat x => f flat (Index.unflatten flat dimensions) = .ok x)
      (List.range (Index.count dimensions)) a.elements := by
  obtain ⟨elements, helements, rfl⟩ := map_eq_ok.1 h
  exact ⟨rfl, forall₂_of_mapM_eq_ok (fun _ _ hx => hx) helements⟩

/-- What stands at a position was made from the position and its index. -/
lemma getElem?_tryOfFn {f : ℕ → List ℕ → Except ε α} (h : tryOfFn dimensions f = .ok a) {flat : ℕ}
    {x : α} (hx : a.elements[flat]? = some x) : f flat (Index.unflatten flat dimensions) = .ok x := by
  obtain ⟨-, hmade⟩ := tryOfFn_eq_ok h
  obtain ⟨hless, rfl⟩ := List.getElem?_eq_some_iff.1 hx
  have hflat := hmade.get (by rwa [hmade.length_eq]) hless
  simpa using hflat

lemma size_tryOfFn {f : ℕ → List ℕ → Except ε α} (h : tryOfFn dimensions f = .ok a) :
    a.size = Index.count dimensions := by
  rw [size, ← (tryOfFn_eq_ok h).2.length_eq, List.length_range]

end NodeArray

/-! ## Arrays of registers -/

/-- The first copy of a session is blank or was read. -/
lemma SessionTarget.eq_blank_or_load {σ S : Type} {t : SessionTarget (Blocking σ) S} {bus : Bus σ}
    {w w' : World σ} {options : SessionOptions} {copy : S}
    (h : Blocking.run (t.snapshot options) bus w = (.ok copy, w')) :
    copy = t.blank ∨ Blocking.run t.load bus w = (.ok copy, w') := by
  unfold SessionTarget.snapshot at h
  obtain ⟨-, -, h⟩ := Blocking.run_decideThen_eq_ok h
  cases hreadable : t.readable with
  | ok _ =>
    rw [hreadable] at h
    cases hverify : options.verify with
    | false =>
      rw [hverify] at h
      exact .inr h
    | true =>
      rw [hverify] at h
      exact .inr h
  | error e =>
    rw [hreadable] at h
    cases hverify : options.verify with
    | false =>
      rw [hverify] at h
      cases h
      exact .inl rfl
    | true =>
      rw [hverify] at h
      cases h

namespace RegisterArray

variable {a : RegisterArray} {copy : List ℕ}

lemma size_eq (a : RegisterArray) : a.size = Index.count a.dimensions := rfl

/-- The copies of an array that a session works on: the one that it opens with, on any bus and in
either flavour, and those that edits make of it. -/
inductive SessionCopy (a : RegisterArray) : List ℕ → Prop
  | blocking {σ : Type} {bus : Bus σ} {w w' : World σ} {options : SessionOptions} {copy : List ℕ}
      (h : Blocking.run (a.target.snapshot options) bus w = (.ok copy, w')) : SessionCopy a copy
  | suspended {σ : Type} {bus : Bus σ} {w w' : World σ} {options : SessionOptions}
      {s : Handle (.array a)} (h : Suspended.run bus (a.openAsync options) w = (.ok s, w')) :
      SessionCopy a s.copy
  | set {copy edited index : List ℕ} {value : ℕ} (before : SessionCopy a copy)
      (h : a.setCopy index value copy = .ok (edited, ())) : SessionCopy a edited
  | writeFields {copy edited index : List ℕ} {args : FieldValues} (before : SessionCopy a copy)
      (h : a.writeCopyFields index args copy = .ok (edited, ())) : SessionCopy a edited

lemma length_physicalReadAll {σ : Type} {bus : Bus σ} {w w' : World σ}
    (haccess : 0 < a.layout.accessWidth)
    (h : Blocking.run a.physicalReadAll bus w = (.ok copy, w')) : copy.length = a.size := by
  obtain ⟨-, -, -, hlength⟩ := Transfer.completes_readValues w copy w' h
  have hpos : a.transfer.wordsPerEntry ≠ 0 := by
    unfold Transfer.wordsPerEntry
    split
    · next hwide => exact (Nat.div_pos hwide.le haccess).ne'
    · decide
  rwa [Transfer.readCount, if_neg hpos] at hlength

/-- A session opens with a value for each element. -/
lemma length_snapshot {σ : Type} {bus : Bus σ} {w w' : World σ} {options : SessionOptions}
    (haccess : 0 < a.layout.accessWidth)
    (h : Blocking.run (a.target.snapshot options) bus w = (.ok copy, w')) :
    copy.length = a.size := by
  rcases SessionTarget.eq_blank_or_load h with rfl | hload
  · exact List.length_replicate
  · exact length_physicalReadAll haccess hload

lemma setCopy_eq (index : List ℕ) (value : ℕ) (copy : List ℕ) : a.setCopy index value copy =
    Index.flatten index a.dimensions >>= fun flat =>
      (a.layout.checkValue value).map fun _ => (copy.set flat value, ()) := by
  unfold setCopy
  cases Index.flatten index a.dimensions <;> cases a.layout.checkValue value <;> rfl

lemma length_setCopy {index edited : List ℕ} {value : ℕ}
    (h : a.setCopy index value copy = .ok (edited, ())) : edited.length = copy.length := by
  obtain ⟨flat, -, h⟩ := bind_eq_ok.1 h
  obtain ⟨-, -, h⟩ := bind_eq_ok.1 h
  cases h
  exact List.length_set

lemma length_writeCopyFields {index edited : List ℕ} {args : FieldValues}
    (h : a.writeCopyFields index args copy = .ok (edited, ())) : edited.length = copy.length := by
  obtain ⟨flat, -, h⟩ := bind_eq_ok.1 h
  obtain ⟨base, -, h⟩ := bind_eq_ok.1 h
  obtain ⟨value, -, h⟩ := bind_eq_ok.1 h
  cases h
  exact List.length_set

/-- The copy in a session has a value for each element at all times. -/
theorem SessionCopy.length_eq (haccess : 0 < a.layout.accessWidth) (h : a.SessionCopy copy) :
    copy.length = a.size := by
  induction h with
  | blocking h => exact length_snapshot haccess h
  | suspended h =>
    obtain ⟨_, hsnapshot⟩ := Copied.snapshot_of_openAsync (o := .array a) h
    exact length_snapshot haccess hsnapshot
  | set _ h ih => rw [length_setCopy h, ih]
  | writeFields _ h ih => rw [length_writeCopyFields h, ih]

/-- Every index of a copy of this length is looked up at its position. -/
lemma looksUp_getCopy (h : copy.length = a.size) :
    Index.LooksUp a.dimensions copy fun index => a.getCopy index copy := by
  refine Index.looksUp_of_length h (fun index e hflat => ?_) fun index flat v hflat hv => ?_
  · show a.getCopy index copy = .error e
    rw [getCopy, hflat]
    rfl
  · show a.getCopy index copy = .ok v
    rw [getCopy, bind_of_eq_ok hflat, hv]
    rfl

lemma looksUp_get (a : RegisterArray) : Index.LooksUp a.dimensions a.elements a.get := by
  have hlength : a.elements.length = Index.count a.dimensions := by simp [elements, size_eq]
  refine Index.looksUp_of_length hlength (fun index e hflat => by rw [get, hflat]; rfl)
    fun index flat r hflat hr => ?_
  rw [elements, List.getElem?_map, size_eq, List.getElem?_range (Index.flatten_lt hflat)] at hr
  rw [get, hflat, ← Option.some.inj hr]
  rfl

/-- The lock of an element that is looked up was made with the array. -/
lemma parent?_get {layout : RegisterLayout} {dimensions : List ℕ} {stride : ℕ} {locks : LockForest}
    {index : List ℕ} {r : Register}
    (h : (bind layout dimensions stride locks).1.get index = .ok r) :
    (bind layout dimensions stride locks).2.parent? r.lock =
      some (bind layout dimensions stride locks).1.lock := by
  obtain ⟨flat, hflat, rfl⟩ := map_eq_ok.1 h
  exact (idle_bind layout dimensions stride locks).parent flat (Index.flatten_lt hflat)

end RegisterArray

/-! ## Positions and lookups -/

/-- The positions of an array in row-major order.  Indices in range and positions below the number
of elements determine each other, positions are in the lexicographic order of indices, and no number
on the way to a position exceeds it; an index is refused exactly if its rank is wrong or one of its
components is out of range.

Lookups by index find what stands at the position, where something always stands: in arrays of nodes
that were given as lists or made from their positions, in arrays of registers, each element with the
lock that was made for it, and in the copies of sessions, which are replaced at the position too. -/
theorem row_major_positions (dimensions : List ℕ) :
    (∀ index flat, Index.flatten index dimensions = .ok flat ↔
      flat < Index.count dimensions ∧ Index.unflatten flat dimensions = index) ∧
    (∀ index flat, Index.flatten index dimensions = .ok flat →
      (∀ n, Index.position (index.take n) (dimensions.take n) ≤ flat) ∧
      ∀ index' flat', Index.flatten index' dimensions = .ok flat' →
        (flat < flat' ↔ index < index')) ∧
    (∀ index e, Index.flatten index dimensions = .error e ↔
      e = .indexOutOfRange index dimensions ∧ (index.length ≠ dimensions.length ∨
        ∃ p ∈ index.zip dimensions, p.2 ≤ p.1)) ∧
    (∀ {α : Type} (elements : List α) (a : NodeArray α),
      NodeArray.ofList dimensions elements = .ok a → Index.LooksUp dimensions elements a.get) ∧
    (∀ {α : Type} (f : ℕ → List ℕ → α) index, (NodeArray.ofFn dimensions f).get index =
      (Index.flatten index dimensions).map fun flat => f flat index) ∧
    (∀ {α ε : Type} (f : ℕ → List ℕ → Except ε α) (a : NodeArray α),
      NodeArray.tryOfFn dimensions f = .ok a → Index.LooksUp dimensions a.elements a.get ∧
        ∀ index flat, Index.flatten index dimensions = .ok flat →
          ∃ x, f flat index = .ok x ∧ a.get index = .ok x) ∧
    ∀ (layout : RegisterLayout) (stride : ℕ) (locks : LockForest),
      let bound := RegisterArray.bind layout dimensions stride locks
      Index.LooksUp dimensions bound.1.elements bound.1.get ∧
        (∀ index r, bound.1.get index = .ok r → bound.2.parent? r.lock = some bound.1.lock) ∧
        (0 < layout.accessWidth → ∀ copy, bound.1.SessionCopy copy →
          Index.LooksUp dimensions copy (fun index => bound.1.getCopy index copy) ∧
          ∀ index flat, Index.flatten index dimensions = .ok flat → flat < copy.length ∧
            ∀ value, bound.1.setCopy index value copy =
              (layout.checkValue value).map fun _ => (copy.set flat value, ())) := by
  refine ⟨fun _ _ => Index.flatten_eq_ok_iff, fun index flat h => ⟨?_, fun index' flat' h' => ?_⟩,
    fun _ _ => Index.flatten_eq_error_iff, fun elements a h => ?_,
    fun f index => NodeArray.get_ofFn dimensions f index, fun f a h => ?_,
    fun layout stride locks => ?_⟩
  · obtain ⟨hrange, rfl⟩ := Index.flatten_eq_ok.1 h
    exact fun n => Index.positionFrom_take_le hrange 0 n
  · exact Index.flatten_lt_flatten_iff h h'
  · obtain ⟨rfl, rfl, hsize⟩ := NodeArray.ofList_eq_ok h
    exact NodeArray.looksUp hsize
  · obtain ⟨rfl, -⟩ := NodeArray.tryOfFn_eq_ok h
    have hlooks := NodeArray.looksUp (NodeArray.size_tryOfFn h)
    refine ⟨hlooks, fun index flat hflat => ?_⟩
    obtain ⟨x, hx, hget⟩ := hlooks.eq_ok hflat
    have hmade := NodeArray.getElem?_tryOfFn h hx
    rw [(Index.flatten_eq_ok_iff.1 hflat).2] at hmade
    exact ⟨x, hmade, hget⟩
  · intro bound
    refine ⟨bound.1.looksUp_get, fun index r => RegisterArray.parent?_get, fun haccess copy hcopy => ?_⟩
    have hlength : copy.length = bound.1.size := hcopy.length_eq haccess
    refine ⟨RegisterArray.looksUp_getCopy hlength, fun index flat hflat => ⟨?_, fun value => ?_⟩⟩
    · rw [hlength]
      exact Index.flatten_lt hflat
    · exact (bound.1.setCopy_eq index value copy).trans (bind_of_eq_ok hflat)

end RegisterMap
