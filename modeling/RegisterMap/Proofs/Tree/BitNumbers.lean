import Mathlib
import RegisterMap.Proofs.Field.Arithmetic
import RegisterMap.Proofs.Tree.Acceptance
import RegisterMap.Tree.Format

/-!
# What stops the loader

The loader answers with a tree or with a fault, unless it has to count the bits of a field that has
too many of them.  The ends of a field are bit numbers where a description was read from JSON
(`Description.Describes.endsNumbered`), so the only such field is the one between the first and the
last bit number: if reading a text stops, the text describes one
(`counted_unless_all_numbers`).

The other checks of a node can fail, but none of them stops the loader, so the fault that stops it is
followed from the node at which it arises up to the root.
-/

namespace RegisterMap

/-! ## Numbers of a description -/

/-- The ends of a field, where they are given, are bit numbers. -/
structure Attributes.EndsNumbered (a : Attributes) : Prop where
  msb_lt : ∀ msb, a.msb = some msb → msb < valueCount countWidth
  lsb_lt : ∀ lsb, a.lsb = some lsb → lsb < valueCount countWidth

/-- The attributes are those of a field whose ends are the first and the last bit number. -/
def Attributes.SpansAllNumbers (a : Attributes) : Prop :=
  a.kind = .field ∧ ∃ msb lsb, a.msb = some msb ∧ a.lsb = some lsb ∧ Geometry.AllNumbers msb lsb

namespace Description

/-- A node of the description has these attributes. -/
inductive Describes (a : Attributes) : Description → Prop
  | root {ds : List Description} : Describes a (.mk a ds)
  | inner {b : Attributes} {d : Description} {ds : List Description} (hd : d ∈ ds)
      (h : Describes a d) : Describes a (.mk b ds)

variable {depth : ℕ} {j : Json} {d : Description} {a : Attributes} {ds : List Description}

lemma natural?_lt {bits n : ℕ} (h : natural? bits j = some n) : n < valueCount bits := by
  obtain ⟨i, hi, rfl⟩ := Option.map_eq_some_iff.1 h
  obtain ⟨-, hrange⟩ := Option.filter_eq_some_iff.1 hi
  rw [Bool.and_eq_true, decide_eq_true_iff, decide_eq_true_iff] at hrange
  omega

/-- An attribute that is there was read. -/
lemma exists_of_orNone {α : Type} {read : Json → Option α} {v : Option Json} {x : α}
    (h : orNone read v = some (some x)) : ∃ w, read w = some x := by
  cases v with
  | none => cases h
  | some w =>
    rw [orNone, nullable.eq_def] at h
    split at h
    · cases h
    · obtain ⟨y, hy, hsome⟩ := Option.map_eq_some_iff.1 h
      exact ⟨w, Option.some.inj hsome ▸ hy⟩

lemma endsNumbered_of_attributes? {members : List (Option Json)} {children : Option Json}
    (h : attributes? depth members = some (a, children)) : a.EndsNumbered := by
  obtain ⟨⟨lsb, hlsb⟩, msb, hmsb⟩ : (∃ v, orNone (natural? 32) v = some a.lsb) ∧
      ∃ v, orNone (natural? 32) v = some a.msb := by
    unfold attributes? at h
    split at h
    · -- the ends are the twelfth and the thirteenth thing that is read
      iterate 11 obtain ⟨_, -, h⟩ := Option.bind_eq_some_iff.1 h
      obtain ⟨lsb, hlsb, h⟩ := Option.bind_eq_some_iff.1 h
      obtain ⟨msb, hmsb, h⟩ := Option.bind_eq_some_iff.1 h
      iterate 8 obtain ⟨_, -, h⟩ := Option.bind_eq_some_iff.1 h
      cases h
      exact ⟨⟨_, hlsb⟩, _, hmsb⟩
    · cases h
  constructor
  · intro n hn
    rw [hn] at hmsb
    obtain ⟨w, hw⟩ := exists_of_orNone hmsb
    exact natural?_lt hw
  · intro n hn
    rw [hn] at hlsb
    obtain ⟨w, hw⟩ := exists_of_orNone hlsb
    exact natural?_lt hw

/-- What is read one after the other was read of one of the items. -/
lemma exists_of_mem_mapM {α β : Type} {f : α → Option β} {l : List α} {bs : List β}
    (h : l.mapM f = some bs) {b : β} (hb : b ∈ bs) : ∃ a ∈ l, f a = some b := by
  induction l generalizing bs with
  | nil =>
    rw [List.mapM_nil] at h
    cases h
    cases hb
  | cons a rest ih =>
    rw [List.mapM_cons] at h
    obtain ⟨b', ha, h⟩ := Option.bind_eq_some_iff.1 h
    obtain ⟨bs', hrest, h⟩ := Option.bind_eq_some_iff.1 h
    cases h
    rcases List.mem_cons.1 hb with rfl | hb
    · exact ⟨a, List.mem_cons_self, ha⟩
    · obtain ⟨c, hc, hread⟩ := ih hrest hb
      exact ⟨c, List.mem_cons_of_mem _ hc, hread⟩

/-- A description that is read has attributes that are read, and so have its children. -/
lemma ofJson?_eq_some (h : ofJson? depth j = some (.mk a ds)) :
    (∃ depth members children, attributes? depth members = some (a, children)) ∧
      ∀ d ∈ ds, ∃ depth v, ofJson? depth v = some d := by
  cases depth with
  | zero => cases h
  | succ depth =>
    rw [ofJson?] at h
    obtain ⟨members, -, h⟩ := Option.bind_eq_some_iff.1 h
    obtain ⟨⟨attributes, children⟩, hread, h⟩ := Option.bind_eq_some_iff.1 h
    cases children with
    | none =>
      cases h
      exact ⟨⟨_, _, _, hread⟩, fun _ hd => absurd hd List.not_mem_nil⟩
    | some value =>
      cases value with
      | array items =>
        cases depth with
        | zero => cases h
        | succ depth =>
          obtain ⟨read, hitems, h⟩ := Option.bind_eq_some_iff.1 h
          cases h
          refine ⟨⟨_, _, _, hread⟩, fun d hd => ?_⟩
          obtain ⟨item, -, hitem⟩ := exists_of_mem_mapM hitems hd
          exact ⟨_, item, hitem⟩
      | _ => cases h

/-- What was read names ends that are bit numbers. -/
lemma Describes.endsNumbered (h : d.Describes a) {depth : ℕ} {j : Json}
    (hd : ofJson? depth j = some d) : a.EndsNumbered := by
  induction h generalizing depth j with
  | root =>
    obtain ⟨⟨_, _, _, hread⟩, -⟩ := ofJson?_eq_some hd
    exact endsNumbered_of_attributes? hread
  | inner hmem _ ih =>
    obtain ⟨depth, v, hv⟩ := (ofJson?_eq_some hd).2 _ hmem
    exact ih hv

end Description

/-! ## Checks of one node -/

/-- A fault that the loader reports, if the computation fails. -/
def Reports {α : Type} (x : Except TreeFault α) : Prop := FailsOnly (fun e => e.aborts = false) x

lemma ArrayShape.reports_check (path : String) (s : ArrayShape) : Reports (s.check path) := by
  unfold check
  repeat' split
  all_goals first | exact .ok _ | exact .error rfl

lemma reports_checkDisjoint (path : String) (earlier fields : List (String × FieldDetail)) :
    Reports (checkDisjoint path earlier fields) := by
  induction fields generalizing earlier with
  | nil => exact .ok _
  | cons field rest ih =>
    rw [checkDisjoint]
    split
    · exact .error rfl
    · exact ih _

lemma reports_checkFields (path : String) (nodes : List Node) :
    Reports (checkFields path nodes) := by
  unfold checkFields
  dsimp only
  split
  · exact .error rfl
  · exact reports_checkDisjoint path [] _

namespace Attributes

variable {path : String} {register : Option RegisterDetail} {a : Attributes}

lemma reports_toRegister : Reports (a.toRegister path) := by
  intro e he
  unfold toRegister at he
  simp only [bind, Except.bind, pure, Except.pure, throw, throwThe, MonadExceptOf.throw] at he
  repeat' split at he
  all_goals cases he
  all_goals rfl

lemma reports_toMemory : Reports (a.toMemory path) := by
  intro e he
  unfold toMemory at he
  simp only [bind, Except.bind, pure, Except.pure, throw, throwThe, MonadExceptOf.throw] at he
  repeat' split at he
  all_goals cases he
  all_goals rfl

/-- Making a field of attributes stops where its ends are the first and the last bit number. -/
theorem aborts_toField_iff (ha : a.EndsNumbered) :
    (∃ e, a.toField path register = .error e ∧ e.aborts = true) ↔
      ∃ msb lsb, a.msb = some msb ∧ a.lsb = some lsb ∧ Geometry.AllNumbers msb lsb := by
  constructor
  · rintro ⟨e, he, haborts⟩
    unfold toField at he
    cases hmsb : a.msb with
    | none =>
      rw [hmsb] at he
      cases he
      cases haborts
    | some msb =>
      cases hlsb : a.lsb with
      | none =>
        rw [hmsb, hlsb] at he
        cases he
        cases haborts
      | some lsb =>
        refine ⟨msb, lsb, rfl, rfl, ?_⟩
        by_contra hall
        have hends := Geometry.stopsIff_ofMsbLsb (ha.msb_lt msb hmsb) (ha.lsb_lt lsb hlsb)
        cases hmade : Geometry.ofMsbLsb msb lsb with
        | error fault =>
          obtain ⟨cause, rfl, hcause⟩ := (hends.answers hall).2 fault hmade
          simp only [hmsb, hlsb, hmade, Except.mapError, bind, Except.bind] at he
          cases he
          cases cause
          case uncountable => exact hcause rfl
          all_goals cases haborts
        | ok g =>
          simp only [hmsb, hlsb, hmade, Except.mapError, bind, Except.bind, pure, Except.pure, throw,
            throwThe, MonadExceptOf.throw] at he
          repeat' split at he
          all_goals cases he
          all_goals cases haborts
  · rintro ⟨msb, lsb, hmsb, hlsb, hall⟩
    have hends := Geometry.stopsIff_ofMsbLsb (ha.msb_lt msb hmsb) (ha.lsb_lt lsb hlsb)
    refine ⟨.invalidGeometry path (.invalidGeometry .uncountable), ?_, rfl⟩
    unfold toField
    simp only [hmsb, hlsb, (hends.stops hall).2, Except.mapError, bind, Except.bind]

/-- A node is the reason to stop only as a field between the first and the last bit number. -/
lemma failsOnly_toComponent (path : String) (register : Option RegisterDetail)
    (ha : a.EndsNumbered) :
    FailsOnly (fun e => e.aborts = true → a.SpansAllNumbers) (a.toComponent path register) := by
  have hreports : ∀ {α : Type} {x : Except TreeFault α}, Reports x →
      FailsOnly (fun e => e.aborts = true → a.SpansAllNumbers) x :=
    fun hx => hx.imp fun e he haborts => absurd haborts (by simp [he])
  have hmap : ∀ {α : Type} {x : Except TreeFault α} (f : α → Detail),
      FailsOnly (fun e => e.aborts = true → a.SpansAllNumbers) x →
      FailsOnly (fun e => e.aborts = true → a.SpansAllNumbers) (f <$> x) := by
    intro α x f hx
    rw [map_eq_pure_bind]
    exact hx.bind fun _ _ => .ok _
  have hdetail : FailsOnly (fun e => e.aborts = true → a.SpansAllNumbers)
      (a.toDetail path register) := by
    unfold toDetail
    cases hkind : a.kind with
    | addressMap | registerFile | signal => exact .ok _
    | register => exact hmap _ (hreports reports_toRegister)
    | memory => exact hmap _ (hreports reports_toMemory)
    | field =>
      refine hmap _ fun e he haborts => ⟨hkind, ?_⟩
      exact (aborts_toField_iff ha).1 ⟨e, he, haborts⟩
  have hfinish := hdetail.bind (f := fun detail => pure (a.withDetail detail)) fun _ _ => .ok _
  unfold toComponent
  split
  · next s _ => exact (hreports (s.reports_check path)).bind fun _ _ => hfinish
  · exact hfinish

end Attributes

/-! ## Whole descriptions -/

namespace Node

mutual

/-- What stops the loader is described somewhere in what it reads. -/
theorem failsOnly_ofDescription (above : String) (register : Option RegisterDetail) (id : ℕ) :
    ∀ {d : Description}, (∀ a, d.Describes a → a.EndsNumbered) →
      FailsOnly (fun e => e.aborts = true → ∃ a, d.Describes a ∧ a.SpansAllNumbers)
        (ofDescription above register id d)
  | .mk a ds, hends => by
    have hcomponent := Attributes.failsOnly_toComponent (childPath above a.instName) register
      (hends a .root)
    rw [ofDescription]
    refine (hcomponent.imp fun e he haborts => ⟨a, .root, he haborts⟩).bind fun component _ => ?_
    have hnodes := failsOnly_ofDescriptions (childPath above a.instName) component.detail (id + 1)
      fun d hd b hb => hends b (.inner hd hb)
    refine (hnodes.imp fun e he haborts => ?_).bind fun nodes _ => ?_
    · obtain ⟨d, hd, b, hb, hspans⟩ := he haborts
      exact ⟨b, .inner hd hb, hspans⟩
    · split
      · refine FailsOnly.bind ?_ fun _ _ => .ok _
        exact (reports_checkFields _ _).imp fun e he haborts => absurd haborts (by simp [he])
      · exact .ok _

theorem failsOnly_ofDescriptions (path : String) (parent : Detail) (id : ℕ) :
    ∀ {ds : List Description}, (∀ d ∈ ds, ∀ a, d.Describes a → a.EndsNumbered) →
      FailsOnly (fun e => e.aborts = true → ∃ d ∈ ds, ∃ a, d.Describes a ∧ a.SpansAllNumbers)
        (ofDescriptions path parent id ds)
  | [], _ => .ok _
  | d :: rest, hends => by
    rw [ofDescriptions]
    split
    · refine FailsOnly.bind ?_ fun node _ => ?_
      · refine (failsOnly_ofDescription _ _ _ (hends d List.mem_cons_self)).imp
          fun e he haborts => ?_
        exact ⟨d, List.mem_cons_self, he haborts⟩
      · refine FailsOnly.bind ?_ fun _ _ => .ok _
        have hrest := fun d' hd' => hends d' (List.mem_cons_of_mem d hd')
        refine (failsOnly_ofDescriptions _ _ _ hrest).imp fun e he haborts => ?_
        obtain ⟨d', hd', hspans⟩ := he haborts
        exact ⟨d', List.mem_cons_of_mem _ hd', hspans⟩
    · exact .error nofun

end

end Node

/-- The text describes a node with these attributes. -/
def DescribedIn (text : String) (a : Attributes) : Prop :=
  ∃ j d, Json.parse text = some j ∧ Description.ofJson? Description.maxDepth j = some d ∧
    d.Describes a

namespace RegisterTree

/-- Reading the text ends with neither a tree nor a fault that is reported. -/
def Stops (text : String) : Prop := ∃ e, ofText text = .error e ∧ e.aborts = true

instance (text : String) : Decidable (Stops text) :=
  match h : ofText text with
  | .error e => decidable_of_iff (e.aborts = true)
      ⟨fun haborts => ⟨e, h, haborts⟩,
        fun ⟨_, he, haborts⟩ => by rw [h] at he; cases he; exact haborts⟩
  | .ok _ => isFalse fun ⟨_, he, _⟩ => by rw [h] at he; cases he

/-- Reading a text stops only at a field that it describes. -/
lemma exists_of_stops {text : String} (h : Stops text) :
    ∃ a, DescribedIn text a ∧ a.SpansAllNumbers := by
  obtain ⟨e, he, haborts⟩ := h
  unfold ofText at he
  cases hparse : Json.parse text with
  | none =>
    rw [hparse] at he
    cases he
    cases haborts
  | some j =>
    simp only [hparse, ofJson] at he
    cases hread : Description.ofJson? Description.maxDepth j with
    | none =>
      rw [hread] at he
      cases he
      cases haborts
    | some d =>
      simp only [hread, ofDescription, Description.toNode] at he
      split at he
      · have hnode := Node.failsOnly_ofDescription "" none 0
          fun a ha => Description.Describes.endsNumbered ha hread
        cases hmade : Node.ofDescription "" none 0 d with
        | ok root =>
          rw [hmade] at he
          cases he
        | error fault =>
          rw [hmade] at he
          cases he
          obtain ⟨a, ha, hspans⟩ := hnode _ hmade haborts
          exact ⟨a, ⟨j, d, hparse, hread, ha⟩, hspans⟩
      · cases he
        cases haborts

end RegisterTree

/-- Bits are counted, masks are built and values are moved within the widths of numbers, unless a
field lies between the first and the last of all bit numbers. -/
theorem counted_unless_all_numbers (low high msb lsb width : UInt32) (text : String) :
    Geometry.StopsIff (low = 0 ∧ high = 4294967295)
        (Geometry.ofBounds? low.toNat high.toNat msb.toNat lsb.toNat width.toNat)
        (Geometry.ofBounds low.toNat high.toNat msb.toNat lsb.toNat width.toNat) ∧
      Geometry.StopsIff (msb = 0 ∧ lsb = 4294967295 ∨ msb = 4294967295 ∧ lsb = 0)
        (Geometry.ofMsbLsb? msb.toNat lsb.toNat) (Geometry.ofMsbLsb msb.toNat lsb.toNat) ∧
      (RegisterTree.Stops text → ∃ a, DescribedIn text a ∧ a.SpansAllNumbers) ∧
      ∀ g, Geometry.ofBounds low.toNat high.toNat msb.toNat lsb.toNat width.toNat = .ok g ∨
        Geometry.ofMsbLsb msb.toNat lsb.toNat = .ok g → g.InRange := by
  have hnumber : ∀ n : UInt32, n.toNat < valueCount countWidth := fun n => n.toNat_lt
  have hfirst : ∀ n : UInt32, n = 0 ↔ n.toNat = 0 := fun n => UInt32.toNat_inj.symm
  have hlast : ∀ n : UInt32, n = 4294967295 ↔ n.toNat = valueCount countWidth - 1 :=
    fun n => UInt32.toNat_inj.symm
  refine ⟨?_, ?_, RegisterTree.exists_of_stops, fun g hg => ?_⟩
  · rw [hfirst, hlast]
    exact Geometry.stopsIff_ofBounds (hnumber high)
  · have hall : (msb = 0 ∧ lsb = 4294967295 ∨ msb = 4294967295 ∧ lsb = 0) ↔
        Geometry.AllNumbers msb.toNat lsb.toNat := by
      have := hnumber msb
      have := hnumber lsb
      rw [hfirst, hfirst, hlast, hlast, Geometry.AllNumbers]
      omega
    rw [hall]
    exact Geometry.stopsIff_ofMsbLsb (hnumber msb) (hnumber lsb)
  · rcases hg with hbounds | hends
    · exact Geometry.inRange_of_ofBounds hbounds
    · exact Geometry.inRange_of_ofBounds hends

/-- A register with a field between the first and the last of all bit numbers. -/
def allNumbersText : String :=
  "\x7b\"kind\":\"addrmap\",\"inst_name\":\"t\",\"children\":[" ++
    "\x7b\"kind\":\"reg\",\"inst_name\":\"r\",\"regwidth\":32,\"children\":[" ++
    "\x7b\"kind\":\"field\",\"inst_name\":\"f\",\"msb\":4294967295,\"lsb\":0\x7d]\x7d]\x7d"

/-- A reversed field as wide as the widest register, a field that is one bit short of all bit
numbers, and one between the first and the last of them. -/
theorem widest_field_counted :
    Geometry.ofBounds 0 127 0 127 128 = .ok ⟨0, 128, true⟩ ∧ Geometry.InRange ⟨0, 128, true⟩ ∧
      Geometry.ofMsbLsb? 4294967294 0 =
        some (.error (.invalidGeometry (.beyondRegister 4294967294))) ∧
      RegisterTree.Stops allNumbersText ∧
      ∃ a, DescribedIn allNumbersText a ∧ a.SpansAllNumbers :=
  have hstops : RegisterTree.Stops allNumbersText := by decide +kernel
  have hwidest := counted_unless_all_numbers 0 127 0 127 128 allNumbersText
  have hshort := counted_unless_all_numbers 0 4294967294 4294967294 0 4294967295 allNumbersText
  ⟨rfl, hwidest.2.2.2 _ (.inl rfl), (hshort.2.1.answers (by decide)).1, hstops,
    hwidest.2.2.1 hstops⟩

/-- The bits between the first and the last bit number are not counted, and reading a field between
them stops. -/
theorem all_numbers_not_counted :
    Geometry.ofBounds? 0 4294967295 4294967295 0 0 = none ∧
      Geometry.ofMsbLsb? 4294967295 0 = none ∧ Geometry.ofMsbLsb? 0 4294967295 = none ∧
      RegisterTree.Stops allNumbersText :=
  ⟨rfl, rfl, rfl, by decide +kernel⟩

end RegisterMap
