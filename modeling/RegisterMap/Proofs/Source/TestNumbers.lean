import Mathlib
import RegisterMap.Proofs.Source.ModelNumbers
import RegisterMap.Proofs.Source.Rendered
import RegisterMap.Proofs.Tree.Addresses

/-!
# The numbers in a package

The tests of fields and memories name the values that they move and the masks that they compare
with.  Together with the numbers of the register model this is all that a package says of places and
values, and it is written with the numbers of the tree (`Rendering.WritesTree`).
-/

namespace RegisterMap

open Text Lines

/-! ## What tests name -/

/-- The numbers in the test of one value of a field, which is itself named by some numbers. -/
def FieldDetail.testNumbers (f : FieldDetail) (wide : Bool) (named : List ℕ) (raw : ℕ) : List ℕ :=
  match f.access with
  | .readWrite => named ++ named
  | .readOnly => raw :: named
  | .writeOnly => named ++ if wide then [] else [f.geometry.bitmask, raw]

/-- The words of the first entry with all bits set, each behind its distance. -/
def MemoryDetail.ones (m : MemoryDetail) : List ℕ :=
  (List.range (m.width / m.accessWidth)).flatMap fun i =>
    [i * entryBytes m.accessWidth, wordMask m.accessWidth]

/-- The numbers in the test of a memory. -/
def MemoryDetail.testNumbers (m : MemoryDetail) (typed : Bool) : List ℕ :=
  let max := valueMask m.width
  let count := min m.entries 4
  1 :: match m.access with
    | .readWrite =>
      [0, max, 0, max, 1, 1, 0, count, 1, max] ++
        if typed then [0, m.width, 0, count] else [0, 0, count]
    | .readOnly => m.ones ++ [0, max] ++ if 1 < m.entries then [0] else []
    | .writeOnly => [0, max] ++ m.ones ++ [1]

namespace Rendering

variable {x : Rendering} {f : Fillings}

lemma fills_await (x : Rendering) : Fills f x.flavor.await [] := by
  have hcode : Numberless x.flavor.await := by
    cases x.flavor <;> decide
  exact .fixed hcode

/-! ## Fields -/

/-- The values that a field is tested with are variants or literals. -/
lemma exists_fills_of_mem_fieldValues {p : Place} {d : FieldDetail} {v : String × ℕ}
    (hv : v ∈ x.fieldValues p d) : ∃ named, Fills x.fillings v.1 named ∧
      (x.plan.enumOf? p.id = none → named = numbersOf v.1) := by
  unfold fieldValues at hv
  split at hv
  · next e he =>
    obtain ⟨⟨variant, entry⟩, hmem, hv⟩ := List.mem_filterMap.1 hv
    obtain ⟨raw, -, rfl⟩ := Option.map_eq_some_iff.1 hv
    have hcolons : Cuts "::" ∧ Shows .code .code "::" [] := by decide
    have henum := enumOf?_mem he
    have hvariant := fills_variant henum (List.of_mem_zip hmem).1
    have hcode := (fills_enum henum).between hcolons.1 hcolons.2 hvariant
    rw [← String.append_assoc] at hcode
    exact ⟨[], hcode, fun hplain => absurd (he.symm.trans hplain) (Option.some_ne_none e)⟩
  · obtain ⟨n, -, hv⟩ := List.mem_filterMap.1 hv
    obtain ⟨raw, -, rfl⟩ := Option.map_eq_some_iff.1 hv
    exact ⟨[n], .numeral .typed, fun _ => (numbersOf_typed_constant n).symm⟩

/-- The values of a field without an enumeration are its least and its greatest one. -/
lemma numbers_fieldValues {p : Place} {d : FieldDetail} (hplain : x.plan.enumOf? p.id = none) :
    (x.fieldValues p d).map (fun v => (numbersOf v.1, v.2)) =
      [0, d.geometry.maxValue].filterMap fun v =>
        (d.geometry.encode v).toOption.map fun raw => ([v], raw) := by
  unfold fieldValues
  rw [hplain, List.map_filterMap]
  refine List.filterMap_congr fun v _ => ?_
  rw [Option.map_map]
  refine congrArg (Option.map · _) (funext fun raw => ?_)
  exact congrArg (·, raw) (numbersOf_typed_constant v)

/-- The test of a value compares with that value, in a word of the register under the mask of the
field. -/
lemma written_fieldTest {wide : Bool} {accessor : String} {d : FieldDetail} {value : String × ℕ}
    {named : List ℕ} (haccessor : Fills f accessor []) (hvalue : Fills f value.1 named) :
    (x.fieldTest wide accessor d value).Written f (d.testNumbers wide named value.2) := by
  obtain ⟨code, raw⟩ := value
  have hawait := x.fills_await (f := f)
  have hraw : Fills f (constant raw) [raw] := .numeral .constant
  have hmask : Fills f (constant d.geometry.bitmask) [d.geometry.bitmask] := .numeral .constant
  have hunwrap : Shows .code .code ".unwrap();" [] := by decide
  have hwrites : RegisterMap.Written f .code .code
      s!"reg.{accessor}().write({code}){x.flavor.await}.unwrap();" named := by
    simp only [toString_string, String.append_assoc]
    rw [← List.append_nil named]
    exact .code (by decide) <| haccessor.before (by decide) <| .code (by decide) <|
      hvalue.before (by decide) <| .code (by decide) <| hawait.beforeLast (by decide) hunwrap
  have hreads : RegisterMap.Written f .code .code
      s!"assert_eq!(reg.{accessor}().read(){x.flavor.await}.unwrap(), {code});" named := by
    simp only [toString_string, String.append_assoc]
    exact .code (by decide) <| haccessor.before (by decide) <| .code (by decide) <|
      hawait.before (by decide) <| .code (by decide) <| hvalue.beforeLast (by decide) (by decide)
  have hpreload : RegisterMap.Written f .code .code
      s!"preload_register(&sim, reg.register().spec(), {constant raw});" [raw] := by
    simp only [toString_string, String.append_assoc]
    exact .code (by decide) <| hraw.beforeLast (by decide) (by decide)
  have hmasked : RegisterMap.Written f .code .code
      (s!"assert_eq!(sim.peek(reg.register().address()) & {constant d.geometry.bitmask}, " ++
        s!"{constant raw});") [d.geometry.bitmask, raw] := by
    simp only [toString_string, String.append_assoc]
    exact .code (by decide) <| hmask.before (by decide) <| .code (by decide) <|
      hraw.beforeLast (by decide) (by decide)
  unfold fieldTest FieldDetail.testNumbers
  dsimp only
  cases d.access with
  | readWrite => exact .cons hwrites (.line hreads)
  | readOnly => exact .cons hpreload (.line hreads)
  | writeOnly =>
    cases wide with
    | true => exact .cons hwrites .nil
    | false => exact .cons hwrites (.line hmasked)

/-! ## Memories -/

section Memories

section Entries

variable {index value : String} {is vs : List ℕ} (hindex : Fills f index is)
  (hvalue : Fills f value vs)

include hindex hvalue

lemma written_writesEntry : RegisterMap.Written f .code .code
    s!"mem.write_entry({index}, {value}){x.flavor.await}.unwrap();" (is ++ vs) := by
  have hunwrap : Shows .code .code ".unwrap();" [] := by decide
  have hawait := x.fills_await (f := f)
  simp only [toString_string, String.append_assoc]
  rw [← List.append_nil vs]
  exact .code (by decide) <| hindex.before (by decide) <| .code (by decide) <|
    hvalue.before (by decide) <| .code (by decide) <| hawait.beforeLast (by decide) hunwrap

lemma written_readsEntry : RegisterMap.Written f .code .code
    s!"assert_eq!(mem.read_entry({index}){x.flavor.await}.unwrap(), {value});" (is ++ vs) := by
  have hawait := x.fills_await (f := f)
  simp only [toString_string, String.append_assoc]
  exact .code (by decide) <| hindex.before (by decide) <| .code (by decide) <|
    hawait.before (by decide) <| .code (by decide) <| hvalue.beforeLast (by decide) (by decide)

end Entries

variable (m : MemoryDetail)

/-- Lines for all words of the first entry. -/
lemma written_onesOfEntry {front middle back : String} (hfront : Shows .code .code front [])
    (hmiddle : Cuts middle ∧ Shows .code .code middle [])
    (hback : Cuts back ∧ Shows .code .code back []) :
    Lines.Written f ((onesOfEntry m).map fun (offset, word) =>
      front ++ (offset ++ (middle ++ (word ++ back)))) m.ones := by
  rw [onesOfEntry, List.map_map, MemoryDetail.ones]
  refine .map fun i _ => ?_
  have hoffset : Fills f (constant (i * entryBytes m.accessWidth)) [_] := .numeral .constant
  have hword : Fills f (constant (wordMask m.accessWidth)) [_] := .numeral .constant
  exact .code hfront <| hoffset.before hmiddle.1 <| .code hmiddle.2 <|
    hword.beforeLast hback.1 hback.2

/-- The line that makes as many values as are written at once. -/
lemma written_wordsLine (count mask : ℕ) : RegisterMap.Written f .code .code
    s!"let words: Vec<u128> = (0..{count}).map(|i| (i + 1) & {constant mask}).collect();"
    [0, count, 1, mask] := by
  have hzero : Shows .code .code "let words: Vec<u128> = (0.." [0] := by decide
  have hone : Shows .code .code ").map(|i| (i + 1) & " [1] := by decide
  have hcount : Fills f (toString count) [count] := .numeral .decimal
  have hmask : Fills f (constant mask) [mask] := .numeral .constant
  simp only [toString_string, String.append_assoc]
  exact .piece hzero <| hcount.before (by decide) <| .piece hone <|
    hmask.beforeLast (by decide) (by decide)

/-- The lines that move several entries at once. -/
lemma written_blockTest (count : ℕ) :
    Lines.Written f (if x.config.typedBlocks then
        [s!"mem.write(0, &TypedBuffer::from_words({m.width}, &words)){x.flavor.await}.unwrap();",
          s!"assert_eq!(mem.read(0, {count}){x.flavor.await}.unwrap().to_words(), words);"]
      else
        [s!"mem.write(0, &words){x.flavor.await}.unwrap();",
          s!"assert_eq!(mem.read(0, {count}){x.flavor.await}.unwrap(), words);"])
      (if x.config.typedBlocks then [0, m.width, 0, count] else [0, 0, count]) := by
  have hawait := x.fills_await (f := f)
  have hwidth : Fills f (toString m.width) [m.width] := .numeral .decimal
  have hcount : Fills f (toString count) [count] := .numeral .decimal
  have hread : Shows .code .code "assert_eq!(mem.read(0, " [0] := by decide
  split
  · have htyped : Shows .code .code "mem.write(0, &TypedBuffer::from_words(" [0] := by decide
    have hwrites : RegisterMap.Written f .code .code
        s!"mem.write(0, &TypedBuffer::from_words({m.width}, &words)){x.flavor.await}.unwrap();"
        [0, m.width] := by
      simp only [toString_string, String.append_assoc]
      exact .piece htyped <| hwidth.before (by decide) <| .code (by decide) <|
        hawait.beforeLast (by decide) (by decide)
    have hreads : RegisterMap.Written f .code .code
        s!"assert_eq!(mem.read(0, {count}){x.flavor.await}.unwrap().to_words(), words);"
        [0, count] := by
      simp only [toString_string, String.append_assoc]
      exact .piece hread <| hcount.before (by decide) <| .code (by decide) <|
        hawait.beforeLast (by decide) (by decide)
    exact .cons hwrites (.line hreads)
  · have hplain : Shows .code .code "mem.write(0, &words)" [0] := by decide
    have hwrites : RegisterMap.Written f .code .code
        s!"mem.write(0, &words){x.flavor.await}.unwrap();" [0] := by
      simp only [toString_string, String.append_assoc]
      exact .piece hplain <| hawait.beforeLast (by decide) (by decide)
    have hreads : RegisterMap.Written f .code .code
        s!"assert_eq!(mem.read(0, {count}){x.flavor.await}.unwrap(), words);" [0, count] := by
      simp only [toString_string, String.append_assoc]
      exact .piece hread <| hcount.before (by decide) <| .code (by decide) <|
        hawait.beforeLast (by decide) (by decide)
    exact .cons hwrites (.line hreads)

/-- The test of a memory compares with the masks of its entries and its words. -/
lemma written_memoryTest : (x.memoryTest m).Written f (m.testNumbers x.config.typedBlocks) := by
  have hzero : Fills f "0" [0] := .numeral (.decimal (n := 0))
  have hone : Fills f "1" [1] := .numeral (.decimal (n := 1))
  have hlast : Fills f "last" [] := .fixed (by decide)
  have hmax : Fills f (constant (valueMask m.width)) [valueMask m.width] := .numeral .constant
  have hfirst : Shows .code .code "let last = mem.entries() - 1;" [1] := by decide
  unfold memoryTest MemoryDetail.testNumbers
  dsimp only
  refine .cons (.last hfirst) ?_
  cases m.access with
  | readWrite =>
    exact .append (.cons (written_writesEntry hzero hmax) <| .cons (written_readsEntry hzero hmax) <|
      .cons (written_writesEntry hlast hone) <| .cons (written_readsEntry hlast hone) <|
      .line (written_wordsLine _ _)) (written_blockTest m _)
  | readOnly =>
    have hpreloads : Lines.Written f ((onesOfEntry m).map fun (offset, word) =>
        s!"sim.preload(mem.memory().spec().address + {offset}, {word});") m.ones := by
      simp only [toString_string, String.append_assoc]
      exact written_onesOfEntry m (by decide) (by decide) (by decide)
    exact (hpreloads.append (.line (written_readsEntry hzero hmax))).append
      (.onlyIf (.line (written_readsEntry hlast hzero)))
  | writeOnly =>
    have hpeeks : Lines.Written f ((onesOfEntry m).map fun (offset, word) =>
        s!"assert_eq!(sim.peek(mem.memory().spec().address + {offset}), {word});") m.ones := by
      simp only [toString_string, String.append_assoc]
      exact written_onesOfEntry m (by decide) (by decide) (by decide)
    exact (Lines.Written.cons (written_writesEntry hzero hmax) hpeeks).append
      (.line (written_writesEntry hlast hone))

end Memories

/-! ## Packages -/

/-- The generated code is written with the numbers of what it is generated from. -/
structure WritesTree (x : Rendering) : Prop where
  /-- The address of the export root. -/
  root : ∀ top, x.topType = .ok top → ∀ base, x.tree.top.address = .ok base →
    (x.buildFunction top base).Written x.fillings [x.tree.top.totalOffset]
  /-- The offsets, dimensions and strides of children. -/
  children : ∀ r ∈ x.plan.records, ∀ lines, x.childInitializers (x.childrenOf r.place) = .ok lines →
    lines.Written x.fillings
      ((x.childrenOf r.place).flatMap fun child => child.1.node.component.placement)
  /-- The ends and the reset values of fields. -/
  layouts : ∀ p d, RegisterMap.Written x.fillings .code .code (x.fieldLayoutSource p d)
    ([d.geometry.msb, d.geometry.lsb] ++ d.reset.toList)
  /-- The words that are not zero after reset, each behind its address. -/
  resets : ∀ lines, x.simulatorSource = .ok lines → ∃ values, x.resetValues = .ok values ∧
    lines.Written x.fillings (values.flatMap fun (address, word) => [address, word])
  /-- The values that plain fields are tested with. -/
  values : ∀ p d, x.plan.enumOf? p.id = none →
    (x.fieldValues p d).map (fun v => (numbersOf v.1, v.2)) =
      [0, d.geometry.maxValue].filterMap fun v =>
        (d.geometry.encode v).toOption.map fun raw => ([v], raw)
  /-- Values and masks in the tests of fields. -/
  fields : ∀ r ∈ x.plan.records, ∀ p accessor d, (p, accessor, d) ∈ x.fieldsOf r.place →
    ∀ wide, ∀ v ∈ x.fieldValues p d, ∃ named,
      (x.fieldTest wide accessor d v).Written x.fillings (d.testNumbers wide named v.2) ∧
        (x.plan.enumOf? p.id = none → named = numbersOf v.1)
  /-- Distances and masks in the tests of memories. -/
  memories : ∀ m, (x.memoryTest m).Written x.fillings (m.testNumbers x.config.typedBlocks)

lemma writesTree (x : Rendering) : x.WritesTree where
  root top htop base hbase := by
    rw [← x.tree.top.address_ends.eq_of_ok hbase]
    exact written_buildFunction (typeOf_eq_ok htop) base
  children r hr lines hlines := written_childInitializers hr (fun _ h => h) hlines
  layouts p d := written_fieldLayoutSource
  resets lines hlines := by
    obtain ⟨values, hvalues, hlines⟩ := bind_eq_ok.1 hlines
    cases hlines
    exact ⟨values, hvalues, written_simulatorProgram values⟩
  values p d hplain := numbers_fieldValues hplain
  fields r hr p accessor d hd wide v hv := by
    obtain ⟨child, hchild, hfield⟩ := List.mem_filterMap.1 hd
    obtain ⟨_, -, heq⟩ := Option.map_eq_some_iff.1 hfield
    cases heq
    obtain ⟨named, hcode, hplain⟩ := exists_fills_of_mem_fieldValues hv
    exact ⟨named, written_fieldTest (fills_accessor hr hchild) hcode, hplain⟩
  memories m := written_memoryTest m

end Rendering

/-- Emitted constants denote their numbers.  A text is the constant of a number exactly if it is a
literal of that number in the form of constants: one decimal digit up to nine, and lowercase
hexadecimal digits in groups of four beyond that.  With these literals generated code is written
wherever it says an address, a stride, a reset value or a mask, and they are those of the tree.  Where
what is filled in between them is names and texts, no other numbers can be read in the code. -/
theorem constants_denote_tree_numbers (n : ℕ) (s : String) (x : Rendering) :
    (s = constant n ↔ Spelled n s.toList) ∧ x.WritesTree ∧
      (x.fillings.Readable → ∀ (ls : Lines) (ns : List ℕ), ls.Written x.fillings ns →
        ls.numbers = ns) := by
  refine ⟨⟨?_, fun hspelled => ?_⟩, x.writesTree, fun hx ls ns => Lines.Written.numbers_eq hx⟩
  · rintro rfl
    exact spelled_constant n
  · exact String.toList_inj.1 hspelled.eq_constant

/-- Two rows of three banks at a large address, each with a register that is not zero after reset. -/
def remoteDescription : Description :=
  .group .addressMap "soc" 0x4000_0000
    [.mk { (default : Attributes) with
        kind := .registerFile, instName := "banks", offset := 0x10_0000
        array := some ⟨[2, 3], 0x1_0000⟩ }
      [.register "ctrl" 12 [.resetField "mode" 0 7 0x5a]]]

section

attribute [local instance] Export.smallRun

/-- The banks are made, and the root is bound, with the numbers of the tree. -/
theorem remote_banks_named : ∃ (x : Rendering) (top : TypeRecord) (lines : Lines),
    exportPlan remoteDescription.tree {} ⟨true, []⟩ = .ok x.plan ∧ x.fillings.Readable ∧
      x.topType = .ok top ∧ (x.buildFunction top 0x4000_0000).numbers = [0x4000_0000] ∧
      x.childInitializers (x.childrenOf top.place) = .ok lines ∧
      lines.numbers = [2, 3, 0x10_0000, 0x1_0000] ∧
      Spelled 0x4000_0000 "0x4000_0000".toList := by
  let x (plan : Plan) : Rendering := ⟨remoteDescription.tree, plan, {}⟩
  have hrun : ∃ plan ∈ (exportPlan remoteDescription.tree {} ⟨true, []⟩).toOption,
      (∀ name ∈ (x plan).fillings.words, IsName name) ∧
        (∀ name ∈ (x plan).fillings.texts, Unescaped name.toList ∧ '\n' ∉ name.toList) ∧
        ∃ top ∈ (x plan).topType.toOption, ∃ lines ∈
          ((x plan).childInitializers ((x plan).childrenOf top.place)).toOption,
          ((x plan).childrenOf top.place).flatMap (fun child => child.1.node.component.placement) =
            [2, 3, 0x10_0000, 0x1_0000] := by
    decide +kernel
  obtain ⟨plan, hplan, hwords, htexts, top, htop, lines, hlines, hplacement⟩ := hrun
  have htop := eq_ok_of_mem_toOption htop
  have hlines := eq_ok_of_mem_toOption hlines
  obtain ⟨hspelled, htree, hread⟩ :=
    constants_denote_tree_numbers 0x4000_0000 "0x4000_0000" (x plan)
  have hreadable : (x plan).fillings.Readable := ⟨hwords, htexts⟩
  have haddress : remoteDescription.tree.top.address = .ok 0x4000_0000 := by decide +kernel
  have hroot := hread hreadable _ _ (htree.root top htop _ haddress)
  have hchildren := hread hreadable _ _
    (htree.children top (Rendering.typeOf_eq_ok htop) lines hlines)
  refine ⟨x plan, top, lines, eq_ok_of_mem_toOption hplan, hreadable, htop, hroot, hlines,
    hchildren.trans hplacement, hspelled.1 ?_⟩
  simp [constant, hexDigits, groupDigits, hexDigit]

end

end RegisterMap
