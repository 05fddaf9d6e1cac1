import Mathlib
import RegisterMap.Proofs.Bits.Packing
import RegisterMap.Proofs.Device.MemoryBounds
import RegisterMap.Proofs.Device.MemoryContents

/-!
# Memories as bit vectors

The bits of a range of a memory are those of its entries, packed.  Packing loses nothing, so bits
that fill whole entries are written as the values that pack to them and to nothing else
(`writeBits_eq`), and a memory that keeps its values keeps the bits (`Keeps.bits`).  Reversing a
vector reverses the entries and the bits of each (`packing_keeps_bits`).
-/

namespace RegisterMap

namespace Memory

variable {mem : Memory} {bits : List Bool} {start : ℕ}

/-- Bits of whole entries are written as values, of which each fits an entry. -/
lemma writeBits_eq {m : Type → Type} [Port m] (mem : Memory) (start : ℕ)
    (hdvd : mem.layout.width ∣ bits.length) :
    (mem.writeBits start bits : m Unit) =
      mem.write start (bitsToWords bits mem.layout.width) := by
  unfold writeBits
  rw [if_pos (Nat.mod_eq_zero_of_dvd hdvd)]

/-- Writing the bits succeeds, and the range that they fill then reads as them. -/
def StoresBits (mem : Memory) (start : ℕ) (bits : List Bool) (w : World Simulator) : Prop :=
  ∃ w', Blocking.run (mem.writeBits start bits) Simulator.toBus w = (.ok (), w') ∧
    (Blocking.run (mem.readBits start (bits.length / mem.layout.width)) Simulator.toBus w').1 =
      .ok bits

/-- A memory that keeps the values of its entries keeps their bits. -/
theorem Keeps.storesBits (h : mem.Keeps) (hpos : 0 < mem.layout.width)
    (hwidth : mem.layout.width ≤ maxValueWidth) (hdvd : mem.layout.width ∣ bits.length)
    (hrange : start + bits.length / mem.layout.width ≤ mem.layout.entries) {w : World Simulator}
    (hforced : ∀ address : ℕ, w.bus.overrides[address]? = none) : mem.StoresBits start bits w := by
  have hlength : (bitsToWords bits mem.layout.width).length = bits.length / mem.layout.width :=
    length_bitsToWords (Nat.mod_eq_zero_of_dvd hdvd)
  obtain ⟨w', hwrite, hread, -⟩ := h start (bitsToWords bits mem.layout.width)
    (by rwa [hlength]) (fun v hv => le_of_mem_bitsToWords hwidth hdvd hv) w hforced
  rw [hlength] at hread
  refine ⟨w', (congrArg (Blocking.run · Simulator.toBus w) (writeBits_eq mem start hdvd)).trans
    hwrite, ?_⟩
  unfold readBits
  rw [Blocking.run_bind]
  rcases hrun : Blocking.run (mem.read start (bits.length / mem.layout.width)) Simulator.toBus w'
    with ⟨outcome, w''⟩
  rw [hrun] at hread
  obtain rfl : outcome = .ok (bitsToWords bits mem.layout.width) := hread
  exact congrArg Except.ok (wordsToBits_bitsToWords hpos hdvd)

end Memory

/-- Packing values of a width into a bit vector puts bit `i % width` of value `i / width` at `i`.
Unpacking gives the values back, cut down to the width, and packing gives a vector of whole values
back.  Reversing a vector is undone by reversing it again, and it reverses the list of values that
are packed and each value, where a value is reversed as the widest value and moved down.

Bits that fill whole entries are written to a memory as the values that pack to them, all of which
fit, and where a memory keeps values it keeps bits. -/
theorem packing_keeps_bits {width : ℕ} (hpos : 1 ≤ width) (hwidth : width ≤ 128)
    (values : List ℕ) (bits : List Bool) :
    (∀ i, (wordsToBits values width)[i]? =
      (values[i / width]?).map fun v => v.testBit (i % width)) ∧
    bitsToWords (wordsToBits values width) width = values.map (· &&& valueMask width) ∧
    (width ∣ bits.length → wordsToBits (bitsToWords bits width) width = bits) ∧
    (∀ i < bits.length, (reverseBitVector bits)[i]? = bits[bits.length - 1 - i]?) ∧
    reverseBitVector (reverseBitVector bits) = bits ∧
    reverseBitVector (wordsToBits values width) =
      wordsToBits (values.reverse.map fun v => reverseBits v width) width ∧
    (∀ value, reverseBits value width =
      ((BitVec.ofNat 128 (value &&& valueMask width)).reverse >>> (128 - width)).toNat) ∧
    ∀ (mem : Memory) (start : ℕ), mem.layout.width = width → width ∣ bits.length →
      (∃ data, wordsToBits data width = bits ∧ (∀ v ∈ data, v ≤ mem.layout.maxValue) ∧
        ∀ {m : Type → Type} [Port m], (mem.writeBits start bits : m Unit) = mem.write start data) ∧
      (mem.Keeps → start + bits.length / width ≤ mem.layout.entries →
        ∀ w : World Simulator, (∀ address : ℕ, w.bus.overrides[address]? = none) →
          mem.StoresBits start bits w) := by
  refine ⟨getElem?_wordsToBits hpos values, bitsToWords_wordsToBits hpos hwidth values,
    wordsToBits_bitsToWords hpos, fun i hi => List.getElem?_reverse hi,
    reverseBitVector_reverseBitVector bits, reverse_wordsToBits values width,
    reverseBits_eq hwidth, ?_⟩
  rintro mem start rfl hdvd
  refine ⟨⟨bitsToWords bits mem.layout.width, wordsToBits_bitsToWords hpos hdvd,
    fun v hv => le_of_mem_bitsToWords hwidth hdvd hv, Memory.writeBits_eq mem start hdvd⟩,
    fun hkeeps hrange w hforced => hkeeps.storesBits hpos hwidth hdvd hrange hforced⟩

/-- Entries of 64 bits that are moved as two words each. -/
def halves : MemoryDetail := ⟨4, 64, 32, .readWrite⟩

/-- Of a value of 65 ones 64 are kept, and the last two entries of a memory keep 128 bits. -/
theorem halves_keep_bits :
    bitsToWords (wordsToBits [0x1ffffffffffffffff, 1] 64) 64 = [0xffffffffffffffff, 1] ∧
      ∀ w : World Simulator, (∀ address : ℕ, w.bus.overrides[address]? = none) →
        Memory.StoresBits ⟨halves.layout "top.m" 0x1000, 0⟩ 2
          (wordsToBits [0x0123456789abcdef, 0x8000000000000001] 64) w := by
  obtain ⟨-, hvalues, -, -, -, -, -, hmemory⟩ := @packing_keeps_bits 64 (by decide) (by decide)
    [0x1ffffffffffffffff, 1] (wordsToBits [0x0123456789abcdef, 0x8000000000000001] 64)
  have hadmitted : halves.Admitted :=
    @Attributes.admitted_of_toMemory "top.m" (memoryAttributes 4 64 32) _ rfl
  have hkeeps : Memory.Keeps ⟨halves.layout "top.m" 0x1000, 0⟩ :=
    (hadmitted.keeps_iff_separate rfl 0).2 (hadmitted.separate_iff.2 (by decide))
  refine ⟨hvalues.trans (by decide), (hmemory _ 2 rfl ?_).2 hkeeps ?_⟩
  · rw [length_wordsToBits]
    exact dvd_mul_left 64 2
  · rw [length_wordsToBits]
    decide

end RegisterMap
