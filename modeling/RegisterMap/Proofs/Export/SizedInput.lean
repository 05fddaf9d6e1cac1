import Mathlib
import RegisterMap.Proofs.Export.HashInput

/-!
# Hash inputs with words of 64 bits

The integers of a hash input come in two sizes: hashes and exported properties are words with a
sign, offsets and widths are words without one.  In the written form the size does not show, only the
number does, so an element that is put together from words (`SizedItem`) loses the sizes on its way
to the bytes.  It loses nothing else: whatever is nested in lists, and whatever the texts hold, the
bytes of two elements are equal exactly if the elements are, once integers of one number count as one
(`bytes_canonical`).
-/

namespace RegisterMap

/-- An element of a hash input, with words of 64 bits for integers. -/
inductive SizedItem where
  | text (s : String)
  | signed (w : Int64)
  | unsigned (w : UInt64)
  | flag (b : Bool)
  | list (items : List SizedItem)

namespace SizedItem

mutual

/-- The element without the sizes of its integers. -/
def item : SizedItem → HashItem
  | text s => .text s
  | signed w => .int w.toInt
  | unsigned w => .nat w.toNat
  | flag b => .flag b
  | list items => .list (itemsOf items)

def itemsOf : List SizedItem → List HashItem
  | [] => []
  | a :: rest => item a :: itemsOf rest

end

/-- The number that an element is. -/
def number? : SizedItem → Option ℤ
  | signed w => some w.toInt
  | unsigned w => some w.toNat
  | _ => none

/-- The elements are equal, but for the sizes of their integers. -/
inductive Same : SizedItem → SizedItem → Prop
  | text (s : String) : Same (text s) (text s)
  | number {a b : SizedItem} (i : ℤ) (ha : a.number? = some i) (hb : b.number? = some i) : Same a b
  | flag (b : Bool) : Same (flag b) (flag b)
  | list {as bs : List SizedItem} (items : List.Forall₂ Same as bs) : Same (list as) (list bs)

lemma item_of_number {a : SizedItem} {i : ℤ} (h : a.number? = some i) : a.item = .int i := by
  cases a with
  | signed w => exact congrArg HashItem.int (Option.some.inj h)
  | unsigned w => exact congrArg HashItem.int (Option.some.inj h)
  | _ => cases h

lemma number_of_item {a : SizedItem} {i : ℤ} (h : a.item = .int i) : a.number? = some i := by
  cases a with
  | signed w => exact congrArg some (HashItem.int.inj h)
  | unsigned w => exact congrArg some (HashItem.int.inj h)
  | _ => cases h

mutual

theorem Same.item_eq : ∀ {a b : SizedItem}, a.Same b → a.item = b.item
  | _, _, .text _ => rfl
  | _, _, .number _ ha hb => (item_of_number ha).trans (item_of_number hb).symm
  | _, _, .flag _ => rfl
  | _, _, .list items => congrArg HashItem.list (Same.itemsOf_eq items)

theorem Same.itemsOf_eq : ∀ {as bs : List SizedItem}, List.Forall₂ Same as bs →
    itemsOf as = itemsOf bs
  | _, _, .nil => rfl
  | _, _, .cons head rest => congrArg₂ List.cons (Same.item_eq head) (Same.itemsOf_eq rest)

end

mutual

theorem same_of_item_eq : ∀ (a b : SizedItem), a.item = b.item → a.Same b
  | text s, b, h => by
    cases b with
    | text s' => exact HashItem.text.inj h ▸ .text s
    | _ => cases h
  -- The item tells the number and not its size, so the other element may be of either size.
  | signed w, b, h => .number w.toInt rfl (number_of_item h.symm)
  | unsigned w, b, h => .number w.toNat rfl (number_of_item h.symm)
  | flag v, b, h => by
    cases b with
    | flag v' => exact HashItem.flag.inj h ▸ .flag v
    | _ => cases h
  | list as, b, h => by
    cases b with
    | list bs => exact .list (same_of_itemsOf_eq as bs (HashItem.list.inj h))
    | _ => cases h

theorem same_of_itemsOf_eq : ∀ (as bs : List SizedItem), itemsOf as = itemsOf bs →
    List.Forall₂ Same as bs
  | [], bs, h => by
    cases bs with
    | nil => exact .nil
    | cons b bs => cases h
  | a :: as, bs, h => by
    cases bs with
    | nil => cases h
    | cons b bs =>
      obtain ⟨hhead, hrest⟩ := List.cons.inj h
      exact .cons (same_of_item_eq a b hhead) (same_of_itemsOf_eq as bs hrest)

end

/-- The written form of a hash input tells the input: elements have the same bytes exactly if they
are equal, and put together from words of 64 bits, exactly if they are equal but for the sizes of
their integers. -/
theorem bytes_canonical : (∀ a b : HashItem, a.bytes = b.bytes ↔ a = b) ∧
    ∀ a b : SizedItem, a.item.bytes = b.item.bytes ↔ a.Same b := by
  have hbytes (a b : HashItem) : a.bytes = b.bytes ↔ a = b := HashItem.bytes_injective.eq_iff
  refine ⟨hbytes, fun a b => ?_⟩
  rw [hbytes]
  exact ⟨same_of_item_eq a b, Same.item_eq⟩

end SizedItem

end RegisterMap
