import Mathlib
import RegisterMap.Proofs.Bus.Calls
import RegisterMap.Proofs.Bus.Plans
import RegisterMap.Proofs.Device.RegisterContents

/-!
# The words that a call touches

On a simulated bus a call sees and stores the words at the addresses of its single accesses, and
nothing else (`Simulator.answer_eq`).  So a call that keeps to some addresses (`Call.Within`) has
the same reply on all contents that agree there, and leaves everything elsewhere alone.

The calls of a register keep to the words of the register.
-/

namespace RegisterMap

namespace Call

/-- The words that the call stores, with their addresses. -/
def stores : Call → List (ℕ × ℕ)
  | write address width _ data => [(address, data &&& wordMask width)]
  | writeBlock address width _ data =>
    data.zipIdx.map fun p => (address + p.2 * entryBytes width, p.1 &&& wordMask width)
  | read .. | readBlock .. => []

/-- The reply to the call in some contents. -/
def replyIn (contents : Contents) : (c : Call) → c.Reply
  | read address width _ => contents.seen address &&& wordMask width
  | readBlock address width _ length =>
    (List.range length).map fun i =>
      contents.seen (address + i * entryBytes width) &&& wordMask width
  | write .. | writeBlock .. => ()

/-- All words that the call accesses are at these addresses. -/
def Within (addresses : List ℕ) (c : Call) : Prop :=
  ∀ single ∈ c.singles, single.address ∈ addresses

variable {addresses : List ℕ} {c : Call} {contents contents' : Contents}

/-- A call that is a single access touches its own address. -/
lemma within_of_single (hsingle : c.singles = [c]) (h : c.address ∈ addresses) :
    c.Within addresses := by
  intro single hmem
  rw [hsingle] at hmem
  rw [List.mem_singleton.1 hmem]
  exact h

lemma Within.mem_of_stores (h : c.Within addresses) {address : ℕ}
    (haddress : address ∈ c.stores.map Prod.fst) : address ∈ addresses := by
  cases c with
  | read => cases haddress
  | readBlock => cases haddress
  | write =>
    rw [List.mem_singleton.1 haddress]
    exact h _ (List.mem_singleton_self _)
  | writeBlock =>
    obtain ⟨cell, hcell, rfl⟩ := List.mem_map.1 haddress
    obtain ⟨p, hp, rfl⟩ := List.mem_map.1 hcell
    exact h _ (List.mem_map_of_mem hp)

/-- The reply depends on the words at the addresses. -/
lemma Within.replyIn_congr (h : c.Within addresses)
    (hseen : ∀ address ∈ addresses, contents.seen address = contents'.seen address) :
    c.replyIn contents = c.replyIn contents' := by
  cases c with
  | read => exact congrArg (· &&& _) (hseen _ (h _ (List.mem_singleton_self _)))
  | readBlock =>
    refine List.map_congr_left fun i hi => ?_
    exact congrArg (· &&& _) (hseen _ (h _ (List.mem_map_of_mem hi)))
  | write => rfl
  | writeBlock => rfl

end Call

/-- A simulator replies from its contents, stores the words of the call and offers block accesses as
before. -/
theorem Simulator.answer_eq (c : Call) (s : Simulator) :
    (toBus.answer c s).1 = .ok (c.replyIn s.contents) ∧
      (toBus.answer c s).2.contents = s.contents.setAll c.stores ∧
      (toBus.answer c s).2.blockAccess = s.blockAccess := by
  cases c with
  | read => exact ⟨rfl, rfl, rfl⟩
  | readBlock => exact ⟨rfl, rfl, rfl⟩
  | write => exact ⟨rfl, contents_put _ _ _ _, rfl⟩
  | writeBlock address width accessWidth data =>
    have hstored := (s.counted .writeBlock).contents_foldl_put
      (data.zipIdx.map fun p => (address + p.2 * entryBytes width, p.1)) width
    have hblock := (s.counted .writeBlock).blockAccess_foldl_put
      (data.zipIdx.map fun p => (address + p.2 * entryBytes width, p.1)) width
    rw [List.foldl_map] at hstored hblock
    rw [List.map_map] at hstored
    exact ⟨rfl, hstored, hblock⟩

namespace Contents

variable {c c' : Contents} {addresses : List ℕ} {cells : List (ℕ × ℕ)}

/-- Contents that agree on some words still do after the same words were stored. -/
lemma stored_setAll_congr {address : ℕ} (h : c.stored address = c'.stored address) :
    (c.setAll cells).stored address = (c'.setAll cells).stored address := by
  induction cells generalizing c c' with
  | nil => exact h
  | cons p rest ih =>
    rw [setAll_cons, setAll_cons]
    refine ih ?_
    rw [stored_set, stored_set, h]

lemma seen_congr {address : ℕ} (hforced : c.forced = c'.forced)
    (h : c.stored address = c'.stored address) : c.seen address = c'.seen address := by
  rw [seen, seen, hforced, h]

end Contents

/-! ## Registers -/

namespace Register

variable {r : Register} {value : ℕ} {block : Bool} {c : Call}

lemma wordAddress_mem {k : ℕ} (hk : k < r.layout.wordCount) :
    r.layout.wordAddress k ∈ r.layout.wordAddresses :=
  List.mem_map_of_mem (List.mem_range.2 hk)

lemma address_mem (h : RegisterDetail.Admitted ⟨r.layout.width, r.layout.accessWidth⟩) :
    r.layout.address ∈ r.layout.wordAddresses := by
  have hpos : 0 < r.layout.wordCount :=
    Nat.div_pos (Nat.le_of_dvd h.width_pos h.accessWidth_dvd) h.accessWidth_pos
  have hfirst : r.layout.wordAddress 0 = r.layout.address := by simp [RegisterLayout.wordAddress]
  exact hfirst ▸ wordAddress_mem hpos

variable (h : RegisterDetail.Admitted ⟨r.layout.width, r.layout.accessWidth⟩)
include h

lemma within_readCalls (hc : c ∈ r.readCalls block) : c.Within r.layout.wordAddresses := by
  unfold readCalls at hc
  split at hc
  · unfold Transfer.readCalls at hc
    split at hc
    · rw [List.mem_singleton.1 hc]
      intro single hsingle
      obtain ⟨k, hk, rfl⟩ := List.mem_map.1 hsingle
      exact wordAddress_mem (List.mem_range.1 hk)
    · obtain ⟨k, hk, rfl⟩ := List.mem_map.1 hc
      exact Call.within_of_single rfl (wordAddress_mem (List.mem_range.1 hk))
  · rw [List.mem_singleton.1 hc]
    exact Call.within_of_single rfl (address_mem h)

lemma within_writeCalls (hc : c ∈ r.writeCalls value block) :
    c.Within r.layout.wordAddresses := by
  have hplace : ∀ p ∈ (splitWords value r.layout.width r.layout.accessWidth).zipIdx,
      p.2 < r.layout.wordCount := by
    intro p hp
    have hless := (List.mem_zipIdx hp).2.1
    rwa [Nat.zero_add, length_splitWords] at hless
  unfold writeCalls at hc
  split at hc
  · unfold Transfer.writeCalls at hc
    split at hc
    · rw [List.mem_singleton.1 hc]
      intro single hsingle
      obtain ⟨p, hp, rfl⟩ := List.mem_map.1 hsingle
      exact wordAddress_mem (hplace p hp)
    · obtain ⟨p, hp, rfl⟩ := List.mem_map.1 hc
      exact Call.within_of_single rfl (wordAddress_mem (hplace p hp))
  · rw [List.mem_singleton.1 hc]
    exact Call.within_of_single rfl (address_mem h)

end Register

end RegisterMap
