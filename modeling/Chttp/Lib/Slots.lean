import Mathlib.Data.List.Forall2

/-!
# Tables of slots

A list serves as a table: an index is a slot, and a slot is searched for and
changed in place.
-/

namespace Chttp.Lib

theorem modify_congr_at {Item : Type*} {items : List Item} {index : Nat}
    {item : Item}
    (present : items[index]? = some item) {first second : Item → Item}
    (same : first item = second item) :
    items.modify index first = items.modify index second := by
  apply List.ext_getElem?
  intro position
  rw [List.getElem?_modify, List.getElem?_modify]
  by_cases here : index = position
  · rw [← here, present]
    simp [same]
  · simp [here]

theorem getElem?_of_findIdx? {Item : Type*} {items : List Item}
    {test : Item → Bool} {index : Nat}
    (found : items.findIdx? test = some index) :
    index < items.length ∧
      ∃ item, items[index]? = some item ∧ test item = true := by
  obtain ⟨inside, hit, _⟩ := List.findIdx?_eq_some_iff_getElem.mp found
  exact ⟨inside, items[index], List.getElem?_eq_getElem inside, hit⟩

theorem mem_modify {Item : Type*} {items : List Item} {index : Nat}
    {change : Item → Item}
    {item : Item} (member : item ∈ items.modify index change) :
    item ∈ items ∨ ∃ old, items[index]? = some old ∧ item = change old := by
  rcases List.mem_iff_getElem?.mp member with ⟨position, found⟩
  rw [List.getElem?_modify] at found
  rcases Option.map_eq_some_iff.mp found with ⟨old, present, equal⟩
  split at equal
  · rename_i here
    exact .inr ⟨old, here ▸ present, equal.symm⟩
  · exact .inl (equal ▸ List.mem_of_getElem? present)

theorem forall_mem_modify {Item : Type*} {items : List Item} {index : Nat}
    {change : Item → Item}
    {property : Item → Prop} (all : ∀ item ∈ items, property item)
    (keeps : ∀ item, items[index]? = some item → property item →
      property (change item)) :
    ∀ item ∈ items.modify index change, property item := by
  intro item member
  rcases mem_modify member with old | ⟨old, present, rfl⟩
  · exact all item old
  · exact keeps old present (all old (List.mem_of_getElem? present))

theorem exists_of_forall₂ {First Second : Type*}
    {related : First → Second → Prop}
    {firsts : List First} {seconds : List Second}
    (pairs : List.Forall₂ related firsts seconds)
    {first : First} (member : first ∈ firsts) :
    ∃ second ∈ seconds, related first second := by
  induction pairs with
  | nil => exact absurd member List.not_mem_nil
  | cons one _ ih =>
    rcases List.mem_cons.mp member with rfl | behind
    · exact ⟨_, List.mem_cons_self, one⟩
    · obtain ⟨second, after, other⟩ := ih behind
      exact ⟨second, List.mem_cons_of_mem _ after, other⟩

end Chttp.Lib
