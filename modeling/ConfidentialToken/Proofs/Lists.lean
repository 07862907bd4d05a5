import Mathlib.Data.List.Forall2

/-!
Lists entry by entry.

Two lists are related if their entries are, and so are then the parts into which
they are cut. What one filter keeps of a list is compared with what another one
keeps.
-/

namespace ConfidentialToken

variable {α β : Type}

section Related

variable {relation : α → β → Prop}

theorem exists_of_forall₂ {items : List α} {others : List β}
    (related : List.Forall₂ relation items others) {item : α}
    (membership : item ∈ items) : ∃ other ∈ others, relation item other := by
  induction related with
  | nil => cases membership
  | cons first _ inductionHypothesis =>
      rcases List.mem_cons.mp membership with rfl | rest
      · exact ⟨_, List.mem_cons_self, first⟩
      · obtain ⟨other, among, holds⟩ := inductionHypothesis rest
        exact ⟨other, List.mem_cons_of_mem _ among, holds⟩

/-- What is related to a concatenation is one of what is related to its
parts. -/
theorem forall₂_append {front back : List α} {block : List β} :
    List.Forall₂ relation (front ++ back) block ↔
      ∃ blockFront blockBack, block = blockFront ++ blockBack ∧
        List.Forall₂ relation front blockFront ∧
        List.Forall₂ relation back blockBack := by
  constructor
  · intro related
    refine ⟨block.take front.length, block.drop front.length,
      (List.take_append_drop _ _).symm, ?_, ?_⟩
    · simpa using List.forall₂_take front.length related
    · simpa using List.forall₂_drop front.length related
  · rintro ⟨blockFront, blockBack, rfl, first, second⟩
    exact List.rel_append first second

/-- What is related to the items of several lists in a row belongs to one of
these lists each. -/
theorem exists_flatten_of_forall₂ {lists : List (List α)} {others : List β}
    (related : List.Forall₂ relation lists.flatten others) :
    ∃ groups, List.Forall₂ (List.Forall₂ relation) lists groups ∧
      others = groups.flatten := by
  induction lists generalizing others with
  | nil => exact ⟨[], .nil, List.forall₂_nil_left_iff.mp related⟩
  | cons list lists inductionHypothesis =>
      obtain ⟨groups, grouped, rest⟩ :=
        inductionHypothesis (List.forall₂_drop_append _ _ _ related.flip).flip
      refine ⟨others.take list.length :: groups,
        .cons (List.forall₂_take_append _ _ _ related.flip).flip grouped, ?_⟩
      rw [List.flatten_cons, ← rest, List.take_append_drop]

theorem forall₂_and {first second : α → β → Prop} {items : List α} {others : List β} :
    List.Forall₂ (fun item other => first item other ∧ second item other) items others ↔
      List.Forall₂ first items others ∧ List.Forall₂ second items others := by
  simp only [List.forall₂_iff_get]
  constructor
  · rintro ⟨lengths, both⟩
    exact ⟨⟨lengths, fun index bound otherBound => (both index bound otherBound).1⟩,
      lengths, fun index bound otherBound => (both index bound otherBound).2⟩
  · rintro ⟨⟨lengths, left⟩, -, right⟩
    exact ⟨lengths, fun index bound otherBound =>
      ⟨left index bound otherBound, right index bound otherBound⟩⟩

/-- Related lists, of which the second may go on, are related at every index of
the first. -/
theorem exists_block_forall₂_iff {items : List α} {others : List β} :
    (∃ block rest, others = block ++ rest ∧ List.Forall₂ relation items block) ↔
      items.length ≤ others.length ∧
      ∀ (index : Nat) (item : α) (other : β), items[index]? = some item →
        others[index]? = some other → relation item other := by
  constructor
  · rintro ⟨block, rest, rfl, related⟩
    obtain ⟨lengths, each⟩ := List.forall₂_iff_get.mp related
    refine ⟨by simp [lengths], fun index item other itemAt otherAt => ?_⟩
    obtain ⟨bound, rfl⟩ := List.getElem?_eq_some_iff.mp itemAt
    rw [List.getElem?_append_left (lengths ▸ bound), List.getElem?_eq_some_iff] at otherAt
    obtain ⟨otherBound, rfl⟩ := otherAt
    exact each index bound otherBound
  · rintro ⟨enough, related⟩
    refine ⟨others.take items.length, others.drop items.length,
      (List.take_append_drop _ _).symm, List.forall₂_iff_get.mpr ⟨by simp [enough], ?_⟩⟩
    intro index bound otherBound
    exact related index _ _ (by simp) (by simp)

end Related

theorem forall_mem_zip {holds : α × β → Prop} {lefts : List α} {rights : List β} :
    (∀ pair ∈ lefts.zip rights, holds pair) ↔ ∀ (index : Nat) (left : α) (right : β),
      lefts[index]? = some left → rights[index]? = some right → holds (left, right) := by
  simp only [List.mem_iff_getElem?, List.getElem?_zip_eq_some, Prod.forall]
  constructor
  · intro each index left right atLeft atRight
    exact each left right ⟨index, atLeft, atRight⟩
  · rintro each left right ⟨index, atLeft, atRight⟩
    exact each index left right atLeft atRight

section Filters

variable {fine coarse : α → Option β} {items : List α}

theorem filterMap_sublist
    (refines : ∀ item ∈ items, ∀ result,
      fine item = some result → coarse item = some result) :
    (items.filterMap fine).Sublist (items.filterMap coarse) := by
  induction items with
  | nil => exact .slnil
  | cons item items inductionHypothesis =>
      obtain ⟨refinesItem, refinesItems⟩ := List.forall_mem_cons.mp refines
      have tail := inductionHypothesis refinesItems
      cases kept : fine item with
      | some result =>
          rw [List.filterMap_cons_some kept,
            List.filterMap_cons_some (refinesItem result kept)]
          exact tail.cons_cons result
      | none =>
          rw [List.filterMap_cons_none kept, ← List.singleton_append,
            List.filterMap_append]
          exact tail.trans (List.sublist_append_right _ _)

/-- The finer one of two filters keeps as much as the other exactly if it drops
nothing that the other keeps. -/
theorem filterMap_eq_filterMap_append_iff {rest : List β}
    (refines : ∀ item ∈ items, ∀ result,
      fine item = some result → coarse item = some result) :
    items.filterMap fine = items.filterMap coarse ++ rest ↔
      (∀ item ∈ items, fine item = none → coarse item = none) ∧ rest = [] := by
  induction items with
  | nil => simp [eq_comm]
  | cons item items inductionHypothesis =>
      obtain ⟨refinesItem, refinesItems⟩ := List.forall_mem_cons.mp refines
      have tail := inductionHypothesis refinesItems
      cases kept : fine item with
      | some result => simp [kept, refinesItem result kept, tail]
      | none =>
          cases dropped : coarse item with
          | none => simp [kept, dropped, tail]
          | some result =>
              constructor
              · intro same
                have fewer := (filterMap_sublist refinesItems).length_le
                have longer := congrArg List.length same
                simp only [List.filterMap_cons_none kept,
                  List.filterMap_cons_some dropped, List.length_append,
                  List.length_cons] at longer
                omega
              · rintro ⟨none, -⟩
                cases (none item List.mem_cons_self kept).symm.trans dropped

theorem forall₂_filterMap {results : List β} :
    List.Forall₂ (fun item result => fine item = some result) items results ↔
      (∀ item ∈ items, ∃ result, fine item = some result) ∧
        items.filterMap fine = results := by
  induction items generalizing results with
  | nil => simp [eq_comm]
  | cons item items inductionHypothesis =>
      simp only [List.forall₂_cons_left_iff, inductionHypothesis, List.forall_mem_cons]
      constructor
      · rintro ⟨result, _, kept, ⟨all, rfl⟩, rfl⟩
        exact ⟨⟨⟨result, kept⟩, all⟩, List.filterMap_cons_some kept⟩
      · rintro ⟨⟨⟨result, kept⟩, all⟩, same⟩
        exact ⟨result, _, kept, ⟨all, rfl⟩, same ▸ List.filterMap_cons_some kept⟩

end Filters

end ConfidentialToken
