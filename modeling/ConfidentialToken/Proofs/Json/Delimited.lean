import ConfidentialToken.Proofs.Json.Lawful

/-!
The text of an object ends by itself.

The machine that reads a text stops behind the brace that closes an object,
whatever comes after it, and it has no choice on the way. Texts of two objects,
each with something appended, are therefore equal only if the objects are, and
what is appended to them.
-/

namespace ConfidentialToken.Json

open Relation (ReflTransGen)

theorem reads_rightUnique : Relator.RightUnique Reads := by
  intro state next other first second
  cases first with
  | @token byte rest following token before after visible read shorter step =>
      cases second with
      | token otherVisible otherRead otherShorter otherStep =>
          have enough : rest.length < rest.length + 1 := Nat.lt_succ_self _
          have same := (read _ enough).symm.trans (otherRead _ enough)
          obtain ⟨rfl, rfl⟩ := Prod.mk.inj (Option.some.inj same)
          cases step.symm.trans otherStep
          rfl

theorem not_reads_finished {rest : Bytes} {stack : List Frame} {value : Value}
    {next : Bytes × Position} : ¬ Reads (rest, ⟨stack, .finished value⟩) next := by
  intro reads
  cases reads with
  | token visible read shorter step => cases step

/-- Runs of one text that both end behind a value end at the same place with the
same value. -/
theorem finished_unique {state : Bytes × Position} {rest otherRest : Bytes}
    {value other : Value} (run : ReflTransGen Reads state (rest, ⟨[], .finished value⟩))
    (otherRun : ReflTransGen Reads state (otherRest, ⟨[], .finished other⟩)) :
    value = other ∧ rest = otherRest := by
  have ended {rest otherRest : Bytes} {value other : Value}
      (more : ReflTransGen Reads (rest, ⟨[], .finished value⟩)
        (otherRest, ⟨[], .finished other⟩)) :
      value = other ∧ rest = otherRest := by
    rcases more.cases_head with same | ⟨next, first, -⟩
    · cases same
      exact ⟨rfl, rfl⟩
    · exact absurd first not_reads_finished
  rcases ReflTransGen.total_of_right_unique reads_rightUnique run otherRun
    with more | more
  · exact ended more
  · obtain ⟨same, sameRest⟩ := ended more
    exact ⟨same.symm, sameRest.symm⟩

theorem render_object_append {members others : List (String × Value)}
    {rest otherRest : Bytes} (plain : (Value.object members).Plain)
    (otherPlain : (Value.object others).Plain)
    (same : (Value.object members).render ++ rest =
      (Value.object others).render ++ otherRest) :
    Value.object members = .object others ∧ rest = otherRest := by
  have run {members : List (String × Value)} (plain : (Value.object members).Plain)
      (rest : Bytes) :
      ReflTransGen Reads ((Value.object members).render ++ rest, ⟨[], .value false⟩)
        (rest, ⟨[], .finished (.object members)⟩) := by
    cases plain with
    | object parts =>
        exact reads_object (fun member among => readsBack_of_plain (parts member among))
          rest [] false
  have otherRun := run otherPlain otherRest
  rw [← same] at otherRun
  exact finished_unique (run plain rest) otherRun

/-- Of a type whose values are objects in JSON, values and what is appended to
their texts are read off the text as a whole. -/
theorem write_append_inj {α : Type} [JsonForm α] [LawfulForm α]
    (objects : ∀ value : α, ∃ members, toJson value = .object members) {first second : α}
    {rest otherRest : Bytes} :
    write first ++ rest = write second ++ otherRest ↔
      first = second ∧ rest = otherRest := by
  constructor
  · intro same
    obtain ⟨members, form⟩ := objects first
    obtain ⟨others, otherForm⟩ := objects second
    have plain := plain_toJson first
    have otherPlain := plain_toJson second
    rw [write, write, form, otherForm] at same
    rw [form] at plain
    rw [otherForm] at otherPlain
    obtain ⟨equal, sameRest⟩ := render_object_append plain otherPlain same
    refine ⟨Option.some.inj ?_, sameRest⟩
    rw [← fromJson_toJson first, ← fromJson_toJson second, form, otherForm, equal]
  · rintro ⟨rfl, rfl⟩
    rfl

end ConfidentialToken.Json
