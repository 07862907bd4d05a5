import ConfidentialToken.Error
import ConfidentialToken.Proofs.Lists

/-!
When operations that can fail succeed.

A sequence of steps succeeds exactly when each step does, and a context changes
no success. With these facts a check is opened into what it has established, one
step after the other.
-/

namespace ConfidentialToken

variable {α β : Type}

@[simp]
theorem bind_eq_ok {outcome : Result α} {next : α → Result β} {value : β} :
    outcome >>= next = .ok value ↔ ∃ middle,
    outcome = .ok middle ∧ next middle = .ok value := by
  cases outcome <;> simp [bind, Except.bind]

@[simp]
theorem functor_map_eq_ok {convert : α → β} {outcome : Result α} {value : β} :
    convert <$> outcome = .ok value ↔ ∃ result,
    outcome = .ok result ∧ convert result = value := by
  cases outcome <;> simp

@[simp]
theorem pure_eq_ok {result value : α} :
    (pure result : Result α) = .ok value ↔ result = value := by
  simp [pure, Except.pure]

@[simp]
theorem throw_ne_ok {failure : Error} {value : α} :
    (throw failure : Result α) ≠ .ok value := by
  simp [throw, throwThe, MonadExceptOf.throw]

@[simp]
theorem during_eq_ok {activity : String} {outcome : Result α} {value : α} :
    during activity outcome = .ok value ↔ outcome = .ok value := by
  cases outcome <;> simp [during]

@[simp]
theorem map_eq_ok {convert : α → β} {outcome : Result α} {value : β} :
    outcome.map convert = .ok value ↔ ∃ result,
    outcome = .ok result ∧ convert result = value := by
  cases outcome <;> simp [Except.map]

theorem toOption_eq_some {outcome : Result α} {value : α} :
    outcome.toOption = some value ↔ outcome = .ok value := by
  cases outcome <;> simp [Except.toOption]

theorem eq_ok_get {outcome : Result α} (succeeds : outcome.toOption.isSome = true) :
    outcome = .ok (outcome.toOption.get succeeds) :=
  toOption_eq_some.mp (Option.some_get succeeds).symm

/-- A guard lets the rest of a check run only where it does not refuse. -/
theorem guard_eq_ok {refused : Prop} [Decidable refused] {failure : Error}
    {next : Result β} {value : β} :
    (if refused then throw failure >>= fun (_ : α) => next else next) = .ok value ↔
      ¬ refused ∧ next = .ok value := by
  split <;> simp_all [throw, throwThe, MonadExceptOf.throw, bind, Except.bind]

theorem guard_error_eq_ok {refused : Prop} [Decidable refused] {failure : Error}
    {next : Unit → Result β} {value : β} :
    (if refused then (.error failure : Result Unit) >>= next else next ()) = .ok value ↔
      ¬ refused ∧ next () = .ok value := by
  split <;> simp_all [bind, Except.bind]

theorem ite_throw_eq_ok {refused : Prop} [Decidable refused] {failure : Error}
    {next : Result β} {value : β} :
    (if refused then throw failure else next) = .ok value ↔
      ¬ refused ∧ next = .ok value := by
  split <;> simp_all

theorem ite_error_eq_ok {refused : Prop} [Decidable refused] {failure : Error}
    {next : Result β} {value : β} :
    (if refused then .error failure else next) = .ok value ↔
      ¬ refused ∧ next = .ok value := by
  split <;> simp_all

/-- What fails at a guard only fails exactly where the guard refuses. -/
theorem ite_error_fails_iff {refused : Prop} [Decidable refused] {failure : Error}
    {value : α} :
    (∃ reason, (if refused then .error failure else .ok value : Result α) =
      .error reason) ↔
      refused := by
  split <;> simp_all

/-- A list is read successfully exactly when each of its items is. -/
theorem mapM_eq_ok {read : α → Result β} {items : List α} {values : List β} :
    items.mapM read = .ok values ↔
      List.Forall₂ (fun item value => read item = .ok value) items values := by
  induction items generalizing values with
  | nil => cases values <;> simp [pure, Except.pure]
  | cons item items inductionHypothesis =>
      rw [List.mapM_cons]
      cases values with
      | nil => simp
      | cons value values => simp [← inductionHypothesis]

/-- Where every item has a result with a property, so has the list. -/
theorem exists_mapM_eq_ok {read : α → Result β} {property : α → β → Prop} {items : List α}
    (each : ∀ item ∈ items, ∃ value, read item = .ok value ∧ property item value) :
    ∃ values, items.mapM read = .ok values ∧ List.Forall₂ property items values := by
  induction items with
  | nil => exact ⟨[], rfl, .nil⟩
  | cons item items inductionHypothesis =>
      obtain ⟨⟨value, found, holds⟩, rest⟩ := List.forall_mem_cons.mp each
      obtain ⟨values, allFound, allHold⟩ := inductionHypothesis rest
      refine ⟨value :: values, ?_, .cons holds allHold⟩
      rw [mapM_eq_ok] at allFound ⊢
      exact .cons found allFound

/-- A check of every item succeeds exactly when each item passes. -/
theorem forM_eq_ok {check : α → Result Unit} {items : List α} :
    items.forM check = .ok () ↔ ∀ item ∈ items, check item = .ok () := by
  induction items with
  | nil => simp [pure, Except.pure]
  | cons item items inductionHypothesis =>
      simp only [List.forM_eq_forM, List.forM_cons] at inductionHypothesis ⊢
      simp only [bind_eq_ok, inductionHypothesis, List.mem_cons, forall_eq_or_imp]
      constructor
      · rintro ⟨⟨⟩, first, rest⟩
        exact ⟨first, rest⟩
      · rintro ⟨first, rest⟩
        exact ⟨(), first, rest⟩

end ConfidentialToken
