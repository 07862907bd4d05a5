import ConfidentialToken.Proofs.Outcome
import ConfidentialToken.Validation.Actions

/-!
Which signatures a check uses up.

A check that succeeds has taken a block from the front of the signatures and
left the others as they were. What it accepts is a relation between its result
and that block, and the relation of a sequence of checks follows from those of
its parts: the blocks stand one after the other.
-/

namespace ConfidentialToken

variable {α β γ : Type}

namespace Checking

/-- The outcome of a check, and the signatures that are left. -/
def answer (check : Checking α) (signatures : List Bytes) : Result α × List Bytes :=
  check.run signatures

/-- What a check gives and uses up when it succeeds: a value is given for a
block of signatures exactly if the relation holds. -/
def Takes (check : Checking α) (accepted : α → List Bytes → Prop) : Prop :=
  ∀ signatures value rest, check.answer signatures = (.ok value, rest) ↔
    ∃ block, signatures = block ++ rest ∧ accepted value block

theorem Takes.congr {check : Checking α} {accepted other : α → List Bytes → Prop}
    (takes : Takes check accepted)
    (same : ∀ value block, accepted value block ↔ other value block) :
    Takes check other := by
  intro signatures value rest
  simp only [takes signatures value rest, same]

/-- A check succeeds exactly if the signatures begin with a block that it
accepts. -/
theorem Takes.outcome_eq_ok {check : Checking α} {accepted : α → List Bytes → Prop}
    (takes : Takes check accepted) {signatures : List Bytes} {value : α} :
    (check.answer signatures).1 = .ok value ↔
      ∃ block rest, signatures = block ++ rest ∧ accepted value block := by
  constructor
  · intro succeeded
    obtain ⟨block, split, accepts⟩ :=
      (takes signatures value (check.answer signatures).2).mp (Prod.ext succeeded rfl)
    exact ⟨block, _, split, accepts⟩
  · rintro ⟨block, rest, split, accepts⟩
    rw [(takes signatures value rest).mpr ⟨block, split, accepts⟩]

theorem takes_pure (value : α) :
    Takes (pure value) fun result block => result = value ∧ block = [] := by
  intro signatures result rest
  change (Except.ok value, signatures) = (Except.ok result, rest) ↔ _
  simp [and_comm, eq_comm]

theorem takes_lift (outcome : Result α) :
    Takes (liftM outcome) fun result block => outcome = .ok result ∧ block = [] := by
  intro signatures result rest
  change (outcome, signatures) = (Except.ok result, rest) ↔ _
  simp [and_comm]

theorem takes_throw (failure : Error) :
    Takes (throw failure : Checking α) fun _ _ => False := by
  intro signatures result rest
  change (Except.error failure, signatures) = (Except.ok result, rest) ↔ _
  simp

theorem Takes.during {check : Checking α} {accepted : α → List Bytes → Prop}
    (takes : Takes check accepted) (activity : String) :
    Takes (Checking.during activity check) accepted := by
  intro signatures value rest
  rw [← takes signatures value rest]
  change (ConfidentialToken.during activity (check.answer signatures).1,
    (check.answer signatures).2) = (Except.ok value, rest) ↔ _
  obtain ⟨outcome, left⟩ := check.answer signatures
  simp only [Prod.mk.injEq, during_eq_ok]

/-- A sequence of two checks uses up the block of the first and then that of the
second. -/
theorem Takes.bind {check : Checking α} {next : α → Checking β}
    {accepted : α → List Bytes → Prop} {acceptedNext : α → β → List Bytes → Prop}
    (takes : Takes check accepted)
    (takesNext : ∀ value, Takes (next value) (acceptedNext value)) :
    Takes (check >>= next) fun result block => ∃ value front back, block = front ++ back ∧
      accepted value front ∧ acceptedNext value result back := by
  intro signatures result rest
  have run : (check >>= next).answer signatures = (.ok result, rest) ↔
      ∃ value middle, check.answer signatures = (.ok value, middle) ∧
        (next value).answer middle = (.ok result, rest) := by
    have opened : (check >>= next).answer signatures =
        ExceptT.bindCont next (check.answer signatures).1 (check.answer signatures).2 :=
          rfl
    rw [opened]
    obtain ⟨outcome, middle⟩ := check.answer signatures
    cases outcome with
    | error failure =>
        change (Except.error failure, middle) = (Except.ok result, rest) ↔ _
        simp
    | ok value =>
        change (next value).answer middle = (Except.ok result, rest) ↔ _
        simp
  rw [run]
  constructor
  · rintro ⟨value, middle, first, second⟩
    obtain ⟨front, rfl, acceptedFront⟩ := (takes _ _ _).mp first
    obtain ⟨back, rfl, acceptedBack⟩ := (takesNext value _ _ _).mp second
    exact ⟨front ++ back, (List.append_assoc _ _ _).symm, value, front, back, rfl,
      acceptedFront, acceptedBack⟩
  · rintro ⟨_, rfl, value, front, back, rfl, acceptedFront, acceptedBack⟩
    exact ⟨value, back ++ rest,
      (takes _ _ _).mpr ⟨front, List.append_assoc _ _ _, acceptedFront⟩,
      (takesNext value _ _ _).mpr ⟨back, rfl, acceptedBack⟩⟩

/-- What follows a condition need only be known where the condition holds. -/
theorem takes_guard {outcome : Result Unit} {next : Checking α}
    {accepted : α → List Bytes → Prop}
    (takes : outcome = .ok () → Takes next accepted) :
    Takes (liftM outcome >>= fun _ => next) fun value block =>
      outcome = .ok () ∧ accepted value block := by
  cases outcome with
  | error failure =>
      intro signatures value rest
      change (Except.error failure, signatures) = (Except.ok value, rest) ↔ _
      simp
  | ok =>
      intro signatures value rest
      simp only [true_and]
      exact takes rfl signatures value rest

theorem takes_nextSignature (message : Bytes) (verifier : Verifier) :
    Takes (nextSignature message verifier) fun signature block =>
      block = [signature] ∧ verifier message signature = .ok () := by
  intro signatures result rest
  cases signatures with
  | nil =>
      change (Except.error _, []) = (Except.ok result, rest) ↔ _
      simp
  | cons signature signatures =>
      change ((verifier message signature).map fun _ => signature, signatures) =
        (Except.ok result, rest) ↔ _
      rw [Prod.mk.injEq, map_eq_ok]
      constructor
      · rintro ⟨⟨_, verified, rfl⟩, rfl⟩
        exact ⟨[signature], rfl, rfl, verified⟩
      · rintro ⟨_, equal, rfl, verified⟩
        cases equal
        exact ⟨⟨(), verified, rfl⟩, rfl⟩

theorem takes_forM {check : α → Checking Unit} {accepted : α → List Bytes → Prop}
    (takes : ∀ item, Takes (check item) fun _ => accepted item) (items : List α) :
    Takes (items.forM check) fun _ block =>
      ∃ blocks, block = blocks.flatten ∧ List.Forall₂ accepted items blocks := by
  induction items with
  | nil =>
      apply (takes_pure ()).congr
      simp
  | cons item items inductionHypothesis =>
      apply ((takes item).bind fun _ => inductionHypothesis).congr
      intro _ block
      simp only [List.forall₂_cons_left_iff]
      constructor
      · rintro ⟨_, front, _, rfl, first, blocks, rfl, rest⟩
        exact ⟨front :: blocks, rfl, front, blocks, first, rest, rfl⟩
      · rintro ⟨_, rfl, front, blocks, first, rest, rfl⟩
        exact ⟨(), front, blocks.flatten, rfl, first, blocks, rfl, rest⟩

theorem takes_mapM {check : α → Checking β} {accepted : α → β → List Bytes → Prop}
    (takes : ∀ item, Takes (check item) (accepted item)) (items : List α) :
    Takes (items.mapM check) fun values block =>
      ∃ taken : List (β × List Bytes), values = taken.map Prod.fst ∧
        block = (taken.map Prod.snd).flatten ∧
        List.Forall₂ (fun item part => accepted item part.1 part.2) items taken := by
  induction items with
  | nil =>
      rw [List.mapM_nil]
      apply (takes_pure []).congr
      simp
  | cons item items inductionHypothesis =>
      rw [List.mapM_cons]
      apply ((takes item).bind fun value =>
        inductionHypothesis.bind fun values => takes_pure (value :: values)).congr
      intro values block
      simp only [List.forall₂_cons_left_iff]
      constructor
      · rintro ⟨value, front, _, rfl, first, _, back, _, rfl, ⟨taken, rfl, rfl, rest⟩,
          rfl, rfl⟩
        exact ⟨(value, front) :: taken,
          rfl, by simp, (value, front), taken, first, rest, rfl⟩
      · rintro ⟨_, rfl, rfl, ⟨value, front⟩, taken, first, rest, rfl⟩
        exact ⟨value, front, (taken.map Prod.snd).flatten, rfl, first,
          taken.map Prod.fst, _, [], (List.append_nil _).symm, ⟨taken, rfl, rfl, rest⟩,
          rfl, rfl⟩

end Checking

end ConfidentialToken
