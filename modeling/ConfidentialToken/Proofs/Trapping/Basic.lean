import ConfidentialToken.Arithmetic
import ConfidentialToken.Error

/-!
Computations on a machine on which an operation outside its domain traps.

An index past the end of a list, a slice that reaches beyond it, a difference
below zero and a shift by the whole width of a word have no result: the
computation stops there, and gives neither a value nor a failure. An algorithm
that is written with these operations does not trap where it equals an outcome.
Integers are never divided in what is verified here.
-/

namespace ConfidentialToken

variable {α β γ : Type}

/-- A computation that gives an outcome, or none if it has trapped. -/
abbrev Trapping := ExceptT Error Option

namespace Trapping

/-- The computation that gives an outcome. -/
def done (outcome : Result α) : Trapping α :=
  ExceptT.mk (some outcome)

/-- The computation that has trapped. -/
def trap : Trapping α :=
  ExceptT.mk none

/-- Adds to a failure what was being done when it occurred. -/
def during (activity : String) (computation : Trapping α) : Trapping α :=
  ExceptT.mk (computation.run.map (ConfidentialToken.during activity))

/-- The item of a list at an index. -/
def item (list : List α) (index : Nat) : Trapping α :=
  match list[index]? with
  | some found => pure found
  | none => trap

/-- The items of a list before an index, which may be its length. -/
def itemsBefore (list : List α) (stop : Nat) : Trapping (List α) :=
  if stop ≤ list.length then pure (list.take stop) else trap

/-- The items of a list from an index on, which may be its length. -/
def itemsFrom (list : List α) (start : Nat) : Trapping (List α) :=
  if start ≤ list.length then pure (list.drop start) else trap

/-- What is left of a number when a part is taken away. -/
def difference (whole part : Nat) : Trapping Nat :=
  if part ≤ whole then pure (whole - part) else trap

def shiftRight (word : UInt64) (count : Nat) : Trapping UInt64 :=
  if count < 64 then pure (.ofNat (word.toNat >>> count)) else trap

/-- The bit of a word at an index. No shift is by more than the width of the
word. -/
def bit (word : UInt64) (index : Nat) : Trapping Bool := do
  if index < 64 then return (← shiftRight word index).toNat % 2 == 1
  return false

@[simp]
theorem done_pure (value : α) : done (pure value) = pure value := rfl

theorem during_eq_done (activity : String) {computation : Trapping α} {outcome : Result α}
    (inner : computation = done outcome) :
    during activity computation = done (ConfidentialToken.during activity outcome) := by
  rw [inner]
  rfl

theorem during_eq_done_map {represent : β → α} (activity : String)
    {computation : Trapping α} {outcome : Result β}
    (inner : computation = done (outcome.map represent)) :
    during activity computation =
      done ((ConfidentialToken.during activity outcome).map represent) := by
  rw [inner]
  cases outcome <;> rfl

theorem pure_eq_done {step : Trapping α} {value : α} {next : α → Trapping β}
    {outcome : Result β} (first : step = pure value)
    (second : next value = done outcome) : step >>= next = done outcome := by
  rw [first, pure_bind, second]

/-- Two steps in a row give an outcome if the first does, and the second after a
success of it. -/
theorem bind_eq_done {step : Trapping α} {outcome : Result α} {next : α → Trapping β}
    {rest : α → Result β} (first : step = done outcome)
    (second : ∀ value, outcome = .ok value → next value = done (rest value)) :
    step >>= next = done (outcome >>= rest) := by
  subst first
  cases outcome with
  | ok value => exact second value rfl
  | error failure => rfl

theorem bind_eq_done_map {represent : β → γ} {step : Trapping α} {outcome : Result α}
    {next : α → Trapping γ} {rest : α → Result β} (first : step = done outcome)
    (second : ∀ value,
      outcome = .ok value → next value = done ((rest value).map represent)) :
    step >>= next = done ((outcome >>= rest).map represent) := by
  subst first
  cases outcome with
  | ok value => exact second value rfl
  | error failure => rfl

/-- What follows a guard may rely on it. -/
theorem guard_eq_done {refused : Prop} [Decidable refused] {failure : Error}
    {after : α → Trapping β} {afterwards : α → Result β} {next : Trapping β}
    {rest : Result β} (passed : ¬ refused → next = done rest) :
    (if refused then throw failure >>= after else next) =
      done (if refused then throw failure >>= afterwards else rest) := by
  split
  · rfl
  · next holds => exact passed holds

theorem guard_error_eq_done {refused : Prop} [Decidable refused] {failure : Error}
    {after : α → Trapping β} {next : Trapping β} {rest : Result β}
    (passed : ¬ refused → next = done rest) :
    (if refused then throw failure >>= after else next) =
      done (if refused then .error failure else rest) := by
  split
  · rfl
  · next holds => exact passed holds

theorem check_eq_done {refused : Prop} [Decidable refused] {failure : Error} {value : α} :
    (if refused then throw failure else pure value : Trapping α) =
      done (if refused then throw failure else pure value) := by
  split <;> rfl

@[simp]
theorem item_of_lt {list : List α} {index : Nat} (bound : index < list.length) :
    item list index = pure list[index] := by
  simp [item, bound]

example : item [true] 1 = trap := rfl

theorem item_last {list : List α} {index : Nat} (sized : list.length = index + 1)
    (absent : α) : item list index = pure (list.getLastD absent) := by
  have bound : index < list.length := by omega
  have last : list.getLast? = some list[index] := by
    simp [List.getLast?_eq_getElem?, sized]
  rw [item_of_lt bound, List.getLastD_eq_getLast?, last, Option.getD_some]

theorem item_eq_done {list : List α} {index : Nat} {next : α → Trapping β}
    {outcome : Result β} (bound : index < list.length)
    (rest : next list[index] = done outcome) :
    item list index >>= next = done outcome :=
  pure_eq_done (item_of_lt bound) rest

theorem itemsBefore_of_le {list : List α} {stop : Nat} (bound : stop ≤ list.length) :
    itemsBefore list stop = pure (list.take stop) :=
  if_pos bound

theorem itemsFrom_of_le {list : List α} {start : Nat} (bound : start ≤ list.length) :
    itemsFrom list start = pure (list.drop start) :=
  if_pos bound

example : itemsFrom [true] 2 = trap := rfl

theorem difference_of_le {whole part : Nat} (bound : part ≤ whole) :
    difference whole part = pure (whole - part) :=
  if_pos bound

example : difference 1 2 = trap := rfl

@[simp]
theorem bit_eq (word : UInt64) (index : Nat) :
    bit word index = pure (ConfidentialToken.bit word index) := by
  unfold bit ConfidentialToken.bit
  split
  · next small =>
      simp [shiftRight, small, UInt64.toNat_ofNat', Nat.testBit, Nat.one_and_eq_mod_two]
  · next large =>
      have beyond : word.toNat < 2 ^ index :=
        Nat.lt_of_lt_of_le word.toNat_lt (Nat.pow_le_pow_right (by decide) (by omega))
      simp [Nat.testBit_lt_two_pow beyond]

/-- A loop over the indices of a list that reads the item at each of them. -/
theorem mapM_range_eq_done {body : Nat → Trapping β} {read : α → Result β}
    {list : List α} {count : Nat} (sized : list.length = count)
    (each : ∀ (index : Nat) (bound : index < list.length),
      body index = done (read list[index])) :
    (List.range count).mapM body = done (list.mapM read) := by
  subst sized
  induction list generalizing body with
  | nil => rfl
  | cons first rest inductionHypothesis =>
      rw [List.length_cons, List.range_succ_eq_map, List.mapM_cons, List.mapM_cons,
        List.mapM_map]
      refine bind_eq_done (each 0 (by simp)) fun value _ =>
        bind_eq_done ?_ fun values _ => rfl
      exact inductionHypothesis fun index bound => each (index + 1) (by simpa using bound)

theorem mapM_range_eq_pure {body : Nat → Trapping α} {list : List α} {count : Nat}
    (sized : list.length = count)
    (each : ∀ (index : Nat) (bound : index < list.length),
      body index = pure list[index]) :
    (List.range count).mapM body = pure list := by
  have outcome : (List.range count).mapM body = done (list.mapM pure) :=
    mapM_range_eq_done sized each
  rw [outcome, List.mapM_pure, List.map_id', done_pure]

theorem mapM_item {list : List α} {count : Nat} (sized : list.length = count) :
    (List.range count).mapM (item list) = pure list :=
  mapM_range_eq_pure sized fun _ bound => item_of_lt bound

theorem mapM_range_bind {body : Nat → Trapping α} (list : List α) {count : Nat}
    (sized : list.length = count)
    (each : ∀ (index : Nat) (bound : index < list.length), body index = pure list[index])
    (next : List α → Trapping β) : (List.range count).mapM body >>= next = next list := by
  rw [mapM_range_eq_pure sized each, pure_bind]

theorem forM_range_eq_done {body : Nat → Trapping Unit} {check : α → Result Unit}
    {list : List α} {count : Nat} (sized : list.length = count)
    (each : ∀ (index : Nat) (bound : index < list.length),
      body index = done (check list[index])) :
    (List.range count).forM body = done (list.forM check) := by
  subst sized
  induction list generalizing body with
  | nil => rfl
  | cons first rest inductionHypothesis =>
      rw [List.length_cons, List.range_succ_eq_map]
      simp only [List.forM_eq_forM, List.forM_cons, List.forM_map]
        at inductionHypothesis ⊢
      refine bind_eq_done (each 0 (by simp)) fun _ _ => ?_
      exact inductionHypothesis fun index bound => each (index + 1) (by simpa using bound)

theorem foldlM_range_eq_pure {body : β → Nat → Trapping β} {step : β → α → β}
    {list : List α} {count : Nat} (sized : list.length = count)
    (each : ∀ (state : β) (index : Nat) (bound : index < list.length),
      body state index = pure (step state list[index])) (start : β) :
    (List.range count).foldlM body start = pure (list.foldl step start) := by
  subst sized
  induction list generalizing body start with
  | nil => rfl
  | cons first rest inductionHypothesis =>
      rw [List.length_cons, List.range_succ_eq_map, List.foldlM_cons,
        each start 0 (by simp), pure_bind, List.foldlM_map]
      exact inductionHypothesis
        (fun state index bound => each state (index + 1) (by simpa using bound)) _

theorem forM_eq_done {body : α → Trapping Unit} {check : α → Result Unit} {list : List α}
    (each : ∀ item ∈ list, body item = done (check item)) :
    list.forM body = done (list.forM check) := by
  induction list with
  | nil => rfl
  | cons first rest inductionHypothesis =>
      obtain ⟨head, tail⟩ := List.forall_mem_cons.mp each
      simp only [List.forM_eq_forM, List.forM_cons] at inductionHypothesis ⊢
      exact bind_eq_done head fun _ _ => inductionHypothesis tail

end Trapping

end ConfidentialToken
