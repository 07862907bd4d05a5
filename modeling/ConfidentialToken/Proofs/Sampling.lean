import Mathlib.Logic.Equiv.Basic
import ConfidentialToken.Proofs.Outcome
import ConfidentialToken.Random.Source

/-!
What a sampling can give.

Nothing that is proved here depends on which source is drawn from, so that the
source is left out: a sampling gives a value if it does so from some source. A
value that a sequence of steps gives comes from values that the steps give.
-/

namespace ConfidentialToken.Sampling

variable {R α β : Type}

theorem run_bind_eq_ok {task : Sampling R α} {next : α → Sampling R β} {source rest : R}
    {value : β} :
    (task >>= next) source = .ok (value, rest) ↔
      ∃ middle following, task source = .ok (middle, following) ∧
        next middle following = .ok (value, rest) := by
  change (task source >>= fun (middle, following) =>
    next middle following) = .ok (value, rest) ↔ _
  simp only [bind_eq_ok, Prod.exists]

theorem run_pure_eq_ok {result value : α} {source rest : R} :
    (Pure.pure result : Sampling R α) source = .ok (value, rest) ↔
      result = value ∧ source = rest := by
  change (Except.ok (result, source) : Result (α × R)) = .ok (value, rest) ↔ _
  rw [Except.ok.injEq, Prod.mk.injEq]

theorem run_lift_eq_ok {outcome : Result α} {value : α} {source rest : R} :
    (liftM outcome : Sampling R α) source = .ok (value, rest) ↔
      outcome = .ok value ∧ source = rest := by
  change (outcome >>= fun result => Except.ok (result, source)) = .ok (value, rest) ↔ _
  simp [bind_eq_ok]

/-- What is made of randomness that a source is known to give. -/
theorem run_make_eq_ok {draw : Sampling R α} {make : α → Result β} {source rest : R}
    {drawn : α} {value : β} (run : draw source = .ok (drawn, rest)) :
    (draw >>= fun randomness => liftM (make randomness)) source = .ok (value, rest) ↔
      make drawn = .ok value := by
  rw [run_bind_eq_ok]
  constructor
  · rintro ⟨other, following, again, made⟩
    cases run.symm.trans again
    exact (run_lift_eq_ok.mp made).1
  · intro made
    exact ⟨drawn, rest, run, run_lift_eq_ok.mpr ⟨made, rfl⟩⟩

/-- A check before does not change this if nothing is made where it fails. -/
theorem run_checked_make_eq_ok {γ : Type} {check : Result γ} {draw : Sampling R α}
    {make : α → Result β} {source rest : R} {drawn : α} {value : β}
    (run : draw source = .ok (drawn, rest))
    (checked : make drawn = .ok value → ∃ found, check = .ok found) :
    (liftM check >>= fun _ => draw >>= fun randomness => liftM (make randomness)) source =
        .ok (value, rest) ↔ make drawn = .ok value := by
  rw [run_bind_eq_ok]
  constructor
  · rintro ⟨_, _, found, made⟩
    obtain ⟨-, rfl⟩ := run_lift_eq_ok.mp found
    exact (run_make_eq_ok run).mp made
  · intro made
    obtain ⟨found, passed⟩ := checked made
    exact ⟨found, source, run_lift_eq_ok.mpr ⟨passed, rfl⟩, (run_make_eq_ok run).mpr made⟩

/-- The sampling gives the value from some source. -/
def Gives (task : Sampling R α) (value : α) : Prop :=
  ∃ source rest, task source = .ok (value, rest)

theorem gives_of_run {task : Sampling R α} {source rest : R} {value : α}
    (run : task source = .ok (value, rest)) : Gives task value :=
  ⟨source, rest, run⟩

/-- What a sampling that succeeds gives from a source. -/
def valueFrom (task : Sampling R α) (source : R)
    (succeeds : (task source).toOption.isSome = true) : α :=
  ((task source).toOption.get succeeds).1

theorem gives_valueFrom (task : Sampling R α) (source : R)
    (succeeds : (task source).toOption.isSome = true) :
    Gives task (valueFrom task source succeeds) :=
  gives_of_run (eq_ok_get succeeds)

theorem Gives.bind {task : Sampling R α} {next : α → Sampling R β} {value : β}
    (gives : Gives (task >>= next) value) :
    ∃ middle, Gives task middle ∧ Gives (next middle) value := by
  obtain ⟨source, rest, run⟩ := gives
  obtain ⟨middle, following, first, second⟩ := run_bind_eq_ok.mp run
  exact ⟨middle, ⟨source, following, first⟩, following, rest, second⟩

theorem Gives.pure {result value : α}
    (gives : Gives (Pure.pure result : Sampling R α) value) : result = value := by
  obtain ⟨source, rest, run⟩ := gives
  exact (run_pure_eq_ok.mp run).1

theorem Gives.throw {failure : Error} {value : α}
    (gives : Gives (MonadExcept.throw failure : Sampling R α) value) : False := by
  obtain ⟨source, rest, run⟩ := gives
  change Except.error failure = .ok (value, rest) at run
  cases run

theorem Gives.lift {outcome : Result α} {value : α}
    (gives : Gives (liftM outcome : Sampling R α) value) : outcome = .ok value := by
  obtain ⟨source, rest, run⟩ := gives
  exact (run_lift_eq_ok.mp run).1

theorem Gives.guard {refused : Prop} [Decidable refused] {failure : Error}
    {next : Sampling R β} {value : β}
    (gives :
      Gives (if refused then (MonadExcept.throw failure : Sampling R α) >>= fun _ => next
        else next) value) :
    ¬ refused ∧ Gives next value := by
  split at gives
  · obtain ⟨_, thrown, -⟩ := gives.bind
    exact thrown.throw.elim
  · exact ⟨‹_›, gives⟩

theorem Gives.during {activity : String} {task : Sampling R α} {value : α}
    (gives : Gives (Sampling.during activity task) value) : Gives task value := by
  obtain ⟨source, rest, run⟩ := gives
  exact ⟨source, rest, during_eq_ok.mp run⟩

theorem Gives.forked {S : Suite} [RandomSource S R] {task : Sampling R α} {value : α}
    (gives : Gives (Sampling.forked S task) value) : Gives task value := by
  obtain ⟨source, rest, run⟩ := gives
  unfold Sampling.forked at run
  cases outcome : task (RandomSource.fork S source).1 with
  | error failure =>
      simp only [outcome] at run
      cases run
  | ok result =>
      simp only [outcome] at run
      cases run
      exact ⟨_, result.2, outcome⟩

/-- Values that a sampling gives for the items of a list are given one by
one. -/
theorem Gives.mapM {task : α → Sampling R β} {items : List α} {values : List β}
    (gives : Gives (items.mapM task) values) :
    List.Forall₂ (fun item value => Gives (task item) value) items values := by
  induction items generalizing values with
  | nil =>
      rw [List.mapM_nil] at gives
      cases gives.pure
      exact .nil
  | cons item items inductionHypothesis =>
      rw [List.mapM_cons] at gives
      obtain ⟨value, first, gives⟩ := gives.bind
      obtain ⟨rest, others, gives⟩ := gives.bind
      cases gives.pure
      exact .cons first (inductionHypothesis others)

theorem Gives.length_times {count : Nat} {draw : Sampling R α} {values : List α}
    (gives : Gives (times count draw) values) : values.length = count := by
  induction count generalizing values with
  | zero =>
      cases gives.pure
      rfl
  | succ count inductionHypothesis =>
      obtain ⟨first, -, gives⟩ := gives.bind
      obtain ⟨rest, others, gives⟩ := gives.bind
      cases gives.pure
      exact congrArg (· + 1) (inductionHypothesis others)

/-- What holds of everything that is drawn holds of the items of a list of
draws. -/
theorem Gives.forall_times {α : Type} {draw : Sampling R α} {property : α → Prop}
    (each : ∀ {value}, Gives draw value → property value) {count : Nat} {values : List α}
    (gives : Gives (times count draw) values) : ∀ value ∈ values, property value := by
  induction count generalizing values with
  | zero =>
      cases gives.pure
      exact fun _ none => nomatch none
  | succ count inductionHypothesis =>
      obtain ⟨first, drawn, gives⟩ := gives.bind
      obtain ⟨rest, others, gives⟩ := gives.bind
      cases gives.pure
      exact List.forall_mem_cons.mpr ⟨each drawn, inductionHypothesis others⟩

/-- The sampling gives a value whatever it draws. -/
def Succeeds (task : Sampling R α) : Prop :=
  ∀ source, ∃ value rest, task source = .ok (value, rest)

theorem succeeds_pure (value : α) : Succeeds (Pure.pure value : Sampling R α) :=
  fun source => ⟨value, source, rfl⟩

theorem succeeds_lift {outcome : Result α} {value : α} (found : outcome = .ok value) :
    Succeeds (liftM outcome : Sampling R α) := by
  subst found
  exact fun source => ⟨value, source, rfl⟩

/-- What follows a success has to succeed for what the first step can give. -/
theorem Succeeds.bind_gives {task : Sampling R α} {next : α → Sampling R β}
    (succeeds : Succeeds task)
    (following : ∀ value, Gives task value → Succeeds (next value)) :
    Succeeds (task >>= next) := by
  intro source
  obtain ⟨value, middle, first⟩ := succeeds source
  obtain ⟨result, rest, second⟩ := following value (gives_of_run first) middle
  exact ⟨result, rest, run_bind_eq_ok.mpr ⟨value, middle, first, second⟩⟩

theorem Succeeds.bind {task : Sampling R α} {next : α → Sampling R β}
    (succeeds : Succeeds task) (following : ∀ value, Succeeds (next value)) :
    Succeeds (task >>= next) :=
  succeeds.bind_gives fun value _ => following value

theorem Succeeds.during {activity : String} {task : Sampling R α}
    (succeeds : Succeeds task) : Succeeds (Sampling.during activity task) := by
  intro source
  obtain ⟨value, rest, run⟩ := succeeds source
  exact ⟨value, rest, during_eq_ok.mpr run⟩

theorem Succeeds.forked {S : Suite} [RandomSource S R] {task : Sampling R α}
    (succeeds : Succeeds task) : Succeeds (Sampling.forked S task) := by
  intro source
  obtain ⟨value, rest, run⟩ := succeeds (RandomSource.fork S source).1
  refine ⟨value, (RandomSource.fork S source).2, ?_⟩
  unfold Sampling.forked
  simp only [run]

theorem succeeds_mapM {task : α → Sampling R β} {items : List α}
    (each : ∀ item, Succeeds (task item)) : Succeeds (items.mapM task) := by
  induction items with
  | nil => exact succeeds_pure []
  | cons item items inductionHypothesis =>
      rw [List.mapM_cons]
      exact (each item).bind fun _ => inductionHypothesis.bind fun _ => succeeds_pure _

theorem succeeds_times {draw : Sampling R α} (drawn : Succeeds draw) {count : Nat} :
    Succeeds (times count draw) := by
  induction count with
  | zero => exact succeeds_pure []
  | succ count inductionHypothesis =>
      exact drawn.bind fun _ => inductionHypothesis.bind fun _ => succeeds_pure _

theorem succeeds_scalar {S : Suite} [RandomSource S R] :
    Succeeds (scalar : Sampling R S.Scalar) :=
  fun _ => ⟨_, _, rfl⟩

theorem succeeds_scalars {S : Suite} [RandomSource S R] {count : Nat} :
    Succeeds (scalars count : Sampling R (List S.Scalar)) :=
  succeeds_times succeeds_scalar

/-- Where the step for an item only draws and makes its value of what is drawn,
so do the steps for all items. -/
theorem run_mapM_of_draws {γ : Type} {task : α → Sampling R γ} {draw : Sampling R β}
    {value : α → β → γ} {items : List α}
    (each : ∀ item ∈ items, ∀ {source rest : R} {drawn : β},
      draw source = .ok (drawn, rest) →
      task item source = .ok (value item drawn, rest))
    {source rest : R} {drawn : List β}
    (run : times items.length draw source = .ok (drawn, rest)) :
    items.mapM task source = .ok (List.zipWith value items drawn, rest) := by
  induction items generalizing source drawn with
  | nil =>
      obtain ⟨rfl, rfl⟩ := run_pure_eq_ok.mp run
      rfl
  | cons item items inductionHypothesis =>
      obtain ⟨eachFirst, eachRest⟩ := List.forall_mem_cons.mp each
      obtain ⟨first, following, head, run⟩ := run_bind_eq_ok.mp run
      obtain ⟨others, after, tail, run⟩ := run_bind_eq_ok.mp run
      obtain ⟨rfl, rfl⟩ := run_pure_eq_ok.mp run
      rw [List.mapM_cons]
      exact run_bind_eq_ok.mpr ⟨_, _, eachFirst head,
        run_bind_eq_ok.mpr ⟨_, _, inductionHypothesis eachRest tail, rfl⟩⟩

/-- The sampling fails in the same way whatever it draws. -/
def Fails (task : Sampling R α) (failure : Error) : Prop :=
  ∀ source, task source = .error failure

theorem Fails.bind {task : Sampling R α} {next : α → Sampling R β} {failure : Error}
    (fails : Fails task failure) : Fails (task >>= next) failure := by
  intro source
  change (task source >>= fun (value, rest) => next value rest) = _
  rw [fails source]
  rfl

theorem Fails.during {activity : String} {task : Sampling R α} {failure : Error}
    (fails : Fails task failure) :
    Fails (Sampling.during activity task) (.context activity failure) := by
  intro source
  rw [Sampling.during, fails source, ConfidentialToken.during]

/-- What follows a success decides about the failure. -/
theorem Succeeds.bind_fails {task : Sampling R α} {next : α → Sampling R β}
    {failure : Error} (succeeds : Succeeds task)
    (fails : ∀ value, Gives task value → Fails (next value) failure) :
    Fails (task >>= next) failure := by
  intro source
  obtain ⟨value, rest, run⟩ := succeeds source
  change (task source >>= fun (value, rest) => next value rest) = _
  rw [run]
  exact fails value (gives_of_run run) rest

/-- The first item whose step fails decides about the failure. -/
theorem fails_mapM {task : α → Sampling R β} {before after : List α} {item : α}
    {failure : Error} (succeed : ∀ earlier ∈ before, Succeeds (task earlier))
    (fails : Fails (task item) failure) :
    Fails ((before ++ item :: after).mapM task) failure := by
  induction before with
  | nil =>
      rw [List.nil_append, List.mapM_cons]
      exact fails.bind
  | cons earlier before inductionHypothesis =>
      obtain ⟨first, rest⟩ := List.forall_mem_cons.mp succeed
      rw [List.cons_append, List.mapM_cons]
      exact first.bind_fails fun _ _ => (inductionHypothesis rest).bind

/-- A source that gives the scalars of a list, in their order. -/
structure Tape (S : Suite) where
  scalars : List S.Scalar

section Tape

variable {S : Suite}

instance : RandomSource S (Tape S) where
  scalar
    | ⟨[]⟩ => (0, ⟨[]⟩)
    | ⟨first :: rest⟩ => (first, ⟨rest⟩)
  g1 tape := (0, tape)
  g2 tape := (0, tape)
  fork tape := (tape, tape)

/-- Scalars are drawn from a tape by cutting them off. -/
theorem run_scalars_eq_ok {count : Nat} {tape rest drawn : List S.Scalar}
    (enough : count ≤ tape.length) :
    (scalars count : Sampling (Tape S) (List S.Scalar)) ⟨tape⟩ = .ok (drawn, ⟨rest⟩) ↔
      drawn.length = count ∧ tape = drawn ++ rest := by
  induction count generalizing tape drawn with
  | zero =>
      refine run_pure_eq_ok.trans ?_
      rw [List.length_eq_zero_iff, Tape.mk.injEq, eq_comm]
      refine and_congr_right fun empty => ?_
      rw [empty, List.nil_append]
  | succ count inductionHypothesis =>
      obtain ⟨first, tape, rfl⟩ := List.exists_cons_of_length_pos (Nat.lt_of_lt_of_le
        (Nat.succ_pos count) enough)
      have fewer : count ≤ tape.length := by simpa using enough
      refine run_bind_eq_ok.trans ⟨?_, ?_⟩
      · rintro ⟨_, _, head, run⟩
        cases head
        obtain ⟨others, following, run, made⟩ := run_bind_eq_ok.mp run
        obtain ⟨rfl, rfl⟩ := run_pure_eq_ok.mp made
        obtain ⟨length, rfl⟩ := (inductionHypothesis fewer).mp run
        exact ⟨congrArg (· + 1) length, rfl⟩
      · rintro ⟨length, split⟩
        obtain ⟨_, others, rfl⟩ := List.exists_cons_of_length_eq_add_one length
        obtain ⟨rfl, rfl⟩ := List.cons.inj split
        exact ⟨first, ⟨others ++ rest⟩, rfl, run_bind_eq_ok.mpr ⟨others, ⟨rest⟩,
          (inductionHypothesis fewer).mpr ⟨Nat.succ.inj length, rfl⟩, rfl⟩⟩

theorem run_scalars_bind_eq_ok {count : Nat} {tape : List S.Scalar}
    {next : List S.Scalar → Sampling (Tape S) β} {result : β × Tape S}
    (enough : count ≤ tape.length) :
    (scalars count >>= next) (⟨tape⟩ : Tape S) = .ok result ↔
      ∃ drawn rest, drawn.length = count ∧ tape = drawn ++ rest ∧
        next drawn ⟨rest⟩ = .ok result := by
  refine run_bind_eq_ok.trans ⟨?_, ?_⟩
  · rintro ⟨drawn, ⟨rest⟩, run, following⟩
    obtain ⟨length, split⟩ := (run_scalars_eq_ok enough).mp run
    exact ⟨drawn, rest, length, split, following⟩
  · rintro ⟨drawn, rest, length, split, following⟩
    exact ⟨drawn, ⟨rest⟩, (run_scalars_eq_ok enough).mpr ⟨length, split⟩, following⟩

theorem run_scalars_bind_append {count : Nat} {drawn rest : List S.Scalar}
    {next : List S.Scalar → Sampling (Tape S) β} {result : β × Tape S}
    (length : drawn.length = count) (run : next drawn ⟨rest⟩ = .ok result) :
    (scalars count >>= next) (⟨drawn ++ rest⟩ : Tape S) = .ok result :=
  (run_scalars_bind_eq_ok (by simp [length])).mpr ⟨drawn, rest, length, rfl, run⟩

/-- A tape is cut in two. -/
theorem exists_append_of_length {tape : List S.Scalar} {count others : Nat}
    (length : tape.length = count + others) :
    ∃ drawn rest, drawn.length = count ∧ rest.length = others ∧ tape = drawn ++ rest :=
  ⟨tape.take count, tape.drop count, by simp [length], by simp [length],
    (List.take_append_drop count tape).symm⟩

section

variable (S)

/-- The value is given for exactly one choice of the scalars that are drawn. -/
def GivenOnce (task : Sampling (Tape S) α) (count : Nat) (value : α) : Prop :=
  ∃! scalars : List S.Scalar, scalars.length = count ∧ task ⟨scalars⟩ = .ok (value, ⟨[]⟩)

/-- The choices of a number of scalars. -/
abbrev Choice (count : Nat) : Type :=
  { scalars : List S.Scalar // scalars.length = count }

/-- Two tasks are distributed alike: the choices of scalars for one correspond
to those for the other, and corresponding choices have one outcome. -/
def Alike (first second : Sampling (Tape S) α) (count : Nat) : Prop :=
  ∃ matching : Equiv.Perm (Choice S count),
    ∀ scalars : Choice S count, first ⟨scalars⟩ = second ⟨matching scalars⟩

/-- What a task gives is accepted, and all that is accepted is given for exactly
one choice of the scalars that are drawn. -/
structure Covers (task : Sampling (Tape S) α) (count : Nat) (accepted : α → Prop) :
    Prop where
  sound : ∀ scalars : List S.Scalar, scalars.length = count →
    ∃ value, accepted value ∧ task ⟨scalars⟩ = .ok (value, ⟨[]⟩)
  once : ∀ value, accepted value → GivenOnce S task count value

end

/-- A task that makes its value from scalars in parts covers what is accepted if
the parts can be read off an accepted value. -/
theorem Covers.of_parts {parts : Type} {task : Sampling (Tape S) α} {count : Nat}
    {accepted : α → Prop} {sized : parts → Prop} {scalars : parts → List S.Scalar}
    {make : parts → Result α} {read : α → parts}
    (length : ∀ {drawn}, sized drawn → (scalars drawn).length = count)
    (split : ∀ {tape : List S.Scalar}, tape.length = count →
      ∃ drawn, sized drawn ∧ tape = scalars drawn)
    (runs : ∀ {drawn value}, sized drawn →
      (task ⟨scalars drawn⟩ = .ok (value, ⟨[]⟩) ↔ make drawn = .ok value))
    (sound : ∀ {drawn}, sized drawn → ∃ value, accepted value ∧ make drawn = .ok value)
    (sizedRead : ∀ {value}, accepted value → sized (read value))
    (made : ∀ {drawn value}, accepted value → sized drawn →
      (make drawn = .ok value ↔ drawn = read value)) :
    Covers S task count accepted := by
  constructor
  · intro tape tapeLength
    obtain ⟨drawn, drawnSized, rfl⟩ := split tapeLength
    obtain ⟨value, accepts, given⟩ := sound drawnSized
    exact ⟨value, accepts, (runs drawnSized).mpr given⟩
  · intro value accepts
    have readSized := sizedRead accepts
    refine ⟨scalars (read value),
      ⟨length readSized, (runs readSized).mpr ((made accepts readSized).mpr rfl)⟩, ?_⟩
    rintro tape ⟨tapeLength, run⟩
    obtain ⟨drawn, drawnSized, rfl⟩ := split tapeLength
    rw [(made accepts drawnSized).mp ((runs drawnSized).mp run)]

/-- Each choice of scalars gives a value, and each value belongs to one
choice. -/
theorem Covers.exists_equiv {task : Sampling (Tape S) α} {count : Nat}
    {accepted : α → Prop} (covers : Covers S task count accepted) :
    ∃ given : Choice S count ≃ { value // accepted value },
      ∀ scalars : Choice S count, task ⟨scalars⟩ = .ok (given scalars, ⟨[]⟩) := by
  choose value accepts runs using covers.sound
  let given (scalars : Choice S count) : { value // accepted value } :=
    ⟨_, accepts _ scalars.property⟩
  have bijective : Function.Bijective given := by
    constructor
    · intro left right same
      have values : value _ left.property = value _ right.property :=
        congrArg Subtype.val same
      have run := runs _ right.property
      rw [← values] at run
      exact Subtype.ext ((covers.once _ (accepts _ left.property)).unique
        ⟨left.property, runs _ _⟩ ⟨right.property, run⟩)
    · rintro ⟨other, membership⟩
      obtain ⟨scalars, length, run⟩ := (covers.once other membership).exists
      refine ⟨⟨scalars, length⟩, Subtype.ext ?_⟩
      exact (Prod.mk.inj (Except.ok.inj ((runs _ length).symm.trans run))).1
  exact ⟨.ofBijective given bijective, fun scalars => runs _ scalars.property⟩

/-- Tasks that cover the same values are distributed alike. -/
theorem Covers.alike {first second : Sampling (Tape S) α} {count : Nat}
    {accepted : α → Prop} (firstCovers : Covers S first count accepted)
    (secondCovers : Covers S second count accepted) : Alike S first second count := by
  obtain ⟨left, leftRuns⟩ := firstCovers.exists_equiv
  obtain ⟨right, rightRuns⟩ := secondCovers.exists_equiv
  refine ⟨left.trans right.symm, fun scalars => ?_⟩
  rw [leftRuns, rightRuns, Equiv.trans_apply, Equiv.apply_symm_apply]

end Tape

end ConfidentialToken.Sampling
