import Mathlib.Algebra.BigOperators.Group.Finset.Basic
import ConfidentialToken.Proofs.Bn254.Exponents
import ConfidentialToken.Proofs.DigitRange.Completeness

/-!
Which values have range proofs by digits.

A prover with a fresh table proves exactly the values that have as many digits
as the table asks for, and the commitments in its proof are to these digits,
with the blinding factors in the order in which they are drawn.
-/

namespace ConfidentialToken.DigitRange

open PsSignature

open Finset (range)

variable {S : Suite}

/-- The digit of a number at a place, to a base. -/
def digitAt (base place number : Nat) : Nat :=
  number / base ^ place % base

/-- The digits at the first places add up to the rest by the power that
follows. -/
theorem sum_digitAt (base count number : Nat) :
    ∑ place ∈ range count, digitAt base place number * base ^ place =
      number % base ^ count := by
  induction count with
  | zero => simp [Nat.mod_one]
  | succ count inductionHypothesis =>
      rw [Finset.sum_range_succ, inductionHypothesis, Nat.mod_pow_succ, digitAt,
        Nat.mul_comm]

theorem map_toNat_digitsOf (base : UInt64) (count : Nat) (value : UInt64) :
    (digitsOf base count value).map UInt64.toNat =
      (List.range count).map fun place => digitAt base.toNat place value.toNat := by
  induction count generalizing value with
  | zero => rfl
  | succ count inductionHypothesis =>
      rw [digitsOf, List.map_cons, inductionHypothesis, List.range_succ_eq_map,
        List.map_cons, List.map_map]
      refine congrArg₂ List.cons ?_ (List.map_congr_left fun place _ => ?_)
      · simp [digitAt]
      · rw [Function.comp_apply, digitAt, digitAt, UInt64.toNat_div,
          Nat.div_div_eq_div_mul, Nat.pow_succ']

theorem lt_of_mem_digitsOf {base : UInt64} (positive : 0 < base.toNat) {count : Nat}
    {value digit : UInt64} (membership : digit ∈ digitsOf base count value) :
    digit.toNat < base.toNat := by
  have among := List.mem_map_of_mem (f := UInt64.toNat) membership
  rw [map_toNat_digitsOf] at among
  obtain ⟨place, -, same⟩ := List.mem_map.mp among
  exact same ▸ Nat.mod_lt _ positive

namespace Statement

variable {statement : Statement S}

/-- A digit with its commitment and the signature for it in the table. -/
def committedDigit (statement : Statement S) (digit : UInt64) (factor : S.Scalar) :
    CommittedDigit S where
  commitment := linearCombination statement.digitGenerators [wordScalar digit, factor]
  witness :=
    ⟨statement.parameters.signatures.getD digit.toNat ⟨0, 0⟩, wordScalar digit, factor⟩

/-- The digits of a value with given blinding factors. -/
def committedDigits (statement : Statement S) (value : UInt64) (factors : List S.Scalar) :
    List (CommittedDigit S) :=
  List.zipWith statement.committedDigit
    (digitsOf statement.parameters.base statement.parameters.exponent.toNat value) factors

/-- The commitments to the digits of a number, with given blinding factors. -/
def digitCommitments (statement : Statement S) (number : Nat) (factors : List S.Scalar) :
    List S.G1 :=
  List.zipWith
    (fun place factor => linearCombination statement.digitGenerators
      [ScalarOperations.ofNat (digitAt statement.parameters.base.toNat place number),
        factor])
    (List.range statement.parameters.exponent.toNat) factors

theorem map_commitment_committedDigits (value : UInt64) (factors : List S.Scalar) :
    (statement.committedDigits value factors).map CommittedDigit.commitment =
      statement.digitCommitments value.toNat factors := by
  have numbers := map_toNat_digitsOf statement.parameters.base
    statement.parameters.exponent.toNat value
  have commitments (digits : List UInt64) :
      (List.zipWith statement.committedDigit digits factors).map
        CommittedDigit.commitment =
        List.zipWith (fun digit factor => linearCombination statement.digitGenerators
          [ScalarOperations.ofNat digit, factor]) (digits.map UInt64.toNat) factors := by
    rw [List.map_zipWith, List.zipWith_map_left]
    rfl
  rw [committedDigits, commitments, numbers, List.zipWith_map_left, digitCommitments]

/-- A table with a signature for every digit. -/
structure Tabled (statement : Statement S) : Prop where
  shape : checkShape statement.parameters.base statement.parameters.exponent = .ok ()
  keyParts : statement.parameters.keyParts.length = 3
  signatures : statement.parameters.signatures.length = statement.parameters.base.toNat
  certified : statement.parameters.Certified

section Run

variable {R : Type} [RandomSource S R]

theorem run_decompose (tabled : statement.Tabled) {opening : Opening S}
    (within : opening.value ≤ statement.parameters.maxValue) {source rest : R}
    {factors : List S.Scalar}
    (drawn : Sampling.scalars statement.parameters.exponent.toNat source =
      .ok (factors, rest)) :
    statement.decompose opening source =
      .ok (statement.committedDigits opening.value factors, rest) := by
  obtain ⟨_, shape⟩ := checkShape_eq_ok.mp tabled.shape
  have positive : 0 < statement.parameters.base.toNat :=
    Nat.lt_of_lt_of_le Nat.two_pos shape.two_le
  rw [decompose, if_neg (UInt64.not_lt.mpr within)]
  have each :
    ∀ digit ∈ digitsOf statement.parameters.base statement.parameters.exponent.toNat
      opening.value, ∀ {source rest : R} {factor : S.Scalar},
      Sampling.scalar source = .ok (factor, rest) →
      (do statement.commitDigit digit (← Sampling.scalar) : Sampling R _) source =
        .ok (statement.committedDigit digit factor, rest) := by
    intro digit membership source rest factor drawn
    -- The digits are below the base, so that the table has a signature for each
    -- of them.
    have inTable : digit.toNat < statement.parameters.signatures.length :=
      tabled.signatures ▸ lt_of_mem_digitsOf positive membership
    refine Sampling.run_bind_eq_ok.mpr
      ⟨factor, rest, drawn, Sampling.run_lift_eq_ok.mpr ⟨?_, rfl⟩⟩
    simp [commitDigit, committedDigit, inTable]
  exact Sampling.run_mapM_of_draws each ((length_digitsOf _ _ _).symm ▸ drawn)

theorem run_decomposeAll (tabled : statement.Tabled) {openings : List (Opening S)}
    (within : ∀ opening ∈ openings, opening.value ≤ statement.parameters.maxValue)
    {source rest : R} {factors : List (List S.Scalar)}
    (drawn : Sampling.times openings.length
      (Sampling.scalars statement.parameters.exponent.toNat) source =
        .ok (factors, rest)) :
    openings.mapM statement.decompose source =
      .ok (List.zipWith (fun opening => statement.committedDigits opening.value)
        openings factors, rest) :=
  Sampling.run_mapM_of_draws
    (fun opening membership _ _ _ => run_decompose tabled (within opening membership))
    drawn

theorem succeeds_decompose (tabled : statement.Tabled) {opening : Opening S}
    (within : opening.value ≤ statement.parameters.maxValue) :
    Sampling.Succeeds (R := R) (statement.decompose opening) := by
  intro source
  obtain ⟨factors, rest, drawn⟩ : ∃ factors rest, Sampling.scalars (S := S)
      statement.parameters.exponent.toNat source = .ok (factors, rest) :=
    Sampling.succeeds_scalars source
  exact ⟨_, rest, run_decompose tabled within drawn⟩

theorem succeeds_proveMembership (tabled : statement.Tabled)
    (three : statement.generators.length = 3) (digits : List (List (CommittedDigit S))) :
    Sampling.Succeeds (R := R) (statement.proveMembership digits) := by
  have sizes (commitment : S.G1) :
      (statement.membership commitment).checkSizes = .ok () :=
    MembershipProof.Statement.checkSizes_eq_ok.mpr
      ⟨tabled.keyParts, by simp [membership, digitGenerators, three]⟩
  rw [proveMembership]
  refine Sampling.Succeeds.bind (Sampling.succeeds_mapM fun digit => ?_) fun _ =>
    Sampling.succeeds_pure _
  exact (MembershipProof.Statement.succeeds_prove (sizes digit.commitment)
    digit.witness).forked

theorem succeeds_sampleEquality {count : Nat} :
    Sampling.Succeeds (R := R) (sampleEquality (S := S) count) :=
  Sampling.succeeds_scalar.bind fun _ => Sampling.succeeds_scalars.bind fun _ =>
    Sampling.succeeds_scalars.bind fun _ => Sampling.succeeds_scalars.bind fun _ =>
      Sampling.succeeds_pure _

theorem exists_run_prove (tabled : statement.Tabled) {openings : List (Opening S)}
    {tokenType : String} (nonempty : openings ≠ [])
    (opens : OpenAll statement.generators tokenType openings statement.tokens)
    (within : ∀ opening ∈ openings, opening.value ≤ statement.parameters.maxValue)
    (source : R) :
    ∃ proof rest factors after,
      statement.prove openings source = .ok (proof, rest) ∧
      Sampling.times openings.length
        (Sampling.scalars statement.parameters.exponent.toNat)
        source = .ok (factors, after) ∧
      proof.digits.map DigitProofs.commitments =
        List.zipWith (fun opening => statement.digitCommitments opening.value.toNat)
          openings factors := by
  have checked := checkOpenings_of_openAll nonempty tabled.shape opens
  obtain ⟨-, -, three, -, -⟩ := checkOpenings_eq_ok.mp checked
  obtain ⟨_, shape⟩ := checkShape_eq_ok.mp tabled.shape
  obtain ⟨factors, after, drawn⟩ : ∃ factors after, Sampling.times openings.length
      (Sampling.scalars (S := S) statement.parameters.exponent.toNat) source =
        .ok (factors, after) :=
    Sampling.succeeds_times Sampling.succeeds_scalars source
  have decomposed := run_decomposeAll tabled within drawn
  obtain ⟨digitProofs, following, proved⟩ := succeeds_proveMembership tabled three
    (List.zipWith (fun opening => statement.committedDigits opening.value) openings
      factors) after
  obtain ⟨randomness, rest, sampled⟩ : ∃ randomness rest,
      sampleEquality (S := S) openings.length following = .ok (randomness, rest) :=
    succeeds_sampleEquality following
  have decomposes := (Sampling.gives_of_run decomposed).mapM.imp fun _ _ given =>
    decompose_gives tabled.certified given
  have made :=
    proveMembership_gives shape.positive (Decomposes.forall_length_eq decomposes)
      (Sampling.gives_of_run proved)
  -- The steps of the prover follow one another, each from the source that the
  -- last one has left.
  refine ⟨_, rest, factors, after, Sampling.run_bind_eq_ok.mpr ⟨_, _,
    Sampling.run_lift_eq_ok.mpr ⟨checked, rfl⟩,
    Sampling.run_bind_eq_ok.mpr ⟨_, _, decomposed,
      Sampling.run_bind_eq_ok.mpr
        ⟨_, _, proved, Sampling.run_bind_eq_ok.mpr ⟨_, _, sampled, rfl⟩⟩⟩⟩, drawn, ?_⟩
  simp only [Proves.map_commitments made, List.map_zipWith,
    map_commitment_committedDigits]

theorem fails_prove (tabled : statement.Tabled) {openings : List (Opening S)}
    {tokenType : String} {opening : Opening S}
    (opens : OpenAll statement.generators tokenType openings statement.tokens)
    (large : openings.find? (statement.parameters.maxValue < ·.value) = some opening) :
    Sampling.Fails (R := R) (statement.prove openings)
      (.outOfRange opening.value statement.parameters.maxValue) := by
  obtain ⟨exceeds, before, rest, rfl, earlier⟩ := List.find?_eq_some_iff_append.mp large
  have checked := checkOpenings_of_openAll (by simp) tabled.shape opens
  refine (Sampling.succeeds_lift checked).bind_fails fun _ _ => Sampling.Fails.bind ?_
  refine Sampling.fails_mapM (fun other membership => succeeds_decompose tabled ?_) ?_
  · simpa using earlier other membership
  · rw [decompose, if_pos (of_decide_eq_true exceeds)]
    exact Sampling.Fails.bind fun _ => rfl

end Run

end Statement

/-- With a fresh table for a base and a number of digits, the values below the
power are proven and verified, with commitments to all their digits, and the
first value from the power on is refused. -/
theorem proves_exactly_below_power [BilinearPairing S] {R Q : Type} [RandomSource S R]
    [RandomSource S Q] {base exponent : UInt64} (two_le : 2 ≤ base.toNat)
    (positive : 1 ≤ exponent.toNat) (bounded : base.toNat ^ exponent.toNat < 2 ^ 64)
    (source : R) :
    let max := base.toNat ^ exponent.toNat - 1
    ∃ (parameters : Parameters S) (rest : R),
      Parameters.generate base exponent source = .ok (parameters, rest) ∧
      (∃ constant message hash following,
        KeyPair.generate 1 source =
          .ok (.ofSecret parameters.keyBase [constant, message, hash], following) ∧
        parameters.SignedUnder constant message hash) ∧
      parameters.base = base ∧ parameters.exponent = exponent ∧
        parameters.maxValue.toNat = max ∧
      ∀ (statement : Statement S) (openings : List (Opening S)) (tokenType : String)
        (coins : Q), statement.parameters = parameters → openings ≠ [] →
        OpenAll statement.generators tokenType openings statement.tokens →
        ((∀ opening ∈ openings, opening.value.toNat ≤ max) →
          (∃ proof rest factors after,
            statement.prove openings coins = .ok (proof, rest) ∧
            statement.verify proof = .ok () ∧
            Sampling.times openings.length (Sampling.scalars exponent.toNat) coins =
              .ok (factors, after) ∧
            proof.digits.map DigitProofs.commitments =
              List.zipWith (fun opening => statement.digitCommitments opening.value.toNat)
                openings factors) ∧
          ∀ opening ∈ openings,
            ∑ place ∈ range exponent.toNat,
              digitAt base.toNat place opening.value.toNat * base.toNat ^ place =
                opening.value.toNat) ∧
        ∀ opening, openings.find? (max < ·.value.toNat) = some opening →
          statement.prove openings coins =
            .error (.outOfRange opening.value parameters.maxValue) := by
  intro max
  have power :
      (UInt64.ofNat (base.toNat ^ exponent.toNat)).toNat = base.toNat ^ exponent.toNat :=
    UInt64.toNat_ofNat_of_lt bounded
  have checked : checkShape base exponent = .ok () :=
    checkShape_eq_ok.mpr ⟨_, two_le, positive, power⟩
  obtain ⟨parameters, rest, run⟩ := Parameters.succeeds_generate (S := S) checked source
  obtain ⟨rfl, rfl, constant, message, hash, following, generated, signedUnder⟩ :=
    Parameters.signedUnder_of_run run
  have maxValue : parameters.maxValue.toNat = max := Parameters.toNat_maxValue checked
  refine ⟨parameters, rest, run,
    ⟨constant, message, hash, following, generated, signedUnder⟩, rfl, rfl,
    maxValue, ?_⟩
  rintro statement openings tokenType coins rfl nonempty opens
  have tabled : statement.Tabled :=
    ⟨checked, by simp [signedUnder.keyParts], signedUnder.length, signedUnder.certified⟩
  refine ⟨fun within => ?_, fun opening large => ?_⟩
  · have inRange : ∀ opening ∈ openings, opening.value ≤ statement.parameters.maxValue :=
      fun opening membership =>
        UInt64.le_iff_toNat_le.mpr (maxValue ▸ within opening membership)
    obtain ⟨proof, rest, factors, after, proved, drawn, commitments⟩ :=
      Statement.exists_run_prove tabled nonempty opens inRange coins
    have verified : statement.verify proof = .ok () :=
      Statement.verify_prove tabled.certified opens (Sampling.gives_of_run proved)
    refine ⟨⟨proof, rest, factors, after, proved, verified, drawn, commitments⟩, ?_⟩
    intro opening membership
    have below := Parameters.lt_of_le_maxValue checked (inRange opening membership)
    rw [sum_digitAt, Nat.mod_eq_of_lt below]
  · have found :
        openings.find? (statement.parameters.maxValue < ·.value) = some opening := by
      simpa only [UInt64.lt_iff_toNat_lt, maxValue] using large
    exact Statement.fails_prove tabled opens found coins

/-- With two digits and three places `5` and `7` are proven, and `8` is
refused. -/
theorem proves_below_eight :
    let generators : List Bn254.exponentSuite.G1 := [3, 5, 7]
    let openings (last : UInt64) : List (Opening Bn254.exponentSuite) :=
      [⟨"ABC", 5, 11⟩, ⟨"ABC", last, 13⟩]
    let tokens (last : UInt64) := (openings last).map fun opening =>
      linearCombination generators
        [typeScalar opening.tokenType, wordScalar opening.value, opening.blindingFactor]
    ∃ parameters rest, Parameters.generate 2 3 (⟨1⟩ : Bn254.Counter) =
      .ok (parameters, rest) ∧
      (∃ proof after,
        Statement.prove ⟨tokens 7, generators, parameters⟩ (openings 7)
          (⟨20⟩ : Bn254.Counter) =
          .ok (proof, after) ∧
        Statement.verify ⟨tokens 7, generators, parameters⟩ proof = .ok () ∧
        proof.digits.map DigitProofs.commitments = [[103, 105, 113], [118, 123, 128]]) ∧
      Statement.prove ⟨tokens 8, generators, parameters⟩ (openings 8)
        (⟨20⟩ : Bn254.Counter) =
        .error (.outOfRange 8 parameters.maxValue) := by
  intro generators openings tokens
  have opens (last : UInt64) : OpenAll generators "ABC" (openings last) (tokens last) :=
    ⟨by simp [openings], List.forall₂_map_right_iff.mpr
      (List.forall₂_same.mpr fun _ _ => Opening.commit_eq_ok.mpr ⟨rfl, rfl⟩)⟩
  obtain ⟨parameters, rest, run, -, base, exponent, -, proven⟩ :=
    proves_exactly_below_power (S := Bn254.exponentSuite) (R := Bn254.Counter)
      (Q := Bn254.Counter) (by decide : 2 ≤ (2 : UInt64).toNat)
      (by decide : 1 ≤ (3 : UInt64).toNat) (by decide) ⟨1⟩
  refine ⟨parameters, rest, run, ?_, ?_⟩
  · obtain ⟨⟨proof, after, factors, last, proved, verified, drawn, commitments⟩, -⟩ :=
      (proven ⟨tokens 7, generators, parameters⟩ (openings 7) "ABC" ⟨20⟩ rfl
        (by simp [openings]) (opens 7)).1 (by simp [openings])
    have sampled : Sampling.times 2 (Sampling.scalars (S := Bn254.exponentSuite) 3)
        (⟨20⟩ : Bn254.Counter) = .ok ([[20, 21, 22], [23, 24, 25]], ⟨26⟩) :=
      rfl
    cases sampled.symm.trans drawn
    refine ⟨proof, after, proved, verified, commitments.trans ?_⟩
    unfold Statement.digitCommitments
    simp only [Statement.digitGenerators, base, exponent]
    decide +kernel
  · exact (proven ⟨tokens 8, generators, parameters⟩ (openings 8) "ABC" ⟨20⟩ rfl
      (by simp [openings]) (opens 8)).2 ⟨"ABC", 8, 13⟩ rfl

end ConfidentialToken.DigitRange
