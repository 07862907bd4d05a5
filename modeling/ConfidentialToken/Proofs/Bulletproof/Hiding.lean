import ConfidentialToken.Proofs.Bn254.Exponents
import ConfidentialToken.Proofs.Bulletproof.Completeness
import ConfidentialToken.Proofs.Bulletproof.Compression

/-!
Range proofs over bits do not tell the value.

A prover hands two vectors on to the inner product argument. Whatever two
vectors a proof fits, any opening of the commitment leads to these vectors and
to this proof for exactly one choice of the scalars that are drawn: the vectors
determine the blinding vectors, and all commitments are hidden by multiples of
bases. Two openings hence lead to a proof equally often. The vectors are part of
this, as an argument for eight entries or more fits several of them.
-/

namespace ConfidentialToken.Bulletproof

variable {S : Suite} [LawfulG1 S]

theorem Statement.Evaluates.fits {statement : Statement S} {proof : RangeProof S}
    {left right : List S.Scalar} (evaluates : statement.Evaluates proof left right)
    (sized : statement.parameters.Sized) :
    left.length = statement.parameters.bitLength.toNat ∧
      right.length = statement.parameters.bitLength.toNat ∧
      ∀ index : Fin statement.parameters.bitLength.toNat,
        (statement.challenges proof).y ^ index.val ≠ 0 := by
  obtain ⟨-, -, scaled, scaling, -, proved⟩ := evaluates
  obtain ⟨-, left, right, -⟩ := InnerProduct.prove_eq_ok.mp proved
  obtain ⟨generators, generatorsEq⟩ := exists_ofFn sized.right
  rw [generatorsEq, powers_eq, scaleRight_eq_ok] at scaling
  exact ⟨left.trans sized.left, right.trans sized.left, scaling.1⟩

/-- From eight bits on a proof fits several right vectors. -/
theorem Statement.Evaluates.exists_other {statement : Statement S}
    {proof : RangeProof S} {left right : List S.Scalar} {log : S.G1 → S.Scalar}
    {generator : S.G1} (evaluates : statement.Evaluates proof left right)
    (logarithm : IsLogarithm log generator) (sized : statement.parameters.Sized)
    (wide : 8 ≤ statement.parameters.bitLength.toNat) :
    ∃ other, other ≠ right ∧ statement.Evaluates proof left other := by
  obtain ⟨announced, product, scaled, scaling, opened, proved⟩ := evaluates
  have rounds : 3 ≤ statement.parameters.rounds.toNat := by
    have length : statement.parameters.leftGenerators.length =
      2 ^ statement.parameters.rounds.toNat := (InnerProduct.prove_eq_ok.mp proved).1.left
    rw [sized.left] at length
    by_contra few
    have small : 2 ^ statement.parameters.rounds.toNat ≤ 2 ^ 2 :=
      Nat.pow_le_pow_right (by decide) (by omega)
    omega
  obtain ⟨other, different, committed, products, again⟩ :=
    InnerProduct.exists_other_right logarithm rounds proved
  refine ⟨other, different, announced, product.trans products.symm, scaled, scaling,
    ?_, ?_⟩
  · exact opened.trans (congrArg _ committed.symm)
  · rw [Parameters.collapsed, show linearCombination scaled other = _ from committed]
    exact again

/-- Entries that are scaled by factors without a zero, and moved, determine the
given ones. -/
theorem existsUnique_scaled {count : Nat} (moves : Fin count → S.Scalar)
    {factors : Fin count → S.Scalar} (nonzero : ∀ index, factors index ≠ 0)
    {list : List S.Scalar} (length : list.length = count) :
    ∃! entries : Fin count → S.Scalar,
      List.ofFn (fun index => moves index + factors index * entries index) = list := by
  obtain ⟨list, rfl⟩ := exists_ofFn length
  refine ⟨fun index => (list index - moves index) / factors index, ?_, ?_⟩
  · refine congrArg List.ofFn (funext fun index => ?_)
    rw [mul_div_cancel₀ _ (nonzero index), add_sub_cancel]
  · intro entries same
    funext index
    rw [eq_div_iff (nonzero index), mul_comm, eq_sub_iff_add_eq']
    exact congrFun (List.ofFn_injective same) index

namespace Statement

variable {statement : Statement S} {value : UInt64} {factor : S.Scalar}
  {proof : RangeProof S}

/-- Whoever can open the commitment makes a proof with all vectors that it
fits. -/
theorem Evaluates.makes {logP logH : S.G1 → S.Scalar}
    {u v : Fin statement.parameters.bitLength.toNat → S.Scalar}
    (evaluates : statement.Evaluates proof
      (statement.leftAt (statement.challenges proof) value u)
      (statement.rightAt (statement.challenges proof) value v))
    (sized : statement.parameters.Sized) (opens : statement.Opens value factor)
    (ofP : IsLogarithm logP statement.parameters.p) (ofH : IsLogarithm logH statement.h) :
    let bits := statement.bits value
    let challenges := statement.challenges proof
    statement.Makes value factor u v
      (logP (proof.c - commitVectors statement.parameters (List.ofFn bits)
        (List.ofFn fun index => bits index - 1)))
      (logP (proof.d - commitVectors statement.parameters (List.ofFn u) (List.ofFn v)))
      (logH (proof.t1 - linearCoefficient challenges.y challenges.z bits u v •
        statement.g))
      (logH (proof.t2 - quadraticCoefficient challenges.y u v • statement.g)) proof := by
  intro bits challenges
  obtain ⟨announced, product, scaled, scaling, opened, proved⟩ := evaluates
  refine ⟨?_, ?_, ?_, ?_, ?_, ?_, product, scaled, scaling, proved⟩
  · rw [ofP.smul, add_sub_cancel]
  · rw [ofP.smul, add_sub_cancel]
  · rw [ofH.smul, add_sub_cancel]
  · rw [ofH.smul, add_sub_cancel]
  · -- The announced inner product leaves one multiple of the base for blinding factors.
    have tau : proof.tau • statement.h =
        (challenges.z * challenges.z) • statement.commitment +
          constantTerm challenges.z
            (powers challenges.y statement.parameters.bitLength.toNat)
            (powers (1 + 1) statement.parameters.bitLength.toNat) • statement.g +
          (challenges.x * challenges.x) • proof.t2 + challenges.x • proof.t1 -
          proof.innerProduct • statement.g :=
      eq_sub_of_add_eq' (eq_add_of_sub_eq (eq_add_of_sub_eq announced))
    have commitment : (challenges.z * challenges.z) • statement.commitment = _ :=
      congrArg _ opens.commitment
    rw [commitment, product, opens.dotProduct_eq] at tau
    refine smul_left_injective S.Scalar ofH.nonzero (tau.trans ?_)
    simp only [add_smul, mul_smul, ofH.smul]
    module
  · have derived := Parameters.vectorCommitment_eq proof.c proof.d proof.delta
      (fun index => bits index + challenges.x * u index)
      (fun index => bits index - 1 + challenges.x * v index) rfl sized scaling
    have delta : proof.c + challenges.x • proof.d = _ :=
      sub_eq_zero.mp (add_eq_left.mp (derived.symm.trans opened))
    rw [commitVectors, linearCombination_add_mul sized.left,
      linearCombination_add_mul sized.right] at delta
    refine smul_left_injective S.Scalar ofP.nonzero
      ((eq_sub_of_add_eq' delta.symm).trans ?_)
    simp only [add_smul, mul_comm (logP _), mul_smul, ofP.smul, commitVectors, challenges]
    module

theorem Makes.unique {u v : Fin statement.parameters.bitLength.toNat → S.Scalar}
    {rho eta tau1 tau2 otherRho otherEta otherTau1 otherTau2 : S.Scalar}
    (makes : statement.Makes value factor u v rho eta tau1 tau2 proof)
    (again : statement.Makes value factor u v otherRho otherEta otherTau1 otherTau2 proof)
    (p : statement.parameters.p ≠ 0) (h : statement.h ≠ 0) :
    rho = otherRho ∧ eta = otherEta ∧ tau1 = otherTau1 ∧ tau2 = otherTau2 := by
  have cancel {base other : S.G1} {first second : S.Scalar} (nonzero : base ≠ 0)
      (same : other + first • base = other + second • base) : first = second :=
    smul_left_injective S.Scalar nonzero (add_left_cancel same)
  exact ⟨cancel p (makes.c.symm.trans again.c), cancel p (makes.d.symm.trans again.d),
    cancel h (makes.t1.symm.trans again.t1), cancel h (makes.t2.symm.trans again.t2)⟩

theorem existsUnique_leftAt {challenges : Challenges S} (invertible : challenges.x ≠ 0)
    {left : List S.Scalar} (length : left.length = statement.parameters.bitLength.toNat) :
    ∃! u, statement.leftAt challenges value u = left := by
  have form u : statement.leftAt challenges value u = List.ofFn fun index =>
      statement.bits value index - challenges.z + challenges.x * u index := by
    refine congrArg List.ofFn (funext fun index => ?_)
    ring
  simp only [form]
  exact existsUnique_scaled _ (fun _ => invertible) length

theorem existsUnique_rightAt {challenges : Challenges S} (invertible : challenges.x ≠ 0)
    (powersOfY : ∀ index : Fin statement.parameters.bitLength.toNat,
      challenges.y ^ index.val ≠ 0)
    {right : List S.Scalar}
    (length : right.length = statement.parameters.bitLength.toNat) :
    ∃! v, statement.rightAt challenges value v = right := by
  have form v : statement.rightAt challenges value v = List.ofFn fun index =>
      (statement.bits value index - 1 + challenges.z) * challenges.y ^ index.val +
          challenges.z * challenges.z * (1 + 1) ^ index.val +
        challenges.x * challenges.y ^ index.val * v index := by
    refine congrArg List.ofFn (funext fun index => ?_)
    ring
  simp only [form]
  exact existsUnique_scaled _ (fun index => mul_ne_zero invertible (powersOfY index))
    length

end Statement

section Tape

open Sampling

/-- The scalars of a prover in the order in which they are drawn. -/
def scalarsOf {count : Nat} (u v : Fin count → S.Scalar) (rho eta tau1 tau2 : S.Scalar) :
    List S.Scalar :=
  List.ofFn u ++ (List.ofFn v ++ [rho, eta, tau1, tau2])

omit [LawfulG1 S] in
theorem length_scalarsOf {count : Nat} (u v : Fin count → S.Scalar)
    (rho eta tau1 tau2 : S.Scalar) :
    (scalarsOf u v rho eta tau1 tau2).length = 2 * count + 4 := by
  simp only [scalarsOf, List.length_append, List.length_ofFn, List.length_cons,
    List.length_nil]
  omega

omit [LawfulG1 S] in
theorem exists_scalarsOf_eq {count : Nat} {scalars : List S.Scalar}
    (length : scalars.length = 2 * count + 4) :
    ∃ (u v : Fin count → S.Scalar) (rho eta tau1 tau2 : S.Scalar),
      scalars = scalarsOf u v rho eta tau1 tau2 := by
  have order : scalars.length = count + (count + 4) := by omega
  obtain ⟨u, _, uLength, afterU, rfl⟩ := exists_append_of_length order
  obtain ⟨v, _, vLength, afterV, rfl⟩ := exists_append_of_length afterU
  obtain ⟨u, rfl⟩ := exists_ofFn uLength
  obtain ⟨v, rfl⟩ := exists_ofFn vLength
  obtain ⟨rho, eta, tau1, tau2, rfl⟩ := List.length_eq_four.mp afterV
  exact ⟨u, v, rho, eta, tau1, tau2, rfl⟩

namespace Statement

variable {statement : Statement S} {value : UInt64} {factor : S.Scalar}
  {proof : RangeProof S}

theorem run_prove_eq_ok {u v : Fin statement.parameters.bitLength.toNat → S.Scalar}
    {rho eta tau1 tau2 : S.Scalar} :
    (statement.prove value factor : Sampling (Tape S) (RangeProof S))
          ⟨scalarsOf u v rho eta tau1 tau2⟩ = .ok (proof, ⟨[]⟩) ↔
      statement.Makes value factor u v rho eta tau1 tau2 proof := by
  have drawn :
    (sample statement.parameters.bitLength.toNat : Sampling (Tape S) (Randomness S))
      ⟨scalarsOf u v rho eta tau1 tau2⟩ =
        .ok (⟨List.ofFn u, List.ofFn v, rho, eta, tau1, tau2⟩, ⟨[]⟩) :=
    run_scalars_bind_append List.length_ofFn
      (run_scalars_bind_append List.length_ofFn rfl)
  exact (run_make_eq_ok drawn).trans proveWith_eq_ok

/-- The vectors that a prover hands on when it draws given scalars. -/
def evaluated (statement : Statement S) (challenges : Challenges S) (value : UInt64)
    (scalars : List S.Scalar) : List S.Scalar × List S.Scalar :=
  let count := statement.parameters.bitLength.toNat
  (statement.leftAt challenges value fun index => scalars.getD index.val 0,
    statement.rightAt challenges value fun index => scalars.getD (count + index.val) 0)

theorem evaluated_scalarsOf (challenges : Challenges S)
    (u v : Fin statement.parameters.bitLength.toNat → S.Scalar)
    (rho eta tau1 tau2 : S.Scalar) :
    statement.evaluated challenges value (scalarsOf u v rho eta tau1 tau2) =
      (statement.leftAt challenges value u, statement.rightAt challenges value v) := by
  refine Prod.ext (congrArg (statement.leftAt challenges value) (funext fun index => ?_))
    (congrArg (statement.rightAt challenges value) (funext fun index => ?_))
  · simp [scalarsOf, List.getElem?_append]
  · simp [scalarsOf, List.getElem?_append]

/-- The choices of the scalars that are drawn with which a prover makes a
proof. -/
abbrev Making (statement : Statement S) (value : UInt64) (factor : S.Scalar)
    (proof : RangeProof S) : Type :=
  { scalars : List S.Scalar //
    scalars.length = 2 * statement.parameters.bitLength.toNat + 4 ∧
      (statement.prove value factor : Sampling (Tape S) (RangeProof S)) ⟨scalars⟩ =
        .ok (proof, ⟨[]⟩) }

/-- The vectors that a prover hands on in the course of making a proof. -/
def Making.vectors (making : statement.Making value factor proof) :
    List S.Scalar × List S.Scalar :=
  statement.evaluated (statement.challenges proof) value making.val

theorem Making.evaluates (making : statement.Making value factor proof)
    (sized : statement.parameters.Sized) (opens : statement.Opens value factor) :
    statement.Evaluates proof making.vectors.1 making.vectors.2 := by
  obtain ⟨scalars, length, run⟩ := making
  obtain ⟨u, v, rho, eta, tau1, tau2, rfl⟩ := exists_scalarsOf_eq length
  rw [Making.vectors, evaluated_scalarsOf]
  exact (run_prove_eq_ok.mp run).evaluates sized opens

/-- For all vectors that a proof fits, one choice leads to them and to the
proof. -/
theorem Evaluates.existsUnique_making {left right : List S.Scalar}
    (evaluates : statement.Evaluates proof left right) (cyclic : CyclicG1 S)
    (valid : statement.parameters.validate = .ok ()) (nonzero : statement.h ≠ 0)
    (opens : statement.Opens value factor)
    (invertible : (statement.challenges proof).x ≠ 0) :
    ∃! making : statement.Making value factor proof, making.vectors = (left, right) := by
  obtain ⟨sized, -, p⟩ := Parameters.validate_eq_ok valid
  obtain ⟨logP, ofP⟩ := cyclic.exists_isLogarithm p
  obtain ⟨logH, ofH⟩ := cyclic.exists_isLogarithm nonzero
  obtain ⟨leftLength, rightLength, powersOfY⟩ := evaluates.fits sized
  obtain ⟨u, rfl, uUnique⟩ : ∃! u, statement.leftAt _ value u = left :=
    existsUnique_leftAt invertible leftLength
  obtain ⟨v, rfl, vUnique⟩ : ∃! v, statement.rightAt _ value v = right :=
    existsUnique_rightAt invertible powersOfY rightLength
  have makes := evaluates.makes sized opens ofP ofH
  refine ⟨⟨_, length_scalarsOf _ _ _ _ _ _, run_prove_eq_ok.mpr makes⟩,
    evaluated_scalarsOf _ _ _ _ _ _ _, ?_⟩
  rintro ⟨scalars, length, run⟩ same
  obtain ⟨otherU, otherV, rho, eta, tau1, tau2, rfl⟩ := exists_scalarsOf_eq length
  rw [Making.vectors, evaluated_scalarsOf] at same
  obtain ⟨leftSame, rightSame⟩ := Prod.mk.inj same
  obtain rfl := uUnique otherU leftSame
  obtain rfl := vUnique otherV rightSame
  obtain ⟨rfl, rfl, rfl, rfl⟩ := (run_prove_eq_ok.mp run).unique makes p nonzero
  rfl

/-- The choices for an opening correspond to the vectors that a proof fits. -/
theorem exists_equiv_evaluates (cyclic : CyclicG1 S)
    (valid : statement.parameters.validate = .ok ()) (nonzero : statement.h ≠ 0)
    (opens : statement.Opens value factor)
    (invertible : (statement.challenges proof).x ≠ 0) :
    ∃ handed : statement.Making value factor proof ≃
        { vectors : List S.Scalar × List S.Scalar //
          statement.Evaluates proof vectors.1 vectors.2 },
      ∀ making, (handed making).val = making.vectors := by
  obtain ⟨sized, -⟩ := Parameters.validate_eq_ok valid
  let handed (making : statement.Making value factor proof) :
      { vectors : List S.Scalar × List S.Scalar //
        statement.Evaluates proof vectors.1 vectors.2 } :=
    ⟨making.vectors, making.evaluates sized opens⟩
  have bijective : Function.Bijective handed := by
    rw [Function.bijective_iff_existsUnique]
    rintro ⟨⟨left, right⟩, evaluates⟩
    simpa only [handed, Subtype.mk.injEq] using
      evaluates.existsUnique_making cyclic valid nonzero opens invertible
  exact ⟨.ofBijective handed bijective, fun _ => rfl⟩

/-- Range proofs over bits do not tell the value. For each choice of the scalars
with which an opening of the commitment leads to a proof, there is exactly one
for any other opening that leads to the same proof by way of the same vectors,
and all choices correspond to each other in this way. -/
theorem range_proofs_hide_values (cyclic : CyclicG1 S) {otherValue : UInt64}
    {otherFactor : S.Scalar} (valid : statement.parameters.validate = .ok ())
    (nonzero : statement.h ≠ 0) (opens : statement.Opens value factor)
    (otherOpens : statement.Opens otherValue otherFactor)
    (invertible : (statement.challenges proof).x ≠ 0) :
    (∀ making : statement.Making value factor proof,
      ∃! other : statement.Making otherValue otherFactor proof,
        other.vectors = making.vectors) ∧
    ∃ matching :
        statement.Making value factor proof ≃ statement.Making otherValue otherFactor
          proof,
      ∀ making, (matching making).vectors = making.vectors := by
  obtain ⟨sized, -⟩ := Parameters.validate_eq_ok valid
  constructor
  · intro making
    exact (making.evaluates sized opens).existsUnique_making cyclic valid nonzero
      otherOpens invertible
  · obtain ⟨handed, vectors⟩ :=
      exists_equiv_evaluates cyclic valid nonzero opens invertible
    obtain ⟨otherHanded, otherVectors⟩ :=
      exists_equiv_evaluates cyclic valid nonzero otherOpens invertible
    refine ⟨handed.trans otherHanded.symm, fun making => ?_⟩
    rw [← otherVectors, Equiv.trans_apply, Equiv.apply_symm_apply, vectors]

/-- From eight bits on, no proof is made with exactly one choice of the scalars:
the inner product argument does not show the whole of the vectors. -/
theorem not_givenOnce (cyclic : CyclicG1 S)
    (valid : statement.parameters.validate = .ok ()) (nonzero : statement.h ≠ 0)
    (opens : statement.Opens value factor)
    (invertible : (statement.challenges proof).x ≠ 0)
    (wide : 8 ≤ statement.parameters.bitLength.toNat) :
    ¬ GivenOnce S (statement.prove value factor)
      (2 * statement.parameters.bitLength.toNat + 4) proof := by
  obtain ⟨sized, -, p⟩ := Parameters.validate_eq_ok valid
  obtain ⟨log, logarithm⟩ := cyclic.exists_isLogarithm p
  rintro ⟨scalars, made, unique⟩
  let making : statement.Making value factor proof := ⟨scalars, made⟩
  have evaluates := making.evaluates sized opens
  obtain ⟨right, different, otherEvaluates⟩ := evaluates.exists_other logarithm sized wide
  obtain ⟨other, vectors, -⟩ :=
    otherEvaluates.existsUnique_making cyclic valid nonzero opens invertible
  have same : other = making := Subtype.ext (unique _ other.property)
  rw [same] at vectors
  exact different (congrArg Prod.snd vectors).symm

end Statement

end Tape

namespace Sample

open Bn254 Sampling

/-- The suite of exponents with a hash that tells the lengths of messages. -/
abbrev suite : Suite :=
  { exponentSuite with hashToScalar := fun message =>
    ScalarOperations.ofNat message.length }

instance : LawfulG1 suite :=
  inferInstanceAs (LawfulG1 exponentSuite)

theorem cyclic : CyclicG1 suite :=
  exponents_cyclic

def parameters : Parameters suite where
  leftGenerators := [2, 3, 5, 7, 11, 13, 17, 19]
  rightGenerators := [23, 29, 31, 37, 41, 43, 47, 53]
  p := 59
  q := 61
  bitLength := 8
  rounds := 3

/-- A commitment that opens to the value `200` with the blinding factor `5`, and
to the value `100` with the blinding factor `205`. -/
def statement : Statement suite where
  commitment := (28755 : Fr)
  g := (142 : Fr)
  h := (71 : Fr)
  parameters := parameters

theorem opens : statement.Opens 200 (5 : Fr) :=
  ⟨by decide +kernel, by decide⟩

theorem otherOpens : statement.Opens 100 (205 : Fr) :=
  ⟨by decide +kernel, by decide⟩

theorem valid : statement.parameters.validate = .ok () := by
  decide +kernel

theorem nonzero : statement.h ≠ (0 : Fr) := by
  decide +kernel

def u (index : Fin statement.parameters.bitLength.toNat) : Fr :=
  ScalarOperations.ofNat (index.val * index.val + 2)

def v (index : Fin statement.parameters.bitLength.toNat) : Fr :=
  ScalarOperations.ofNat (3 * index.val + 1)

/-- A proof that is made with the first opening. -/
def proof : RangeProof suite :=
  (statement.proveWith 200 (5 : Fr)
    ⟨List.ofFn u, List.ofFn v, 73, 79, 83, 89⟩).toOption.get (by decide +kernel)

theorem invertible : (statement.challenges proof).x ≠ (0 : Fr) := by
  decide +kernel

/-- The choice of the scalars with which it is made. -/
def making : statement.Making 200 (5 : Fr) proof :=
  ⟨scalarsOf u v 73 79 83 89, length_scalarsOf _ _ _ _ _ _,
    Statement.run_prove_eq_ok.mpr (Statement.proveWith_eq_ok.mp (eq_ok_get _))⟩

/-- The second opening leads to this proof by way of the same vectors for one
choice. -/
theorem second_opening_makes_proof :
    (∃! other : statement.Making 100 (205 : Fr) proof, other.vectors = making.vectors) ∧
    ∃ matching : statement.Making 200 (5 : Fr) proof ≃ statement.Making 100
      (205 : Fr) proof, ∀ making, (matching making).vectors = making.vectors := by
  obtain ⟨once, matched⟩ :=
    Statement.range_proofs_hide_values cyclic valid nonzero opens otherOpens invertible
  exact ⟨once making, matched⟩

/-- The second opening leads to this proof for several choices. -/
theorem several_choices_make_proof :
    CyclicG1 suite ∧ statement.parameters.validate = .ok () ∧ statement.h ≠ (0 : Fr) ∧
      statement.Opens 200 (5 : Fr) ∧ statement.Opens 100 (205 : Fr) ∧
      (statement.prove 200 (5 : Fr) : Sampling (Tape suite) (RangeProof suite))
          ⟨scalarsOf u v 73 79 83 89⟩ = .ok (proof, ⟨[]⟩) ∧
      (statement.challenges proof).x ≠ (0 : Fr) ∧
      ¬ GivenOnce suite (statement.prove 100 (205 : Fr)) 20 proof :=
  ⟨cyclic, valid, nonzero, opens, otherOpens, making.property.2, invertible,
    Statement.not_givenOnce cyclic valid nonzero otherOpens invertible (by decide)⟩

end Sample

end ConfidentialToken.Bulletproof
