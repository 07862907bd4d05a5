import ConfidentialToken.Proofs.StatementBinding
import ConfidentialToken.Proofs.Transfer.Sender
import ConfidentialToken.Proofs.Bn254.Exponents

/-!
Proofs of transfers tell whether values balance.

A prover does not compare the sums of both sides. If they are equal, its proof
is accepted. If they differ, the difference is left in what a verifier
recomputes, times the challenge, so that the verifier hashes another string than
the prover.
-/

namespace ConfidentialToken.Transfer

variable {S : Suite}

/-- The challenge of a proof of conservation. -/
def Conservation.challenge : Conservation S → S.Scalar
  | .wellFormedness proof => proof.challenge
  | .typeAndSum proof => proof.challenge

/-- The string that a prover hashes, and the one that is hashed when its proof
is verified. -/
inductive Statement.Hashed (statement : Statement S) (inputs outputs : List (Opening S)) :
    Conservation S → Bytes → Bytes → Prop
  | wellFormedness {randomness : WellFormedness.Randomness S}
      {proof : WellFormedness.Proof S} {recomputed : WellFormedness.FirstMessages S}
      (proved : statement.wellFormedness.proveWith inputs outputs randomness = .ok proof)
      (verified : statement.wellFormedness.recompute proof = .ok recomputed) :
      statement.Hashed inputs outputs (.wellFormedness proof)
        (statement.wellFormedness.transcript
          (statement.wellFormedness.firstMessages randomness))
        (statement.wellFormedness.transcript recomputed)
  | typeAndSum {typeCommitment : TypeCommitment S} {randomness : TypeAndSum.Randomness S}
      {proof : TypeAndSum.Proof S}
      (proved :
        statement.typeAndSum.proveWith inputs outputs typeCommitment randomness =
        .ok proof) :
      statement.Hashed inputs outputs (.typeAndSum proof)
        (statement.typeAndSum.transcript typeCommitment.commitment
          (statement.typeAndSum.firstMessages randomness))
        (statement.typeAndSum.transcript proof.commitmentToType
          (statement.typeAndSum.recompute proof))

/-- The sum of the values of openings, as a number. -/
def total (openings : List (Opening S)) : Nat :=
  (openings.map fun opening => opening.value.toNat).sum

section Sums

variable [LawfulG1 S]

theorem total_lt_order {openings : List (Opening S)} (few : openings.length < 2 ^ 64) :
    total openings < LawfulScalars.order S.Scalar := by
  have bound : total openings ≤ openings.length * 2 ^ 64 := by
    have terms :=
      List.sum_le_card_nsmul (openings.map fun opening => opening.value.toNat) (2 ^ 64)
        (by simpa using fun opening _ => opening.value.toNat_lt.le)
    simpa [total] using terms
  calc total openings
      ≤ openings.length * 2 ^ 64 := bound
    _ < 2 ^ 128 := by omega
    _ ≤ LawfulScalars.order S.Scalar := LawfulScalars.order_wide

theorem sum_valuesOf_eq_iff {inputs outputs : List (Opening S)}
    (fewInputs : inputs.length < 2 ^ 64) (fewOutputs : outputs.length < 2 ^ 64) :
    sum (valuesOf inputs) = sum (valuesOf outputs) ↔ total inputs = total outputs := by
  rw [show sum (valuesOf inputs) = (total inputs : S.Scalar) from sum_valuesOf inputs,
    show sum (valuesOf outputs) = (total outputs : S.Scalar) from sum_valuesOf outputs]
  exact natCast_inj_of_lt (total_lt_order fewInputs) (total_lt_order fewOutputs)

end Sums

namespace WellFormedness

variable [LawfulG1 S]

theorem commitSide_total_inj {typeBase valueBase blindingBase : S.G1}
    (nonzero : valueBase ≠ 0)
    {tokenType left right : S.Scalar} {values blinding : List S.Scalar}
    (same : commitSide [typeBase, valueBase, blindingBase] tokenType values blinding
      left =
      commitSide [typeBase, valueBase, blindingBase] tokenType values blinding right) :
    left = right := by
  have last := List.append_cancel_left same
  simp only [linearCombination_triple, List.cons.injEq, and_true] at last
  exact smul_left_injective S.Scalar nonzero (add_left_cancel (add_right_cancel last))

variable [FixedWidthEncoding S.G1]

/-- A proof of an unbalanced transfer that is accepted has the challenge zero,
or comes with a collision. -/
theorem Statement.collision_of_unbalanced {statement : Statement S} {tokenType : String}
    {inputs outputs : List (Opening S)} {typeBase valueBase blindingBase : S.G1}
    (generators : statement.generators = [typeBase, valueBase, blindingBase])
    (nonzero : valueBase ≠ 0)
    (inputsOpen : OpenAll statement.generators tokenType inputs statement.inputs)
    (outputsOpen : OpenAll statement.generators tokenType outputs statement.outputs)
    (different : ConfidentialToken.sum (valuesOf inputs) ≠
      ConfidentialToken.sum (valuesOf outputs))
    {randomness : Randomness S} (sized : randomness.Sized inputs.length outputs.length)
    {proof : Proof S}
    (proved : statement.proveWith inputs outputs randomness = .ok proof)
    (accepted : statement.verify proof = .ok ()) :
    proof.challenge = 0 ∨ ∃ recomputed, statement.recompute proof = .ok recomputed ∧
      Collision S (statement.transcript (statement.firstMessages randomness))
        (statement.transcript recomputed) := by
  rw [or_iff_not_imp_left]
  intro challengeNonzero
  obtain ⟨three, recomputed, verified, hashed⟩ := verify_eq_ok.mp accepted
  obtain ⟨_, checked, rfl⟩ := proveWith_eq_ok.mp proved
  obtain ⟨-, rfl⟩ := checkWitness_eq_ok inputsOpen.typed checked
  set challenge := statement.challenge (statement.firstMessages randomness)
  have shifted := recompute_answer_shifted three inputsOpen outputsOpen sized challenge
  cases Except.ok.inj (verified.symm.trans shifted)
  refine ⟨_, verified, fun same => ?_, hashed.symm⟩
  have outputLengths (total : S.Scalar) :
      (commitSide statement.generators randomness.tokenType randomness.outputValues
        randomness.outputBlinding total).length = randomness.outputValues.length + 1 :=
    length_commitSide _ _ _ (sized.outputValues.trans sized.outputBlinding.symm)
  simp only [transcript, firstMessages, List.append_assoc, encodeAll_append_inj rfl]
    at same
  rw [encodeAll_append_inj ((outputLengths _).trans (outputLengths _).symm), generators]
    at same
  have totals := commitSide_total_inj nonzero same.2.1
  have shift : challenge *
      (ConfidentialToken.sum (valuesOf inputs) -
        ConfidentialToken.sum (valuesOf outputs)) = 0 :=
    left_eq_add.mp totals
  exact (mul_ne_zero challengeNonzero (sub_ne_zero.mpr different)) shift

end WellFormedness

namespace TypeAndSum

variable [LawfulG1 S] [FixedWidthEncoding S.G1]

/-- A proof of an unbalanced transfer that is accepted has the challenge zero,
or comes with a collision. -/
theorem Statement.collision_of_unbalanced {statement : Statement S} {tokenType : String}
    {inputs outputs : List (Opening S)} {typeCommitment : TypeCommitment S}
    {typeBase valueBase blindingBase : S.G1}
    (generators : statement.generators = [typeBase, valueBase, blindingBase])
    (nonzero : valueBase ≠ 0)
    (inputsOpen : OpenAll statement.generators tokenType inputs statement.inputs)
    (outputsOpen : OpenAll statement.generators tokenType outputs statement.outputs)
    (typeOpens : typeCommitment.Opens statement.generators tokenType)
    (different : sum (valuesOf inputs) ≠ sum (valuesOf outputs))
    {randomness : Randomness S} (sized : randomness.Sized inputs.length) {proof : Proof S}
    (proved : statement.proveWith inputs outputs typeCommitment randomness = .ok proof)
    (accepted : statement.verify proof = .ok ()) :
    proof.challenge = 0 ∨
      Collision S
        (statement.transcript typeCommitment.commitment
          (statement.firstMessages randomness))
        (statement.transcript proof.commitmentToType (statement.recompute proof)) := by
  rw [or_iff_not_imp_left]
  intro challengeNonzero
  obtain ⟨three, -, hashed⟩ := verify_eq_ok.mp accepted
  obtain ⟨_, checked, rfl⟩ := proveWith_eq_ok.mp proved
  obtain ⟨-, rfl⟩ := checkWitness_eq_ok inputsOpen.typed checked
  set challenge :=
    statement.challenge typeCommitment.commitment (statement.firstMessages randomness)
  have shifted :=
    recompute_answer_shifted three inputsOpen outputsOpen typeOpens sized challenge
  refine ⟨fun same => ?_, hashed.symm⟩
  rw [shifted] at same
  simp only [transcript, firstMessages, List.append_assoc, encodeAll_append_inj rfl,
    encode_append_inj] at same
  have difference := same.2.2.1
  rw [generators, commitValue_triple, commitValue_triple, zero_smul] at difference
  have scaled :
      (challenge * (sum (valuesOf outputs) - sum (valuesOf inputs))) • valueBase = 0 :=
    (add_right_cancel difference).symm
  have shift := (smul_eq_zero.mp scaled).resolve_right nonzero
  exact mul_ne_zero challengeNonzero (sub_ne_zero.mpr different.symm) shift

end TypeAndSum

section Balance

variable {R : Type} [RandomSource S R]

theorem Statement.verify_write [FaithfulEncoding S.Scalar] [FaithfulEncoding S.G1]
    {statement : Statement S} {proof : Proof S} :
    statement.verify (Json.write proof) = .ok () ↔
      statement.verifyProof proof = .ok () := by
  simp [verify, Proof.deserialize]

/-- A proof of an unbalanced transfer that is accepted has the challenge zero,
or comes with a collision. -/
theorem Statement.collision_of_unbalanced [LawfulG1 S] [FixedWidthEncoding S.G1]
    {statement : Statement S} {tokenType : String} {inputs outputs : List (Opening S)}
    {proof : Proof S} (valid : statement.parameters.validate = .ok ())
    (inputsOpen : OpenAll statement.parameters.pedersen tokenType inputs statement.inputs)
    (outputsOpen : OpenAll statement.parameters.pedersen tokenType outputs
      statement.outputs)
    (gives : Sampling.Gives (R := R) (statement.prove inputs outputs) proof)
    (different : sum (valuesOf inputs) ≠ sum (valuesOf outputs))
    (accepted : statement.verifyProof proof = .ok ()) :
    proof.conservation.challenge = 0 ∨ ∃ proved verified,
      statement.Hashed inputs outputs proof.conservation proved verified ∧
        Collision S proved verified := by
  obtain ⟨three, zero⟩ := PublicParameters.pedersen_of_validate valid
  obtain ⟨typeBase, valueBase, blindingBase, generators⟩ := List.length_eq_three.mp three
  have nonzero : valueBase ≠ 0 := by
    rintro rfl
    exact zero (generators ▸ by simp)
  obtain ⟨commitmentToType, conserved, -⟩ := bind_eq_ok.mp accepted
  obtain ⟨typeCommitment, typeOpens, proves⟩ := prove_gives inputsOpen.typed gives
  obtain ⟨conservation, rangeCorrectness⟩ := proof
  cases proves.conservation with
  | wellFormedness engine proved =>
      simp only [verifyConservation, engine, bind_eq_ok, during_eq_ok] at conserved
      obtain ⟨⟨⟩, formAccepted, -⟩ := conserved
      obtain ⟨_, -, proved⟩ := proved.bind
      obtain ⟨randomness, drawn, proved⟩ := proved.bind
      have inputsOpen : OpenAll statement.wellFormedness.generators tokenType inputs
          statement.wellFormedness.inputs := inputsOpen
      refine (WellFormedness.Statement.collision_of_unbalanced generators nonzero
        inputsOpen outputsOpen different (WellFormedness.sample_gives drawn) proved.lift
        formAccepted).imp_right ?_
      rintro ⟨recomputed, verified, collision⟩
      exact ⟨_, _, .wellFormedness proved.lift verified, collision⟩
  | typeAndSum engine proved =>
      simp only [verifyConservation, engine, bind_eq_ok, during_eq_ok] at conserved
      obtain ⟨⟨⟩, sumAccepted, -⟩ := conserved
      obtain ⟨_, -, proved⟩ := proved.bind
      obtain ⟨randomness, drawn, proved⟩ := proved.bind
      have inputsOpen : OpenAll statement.typeAndSum.generators tokenType inputs
          statement.typeAndSum.inputs := inputsOpen
      refine (TypeAndSum.Statement.collision_of_unbalanced generators nonzero inputsOpen
        outputsOpen typeOpens different (TypeAndSum.sample_gives drawn) proved.lift
        sumAccepted).imp_right ?_
      exact fun collision => ⟨_, _, .typeAndSum proved.lift, collision⟩

/-- The proof of a transfer is accepted if the sums of both sides are equal; if
they differ, then only with the challenge zero, or with two strings that are
different and have one hash: what the prover has hashed, and what the verifier
hashes. -/
theorem transfer_accepted_iff_balanced [LawfulPairing S] [FixedWidthEncoding S.G1]
    [FaithfulEncoding S.Scalar] [FaithfulEncoding S.G1] {statement : Statement S}
    {tokenType : String} {inputs outputs : List (Opening S)} {proof : Proof S}
    (valid : statement.parameters.validate = .ok ())
    (certified : statement.parameters.Certified) (fewInputs : inputs.length < 2 ^ 64)
    (fewOutputs : outputs.length < 2 ^ 64)
    (inputsOpen : OpenAll statement.parameters.pedersen tokenType inputs statement.inputs)
    (outputsOpen : OpenAll statement.parameters.pedersen tokenType outputs
      statement.outputs)
    (gives : Sampling.Gives (R := R) (statement.prove inputs outputs) proof) :
    (total inputs = total outputs → statement.verify (Json.write proof) = .ok ()) ∧
    (total inputs ≠ total outputs → statement.verify (Json.write proof) = .ok () →
      proof.conservation.challenge = 0 ∨ ∃ proved verified,
        statement.Hashed inputs outputs proof.conservation proved verified ∧
          Collision S proved verified) := by
  have sums := sum_valuesOf_eq_iff fewInputs fewOutputs
  refine ⟨fun balanced => ?_, fun unbalanced accepted => ?_⟩
  · exact Statement.verify_write.mpr
      (Statement.verify_prove certified inputsOpen outputsOpen (sums.mpr balanced) gives)
  · exact Statement.collision_of_unbalanced valid inputsOpen outputsOpen gives
      (fun same => unbalanced (sums.mp same)) (Statement.verify_write.mp accepted)

end Balance

namespace Balance.Sample

open Bn254

/-- The suite of exponents with another hash. -/
abbrev suite (hash : Bytes → Fr) : Suite :=
  { exponentSuite with hashToScalar := hash }

section

variable {hash : Bytes → Fr}

instance : LawfulPairing (suite hash) :=
  inferInstanceAs (LawfulPairing exponentSuite)

instance : FixedWidthEncoding (suite hash).G1 :=
  inferInstanceAs (FixedWidthEncoding Fr)

instance : FaithfulEncoding (suite hash).Scalar :=
  inferInstanceAs (FaithfulEncoding Fr)

instance : FaithfulEncoding (suite hash).G1 :=
  inferInstanceAs (FaithfulEncoding Fr)

end

variable (hash : Bytes → Fr)

def generators : List Fr := [2, 3, 5]

def opening (value : UInt64) : Opening (suite hash) :=
  ⟨"ABC", value, 29⟩

def token (value : UInt64) : Fr :=
  linearCombination generators
    [hash (Bytes.ofText "ABC"), wordScalar (S := suite hash) value, (29 : Fr)]

theorem opens (values : List UInt64) :
    OpenAll generators "ABC" (values.map (opening hash)) (values.map (token hash)) where
  typed := by simp [opening]
  opened := by
    rw [List.forall₂_map_left_iff, List.forall₂_map_right_iff, List.forall₂_same]
    exact fun value _ => Opening.commit_eq_ok.mpr ⟨rfl, rfl⟩

/-- Parameters for one construction of range proofs. -/
def parameters (bits : Option (Bulletproof.Parameters (suite hash)))
    (digits : Option (DigitRange.Parameters (suite hash))) (maxToken : UInt64) :
    PublicParameters (suite hash) where
  label := schemeLabel
  curve := .bn254
  pedersen := generators
  bulletproof := bits
  membership := digits
  credentialKey := []
  auditor := ⟨[]⟩
  issuers := []
  policy := .empty
  maxToken := maxToken
  precision := 64

/-- A hash that tells nothing apart. -/
def constant : Bytes → Fr := fun _ => 1

def bits : PublicParameters (suite constant) :=
  parameters constant (some ⟨[7, 11], [13, 17], 19, 23, 2, 1⟩) none 3

/-- One token passes to one token, of another value perhaps. -/
def pass (value : UInt64) : Statement (suite constant) :=
  ⟨bits, [7].map (token constant), [value].map (token constant)⟩

/-- Randomness for all that a prover draws. -/
def tape : Sampling.Tape (suite hash) :=
  ⟨(List.range 40).map fun index => .ofNat (index + 31)⟩

def balancedProof : Proof (suite constant) :=
  Sampling.valueFrom
    ((pass 7).prove ([7].map (opening constant)) ([7].map (opening constant)))
    (tape constant) (by decide +kernel)

def unbalancedProof : Proof (suite constant) :=
  Sampling.valueFrom
    ((pass 8).prove ([7].map (opening constant)) ([8].map (opening constant)))
    (tape constant) (by decide +kernel)

/-- With a constant hash an unbalanced transfer is accepted, and comes with a
collision. -/
theorem balance_of_constant_hash :
    (pass 7).verify (Json.write balancedProof) = .ok () ∧
    (pass 8).verify (Json.write unbalancedProof) = .ok () ∧
    ∃ proved verified,
      (pass 8).Hashed ([7].map (opening constant)) ([8].map (opening constant))
          unbalancedProof.conservation proved verified ∧
        Collision (suite constant) proved verified := by
  have valid : bits.validate = .ok () := toOption_eq_some.mp (by decide +kernel)
  have certified : bits.Certified := nofun
  have few (value : UInt64) : ([value].map (opening constant)).length < 2 ^ 64 := by simp
  have sevenOpens :
      OpenAll bits.pedersen "ABC" ([7].map (opening constant)) (pass 7).inputs :=
    opens constant [7]
  have inputsOpen :
      OpenAll bits.pedersen "ABC" ([7].map (opening constant)) (pass 8).inputs :=
    opens constant [7]
  have outputsOpen :
      OpenAll bits.pedersen "ABC" ([8].map (opening constant)) (pass 8).outputs :=
    opens constant [8]
  have balancedGiven : Sampling.Gives
      ((pass 7).prove ([7].map (opening constant)) ([7].map (opening constant)))
      balancedProof :=
    Sampling.gives_valueFrom _ (tape constant) _
  have unbalancedGiven : Sampling.Gives
      ((pass 8).prove ([7].map (opening constant)) ([8].map (opening constant)))
      unbalancedProof :=
    Sampling.gives_valueFrom _ (tape constant) _
  have accepted : (pass 8).verify (Json.write unbalancedProof) = .ok () :=
    (Statement.verify_write (S := suite constant)).mpr
      (toOption_eq_some.mp (by decide +kernel))
  have challenge : unbalancedProof.conservation.challenge ≠ 0 := by decide +kernel
  obtain ⟨balanced, -⟩ :=
    transfer_accepted_iff_balanced valid certified (few 7) (few 7) sevenOpens sevenOpens
      balancedGiven
  obtain ⟨-, unbalanced⟩ :=
    transfer_accepted_iff_balanced valid certified (few 7) (few 8) inputsOpen outputsOpen
      unbalancedGiven
  exact ⟨balanced rfl, accepted, (unbalanced (by decide) accepted).resolve_left challenge⟩

/-- The number that a message spells. -/
def spelled : Bytes → Fr :=
  fun message => .ofNat (Bytes.ofBigEndian message)

/-- Valid parameters with a table that does not hold signatures. -/
def uncertified : PublicParameters (suite spelled) :=
  parameters spelled none (some ⟨2, 1, [7, 11, 13], 17, 19, [⟨1, 1⟩, ⟨1, 1⟩]⟩) 1

/-- One token is split in two. -/
def split : Statement (suite spelled) :=
  ⟨uncertified, [1].map (token spelled), [1, 0].map (token spelled)⟩

def uncertifiedProof : Proof (suite spelled) :=
  Sampling.valueFrom
    (split.prove ([1].map (opening spelled)) ([1, 0].map (opening spelled)))
    (tape spelled) (by decide +kernel)

/-- Without signatures in the table the proof of a balanced transfer is given
and refused. -/
theorem uncertified_refused :
    uncertified.validate = .ok () ∧
    OpenAll uncertified.pedersen "ABC" ([1].map (opening spelled)) split.inputs ∧
    OpenAll uncertified.pedersen "ABC" ([1, 0].map (opening spelled)) split.outputs ∧
    total ([1].map (opening spelled)) = total ([1, 0].map (opening spelled)) ∧
    Sampling.Gives (R := Sampling.Tape (suite spelled))
      (split.prove ([1].map (opening spelled)) ([1, 0].map (opening spelled)))
      uncertifiedProof ∧
    split.verify (Json.write uncertifiedProof) ≠ .ok () := by
  refine ⟨toOption_eq_some.mp (by decide +kernel), opens spelled [1],
    opens spelled [1, 0], rfl, Sampling.gives_valueFrom _ _ _, fun accepted => ?_⟩
  have refused : (split.verifyProof uncertifiedProof).toOption = none := by
    decide +kernel
  rw [(Statement.verify_write (S := suite spelled)).mp accepted] at refused
  cases refused

end Balance.Sample

end ConfidentialToken.Transfer
