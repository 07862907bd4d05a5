import ConfidentialToken.Issue.Proof
import ConfidentialToken.Proofs.Issue.WellFormedness
import ConfidentialToken.Proofs.Trapping.Bulletproof
import ConfidentialToken.Proofs.Trapping.DigitRange
import ConfidentialToken.Transfer.Proof

/-!
The verification of the proofs of issues and transfers does not trap.

Each verifier makes sure that there are three bases before it reads one, and
looks at the responses of a proof together with the tokens that they belong to.
-/

namespace ConfidentialToken

open Trapping

variable {S : Suite}

/-- The three bases for tokens, read by their index. -/
def basesTrapping (generators : List S.G1) : Trapping (List S.G1) := do
  let typeBase ← item generators 0
  let valueBase ← item generators 1
  let blindingBase ← item generators 2
  return [typeBase, valueBase, blindingBase]

theorem basesTrapping_eq {generators : List S.G1} (sized : generators.length = 3) :
    basesTrapping generators = pure generators := by
  obtain ⟨typeBase, valueBase, blindingBase, rfl⟩ := List.length_eq_three.mp sized
  rfl

namespace RangeCorrectness

/-- `bitStatements`, reading the generators by their index. -/
def bitStatementsTrapping (parameters : PublicParameters S) (tokens : List S.G1)
    (commitmentToType : S.G1) : Trapping (Bulletproof.Statements S) := do
  if parameters.pedersen.length ≠ 3 then
    throw (.invalidParameters "invalid pedersen generators")
  let valueBase ← item parameters.pedersen 1
  let blindingBase ← item parameters.pedersen 2
  let bits ← done parameters.requireBulletproof
  return {
    commitments := tokens.map (· - commitmentToType)
    g := valueBase
    h := blindingBase
    parameters := bits }

/-- `verify`, reading all lists by their index. -/
def verifyTrapping (parameters : PublicParameters S) (tokens : List S.G1)
    (commitmentToType : S.G1) (proof : RangeCorrectness S) : Trapping Unit := do
  if proof.engine ≠ parameters.engine then
    throw (.invalidProof "range proof does not match the configured engine")
  match proof with
  | .bulletproof proofs =>
      let statements ← bitStatementsTrapping parameters tokens commitmentToType
      statements.verifyTrapping proofs
  | .membership proof =>
      let statement ← done (digitStatement parameters tokens)
      statement.verifyTrapping proof

theorem bitStatementsTrapping_eq (parameters : PublicParameters S) (tokens : List S.G1)
    (commitmentToType : S.G1) :
    bitStatementsTrapping parameters tokens commitmentToType =
      done (bitStatements parameters tokens commitmentToType) := by
  unfold bitStatementsTrapping bitStatements
  match parameters.pedersen with
  | [] | [_] | [_, _] | _ :: _ :: _ :: _ :: _ => rfl
  | [_, _, _] => exact bind_eq_done rfl fun _ _ => rfl

theorem verifyTrapping_eq (parameters : PublicParameters S) (tokens : List S.G1)
    (commitmentToType : S.G1) (proof : RangeCorrectness S) :
    verifyTrapping parameters tokens commitmentToType proof =
      done (verify parameters tokens commitmentToType proof) := by
  refine guard_eq_done fun _ => ?_
  cases proof with
  | bulletproof proofs =>
      exact bind_eq_done (bitStatementsTrapping_eq parameters tokens commitmentToType)
        fun statements _ => statements.verifyTrapping_eq proofs
  | membership proof =>
      exact bind_eq_done rfl fun statement _ => statement.verifyTrapping_eq proof

end RangeCorrectness

namespace Issue

/-- `verify`, reading the bases by their index. -/
def WellFormedness.Statement.verifyTrapping (statement : WellFormedness.Statement S)
    (proof : WellFormedness.Proof S) : Trapping Unit := do
  done (statement.checkShape proof)
  let bases ← basesTrapping statement.generators
  let first := recompute { statement with generators := bases } proof
  if statement.challenge proof.commitmentToType first ≠ proof.challenge then
    throw (.invalidProof "invalid zero-knowledge issue")

theorem WellFormedness.Statement.verifyTrapping_eq
    (statement : WellFormedness.Statement S) (proof : WellFormedness.Proof S) :
    statement.verifyTrapping proof = done (statement.verify proof) := by
  refine bind_eq_done rfl fun _ shaped => ?_
  obtain ⟨generators, -⟩ := checkShape_eq_ok.mp shaped
  exact pure_eq_done (basesTrapping_eq generators) check_eq_done

/-- `verifyProof`, reading all lists by their index. -/
def Statement.verifyProofTrapping (statement : Statement S) (proof : Proof S) :
    Trapping Unit := do
  Trapping.during "invalid issue proof"
    (statement.wellFormedness.verifyTrapping proof.wellFormedness)
  Trapping.during "invalid issue proof"
    (RangeCorrectness.verifyTrapping statement.parameters statement.tokens
      proof.wellFormedness.commitmentToType proof.rangeCorrectness)

theorem Statement.verifyProofTrapping_eq (statement : Statement S) (proof : Proof S) :
    statement.verifyProofTrapping proof = done (statement.verifyProof proof) :=
  bind_eq_done
    (during_eq_done _ (statement.wellFormedness.verifyTrapping_eq proof.wellFormedness))
    fun _ _ => during_eq_done _ (RangeCorrectness.verifyTrapping_eq _ _ _ _)

end Issue

namespace Transfer

/-- `verify`, reading the bases by their index. -/
def TypeAndSum.Statement.verifyTrapping (statement : TypeAndSum.Statement S)
    (proof : TypeAndSum.Proof S) : Trapping Unit := do
  if statement.generators.length ≠ 3 then
    throw (.invalidInput "invalid public parameters")
  if proof.inputValues.length ≠ statement.inputs.length ∨
      proof.inputBlinding.length ≠ statement.inputs.length then
    throw (.invalidInput "missing components in type and sum proof")
  let bases ← basesTrapping statement.generators
  let first := recompute { statement with generators := bases } proof
  if statement.challenge proof.commitmentToType first ≠ proof.challenge then
    throw (.invalidProof "invalid zero-knowledge transfer")

theorem TypeAndSum.Statement.verifyTrapping_eq (statement : TypeAndSum.Statement S)
    (proof : TypeAndSum.Proof S) :
    statement.verifyTrapping proof = done (statement.verify proof) :=
  guard_eq_done fun generators => guard_eq_done fun _ =>
    pure_eq_done (basesTrapping_eq (Decidable.not_not.mp generators)) check_eq_done

namespace Statement

/-- `verifyConservation`, reading the bases by their index. -/
def verifyConservationTrapping (statement : Statement S) (proof : Conservation S) :
    Trapping S.G1 :=
  match proof, statement.parameters.engine with
  | .wellFormedness proof, .membership => do
      done (ConfidentialToken.during "invalid transfer proof"
        (statement.wellFormedness.verify proof))
      return 0
  | .typeAndSum proof, .bulletproof => do
      Trapping.during "invalid transfer proof" (statement.typeAndSum.verifyTrapping proof)
      return proof.commitmentToType
  | _, _ => throw (.invalidProof
      "invalid transfer proof: proof does not match the configured engine")

/-- `verifyProof`, reading all lists by their index. -/
def verifyProofTrapping (statement : Statement S) (proof : Proof S) : Trapping Unit := do
  let commitmentToType ← statement.verifyConservationTrapping proof.conservation
  if !statement.changesOwnerOnly then
    let some correctness := proof.rangeCorrectness
      | throw (.invalidProof "invalid transfer proof")
    Trapping.during "invalid transfer proof"
      (RangeCorrectness.verifyTrapping statement.parameters statement.outputs
        commitmentToType correctness)

/-- `verify`, reading all lists by their index. -/
def verifyTrapping (statement : Statement S) (text : Bytes) : Trapping Unit := do
  let proof ← done (Proof.deserialize text)
  statement.verifyProofTrapping proof

theorem verifyConservationTrapping_eq (statement : Statement S) (proof : Conservation S) :
    statement.verifyConservationTrapping proof =
      done (statement.verifyConservation proof) := by
  unfold verifyConservationTrapping verifyConservation
  cases proof with
  | wellFormedness proof =>
      cases statement.parameters.engine with
      | membership => exact bind_eq_done rfl fun _ _ => rfl
      | bulletproof => rfl
  | typeAndSum proof =>
      cases statement.parameters.engine with
      | membership => rfl
      | bulletproof =>
          exact bind_eq_done
            (during_eq_done _ (statement.typeAndSum.verifyTrapping_eq proof))
            fun _ _ => rfl

theorem verifyProofTrapping_eq (statement : Statement S) (proof : Proof S) :
    statement.verifyProofTrapping proof = done (statement.verifyProof proof) := by
  refine bind_eq_done (statement.verifyConservationTrapping_eq proof.conservation)
    fun commitmentToType _ => ?_
  cases statement.changesOwnerOnly with
  | true => rfl
  | false =>
      cases proof.rangeCorrectness with
      | none => rfl
      | some correctness =>
          exact during_eq_done _ (RangeCorrectness.verifyTrapping_eq _ _ _ _)

theorem verifyTrapping_eq (statement : Statement S) (text : Bytes) :
    statement.verifyTrapping text = done (statement.verify text) :=
  bind_eq_done rfl fun proof _ => statement.verifyProofTrapping_eq proof

end Statement

end Transfer

end ConfidentialToken
