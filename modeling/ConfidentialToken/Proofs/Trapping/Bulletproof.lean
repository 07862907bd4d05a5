import ConfidentialToken.Bulletproof.RangeProof
import ConfidentialToken.Proofs.Bulletproof.Folding
import ConfidentialToken.Proofs.Trapping.Basic

/-!
The verification of range proofs over bits does not trap.

A proof has a pair of points for each round, and there are as many generators as
the rounds need. The folded generators are computed without folding: the bits of
the index of a generator decide, for each round, whether the challenge or its
inverse is a factor. The last bit belongs to the last round.
-/

namespace ConfidentialToken.Bulletproof

open Trapping

variable {S : Suite}

namespace InnerProduct

/-- The factor of the generator at an index, reading the challenges by their
round. -/
def foldingFactorTrapping (challenges inverses : List S.Scalar) (index : Nat) :
    Trapping S.Scalar := do
  let factors ← (List.range challenges.length).mapM fun round => do
    let lastRound ← difference challenges.length 1
    let place ← difference lastRound round
    let challenge ← item challenges round
    let inverse ← item inverses round
    return if ← Trapping.bit (.ofNat index) place then challenge else inverse
  return factors.foldr (· * ·) 1

/-- `folded` for a number of generators, reading all lists by their index. -/
def foldedTrapping (count : Nat) (generators : List S.G1)
    (challenges inverses : List S.Scalar) : Trapping S.G1 := do
  let terms ← (List.range count).mapM fun index => do
    let factor ← foldingFactorTrapping challenges inverses index
    let generator ← item generators index
    return factor • generator
  return sum terms

/-- `verify`, reading the generators and challenges by their index. -/
def verifyTrapping (statement : Statement S) (proof : Proof S) : Trapping Unit := do
  if proof.l.length ≠ proof.r.length ∨ proof.l.length ≠ statement.rounds.toNat then
    throw (.invalidProof "invalid IPA proof")
  if !statement.sized then
    throw (.invalidInput
      "cannot verify inner product argument: generators do not match number of rounds")
  let initial := statement.initialChallenge
  let base := initial • statement.q
  let challenges := List.zipWith roundChallenge proof.l proof.r
  let inverses ← done (challenges.mapM invert)
  let expected :=
    statement.commitment + (initial * statement.innerProduct) • statement.q +
    linearCombination proof.l (challenges.map fun x => x * x) +
    linearCombination proof.r (inverses.map fun x => x * x)
  let count := statement.leftGenerators.length
  let foldedLeft ← foldedTrapping count statement.leftGenerators challenges inverses
  let foldedRight ← foldedTrapping count statement.rightGenerators inverses challenges
  if proof.left • foldedLeft + proof.right • foldedRight +
    (proof.left * proof.right) • base ≠
      expected then
    throw (.invalidProof "invalid IPA")

theorem bit_ofNat {index : Nat} (small : index < UInt64.size) (place : Nat) :
    ConfidentialToken.bit (.ofNat index) place = index.testBit place := by
  rw [ConfidentialToken.bit, UInt64.toNat_ofNat_of_lt' small]

theorem foldingFactorTrapping_eq {challenges inverses : List S.Scalar}
    (same : challenges.length = inverses.length) {index : Nat}
    (small : index < UInt64.size) :
    foldingFactorTrapping challenges inverses index =
      pure ((chosenFactors (challenges.zip inverses) index).foldr (· * ·) 1) := by
  refine mapM_range_bind (chosenFactors (challenges.zip inverses) index)
    (by simp [chosenFactors, same]) (fun round bound => ?_) _
  have inRange : round < challenges.length := by simpa [chosenFactors, same] using bound
  rw [difference_of_le (by omega), pure_bind, difference_of_le (by omega), pure_bind,
    item_of_lt inRange, pure_bind, item_of_lt (same ▸ inRange), pure_bind, bit_eq,
    pure_bind, bit_ofNat small]
  simp [chosenFactors, same]

/-- Without an inverse for each challenge the loop traps. -/
example (challenge : S.Scalar) : foldingFactorTrapping [challenge] [] 0 = trap := rfl

theorem foldedTrapping_eq {count : Nat} {generators : List S.G1}
    {challenges inverses : List S.Scalar} (same : challenges.length = inverses.length)
    (small : count < UInt64.size) (enough : count ≤ 2 ^ challenges.length)
    (generated : generators.length = count) :
    foldedTrapping count generators challenges inverses =
      pure (folded generators challenges inverses) := by
  have factors : count ≤ (foldingFactors (challenges.zip inverses)).length := by
    rwa [length_foldingFactors, List.length_zip, ← same, Nat.min_self]
  refine mapM_range_bind
    (List.zipWith (fun generator factor => factor • generator) generators
      (foldingFactors (challenges.zip inverses)))
    (by simp [generated, factors]) (fun index bound => ?_) _
  rw [List.length_zipWith, Nat.lt_min] at bound
  have word : index < UInt64.size := (generated ▸ bound.1).trans small
  rw [foldingFactorTrapping_eq same word, pure_bind, item_of_lt bound.1, pure_bind,
    List.getElem_zipWith, getElem_foldingFactors _ bound.2]

theorem verifyTrapping_eq (statement : Statement S) (proof : Proof S) :
    verifyTrapping statement proof = done (verify statement proof) := by
  refine guard_eq_done fun rounds => guard_eq_done fun sized =>
    bind_eq_done rfl fun inverses found => ?_
  simp only [not_or, Decidable.not_not] at rounds
  obtain ⟨few, left, right⟩ := Statement.sized_iff.mp (by simpa using sized)
  have challenges : (List.zipWith roundChallenge proof.l proof.r).length =
      statement.rounds.toNat := by
    rw [List.length_zipWith, ← rounds.1, Nat.min_self, rounds.2]
  have same := (mapM_eq_ok.mp found).length_eq
  have small : statement.leftGenerators.length < UInt64.size :=
    left ▸ Nat.pow_lt_pow_right (by decide) few
  have enough : statement.leftGenerators.length ≤ 2 ^ statement.rounds.toNat :=
    left ▸ Nat.pow_le_pow_right Nat.two_pos (Nat.mod_le _ _)
  refine pure_eq_done (foldedTrapping_eq same small (by rwa [challenges]) rfl) <|
    pure_eq_done (foldedTrapping_eq same.symm small (by rwa [← same, challenges])
      (right.trans left.symm)) check_eq_done

end InnerProduct

/-- The factors of the right generators in the commitment of an argument. -/
def weightsTrapping (count : Nat) (powersOfY powersOfTwo : List S.Scalar) (z : S.Scalar) :
    Trapping (List S.Scalar) :=
  (List.range count).mapM fun place => do
    let power ← item powersOfY place
    let two ← item powersOfTwo place
    return z * power + z * z * two

theorem weightsTrapping_eq {count : Nat} {powersOfY powersOfTwo : List S.Scalar}
    (ys : powersOfY.length = count) (twos : powersOfTwo.length = count) (z : S.Scalar) :
    weightsTrapping count powersOfY powersOfTwo z =
      pure (List.zipWith (fun power two => z * power + z * z * two) powersOfY
        powersOfTwo) := by
  refine mapM_range_eq_pure (by simp [ys, twos]) fun place bound => ?_
  rw [List.length_zipWith, Nat.lt_min] at bound
  rw [item_of_lt bound.1, pure_bind, item_of_lt bound.2, pure_bind, List.getElem_zipWith]

namespace Statement

/-- `argument`, reading the generators and powers by their index. -/
def argumentTrapping (statement : Statement S) (proof : RangeProof S) :
    Trapping (InnerProduct.Statement S) := do
  let parameters := statement.parameters
  let count := parameters.bitLength.toNat
  let x := challengeX proof.t1 proof.t2
  let y := challengeY proof.c proof.d statement.commitment
  let z := challengeZ y
  let powersOfY := powers y count
  let powersOfTwo := powers (1 + 1 : S.Scalar) count
  let rightGenerators ← done (scaleRight parameters.rightGenerators powersOfY)
  let lefts ← (List.range count).mapM (item parameters.leftGenerators)
  let rights ← (List.range count).mapM (item rightGenerators)
  let weights ← weightsTrapping count powersOfY powersOfTwo z
  return {
    innerProduct := proof.innerProduct
    q := parameters.q
    leftGenerators := parameters.leftGenerators
    rightGenerators := rightGenerators
    commitment := proof.c + x • proof.d - proof.delta • parameters.p -
      z • sum lefts + linearCombination rights weights
    rounds := parameters.rounds }

/-- `verify`, reading all lists by their index. -/
def verifyTrapping (statement : Statement S) (proof : RangeProof S) : Trapping Unit := do
  let parameters := statement.parameters
  let count := parameters.bitLength.toNat
  if parameters.leftGenerators.length ≠ count ∨
      parameters.rightGenerators.length ≠ count then
    throw (.invalidInput "range proof generators do not match bit length")
  let x := challengeX proof.t1 proof.t2
  let y := challengeY proof.c proof.d statement.commitment
  let z := challengeZ y
  let constant := constantTerm z (powers y count) (powers (1 + 1) count)
  if proof.innerProduct • statement.g + proof.tau • statement.h - x • proof.t1 -
      (x * x) • proof.t2 ≠ (z * z) • statement.commitment + constant • statement.g then
    throw (.invalidProof "invalid range proof")
  let argument ← statement.argumentTrapping proof
  InnerProduct.verifyTrapping argument proof.argument

theorem argumentTrapping_eq {statement : Statement S} (proof : RangeProof S)
    (left : statement.parameters.leftGenerators.length =
      statement.parameters.bitLength.toNat)
    (right : statement.parameters.rightGenerators.length =
      statement.parameters.bitLength.toNat) :
    statement.argumentTrapping proof = done (statement.argument proof) := by
  refine bind_eq_done rfl fun scaled found => ?_
  have scaledLength := (mapM_eq_ok.mp found).length_eq
  rw [List.length_zip, length_powers, right, Nat.min_self] at scaledLength
  exact pure_eq_done (mapM_item left) <| pure_eq_done (mapM_item scaledLength.symm) <|
    pure_eq_done (weightsTrapping_eq (by simp) (by simp) _) rfl

theorem verifyTrapping_eq (statement : Statement S) (proof : RangeProof S) :
    statement.verifyTrapping proof = done (statement.verify proof) := by
  refine guard_eq_done fun sized => guard_eq_done fun _ => ?_
  simp only [not_or, Decidable.not_not] at sized
  exact bind_eq_done (argumentTrapping_eq proof sized.1 sized.2) fun _ _ =>
    InnerProduct.verifyTrapping_eq _ _

end Statement

namespace Statements

/-- `verifyFrom`, reading all lists by their index. -/
def verifyFromTrapping (statements : Statements S) : (index : Nat) →
    List (RangeProof S × S.G1) → Trapping Unit
  | _, [] => return
  | index, (proof, commitment) :: rest => do
      Trapping.during s!"invalid range proof at index {index}"
        ((statements.single commitment).verifyTrapping proof)
      statements.verifyFromTrapping (index + 1) rest

/-- `verify`, reading all lists by their index. -/
def verifyTrapping (statements : Statements S) (proofs : RangeProofs S) :
    Trapping Unit := do
  if proofs.proofs.length ≠ statements.commitments.length then
    throw (.invalidProof "invalid range proof")
  statements.verifyFromTrapping 0 (proofs.proofs.zip statements.commitments)

theorem verifyFromTrapping_eq (statements : Statements S) (index : Nat)
    (proofs : List (RangeProof S × S.G1)) :
    statements.verifyFromTrapping index proofs =
      done (statements.verifyFrom index proofs) := by
  induction proofs generalizing index with
  | nil => rfl
  | cons first rest inductionHypothesis =>
      exact bind_eq_done
        (during_eq_done _ (Statement.verifyTrapping_eq (statements.single first.2)
          first.1))
        fun _ _ => inductionHypothesis (index + 1)

theorem verifyTrapping_eq (statements : Statements S) (proofs : RangeProofs S) :
    statements.verifyTrapping proofs = done (statements.verify proofs) :=
  guard_eq_done fun _ => verifyFromTrapping_eq statements 0 _

end Statements

end ConfidentialToken.Bulletproof
