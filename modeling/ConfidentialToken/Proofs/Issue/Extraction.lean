import Mathlib.Algebra.Module.Defs
import ConfidentialToken.Proofs.Bn254.Exponents
import ConfidentialToken.Proofs.Issue.WellFormedness
import ConfidentialToken.Proofs.Transfer.Conservation

/-!
What a proof that issued tokens are well formed guarantees.

Two proofs with one first message and different challenges give away openings of
all tokens and of the commitment to the type. All of them share one response for
the type, and so one type. Where the type is disclosed, the verifier computes
that response, and the type that is opened is the one that is disclosed.
-/

namespace ConfidentialToken.Issue.WellFormedness

open Schnorr (extract extractAll eq_of_same_first zipWith_eq_of_same_first)
open Transfer.WellFormedness (Opens)

variable {S : Suite}

/-- What a prover knows: the common type with its blinding factor, and the
values of the tokens with their blinding factors. -/
structure Witness (S : Suite) where
  tokenType : S.Scalar
  values : List S.Scalar
  blindingFactors : List S.Scalar
  typeBlinding : S.Scalar

/-- The witness that follows from two proofs with one first message. -/
def Witness.ofProofs (statement : Statement S) (left right : Proof S) : Witness S where
  tokenType := extract left.challenge right.challenge (statement.typeResponse left)
    (statement.typeResponse right)
  values := extractAll left.challenge right.challenge left.values right.values
  blindingFactors :=
    extractAll left.challenge right.challenge left.blindingFactors right.blindingFactors
  typeBlinding :=
    extract left.challenge right.challenge left.typeBlinding right.typeBlinding

/-- The commitments to a type, and to the values and blinding factors of several
tokens. -/
def commitTokens (generators : List S.G1) (tokenType : S.Scalar)
    (values blindingFactors : List S.Scalar) : List S.G1 :=
  List.zipWith (fun value blinding =>
    linearCombination generators [tokenType, value, blinding]) values blindingFactors

theorem Statement.recompute_tokens (statement : Statement S) (proof : Proof S) :
    (statement.recompute proof).tokens =
      List.zipWith (fun image token => image - proof.challenge • token)
        (commitTokens statement.generators (statement.typeResponse proof) proof.values
          proof.blindingFactors)
        statement.tokens := by
  apply List.ext_getElem
  · simp only [recompute, commitTokens, List.length_zipWith, List.length_zip]
    omega
  · intro index bound otherBound
    simp [recompute, commitTokens, Schnorr.firstMessage]

variable [LawfulG1 S]

theorem zipWith_commitTokens (generators : List S.G1)
    (challenge otherChallenge tokenType otherType : S.Scalar)
    (values blindingFactors otherValues otherBlinding : List S.Scalar) :
    List.zipWith (fun image other => (challenge - otherChallenge)⁻¹ • (image - other))
        (commitTokens generators tokenType values blindingFactors)
        (commitTokens generators otherType otherValues otherBlinding) =
      commitTokens generators (extract challenge otherChallenge tokenType otherType)
        (extractAll challenge otherChallenge values otherValues)
        (extractAll challenge otherChallenge blindingFactors otherBlinding) := by
  apply zipWith_zipWith_zipWith
  intro value blinding otherValue otherFactor
  have lengths : [tokenType, value, blinding].length =
      [otherType, otherValue, otherFactor].length := rfl
  exact (Schnorr.linearCombination_extractAll generators lengths).symm

theorem Witness.tokenType_of_disclosed {statement : Statement S} {left right : Proof S}
    (disclosed : statement.anonymous = false)
    (distinct : left.challenge ≠ right.challenge)
    (same : left.disclosedType = right.disclosedType) :
    (Witness.ofProofs statement left right).tokenType =
      typeScalar left.disclosedType := by
  have gap : left.challenge - right.challenge ≠ 0 := sub_ne_zero.mpr distinct
  simp only [Witness.ofProofs, Statement.typeResponse, disclosed, Bool.false_eq_true,
    if_false, ← same, extract]
  rw [← sub_mul, mul_right_comm, mul_inv_cancel₀ gap, one_mul]

/-- What a witness says about a statement under a commitment to the type: it
opens all tokens and the commitment, with one type. -/
structure Witness.Explains (witness : Witness S) (typeBase valueBase blindingBase : S.G1)
    (commitmentToType : S.G1) (statement : Statement S) : Prop where
  tokens : Opens typeBase valueBase blindingBase witness.tokenType witness.values
    witness.blindingFactors statement.tokens
  typeOpening : commitmentToType =
    witness.tokenType • typeBase + witness.typeBlinding • blindingBase

variable {typeBase valueBase blindingBase : S.G1} {statement : Statement S}
  {left right : Proof S}

theorem opens_of_same_tokens
    (generators : statement.generators = [typeBase, valueBase, blindingBase])
    (distinct : left.challenge ≠ right.challenge)
    (leftShape : statement.checkShape left = .ok ())
    (rightShape : statement.checkShape right = .ok ())
    (same : (statement.recompute left).tokens = (statement.recompute right).tokens) :
    let witness := Witness.ofProofs statement left right
    Opens typeBase valueBase blindingBase witness.tokenType witness.values
      witness.blindingFactors statement.tokens := by
  intro witness
  obtain ⟨-, leftValues, leftBlinding, -⟩ := Statement.checkShape_eq_ok.mp leftShape
  obtain ⟨-, rightValues, rightBlinding, -⟩ := Statement.checkShape_eq_ok.mp rightShape
  rw [Statement.recompute_tokens, Statement.recompute_tokens] at same
  have opened :=
    zipWith_eq_of_same_first distinct (by simp [commitTokens, leftValues, leftBlinding])
      (by simp [commitTokens, rightValues, rightBlinding]) same
  rw [zipWith_commitTokens, generators] at opened
  refine ⟨?_, ?_, ?_⟩
  · simp [witness, Witness.ofProofs, leftValues, rightValues]
  · simp [witness, Witness.ofProofs, leftBlinding, rightBlinding]
  · simp only [commitTokens, linearCombination_triple] at opened
    exact opened

theorem typeOpening_of_same_commitment
    (generators : statement.generators = [typeBase, valueBase, blindingBase])
    (distinct : left.challenge ≠ right.challenge)
    (sameType : left.commitmentToType = right.commitmentToType)
    (same : (statement.recompute left).commitmentToType =
      (statement.recompute right).commitmentToType) :
    let witness := Witness.ofProofs statement left right
    left.commitmentToType =
      witness.tokenType • typeBase + witness.typeBlinding • blindingBase := by
  intro witness
  simp only [Statement.recompute, ← sameType] at same
  have opened := eq_of_same_first distinct same
  rw [extract_commitType, generators, commitType_triple] at opened
  exact opened.symm

/-- Two proofs for one commitment to the type, with one first message and
different challenges, give away openings of all tokens and of the commitment,
with one type. A type that is disclosed is that type. -/
theorem one_type_of_same_firstMessages {statement : Statement S}
    (generators : statement.generators = [typeBase, valueBase, blindingBase])
    {left right : Proof S} (distinct : left.challenge ≠ right.challenge)
    (sameType : left.commitmentToType = right.commitmentToType)
    (sameDisclosed : statement.anonymous = false →
      left.disclosedType = right.disclosedType)
    (leftShape : statement.checkShape left = .ok ())
    (rightShape : statement.checkShape right = .ok ())
    (same : statement.recompute left = statement.recompute right) :
    let witness := Witness.ofProofs statement left right
    witness.Explains typeBase valueBase blindingBase left.commitmentToType statement ∧
      (statement.anonymous = false →
        witness.tokenType = typeScalar left.disclosedType) := by
  intro witness
  have tokens := opens_of_same_tokens generators distinct leftShape rightShape
    (congrArg FirstMessages.tokens same)
  have typeOpening := typeOpening_of_same_commitment generators distinct sameType
    (congrArg FirstMessages.commitmentToType same)
  refine ⟨⟨tokens, typeOpening⟩, ?_⟩
  intro disclosed
  exact Witness.tokenType_of_disclosed disclosed distinct (sameDisclosed disclosed)

def sampleType : Bn254.Fr := typeScalar (S := Bn254.exponentSuite) "USD"

def sampleStatement (anonymous : Bool) : Statement Bn254.exponentSuite where
  generators := [2, 3, 5]
  tokens := [sampleType * 2 + 26, sampleType * 2 + 29]
  anonymous := anonymous

def sampleProof (anonymous : Bool) (challenge : Bn254.Fr) :
    Proof Bn254.exponentSuite where
  tokenType := if anonymous then 37 + challenge * sampleType else 0
  values := [13 + challenge * 7, 17 + challenge * 3]
  blindingFactors := [19 + challenge * 1, 23 + challenge * 4]
  typeBlinding := 29 + challenge * 6
  disclosedType := if anonymous then "" else "USD"
  commitmentToType := sampleType * 2 + 30
  challenge := challenge

theorem one_type_sample :
    let witness (anonymous : Bool) := Witness.ofProofs (sampleStatement anonymous)
      (sampleProof anonymous 2) (sampleProof anonymous 9)
    (∀ anonymous, (witness anonymous).Explains (S := Bn254.exponentSuite) 2 3 5
        (sampleType * 2 + 30) (sampleStatement anonymous)) ∧
      (witness false).tokenType = sampleType := by
  intro witness
  have generators (anonymous : Bool) :
    (sampleStatement anonymous).generators = [2, 3, 5] := rfl
  have distinct (anonymous : Bool) :
      (sampleProof anonymous 2).challenge ≠ (sampleProof anonymous 9).challenge := by
    cases anonymous <;> decide +kernel
  have shape (anonymous : Bool) (challenge : Bn254.Fr) :
      (sampleStatement anonymous).checkShape (sampleProof anonymous challenge) =
        .ok () := by
    cases anonymous <;> simp [Statement.checkShape_eq_ok, sampleStatement, sampleProof]
  have same (anonymous : Bool) :
    (sampleStatement anonymous).recompute (sampleProof anonymous 2) =
      (sampleStatement anonymous).recompute (sampleProof anonymous 9) := by
    simp only [Statement.recompute, FirstMessages.mk.injEq]
    cases anonymous <;> decide +kernel
  have guaranteed (anonymous : Bool) :=
    one_type_of_same_firstMessages (generators anonymous)
      (distinct anonymous) rfl (fun _ => rfl) (shape anonymous 2) (shape anonymous 9)
      (same anonymous)
  have opened (anonymous : Bool) := (guaranteed anonymous).1
  exact ⟨opened, (guaranteed false).2 rfl⟩

end ConfidentialToken.Issue.WellFormedness
