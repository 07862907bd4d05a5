import Mathlib.Algebra.Module.Defs
import Mathlib.Data.Nat.Digits.Lemmas
import ConfidentialToken.Proofs.Bn254.Exponents
import ConfidentialToken.Proofs.DigitRange.Completeness

/-!
What a range proof by digits guarantees.

Two proofs for the same digit commitments, with one first message and different
challenges, give away openings of all tokens and of the weighted sums of their
digits. Both share the response for the value, and so the value. Whoever can
also open the commitments to the digits has a value with these digits, or knows
how the two bases of the digits are related.
-/

namespace ConfidentialToken.DigitRange

open Schnorr (extract extractAll zipWith_eq_of_same_first)

variable {S : Suite}

/-- What a prover knows: the common type, the values with the blinding factors
of the tokens, and the blinding factors of the weighted sums of the digits. -/
structure Witness (S : Suite) where
  tokenType : S.Scalar
  values : List S.Scalar
  tokenBlinding : List S.Scalar
  digitBlinding : List S.Scalar

/-- The witness that follows from two proofs with one first message. -/
def Witness.ofProofs (left right : RangeProof S) : Witness S where
  tokenType := extract left.challenge right.challenge left.equality.tokenType
    right.equality.tokenType
  values :=
    extractAll left.challenge right.challenge left.equality.values right.equality.values
  tokenBlinding := extractAll left.challenge right.challenge left.equality.tokenBlinding
    right.equality.tokenBlinding
  digitBlinding := extractAll left.challenge right.challenge left.equality.digitBlinding
    right.equality.digitBlinding

/-- There are commitments for every token, and for each token as many as a value
has digits. -/
structure Statement.Shaped (statement : Statement S) (digits : List (List S.G1)) :
    Prop where
  count : digits.length = statement.tokens.length
  exponent :
    ∀ commitments ∈ digits, commitments.length = statement.parameters.exponent.toNat

theorem Statement.shaped_of_verify {statement : Statement S} {proof : RangeProof S}
    (accepted : statement.verify proof = .ok ()) :
    statement.Shaped (proof.digits.map DigitProofs.commitments) := by
  obtain ⟨-, count, each, -⟩ := verify_eq_ok.mp accepted
  refine ⟨by rw [List.length_map, count], fun commitments membership => ?_⟩
  obtain ⟨digits, among, rfl⟩ := List.mem_map.mp membership
  exact (each digits among).1

/-- What a witness says about a statement: it opens all tokens with one type,
and the weighted sums of their digits with the values of the tokens. -/
structure Witness.Explains (witness : Witness S) (typeBase valueBase blindingBase : S.G1)
    (statement : Statement S) (digits : List (List S.G1)) : Prop where
  valuesLength : witness.values.length = statement.tokens.length
  tokenBlindingLength : witness.tokenBlinding.length = statement.tokens.length
  digitBlindingLength : witness.digitBlinding.length = statement.tokens.length
  tokens : List.zipWith (fun value blinding =>
    witness.tokenType • typeBase + value • valueBase +
      blinding • blindingBase) witness.values witness.tokenBlinding = statement.tokens
  digits : List.zipWith (fun value blinding => value • typeBase + blinding • valueBase)
    witness.values witness.digitBlinding = digits.map statement.weigh

/-- Commitments to values with their blinding factors, and to what they share
before both. -/
def commitAll (bases : List S.G1) (shared values blinding : List S.Scalar) : List S.G1 :=
  List.zipWith (fun value factor => linearCombination bases (shared ++ [value, factor]))
    values blinding

theorem Statement.recompute_eq_ok {statement : Statement S} {proof : RangeProof S}
    {first : FirstMessages S} {digits : List (List S.G1)}
    (commitments : proof.digits.map DigitProofs.commitments = digits)
    (count : digits.length = statement.tokens.length)
    (recomputed : statement.recompute proof = .ok first) :
    proof.equality.values.length = statement.tokens.length ∧
      proof.equality.tokenBlinding.length = statement.tokens.length ∧
      proof.equality.digitBlinding.length = statement.tokens.length ∧
      first.tokens = List.zipWith (fun image token => image - proof.challenge • token)
        (commitAll statement.generators [proof.equality.tokenType] proof.equality.values
          proof.equality.tokenBlinding) statement.tokens ∧
      first.digits = List.zipWith (fun image weighed => image - proof.challenge • weighed)
        (commitAll statement.digitGenerators [] proof.equality.values
          proof.equality.digitBlinding)
        (digits.map statement.weigh) := by
  simp only [recompute, commitments, guard_eq_ok, bind_eq_ok, pure_eq_ok, mapM_eq_ok,
    not_or, not_not, ne_eq] at recomputed
  obtain ⟨⟨valuesLength, tokenLength, digitLength⟩, messages, each, rfl⟩ := recomputed
  have length := each.length_eq
  simp only [List.length_zip, valuesLength, tokenLength, digitLength, count, Nat.min_self]
    at length
  -- Five lists run in step here, so that they are compared at an index.
  have message (index : Nat) (inMessages : index < messages.length)
      (inTokens : index < statement.tokens.length) (inDigits : index < digits.length)
      (inValues : index < proof.equality.values.length)
      (inTokenBlinding : index < proof.equality.tokenBlinding.length)
      (inDigitBlinding : index < proof.equality.digitBlinding.length) :
      statement.recomputeToken proof
        (statement.tokens[index], digits[index], proof.equality.values[index],
          proof.equality.tokenBlinding[index], proof.equality.digitBlinding[index]) =
        .ok messages[index] := by
    have related := each.get (each.length_eq ▸ inMessages) inMessages
    simpa only [List.get_eq_getElem, List.getElem_zip] using related
  simp only [recomputeToken, bind_eq_ok, pure_eq_ok, Schnorr.recompute_eq_ok] at message
  refine ⟨valuesLength, tokenLength, digitLength, ?_, ?_⟩
  · refine List.ext_getElem (by simp [commitAll, *]) fun index bound otherBound => ?_
    rw [List.length_map] at bound
    obtain ⟨token, ⟨-, tokenFirst⟩, digit, -, form⟩ :=
      message index bound (by omega) (by omega) (by omega) (by omega) (by omega)
    simp only [List.getElem_map, List.getElem_zipWith, commitAll,
      List.singleton_append, ← form, ← tokenFirst]
    rfl
  · refine List.ext_getElem (by simp [commitAll, *]) fun index bound otherBound => ?_
    rw [List.length_map] at bound
    obtain ⟨token, -, digit, ⟨-, digitFirst⟩, form⟩ :=
      message index bound (by omega) (by omega) (by omega) (by omega) (by omega)
    simp only [List.getElem_map, List.getElem_zipWith, commitAll, List.nil_append, ← form,
      ← digitFirst]
    rfl

variable [LawfulG1 S]

theorem commitAll_extractAll {bases statements : List S.G1}
    {challenge otherChallenge : S.Scalar}
    {shared otherShared values otherValues blinding otherBlinding : List S.Scalar}
    (distinct : challenge ≠ otherChallenge)
    (sharedLength : shared.length = otherShared.length)
    (valuesLength : values.length = statements.length)
    (otherValuesLength : otherValues.length = statements.length)
    (blindingLength : blinding.length = statements.length)
    (otherBlindingLength : otherBlinding.length = statements.length)
    (same :
      List.zipWith (fun image statement => image - challenge • statement)
          (commitAll bases shared values blinding) statements =
        List.zipWith (fun image statement => image - otherChallenge • statement)
          (commitAll bases otherShared otherValues otherBlinding) statements) :
    commitAll bases (extractAll challenge otherChallenge shared otherShared)
        (extractAll challenge otherChallenge values otherValues)
        (extractAll challenge otherChallenge blinding otherBlinding) = statements := by
  have opened := zipWith_eq_of_same_first distinct (by simp [commitAll, *])
    (by simp [commitAll, *]) same
  refine Eq.trans (Eq.symm ?_) opened
  apply zipWith_zipWith_zipWith
  intro value factor otherValue otherFactor
  rw [← Schnorr.linearCombination_extractAll bases (by simp [sharedLength])]
  exact congrArg (linearCombination bases) (List.zipWith_append sharedLength)

variable {typeBase valueBase blindingBase : S.G1} {statement : Statement S}
  {left right : RangeProof S} {digits : List (List S.G1)}

theorem explains_ofProofs {first : FirstMessages S}
    (generators : statement.generators = [typeBase, valueBase, blindingBase])
    (distinct : left.challenge ≠ right.challenge)
    (leftDigits : left.digits.map DigitProofs.commitments = digits)
    (rightDigits : right.digits.map DigitProofs.commitments = digits)
    (shaped : statement.Shaped digits)
    (leftFirst : statement.recompute left = .ok first)
    (rightFirst : statement.recompute right = .ok first) :
    (Witness.ofProofs left right).Explains typeBase valueBase blindingBase
      statement digits := by
  obtain ⟨leftValues, leftTokens, leftWeights, leftTokenImages, leftDigitImages⟩ :=
    Statement.recompute_eq_ok leftDigits shaped.count leftFirst
  obtain ⟨rightValues, rightTokens, rightWeights, rightTokenImages, rightDigitImages⟩ :=
    Statement.recompute_eq_ok rightDigits shaped.count rightFirst
  have sameTokens := leftTokenImages.symm.trans rightTokenImages
  have sameDigits := leftDigitImages.symm.trans rightDigitImages
  have oneType : [left.equality.tokenType].length = [right.equality.tokenType].length :=
    rfl
  have tokens :=
    commitAll_extractAll distinct oneType leftValues rightValues leftTokens rightTokens
      sameTokens
  have count : (digits.map statement.weigh).length = statement.tokens.length := by
    rw [List.length_map, shaped.count]
  have weighed := commitAll_extractAll distinct rfl (leftValues.trans count.symm)
    (rightValues.trans count.symm) (leftWeights.trans count.symm)
    (rightWeights.trans count.symm)
    sameDigits
  have two : statement.digitGenerators = [typeBase, valueBase] := by
    rw [Statement.digitGenerators, generators]
    rfl
  rw [generators] at tokens
  rw [two] at weighed
  refine ⟨?_, ?_, ?_, ?_, ?_⟩
  · simp [Witness.ofProofs, leftValues, rightValues]
  · simp [Witness.ofProofs, leftTokens, rightTokens]
  · simp [Witness.ofProofs, leftWeights, rightWeights]
  · simpa [commitAll, extractAll, Witness.ofProofs, ← add_assoc] using tokens
  · simpa [commitAll, extractAll, Witness.ofProofs] using weighed

/-- Digits below the base, with blinding factors, that open commitments. -/
structure OpensDigits (typeBase valueBase : S.G1) (base : Nat)
    (openings : List (Nat × S.Scalar)) (commitments : List S.G1) : Prop where
  bounded : ∀ opening ∈ openings, opening.1 < base
  commitments : openings.map (fun (digit, blinding) =>
    (ScalarOperations.ofNat digit : S.Scalar) • typeBase + blinding • valueBase) =
      commitments

/-- The number that is spelled by the digits of openings. -/
def spelled (base : Nat) (openings : List (Nat × S.Scalar)) : Nat :=
  Nat.ofDigits base (openings.map Prod.fst)

omit [LawfulG1 S] in
theorem spelled_lt {base : Nat} (two_le : 2 ≤ base) {openings : List (Nat × S.Scalar)}
    {commitments : List S.G1}
    (opens : OpensDigits typeBase valueBase base openings commitments) :
    spelled base openings < base ^ commitments.length := by
  have bounded : ∀ digit ∈ openings.map Prod.fst, digit < base :=
    List.forall_mem_map.mpr opens.bounded
  have length : (openings.map Prod.fst).length = commitments.length := by
    rw [List.length_map, ← opens.commitments, List.length_map]
  rw [← length]
  exact Nat.ofDigits_lt_base_pow_length two_le bounded

theorem Statement.weigh_of_opens {openings : List (Nat × S.Scalar)}
    {commitments : List S.G1}
    (opens : OpensDigits typeBase valueBase statement.parameters.base.toNat openings
      commitments) :
    statement.weigh commitments =
      (ScalarOperations.ofNat (spelled statement.parameters.base.toNat openings) :
        S.Scalar) •
          typeBase +
        dotProduct (openings.map Prod.snd)
          (powers (wordScalar statement.parameters.base) openings.length) •
            valueBase := by
  have digits := dotProduct_ofDigits (S := S) statement.parameters.base.toNat
    (openings.map Prod.fst)
  rw [List.map_map, List.length_map] at digits
  have pairs := linearCombination_map_pair typeBase valueBase
    (fun opening : Nat × S.Scalar => (ScalarOperations.ofNat opening.1 : S.Scalar))
    Prod.snd openings
    (powers (wordScalar statement.parameters.base) openings.length)
  simp only [linearCombination_cons, linearCombination_nil, add_zero] at pairs
  rw [weigh, ← opens.commitments, List.length_map, pairs]
  exact congrArg (· • typeBase + _) digits

/-- Whoever also opens the digits of a token has spelled its value, or knows how
the bases are related. -/
theorem Witness.Explains.spells_or_related {witness : Witness S}
    (explains : witness.Explains typeBase valueBase blindingBase statement digits)
    (valid : statement.parameters.validate = .ok ()) (shaped : statement.Shaped digits)
    {index : Nat} {value blinding : S.Scalar} {commitments : List S.G1}
    (valueAt : witness.values[index]? = some value)
    (blindingAt : witness.digitBlinding[index]? = some blinding)
    (digitsAt : digits[index]? = some commitments) {openings : List (Nat × S.Scalar)}
    (opens : OpensDigits typeBase valueBase statement.parameters.base.toNat openings
      commitments) :
    let number := spelled statement.parameters.base.toNat openings
    let weighted := dotProduct (openings.map Prod.snd)
      (powers (wordScalar statement.parameters.base) openings.length)
    number ≤ statement.parameters.maxValue.toNat ∧
      (ScalarOperations.toNat value = number ∨
        value - ScalarOperations.ofNat number ≠ 0 ∧
        (value - ScalarOperations.ofNat number) • typeBase =
          (weighted - blinding) • valueBase) := by
  intro number weighted
  have checked := Parameters.checkShape_of_validate valid
  obtain ⟨power, shape⟩ := checkShape_eq_ok.mp checked
  have small :
      number < statement.parameters.base.toNat ^ statement.parameters.exponent.toNat := by
    rw [← shaped.exponent commitments (List.mem_of_getElem? digitsAt)]
    exact spelled_lt shape.two_le opens
  refine ⟨by rw [Parameters.toNat_maxValue checked]; omega, ?_⟩
  by_cases equal : value = ScalarOperations.ofNat number
  · have word : number < LawfulScalars.order S.Scalar :=
      calc number < power.toNat := shape.power_eq ▸ small
        _ < 2 ^ 64 := power.toNat_lt
        _ ≤ 2 ^ 128 := by decide
        _ ≤ LawfulScalars.order S.Scalar := LawfulScalars.order_wide
    exact .inl (by rw [equal, LawfulScalars.toNat_ofNat, Nat.mod_eq_of_lt word])
  · have weighed := congrArg (·[index]?) explains.digits
    simp only [List.getElem?_zipWith, List.getElem?_map, valueAt, blindingAt, digitsAt,
      Option.map_some, Option.some.injEq] at weighed
    rw [Statement.weigh_of_opens opens] at weighed
    refine .inr ⟨sub_ne_zero.mpr equal, ?_⟩
    rw [sub_smul, sub_smul, sub_eq_sub_iff_add_eq_add, weighed]
    exact add_comm _ _

/-- Two proofs for the same digit commitments, with one first message and
different challenges, give away a witness: it opens all tokens with one type,
and the weighted sums of their digits with the values of the tokens. Where the
digits of a token are opened as well, they spell a number that is not above the
greatest value, and this number is the value of the token, or the bases of the
digits are related in a known way. -/
theorem spells_values_of_same_firstMessages {first : FirstMessages S}
    (generators : statement.generators = [typeBase, valueBase, blindingBase])
    (valid : statement.parameters.validate = .ok ())
    (distinct : left.challenge ≠ right.challenge)
    (leftDigits : left.digits.map DigitProofs.commitments = digits)
    (rightDigits : right.digits.map DigitProofs.commitments = digits)
    (shaped : statement.Shaped digits)
    (leftFirst : statement.recompute left = .ok first)
    (rightFirst : statement.recompute right = .ok first) :
    let witness := Witness.ofProofs left right
    witness.Explains typeBase valueBase blindingBase statement digits ∧
      statement.parameters.maxValue.toNat =
        statement.parameters.base.toNat ^ statement.parameters.exponent.toNat - 1 ∧
      ∀ (index : Nat) (value blinding : S.Scalar) (commitments : List S.G1),
        witness.values[index]? = some value →
          witness.digitBlinding[index]? = some blinding →
        digits[index]? = some commitments → ∀ openings : List (Nat × S.Scalar),
        OpensDigits typeBase valueBase statement.parameters.base.toNat openings
          commitments →
        let number := spelled statement.parameters.base.toNat openings
        let weighted := dotProduct (openings.map Prod.snd)
          (powers (wordScalar statement.parameters.base) openings.length)
        number ≤ statement.parameters.maxValue.toNat ∧
          (ScalarOperations.toNat value = number ∨
            value - ScalarOperations.ofNat number ≠ 0 ∧
            (value - ScalarOperations.ofNat number) • typeBase =
              (weighted - blinding) • valueBase) := by
  intro witness
  have explains : witness.Explains typeBase valueBase blindingBase statement digits :=
    explains_ofProofs generators distinct leftDigits rightDigits shaped leftFirst
      rightFirst
  exact ⟨explains, Parameters.toNat_maxValue (Parameters.checkShape_of_validate valid),
    fun _ _ _ _ valueAt blindingAt digitsAt _ opens =>
      explains.spells_or_related valid shaped valueAt blindingAt digitsAt opens⟩

def sampleTable : Parameters Bn254.exponentSuite where
  base := 2
  exponent := 3
  keyParts := [7, 11, 13]
  keyBase := 17
  blindingPoint := 19
  signatures := [⟨1, 2⟩, ⟨1, 3⟩]

def sampleStatement : Statement Bn254.exponentSuite where
  tokens := [47, 55]
  generators := [2, 3, 5]
  parameters := sampleTable

def sampleProof (challenge : Bn254.Fr) : RangeProof Bn254.exponentSuite where
  challenge := challenge
  equality := {
    tokenType := 23 + challenge * 11
    values := [29 + challenge * 5, 31 + challenge * 6]
    tokenBlinding := [37 + challenge * 2, 41 + challenge * 3]
    digitBlinding := [43 + challenge * 48, 47 + challenge * 17] }
  digits := [⟨[14, 18, 26], []⟩, ⟨[3, 8, 11], []⟩]

def sampleOpenings : List (Nat × Bn254.Fr) :=
  [(0, 1), (1, 2), (1, 3)]

theorem spells_values_sample :
    let witness := Witness.ofProofs (sampleProof 2) (sampleProof 9)
    witness.Explains (S := Bn254.exponentSuite) 2 3 5 sampleStatement
        [[14, 18, 26], [3, 8, 11]] ∧
      ∃ value, witness.values[1]? = some value ∧
        ScalarOperations.toNat value =
          spelled (S := Bn254.exponentSuite) 2 sampleOpenings := by
  have generators : sampleStatement.generators = [2, 3, 5] := rfl
  have valid : sampleStatement.parameters.validate = .ok () := rfl
  have shaped : sampleStatement.Shaped [[14, 18, 26], [3, 8, 11]] :=
    ⟨rfl, by simp [sampleStatement, sampleTable]⟩
  have opens : OpensDigits (S := Bn254.exponentSuite) 2 3 2 sampleOpenings [3, 8, 11] :=
    ⟨by decide, by decide +kernel⟩
  have distinct : (sampleProof 2).challenge ≠ (sampleProof 9).challenge := by
    decide +kernel
  have digits (challenge : Bn254.Fr) :
      (sampleProof challenge).digits.map DigitProofs.commitments =
        [[14, 18, 26], [3, 8, 11]] := rfl
  have first : sampleStatement.recompute (sampleProof 2) =
      .ok ⟨[318, 344], [187, 203]⟩ := rfl
  have otherFirst : sampleStatement.recompute (sampleProof 9) =
      .ok ⟨[318, 344], [187, 203]⟩ := rfl
  obtain ⟨explains, -, spells⟩ := spells_values_of_same_firstMessages generators valid
    distinct (digits 2) (digits 9) shaped first otherFirst
  obtain ⟨-, equal | ⟨different, -⟩⟩ :=
    spells 1 6 17 [3, 8, 11] (by decide +kernel) (by decide +kernel) rfl
      sampleOpenings opens
  · exact ⟨explains, 6, by decide +kernel, equal⟩
  · exact absurd (by decide +kernel) different

end ConfidentialToken.DigitRange
