import ConfidentialToken.Proofs.Algebra.Interpolation
import ConfidentialToken.Proofs.Bn254.Exponents
import ConfidentialToken.Proofs.OneOutOfMany.Completeness
import ConfidentialToken.Proofs.Schnorr.Extraction

/-!
What a one-out-of-many proof guarantees.

Answers to different challenges for the same commitments give away a witness.
Two of them fix a line for the responses of every bit, and the second equation
of the bit leaves its slope no choice but zero and one. If all responses are on
the lines, the sum over all commitments is a polynomial in the challenge whose
leading coefficient is the commitment at the index with these bits, so that as
many answers as it has coefficients open it. Otherwise the bases are related in
a known way.
-/

namespace ConfidentialToken.OneOutOfMany

open Interpolation Schnorr

variable {S : Suite} [LawfulG1 S]

/-- The line through the responses to two challenges. -/
def LinearFactor.through (challenge otherChallenge response otherResponse : S.Scalar) :
    LinearFactor S.Scalar where
  slope := Schnorr.extract challenge otherChallenge response otherResponse
  constant := response -
    challenge * Schnorr.extract challenge otherChallenge response otherResponse

/-- A relation between the two bases: multiples of them that are the same. -/
structure Relation (S : Suite) where
  left : S.Scalar
  right : S.Scalar

def Relation.Holds (relation : Relation S) (g0 g1 : S.G1) : Prop :=
  relation.left • g0 = relation.right • g1

/-- What two answers give away of a bit: the lines of its first two responses,
and the slope of the third one. -/
structure BitLines (S : Suite) where
  value : LinearFactor S.Scalar
  blinding : LinearFactor S.Scalar
  productSlope : S.Scalar

namespace BitLines

def through (challenge otherChallenge : S.Scalar) :
    S.Scalar × S.Scalar × S.Scalar → S.Scalar × S.Scalar × S.Scalar → BitLines S
  | (vl, va, vb), (otherVl, otherVa, otherVb) =>
      { value := .through challenge otherChallenge vl otherVl
        blinding := .through challenge otherChallenge va otherVa
        productSlope := Schnorr.extract challenge otherChallenge vb otherVb }

/-- What the slopes say of the bases, unless the value of the bit is zero or
one. -/
def slopeRelation (lines : BitLines S) : Relation S where
  left := (1 - lines.value.slope) * lines.value.slope
  right := lines.productSlope - (1 - lines.value.slope) * lines.blinding.slope

/-- What responses that are not on the lines say of the bases. -/
def responseRelation (challenge : S.Scalar) (lines : BitLines S) :
    S.Scalar × S.Scalar × S.Scalar → Relation S
  | (vl, va, _) =>
      { left := lines.value.evaluate challenge - vl
        right := va - lines.blinding.evaluate challenge }

end BitLines

section Bit

variable {g0 g1 l a b : S.G1} {challenge otherChallenge vl va otherVl otherVa : S.Scalar}

theorem open_of_two_answers (vb otherVb : S.Scalar)
    (distinct : challenge ≠ otherChallenge)
    (first : challenge • l + a = vl • g0 + va • g1)
    (second : otherChallenge • l + a = otherVl • g0 + otherVa • g1) :
    let lines :=
      BitLines.through challenge otherChallenge (vl, va, vb) (otherVl, otherVa, otherVb)
    l = lines.value.slope • g0 + lines.blinding.slope • g1 ∧
      a = lines.value.constant • g0 + lines.blinding.constant • g1 := by
  intro lines
  have opened : (vl, va).1 • g0 + (vl, va).2 • g1 = a + challenge • l := by
    rw [← first, add_comm]
  have otherOpened : (otherVl, otherVa).1 • g0 + (otherVl, otherVa).2 • g1 =
      a + otherChallenge • l := by
    rw [← second, add_comm]
  have linear := isLinearMap_pair (S := S) g0 g1
  obtain ⟨slopes, constants⟩ := map_line linear distinct opened otherOpened
  simp only [lines, BitLines.through, LinearFactor.through, extract_eq_slope]
  exact ⟨slopes.symm, constants.symm⟩

theorem responseRelation_holds (vb otherVb : S.Scalar)
    (distinct : challenge ≠ otherChallenge)
    (first : challenge • l + a = vl • g0 + va • g1)
    (second : otherChallenge • l + a = otherVl • g0 + otherVa • g1) {further : S.Scalar}
    {response : S.Scalar × S.Scalar × S.Scalar}
    (third : further • l + a = response.1 • g0 + response.2.1 • g1) :
    (BitLines.responseRelation further
      (BitLines.through challenge otherChallenge (vl, va, vb) (otherVl, otherVa, otherVb))
      response).Holds g0 g1 := by
  obtain ⟨slopes, constants⟩ := open_of_two_answers vb otherVb distinct first second
  generalize BitLines.through challenge otherChallenge (vl, va, vb)
    (otherVl, otherVa, otherVb) =
    lines at slopes constants ⊢
  simp only [Relation.Holds, BitLines.responseRelation, LinearFactor.evaluate, sub_smul,
    sub_eq_sub_iff_add_eq_add]
  rw [add_comm (response.2.1 • g1), ← third, slopes, constants]
  module

theorem slopeRelation_holds {vb otherVb : S.Scalar}
    (distinct : challenge ≠ otherChallenge)
    (first : challenge • l + a = vl • g0 + va • g1)
    (second : otherChallenge • l + a = otherVl • g0 + otherVa • g1)
    (firstProduct : (challenge - vl) • l + b = vb • g1)
    (secondProduct : (otherChallenge - otherVl) • l + b = otherVb • g1) :
    (BitLines.through challenge otherChallenge (vl, va, vb)
      (otherVl, otherVa, otherVb)).slopeRelation.Holds g0 g1 := by
  have gap : challenge - otherChallenge ≠ 0 := sub_ne_zero.mpr distinct
  obtain ⟨slopes, -⟩ := open_of_two_answers vb otherVb distinct first second
  set lines :=
    BitLines.through challenge otherChallenge (vl, va, vb) (otherVl, otherVa, otherVb)
      with linesEq
  have complement : 1 - lines.value.slope =
      (challenge - otherChallenge)⁻¹ * (challenge - vl - (otherChallenge - otherVl)) := by
    simp only [linesEq, BitLines.through, LinearFactor.through, Schnorr.extract]
    field_simp
    ring
  have product : (1 - lines.value.slope) • l = lines.productSlope • g1 := by
    calc (1 - lines.value.slope) • l
        = (challenge - otherChallenge)⁻¹ •
            ((challenge - vl) • l + b - ((otherChallenge - otherVl) • l + b)) := by
          rw [complement, add_sub_add_right_eq_sub, mul_smul, sub_smul (challenge - vl)]
      _ = lines.productSlope • g1 := by
          rw [firstProduct, secondProduct]
          exact (extract_smul vb otherVb g1).symm
  simp only [Relation.Holds, BitLines.slopeRelation,
    sub_smul lines.productSlope, ← product]
  rw [slopes]
  module

end Bit

/-- The responses to the bits, as the verifier takes them. -/
def Values.triples (values : Values S) : List (S.Scalar × S.Scalar × S.Scalar) :=
  values.l.zip (values.a.zip values.b)

/-- The lines of all bits, from two answers. -/
def lines (first second : Answer S) : List (BitLines S) :=
  List.zipWith (BitLines.through first.challenge second.challenge) first.values.triples
    second.values.triples

/-- All that the answers say of the bases. -/
def relations (first second : Answer S) (answers : List (Answer S)) : List (Relation S) :=
  (lines first second).map BitLines.slopeRelation ++
    answers.flatMap fun answer =>
      List.zipWith (BitLines.responseRelation answer.challenge) (lines first second)
        answer.values.triples

/-- The index whose bits are the slopes of the lines. -/
def indexOf (lines : List (BitLines S)) : UInt64 :=
  .ofNat (Nat.ofBits fun place : Fin lines.length => (lines.get place).value.slope = 1)

/-- What answers give away: a witness of the prover, or how the bases are
related. -/
inductive Extracted (S : Suite) where
  | opening (witness : Witness S)
  | related (relation : Relation S)

inductive Extracted.Holds (statement : Statement S) (g0 g1 : S.G1) : Extracted S → Prop
  | opening {witness : Witness S} (fits : Fits statement witness g0 g1) :
      Holds statement g0 g1 (.opening witness)
  | related {relation : Relation S} (nonzero : relation.left ≠ 0)
      (holds : relation.Holds g0 g1) : Holds statement g0 g1 (.related relation)

/-- The leading coefficient of the polynomial in the challenge whose values are
the last responses. -/
def leadingResponse {count : Nat} (answers : Fin count → Answer S) : S.Scalar :=
  ∑ which, leadingWeight (fun which => (answers which).challenge) which *
    (answers which).values.d

/-- Extracts from the answers to more challenges than there are bits. -/
def extract {count : Nat} (answers : Fin (count + 2) → Answer S) : Extracted S :=
  match (relations (answers 0) (answers 1) (List.ofFn answers)).find? (·.left ≠ 0) with
  | some relation => .related relation
  | none => .opening {
      index := indexOf (lines (answers 0) (answers 1))
      randomness := leadingResponse answers }

section Answers

variable {statement : Statement S} {g0 g1 : S.G1} {commitments : Commitments S}

omit [LawfulG1 S] in
theorem Answer.Accepted.equations {answer : Answer S}
    (accepted : answer.Accepted statement g0 g1 commitments) {place : Nat}
    (inL : place < commitments.l.length) (inA : place < commitments.a.length)
    (inB : place < commitments.b.length)
    (inTriples : place < answer.values.triples.length) :
    let response := answer.values.triples[place]
    answer.challenge • commitments.l[place] + commitments.a[place] =
        response.1 • g0 + response.2.1 • g1 ∧
      (answer.challenge - response.1) • commitments.l[place] + commitments.b[place] =
        response.2.2 • g1 := by
  intro response
  have inZip : place < ((commitments.l.zip (commitments.a.zip commitments.b)).zip
      answer.values.triples).length := by
    simp only [List.length_zip]
    omega
  have checked := forM_eq_ok.mp accepted.bits _ (List.getElem_mem inZip)
  simp only [List.getElem_zip] at checked
  exact checkBit_eq_ok.mp checked

omit [LawfulG1 S] in
theorem Values.Sized.length_triples {values : Values S} {count : Nat}
    (sized : values.Sized count) : values.triples.length = count := by
  simp [triples, sized.l, sized.a, sized.b]

omit [LawfulG1 S] in
theorem length_lines {first second : Answer S} {count : Nat}
    (firstSized : first.values.Sized count) (secondSized : second.values.Sized count) :
    (lines first second).length = count := by
  simp [lines, firstSized.length_triples, secondSized.length_triples]

theorem relations_hold {first second : Answer S} {answers : List (Answer S)}
    (sized : commitments.Sized statement.bitLength.toNat)
    (distinct : first.challenge ≠ second.challenge)
    (firstAccepted : first.Accepted statement g0 g1 commitments)
    (secondAccepted : second.Accepted statement g0 g1 commitments)
    (accepted : ∀ answer ∈ answers, answer.Accepted statement g0 g1 commitments) :
    ∀ relation ∈ relations first second answers, relation.Holds g0 g1 := by
  have linesLength := length_lines firstAccepted.sized secondAccepted.sized
  have equations {answer : Answer S}
    (accepted : answer.Accepted statement g0 g1 commitments)
      {place : Nat} (inRange : place < statement.bitLength.toNat) :=
    accepted.equations (sized.l.symm ▸ inRange) (sized.a.symm ▸ inRange)
      (sized.b.symm ▸ inRange) (accepted.sized.length_triples.symm ▸ inRange)
  intro relation membership
  rcases List.mem_append.mp membership with ofSlope | ofResponse
  · obtain ⟨_, amongLines, rfl⟩ := List.mem_map.mp ofSlope
    obtain ⟨place, bound, rfl⟩ := List.getElem_of_mem amongLines
    have inRange := linesLength ▸ bound
    obtain ⟨firstLinear, firstProduct⟩ := equations firstAccepted inRange
    obtain ⟨secondLinear, secondProduct⟩ := equations secondAccepted inRange
    simp only [lines, List.getElem_zipWith]
    exact slopeRelation_holds distinct firstLinear secondLinear firstProduct secondProduct
  · obtain ⟨answer, amongAnswers, amongRelations⟩ := List.mem_flatMap.mp ofResponse
    obtain ⟨place, bound, rfl⟩ := List.getElem_of_mem amongRelations
    have inLines : place < (lines first second).length := by
      rw [List.length_zipWith] at bound
      omega
    have inRange := linesLength ▸ inLines
    simp only [lines, List.getElem_zipWith]
    exact responseRelation_holds _ _ distinct (equations firstAccepted inRange).1
      (equations secondAccepted inRange).1
        (equations (accepted answer amongAnswers) inRange).1

omit [LawfulG1 S] in
theorem indexBits_indexOf {lines : List (BitLines S)} (few : lines.length < 64) :
    (indexOf lines).toNat < 2 ^ lines.length ∧
      indexBits (indexOf lines) lines.length =
        lines.map fun line => decide (line.value.slope = 1) := by
  have bounded := Nat.ofBits_lt_two_pow fun place : Fin lines.length =>
    decide ((lines.get place).value.slope = 1)
  have word : (indexOf lines).toNat = Nat.ofBits fun place : Fin lines.length =>
      decide ((lines.get place).value.slope = 1) :=
    UInt64.toNat_ofNat_of_lt
      (Nat.lt_trans bounded (Nat.pow_lt_pow_right Nat.one_lt_two few))
  refine ⟨word ▸ bounded,
    List.ext_getElem (by simp [indexBits]) fun place bound otherBound => ?_⟩
  have inRange : place < lines.length := by simpa using otherBound
  simp only [indexBits, List.getElem_map, List.getElem_range, bit, word,
    Nat.testBit_ofBits_lt _ _ inRange, List.get_eq_getElem]

/-- Where the bases are not seen to be related, all responses are on the lines
of the index. -/
theorem responses_eq_of_not_related {first second answer : Answer S}
    {answers : List (Answer S)} (few : statement.bitLength.toNat < 64)
    (firstSized : first.values.Sized statement.bitLength.toNat)
    (secondSized : second.values.Sized statement.bitLength.toNat)
    (sized : answer.values.Sized statement.bitLength.toNat) (among : answer ∈ answers)
    (unrelated : ∀ relation ∈ relations first second answers, relation.left = 0) :
    answer.values.l = List.zipWith (fun bit a => if bit then a + answer.challenge else a)
      (indexBits (indexOf (lines first second)) statement.bitLength.toNat)
      ((lines first second).map fun line => line.value.constant) := by
  have linesLength := length_lines firstSized secondSized
  have bits := (indexBits_indexOf (linesLength.symm ▸ few)).2
  rw [linesLength] at bits
  rw [bits]
  refine List.ext_getElem (by simp [linesLength, sized.l]) fun place bound otherBound =>
    ?_
  have inLines : place < (lines first second).length := by simpa using otherBound
  have inTriples : place < answer.values.triples.length := by
    rw [sized.length_triples, ← linesLength]
    exact inLines
  have slope : (1 - (lines first second)[place].value.slope) *
      (lines first second)[place].value.slope = 0 :=
    unrelated _ (List.mem_append_left _
      (List.mem_map.mpr ⟨_, List.getElem_mem inLines, rfl⟩))
  have response : (lines first second)[place].value.evaluate answer.challenge -
      answer.values.l[place] = 0 := by
    have inRelations : place < (List.zipWith (BitLines.responseRelation answer.challenge)
        (lines first second) answer.values.triples).length := by
      rw [List.length_zipWith]
      omega
    have related := unrelated _ (List.mem_append_right _ (List.mem_flatMap.mpr
      ⟨answer, among, List.getElem_mem inRelations⟩))
    rw [List.getElem_zipWith] at related
    simpa only [Values.triples, List.getElem_zip, BitLines.responseRelation] using related
  rw [← sub_eq_zero.mp response, LinearFactor.evaluate, List.getElem_zipWith,
    List.getElem_map, List.getElem_map]
  rcases mul_eq_zero.mp slope with complement | zero
  · have one : (lines first second)[place].value.slope = 1 :=
      (sub_eq_zero.mp complement).symm
    simp only [one, decide_true, if_true]
    ring
  · simp [zero]

/-- As many answers as a polynomial has coefficients, all of them on the lines
of one index, open the commitment at the index. -/
theorem getD_eq_smul_of_lines {count : Nat} {index : UInt64} {a : List S.Scalar}
    (bits : statement.bitLength.toNat = count)
    (size : setSize? statement.bitLength = some statement.commitments.length)
    (inRange : index.toNat < statement.commitments.length)
    (sized : commitments.Sized statement.bitLength.toNat)
    (aLength : a.length = statement.bitLength.toNat)
    {answers : Fin (count + 1) → Answer S}
    (distinct : Function.Injective fun which => (answers which).challenge)
    (accepted : ∀ which, (answers which).Accepted statement g0 g1 commitments)
    (onLines : ∀ which, (answers which).values.l =
      List.zipWith (fun bit a => if bit then a + (answers which).challenge else a)
        (indexBits index statement.bitLength.toNat) a) :
    statement.commitments.getD index.toNat 0 = leadingResponse answers • g1 := by
  let factors := linearFactors (indexBits index statement.bitLength.toNat) a
  have masksLength : (masks statement.commitments
      (fun other =>
        polynomialForIndex other factors.1 factors.2) commitments.d).length = count := by
    simp [masks, sized.d, bits]
  obtain ⟨hidden, hiddenEq⟩ := exists_ofFn masksLength
  have collapsed (which : Fin (count + 1)) :
      (answers which).challenge ^ count • statement.commitments.getD index.toNat 0 +
          ∑ place : Fin count, (answers which).challenge ^ place.val • -hidden place =
        (answers which).values.d • g1 := by
    have opened : statement.collapsed (answers which).challenge
        ⟨commitments, (answers which).values⟩ = _ :=
      collapsed_of_lines size inRange aLength sized.d (onLines which)
    dsimp only at opened
    rw [(accepted which).collapsed, hiddenEq, bits, powers_eq, linearCombination_ofFn]
      at opened
    simp only [opened, smul_neg, Finset.sum_neg_distrib, sub_eq_add_neg]
  calc statement.commitments.getD index.toNat 0
      = ∑ which, leadingWeight (fun which => (answers which).challenge) which •
          ((answers which).challenge ^ count • statement.commitments.getD index.toNat 0 +
            ∑ place : Fin count, (answers which).challenge ^ place.val • -hidden place) :=
        (sum_leadingWeight_smul distinct _ _).symm
    _ = leadingResponse answers • g1 := by
        simp only [collapsed, smul_smul, leadingResponse, Finset.sum_smul]

end Answers

/-- Accepted answers to more challenges than there are bits give away an index
with a factor over the second base for its commitment, or how the bases are
related. -/
theorem extract_holds {statement : Statement S} {g0 g1 : S.G1}
    {commitments : Commitments S} {count : Nat}
    (pedersen : statement.pedersen = [g0, g1])
    (bits : statement.bitLength.toNat = count + 1)
    (size : setSize? statement.bitLength = some statement.commitments.length)
    (sized : commitments.Sized statement.bitLength.toNat)
    {answers : Fin (count + 2) → Answer S}
    (distinct : Function.Injective fun which => (answers which).challenge)
    (accepted : ∀ which, (answers which).Accepted statement g0 g1 commitments) :
    (extract answers).Holds statement g0 g1 := by
  have acceptedAll : ∀ answer ∈ List.ofFn answers,
      answer.Accepted statement g0 g1 commitments := by
    intro answer among
    obtain ⟨which, rfl⟩ := List.mem_ofFn.mp among
    exact accepted which
  have firstTwo : (answers 0).challenge ≠ (answers 1).challenge := fun same =>
    Fin.zero_ne_one (distinct same)
  unfold extract
  split
  case h_1 relation found =>
    have holds :=
      relations_hold sized firstTwo (accepted 0) (accepted 1) acceptedAll relation
        (List.mem_of_find?_eq_some found)
    exact .related (by simpa using List.find?_some found) holds
  case h_2 none =>
    have unrelated : ∀ relation ∈ relations (answers 0) (answers 1) (List.ofFn answers),
        relation.left = 0 := by
      simpa using none
    obtain ⟨few, sizeEq⟩ := setSize?_eq_some.mp size
    have linesLength := length_lines (accepted 0).sized (accepted 1).sized
    have inRange := (indexBits_indexOf (linesLength.symm ▸ few)).1
    rw [linesLength, ← sizeEq] at inRange
    have onLines := fun which => responses_eq_of_not_related few (accepted 0).sized
      (accepted 1).sized (accepted which).sized (List.mem_ofFn.mpr ⟨which, rfl⟩) unrelated
    exact .opening ⟨pedersen, size, inRange, getD_eq_smul_of_lines bits size inRange sized
      ((List.length_map _).trans linesLength) distinct accepted onLines⟩

def sampleStatement : Statement Bn254.exponentSuite where
  commitments := [7, 8, 15, 9]
  message := []
  pedersen := [2, 5]
  bitLength := 2

def sampleRandomness : Randomness Bn254.exponentSuite where
  a := [11, 12]
  r := [13, 14]
  s := [17, 18]
  t := [19, 20]
  rho := [23, 24]

def sampleCommitments : Commitments Bn254.exponentSuite :=
  commit sampleStatement 2 5 [false, true] sampleRandomness

def sampleAnswer (which : Fin 3) : Answer Bn254.exponentSuite where
  challenge := ![2, 9, 31] which
  values := respond (![2, 9, 31] which) [false, true] ⟨2, 3⟩ sampleRandomness

theorem extract_sample : Fits sampleStatement ⟨2, 3⟩ (2 : Bn254.Fr) (5 : Bn254.Fr) := by
  have distinct : Function.Injective fun which => (sampleAnswer which).challenge := by
    decide +kernel
  have accepted (which : Fin 3) :
      (sampleAnswer which).Accepted sampleStatement 2 5 sampleCommitments :=
    ⟨⟨rfl, rfl, rfl⟩, by fin_cases which <;> rfl, by fin_cases which <;> rfl⟩
  have pedersen : sampleStatement.pedersen = [2, 5] := rfl
  have bits : sampleStatement.bitLength.toNat = 1 + 1 := rfl
  have size :
    setSize? sampleStatement.bitLength = some sampleStatement.commitments.length := rfl
  have sized : sampleCommitments.Sized sampleStatement.bitLength.toNat :=
    ⟨rfl, rfl, rfl, rfl⟩
  have holds := extract_holds pedersen bits size sized distinct accepted
  have unrelated : ∀ relation ∈ relations (sampleAnswer 0) (sampleAnswer 1)
      (List.ofFn sampleAnswer), ¬ decide (relation.left ≠ 0) = true := by decide +kernel
  have index : indexOf (lines (sampleAnswer 0) (sampleAnswer 1)) = 2 := by decide +kernel
  have randomness : leadingResponse sampleAnswer = 3 := by decide +kernel
  have opening : extract sampleAnswer = .opening ⟨2, 3⟩ := by
    rw [extract, List.find?_eq_none.mpr unrelated, index, randomness]
  rw [opening] at holds
  cases holds with
  | opening fits => exact fits

end ConfidentialToken.OneOutOfMany
