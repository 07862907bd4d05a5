import ConfidentialToken.Proofs.DigitRange.Parameters
import ConfidentialToken.Proofs.Token

/-!
Honest range proofs by digits are accepted.

A value in range is the sum of its digits, weighted with the powers of the base,
so that the weighted commitments to the digits are a commitment to the value.
The responses for the token and for this commitment give back the first
messages.
-/

namespace ConfidentialToken.DigitRange

open PsSignature

variable {S : Suite}

theorem chunks_append {α : Type} {size : Nat} (positive : 0 < size) {list : List α}
    (length : list.length = size) (rest : List α) :
    chunks size (list ++ rest) = list :: chunks size rest := by
  have count : ((list ++ rest).length + size - 1) / size =
      (rest.length + size - 1) / size + 1 := by
    rw [← Nat.add_div_right _ positive, List.length_append, length]
    congr 1
    omega
  rw [chunks, count, List.range_succ_eq_map, List.map_cons, List.map_map, chunks]
  refine congrArg₂ List.cons ?_ (List.map_congr_left fun index _ => ?_)
  · rw [Nat.zero_mul, List.drop_zero, List.take_left' length]
  · have past : (index + 1) * size = list.length + index * size := by
      rw [Nat.succ_mul, length, Nat.add_comm]
    rw [Function.comp_apply, Nat.succ_eq_add_one, past, List.drop_length_add_append]

theorem chunks_flatten {α : Type} {size : Nat} (positive : 0 < size)
    {lists : List (List α)} (lengths : ∀ list ∈ lists, list.length = size) :
    chunks size lists.flatten = lists := by
  induction lists with
  | nil => simp [chunks, Nat.div_eq_of_lt, positive]
  | cons list lists inductionHypothesis =>
      obtain ⟨length, rest⟩ := List.forall_mem_cons.mp lengths
      rw [List.flatten_cons, chunks_append positive length, inductionHypothesis rest]

namespace Statement

/-- The digit is signed, and its commitment opens to it. -/
structure Opens (statement : Statement S) (digit : CommittedDigit S) : Prop where
  commitment : digit.commitment = linearCombination statement.digitGenerators
    [digit.witness.value, digit.witness.commitmentBlinding]
  certified : statement.parameters.key.Certifies [digit.witness.value]
    (hashMessages [digit.witness.value]) digit.witness.signature

theorem commitDigit_eq_ok {statement : Statement S}
    (certified : statement.parameters.Certified) {digit : UInt64} {factor : S.Scalar}
    {committed : CommittedDigit S}
    (made : statement.commitDigit digit factor = .ok committed) :
    statement.Opens committed ∧ committed.witness.value = wordScalar digit := by
  unfold commitDigit at made
  split at made
  case h_1 signature found =>
    cases made
    exact ⟨⟨rfl, certified digit.toNat signature found⟩, rfl⟩
  case h_2 =>
    cases made

/-- The committed digits of an opening are the digits of its value. -/
structure Decomposes (statement : Statement S) (opening : Opening S)
    (digits : List (CommittedDigit S)) : Prop where
  opens : ∀ digit ∈ digits, statement.Opens digit
  values : digits.map (fun digit => digit.witness.value) =
    (digitsOf statement.parameters.base statement.parameters.exponent.toNat
      opening.value).map wordScalar
  inRange : opening.value ≤ statement.parameters.maxValue

theorem Decomposes.length_eq {statement : Statement S} {opening : Opening S}
    {digits : List (CommittedDigit S)}
    (decomposes : statement.Decomposes opening digits) :
    digits.length = statement.parameters.exponent.toNat := by
  have lengths := congrArg List.length decomposes.values
  rwa [List.length_map, List.length_map, length_digitsOf] at lengths

theorem Decomposes.forall_length_eq {statement : Statement S}
    {openings : List (Opening S)} {digits : List (List (CommittedDigit S))}
    (decomposes : List.Forall₂ statement.Decomposes openings digits) :
    ∀ committed ∈ digits, committed.length = statement.parameters.exponent.toNat := by
  intro committed membership
  obtain ⟨opening, -, decomposition⟩ := exists_of_forall₂ decomposes.flip membership
  exact decomposition.length_eq

theorem decompose_gives {R : Type} [RandomSource S R] {statement : Statement S}
    (certified : statement.parameters.Certified) {opening : Opening S}
    {digits : List (CommittedDigit S)}
    (gives : Sampling.Gives (R := R) (statement.decompose opening) digits) :
    statement.Decomposes opening digits := by
  obtain ⟨inRange, drawn⟩ := gives.guard
  have made := drawn.mapM
  have each {digit : UInt64} {committed : CommittedDigit S}
      (given : Sampling.Gives (R := R) (do
        (statement.commitDigit digit (← Sampling.scalar) : Result _)) committed) :
      statement.Opens committed ∧ committed.witness.value = wordScalar digit := by
    obtain ⟨factor, -, given⟩ := given.bind
    exact commitDigit_eq_ok certified given.lift
  refine ⟨?_, ?_, UInt64.not_lt.mp inRange⟩
  · intro committed membership
    obtain ⟨digit, -, given⟩ := exists_of_forall₂ made.flip membership
    exact (each given).1
  · clear gives drawn
    generalize digitsOf _ _ _ = values at made ⊢
    induction made with
    | nil => rfl
    | cons first _ inductionHypothesis =>
        rw [List.map_cons, List.map_cons, inductionHypothesis, (each first).2]

/-- The proofs for the digits of one token: there is one for each of them. -/
structure Proves (R : Type) [RandomSource S R] (statement : Statement S)
    (committed : List (CommittedDigit S)) (proofs : DigitProofs S) : Prop where
  commitments : proofs.commitments = committed.map CommittedDigit.commitment
  memberships : List.Forall₂
    (fun digit proof => Sampling.Gives (R := R)
      (MembershipProof.prove (statement.membership digit.commitment) digit.witness) proof)
    committed proofs.memberships

/-- Every token gets the proofs for its own digits, if all have as many digits
as a proof covers. -/
theorem proveMembership_gives {R : Type} [RandomSource S R] {statement : Statement S}
    (positive : 0 < statement.parameters.exponent.toNat)
    {digits : List (List (CommittedDigit S))}
    (counted : ∀ committed ∈ digits,
      committed.length = statement.parameters.exponent.toNat)
    {proofs : List (DigitProofs S)}
    (gives : Sampling.Gives (R := R) (statement.proveMembership digits) proofs) :
    List.Forall₂ (statement.Proves R) digits proofs := by
  obtain ⟨memberships, proved, given⟩ := gives.bind
  cases given.pure
  obtain ⟨shares, shared, rfl⟩ := exists_flatten_of_forall₂
    (proved.mapM.imp fun _ _ forked => forked.forked)
  have sharesCounted :
      ∀ share ∈ shares, share.length = statement.parameters.exponent.toNat := by
    intro share membership
    obtain ⟨committed, among, related⟩ := exists_of_forall₂ shared.flip membership
    exact related.length_eq.symm.trans (counted committed among)
  rw [chunks_flatten positive sharesCounted]
  clear gives proved given sharesCounted counted
  induction shared with
  | nil => exact .nil
  | cons first _ inductionHypothesis => exact .cons ⟨rfl, first⟩ inductionHypothesis

theorem Proves.map_commitments {R : Type} [RandomSource S R] {statement : Statement S}
    {digits : List (List (CommittedDigit S))} {proofs : List (DigitProofs S)}
    (proves : List.Forall₂ (statement.Proves R) digits proofs) :
    proofs.map DigitProofs.commitments =
      digits.map fun committed => committed.map CommittedDigit.commitment := by
  rw [← List.forall₂_eq_eq_eq, List.forall₂_map_left_iff, List.forall₂_map_right_iff]
  exact proves.flip.imp fun _ _ proved => proved.commitments

theorem Proves.verifyDigits [BilinearPairing S] {R : Type} [RandomSource S R]
    {statement : Statement S} {digits : List (CommittedDigit S)}
    {proofs : DigitProofs S} (proves : statement.Proves R digits proofs)
    (opens : ∀ digit ∈ digits, statement.Opens digit) :
    statement.verifyDigits proofs = .ok () := by
  obtain ⟨commitments, memberships⟩ := proofs
  obtain ⟨rfl, made⟩ := proves
  rw [Statement.verifyDigits, forM_eq_ok]
  rintro ⟨commitment, proof⟩ membership
  rw [during_eq_ok]
  simp only at made membership
  induction made with
  | nil => cases membership
  | @cons digit given digits memberships first _ inductionHypothesis =>
      obtain ⟨opensFirst, opensRest⟩ := List.forall_mem_cons.mp opens
      rcases List.mem_cons.mp membership with same | rest
      · cases same
        exact MembershipProof.Statement.verify_prove opensFirst.commitment
          opensFirst.certified first
      · exact inductionHypothesis opensRest rest

theorem linearCombination_map_pair [LawfulG1 S] {α : Type} (g h : S.G1)
    (first second : α → S.Scalar) (items : List α) (factors : List S.Scalar) :
    linearCombination (items.map fun item =>
      linearCombination [g, h] [first item, second item])
        factors =
      linearCombination [g, h]
        [dotProduct (items.map first) factors,
          dotProduct (items.map second) factors] := by
  induction items generalizing factors with
  | nil => simp [dotProduct]
  | cons item items inductionHypothesis =>
      cases factors with
      | nil => simp [dotProduct]
      | cons factor factors =>
          have product (convert : α → S.Scalar) :
              dotProduct ((item :: items).map convert) (factor :: factors) =
                convert item * factor + dotProduct (items.map convert) factors := by
            simp [dotProduct]
          rw [List.map_cons, linearCombination_cons, inductionHypothesis, product,
            product]
          simp only [linearCombination_cons, linearCombination_nil, add_zero]
          module

/-- The weighted commitments to the digits of a value are a commitment to the
value. -/
theorem weigh_eq [LawfulG1 S] {statement : Statement S}
    (three : statement.generators.length = 3) {opening : Opening S}
    {digits : List (CommittedDigit S)}
    (checked : checkShape statement.parameters.base statement.parameters.exponent =
      .ok ())
    (decomposes : statement.Decomposes opening digits) :
    statement.weigh (digits.map CommittedDigit.commitment) =
      linearCombination statement.digitGenerators
        [wordScalar opening.value, statement.weighBlinding digits] := by
  obtain ⟨g, h, k, generators⟩ := List.length_eq_three.mp three
  have two : statement.digitGenerators = [g, h] := by
    rw [digitGenerators, generators]
    rfl
  have commitments : digits.map CommittedDigit.commitment = digits.map fun digit =>
      linearCombination [g, h] [digit.witness.value, digit.witness.commitmentBlinding] :=
    List.map_congr_left fun digit membership =>
      two ▸ (decomposes.opens digit membership).commitment
  have value := dotProduct_digitsOf (S := S)
    (Parameters.lt_of_le_maxValue checked decomposes.inRange)
  rw [weigh, List.length_map, commitments, linearCombination_map_pair, two,
    decomposes.values, decomposes.length_eq, value, weighBlinding, decomposes.length_eq]

theorem checkOpenings_eq_ok {statement : Statement S} {openings : List (Opening S)} :
    statement.checkOpenings openings = .ok () ↔
      openings.length = statement.tokens.length ∧ openings ≠ [] ∧
      statement.generators.length = 3 ∧
      checkShape statement.parameters.base statement.parameters.exponent = .ok () ∧
      ∀ opening ∈ openings,
        some opening.tokenType = openings.head?.map Opening.tokenType := by
  simp only [checkOpenings, bind_eq_ok, guard_eq_ok, ite_throw_eq_ok, pure_eq_ok, ne_eq,
    not_not, not_or, List.isEmpty_iff, List.any_eq_true, decide_eq_true_eq, not_exists,
    not_and, and_true]
  constructor
  · rintro ⟨⟨count, nonempty⟩, three, ⟨⟩, shape, typed⟩
    exact ⟨count, nonempty, three, shape, typed⟩
  · rintro ⟨count, nonempty, three, shape, typed⟩
    exact ⟨⟨count, nonempty⟩, three, (), shape, typed⟩

/-- Openings of one type that open the tokens pass the checks of a prover. -/
theorem checkOpenings_of_openAll {statement : Statement S} {openings : List (Opening S)}
    {tokenType : String} (nonempty : openings ≠ [])
    (shape : checkShape statement.parameters.base statement.parameters.exponent = .ok ())
    (opens : OpenAll statement.generators tokenType openings statement.tokens) :
    statement.checkOpenings openings = .ok () := by
  obtain ⟨first, others, rfl⟩ := List.exists_cons_of_ne_nil nonempty
  obtain ⟨token, -, opened⟩ := exists_of_forall₂ opens.opened List.mem_cons_self
  refine checkOpenings_eq_ok.mpr ⟨opens.length_eq, nonempty,
    (Opening.commit_eq_ok.mp opened).1, shape, fun opening membership => ?_⟩
  rw [List.head?_cons, Option.map_some, opens.typed opening membership,
    opens.typed first List.mem_cons_self]

theorem verify_eq_ok {statement : Statement S} {proof : RangeProof S} :
    statement.verify proof = .ok () ↔
      statement.generators.length = 3 ∧ proof.digits.length = statement.tokens.length ∧
      (∀ digits ∈ proof.digits,
        digits.commitments.length = statement.parameters.exponent.toNat ∧
        digits.memberships.length = statement.parameters.exponent.toNat ∧
        statement.verifyDigits digits = .ok ()) ∧
      ∃ first, statement.recompute proof = .ok first ∧
        statement.challenge first (proof.digits.map DigitProofs.commitments) =
          proof.challenge := by
  simp only [verify, bind_eq_ok, guard_eq_ok, ite_throw_eq_ok, pure_eq_ok, ne_eq, not_not,
    List.any_eq_true, Bool.or_eq_true, decide_eq_true_eq, not_exists, not_and, not_or,
    and_true]
  constructor
  · rintro ⟨three, count, lengths, ⟨⟩, verified, first⟩
    exact ⟨three, count, fun digits membership =>
      ⟨(lengths digits membership).1, (lengths digits membership).2,
        forM_eq_ok.mp verified digits membership⟩,
      first⟩
  · rintro ⟨three, count, all, first⟩
    exact ⟨three, count, fun digits membership =>
      ⟨(all digits membership).1, (all digits membership).2.1⟩, (),
      forM_eq_ok.mpr fun digits membership => (all digits membership).2.2, first⟩

/-- The responses for one token give back its first messages. -/
theorem recomputeToken_respond [LawfulG1 S] {statement : Statement S}
    (three : statement.generators.length = 3) {proof : RangeProof S}
    {tokenType typeBlinding value blinding valueBlinding tokenBlinding digitFactor
      digitBlinding : S.Scalar} {token : S.G1} {commitments : List S.G1}
    (response : proof.equality.tokenType = typeBlinding + proof.challenge * tokenType)
    (opened : token = linearCombination statement.generators [tokenType, value, blinding])
    (weighed : statement.weigh commitments =
      linearCombination statement.digitGenerators [value, digitFactor]) :
    statement.recomputeToken proof
        (token, commitments, valueBlinding + proof.challenge * value,
          tokenBlinding + proof.challenge * blinding,
          digitBlinding + proof.challenge * digitFactor) =
      .ok (linearCombination statement.generators
        [typeBlinding, valueBlinding, tokenBlinding],
        linearCombination statement.digitGenerators [valueBlinding, digitBlinding]) := by
  have two : statement.digitGenerators.length = 2 := by simp [digitGenerators, three]
  have tokenFirst := Schnorr.firstMessage_respond statement.generators proof.challenge
    (show [tokenType, value, blinding].length =
      [typeBlinding, valueBlinding, tokenBlinding].length from rfl)
  have digitFirst :=
    Schnorr.firstMessage_respond statement.digitGenerators proof.challenge
      (show [value, digitFactor].length = [valueBlinding, digitBlinding].length from rfl)
  rw [← opened] at tokenFirst
  rw [← weighed] at digitFirst
  simp only [recomputeToken, bind_eq_ok, pure_eq_ok, Schnorr.recompute_eq_ok, response]
  exact ⟨_, ⟨three.symm, tokenFirst⟩, _, ⟨two.symm, digitFirst⟩, rfl⟩

end Statement

theorem sampleEquality_gives {R : Type} [RandomSource S R] {count : Nat}
    {randomness : EqualityRandomness S}
    (gives : Sampling.Gives (R := R) (sampleEquality count) randomness) :
    randomness.values.length = count ∧ randomness.tokenBlinding.length = count ∧
      randomness.digitBlinding.length = count := by
  obtain ⟨tokenType, -, gives⟩ := gives.bind
  obtain ⟨values, valuesDrawn, gives⟩ := gives.bind
  obtain ⟨tokenBlinding, tokenDrawn, gives⟩ := gives.bind
  obtain ⟨digitBlinding, digitDrawn, gives⟩ := gives.bind
  cases gives.pure
  exact ⟨valuesDrawn.length_times, tokenDrawn.length_times, digitDrawn.length_times⟩

namespace Statement

/-- The responses for all tokens give back the first messages. -/
theorem recompute_respond [LawfulG1 S] {statement : Statement S}
    {openings : List (Opening S)} {tokenType : String}
    {digits : List (List (CommittedDigit S))}
    {randomness : EqualityRandomness S} {proof : RangeProof S} (nonempty : openings ≠ [])
    (three : statement.generators.length = 3)
    (shape : checkShape statement.parameters.base statement.parameters.exponent = .ok ())
    (opens : OpenAll statement.generators tokenType openings statement.tokens)
    (decomposes : List.Forall₂ statement.Decomposes openings digits)
    (valuesLength : randomness.values.length = openings.length)
    (tokenLength : randomness.tokenBlinding.length = openings.length)
    (digitLength : randomness.digitBlinding.length = openings.length)
    (equality : proof.equality =
      statement.equalityResponses openings digits randomness proof.challenge)
    (commitments : proof.digits.map DigitProofs.commitments =
      digits.map fun committed => committed.map CommittedDigit.commitment) :
    statement.recompute proof = .ok (statement.firstMessages randomness) := by
  have count := opens.length_eq
  have digitCount := decomposes.length_eq
  have response : proof.equality.tokenType =
      randomness.tokenType + proof.challenge * typeScalar tokenType := by
    obtain ⟨first, rest, rfl⟩ := List.exists_cons_of_ne_nil nonempty
    rw [equality, equalityResponses, ← opens.typed first List.mem_cons_self]
    rfl
  have firstTokens :
      (statement.firstMessages randomness).tokens.length = openings.length := by
    simp [firstMessages, valuesLength, tokenLength]
  have firstDigits :
      (statement.firstMessages randomness).digits.length = openings.length := by
    simp [firstMessages, valuesLength, digitLength]
  -- Five lists run in step here, so that they are compared at an index.
  have messages : List.Forall₂
      (fun item message => statement.recomputeToken proof item = .ok message)
      (statement.tokens.zip
        ((digits.map fun committed => committed.map CommittedDigit.commitment).zip
          (proof.equality.values.zip (proof.equality.tokenBlinding.zip
            proof.equality.digitBlinding))))
      ((statement.firstMessages randomness).tokens.zip
        (statement.firstMessages randomness).digits) := by
    refine List.forall₂_iff_get.mpr ⟨?_, fun index bound otherBound => ?_⟩
    · simp [equality, equalityResponses, valuesLength, tokenLength, digitLength,
        firstTokens, firstDigits, ← count, ← digitCount]
    · have inRange : index < openings.length := by
        rw [List.length_zip] at otherBound
        omega
      have opened := opens.opened.get inRange (count ▸ inRange)
      have decomposed := decomposes.get inRange (digitCount ▸ inRange)
      simp only [List.get_eq_getElem] at opened decomposed
      have typed := opens.typed _ (List.getElem_mem inRange)
      simp only [List.get_eq_getElem, List.getElem_zip, List.getElem_map, equality,
        equalityResponses, Schnorr.respond, firstMessages, List.getElem_zipWith]
      exact recomputeToken_respond three response
        (typed ▸ (Opening.commit_eq_ok.mp opened).2.symm)
        (weigh_eq three shape decomposed)
  have lengths : ¬ (proof.equality.values.length ≠ statement.tokens.length ∨
      proof.equality.tokenBlinding.length ≠ statement.tokens.length ∨
      proof.equality.digitBlinding.length ≠ statement.tokens.length) := by
    simp [equality, equalityResponses, valuesLength, tokenLength, digitLength, ← count,
      ← digitCount]
  rw [recompute, commitments]
  refine guard_eq_ok.mpr ⟨lengths, bind_eq_ok.mpr ⟨_, mapM_eq_ok.mpr messages, ?_⟩⟩
  rw [List.map_fst_zip (by omega), List.map_snd_zip (by omega)]
  rfl

/-- Proofs for values in range are accepted, if every digit is signed. -/
theorem verify_prove [BilinearPairing S] {R : Type} [RandomSource S R]
    {statement : Statement S} {openings : List (Opening S)} {tokenType : String}
    {proof : RangeProof S} (certified : statement.parameters.Certified)
    (opens : OpenAll statement.generators tokenType openings statement.tokens)
    (gives : Sampling.Gives (R := R) (statement.prove openings) proof) :
    statement.verify proof = .ok () := by
  obtain ⟨⟨⟩, checked, gives⟩ := gives.bind
  obtain ⟨digits, decomposed, gives⟩ := gives.bind
  obtain ⟨digitProofs, proved, gives⟩ := gives.bind
  obtain ⟨randomness, drawn, gives⟩ := gives.bind
  cases gives.pure
  obtain ⟨-, nonempty, three, shape, -⟩ := checkOpenings_eq_ok.mp checked.lift
  obtain ⟨valuesLength, tokenLength, digitLength⟩ := sampleEquality_gives drawn
  have decomposes : List.Forall₂ statement.Decomposes openings digits :=
    decomposed.mapM.imp fun _ _ given => decompose_gives certified given
  have counted := Decomposes.forall_length_eq decomposes
  obtain ⟨power, shaped⟩ := checkShape_eq_ok.mp shape
  have made := proveMembership_gives shaped.positive counted proved
  refine verify_eq_ok.mpr ⟨three, ?_, ?_, statement.firstMessages randomness,
    recompute_respond nonempty three shape opens decomposes valuesLength tokenLength
      digitLength
      rfl (Proves.map_commitments made), congrArg _ (Proves.map_commitments made)⟩
  · rw [← made.length_eq, ← decomposes.length_eq, opens.length_eq]
  · intro proofs membership
    obtain ⟨committed, among, proves⟩ := exists_of_forall₂ made.flip membership
    obtain ⟨opening, -, decomposition⟩ := exists_of_forall₂ decomposes.flip among
    refine ⟨?_, ?_, proves.verifyDigits decomposition.opens⟩
    · rw [proves.commitments, List.length_map, counted committed among]
    · rw [← proves.memberships.length_eq, counted committed among]

end Statement

end ConfidentialToken.DigitRange
