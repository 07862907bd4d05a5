import ConfidentialToken.Proofs.Bn254.Exponents
import ConfidentialToken.Proofs.Bulletproof.InnerProduct

/-!
Folding all at once is folding round by round.

A prover halves its vectors and generators in each round, and a commitment to
them goes along with the points of the round. A verifier never halves anything:
it multiplies each generator once, with challenges and inverses that the bits of
the index choose. Both come to the same generator on each side, and so the
equation of the verifier is the one between what a prover ends with and the
inner product that is claimed.
-/

namespace ConfidentialToken.Bulletproof.InnerProduct

variable {S : Suite}

/-- The scalars that are multiplied with the generator at an index: of each pair
the first one if the bit of the round is set. -/
def chosenFactors (pairs : List (S.Scalar × S.Scalar)) (index : Nat) : List S.Scalar :=
  pairs.mapIdx fun round (challenge, inverse) =>
    if index.testBit (pairs.length - 1 - round) then challenge else inverse

theorem chosenFactors_cons (pair : S.Scalar × S.Scalar)
    (pairs : List (S.Scalar × S.Scalar)) (index : Nat) :
    chosenFactors (pair :: pairs) index =
      (if index.testBit pairs.length then pair.1 else pair.2) ::
        chosenFactors pairs index := by
  simp only [chosenFactors, List.mapIdx_cons, List.length_cons, Nat.add_sub_cancel,
    Nat.sub_zero]
  congr 3
  funext round pair
  rw [show pairs.length - (round + 1) = pairs.length - 1 - round by omega]

theorem chosenFactors_add_two_pow (pairs : List (S.Scalar × S.Scalar)) {count : Nat}
    (few : pairs.length ≤ count) (index : Nat) :
    chosenFactors pairs (2 ^ count + index) = chosenFactors pairs index := by
  induction pairs with
  | nil => rfl
  | cons pair pairs inductionHypothesis =>
      rw [List.length_cons] at few
      rw [chosenFactors_cons, chosenFactors_cons, inductionHypothesis (by omega),
        Nat.testBit_two_pow_add_gt (by omega)]

/-- The factor of a generator in the folded one is the product of what its index
chooses. -/
theorem getElem_foldingFactors (pairs : List (S.Scalar × S.Scalar)) {index : Nat}
    (bound : index < (foldingFactors pairs).length) :
    (foldingFactors pairs)[index] = (chosenFactors pairs index).foldr (· * ·) 1 := by
  induction pairs generalizing index with
  | nil => simp [foldingFactors, chosenFactors]
  | cons pair pairs inductionHypothesis =>
      obtain ⟨challenge, inverse⟩ := pair
      have length := length_foldingFactors pairs
      rw [chosenFactors_cons, List.foldr_cons]
      simp only [foldingFactors, List.getElem_append, List.length_map, length,
        List.getElem_map]
      split
      · next low =>
          rw [Nat.testBit_lt_two_pow low, inductionHypothesis]
          rfl
      · next high =>
          obtain ⟨rest, rfl⟩ := Nat.exists_eq_add_of_le (Nat.le_of_not_lt high)
          simp only [foldingFactors, List.length_append, List.length_map, length] at bound
          rw [chosenFactors_add_two_pow pairs (le_refl _), Nat.testBit_two_pow_add_eq,
            Nat.testBit_lt_two_pow (by omega)]
          simp [inductionHypothesis]

/-- The sum of the generators of a side, each multiplied with what the bits of
its index choose. -/
def foldedByBits (generators : List S.G1) (factors otherFactors : List S.Scalar) : S.G1 :=
  linearCombination generators ((List.range generators.length).map fun index =>
    (chosenFactors (factors.zip otherFactors) index).foldr (· * ·) 1)

theorem folded_eq_foldedByBits {generators : List S.G1}
    {factors otherFactors : List S.Scalar} (same : factors.length = otherFactors.length)
    (length : generators.length = 2 ^ factors.length) :
    folded generators factors otherFactors =
      foldedByBits generators factors otherFactors := by
  have count :
      (foldingFactors (factors.zip otherFactors)).length = generators.length := by
    rw [length_foldingFactors, List.length_zip, ← same, Nat.min_self, length]
  unfold folded foldedByBits
  congr 1
  apply List.ext_getElem
  · simp [count]
  · intro index bound otherBound
    rw [getElem_foldingFactors, List.getElem_map, List.getElem_range]

/-- What a prover has between two rounds. -/
structure Progress (S : Suite) where
  vectors : Vectors S
  /-- The commitment with the points of the rounds that are over. -/
  commitment : S.G1
  l : List S.G1
  r : List S.G1

namespace Progress

/-- One round of a prover who carries the commitment along. -/
def advance (base : S.G1) (progress : Progress S) : Result (Progress S) := do
  let l := progress.vectors.leftCross base
  let r := progress.vectors.rightCross base
  let challenge := roundChallenge l r
  let inverse ← invert challenge
  let squareInverse ← invert (challenge * challenge)
  return {
    vectors := progress.vectors.halve challenge inverse
    commitment := progress.commitment + ((challenge * challenge) • l + squareInverse • r)
    l := progress.l ++ [l]
    r := progress.r ++ [r] }

def run (base : S.G1) : (rounds : Nat) → Progress S → Result (Progress S)
  | 0, progress => .ok progress
  | rounds + 1, progress => do
      let next ← progress.advance base
      next.run base rounds

/-- The proof of a prover for whom all rounds are over. -/
def proof (progress : Progress S) : Proof S where
  left := progress.vectors.left.headD 0
  right := progress.vectors.right.headD 0
  l := progress.l
  r := progress.r

end Progress

/-- What a prover has before the first round. -/
def Statement.start (statement : Statement S) (left right : List S.Scalar) :
    Progress S where
  vectors := {
    leftGenerators := statement.leftGenerators
    rightGenerators := statement.rightGenerators
    left := left
    right := right }
  commitment :=
    statement.commitment + (statement.initialChallenge * statement.innerProduct) •
      statement.q
  l := []
  r := []

/-- A proof of later rounds, with the points of earlier ones before its own. -/
def Proof.after (proof : Proof S) (l r : List S.G1) : Proof S :=
  { proof with l := l ++ proof.l, r := r ++ proof.r }

namespace Progress

/-- The challenge of the round that comes next. -/
def challenge (base : S.G1) (progress : Progress S) : S.Scalar :=
  roundChallenge (progress.vectors.leftCross base) (progress.vectors.rightCross base)

/-- What the prover has after that round. -/
def next (base : S.G1) (progress : Progress S) : Progress S :=
  let challenge := progress.challenge base
  { vectors := progress.vectors.halve challenge challenge⁻¹
    commitment := progress.commitment +
      ((challenge * challenge) • progress.vectors.leftCross base +
        (challenge * challenge)⁻¹ • progress.vectors.rightCross base)
    l := progress.l ++ [progress.vectors.leftCross base]
    r := progress.r ++ [progress.vectors.rightCross base] }

theorem advance_of_zero {base : S.G1} {progress : Progress S}
    (zero : progress.challenge base = 0) :
    progress.advance base = .error (.invalidInput "cannot invert zero") := by
  unfold challenge at zero
  simp [advance, invert, zero, bind, Except.bind]

variable [LawfulG1 S]

theorem advance_of_ne_zero {base : S.G1} {progress : Progress S}
    (nonzero : progress.challenge base ≠ 0) :
    progress.advance base = .ok (progress.next base) := by
  unfold challenge at nonzero
  simp [advance, next, challenge, invert, nonzero, bind, Except.bind, pure, Except.pure]

theorem advance_eq_ok {base : S.G1} {progress result : Progress S} :
    progress.advance base = .ok result ↔
      progress.challenge base ≠ 0 ∧ progress.next base = result := by
  by_cases zero : progress.challenge base = 0
  · simp [advance_of_zero zero, zero]
  · simp [advance_of_ne_zero zero, zero]

/-- The commitment that is carried along decides nothing: the proof, or the
failure, is that of a prover without it. -/
theorem run_map_proof (base : S.G1) {rounds : Nat} {progress : Progress S}
    (sized : progress.vectors.Sized (2 ^ rounds)) :
    (progress.run base rounds).map proof =
      (proveRounds base rounds progress.vectors).map (·.after progress.l progress.r) := by
  induction rounds generalizing progress with
  | zero =>
      obtain ⟨a, left⟩ := List.length_eq_one_iff.mp sized.left
      obtain ⟨b, right⟩ := List.length_eq_one_iff.mp sized.right
      simp [run, proveRounds, proof, Proof.after, Except.map, left, right]
  | succ rounds inductionHypothesis =>
      rw [Nat.pow_succ, Nat.mul_comm] at sized
      unfold run proveRounds
      by_cases zero : progress.challenge base = 0
      · rw [advance_of_zero zero]
        unfold challenge at zero
        simp [invert, zero, bind, Except.bind, Except.map]
      · have halved : ((progress.next base).run base rounds).map proof = _ :=
          inductionHypothesis (sized.halve _ _)
        rw [advance_of_ne_zero zero]
        unfold challenge at zero
        simp only [next, challenge] at halved
        simp only [next, challenge, invert, zero, if_false, bind, Except.bind, halved]
        cases proveRounds base rounds (progress.vectors.halve _ _) with
        | error failure => rfl
        | ok rest => simp [Except.map, pure, Except.pure, Proof.after]

theorem exists_run {base : S.G1} {rounds : Nat} {progress : Progress S} {made : Proof S}
    (sized : progress.vectors.Sized (2 ^ rounds))
    (proved : proveRounds base rounds progress.vectors = .ok made) :
    ∃ final, progress.run base rounds = .ok final ∧
      final.proof = made.after progress.l progress.r := by
  have same := run_map_proof base sized
  rw [proved] at same
  exact map_eq_ok.mp same

/-- The commitment that is carried along is the one to the vectors and to their
inner product. -/
def Faithful (base : S.G1) (progress : Progress S) : Prop :=
  progress.commitment = progress.vectors.commitment base

theorem Faithful.next {base : S.G1} {progress : Progress S} {half : Nat}
    (faithful : progress.Faithful base) (sized : progress.vectors.Sized (2 * half))
    (nonzero : progress.challenge base ≠ 0) : (progress.next base).Faithful base := by
  unfold Faithful at faithful ⊢
  rw [Progress.next, sized.commitment_halve base (mul_inv_cancel₀ nonzero), ← faithful,
    mul_inv, add_assoc]

theorem run_succ_eq_ok {base : S.G1} {rounds : Nat} {progress final : Progress S} :
    progress.run base (rounds + 1) = .ok final ↔
      progress.challenge base ≠ 0 ∧ (progress.next base).run base rounds = .ok final := by
  simp only [run, bind_eq_ok, advance_eq_ok]
  constructor
  · rintro ⟨_, ⟨nonzero, rfl⟩, ran⟩
    exact ⟨nonzero, ran⟩
  · rintro ⟨nonzero, ran⟩
    exact ⟨_, ⟨nonzero, rfl⟩, ran⟩

theorem sized_run {base : S.G1} {rounds : Nat} {progress final : Progress S}
    (sized : progress.vectors.Sized (2 ^ rounds))
    (ran : progress.run base rounds = .ok final) : final.vectors.Sized 1 := by
  induction rounds generalizing progress with
  | zero =>
      cases ran
      exact sized
  | succ rounds inductionHypothesis =>
      rw [Nat.pow_succ, Nat.mul_comm] at sized
      exact inductionHypothesis (sized.halve _ _) (run_succ_eq_ok.mp ran).2

theorem Faithful.run {base : S.G1} {rounds : Nat} {progress final : Progress S}
    (faithful : progress.Faithful base) (sized : progress.vectors.Sized (2 ^ rounds))
    (ran : progress.run base rounds = .ok final) : final.Faithful base := by
  induction rounds generalizing progress with
  | zero =>
      cases ran
      exact faithful
  | succ rounds inductionHypothesis =>
      rw [Nat.pow_succ, Nat.mul_comm] at sized
      obtain ⟨nonzero, ran⟩ := run_succ_eq_ok.mp ran
      exact inductionHypothesis (faithful.next sized nonzero) (sized.halve _ _) ran

/-- On each side one generator is left, the one that a verifier folds with the
challenges of the proof. -/
theorem generators_run {base : S.G1} {rounds : Nat} {progress final : Progress S}
    {made : Proof S} (sized : progress.vectors.Sized (2 ^ rounds))
    (ran : progress.run base rounds = .ok final)
    (proved : proveRounds base rounds progress.vectors = .ok made) :
    let inverses := made.challenges.map (·⁻¹)
    final.vectors.leftGenerators =
        [folded progress.vectors.leftGenerators made.challenges inverses] ∧
      final.vectors.rightGenerators =
        [folded progress.vectors.rightGenerators inverses made.challenges] := by
  induction rounds generalizing progress made with
  | zero =>
      obtain ⟨leftGenerator, leftEq⟩ := List.length_eq_one_iff.mp sized.leftGenerators
      obtain ⟨rightGenerator, rightEq⟩ := List.length_eq_one_iff.mp sized.rightGenerators
      cases ran
      have none : made.challenges = [] :=
        List.eq_nil_of_length_eq_zero (proveRounds_eq_ok sized proved).1.length_challenges
      simp [none, folded, foldingFactors, leftEq, rightEq]
  | succ rounds inductionHypothesis =>
      obtain ⟨-, ran⟩ := run_succ_eq_ok.mp ran
      obtain ⟨inverse, inverted, rest, restProved, form⟩ := by
        simpa only [proveRounds, bind_eq_ok] using proved
      obtain ⟨nonzero, rfl⟩ := invert_eq_ok.mp inverted
      cases pure_eq_ok.mp form
      have leftLength := sized.leftGenerators
      have rightLength := sized.rightGenerators
      rw [Nat.pow_succ, Nat.mul_comm] at sized
      have halved := sized.halve (progress.challenge base) (progress.challenge base)⁻¹
      obtain ⟨left, right⟩ := inductionHypothesis halved ran restProved
      obtain ⟨fits, -⟩ := proveRounds_eq_ok halved restProved
      have count := fits.length_challenges
      have inverseCount : (rest.challenges.map (·⁻¹)).length = rounds := by
        rw [List.length_map, count]
      rw [left, right]
      simp only [Proof.challenges, List.zipWith_cons_cons, List.map_cons]
        at count inverseCount ⊢
      rw [folded_cons _ _ leftLength count inverseCount,
        folded_cons _ _ rightLength inverseCount count]
      exact ⟨rfl, rfl⟩

end Progress

variable [LawfulG1 S]

theorem Vectors.Sized.commitment_one {vectors : Vectors S} (sized : vectors.Sized 1)
    {g h : S.G1} (leftGenerators : vectors.leftGenerators = [g])
    (rightGenerators : vectors.rightGenerators = [h]) (base : S.G1) :
    vectors.commitment base =
      vectors.left.headD 0 • g + vectors.right.headD 0 • h +
        (vectors.left.headD 0 * vectors.right.headD 0) • base := by
  obtain ⟨a, left⟩ := List.length_eq_one_iff.mp sized.left
  obtain ⟨b, right⟩ := List.length_eq_one_iff.mp sized.right
  simp [commitment, leftGenerators, rightGenerators, left, right, dotProduct]

/-- The proof for given vectors is accepted exactly if the inner product that is
claimed and the one that the vectors have are the same multiple of the base. -/
theorem verify_iff_of_prove {statement : Statement S} {left right : List S.Scalar}
    {proof : Proof S}
    (committed : statement.commitment = linearCombination statement.leftGenerators left +
      linearCombination statement.rightGenerators right)
    (proved : prove statement left right = .ok proof) :
    verify statement proof = .ok () ↔
      (statement.initialChallenge * statement.innerProduct) • statement.q =
        (statement.initialChallenge * dotProduct left right) • statement.q := by
  obtain ⟨sized, leftLength, rightLength, rounds⟩ := prove_eq_ok.mp proved
  obtain ⟨fits, opened⟩ :=
    proveRounds_eq_ok ⟨sized.left, sized.right, leftLength.trans sized.left,
    rightLength.trans sized.left⟩ rounds
  have product : dotProduct left right • statement.initialChallenge • statement.q =
      (statement.initialChallenge * dotProduct left right) • statement.q := by
    rw [smul_smul, mul_comm]
  rw [Statement.verify_eq_ok, opened, Vectors.commitment, ← committed, product]
  constructor
  · rintro ⟨-, -, equation⟩
    unfold Proof.extend at equation
    exact (add_left_cancel (add_right_cancel (add_right_cancel equation))).symm
  · intro same
    exact ⟨fits, sized.matched, by rw [same]⟩

/-- The prover ends with the generators that the verifier folds at once, by the
bits of their indices. If the claimed inner product is the one of the vectors,
the commitment that goes along with the rounds ends as the left side of the
verifier's equation, and the proof is accepted; it is accepted only then, unless
the base for inner products vanishes. -/
theorem halving_eq_folding {statement : Statement S} {left right : List S.Scalar}
    {proof : Proof S}
    (committed : statement.commitment = linearCombination statement.leftGenerators left +
      linearCombination statement.rightGenerators right)
    (proved : prove statement left right = .ok proof) :
    let base := statement.initialChallenge • statement.q
    let inverses := proof.challenges.map (·⁻¹)
    let foldedLeft := folded statement.leftGenerators proof.challenges inverses
    let foldedRight := folded statement.rightGenerators inverses proof.challenges
    (∃ final, (statement.start left right).run base statement.rounds.toNat = .ok final ∧
      final.proof = proof ∧ final.vectors.leftGenerators = [foldedLeft] ∧
      final.vectors.rightGenerators = [foldedRight] ∧
      (statement.innerProduct = dotProduct left right →
        final.commitment = proof.left • foldedLeft + proof.right • foldedRight +
          (proof.left * proof.right) • base)) ∧
    foldedLeft = foldedByBits statement.leftGenerators proof.challenges inverses ∧
    foldedRight = foldedByBits statement.rightGenerators inverses proof.challenges ∧
    (statement.innerProduct = dotProduct left right → verify statement proof = .ok ()) ∧
    (statement.q ≠ 0 → statement.initialChallenge ≠ 0 → verify statement proof = .ok () →
      statement.innerProduct = dotProduct left right) := by
  intro base inverses foldedLeft foldedRight
  obtain ⟨sized, leftLength, rightLength, rounds⟩ := prove_eq_ok.mp proved
  have start : (statement.start left right).vectors.Sized (2 ^ statement.rounds.toNat) :=
    ⟨sized.left, sized.right, leftLength.trans sized.left, rightLength.trans sized.left⟩
  obtain ⟨fits, -⟩ := proveRounds_eq_ok start rounds
  have count := fits.length_challenges
  have same : proof.challenges.length = inverses.length := (List.length_map _).symm
  have accepted := verify_iff_of_prove committed proved
  refine ⟨?_, ?_, ?_, ?_, ?_⟩
  · have started :
      proveRounds base statement.rounds.toNat (statement.start left right).vectors =
        .ok proof := rounds
    obtain ⟨final, ran, made⟩ := Progress.exists_run start started
    obtain ⟨leftFolded, rightFolded⟩ := Progress.generators_run start ran rounds
    refine ⟨final, ran, made, leftFolded, rightFolded, fun product => ?_⟩
    have faithful : (statement.start left right).Faithful base := by
      unfold Progress.Faithful
      simp only [Statement.start, Vectors.commitment, committed, product, base]
      module
    have ends : final.commitment = final.vectors.commitment base := faithful.run start ran
    have leftEnd : final.vectors.left.headD 0 = proof.left := congrArg Proof.left made
    have rightEnd : final.vectors.right.headD 0 = proof.right := congrArg Proof.right made
    rw [ends, (Progress.sized_run start ran).commitment_one leftFolded rightFolded,
      leftEnd, rightEnd]
    rfl
  · exact folded_eq_foldedByBits same (by rw [count, sized.left])
  · exact folded_eq_foldedByBits same.symm (by rw [← same, count, sized.right])
  · intro product
    rw [accepted, product]
  · intro base challenge verified
    have scaled := smul_left_injective S.Scalar base (accepted.mp verified)
    exact mul_left_cancel₀ challenge scaled

namespace Sample

open Bn254

/-- The suite of exponents with a hash that adds up the bytes of a message. -/
abbrev suite : Suite :=
  { exponentSuite with hashToScalar := fun message =>
      ScalarOperations.ofNat (message.foldl (fun total byte => total + byte.toNat) 1) }

instance : LawfulG1 suite :=
  inferInstanceAs (LawfulG1 exponentSuite)

/-- A claim about the inner product of the vectors `1, 2, 3, 4` and `5, 6, 7,
8`. -/
def statement (innerProduct : Fr) : Statement suite where
  innerProduct := innerProduct
  q := (23 : Fr)
  leftGenerators := ([2, 3, 5, 7] : List Fr)
  rightGenerators := ([11, 13, 17, 19] : List Fr)
  commitment := (455 : Fr)
  rounds := 2

theorem committed (innerProduct : Fr) : (statement innerProduct).commitment =
    linearCombination (statement innerProduct).leftGenerators [(1 : Fr), 2, 3, 4] +
      linearCombination (statement innerProduct).rightGenerators [(5 : Fr), 6, 7, 8] := by
  have sum :
    (455 : Fr) = linearCombination (statement 0).leftGenerators [(1 : Fr), 2, 3, 4] +
      linearCombination (statement 0).rightGenerators [(5 : Fr), 6, 7, 8] := by
    decide +kernel
  exact sum

theorem halving_sample :
    ∃ proof other, prove (statement 70) [1, 2, 3, 4] [5, 6, 7, 8] = .ok proof ∧
      verify (statement 70) proof = .ok () ∧
      prove (statement 71) [1, 2, 3, 4] [5, 6, 7, 8] = .ok other ∧
      verify (statement 71) other ≠ .ok () := by
  have right :
      (prove (statement 70) [1, 2, 3, 4] [5, 6, 7, 8]).toOption.isSome = true := by
    decide +kernel
  have wrong :
      (prove (statement 71) [1, 2, 3, 4] [5, 6, 7, 8]).toOption.isSome = true := by
    decide +kernel
  obtain ⟨-, -, -, accepted, -⟩ := halving_eq_folding (committed 70) (eq_ok_get right)
  obtain ⟨-, -, -, -, only⟩ := halving_eq_folding (committed 71) (eq_ok_get wrong)
  refine ⟨_, _, eq_ok_get right, accepted (by decide +kernel), eq_ok_get wrong,
    fun verified => ?_⟩
  have base : (statement 71).q ≠ (0 : Fr) := by decide +kernel
  have challenge : (statement 71).initialChallenge ≠ (0 : Fr) := by decide +kernel
  have product :
      (statement 71).innerProduct ≠ dotProduct [(1 : Fr), 2, 3, 4] [5, 6, 7, 8] := by
    decide +kernel
  exact product (only base challenge verified)

end Sample

end ConfidentialToken.Bulletproof.InnerProduct
