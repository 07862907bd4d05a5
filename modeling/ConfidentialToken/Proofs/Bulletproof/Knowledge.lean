import ConfidentialToken.Proofs.Bulletproof.Extraction

/-!
What the equation of inner product arguments guarantees.

The challenges branch: for the points of each round there are four challenges
with different squares, and after the last round two scalars which pass the
final check of a verifier with the challenges on their path. From the last round
back to the first, the openings of the four halved commitments are interpolated
to one of the commitment before the round, and the fourth of them shows whether
they fit together. Where they do in all rounds, the first commitment opens to
two vectors and to their inner product. Where they do not, a relation between
the generators and the base for inner products is known.
-/

namespace ConfidentialToken.Bulletproof.InnerProduct

open Interpolation

variable {S : Suite}

/-- What an argument is about: the generators, the base for inner products, and
the point that commits to two vectors and to their inner product. -/
structure Target (S : Suite) where
  leftGenerators : List S.G1
  rightGenerators : List S.G1
  base : S.G1
  point : S.G1

structure Target.Sized (target : Target S) (count : Nat) : Prop where
  left : target.leftGenerators.length = count
  right : target.rightGenerators.length = count

/-- The points of a round with a challenge for them. -/
structure Round (S : Suite) where
  l : S.G1
  r : S.G1
  challenge : S.Scalar

/-- The final check of a verifier, for two scalars at the end of some rounds. -/
def Target.Checks (target : Target S) (path : List (Round S)) (left right : S.Scalar) :
    Prop :=
  let challenges := path.map Round.challenge
  let inverses := challenges.map (·⁻¹)
  left • folded target.leftGenerators challenges inverses +
      right • folded target.rightGenerators inverses challenges +
      (left * right) • target.base =
    target.point + linearCombination (path.map Round.l) (challenges.map fun x => x * x) +
      linearCombination (path.map Round.r) (inverses.map fun x => x * x)

/-- What is proved of a statement. -/
def Statement.target (statement : Statement S) : Target S where
  leftGenerators := statement.leftGenerators
  rightGenerators := statement.rightGenerators
  base := statement.initialChallenge • statement.q
  point := statement.commitment +
    (statement.initialChallenge * statement.innerProduct) • statement.q

/-- The rounds of a proof with the challenges that a verifier derives. -/
def Proof.path (proof : Proof S) : List (Round S) :=
  List.zipWith (fun l r => ⟨l, r, roundChallenge l r⟩) proof.l proof.r

/-- Answers to challenges that branch in each round. -/
inductive Tree (S : Suite) : Nat → Type
  | leaf (left right : S.Scalar) : Tree S 0
  | node {rounds : Nat} (l r : S.G1) (challenges : Fin 4 → S.Scalar)
      (children : Fin 4 → Tree S rounds) : Tree S (rounds + 1)

def squares (challenges : Fin 4 → S.Scalar) (which : Fin 4) : S.Scalar :=
  challenges which * challenges which

/-- All leaves pass the final check with the rounds on their paths, the given
ones first. The challenges do not vanish, and those for the same points have
different squares. -/
def Tree.Accepted (target : Target S) :
    {rounds : Nat} → List (Round S) → Tree S rounds → Prop
  | _, path, .leaf left right => target.Checks path left right
  | _, path, .node l r challenges children =>
      (∀ which, challenges which ≠ 0) ∧ Function.Injective (squares challenges) ∧
        ∀ which, (children which).Accepted target (path ++ [⟨l, r, challenges which⟩])

/-- The number of generators for a number of rounds. -/
def width : (rounds : Nat) → Nat
  | 0 => 1
  | rounds + 1 => width rounds + width rounds

theorem width_eq (rounds : Nat) : width rounds = 2 ^ rounds := by
  induction rounds with
  | zero => rfl
  | succ rounds inductionHypothesis =>
      rw [width, inductionHypothesis, Nat.pow_succ, Nat.mul_two]

/-- The target of the rounds that follow a round. -/
def Target.halve (target : Target S) (round : Round S) : Target S where
  leftGenerators := fold target.leftGenerators round.challenge⁻¹ round.challenge
  rightGenerators := fold target.rightGenerators round.challenge round.challenge⁻¹
  base := target.base
  point := target.point + (round.challenge * round.challenge) • round.l +
    (round.challenge⁻¹ * round.challenge⁻¹) • round.r

theorem Target.Sized.halve {target : Target S} {half : Nat}
    (sized : target.Sized (half + half)) (round : Round S) :
    (target.halve round).Sized half where
  left := length_fold (sized.left.trans (Nat.two_mul half).symm) _ _
  right := length_fold (sized.right.trans (Nat.two_mul half).symm) _ _

variable [LawfulG1 S]

omit [LawfulG1 S] in
theorem Proof.map_path (proof : Proof S) (same : proof.l.length = proof.r.length) :
    proof.path.map Round.l = proof.l ∧ proof.path.map Round.r = proof.r ∧
      proof.path.map Round.challenge = proof.challenges := by
  refine ⟨?_, ?_, ?_⟩
  · apply List.ext_getElem <;> simp [path, same]
  · apply List.ext_getElem <;> simp [path, same]
  · apply List.ext_getElem <;> simp [path, challenges]

omit [LawfulG1 S] in
/-- A proof of the right size without a vanishing challenge is accepted exactly
if its scalars pass the final check after the rounds of the proof. -/
theorem verify_eq_ok_iff_checks {statement : Statement S} {proof : Proof S} :
    verify statement proof = .ok () ↔
      proof.Fits statement.rounds.toNat ∧ statement.Matched ∧
        statement.target.Checks proof.path proof.left proof.right := by
  rw [Statement.verify_eq_ok]
  apply and_congr_right
  intro fits
  apply and_congr_right
  intro _
  obtain ⟨l, r, challenges⟩ := proof.map_path (fits.l.trans fits.r.symm)
  unfold Target.Checks
  rw [l, r, challenges]
  rfl

namespace Target

theorem checks_cons {target : Target S} {round : Round S} {path : List (Round S)}
    {left right : S.Scalar} (sized : target.Sized (2 ^ (path.length + 1))) :
    target.Checks (round :: path) left right ↔
      (target.halve round).Checks path left right := by
  have count : (path.map Round.challenge).length = path.length := List.length_map _
  have inverseCount : ((path.map Round.challenge).map (·⁻¹)).length = path.length := by
    rw [List.length_map, count]
  simp only [Checks, halve, List.map_cons, linearCombination_cons]
  rw [folded_cons _ _ sized.left count inverseCount,
    folded_cons _ _ sized.right inverseCount count]
  have points (a b c d e : S.G1) : a + (b + c) + (d + e) = a + b + d + c + e := by abel
  rw [points]

end Target

namespace Tree

/-- The check of all leaves, read as one halving for each round. -/
theorem accepted_cons {target : Target S} {round : Round S} {rounds : Nat}
    (tree : Tree S rounds) (path : List (Round S))
    (sized : target.Sized (2 ^ (path.length + rounds + 1))) :
    tree.Accepted target (round :: path) ↔ tree.Accepted (target.halve round) path := by
  induction tree generalizing path with
  | leaf left right => exact Target.checks_cons sized
  | node l r challenges children inductionHypothesis =>
      apply and_congr_right
      intro _
      apply and_congr_right
      intro _
      apply forall_congr'
      intro which
      rw [List.cons_append]
      apply inductionHypothesis which
      rw [List.length_append, List.length_singleton, Nat.add_assoc path.length,
        Nat.add_comm 1]
      exact sized

theorem Accepted.child {target : Target S} {rounds : Nat} {l r : S.G1}
    {challenges : Fin 4 → S.Scalar} {children : Fin 4 → Tree S rounds}
    (accepted : (node l r challenges children).Accepted target [])
    (sized : target.Sized (width (rounds + 1))) (which : Fin 4) :
    (children which).Accepted (target.halve ⟨l, r, challenges which⟩) [] := by
  rw [width_eq] at sized
  apply (accepted_cons (children which) [] (by simpa using sized)).mp
  exact accepted.2.2 which

end Tree

/-- The factors of the generators before a round that amount to given ones of
the generators that are left after it. -/
def spread {half : Nat} (challenge : S.Scalar) (exponents : Exponents S half) :
    Exponents S (half + half) :=
  (Fin.append (challenge⁻¹ • exponents.1) (challenge • exponents.1),
    Fin.append (challenge • exponents.2.1) (challenge⁻¹ • exponents.2.1), exponents.2.2)

theorem eq_zero_of_spread {half : Nat} {challenge : S.Scalar}
    {exponents : Exponents S half} (nonzero : challenge ≠ 0)
    (vanishes : spread challenge exponents = 0) : exponents = 0 := by
  have left (index : Fin half) : exponents.1 index = 0 := by
    have entry := congrFun (congrArg Prod.fst vanishes) (Fin.castAdd half index)
    simpa [spread, nonzero] using entry
  have right (index : Fin half) : exponents.2.1 index = 0 := by
    have entry :=
      congrFun (congrArg (fun pair => pair.2.1) vanishes) (Fin.castAdd half index)
    simpa [spread, nonzero] using entry
  have product : exponents.2.2 = 0 := congrArg (fun pair => pair.2.2) vanishes
  exact Prod.ext (funext left) (Prod.ext (funext right) product)

/-- The commitment with given factors of the generators and of the base for
inner products. -/
def Target.commit {count : Nat} (target : Target S) (exponents : Exponents S count) :
    S.G1 :=
  linearCombination target.leftGenerators (List.ofFn exponents.1) +
    linearCombination target.rightGenerators (List.ofFn exponents.2.1) +
    exponents.2.2 • target.base

theorem linearCombination_spread {half : Nat} {generators : List S.G1}
    (length : generators.length = half + half) (first second : S.Scalar)
    (factors : Fin half → S.Scalar) :
    linearCombination generators
        (List.ofFn (Fin.append (first • factors) (second • factors))) =
      linearCombination (fold generators first second) (List.ofFn factors) := by
  obtain ⟨lower, upper, rfl⟩ := exists_halves (length.trans (Nat.two_mul half).symm)
  have middle : (half + half) / 2 = half := by omega
  rw [List.ofFn_fin_append, linearCombination_append _ _ (by simp), fold]
  simp only [List.length_append, List.length_ofFn, middle, List.take_left',
    List.drop_left', zipWith_ofFn, linearCombination_ofFn, ← Finset.sum_add_distrib]
  apply Finset.sum_congr rfl
  intro index _
  simp only [Pi.smul_apply, smul_eq_mul]
  module

namespace Target

theorem commit_spread {target : Target S} {half : Nat}
    (sized : target.Sized (half + half)) (round : Round S)
    (exponents : Exponents S half) :
    target.commit (spread round.challenge exponents) =
      (target.halve round).commit exponents := by
  simp only [commit, spread, halve, linearCombination_spread sized.left,
    linearCombination_spread sized.right]

theorem commit_sum {target : Target S} {count : Nat} (sized : target.Sized count)
    (weights : Fin 4 → S.Scalar) (exponents : Fin 4 → Exponents S count) :
    target.commit (∑ which, weights which • exponents which) =
      ∑ which, weights which • target.commit (exponents which) := by
  have linear : IsLinearMap S.Scalar fun exponents : Exponents S count =>
      target.commit exponents :=
    isLinearMap_linearCombinations sized.left sized.right target.base
  simp only [Fin.sum_univ_four, linear.map_add, linear.map_smul]

end Target

/-- The factors before a round that four openings after it amount to, with a
weight for each. -/
def combine {half : Nat} (weights challenges : Fin 4 → S.Scalar)
    (openings : Fin 4 → Exponents S half) : Exponents S (half + half) :=
  ∑ which, weights which • spread (challenges which) (openings which)

/-- What four openings after a round are interpolated to. -/
def interpolate {half : Nat} (challenges : Fin 4 → S.Scalar)
    (openings : Fin 4 → Exponents S half) : Exponents S (half + half) :=
  combine (middleWeight (squares challenges)) challenges openings

/-- How far four openings are from fitting together: three of them determine the
fourth. -/
def deviation {half : Nat} (challenges : Fin 4 → S.Scalar)
    (openings : Fin 4 → Exponents S half) : Exponents S (half + half) :=
  combine (fun which => leadingWeight (squares challenges) which *
    squares challenges which) challenges openings

section Round

variable {half : Nat} {target : Target S} {l r : S.G1} {challenges : Fin 4 → S.Scalar}
  {openings : Fin 4 → Exponents S half}

theorem squares_ne_zero (nonzero : ∀ which, challenges which ≠ 0) (which : Fin 4) :
    squares challenges which ≠ 0 :=
  mul_ne_zero (nonzero which) (nonzero which)

theorem sum_middleWeight_mul {values : Fin 4 → S.Scalar} {constant : S.Scalar}
    (nonzero : ∀ which, challenges which ≠ 0)
    (distinct : Function.Injective (squares challenges))
    (pole linear : S.Scalar) (form : ∀ which, values which =
      constant + squares challenges which * linear +
        (squares challenges which)⁻¹ * pole) :
    ∑ which, middleWeight (squares challenges) which * values which = constant := by
  simp only [form]
  exact sum_middleWeight_smul (by decide) distinct (squares_ne_zero nonzero) pole
    constant linear

theorem commit_interpolate (sized : target.Sized (half + half))
    (nonzero : ∀ which, challenges which ≠ 0)
    (distinct : Function.Injective (squares challenges))
    (opened : ∀ which, (target.halve ⟨l, r, challenges which⟩).commit (openings which) =
      (target.halve ⟨l, r, challenges which⟩).point) :
    target.commit (interpolate challenges openings) = target.point := by
  rw [interpolate, combine, Target.commit_sum sized]
  calc ∑ which, middleWeight (squares challenges) which •
        target.commit (spread (challenges which) (openings which))
      = ∑ which, middleWeight (squares challenges) which •
          (target.point + squares challenges which • l +
            (squares challenges which)⁻¹ • r) := by
        apply Finset.sum_congr rfl
        intro which _
        rw [Target.commit_spread sized ⟨l, r, challenges which⟩, opened, squares, mul_inv]
        rfl
    _ = target.point :=
      sum_middleWeight_smul (by decide) distinct (squares_ne_zero nonzero) _ _ _

/-- Whatever the deviation is, it is a relation between the generators and the
base. -/
theorem commit_deviation (sized : target.Sized (half + half))
    (nonzero : ∀ which, challenges which ≠ 0)
    (distinct : Function.Injective (squares challenges))
    (opened : ∀ which, (target.halve ⟨l, r, challenges which⟩).commit (openings which) =
      (target.halve ⟨l, r, challenges which⟩).point) :
    target.commit (deviation challenges openings) = 0 := by
  rw [deviation, combine, Target.commit_sum sized]
  calc ∑ which, (leadingWeight (squares challenges) which * squares challenges which) •
        target.commit (spread (challenges which) (openings which))
      = ∑ which, leadingWeight (squares challenges) which •
          (squares challenges which ^ 3 • (0 : S.G1) + ∑ place : Fin 3,
            squares challenges which ^ place.val • ![r, target.point, l] place) := by
        apply Finset.sum_congr rfl
        intro which _
        have invertible := squares_ne_zero nonzero which
        rw [mul_smul, Target.commit_spread sized ⟨l, r, challenges which⟩, opened,
          Fin.sum_univ_three]
        simp only [Target.halve, ← mul_inv, Matrix.cons_val, Fin.val_zero, Fin.val_one,
          Fin.val_two, pow_zero, pow_one, pow_two, one_smul, smul_zero, zero_add]
        change _ • squares challenges which • (_ + squares challenges which • l +
          (squares challenges which)⁻¹ • r) = _
        rw [smul_add (squares challenges which), smul_inv_smul₀ invertible]
        module
    _ = 0 := sum_leadingWeight_smul distinct _ _

theorem combine_left (weights challenges : Fin 4 → S.Scalar)
    (openings : Fin 4 → Exponents S half) (index : Fin half) :
    (combine weights challenges openings).1 (Fin.castAdd half index) =
        ∑ which, weights which * ((challenges which)⁻¹ * (openings which).1 index) ∧
      (combine weights challenges openings).1 (Fin.natAdd half index) =
        ∑ which, weights which * (challenges which * (openings which).1 index) := by
  simp [combine, spread, Prod.fst_sum, Finset.sum_apply, -Fin.natAdd_eq_addNat]

theorem combine_right (weights challenges : Fin 4 → S.Scalar)
    (openings : Fin 4 → Exponents S half) (index : Fin half) :
    (combine weights challenges openings).2.1 (Fin.castAdd half index) =
        ∑ which, weights which * (challenges which * (openings which).2.1 index) ∧
      (combine weights challenges openings).2.1 (Fin.natAdd half index) =
        ∑ which, weights which * ((challenges which)⁻¹ * (openings which).2.1 index) := by
  simp [combine, spread, Prod.fst_sum, Prod.snd_sum, Finset.sum_apply,
    -Fin.natAdd_eq_addNat]

theorem combine_product (weights challenges : Fin 4 → S.Scalar)
    (openings : Fin 4 → Exponents S half) :
    (combine weights challenges openings).2.2 = ∑ which, weights which *
      (openings which).2.2 := by
  simp [combine, spread, Prod.snd_sum]

/-- The entries at one index of four openings which fit together come from two
entries by folding. -/
theorem exists_fold {entries : Fin 4 → S.Scalar} (nonzero : ∀ which, challenges which ≠ 0)
    (distinct : Function.Injective (squares challenges))
    (lower : ∑ which, leadingWeight (squares challenges) which *
      squares challenges which * ((challenges which)⁻¹ * entries which) = 0)
    (upper : ∑ which, leadingWeight (squares challenges) which *
      squares challenges which * (challenges which * entries which) = 0) :
    ∃ low high, (∀ which,
      entries which = challenges which * low + (challenges which)⁻¹ * high) ∧
      ∑ which, middleWeight (squares challenges) which *
        ((challenges which)⁻¹ * entries which) =
        low ∧
      ∑ which, middleWeight (squares challenges) which *
        (challenges which * entries which) =
        high := by
  obtain ⟨high, low, line⟩ : ∃ high low, ∀ which,
      challenges which * entries which = high + squares challenges which * low := by
    apply exists_line distinct
    · rw [← lower]
      apply Finset.sum_congr rfl
      intro which _
      have invertible := nonzero which
      rw [squares]
      field_simp
    · simpa only [mul_assoc] using upper
  have folded (which : Fin 4) :
      entries which = challenges which * low + (challenges which)⁻¹ * high := by
    have invertible := nonzero which
    rw [← inv_mul_cancel_left₀ invertible (entries which), line, squares]
    field_simp
    ring
  refine ⟨low, high, folded, ?_, ?_⟩
  · apply sum_middleWeight_mul nonzero distinct high 0
    intro which
    have invertible := nonzero which
    rw [folded, squares]
    field_simp
    ring
  · apply sum_middleWeight_mul nonzero distinct 0 low
    intro which
    rw [line, mul_zero, add_zero]

/-- Openings that fit together, each of a commitment to two vectors and their
inner product, are interpolated to such an opening. -/
theorem product_interpolate (nonzero : ∀ which, challenges which ≠ 0)
    (distinct : Function.Injective (squares challenges))
    (products : ∀ which, (openings which).2.2 =
      ∑ index, (openings which).1 index * (openings which).2.1 index)
    (fits : deviation challenges openings = 0) :
    (interpolate challenges openings).2.2 = ∑ index,
      (interpolate challenges openings).1 index *
        (interpolate challenges openings).2.1 index := by
  unfold deviation at fits
  have left := combine_left (fun which =>
    leadingWeight (squares challenges) which * squares challenges which) challenges
      openings
  have right := combine_right (fun which =>
    leadingWeight (squares challenges) which * squares challenges which) challenges
      openings
  simp only [fits, Prod.fst_zero, Prod.snd_zero, Pi.zero_apply] at left right
  choose low high leftFolded leftLow leftHigh using fun index =>
    exists_fold nonzero distinct (left index).1.symm (left index).2.symm
  choose otherLow otherHigh rightFolded rightLow rightHigh using fun index =>
    exists_fold nonzero distinct (right index).2.symm (right index).1.symm
  rw [Fin.sum_univ_add]
  simp only [interpolate, (combine_left _ _ _ _).1, (combine_left _ _ _ _).2,
    (combine_right _ _ _ _).1, (combine_right _ _ _ _).2, combine_product, leftLow,
    leftHigh, rightLow, rightHigh, products, Finset.mul_sum]
  rw [Finset.sum_comm, ← Finset.sum_add_distrib]
  apply Finset.sum_congr rfl
  intro index _
  -- Of the product of the two folded entries, the round hides one coefficient
  -- in each of its points.
  apply sum_middleWeight_mul nonzero distinct (high index * otherHigh index)
    (low index * otherLow index)
  intro which
  have invertible := nonzero which
  rw [leftFolded, rightFolded, squares]
  field_simp
  ring

end Round

namespace Tree

/-- What a tree opens the commitment to. -/
def opening : {rounds : Nat} → Tree S rounds → Exponents S (width rounds)
  | _, .leaf left right => (fun _ => left, fun _ => right, left * right)
  | _, .node _ _ challenges children =>
      interpolate challenges fun which => (children which).opening

/-- How far the openings in a tree are from fitting together, in terms of the
first generators. -/
def deviations : {rounds : Nat} → Tree S rounds → List (Exponents S (width rounds))
  | _, .leaf _ _ => []
  | _, .node _ _ challenges children =>
      deviation challenges (fun which => (children which).opening) ::
        (List.ofFn fun which =>
          (children which).deviations.map (spread (challenges which))).flatten

theorem mem_deviations_node {rounds : Nat} {l r : S.G1} {challenges : Fin 4 → S.Scalar}
    {children : Fin 4 → Tree S rounds} {exponents : Exponents S (width (rounds + 1))} :
    exponents ∈ (node l r challenges children).deviations ↔
      exponents = deviation challenges (fun which => (children which).opening) ∨
        ∃ which, ∃ other ∈ (children which).deviations,
          spread (challenges which) other = exponents := by
  apply List.mem_cons.trans
  apply or_congr_right
  constructor
  · intro membership
    obtain ⟨list, among, membership⟩ := List.mem_flatten.mp membership
    obtain ⟨which, rfl⟩ := List.mem_ofFn.mp among
    exact ⟨which, List.mem_map.mp membership⟩
  · intro membership
    obtain ⟨which, membership⟩ := membership
    exact List.mem_flatten.mpr
      ⟨_, List.mem_ofFn.mpr ⟨which, rfl⟩, List.mem_map.mpr membership⟩

theorem Accepted.commit_opening {rounds : Nat} {tree : Tree S rounds} {target : Target S}
    (accepted : tree.Accepted target []) (sized : target.Sized (width rounds)) :
    target.commit tree.opening = target.point := by
  induction tree generalizing target with
  | leaf left right =>
      obtain ⟨leftGenerator, leftEq⟩ := List.length_eq_one_iff.mp sized.left
      obtain ⟨rightGenerator, rightEq⟩ := List.length_eq_one_iff.mp sized.right
      change target.Checks [] left right at accepted
      simpa [Target.Checks, Target.commit, opening, width, folded, foldingFactors,
        leftEq, rightEq] using accepted
  | node l r challenges children inductionHypothesis =>
      apply commit_interpolate sized accepted.1 accepted.2.1
      intro which
      exact inductionHypothesis which (accepted.child sized which) (sized.halve _)

theorem Accepted.commit_deviations {rounds : Nat} {tree : Tree S rounds}
    {target : Target S} (accepted : tree.Accepted target [])
    (sized : target.Sized (width rounds)) :
    ∀ exponents ∈ tree.deviations, target.commit exponents = 0 := by
  induction tree generalizing target with
  | leaf left right => exact fun _ none => nomatch none
  | node l r challenges children inductionHypothesis =>
      intro exponents membership
      rcases mem_deviations_node.mp membership with own | ⟨which, other, among, rfl⟩
      · rw [own]
        apply commit_deviation sized accepted.1 accepted.2.1
        intro which
        exact (accepted.child sized which).commit_opening (sized.halve _)
      · apply (Target.commit_spread sized ⟨l, r, challenges which⟩ other).trans
        exact inductionHypothesis which (accepted.child sized which)
          (sized.halve _) other among

theorem Accepted.product_opening {rounds : Nat} {tree : Tree S rounds} {target : Target S}
    {path : List (Round S)} (accepted : tree.Accepted target path)
    (fits : ∀ exponents ∈ tree.deviations, exponents = 0) :
    tree.opening.2.2 = ∑ index, tree.opening.1 index * tree.opening.2.1 index := by
  induction tree generalizing path with
  | leaf left right => exact (Fin.sum_univ_one fun _ => left * right).symm
  | node l r challenges children inductionHypothesis =>
      apply product_interpolate accepted.1 accepted.2.1
      · intro which
        apply inductionHypothesis which (accepted.2.2 which)
        intro exponents membership
        have spreads : spread (challenges which) exponents = 0 :=
          fits _ (mem_deviations_node.mpr (.inr ⟨which, exponents, membership, rfl⟩))
        exact eq_zero_of_spread (accepted.1 which) spreads
      · exact fits _ (mem_deviations_node.mpr (.inl rfl))

end Tree

/-- What a tree of answers gives away: two vectors, or how the generators are
related. -/
inductive Extracted (S : Suite) (count : Nat) where
  | opening (left right : Fin count → S.Scalar)
  | related (exponents : Exponents S count)

inductive Extracted.Holds {count : Nat} (target : Target S) : Extracted S count → Prop
  | opening {left right : Fin count → S.Scalar}
      (opened : target.point =
        linearCombination target.leftGenerators (List.ofFn left) +
          linearCombination target.rightGenerators (List.ofFn right) +
          dotProduct (List.ofFn left) (List.ofFn right) • target.base) :
      Holds target (.opening left right)
  | related {exponents : Exponents S count} (nonzero : exponents ≠ 0)
      (vanishes : target.commit exponents = 0) : Holds target (.related exponents)

/-- Extracts from a tree of answers. -/
def Tree.extract {rounds : Nat} (tree : Tree S rounds) : Extracted S (width rounds) :=
  match tree.deviations.find? (· ≠ 0) with
  | some exponents => .related exponents
  | none => .opening tree.opening.1 tree.opening.2.1

/-- Answers that pass the final check of a verifier, at four challenges for each
round, give away two vectors that the commitment opens to together with their
inner product, or a relation between the generators and the base. -/
theorem extract_holds_of_tree {rounds : Nat} {target : Target S} {tree : Tree S rounds}
    (sized : target.Sized (2 ^ rounds)) (accepted : tree.Accepted target []) :
    tree.extract.Holds target := by
  rw [← width_eq] at sized
  unfold Tree.extract
  split
  case h_1 exponents found =>
    apply Extracted.Holds.related
    · simpa using List.find?_some found
    · exact accepted.commit_deviations sized exponents (List.mem_of_find?_eq_some found)
  case h_2 none =>
    have fits : ∀ exponents ∈ tree.deviations, exponents = 0 := by
      simpa using none
    apply Extracted.Holds.opening
    rw [dotProduct_ofFn, ← accepted.product_opening fits]
    exact (accepted.commit_opening sized).symm

namespace Vectors

/-- What a statement about the commitment to the vectors and to their inner
product is about. -/
def target (vectors : Vectors S) (base : S.G1) : Target S where
  leftGenerators := vectors.leftGenerators
  rightGenerators := vectors.rightGenerators
  base := base
  point := vectors.commitment base

/-- The answers of a prover who knows the vectors, to the same challenges in all
rounds. -/
def answers (base : S.G1) (challenges : Fin 4 → S.Scalar) :
    (rounds : Nat) → Vectors S → Tree S rounds
  | 0, vectors => .leaf (vectors.left.headD 0) (vectors.right.headD 0)
  | rounds + 1, vectors =>
      .node (vectors.leftCross base) (vectors.rightCross base) challenges fun which =>
        (vectors.halve (challenges which) (challenges which)⁻¹).answers base challenges
          rounds

theorem Sized.target_halve {vectors : Vectors S} {half : Nat}
    (sized : vectors.Sized (2 * half)) (base : S.G1) {challenge : S.Scalar}
    (nonzero : challenge ≠ 0) :
    (vectors.target base).halve ⟨vectors.leftCross base, vectors.rightCross base,
      challenge⟩ =
      (vectors.halve challenge challenge⁻¹).target base := by
  simp only [target, Target.halve, sized.commitment_halve base (mul_inv_cancel₀ nonzero)]
  rfl

theorem Sized.accepted_answers {vectors : Vectors S} {rounds : Nat}
    (sized : vectors.Sized (2 ^ rounds)) (base : S.G1) {challenges : Fin 4 → S.Scalar}
    (nonzero : ∀ which, challenges which ≠ 0)
    (distinct : Function.Injective (squares challenges)) :
    (vectors.answers base challenges rounds).Accepted (vectors.target base) [] := by
  induction rounds generalizing vectors with
  | zero =>
      obtain ⟨leftGenerators, rightGenerators, left, right⟩ := vectors
      obtain ⟨leftGenerator, rfl⟩ := List.length_eq_one_iff.mp sized.leftGenerators
      obtain ⟨rightGenerator, rfl⟩ := List.length_eq_one_iff.mp sized.rightGenerators
      obtain ⟨a, rfl⟩ := List.length_eq_one_iff.mp sized.left
      obtain ⟨b, rfl⟩ := List.length_eq_one_iff.mp sized.right
      change Target.Checks _ [] a b
      simp [Target.Checks, target, folded, foldingFactors, commitment, dotProduct]
  | succ rounds inductionHypothesis =>
      refine ⟨nonzero, distinct, fun which => ?_⟩
      have targetSized : (vectors.target base).Sized (2 ^ (0 + rounds + 1)) := by
        rw [Nat.zero_add]
        exact ⟨sized.leftGenerators, sized.rightGenerators⟩
      rw [Nat.pow_succ, Nat.mul_comm] at sized
      apply (Tree.accepted_cons _ [] targetSized).mpr
      rw [sized.target_halve base (nonzero which)]
      exact inductionHypothesis (sized.halve _ _)

end Vectors

def fourEntries : Vectors Bn254.exponentSuite where
  leftGenerators := [2, 3, 5, 7]
  rightGenerators := [11, 13, 17, 19]
  left := [1, 2, 3, 4]
  right := [5, 6, 7, 8]

theorem extract_tree_sample :
    let tree := fourEntries.answers (23 : Bn254.Fr) ![(1 : Bn254.Fr), 2, 3, 4] 2
    tree.extract.Holds (fourEntries.target (23 : Bn254.Fr)) ∧
      tree.extract = .opening ![(1 : Bn254.Fr), 2, 3, 4] ![(5 : Bn254.Fr), 6, 7, 8] := by
  intro tree
  have sized : fourEntries.Sized (2 ^ 2) := ⟨rfl, rfl, rfl, rfl⟩
  have nonzero : ∀ which, (![(1 : Bn254.Fr), 2, 3, 4] : Fin 4 → Bn254.Fr) which ≠ 0 := by
    decide +kernel
  have distinct : Function.Injective
      (squares (S := Bn254.exponentSuite) ![(1 : Bn254.Fr), 2, 3, 4]) := by
    decide +kernel
  refine ⟨extract_holds_of_tree ⟨rfl, rfl⟩
    (sized.accepted_answers (23 : Bn254.Fr) nonzero distinct), ?_⟩
  have fits : ∀ exponents ∈ tree.deviations, ¬ decide (exponents ≠ 0) = true := by
    decide +kernel
  have left : List.ofFn tree.opening.1 = List.ofFn ![(1 : Bn254.Fr), 2, 3, 4] := by
    decide +kernel
  have right : List.ofFn tree.opening.2.1 = List.ofFn ![(5 : Bn254.Fr), 6, 7, 8] := by
    decide +kernel
  rw [Tree.extract, List.find?_eq_none.mpr fits]
  exact congrArg₂ Extracted.opening (List.ofFn_injective left) (List.ofFn_injective right)

end ConfidentialToken.Bulletproof.InnerProduct
