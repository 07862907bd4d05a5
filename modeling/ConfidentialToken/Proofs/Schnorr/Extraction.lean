import Mathlib.Algebra.Module.LinearMap.Defs
import Mathlib.Tactic.Module
import ConfidentialToken.Proofs.Algebra.LinearCombination
import ConfidentialToken.Proofs.Outcome
import ConfidentialToken.Schnorr

/-!
What two answers to one first message give away.

Whoever answers two different challenges for the same first message knows an
opening of the statement: the differences of the responses, divided by the
difference of the challenges.
-/

namespace ConfidentialToken

variable {S : Suite}

theorem Pedersen.commit_eq_ok {opening : List S.Scalar} {bases : List S.G1}
    {commitment : S.G1} :
    commit opening bases = .ok commitment ↔
      opening.length = bases.length ∧ linearCombination bases opening = commitment := by
  rw [commit, ite_error_eq_ok, not_not, Except.ok.injEq]

namespace Schnorr

theorem recompute_eq_ok {bases : List S.G1} {proof : Proof S} {first : S.G1} :
    recompute bases proof = .ok first ↔
      proof.responses.length = bases.length ∧
      firstMessage bases proof.statement proof.responses proof.challenge = first := by
  rw [recompute, ite_error_eq_ok, not_not, Except.ok.injEq]

/-- The secret that follows from the responses to two challenges. -/
def extract (challenge otherChallenge response otherResponse : S.Scalar) : S.Scalar :=
  (response - otherResponse) * (challenge - otherChallenge)⁻¹

/-- The secrets that follow from two lists of responses to two challenges. -/
def extractAll (challenge otherChallenge : S.Scalar)
    (responses otherResponses : List S.Scalar) : List S.Scalar :=
  List.zipWith (extract challenge otherChallenge) responses otherResponses

@[simp]
theorem length_extractAll (challenge otherChallenge : S.Scalar)
    (responses otherResponses : List S.Scalar) :
    (extractAll challenge otherChallenge responses otherResponses).length =
      min responses.length otherResponses.length := by
  simp [extractAll]

variable [LawfulG1 S] {challenge otherChallenge : S.Scalar}

section Module

variable {G : Type} [AddCommGroup G] [Module S.Scalar G]

/-- Two answers with one first message determine the statement. -/
theorem eq_of_same_first (distinct : challenge ≠ otherChallenge)
    {statement image otherImage : G}
    (same : image - challenge • statement = otherImage - otherChallenge • statement) :
    (challenge - otherChallenge)⁻¹ • (image - otherImage) = statement := by
  have gap : challenge - otherChallenge ≠ 0 := sub_ne_zero.mpr distinct
  have difference : image - otherImage = (challenge - otherChallenge) • statement := by
    rw [sub_smul, sub_eq_sub_iff_add_eq_add]
    have moved := sub_eq_sub_iff_add_eq_add.mp same
    rw [moved]
    abel
  rw [difference, inv_smul_smul₀ gap]

theorem zipWith_eq_of_same_first (distinct : challenge ≠ otherChallenge)
    {statements images otherImages : List G}
    (length : images.length = statements.length)
    (otherLength : otherImages.length = statements.length)
    (same :
      List.zipWith (fun image statement => image - challenge • statement) images
        statements =
        List.zipWith (fun image statement => image - otherChallenge • statement)
          otherImages statements) :
    List.zipWith (fun image other => (challenge - otherChallenge)⁻¹ • (image - other))
      images otherImages = statements := by
  induction statements generalizing images otherImages with
  | nil =>
      rw [List.length_eq_zero_iff.mp length]
      rfl
  | cons statement statements inductionHypothesis =>
      obtain ⟨image, images, rfl⟩ := List.exists_cons_of_length_eq_add_one length
      obtain ⟨otherImage, otherImages, rfl⟩ :=
        List.exists_cons_of_length_eq_add_one otherLength
      simp only [List.zipWith_cons_cons, List.cons.injEq] at same ⊢
      exact ⟨eq_of_same_first distinct same.1,
        inductionHypothesis (Nat.succ.inj length) (Nat.succ.inj otherLength) same.2⟩

theorem linearCombination_extractAll (bases : List G)
    {responses otherResponses : List S.Scalar}
    (lengths : responses.length = otherResponses.length) :
    linearCombination bases
      (extractAll challenge otherChallenge responses otherResponses) =
      (challenge - otherChallenge)⁻¹ •
        (linearCombination bases responses - linearCombination bases otherResponses) :=
  linearCombination_zipWith bases _ lengths

/-- The slope of the line through the responses to two challenges. -/
def slope (challenge otherChallenge : S.Scalar) (response otherResponse : G) : G :=
  (challenge - otherChallenge)⁻¹ • (response - otherResponse)

/-- Where the line through the responses to two challenges starts. -/
def start (challenge otherChallenge : S.Scalar) (response otherResponse : G) : G :=
  response - challenge • slope challenge otherChallenge response otherResponse

theorem extract_eq_slope (response otherResponse : S.Scalar) :
    extract challenge otherChallenge response otherResponse =
      slope challenge otherChallenge response otherResponse :=
  mul_comm _ _

/-- Commitments over two bases are linear in what is committed to. -/
theorem isLinearMap_pair (base otherBase : G) :
    IsLinearMap S.Scalar fun opening : S.Scalar × S.Scalar =>
      opening.1 • base + opening.2 • otherBase := by
  constructor
  · intro opening otherOpening
    simp only [Prod.fst_add, Prod.snd_add]
    module
  · intro factor opening
    simp only [Prod.smul_fst, Prod.smul_snd, smul_eq_mul]
    module

section Linear

variable {V : Type} [AddCommGroup V] [Module S.Scalar V] {image : V → G}
  {response otherResponse : V} {first statement : G}

/-- The line through two responses opens the statement and the first message,
under any linear map. -/
theorem map_line (linear : IsLinearMap S.Scalar image)
    (distinct : challenge ≠ otherChallenge)
    (opened : image response = first + challenge • statement)
    (otherOpened : image otherResponse = first + otherChallenge • statement) :
    image (slope challenge otherChallenge response otherResponse) = statement ∧
      image (start challenge otherChallenge response otherResponse) = first := by
  have slopes :
      image (slope challenge otherChallenge response otherResponse) = statement := by
    rw [slope, linear.map_smul, linear.map_sub]
    apply eq_of_same_first distinct
    rw [opened, otherOpened, add_sub_cancel_right, add_sub_cancel_right]
  refine ⟨slopes, ?_⟩
  rw [start, linear.map_sub, linear.map_smul, slopes, opened, add_sub_cancel_right]

end Linear

theorem extract_smul (response otherResponse : S.Scalar) (base : G) :
    extract challenge otherChallenge response otherResponse • base =
      (challenge - otherChallenge)⁻¹ • (response • base - otherResponse • base) := by
  rw [extract, mul_comm, mul_smul, sub_smul]

end Module

theorem extract_mul (response otherResponse factor : S.Scalar) :
    extract challenge otherChallenge (response * factor) (otherResponse * factor) =
      extract challenge otherChallenge response otherResponse * factor := by
  simp only [extract]
  ring

theorem sum_extractAll {responses otherResponses : List S.Scalar}
    (lengths : responses.length = otherResponses.length) :
    sum (extractAll challenge otherChallenge responses otherResponses) =
      extract challenge otherChallenge (sum responses) (sum otherResponses) := by
  have differences : extractAll challenge otherChallenge responses otherResponses =
      (List.zipWith (· - ·) responses otherResponses).map
        (· * (challenge - otherChallenge)⁻¹) := by
    rw [List.map_zipWith]
    rfl
  rw [differences, sum_map_mul, sum_zipWith_sub lengths, extract]

/-- Two answers with one first message open the statement. -/
theorem linearCombination_eq_of_same_firstMessage {bases : List S.G1} {statement : S.G1}
    {responses otherResponses : List S.Scalar} (distinct : challenge ≠ otherChallenge)
    (lengths : responses.length = otherResponses.length)
    (same : firstMessage bases statement responses challenge =
      firstMessage bases statement otherResponses otherChallenge) :
    linearCombination bases
      (extractAll challenge otherChallenge responses otherResponses) =
      statement := by
  rw [linearCombination_extractAll bases lengths]
  exact eq_of_same_first distinct same

end Schnorr

end ConfidentialToken
