import ConfidentialToken.Proofs.Algebra.LinearCombination
import ConfidentialToken.Proofs.Sampling
import ConfidentialToken.Proofs.Schnorr.Extraction
import ConfidentialToken.Token

/-!
Which tokens openings open.
-/

namespace ConfidentialToken

variable {S : Suite}

theorem Opening.commit_eq_ok {generators : List S.G1} {opening : Opening S}
    {token : S.G1} :
    opening.commit generators = .ok token ↔
      generators.length = 3 ∧ linearCombination generators
        [typeScalar opening.tokenType, wordScalar opening.value, opening.blindingFactor] =
          token := by
  rw [commit, commitToken, Pedersen.commit_eq_ok]
  exact and_congr_left' eq_comm

theorem Opening.commitAllFrom_eq_ok {generators : List S.G1} {start : Nat}
    {openings : List (Opening S)} {tokens : List S.G1} :
    commitAllFrom generators start openings = .ok tokens ↔
      List.Forall₂ (fun opening token => opening.commit generators = .ok token) openings
        tokens := by
  induction openings generalizing start tokens with
  | nil => cases tokens <;> simp [commitAllFrom]
  | cons opening openings inductionHypothesis =>
      cases tokens with
      | nil => simp [commitAllFrom]
      | cons token tokens => simp [commitAllFrom, inductionHypothesis]

theorem Token.map_commitment_zipWith {owners : List Bytes} {commitments : List S.G1}
    (lengths : commitments.length = owners.length) :
    (List.zipWith Token.mk owners commitments).map Token.commitment = commitments := by
  apply List.ext_getElem <;> simp [lengths]

theorem Token.map_owner_zipWith {owners : List Bytes} {commitments : List S.G1}
    (lengths : commitments.length = owners.length) :
    (List.zipWith Token.mk owners commitments).map Token.owner = owners := by
  apply List.ext_getElem <;> simp [lengths]

/-- Openings of one type that open tokens. -/
structure OpenAll (generators : List S.G1) (tokenType : String)
    (openings : List (Opening S)) (tokens : List S.G1) : Prop where
  typed : ∀ opening ∈ openings, opening.tokenType = tokenType
  opened :
    List.Forall₂ (fun opening token => opening.commit generators = .ok token) openings
      tokens

namespace OpenAll

variable {generators : List S.G1} {tokenType : String} {openings : List (Opening S)}
  {tokens : List S.G1}

theorem length_eq (opens : OpenAll generators tokenType openings tokens) :
    openings.length = tokens.length :=
  opens.opened.length_eq

/-- The tokens are the commitments to the values and blinding factors of their
openings. -/
theorem tokens_eq (opens : OpenAll generators tokenType openings tokens) :
    tokens = List.zipWith (fun value factor =>
        linearCombination generators [typeScalar tokenType, value, factor])
      (openings.map fun opening => wordScalar opening.value)
      (openings.map Opening.blindingFactor) := by
  obtain ⟨typed, opened⟩ := opens
  induction opened with
  | nil => rfl
  | cons first _ inductionHypothesis =>
      obtain ⟨firstTyped, restTyped⟩ := List.forall_mem_cons.mp typed
      rw [inductionHypothesis restTyped, ← (Opening.commit_eq_ok.mp first).2, firstTyped]
      simp

end OpenAll

theorem Opening.sample_gives {R : Type} [RandomSource S R] {tokenType : String}
    {values : List UInt64} {openings : List (Opening S)}
    (gives : Sampling.Gives (R := R) (sample tokenType values) openings) :
    (∀ opening ∈ openings, opening.tokenType = tokenType) ∧
      openings.map Opening.value = values := by
  have drawn := gives.mapM
  clear gives
  induction drawn with
  | nil => simp
  | cons first _ inductionHypothesis =>
      obtain ⟨factor, -, form⟩ := first.bind
      cases form.pure
      obtain ⟨typed, mapped⟩ := inductionHypothesis
      exact ⟨List.forall_mem_cons.mpr ⟨rfl, typed⟩, congrArg (_ :: ·) mapped⟩

/-- Fresh tokens are opened by the openings that come with them. -/
theorem Opening.createTokens_gives {R : Type} [RandomSource S R] {generators : List S.G1}
    {tokenType : String} {values : List UInt64} {tokens : List S.G1}
    {openings : List (Opening S)}
    (gives : Sampling.Gives (R := R) (createTokens generators tokenType values)
      (tokens, openings)) :
    OpenAll generators tokenType openings tokens ∧
      openings.map Opening.value = values := by
  obtain ⟨sampled, drawn, gives⟩ := gives.bind
  obtain ⟨committed, made, gives⟩ := gives.bind
  obtain ⟨rfl, rfl⟩ := Prod.mk.inj gives.pure
  obtain ⟨typed, mapped⟩ := sample_gives drawn
  exact ⟨⟨typed, commitAllFrom_eq_ok.mp (during_eq_ok.mp made.lift)⟩, mapped⟩

end ConfidentialToken
