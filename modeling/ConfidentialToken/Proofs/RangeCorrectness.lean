import ConfidentialToken.Proofs.Bulletproof.Completeness
import ConfidentialToken.Proofs.DigitRange.Completeness
import ConfidentialToken.Proofs.PublicParameters
import ConfidentialToken.Proofs.Transfer.Completeness
import ConfidentialToken.RangeCorrectness

/-!
Honest proofs of range are accepted, whichever way the parameters ask for.
-/

namespace ConfidentialToken.RangeCorrectness

variable {S : Suite}

/-- Tokens without their type are the commitments that a proof over bits is
about. -/
theorem bitStatements_eq_ok [LawfulG1 S] {parameters : PublicParameters S}
    {tokens : List S.G1} {openings : List (Opening S)} {tokenType : String}
    {typeCommitment : TypeCommitment S} {statements : Bulletproof.Statements S}
    (opens : OpenAll parameters.pedersen tokenType openings tokens)
    (typeOpens : typeCommitment.Opens parameters.pedersen tokenType)
    (made : bitStatements parameters tokens typeCommitment.commitment = .ok statements) :
    statements.commitments = List.zipWith (fun value factor =>
      (ScalarOperations.ofNat value.toNat : S.Scalar) • statements.g +
        factor • statements.h)
      (openings.map Opening.value)
      (openings.map fun opening =>
        opening.blindingFactor - typeCommitment.blindingFactor) := by
  unfold bitStatements at made
  split at made
  case h_1 typeBase valueBase blindingBase generators =>
    obtain ⟨bits, -, made⟩ := bind_eq_ok.mp made
    cases pure_eq_ok.mp made
    have three : parameters.pedersen.length = 3 := by rw [generators]; rfl
    have headless := Transfer.TypeAndSum.headless_eq three opens typeOpens
    simp only [generators, Transfer.TypeAndSum.blindingWithout, Transfer.valuesOf,
      List.zipWith_map, Transfer.TypeAndSum.commitValue_triple] at headless ⊢
    exact headless
  case h_2 =>
    cases made

theorem verify_prove [BilinearPairing S] {R : Type} [RandomSource S R]
    {parameters : PublicParameters S} {tokens : List S.G1} {openings : List (Opening S)}
    {tokenType : String} {typeCommitment : TypeCommitment S} {commitmentToType : S.G1}
    {proof : RangeCorrectness S} (certified : parameters.Certified)
    (opens : OpenAll parameters.pedersen tokenType openings tokens)
    (typeOpens : typeCommitment.Opens parameters.pedersen tokenType)
    (same : parameters.engine = .bulletproof →
      commitmentToType = typeCommitment.commitment)
    (gives : Sampling.Gives (R := R) (prove parameters tokens openings typeCommitment)
      proof) :
    verify parameters tokens commitmentToType proof = .ok () := by
  obtain ⟨-, gives⟩ := gives.guard
  cases large : openings.find? fun opening => parameters.maxToken < opening.value with
  | some opening =>
      simp only [large] at gives
      obtain ⟨_, thrown, -⟩ := gives.bind
      exact thrown.throw.elim
  | none =>
      simp only [large] at gives
      cases engine : parameters.engine with
      | bulletproof =>
          simp only [engine] at gives
          obtain ⟨statements, made, gives⟩ := gives.bind
          obtain ⟨proofs, proved, gives⟩ := gives.bind
          cases gives.pure
          have statementsMade := made.lift
          have verified := Bulletproof.Statements.verify_prove
            (bitStatements_eq_ok opens typeOpens statementsMade) proved
          rw [verify, same engine, engine]
          exact guard_eq_ok.mpr ⟨fun different => different rfl,
            bind_eq_ok.mpr ⟨statements, statementsMade, verified⟩⟩
      | membership =>
          simp only [engine] at gives
          obtain ⟨statement, made, gives⟩ := gives.bind
          obtain ⟨digits, proved, gives⟩ := gives.bind
          cases gives.pure
          have statementMade := made.lift
          obtain ⟨table, required, form⟩ := bind_eq_ok.mp statementMade
          cases pure_eq_ok.mp form
          have found : parameters.membership = some table := by
            unfold PublicParameters.requireMembership at required
            split at required <;> cases required
            assumption
          have verified :=
            DigitRange.Statement.verify_prove (certified table found) opens proved
          rw [verify, engine]
          exact guard_eq_ok.mpr ⟨fun different => different rfl,
            bind_eq_ok.mpr ⟨_, statementMade, verified⟩⟩

end ConfidentialToken.RangeCorrectness
