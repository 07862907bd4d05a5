import ConfidentialToken.Proofs.DigitRange.Parameters
import ConfidentialToken.PublicParameters

/-!
Which public parameters there are.

Parameters are set up and then updated any number of times. What is proven about
them follows the updates; validation is asked for separately, since an update
can make parameters invalid.
-/

namespace ConfidentialToken.PublicParameters

variable {S : Suite} {R : Type} [RandomSource S R]

variable (R) in
/-- Parameters that were set up and updated. -/
inductive Produced : PublicParameters S → Prop
  | setup {config : SetupConfig} {parameters : PublicParameters S}
      (gives : Sampling.Gives (R := R) (setup config) parameters) : Produced parameters
  | withAuditor {parameters : PublicParameters S} (produced : Produced parameters)
      (auditor : Identity) : Produced (parameters.withAuditor auditor)
  | withIssuer {parameters : PublicParameters S} (produced : Produced parameters)
      (issuer : Identity) : Produced (parameters.withIssuer issuer)
  | withPolicy {parameters updated : PublicParameters S} (produced : Produced parameters)
      {keys : List S.G1}
      (gives : Sampling.Gives (R := R) (parameters.withPolicy keys) updated) :
      Produced updated

theorem pedersen_of_validate {parameters : PublicParameters S}
    (valid : parameters.validate = .ok ()) :
    parameters.pedersen.length = 3 ∧ 0 ∉ parameters.pedersen := by
  obtain ⟨three, valid⟩ := guard_eq_ok.mp valid
  exact ⟨not_not.mp three, (guard_eq_ok.mp valid).1⟩

/-- The table of signed digits, if there is one, holds signatures. -/
def Certified (parameters : PublicParameters S) : Prop :=
  ∀ digits, parameters.membership = some digits → digits.Certified

theorem certified_of_setup [BilinearPairing S] {config : SetupConfig}
    {parameters : PublicParameters S}
    (gives : Sampling.Gives (R := R) (setup config) parameters) :
    parameters.Certified := by
  obtain ⟨pedersen, -, gives⟩ := gives.bind
  cases engine : config.engine with
  | bulletproof =>
      simp only [engine] at gives
      obtain ⟨bits, -, gives⟩ := gives.bind
      cases gives.pure
      intro digits absent
      cases absent
  | membership =>
      simp only [engine] at gives
      obtain ⟨table, generated, gives⟩ := gives.bind
      cases gives.pure
      intro digits found
      cases found
      exact DigitRange.Parameters.certified_of_generate generated.during

theorem Produced.certified [BilinearPairing S] {parameters : PublicParameters S}
    (produced : Produced R parameters) : parameters.Certified := by
  induction produced with
  | setup gives => exact certified_of_setup gives
  | withAuditor _ _ inductionHypothesis => exact inductionHypothesis
  | withIssuer _ _ inductionHypothesis => exact inductionHypothesis
  | withPolicy _ gives inductionHypothesis =>
      obtain ⟨policy, -, updated⟩ := gives.bind
      cases updated.pure
      exact inductionHypothesis

end ConfidentialToken.PublicParameters
