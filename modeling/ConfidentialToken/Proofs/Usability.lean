import ConfidentialToken.Proofs.Bn254.Exponents
import ConfidentialToken.Proofs.Bulletproof.Completeness
import ConfidentialToken.Proofs.Issue.Anonymous
import ConfidentialToken.Proofs.PublicParameters
import ConfidentialToken.Proofs.WireFormat
import ConfidentialToken.Registry

/-!
Which parameters that setup gives can be used.

Setup and validation state the rules for sizes separately. They agree for tables
of signed digits and for policies of any size, while for proofs over bits setup
lets a single bit pass, for which there is nothing to halve and which validation
refuses. Updates neither cure nor break anything, since each of them changes one
field only.
-/

namespace ConfidentialToken

variable {S : Suite} {R : Type} [RandomSource S R]

/-- A source that never gives the identity of a group: in the first group a
point is drawn by a coordinate, which the identity does not have; in the second
group a cofactor is cleared. -/
class NonzeroSource (S : Suite) (R : Type) [RandomSource S R] : Prop where
  g1_ne_zero : ∀ source : R, (RandomSource.g1 source : S.G1 × R).1 ≠ 0
  g2_ne_zero : ∀ source : R, (RandomSource.g2 source : S.G2 × R).1 ≠ 0

/-- A suite in which the single bases of proofs over bits are not the
identity. -/
class NonzeroGenerators (S : Suite) : Prop where
  p_ne_zero : (Bulletproof.Parameters.generator "P" : S.G1) ≠ 0
  q_ne_zero : (Bulletproof.Parameters.generator "Q" : S.G1) ≠ 0

namespace Sampling

theorem Gives.g1_ne_zero [NonzeroSource S R] {point : S.G1}
    (gives : Gives (R := R) g1 point) : point ≠ 0 := by
  obtain ⟨source, rest, drawn⟩ := gives
  have first : (RandomSource.g1 source : S.G1 × R).1 = point :=
    congrArg Prod.fst (Except.ok.inj drawn)
  rw [← first]
  exact NonzeroSource.g1_ne_zero source

theorem Gives.g2_ne_zero [NonzeroSource S R] {point : S.G2}
    (gives : Gives (R := R) g2 point) : point ≠ 0 := by
  obtain ⟨source, rest, drawn⟩ := gives
  have first : (RandomSource.g2 source : S.G2 × R).1 = point :=
    congrArg Prod.fst (Except.ok.inj drawn)
  rw [← first]
  exact NonzeroSource.g2_ne_zero source

end Sampling

namespace Bulletproof.Parameters

/-- Derived parameters are valid unless values have a single bit: then there are
no halvings. -/
theorem validate_derive [NonzeroGenerators S] {bitLength : UInt64}
    {parameters : Parameters S} (derived : derive bitLength = .ok parameters) :
    parameters.validate = .ok () ↔ bitLength ≠ 1 := by
  simp only [derive, ite_error_eq_ok, not_or, ne_eq, not_not, Nat.pow_eq, Except.ok.injEq,
    UInt64.not_lt] at derived
  obtain ⟨⟨positive, bounded, power⟩, rfl⟩ := derived
  have few : bitLength.toNat.log2 < 64 := by
    by_contra many
    have huge : 2 ^ 64 ≤ bitLength.toNat :=
      power ▸ Nat.pow_le_pow_right Nat.two_pos (by omega)
    exact absurd bitLength.toNat_lt (Nat.not_lt.mpr huge)
  have rounds : (UInt64.ofNat bitLength.toNat.log2).toNat = bitLength.toNat.log2 :=
    UInt64.toNat_ofNat_of_lt (Nat.lt_trans few (by decide))
  have halvings : UInt64.ofNat bitLength.toNat.log2 ≠ 0 ↔ bitLength ≠ 1 := by
    rw [not_iff_not, ← UInt64.toNat_inj, ← UInt64.toNat_inj, rounds, ← power]
    simp
  have roundsBounded : UInt64.ofNat bitLength.toNat.log2 ≤ 64 := by
    rw [UInt64.le_iff_toNat_le, rounds]
    exact Nat.le_of_lt few
  simp only [validate, guard_error_eq_ok, ite_error_eq_ok, ne_eq, not_not,
    UInt64.not_lt, not_or, List.length_map, List.length_range, rounds, Nat.pow_eq,
    pure_eq_ok]
  constructor
  · rintro ⟨-, some, -⟩
    exact halvings.mp some
  · intro several
    exact ⟨positive, halvings.mpr several, roundsBounded, bounded, power, trivial,
      trivial, ⟨NonzeroGenerators.p_ne_zero, NonzeroGenerators.q_ne_zero⟩, trivial⟩

end Bulletproof.Parameters

/-- Generated tables are valid. -/
theorem DigitRange.Parameters.validate_generate [NonzeroSource S R]
    {base exponent : UInt64} {parameters : Parameters S}
    (gives : Sampling.Gives (R := R) (generate base exponent) parameters) :
    parameters.validate = .ok () := by
  obtain ⟨⟨⟩, checked, gives⟩ := gives.bind
  obtain ⟨pair, generated, gives⟩ := gives.bind
  obtain ⟨signatures, signed, gives⟩ := gives.bind
  obtain ⟨point, blinding, gives⟩ := gives.bind
  cases gives.pure
  obtain ⟨keyBase, keyDrawn, generated⟩ := generated.bind
  obtain ⟨secret, secretDrawn, generated⟩ := generated.bind
  cases generated.pure
  have three : secret.length = 3 := secretDrawn.length_times
  have signatureCount : signatures.length = base.toNat := by
    rw [← signed.mapM.length_eq, List.length_range]
  simp only [validate, bind_eq_ok, ite_throw_eq_ok, guard_eq_ok]
  refine ⟨(), checked.lift, ?_⟩
  simp [PsSignature.KeyPair.ofSecret, three, signatureCount, keyDrawn.g2_ne_zero,
    blinding.g1_ne_zero]

namespace IssuingPolicy

theorem le_pow_bitsFor (count : Nat) : count ≤ 2 ^ bitsFor count := by
  unfold bitsFor
  split
  · assumption
  · have below : count - 1 < 2 ^ ((count - 1).log2 + 1) := Nat.lt_log2_self
    omega

theorem bitsFor_lt {count : Nat} (fits : count ≤ 2 ^ 63) : bitsFor count < 64 := by
  unfold bitsFor
  split
  · decide
  · have few : (count - 1).log2 < 63 := (Nat.log2_lt (by omega)).mpr (by omega)
    omega

/-- The padding of a policy makes it valid, whatever the number of keys. -/
theorem validate_ofKeys {keys : List S.G1} {policy : IssuingPolicy S}
    (fits : keys.length ≤ 2 ^ 63) (gives : Sampling.Gives (R := R) (ofKeys keys) policy) :
    policy.validate = .ok () := by
  obtain ⟨-, gives⟩ := gives.guard
  obtain ⟨padding, drawn, gives⟩ := gives.bind
  cases gives.pure
  have few := bitsFor_lt fits
  have bits : (UInt64.ofNat (bitsFor keys.length)).toNat = bitsFor keys.length :=
    UInt64.toNat_ofNat_of_lt (Nat.lt_trans few (by decide))
  have count : (UInt64.ofNat keys.length).toNat = keys.length :=
    UInt64.toNat_ofNat_of_lt (Nat.lt_of_le_of_lt fits (by decide))
  have full : (keys ++ padding).length = 2 ^ bitsFor keys.length := by
    rw [List.length_append, drawn.length_times, Nat.pow_eq]
    exact Nat.add_sub_of_le (le_pow_bitsFor keys.length)
  rw [validate_eq_ok, OneOutOfMany.setSize?_eq_some]
  simp only [bits, count, full]
  exact ⟨⟨few, trivial⟩, le_pow_bitsFor keys.length⟩

end IssuingPolicy

theorem PublicParameters.elementsDecode [FaithfulEncoding S.G1] [FaithfulEncoding S.G2]
    (parameters : PublicParameters S) : parameters.ElementsDecode :=
  ⟨Json.decodes _, fun _ _ => Json.decodes _, fun _ _ => Json.decodes _, Json.decodes _⟩

/-- Whether values are proved over a single bit. -/
def SetupConfig.SingleBit (config : SetupConfig) : Prop :=
  config.engine = .bulletproof ∧ config.bitLength = 1

/-- A change of parameters after their setup. A list of keys that is held in
memory has at most half as many entries as there are words. -/
inductive Update (S : Suite) where
  | auditor (identity : Identity)
  | issuer (identity : Identity)
  | policy (keys : List S.G1) (fits : keys.length ≤ 2 ^ 63)

namespace Update

variable (R) in
def apply (parameters : PublicParameters S) : Update S → Sampling R (PublicParameters S)
  | auditor identity => return parameters.withAuditor identity
  | issuer identity => return parameters.withIssuer identity
  | policy keys _ => parameters.withPolicy keys

/-- Parameters in which the field of an update is as it is in others. -/
def restore (parameters others : PublicParameters S) : Update S → PublicParameters S
  | auditor _ => { parameters with auditor := others.auditor }
  | issuer _ => { parameters with issuers := others.issuers }
  | policy _ _ => { parameters with policy := others.policy }

end Update

namespace PublicParameters

variable (R) in
/-- Parameters that come from others by updates, one after the other. -/
inductive Updated (base : PublicParameters S) : PublicParameters S → Prop
  | refl : Updated base base
  | step {parameters next : PublicParameters S} (updated : Updated base parameters)
      {update : Update S} (gives : Sampling.Gives (update.apply R parameters) next) :
      Updated base next

/-- What holds of parameters from their setup on. -/
structure Maintained (config : SetupConfig) (parameters : PublicParameters S) : Prop where
  label : parameters.label = config.label
  pedersen : parameters.pedersen.length = 3 ∧ 0 ∉ parameters.pedersen
  engine : parameters.validateEngine = .ok () ↔ ¬ config.SingleBit
  precision : parameters.precision = defaultPrecision
  maxToken : parameters.computeMaxToken = parameters.maxToken
  policy : parameters.policy.keys = [] ∨ parameters.policy.validate = .ok ()

theorem maintained_of_setup [NonzeroGenerators S] [NonzeroSource S R]
    {config : SetupConfig} {parameters : PublicParameters S}
    (gives : Sampling.Gives (R := R) (setup config) parameters) :
    Maintained config parameters := by
  obtain ⟨pedersen, drawn, gives⟩ := gives.bind
  have bases : pedersen.length = 3 ∧ 0 ∉ pedersen := by
    refine ⟨drawn.length_times, fun zero => ?_⟩
    exact drawn.forall_times Sampling.Gives.g1_ne_zero 0 zero rfl
  cases engine : config.engine with
  | bulletproof =>
      simp only [engine] at gives
      obtain ⟨bits, derived, gives⟩ := gives.bind
      cases gives.pure
      have valid := Bulletproof.Parameters.validate_derive (during_eq_ok.mp derived.lift)
      refine ⟨rfl, bases, ?_, rfl, rfl, .inl rfl⟩
      simpa [validateEngine, SetupConfig.SingleBit, engine] using valid
  | membership =>
      simp only [engine] at gives
      obtain ⟨digits, generated, gives⟩ := gives.bind
      cases gives.pure
      have valid := DigitRange.Parameters.validate_generate generated.during
      refine ⟨rfl, bases, ?_, rfl, rfl, .inl rfl⟩
      simpa [validateEngine, SetupConfig.SingleBit, engine] using valid

/-- An update changes its own field only. -/
theorem restore_update {parameters next : PublicParameters S} {update : Update S}
    (gives : Sampling.Gives (update.apply R parameters) next) :
    update.restore next parameters = parameters := by
  cases update <;> simp only [Update.apply] at gives
  case auditor identity =>
      cases gives.pure
      rfl
  case issuer identity =>
      cases gives.pure
      rfl
  case policy keys fits =>
      obtain ⟨policy, -, gives⟩ := gives.bind
      cases gives.pure
      rfl

namespace Maintained

variable {config : SetupConfig} {base parameters next : PublicParameters S}

theorem update (maintained : Maintained config parameters) {update : Update S}
    (gives : Sampling.Gives (update.apply R parameters) next) :
    Maintained config next := by
  cases update <;> simp only [Update.apply] at gives
  case auditor identity =>
      cases gives.pure
      exact { maintained with }
  case issuer identity =>
      cases gives.pure
      exact { maintained with }
  case policy keys fits =>
      obtain ⟨policy, made, gives⟩ := gives.bind
      cases gives.pure
      exact { maintained with policy := .inr (IssuingPolicy.validate_ofKeys fits made) }

theorem updates (maintained : Maintained config base)
    (updated : Updated R base parameters) : Maintained config parameters := by
  induction updated with
  | refl => exact maintained
  | step _ gives inductionHypothesis => exact inductionHypothesis.update gives

/-- Nothing but a single bit keeps maintained parameters from being valid. -/
theorem validate_eq_ok_iff (maintained : Maintained config parameters) :
    parameters.validate = .ok () ↔ ¬ config.SingleBit := by
  rw [← maintained.engine]
  have policyPasses : (if parameters.policy.keys = [] then pure ()
      else parameters.policy.validate) = .ok () := by
    split
    · rfl
    · exact maintained.policy.resolve_left ‹_›
  simp [validate, maintained.pedersen, maintained.precision, maintained.maxToken,
    policyPasses, Unique.exists_iff]

end Maintained

/-- The registry reads the parameters of the scheme exactly if they are
valid. -/
theorem registry_parameters_eq_ok {parameters : PublicParameters S}
    (decodes : parameters.ElementsDecode) (label : parameters.label = schemeLabel) :
    Registry.standard.parameters parameters.serialize = .ok parameters ↔
      parameters.validate = .ok () := by
  have back : deserialize parameters.serialize schemeLabel = .ok parameters :=
    label ▸ decodes.deserialize_serialize
  have envelope : (Json.read parameters.serialize : Result Envelope) =
      .ok ⟨parameters.label, Json.write parameters⟩ :=
    Json.read_write _
  have found : (Registry.standard : Registry S).get parameters.label = .ok .standard := by
    simp [Registry.get, Registry.standard, label]
  have nonempty : parameters.serialize ≠ [] := Json.write_ne_nil _
  simp [Registry.parameters, envelope, found, nonempty, Driver.standard, back,
    Unique.exists_iff]

theorem ofParameters_eq_ok {parameters : PublicParameters S}
    {deserializer : Deserializer} :
    Validator.ofParameters parameters deserializer = .ok ⟨parameters, deserializer⟩ ↔
      parameters.validate = .ok () := by
  simp [Validator.ofParameters, Unique.exists_iff]

/-- Parameters that were set up, and updated any number of times, are valid,
read back by the registry and accepted by validators exactly if values are not
proved over a single bit; and no update changes a field that is not its own. -/
theorem updated_usable_iff [NonzeroGenerators S] [NonzeroSource S R]
    [FaithfulEncoding S.G1] [FaithfulEncoding S.G2] {config : SetupConfig}
    {base parameters : PublicParameters S} (label : config.label = schemeLabel)
    (gives : Sampling.Gives (R := R) (setup config) base)
    (updated : Updated R base parameters) :
    (parameters.validate = .ok () ↔ ¬ config.SingleBit) ∧
    (Registry.standard.parameters parameters.serialize = .ok parameters ↔
      ¬ config.SingleBit) ∧
    (∀ deserializer, Validator.ofParameters parameters deserializer =
      .ok ⟨parameters, deserializer⟩ ↔
      ¬ config.SingleBit) ∧
    ∀ (update : Update S) next, Sampling.Gives (update.apply R parameters) next →
      update.restore next parameters = parameters := by
  have maintained := (maintained_of_setup gives).updates updated
  have valid := maintained.validate_eq_ok_iff
  refine ⟨valid, ?_, fun deserializer => ofParameters_eq_ok.trans valid,
    fun update next made => ?_⟩
  · have sameLabel : parameters.label = schemeLabel := maintained.label.trans label
    exact (registry_parameters_eq_ok parameters.elementsDecode sameLabel).trans valid
  · exact restore_update made

end PublicParameters

namespace Bn254

instance : NonzeroGenerators suite :=
  ⟨by decide +kernel, by decide +kernel⟩

instance : NonzeroGenerators exponentSuite :=
  ⟨by decide +kernel, by decide +kernel⟩

instance : FaithfulEncoding exponentSuite.G2 :=
  inferInstanceAs (FaithfulEncoding Fr)

/-- The source that always gives one. -/
structure Ones where

instance : RandomSource exponentSuite Ones where
  scalar source := (1, source)
  g1 source := (1, source)
  g2 source := (1, source)
  fork source := (source, source)

instance : NonzeroSource exponentSuite Ones :=
  have one_ne_zero : (1 : Fr) ≠ 0 := by decide +kernel
  ⟨fun _ => one_ne_zero, fun _ => one_ne_zero⟩

end Bn254

namespace PublicParameters.Sample

open Bn254

/-- Parameters for one digit below two. -/
def base : PublicParameters exponentSuite :=
  Sampling.valueFrom (setup (.membership 2 1)) Ones.mk (by decide +kernel)

theorem base_given : Sampling.Gives (R := Ones) (setup (.membership 2 1)) base :=
  Sampling.gives_valueFrom _ _ _

/-- The parameters with an issuer, with an auditor, and with three anonymous
issuers. -/
def administered : PublicParameters exponentSuite :=
  Sampling.valueFrom (((base.withIssuer ⟨[1]⟩).withAuditor ⟨[2]⟩).withPolicy [3, 4, 5])
    Ones.mk (by decide +kernel)

theorem administered_updated : Updated Ones base administered := by
  have issuer :
      Sampling.Gives ((Update.issuer ⟨[1]⟩).apply Ones base) (base.withIssuer ⟨[1]⟩) :=
    ⟨Ones.mk, Ones.mk, rfl⟩
  have auditor :
    Sampling.Gives ((Update.auditor ⟨[2]⟩).apply Ones (base.withIssuer ⟨[1]⟩))
      ((base.withIssuer ⟨[1]⟩).withAuditor ⟨[2]⟩) :=
    ⟨Ones.mk, Ones.mk, rfl⟩
  have policy : Sampling.Gives
      ((.policy [3, 4, 5] (by decide) : Update exponentSuite).apply Ones
        ((base.withIssuer ⟨[1]⟩).withAuditor ⟨[2]⟩)) administered :=
    Sampling.gives_valueFrom _ _ _
  exact ((Updated.refl.step issuer).step auditor).step policy

theorem administered_usable :
    administered.validate = .ok () ∧
    Registry.standard.parameters administered.serialize = .ok administered ∧
    ∀ deserializer,
      Validator.ofParameters administered deserializer =
        .ok ⟨administered, deserializer⟩ := by
  obtain ⟨valid, registered, accepted, -⟩ :=
    updated_usable_iff rfl base_given administered_updated
  have digits : ¬ (SetupConfig.membership 2 1).SingleBit := by
    rintro ⟨⟨⟩, -⟩
  exact ⟨valid.mpr digits, registered.mpr digits, fun deserializer =>
    (accepted deserializer).mpr digits⟩

end PublicParameters.Sample

end ConfidentialToken
