import Mathlib.Algebra.Order.Ring.Nat
import Mathlib.Data.Nat.Digits.Defs
import ConfidentialToken.Proofs.Algebra.Vectors
import ConfidentialToken.Proofs.MembershipProof.Completeness
import ConfidentialToken.DigitRange.RangeProof

/-!
What generated tables of signed digits are good for.

Every digit is signed, and the values up to the greatest one have as many digits
as a proof covers.
-/

namespace ConfidentialToken.DigitRange

open PsSignature

variable {S : Suite}

/-- The shape of a table: there are at least two digits and one place, and a
power of the base is a word. -/
structure Shape (base exponent power : UInt64) : Prop where
  two_le : 2 ≤ base.toNat
  positive : 0 < exponent.toNat
  power_eq : power.toNat = base.toNat ^ exponent.toNat

theorem exponent_lt_of_pow_lt {base exponent : Nat} (two_le : 2 ≤ base)
    (bounded : base ^ exponent < UInt64.size) : exponent < 64 := by
  have grows : 2 ^ exponent ≤ base ^ exponent := Nat.pow_le_pow_left two_le exponent
  exact (Nat.pow_lt_pow_iff_right (by decide)).mp (Nat.lt_of_le_of_lt grows bounded)

theorem wordPower?_eq_some_iff {base power : UInt64} {exponent : Nat}
    (two_le : 2 ≤ base.toNat) :
    wordPower? base exponent = some power ↔ power.toNat = base.toNat ^ exponent := by
  have large : ¬ base < 2 := UInt64.not_lt.mpr two_le
  simp only [wordPower?, large, if_false, Option.ite_none_right_eq_some,
    Option.some.injEq, Nat.pow_eq]
  constructor
  · rintro ⟨fits, rfl⟩
    have few := exponent_lt_of_pow_lt two_le fits
    have all : min exponent 64 = exponent := by omega
    rw [all] at fits ⊢
    exact UInt64.toNat_ofNat_of_lt fits
  · intro equal
    have few := exponent_lt_of_pow_lt two_le (equal ▸ power.toNat_lt)
    rw [Nat.min_eq_left few.le, ← equal]
    exact ⟨power.toNat_lt, UInt64.ofNat_toNat⟩

theorem checkShape_eq_ok {base exponent : UInt64} :
    checkShape base exponent = .ok () ↔ ∃ power, Shape base exponent power := by
  simp only [checkShape, guard_eq_ok, ite_throw_eq_ok, not_or, Nat.not_le, pure_eq_ok,
    and_true]
  constructor
  · rintro ⟨⟨large, nonzero⟩, -, found⟩
    have two_le : 2 ≤ base.toNat := UInt64.not_lt.mp large
    obtain ⟨power, found⟩ := Option.ne_none_iff_exists'.mp found
    refine ⟨power, two_le, Nat.pos_of_ne_zero fun zero =>
      nonzero (UInt64.toNat_inj.mp zero), ?_⟩
    exact (wordPower?_eq_some_iff two_le).mp found
  · rintro ⟨power, two_le, positive, power_eq⟩
    have few := exponent_lt_of_pow_lt two_le (power_eq ▸ power.toNat_lt)
    have found := (wordPower?_eq_some_iff two_le).mpr power_eq
    refine ⟨⟨UInt64.not_lt.mpr two_le, ?_⟩, few.trans (by decide), by simp [found]⟩
    rintro rfl
    exact Nat.lt_irrefl 0 positive

theorem length_digitsOf (base : UInt64) (count : Nat) (value : UInt64) :
    (digitsOf base count value).length = count := by
  induction count generalizing value with
  | zero => rfl
  | succ count inductionHypothesis => rw [digitsOf, List.length_cons, inductionHypothesis]

namespace Parameters

theorem checkShape_of_validate {parameters : Parameters S}
    (valid : parameters.validate = .ok ()) :
    checkShape parameters.base parameters.exponent = .ok () := by
  obtain ⟨⟨⟩, checked, -⟩ := bind_eq_ok.mp valid
  exact checked

/-- The greatest value has all digits, and each of them is the greatest one. -/
theorem toNat_maxValue {parameters : Parameters S}
    (checked : checkShape parameters.base parameters.exponent = .ok ()) :
    parameters.maxValue.toNat =
      parameters.base.toNat ^ parameters.exponent.toNat - 1 := by
  obtain ⟨power, shape⟩ := checkShape_eq_ok.mp checked
  have one_le : 1 ≤ power := by
    rw [UInt64.le_iff_toNat_le, shape.power_eq]
    exact Nat.pow_pos (Nat.lt_of_lt_of_le Nat.two_pos shape.two_le)
  have few := exponent_lt_of_pow_lt shape.two_le (shape.power_eq ▸ power.toNat_lt)
  have found := (wordPower?_eq_some_iff shape.two_le).mpr shape.power_eq
  simp only [maxValue, Nat.mod_eq_of_lt (few.trans (by decide : 64 < UInt32.size)), found]
  rw [UInt64.toNat_sub_of_le _ _ one_le, UInt64.toNat_one, shape.power_eq]

theorem lt_of_le_maxValue {parameters : Parameters S} {value : UInt64}
    (checked : checkShape parameters.base parameters.exponent = .ok ())
    (within : value ≤ parameters.maxValue) :
    value.toNat < parameters.base.toNat ^ parameters.exponent.toNat := by
  obtain ⟨_, shape⟩ := checkShape_eq_ok.mp checked
  have positive : 0 < parameters.base.toNat ^ parameters.exponent.toNat :=
    Nat.pow_pos (Nat.lt_of_lt_of_le Nat.two_pos shape.two_le)
  rw [UInt64.le_iff_toNat_le, toNat_maxValue checked] at within
  omega

/-- The key under which digits are signed. -/
def key (parameters : Parameters S) : VerificationKey S :=
  ⟨parameters.keyParts, parameters.keyBase⟩

/-- The signature at an index is one on the index. -/
def Certified (parameters : Parameters S) : Prop :=
  ∀ (digit : Nat) (signature : Signature S),
    parameters.signatures[digit]? = some signature →
    parameters.key.Certifies [ScalarOperations.ofNat digit]
      (hashMessages [(ScalarOperations.ofNat digit : S.Scalar)]) signature

/-- The table of a key with the given parts: the entry at an index is a
signature on the index. -/
structure SignedUnder (parameters : Parameters S) (constant message hash : S.Scalar) :
    Prop where
  keyParts :
    parameters.keyParts = [constant • parameters.keyBase, message • parameters.keyBase,
    hash • parameters.keyBase]
  length : parameters.signatures.length = parameters.base.toNat
  signed : ∀ (digit : Nat) (signature : Signature S),
    parameters.signatures[digit]? = some signature →
    signature.s = (constant + message * ScalarOperations.ofNat digit +
      hash * hashMessages [(ScalarOperations.ofNat digit : S.Scalar)]) • signature.r

theorem SignedUnder.certified [BilinearPairing S] {parameters : Parameters S}
    {constant message hash : S.Scalar}
    (signedUnder : parameters.SignedUnder constant message hash) :
    parameters.Certified := by
  intro digit signature found
  have key : parameters.key =
      (KeyPair.ofSecret parameters.keyBase [constant, message, hash]).verification := by
    rw [key, signedUnder.keyParts]
    rfl
  rw [key, certifies_ofSecret, keyValue_triple, ← signedUnder.signed digit signature
    found, pairing_sub_left, sub_self]

/-- A fresh table is the one of the key that has been drawn for it. -/
theorem signedUnder_of_run [LawfulG1 S] {R : Type} [RandomSource S R]
    {base exponent : UInt64} {parameters : Parameters S} {source rest : R}
    (run : generate base exponent source = .ok (parameters, rest)) :
    parameters.base = base ∧ parameters.exponent = exponent ∧
    ∃ constant message hash following,
      KeyPair.generate 1 source =
        .ok (.ofSecret parameters.keyBase [constant, message, hash], following) ∧
      parameters.SignedUnder constant message hash := by
  obtain ⟨⟨⟩, _, checked, run⟩ := Sampling.run_bind_eq_ok.mp run
  obtain ⟨-, rfl⟩ := Sampling.run_lift_eq_ok.mp checked
  obtain ⟨pair, following, generated, run⟩ := Sampling.run_bind_eq_ok.mp run
  obtain ⟨signatures, after, signed, run⟩ := Sampling.run_bind_eq_ok.mp run
  obtain ⟨point, last, -, run⟩ := Sampling.run_bind_eq_ok.mp run
  obtain ⟨rfl, -⟩ := Sampling.run_pure_eq_ok.mp run
  have matching := KeyPair.matches_of_generate (Sampling.gives_of_run generated)
  obtain ⟨constant, message, hash, secret⟩ := List.length_eq_three.mp matching.length
  have made := (Sampling.gives_of_run signed).mapM
  refine ⟨rfl, rfl, constant, message, hash, following, ?_, ?_, ?_, ?_⟩
  · rw [← secret, ← matching.eq_ofSecret]
    exact generated
  · rw [matching.parts, secret]
    rfl
  · rw [← made.length_eq, List.length_range]
  · intro digit signature found
    obtain ⟨bound, rfl⟩ := List.getElem?_eq_some_iff.mp found
    have inRange : digit < (List.range base.toNat).length := made.length_eq.symm ▸ bound
    have given := made.get inRange bound
    simp only [List.get_eq_getElem, List.getElem_range] at given
    obtain ⟨-, given⟩ := given.guard
    obtain ⟨r, -, given⟩ := given.bind
    rw [← given.pure, KeyPair.signWith, secret, keyValue_triple]

theorem certified_of_generate [BilinearPairing S] {R : Type} [RandomSource S R]
    {base exponent : UInt64} {parameters : Parameters S}
    (gives : Sampling.Gives (R := R) (generate base exponent) parameters) :
    parameters.Certified := by
  obtain ⟨source, rest, run⟩ := gives
  obtain ⟨-, -, constant, message, hash, -, -, signedUnder⟩ := signedUnder_of_run run
  exact signedUnder.certified

theorem succeeds_generate {R : Type} [RandomSource S R] {base exponent : UInt64}
    (checked : checkShape base exponent = .ok ()) :
    Sampling.Succeeds (R := R) (generate (S := S) base exponent) := by
  have generated : Sampling.Succeeds (R := R) (KeyPair.generate (S := S) 1) :=
    Sampling.Succeeds.bind (fun _ => ⟨_, _, rfl⟩) fun _ =>
      Sampling.succeeds_scalars.bind fun _ => Sampling.succeeds_pure _
  refine (Sampling.succeeds_lift checked).bind fun _ =>
    generated.bind_gives fun pair given => ?_
  have counted := (KeyPair.matches_of_generate given).length
  refine (Sampling.succeeds_mapM fun digit => ?_).bind fun signatures =>
    Sampling.Succeeds.bind (fun _ => ⟨_, _, rfl⟩) fun _ => Sampling.succeeds_pure _
  rw [KeyPair.sign, if_neg (by simp [counted])]
  exact Sampling.Succeeds.bind (fun _ => ⟨_, _, rfl⟩) fun _ => Sampling.succeeds_pure _

end Parameters

/-- Digits, weighted with the powers of the base, add up to the number that they
spell. -/
theorem dotProduct_ofDigits [LawfulG1 S] (base : Nat) (digits : List Nat) :
    dotProduct (digits.map (ScalarOperations.ofNat : Nat → S.Scalar))
        (powers (ScalarOperations.ofNat base) digits.length) =
      ScalarOperations.ofNat (Nat.ofDigits base digits) := by
  induction digits with
  | nil => simp [dotProduct, ofNat_eq_natCast]
  | cons digit digits inductionHypothesis =>
      rw [dotProduct_comm, dotProduct_eq] at inductionHypothesis ⊢
      rw [List.length_cons, List.map_cons, powers_succ, linearCombination_cons,
        linearCombination_map_mul, inductionHypothesis]
      simp [ofNat_eq_natCast, Nat.ofDigits_cons]

theorem ofDigits_digitsOf {base : UInt64} {count : Nat} {value : UInt64}
    (bounded : value.toNat < base.toNat ^ count) :
    Nat.ofDigits base.toNat ((digitsOf base count value).map UInt64.toNat) =
      value.toNat := by
  induction count generalizing value with
  | zero =>
      have zero : value.toNat = 0 := by simpa using bounded
      simp [digitsOf, zero]
  | succ count inductionHypothesis =>
      have rest : (value / base).toNat < base.toNat ^ count := by
        rw [UInt64.toNat_div]
        exact Nat.div_lt_of_lt_mul (by rwa [Nat.pow_succ'] at bounded)
      rw [digitsOf, List.map_cons, Nat.ofDigits_cons, inductionHypothesis rest,
        UInt64.toNat_mod, UInt64.toNat_div]
      exact Nat.mod_add_div _ _

theorem dotProduct_digitsOf [LawfulG1 S] {base : UInt64} {count : Nat}
    {value : UInt64} (bounded : value.toNat < base.toNat ^ count) :
    dotProduct ((digitsOf base count value).map (wordScalar (S := S)))
      (powers (wordScalar base) count) = wordScalar value := by
  have spelled := dotProduct_ofDigits (S := S) base.toNat
    ((digitsOf base count value).map UInt64.toNat)
  rwa [List.map_map, List.length_map, length_digitsOf, ofDigits_digitsOf bounded]
    at spelled

end ConfidentialToken.DigitRange
