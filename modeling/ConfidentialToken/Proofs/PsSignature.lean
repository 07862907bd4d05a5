import ConfidentialToken.Proofs.Algebra.Vectors
import ConfidentialToken.Proofs.Bn254.Exponents
import ConfidentialToken.Proofs.Sampling
import ConfidentialToken.PsSignature

/-!
What a valid signature is.

The public key is the secret key over a base of the second group, so that the
pairing equation of a signature is an equation between its two parts: the second
one is the first one times an exponent, which the secret key, the messages and
the hash determine. As the pairing does not degenerate, nothing but such pairs
passes.
-/

namespace ConfidentialToken.PsSignature

variable {S : Suite}

open Finset (range)

theorem VerificationKey.verifyWithHash_eq_ok {key : VerificationKey S}
    {messages : List S.Scalar} {hash : S.Scalar} {signature : Signature S} :
    key.verifyWithHash messages hash signature = .ok () ↔
      2 ≤ key.parts.length ∧ messages.length = key.parts.length - 2 ∧ signature.r ≠ 0 ∧
      S.pairingSum
        [(signature.r, keyValue key.parts messages hash), (-signature.s, key.base)] =
          0 := by
  simp only [verifyWithHash, ite_error_eq_ok, not_or, not_not, not_lt, and_assoc,
    and_true]

/-- The pairing equation of a signature, which also holds if both parts are
zero. -/
def VerificationKey.Certifies (key : VerificationKey S) (messages : List S.Scalar)
    (hash : S.Scalar) (signature : Signature S) : Prop :=
  S.pairingSum [(signature.r, keyValue key.parts messages hash),
    (-signature.s, key.base)] = 0

/-- A key pair for a number of messages: the public parts are the secret ones
over the base. -/
structure KeyPair.Matches (pair : KeyPair S) (count : Nat) : Prop where
  length : pair.secret.length = count + 2
  parts : pair.verification.parts = pair.secret.map fun part =>
    part • pair.verification.base

theorem KeyPair.matches_of_generate {R : Type} [RandomSource S R] {count : Nat}
    {pair : KeyPair S} (gives : Sampling.Gives (R := R) (generate count) pair) :
    pair.Matches count := by
  obtain ⟨base, -, gives⟩ := gives.bind
  obtain ⟨secret, drawn, gives⟩ := gives.bind
  cases gives.pure
  exact ⟨drawn.length_times, rfl⟩

section KeyValue

variable [LawfulG1 S] {G : Type} [AddCommGroup G] [Module S.Scalar G]

theorem keyValue_map_smul (secret messages : List S.Scalar) (hash : S.Scalar) (base : G) :
    keyValue (secret.map (· • base)) messages hash =
      keyValue secret messages hash • base := by
  have first : (secret.map (· • base)).headD 0 = secret.headD 0 • base := by
    cases secret <;> simp
  have last : (secret.map (· • base)).getLastD 0 = secret.getLastD 0 • base := by
    simp only [List.getLastD_eq_getLast?, List.getLast?_map]
    cases secret.getLast? <;> simp
  rw [keyValue, keyValue, first, last, ← List.map_tail, linearCombination_map_smul,
    dotProduct_comm, dotProduct_eq]
  simp only [add_smul, smul_eq_mul, mul_smul]

theorem keyValue_triple (constant part last message hash : S.Scalar) :
    keyValue [constant, part, last] [message] hash =
      constant + part * message + last * hash := by
  simp [keyValue, linearCombination, mul_comm]

theorem exists_parts {α : Type} {key : List α} {count : Nat}
    (length : key.length = count + 2) :
    ∃ constant parts last, key = constant :: (parts ++ [last]) ∧
      parts.length = count := by
  obtain ⟨constant, rest, rfl⟩ := List.exists_cons_of_length_eq_add_one length
  have restLength : rest.length = count + 1 := Nat.succ.inj length
  have nonempty : rest ≠ [] := List.ne_nil_of_length_eq_add_one restLength
  refine ⟨constant, rest.dropLast, rest.getLast nonempty, ?_, ?_⟩
  · rw [List.dropLast_append_getLast]
  · rw [List.length_dropLast, restLength, Nat.add_sub_cancel]

theorem keyValue_parts (constant last : G) {parts : List G} {messages : List S.Scalar}
    (lengths : parts.length = messages.length) (hash : S.Scalar) :
    keyValue (constant :: (parts ++ [last])) messages hash =
      constant + linearCombination parts messages + hash • last := by
  have covered := linearCombination_append [last] [] lengths
  rw [List.append_nil, linearCombination_nil, add_zero] at covered
  have final : (constant :: (parts ++ [last])).getLastD 0 = last := by
    simp [List.getLastD_eq_getLast?, List.getLast?_cons]
  rw [keyValue, List.headD_cons, List.tail_cons, covered, final]

/-- The exponent between the two parts of a signature: the constant part of the
secret key, its parts for the messages times these, and its last part times the
hash. -/
def exponent (secret messages : List S.Scalar) (hash : S.Scalar) : S.Scalar :=
  secret.getD 0 0 +
    ∑ index ∈ range messages.length, secret.getD (index + 1) 0 * messages.getD index 0 +
    secret.getD (messages.length + 1) 0 * hash

theorem keyValue_eq_exponent {secret messages : List S.Scalar}
    (length : secret.length = messages.length + 2) (hash : S.Scalar) :
    keyValue secret messages hash = exponent secret messages hash := by
  obtain ⟨constant, parts, last, rfl, partsLength⟩ := exists_parts length
  have first : (constant :: (parts ++ [last])).getD 0 0 = constant := rfl
  have final : (constant :: (parts ++ [last])).getD (messages.length + 1) 0 = last := by
    simp [← partsLength]
  have middle : linearCombination parts messages = ∑ index ∈ range messages.length,
      (constant :: (parts ++ [last])).getD (index + 1) 0 * messages.getD index 0 := by
    rw [← dotProduct_eq, dotProduct_comm, Finset.sum_range]
    obtain ⟨count, messagesLength⟩ : ∃ count, messages.length = count := ⟨_, rfl⟩
    obtain ⟨parts, rfl⟩ := exists_ofFn (partsLength.trans messagesLength)
    obtain ⟨messages, rfl⟩ := exists_ofFn messagesLength
    rw [dotProduct_ofFn, List.length_ofFn]
    refine Finset.sum_congr rfl fun index _ => ?_
    simp
  rw [keyValue_parts _ _ partsLength, exponent, first, final, middle, smul_eq_mul,
    mul_comm hash]

end KeyValue

namespace KeyPair.Matches

variable {pair : KeyPair S} {count : Nat} {messages : List S.Scalar} {hash : S.Scalar}
  {signature : Signature S}

theorem eq_ofSecret (matching : pair.Matches count) :
    pair = ofSecret pair.verification.base pair.secret := by
  obtain ⟨secret, parts, base⟩ := pair
  have overBase : parts = secret.map fun part => part • base := matching.parts
  rw [overBase]
  rfl

/-- Whether a signature is valid is decided by its equation. -/
theorem verifyWithHash_iff_certifies (matching : pair.Matches count) :
    pair.verification.verifyWithHash messages hash signature = .ok () ↔
      messages.length = count ∧ signature.r ≠ 0 ∧
        pair.verification.Certifies messages hash signature := by
  have length : pair.verification.parts.length = count + 2 := by
    rw [matching.parts, List.length_map, matching.length]
  rw [VerificationKey.verifyWithHash_eq_ok, length, Nat.add_sub_cancel]
  exact and_iff_right (Nat.le_add_left 2 count)

theorem run_sign {R : Type} [RandomSource S R] (matching : pair.Matches count)
    (length : messages.length = count) {source rest : R} {r : S.G1}
    (drawn : RandomSource.g1 source = (r, rest)) :
    pair.sign messages source = .ok (pair.signWith messages r, rest) := by
  have counted : ¬ messages.length ≠ pair.secret.length - 2 := by
    rw [matching.length, Nat.add_sub_cancel]
    exact not_not.mpr length
  rw [sign, if_neg counted]
  exact Sampling.run_bind_eq_ok.mpr ⟨r, rest, congrArg Except.ok drawn, rfl⟩

end KeyPair.Matches

section Bilinear

variable [BilinearPairing S]

/-- The equation of a signature compares its second part with a multiple of the
first one. -/
theorem certifies_ofSecret (base : S.G2) (secret messages : List S.Scalar)
    (hash : S.Scalar) (signature : Signature S) :
    (KeyPair.ofSecret base secret).verification.Certifies messages hash signature ↔
      Suite.pairing (keyValue secret messages hash • signature.r - signature.s) base =
        0 := by
  rw [VerificationKey.Certifies, KeyPair.ofSecret, keyValue_map_smul, pairingSum_pair,
    pairing_neg_left, pairing_sub_left, BilinearPairing.pairing_smul_left,
    BilinearPairing.pairing_smul_right, sub_eq_add_neg]

theorem VerificationKey.Certifies.scale {key : VerificationKey S}
    {messages : List S.Scalar} {hash : S.Scalar} {signature : Signature S}
    (certified : key.Certifies messages hash signature) (factor : S.Scalar) :
    key.Certifies messages hash (signature.scale factor) := by
  rw [Certifies, pairingSum_pair, pairing_neg_left] at certified ⊢
  rw [Signature.scale, BilinearPairing.pairing_smul_left,
    BilinearPairing.pairing_smul_left, ← smul_neg, ← smul_add, certified, smul_zero]

/-- A signature that satisfies the equation of the parts satisfies the one of
the pairing. -/
theorem KeyPair.Matches.certifies_of_eq {pair : KeyPair S} {count : Nat}
    {messages : List S.Scalar} {hash : S.Scalar} {signature : Signature S}
    (matching : pair.Matches count) (length : messages.length = count)
    (equation : signature.s = exponent pair.secret messages hash • signature.r) :
    pair.verification.Certifies messages hash signature := by
  rw [matching.eq_ofSecret, certifies_ofSecret,
    keyValue_eq_exponent (length ▸ matching.length), ←
      equation, pairing_sub_left, sub_self]

end Bilinear

namespace KeyPair.Matches

variable [LawfulPairing S] {pair : KeyPair S} {count : Nat} {messages : List S.Scalar}
  {hash : S.Scalar} {signature : Signature S}

theorem verifyWithHash_iff (matching : pair.Matches count)
    (nonzero : pair.verification.base ≠ 0) :
    pair.verification.verifyWithHash messages hash signature = .ok () ↔
      messages.length = count ∧ signature.r ≠ 0 ∧
        signature.s = exponent pair.secret messages hash • signature.r := by
  rw [matching.verifyWithHash_iff_certifies]
  refine and_congr_right fun length => and_congr_right fun _ =>
      ⟨fun certified => ?_, fun equation =>
    matching.certifies_of_eq length equation⟩
  rw [matching.eq_ofSecret, certifies_ofSecret,
    keyValue_eq_exponent (length ▸ matching.length)] at certified
  exact (sub_eq_zero.mp
    ((LawfulPairing.pairing_eq_zero _ _ certified).resolve_right nonzero)).symm

theorem verify_signWith (matching : pair.Matches count)
    (nonzero : pair.verification.base ≠ 0) (length : messages.length = count)
    (r : S.G1) :
    pair.verification.verify messages (pair.signWith messages r) = .ok () ↔ r ≠ 0 := by
  have value := keyValue_eq_exponent (length ▸ matching.length) (hashMessages messages)
  rw [VerificationKey.verify, matching.verifyWithHash_iff nonzero]
  constructor
  · rintro ⟨-, fresh, -⟩
    exact fresh
  · intro fresh
    exact ⟨length, fresh, congrArg (· • r) value⟩

theorem verifyWithHash_scale (matching : pair.Matches count)
    (nonzero : pair.verification.base ≠ 0) {factor : S.Scalar} (invertible : factor ≠ 0) :
    pair.verification.verifyWithHash messages hash (signature.scale factor) = .ok () ↔
      pair.verification.verifyWithHash messages hash signature = .ok () := by
  rw [matching.verifyWithHash_iff nonzero, matching.verifyWithHash_iff nonzero,
    Signature.scale]
  refine and_congr_right fun _ => and_congr ?_ ?_
  · rw [ne_eq, smul_eq_zero, not_or, and_iff_right invertible]
  · rw [smul_comm]
    exact (smul_right_injective _ invertible).eq_iff

/-- A valid signature is one on all messages with the same exponent. -/
theorem verifyWithHash_iff_exponent_eq (matching : pair.Matches count)
    (nonzero : pair.verification.base ≠ 0)
    (valid : pair.verification.verifyWithHash messages hash signature = .ok ())
    (otherMessages : List S.Scalar) (otherHash : S.Scalar) :
    pair.verification.verifyWithHash otherMessages otherHash signature = .ok () ↔
      otherMessages.length = count ∧
        exponent pair.secret otherMessages otherHash =
          exponent pair.secret messages hash := by
  rw [matching.verifyWithHash_iff nonzero] at valid ⊢
  obtain ⟨-, fresh, equation⟩ := valid
  rw [and_iff_right fresh, equation]
  exact and_congr_right fun _ => (smul_left_injective S.Scalar fresh).eq_iff.trans eq_comm

/-- With a key whose base is not zero exactly the pairs pass whose first part is
not zero and whose second part is its multiple by the exponent. So fresh
signatures pass unless their first part is zero, multiples pass like what they
are multiples of, and a signature passes for other messages exactly if these
have the same exponent. -/
theorem verifies_iff_exponent {R : Type} [RandomSource S R]
    (matching : pair.Matches count) (nonzero : pair.verification.base ≠ 0) :
    (∀ (messages : List S.Scalar) (hash : S.Scalar) (r s : S.G1),
      pair.verification.verifyWithHash messages hash ⟨r, s⟩ = .ok () ↔
        messages.length = count ∧ r ≠ 0 ∧ s = exponent pair.secret messages hash • r) ∧
    (∀ messages : List S.Scalar, messages.length = count → ∀ source : R, ∃ signature rest,
      pair.sign messages source = .ok (signature, rest) ∧
      (pair.verification.verify messages signature = .ok () ↔ signature.r ≠ 0)) ∧
    (∀ (signature : Signature S) (source : R), ∃ factor rest,
      RandomSource.scalar source = (factor, rest) ∧
      signature.randomize source = .ok (signature.scale factor, rest) ∧
      (factor ≠ 0 → ∀ (messages : List S.Scalar) (hash : S.Scalar),
        pair.verification.verifyWithHash messages hash (signature.scale factor) = .ok () ↔
          pair.verification.verifyWithHash messages hash signature = .ok ())) ∧
    ∀ (messages otherMessages : List S.Scalar) (hash otherHash : S.Scalar)
        (signature : Signature S),
      pair.verification.verifyWithHash messages hash signature = .ok () →
      (pair.verification.verifyWithHash otherMessages otherHash signature = .ok () ↔
        otherMessages.length = count ∧
          exponent pair.secret otherMessages otherHash =
            exponent pair.secret messages hash) := by
  refine ⟨?_, ?_, ?_, ?_⟩
  · intro messages hash r s
    exact matching.verifyWithHash_iff nonzero
  · intro messages length source
    obtain ⟨⟨r, rest⟩, drawn⟩ : ∃ drawn, RandomSource.g1 (S := S) source = drawn :=
      ⟨_, rfl⟩
    exact ⟨pair.signWith messages r, rest, matching.run_sign length drawn,
      matching.verify_signWith nonzero length r⟩
  · intro signature source
    refine ⟨(RandomSource.scalar source).1, (RandomSource.scalar source).2, rfl, rfl, ?_⟩
    intro invertible messages hash
    exact matching.verifyWithHash_scale nonzero invertible
  · intro messages otherMessages hash otherHash signature valid
    exact matching.verifyWithHash_iff_exponent_eq nonzero valid otherMessages otherHash

/-- The exponent of a key is the same for the message `13` with the hash `0` as
for the message `2` with the hash `5`. -/
theorem verifies_sample :
    let pair : KeyPair Bn254.exponentSuite := .ofSecret 7 [3, 5, 11]
    let verified (message hash r s : Bn254.Fr) :=
      pair.verification.verifyWithHash [message] hash ⟨r, s⟩
    pair.Matches 1 ∧ pair.verification.base ≠ 0 ∧
    verified 13 0 9 612 = .ok () ∧ verified 2 5 9 612 = .ok () ∧
    verified 2 4 9 612 ≠ .ok () ∧
    verified 2 5 0 0 ≠ .ok () ∧ verified 2 5 18 1224 = .ok () ∧
    (∃ signature rest, pair.sign [2] (⟨1⟩ : Bn254.Counter) = .ok (signature, rest) ∧
      (pair.verification.verify [2] signature = .ok () ↔ signature.r ≠ 0)) := by
  intro pair verified
  have matching : pair.Matches 1 := ⟨rfl, rfl⟩
  have nonzero : pair.verification.base ≠ 0 := by decide +kernel
  obtain ⟨valid, signed, scaled, same⟩ :=
    verifies_iff_exponent (R := Bn254.Counter) matching nonzero
  have first : verified 13 0 9 612 = .ok () :=
    (valid [13] 0 9 612).mpr ⟨rfl, by decide +kernel, by decide +kernel⟩
  have second : verified 2 5 9 612 = .ok () :=
    (same [13] [2] 0 5 ⟨9, 612⟩ first).mpr ⟨rfl, by decide +kernel⟩
  refine ⟨matching, nonzero, first, second, fun other => ?_, fun zero => ?_, ?_,
    signed [2] rfl ⟨1⟩⟩
  · exact absurd ((same [13] [2] 0 4 ⟨9, 612⟩ first).mp other).2 (by decide +kernel)
  · exact ((valid [2] 5 0 0).mp zero).2.1 rfl
  · obtain ⟨factor, rest, drawn, -, alike⟩ := scaled ⟨9, 612⟩ (⟨2⟩ : Bn254.Counter)
    obtain ⟨rfl, -⟩ := Prod.mk.inj drawn
    exact (alike (by decide +kernel) [2] 5).mpr second

end KeyPair.Matches

end ConfidentialToken.PsSignature
