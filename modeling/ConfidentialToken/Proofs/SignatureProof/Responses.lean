import ConfidentialToken.Proofs.Algebra.Placement
import ConfidentialToken.Proofs.Algebra.Vectors
import ConfidentialToken.Proofs.SignatureKnowledge.Extraction
import ConfidentialToken.SignatureProof

/-!
What a verifier of a signature proof recomputes.

The responses for the hidden messages and the multiples of the disclosed ones
are written at the places of the messages. If no place is written twice, the key
combines with the result as its parts for the hidden and for the disclosed
messages do.
-/

namespace ConfidentialToken.SignatureProof

open PsSignature SignatureKnowledge

variable {S : Suite}

section Place

variable {α : Type}

/-- A list with values written at indices of it, the last of equal indices
winning. -/
def placed (messages : List α) (entries : List (UInt64 × α)) : List α :=
  entries.foldl (fun messages entry => messages.set entry.1.toNat entry.2) messages

@[simp]
theorem length_placed (messages : List α) (entries : List (UInt64 × α)) :
    (placed messages entries).length = messages.length := by
  induction entries generalizing messages with
  | nil => rfl
  | cons entry entries inductionHypothesis =>
      rw [placed, List.foldl_cons, ← placed, inductionHypothesis, List.length_set]

theorem place_eq_ok {messages result : List α} {entries : List (UInt64 × α)} :
    place messages entries = .ok result ↔
      (∀ entry ∈ entries, entry.1.toNat < messages.length) ∧
        placed messages entries = result := by
  induction entries generalizing messages with
  | nil => simp [place, placed]
  | cons entry entries inductionHypothesis =>
      simp only [place, List.forall_mem_cons, and_assoc]
      split
      · rw [inductionHypothesis, List.length_set]
        exact (and_iff_right ‹_›).symm
      · simp [*]

theorem getD_placed {messages : List α} {entries : List (UInt64 × α)} {position : Nat}
    (elsewhere : ∀ entry ∈ entries, entry.1.toNat ≠ position) (default : α) :
    (placed messages entries).getD position default = messages.getD position default := by
  induction entries generalizing messages with
  | nil => rfl
  | cons entry entries inductionHypothesis =>
      obtain ⟨first, rest⟩ := List.forall_mem_cons.mp elsewhere
      rw [placed, List.foldl_cons, ← placed, inductionHypothesis rest,
        List.getD_eq_getElem?_getD, List.getElem?_set_ne first, ←
        List.getD_eq_getElem?_getD]

theorem forall_mem_zip_lt {indices : List UInt64} {values : List α} {bound : Nat}
    (lengths : values.length = indices.length) :
    (∀ entry ∈ indices.zip values, entry.1.toNat < bound) ↔
      ∀ index ∈ indices, index.toNat < bound := by
  have first : (indices.zip values).map Prod.fst = indices := List.map_fst_zip lengths.ge
  conv_rhs => rw [← first, List.forall_mem_map]

/-- Values at places of their own, where zeros stood, add their multiples of the
bases there. -/
theorem linearCombination_placed {F G : Type} [Field F] [AddCommGroup G] [Module F G]
    (bases : List G) {messages values : List F} {indices : List UInt64}
    (lengths : values.length = indices.length)
    (distinct : (indices.map UInt64.toNat).Nodup)
    (inRange : ∀ index ∈ indices, index.toNat < messages.length)
    (unset : ∀ index ∈ indices, messages.getD index.toNat 0 = 0) :
    linearCombination bases (placed messages (indices.zip values)) =
      linearCombination bases messages +
        linearCombination (indices.map fun index => bases.getD index.toNat 0) values := by
  induction indices generalizing messages values with
  | nil => simp [placed]
  | cons index indices inductionHypothesis =>
      obtain ⟨value, values, rfl⟩ := List.exists_cons_of_length_eq_add_one lengths
      obtain ⟨firstInRange, restInRange⟩ := List.forall_mem_cons.mp inRange
      obtain ⟨firstUnset, restUnset⟩ := List.forall_mem_cons.mp unset
      rw [List.map_cons, List.nodup_cons] at distinct
      have stillUnset : ∀ other ∈ indices,
          (messages.set index.toNat value).getD other.toNat 0 = 0 := by
        intro other membership
        have apart : index.toNat ≠ other.toNat := fun same =>
          distinct.1 (same ▸ List.mem_map_of_mem membership)
        rw [List.getD_eq_getElem?_getD,
          List.getElem?_set_ne apart, ← List.getD_eq_getElem?_getD]
        exact restUnset other membership
      have rest := inductionHypothesis (Nat.succ.inj lengths) distinct.2
        (by simpa using restInRange) stillUnset
      rw [List.zip_cons_cons, placed, List.foldl_cons, ← placed, rest,
        linearCombination_set bases firstInRange firstUnset, List.map_cons,
        linearCombination_cons, add_assoc]

end Place

/-- The responses for the key, given those for all messages. -/
def Proof.responses (proof : Proof S) (messages : List S.Scalar) : Responses S where
  challenge := proof.challenge
  signature := proof.signature
  messages := messages
  hash := proof.hash
  blindingFactor := proof.signatureBlinding

/-- The responses for the commitment. -/
def Proof.commitmentResponses (proof : Proof S) : List S.Scalar :=
  proof.hidden ++ [proof.commitmentBlinding]

namespace Statement

variable {statement : Statement S} {proof : Proof S}

/-- The parts of the key for the messages at indices. -/
def partsAt (statement : Statement S) (indices : List UInt64) : List S.G2 :=
  indices.map fun index => statement.parameters.keyParts.tail.getD index.toNat 0

/-- The number of messages that the key is for. -/
def messageCount (statement : Statement S) : Nat :=
  statement.parameters.keyParts.length - 2

/-- No message has two indices, and every index belongs to a message. -/
structure Indexed (statement : Statement S) : Prop where
  distinct :
    ((statement.hiddenIndices ++ statement.disclosedIndices).map UInt64.toNat).Nodup
  inRange : ∀ index ∈ statement.hiddenIndices ++ statement.disclosedIndices,
    index.toNat < statement.messageCount

/-- The messages have responses or are disclosed, and each has an index. -/
structure Fits (statement : Statement S) (proof : Proof S) : Prop where
  count : proof.hidden.length + statement.disclosed.length = statement.messageCount
  hidden : proof.hidden.length = statement.hiddenIndices.length
  disclosed : statement.disclosed.length = statement.disclosedIndices.length

theorem Fits.messageResponses_eq_ok (fits : statement.Fits proof)
    {responses : List S.Scalar} :
    statement.messageResponses proof = .ok responses ↔
      (∀ index ∈ statement.hiddenIndices ++ statement.disclosedIndices,
        index.toNat < statement.messageCount) ∧
      placed (placed (List.replicate statement.messageCount 0)
          (statement.hiddenIndices.zip proof.hidden))
        (statement.disclosedIndices.zip
          (statement.disclosed.map fun message => message * proof.challenge)) =
            responses := by
  have disclosed :
    (statement.disclosed.map fun message => message * proof.challenge).length =
      statement.disclosedIndices.length := by
    rw [List.length_map, fits.disclosed]
  simp only [messageResponses, messageCount, bind_eq_ok, place_eq_ok,
    List.length_replicate, List.forall_mem_append, forall_mem_zip_lt fits.hidden,
    forall_mem_zip_lt disclosed]
  constructor
  · rintro ⟨_, ⟨hiddenInRange, rfl⟩, disclosedInRange, rfl⟩
    rw [length_placed, List.length_replicate] at disclosedInRange
    exact ⟨⟨hiddenInRange, disclosedInRange⟩, rfl⟩
  · rintro ⟨⟨hiddenInRange, disclosedInRange⟩, rfl⟩
    refine ⟨_, ⟨hiddenInRange, rfl⟩, ?_, rfl⟩
    rwa [length_placed, List.length_replicate]

theorem recompute_eq_ok {first : FirstMessages S} :
    statement.recompute proof = .ok first ↔
      statement.Fits proof ∧
      Schnorr.recompute statement.pedersen
        ⟨statement.commitment, proof.commitmentResponses, proof.challenge⟩ =
          .ok first.commitment ∧
      ∃ responses, statement.messageResponses proof = .ok responses ∧
        statement.parameters.recompute (proof.responses responses) =
          .ok first.signature := by
  obtain ⟨commitment, signature⟩ := first
  simp only [recompute, guard_eq_ok, bind_eq_ok, during_eq_ok, pure_eq_ok,
    FirstMessages.mk.injEq, not_or, not_not]
  constructor
  · rintro ⟨⟨count, hidden, disclosed⟩, _, committed, responses, placed, _, recomputed,
      rfl, rfl⟩
    exact ⟨⟨count, hidden, disclosed⟩, committed, responses, placed, recomputed⟩
  · rintro ⟨⟨count, hidden, disclosed⟩, committed, responses, placed, recomputed⟩
    exact ⟨⟨count, hidden, disclosed⟩, _, committed, responses, placed, _, recomputed,
      rfl, rfl⟩

theorem verify_eq_ok :
    statement.verify proof = .ok () ↔
      proof.commitment = statement.commitment ∧
      ∃ first, statement.recompute proof = .ok first ∧
        statement.challenge proof.signature first = proof.challenge := by
  simp only [verify, guard_eq_ok, bind_eq_ok, ite_throw_eq_ok, pure_eq_ok, ne_eq, not_not,
    and_true]

/-- With an index for each message, the key combines with the responses as its
parts for the hidden and the disclosed messages do. -/
theorem Indexed.exists_messageResponses [BilinearPairing S] (indexed : statement.Indexed)
    (fits : statement.Fits proof) :
    ∃ responses, statement.messageResponses proof = .ok responses ∧
      responses.length = statement.messageCount ∧
      linearCombination statement.parameters.keyParts.tail responses =
        linearCombination (statement.partsAt statement.hiddenIndices) proof.hidden +
          proof.challenge •
            linearCombination (statement.partsAt statement.disclosedIndices)
              statement.disclosed := by
  obtain ⟨distinct, inRange⟩ := indexed
  rw [List.map_append, List.nodup_append'] at distinct
  obtain ⟨hiddenInRange, disclosedInRange⟩ := List.forall_mem_append.mp inRange
  set zeros := List.replicate statement.messageCount (0 : S.Scalar)
  have unset (place : Nat) : zeros.getD place 0 = 0 := by
    rw [List.getD_eq_getElem?_getD, List.getElem?_replicate]
    split <;> rfl
  refine ⟨_, fits.messageResponses_eq_ok.mpr ⟨inRange, rfl⟩, by simp, ?_⟩
  have untouched : ∀ index ∈ statement.disclosedIndices,
      (placed zeros (statement.hiddenIndices.zip proof.hidden)).getD index.toNat 0 =
        0 := by
    intro index membership
    rw [getD_placed, unset]
    intro entry among same
    exact distinct.2.2 (same ▸ List.mem_map_of_mem (List.of_mem_zip among).1)
      (List.mem_map_of_mem membership)
  rw [linearCombination_placed _ (by simpa using fits.disclosed) distinct.2.1
      (by simpa [zeros] using disclosedInRange) untouched,
    linearCombination_placed _ fits.hidden distinct.1
      (by simpa [zeros] using hiddenInRange)
      (fun index _ => unset index.toNat), linearCombination_replicate_zero, zero_add]
  simp only [mul_comm _ proof.challenge, linearCombination_map_mul, partsAt]

end Statement

end ConfidentialToken.SignatureProof
