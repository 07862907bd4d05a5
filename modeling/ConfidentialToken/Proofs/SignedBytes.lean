import ConfidentialToken.Proofs.HashLock
import ConfidentialToken.Proofs.Json.Delimited

/-!
What a signature on a request, and one on a claim, is about.

The signed bytes are a JSON object with a text appended to it, and nothing marks
where the one ends and the other begins. They determine both all the same: the
actions, their order, what is an issue and what a transfer, and the text. The
signatures that a request already bears are not among them.

Who claims a locked token signs these bytes with the preimage appended to them.
The request ends by itself, but nothing marks where the text ends that binds it
to a transaction and where the preimage begins. A text can therefore be moved
from one to the other without a change of the message, and nothing else can.
-/

namespace ConfidentialToken.TokenRequest

open Json

theorem unsignedBytes_append_inj {first second : TokenRequest} {rest otherRest : Bytes} :
    first.unsignedBytes ++ rest = second.unsignedBytes ++ otherRest ↔
      (first.issues = second.issues ∧ first.transfers = second.transfers) ∧
        rest = otherRest := by
  have objects (request : TokenRequest) : ∃ members, toJson request = .object members :=
    ⟨_, rfl⟩
  rw [unsignedBytes, unsignedBytes, serialize, serialize, write_append_inj objects]
  simp

/-- Two requests are signed by the same bytes exactly if they have the same
issues and the same transfers and are bound to the same text. -/
theorem messageToSign_eq_iff {first second : TokenRequest} {binding other : String} :
    first.messageToSign binding = second.messageToSign other ↔
      first.issues = second.issues ∧ first.transfers = second.transfers ∧
        binding = other := by
  rw [messageToSign, messageToSign, unsignedBytes_append_inj, Bytes.ofText_inj, and_assoc]

end ConfidentialToken.TokenRequest

namespace ConfidentialToken.HashLock

theorem Lock.image_eq_iff {lock : Lock} {preimage other : Bytes} :
    lock.image preimage = lock.image other ↔
      Sha256.digest preimage = Sha256.digest other := by
  unfold image
  cases lock.function
  cases lock.form with
  | raw => rfl
  | hexadecimal => exact Hex.encode_inj

/-- A text has been moved from the beginning of a preimage to the end of a
binding. -/
def TextMoved (binding : String) (preimage : Bytes) (other : String)
    (otherPreimage : Bytes) : Prop :=
  ∃ text, other = binding ++ text ∧ preimage = Bytes.ofText text ++ otherPreimage

variable {binding other : String} {preimage otherPreimage : Bytes}

theorem textMoved_iff :
    TextMoved binding preimage other otherPreimage ↔
      ∃ moved, Bytes.ofText other = Bytes.ofText binding ++ moved ∧
        preimage = moved ++ otherPreimage := by
  constructor
  · rintro ⟨text, rfl, rfl⟩
    exact ⟨_, Bytes.ofText_append binding text, rfl⟩
  · rintro ⟨moved, longer, rfl⟩
    obtain ⟨text, rfl, rfl⟩ := Bytes.ofText_eq_append_iff.mp longer
    exact ⟨text, rfl, rfl⟩

/-- A binding with a preimage appended to it is one of another binding and
another preimage only if the two differ by a text that has been moved. -/
theorem append_eq_append_iff_textMoved :
    Bytes.ofText binding ++ preimage = Bytes.ofText other ++ otherPreimage ↔
      TextMoved binding preimage other otherPreimage ∨
        TextMoved other otherPreimage binding preimage := by
  rw [List.append_eq_append_iff, textMoved_iff, textMoved_iff]

theorem TextMoved.eq_of_length (moved : TextMoved binding preimage other otherPreimage)
    (kept : (Bytes.ofText binding).length = (Bytes.ofText other).length ∨
      preimage.length = otherPreimage.length) :
    binding = other ∧ preimage = otherPreimage := by
  obtain ⟨text, rfl, rfl⟩ := moved
  have empty : Bytes.ofText text = [] := by
    rw [← List.length_eq_zero_iff]
    rw [Bytes.ofText_append, List.length_append, List.length_append] at kept
    omega
  constructor
  · rw [← Bytes.ofText_inj, Bytes.ofText_append, empty, List.append_nil]
  · rw [empty, List.nil_append]

namespace ClaimSignature

variable {first second : TokenRequest}

theorem signedMessage_eq_iff :
    signedMessage (first.messageToSign binding) preimage =
        signedMessage (second.messageToSign other) otherPreimage ↔
      (first.issues = second.issues ∧ first.transfers = second.transfers) ∧
        (TextMoved binding preimage other otherPreimage ∨
          TextMoved other otherPreimage binding preimage) := by
  simp only [signedMessage, TokenRequest.messageToSign, List.append_assoc,
    TokenRequest.unsignedBytes_append_inj, append_eq_append_iff_textMoved]

theorem signedMessage_eq_messageToSign_iff :
    signedMessage (first.messageToSign binding) preimage = second.messageToSign other ↔
      (first.issues = second.issues ∧ first.transfers = second.transfers) ∧
        ∃ text, other = binding ++ text ∧ preimage = Bytes.ofText text := by
  simp only [signedMessage, TokenRequest.messageToSign, List.append_assoc,
    TokenRequest.unsignedBytes_append_inj, ← Bytes.ofText_eq_append_iff, eq_comm]

theorem eq_of_signedMessage_eq
    (same : signedMessage (first.messageToSign binding) preimage =
      signedMessage (second.messageToSign other) otherPreimage)
    (kept : (Bytes.ofText binding).length = (Bytes.ofText other).length ∨
      preimage.length = otherPreimage.length) :
    binding = other ∧ preimage = otherPreimage := by
  rcases (signedMessage_eq_iff.mp same).2 with moved | moved
  · exact moved.eq_of_length kept
  · obtain ⟨sameBinding, samePreimage⟩ := moved.eq_of_length (kept.imp Eq.symm Eq.symm)
    exact ⟨sameBinding.symm, samePreimage.symm⟩

/-- Claims are signed by the same message exactly if the requests have the same
issues and the same transfers and a text has been moved between binding and
preimage. The message of a claim is the signed bytes of a request exactly if the
preimage is a text that the binding of that request ends with. Where binding or
preimage keep their length, or both preimages open one lock, the message
determines binding and preimage, unless the preimages are a collision of the
hash function. -/
theorem messages_agree_iff (first second : TokenRequest) (binding other : String)
    (preimage otherPreimage : Bytes) :
    (signedMessage (first.messageToSign binding) preimage =
        signedMessage (second.messageToSign other) otherPreimage ↔
      (first.issues = second.issues ∧ first.transfers = second.transfers) ∧
        (TextMoved binding preimage other otherPreimage ∨
          TextMoved other otherPreimage binding preimage)) ∧
    (signedMessage (first.messageToSign binding) preimage = second.messageToSign other ↔
      (first.issues = second.issues ∧ first.transfers = second.transfers) ∧
        ∃ text, other = binding ++ text ∧ preimage = Bytes.ofText text) ∧
    (preimage ≠ [] →
      signedMessage (first.messageToSign binding) preimage ≠
        second.messageToSign binding) ∧
    (signedMessage (first.messageToSign binding) preimage =
        signedMessage (second.messageToSign other) otherPreimage →
      ((Bytes.ofText binding).length = (Bytes.ofText other).length ∨
          preimage.length = otherPreimage.length →
        binding = other ∧ preimage = otherPreimage) ∧
      ∀ lock : Lock, lock.image preimage = lock.hash →
        lock.image otherPreimage = lock.hash →
        binding = other ∧ preimage = otherPreimage ∨
          preimage ≠ otherPreimage ∧
          Sha256.digest preimage = Sha256.digest otherPreimage) := by
  refine ⟨signedMessage_eq_iff, signedMessage_eq_messageToSign_iff, ?_, fun same =>
    ⟨eq_of_signedMessage_eq same, fun lock opens otherOpens => ?_⟩⟩
  · intro nonempty same
    obtain ⟨-, text, longer, rfl⟩ := signedMessage_eq_messageToSign_iff.mp same
    rw [String.append_eq_left_iff.mp longer.symm] at nonempty
    exact nonempty rfl
  · by_cases equal : preimage = otherPreimage
    · exact .inl (eq_of_signedMessage_eq same (.inr (congrArg List.length equal)))
    · exact .inr ⟨equal, Lock.image_eq_iff.mp (opens.trans otherOpens.symm)⟩

/-- The preimages of the claims that one message signs open no common lock, and
no claim is signed by the signed bytes of its own transaction. -/
theorem messages_agree_sample :
    signedMessage (TokenRequest.empty.messageToSign "tx") (Bytes.ofText "1secret") =
        signedMessage (TokenRequest.empty.messageToSign "tx1") (Bytes.ofText "secret") ∧
      signedMessage (TokenRequest.empty.messageToSign "tx1") (Bytes.ofText "secret") ≠
        TokenRequest.empty.messageToSign "tx1" ∧
      ∀ lock : Lock, lock.image (Bytes.ofText "1secret") = lock.hash →
        lock.image (Bytes.ofText "secret") ≠ lock.hash := by
  have moved : TextMoved "tx" (Bytes.ofText "1secret") "tx1" (Bytes.ofText "secret") :=
    ⟨"1", by decide, by decide +kernel⟩
  obtain ⟨agree, -, -, determined⟩ := messages_agree_iff .empty .empty "tx" "tx1"
    (Bytes.ofText "1secret") (Bytes.ofText "secret")
  obtain ⟨-, -, apart, -⟩ := messages_agree_iff .empty .empty "tx1" "tx1"
    (Bytes.ofText "secret") (Bytes.ofText "secret")
  have same := agree.mpr ⟨⟨rfl, rfl⟩, .inl moved⟩
  refine ⟨same, apart (by decide +kernel), fun lock opens otherOpens => ?_⟩
  rcases (determined same).2 lock opens otherOpens with ⟨equal, -⟩ | ⟨-, collision⟩
  · exact absurd equal (by decide)
  · exact absurd collision (by decide +kernel)

/-- A claim for one transaction is signed by the message of a claim for another
transaction with another preimage, and by the signed bytes of a third
transaction. -/
theorem message_of_three_transactions :
    signedMessage (TokenRequest.empty.messageToSign "tx") (Bytes.ofText "1secret") =
        signedMessage (TokenRequest.empty.messageToSign "tx1") (Bytes.ofText "secret") ∧
      "tx" ≠ "tx1" ∧ Bytes.ofText "1secret" ≠ Bytes.ofText "secret" ∧
    Bytes.ofText "secret" ≠ [] ∧
      signedMessage (TokenRequest.empty.messageToSign "tx1") (Bytes.ofText "secret") =
        TokenRequest.empty.messageToSign "tx1secret" := by
  refine ⟨signedMessage_eq_iff.mpr ⟨⟨rfl, rfl⟩, .inl ⟨"1", by decide, by decide +kernel⟩⟩,
    by decide, by decide +kernel, by decide +kernel, ?_⟩
  exact signedMessage_eq_messageToSign_iff.mpr ⟨⟨rfl, rfl⟩, "secret", by decide, rfl⟩

end ClaimSignature

end ConfidentialToken.HashLock
