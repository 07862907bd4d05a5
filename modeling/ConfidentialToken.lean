import ConfidentialToken.Audit
import ConfidentialToken.BlindSignature
import ConfidentialToken.Bn254.Suite
import ConfidentialToken.Issue.Issuer
import ConfidentialToken.Registry
import ConfidentialToken.SignatureProof
import ConfidentialToken.SigningKey
import ConfidentialToken.Transfer.Sender
import ConfidentialToken.Validation.LedgerTable
import ConfidentialToken.Proofs.Bulletproof.Challenges
import ConfidentialToken.Proofs.Bulletproof.Exactness
import ConfidentialToken.Proofs.Bulletproof.Extraction
import ConfidentialToken.Proofs.Bulletproof.Knowledge
import ConfidentialToken.Proofs.SignatureKnowledge.Extraction
import ConfidentialToken.Proofs.Transfer.Conservation
import ConfidentialToken.Proofs.Transfer.TypeAndSum
import ConfidentialToken.Proofs.Validation.Binding
import ConfidentialToken.Proofs.Validation.Endorsement
import ConfidentialToken.Proofs.Validation.Reports
import ConfidentialToken.Proofs.Json.Delimited
import ConfidentialToken.Proofs.SignedBytes
import ConfidentialToken.Proofs.Issue.Extraction
import ConfidentialToken.Proofs.Issue.Hiding
import ConfidentialToken.Proofs.Json.Elementwise
import ConfidentialToken.Proofs.WireFormat
import ConfidentialToken.Proofs.Validation.CreatedOwners
import ConfidentialToken.Proofs.BlindSignature.Extraction
import ConfidentialToken.Proofs.DigitRange.Exactness
import ConfidentialToken.Proofs.DigitRange.Extraction
import ConfidentialToken.Proofs.OneOutOfMany.Exactness
import ConfidentialToken.Proofs.Audit
import ConfidentialToken.Proofs.Transfer.Hiding
import ConfidentialToken.Proofs.StatementBinding
import ConfidentialToken.Proofs.Usability
import ConfidentialToken.Proofs.Issue.Acceptance
import ConfidentialToken.Proofs.Transfer.Balance
import ConfidentialToken.Proofs.Trapping.Validation
import ConfidentialToken.Proofs.SignatureProof.Disclosure
import ConfidentialToken.Proofs.OwnerSignatures
import ConfidentialToken.Proofs.Bn254.Decoding
import ConfidentialToken.Proofs.Schnorr.Answers
import ConfidentialToken.Proofs.HashLock.Deadline
import ConfidentialToken.Proofs.AuditedInputs
