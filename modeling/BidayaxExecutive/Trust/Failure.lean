import BidayaxExecutive.Runtime.JsString

/-!
# Failures of the trust package

Every exception the package can throw, with the code and the message it
carries.  A `try` block of the source is a match on the result of a
computation that may fail with one of these.
-/

namespace BidayaxExecutive.Trust

open BidayaxExecutive.Runtime

inductive CanonicalizationErrorCode where
  | unsupportedVersion
  | invalidSchemaVersion
  | invalidMaxBytes
  | undefined
  | function
  | symbol
  | bigint
  | nonFiniteNumber
  | unsafeInteger
  | floatingPointNumber
  | binary
  | invalidTimestamp
  | cycle
  | nonPlainObject
  | normalizedKeyCollision
  | maxBytesExceeded
  deriving DecidableEq, Repr

inductive AlgorithmPolicyFailureCode where
  | unknownPolicyVersion
  | unknownAlgorithm
  | algorithmDisabled
  | algorithmTypeHookOnly
  | algorithmOperationMismatch
  | algorithmContextInvalid
  | explicitApprovalRequired
  deriving DecidableEq, Repr

inductive VerificationReasonCode where
  | verified
  | malformedEnvelope
  | malformedSignature
  | unsupportedEnvelopeVersion
  | unsupportedCanonicalizationVersion
  | unknownAlgorithm
  | disabledAlgorithm
  | algorithmContextInvalid
  | unknownKey
  | wrongKeyVersion
  | wrongKeyPurpose
  | keyNotYetValid
  | keyExpired
  | keyRetiredPolicyDenied
  | keyRevoked
  | keyCompromised
  | tenantMismatch
  | cardMismatch
  | artifactTypeMismatch
  | artifactIdMismatch
  | artifactVersionMismatch
  | digestMismatch
  | signedMetadataMismatch
  | signatureInvalid
  | envelopeExpired
  | brokenPriorLinkage
  | invalidProvenanceLinkage
  | missingRequiredEvidence
  deriving DecidableEq, Repr

/-- `typeError` is thrown by the language itself, `rejected` is a rejected
promise of a provider. -/
inductive TrustError where
  | canonicalization (code : CanonicalizationErrorCode) (message : JsString)
  | algorithmPolicy (code : AlgorithmPolicyFailureCode) (message : JsString)
  | securityDomain (message : JsString)
  | keyUse (reasonCode : VerificationReasonCode) (message : JsString)
  | error (message : JsString)
  | typeError
  | rejected
  deriving DecidableEq, Repr

abbrev Outcome := Except TrustError

/-- Success of two computations in sequence. -/
theorem Outcome.bind_eq_ok {α β : Type} {first : Outcome α}
    {next : α → Outcome β} {result : β} :
    (first >>= next) = .ok result ↔
      ∃ value, first = .ok value ∧ next value = .ok result := by
  cases first with
  | error failure =>
      simp [bind, Except.bind]
  | ok value =>
      simp [bind, Except.bind]

@[simp]
theorem Outcome.throw_eq {α : Type} (failure : TrustError) :
    (throw failure : Outcome α) = .error failure :=
  rfl

@[simp]
theorem Outcome.error_bind {α β : Type} (failure : TrustError)
    (next : α → Outcome β) :
    ((Except.error failure : Outcome α) >>= next) = .error failure :=
  rfl

@[simp]
theorem Outcome.ok_bind {α β : Type} (value : α) (next : α → Outcome β) :
    ((Except.ok value : Outcome α) >>= next) = next value :=
  rfl

end BidayaxExecutive.Trust
