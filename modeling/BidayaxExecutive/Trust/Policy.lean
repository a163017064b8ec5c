import BidayaxExecutive.Runtime.JsValue
import BidayaxExecutive.Trust.Failure

/-!
# Algorithm policy

The registry of algorithms and the check that every digest and signature of
the package goes through.  A request comes from a record that may be
untrusted, so the algorithm it names can be any JSON value or missing.
-/

namespace BidayaxExecutive.Trust

open BidayaxExecutive.Runtime

def algorithmPolicyVersion : JsString := js "trust-algorithm-policy-1"

def defaultDigestAlgorithm : JsString := js "SHA-256"

def preferredSignatureAlgorithm : JsString := js "Ed25519"

inductive AlgorithmOperation where
  | digest
  | signature
  | aead
  | kdf
  | mac
  | passwordHash
  | postQuantumHook
  deriving DecidableEq, Repr

def AlgorithmOperation.text : AlgorithmOperation → JsString
  | .digest => js "digest"
  | .signature => js "signature"
  | .aead => js "aead"
  | .kdf => js "kdf"
  | .mac => js "mac"
  | .passwordHash => js "password-hash"
  | .postQuantumHook => js "post-quantum-hook"

inductive AlgorithmContext where
  | artifactDigest
  | internalHighThroughputDigest
  | platformSignature
  | tenantSignature
  | auditSignature
  | provenanceSignature
  | agentMessageSignature
  | capitalDocumentSignature
  | interopSignature
  | encryptionAtRest
  | encryptionInTransit
  | keyDerivation
  | messageAuthentication
  | passwordHashing
  deriving DecidableEq, Repr

def AlgorithmContext.text : AlgorithmContext → JsString
  | .artifactDigest => js "artifact-digest"
  | .internalHighThroughputDigest => js "internal-high-throughput-digest"
  | .platformSignature => js "platform-signature"
  | .tenantSignature => js "tenant-signature"
  | .auditSignature => js "audit-signature"
  | .provenanceSignature => js "provenance-signature"
  | .agentMessageSignature => js "agent-message-signature"
  | .capitalDocumentSignature => js "capital-document-signature"
  | .interopSignature => js "interop-signature"
  | .encryptionAtRest => js "encryption-at-rest"
  | .encryptionInTransit => js "encryption-in-transit"
  | .keyDerivation => js "key-derivation"
  | .messageAuthentication => js "message-authentication"
  | .passwordHashing => js "password-hashing"

inductive AlgorithmPolicyStatus where
  | approved
  | disabled
  | typeHookOnly
  deriving DecidableEq, Repr

structure AlgorithmPolicyEntry where
  algorithm : JsString
  operation : AlgorithmOperation
  status : AlgorithmPolicyStatus
  allowedContexts : List AlgorithmContext
  requiresExplicitApproval : Bool
  implementedByBuiltInProvider : Bool
  deriving DecidableEq, Repr

def algorithmRegistry : List AlgorithmPolicyEntry :=
  [⟨js "SHA-256", .digest, .approved,
      [.artifactDigest, .internalHighThroughputDigest], false, true⟩,
    ⟨js "SHA-512/256", .digest, .approved,
      [.artifactDigest, .internalHighThroughputDigest], false, false⟩,
    ⟨js "SHA3-256", .digest, .approved, [.artifactDigest], true, false⟩,
    ⟨js "BLAKE3", .digest, .approved,
      [.internalHighThroughputDigest], true, false⟩,
    ⟨js "Ed25519", .signature, .approved,
      [.platformSignature, .tenantSignature, .auditSignature,
        .provenanceSignature, .agentMessageSignature,
        .capitalDocumentSignature], false, true⟩,
    ⟨js "ECDSA-P256-SHA256", .signature, .approved,
      [.interopSignature], true, false⟩,
    ⟨js "AES-256-GCM", .aead, .approved,
      [.encryptionAtRest, .encryptionInTransit], false, false⟩,
    ⟨js "XChaCha20-Poly1305", .aead, .approved,
      [.encryptionAtRest, .encryptionInTransit], false, false⟩,
    ⟨js "HKDF-SHA-256", .kdf, .approved, [.keyDerivation], false, false⟩,
    ⟨js "HMAC-SHA-256", .mac, .approved,
      [.messageAuthentication], false, false⟩,
    ⟨js "Argon2id", .passwordHash, .approved,
      [.passwordHashing], false, false⟩,
    ⟨js "MD5", .digest, .disabled, [], false, false⟩,
    ⟨js "SHA-1", .digest, .disabled, [], false, false⟩,
    ⟨js "AES-ECB", .aead, .disabled, [], false, false⟩,
    ⟨js "ML-KEM", .postQuantumHook, .typeHookOnly, [], true, false⟩,
    ⟨js "ML-DSA", .postQuantumHook, .typeHookOnly, [], true, false⟩,
    ⟨js "SLH-DSA", .postQuantumHook, .typeHookOnly, [], true, false⟩]

/-- `algorithm` is `none` when the property is missing. -/
structure AlgorithmPolicyRequest where
  algorithm : Option Json
  context : AlgorithmContext
  explicitApproval : Option Bool := none
  operation : AlgorithmOperation
  policyVersion : JsString

/-- `input.algorithm ?? …`: a missing or null algorithm is the default of the
operation. -/
def requestedAlgorithm (input : AlgorithmPolicyRequest) : Json :=
  match input.algorithm with
  | none | some .null =>
      match input.operation with
      | .digest => .string defaultDigestAlgorithm
      | .signature => .string preferredSignatureAlgorithm
      | _ => .string []
  | some requested => requested

def enforceAlgorithmPolicy (input : AlgorithmPolicyRequest) :
    Outcome AlgorithmPolicyEntry := do
  if input.policyVersion ≠ algorithmPolicyVersion then
    throw <| .algorithmPolicy .unknownPolicyVersion <|
      js "Unknown algorithm policy version: " ++ input.policyVersion
  let requested := requestedAlgorithm input
  match algorithmRegistry.find? fun candidate =>
      requested.strictEquals (.string candidate.algorithm) with
  | none =>
      match requested.toText? with
      | none => throw .typeError
      | some text =>
          throw <| .algorithmPolicy .unknownAlgorithm <|
            js "Unknown algorithm: " ++ text
  | some entry =>
      if entry.status = .disabled then
        throw <| .algorithmPolicy .algorithmDisabled <|
          entry.algorithm ++ js " is disabled"
      if entry.status = .typeHookOnly then
        throw <| .algorithmPolicy .algorithmTypeHookOnly <|
          entry.algorithm ++ js " is a type hook only"
      if entry.operation ≠ input.operation then
        throw <| .algorithmPolicy .algorithmOperationMismatch <|
          entry.algorithm ++ js " cannot perform " ++ input.operation.text
      if !entry.allowedContexts.contains input.context then
        throw <| .algorithmPolicy .algorithmContextInvalid <|
          entry.algorithm ++ js " is not permitted for " ++ input.context.text
      if entry.requiresExplicitApproval ∧
          input.explicitApproval ≠ some true then
        throw <| .algorithmPolicy .explicitApprovalRequired <|
          entry.algorithm ++ js " requires explicit approval"
      .ok entry

/-- The request every digest of the package makes. -/
def artifactDigestRequest : AlgorithmPolicyRequest where
  algorithm := some (.string defaultDigestAlgorithm)
  context := .artifactDigest
  operation := .digest
  policyVersion := algorithmPolicyVersion

theorem enforceAlgorithmPolicy_artifactDigest :
    ∃ entry, enforceAlgorithmPolicy artifactDigestRequest = .ok entry :=
  ⟨_, rfl⟩

end BidayaxExecutive.Trust
