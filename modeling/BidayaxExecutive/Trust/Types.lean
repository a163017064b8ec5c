import BidayaxExecutive.Runtime.JsValue

/-!
# Records of the trust package

The records that the operations exchange, with the fields of the source.  A
field of a literal type is an enumeration with the text it is stored as; a
version field stays a string, because the checks compare it at run time.
-/

namespace BidayaxExecutive.Trust

open BidayaxExecutive.Runtime

/-- `string | null` as data. -/
def nullableText : Option JsString → Json
  | none => .null
  | some text => .string text

/-! ## Keys -/

inductive TrustKeyStatus where
  | pending
  | active
  | retiring
  | retired
  | revoked
  | compromised
  deriving DecidableEq, Repr

def TrustKeyStatus.text : TrustKeyStatus → JsString
  | .pending => js "pending"
  | .active => js "active"
  | .retiring => js "retiring"
  | .retired => js "retired"
  | .revoked => js "revoked"
  | .compromised => js "compromised"

def keyStatuses : List JsString :=
  [js "pending", js "active", js "retiring", js "retired", js "revoked",
    js "compromised"]

inductive KeyPurpose where
  | platformArtifactSigning
  | tenantArtifactSigning
  | settingsSigning
  | auditChainSigning
  | provenanceSigning
  | capitalDocumentSigning
  | agentMessageSigning
  | verificationOnly
  deriving DecidableEq, Repr

def KeyPurpose.text : KeyPurpose → JsString
  | .platformArtifactSigning => js "platform_artifact_signing"
  | .tenantArtifactSigning => js "tenant_artifact_signing"
  | .settingsSigning => js "settings_signing"
  | .auditChainSigning => js "audit_chain_signing"
  | .provenanceSigning => js "provenance_signing"
  | .capitalDocumentSigning => js "capital_document_signing"
  | .agentMessageSigning => js "agent_message_signing"
  | .verificationOnly => js "verification_only"

def keyPurposes : List JsString :=
  [js "platform_artifact_signing", js "tenant_artifact_signing",
    js "settings_signing", js "audit_chain_signing", js "provenance_signing",
    js "capital_document_signing", js "agent_message_signing",
    js "verification_only"]

inductive SignatureAlgorithm where
  | ed25519
  | ecdsaP256Sha256
  deriving DecidableEq, Repr

def SignatureAlgorithm.text : SignatureAlgorithm → JsString
  | .ed25519 => js "Ed25519"
  | .ecdsaP256Sha256 => js "ECDSA-P256-SHA256"

inductive ProviderType where
  | kms
  | hsm
  | remoteSigner
  deriving DecidableEq, Repr

def ProviderType.text : ProviderType → JsString
  | .kms => js "kms"
  | .hsm => js "hsm"
  | .remoteSigner => js "remote-signer"

structure TrustKey where
  structureVersion : JsString
  keyId : JsString
  keyVersion : JsNumber
  tenantId : JsString
  identityId : JsString
  algorithm : SignatureAlgorithm
  publicKey : JsString
  publicKeyEncoding : JsString
  purpose : KeyPurpose
  scopeId : JsString
  providerType : ProviderType
  providerKeyReference : JsString
  status : TrustKeyStatus
  validFrom : JsString
  validUntil : Option JsString
  statusChangedAt : JsString
  replacesKeyId : Option JsString
  replacesKeyVersion : Option JsNumber
  revokedAt : Option JsString
  compromisedAt : Option JsString
  createdAt : JsString
  metadata : Json

def TrustKey.toJson (key : TrustKey) : Json :=
  .object
    [(js "structureVersion", .string key.structureVersion),
      (js "keyId", .string key.keyId),
      (js "keyVersion", .number key.keyVersion),
      (js "tenantId", .string key.tenantId),
      (js "identityId", .string key.identityId),
      (js "algorithm", .string key.algorithm.text),
      (js "publicKey", .string key.publicKey),
      (js "publicKeyEncoding", .string key.publicKeyEncoding),
      (js "purpose", .string key.purpose.text),
      (js "scopeId", .string key.scopeId),
      (js "providerType", .string key.providerType.text),
      (js "providerKeyReference", .string key.providerKeyReference),
      (js "status", .string key.status.text),
      (js "validFrom", .string key.validFrom),
      (js "validUntil", nullableText key.validUntil),
      (js "statusChangedAt", .string key.statusChangedAt),
      (js "replacesKeyId", nullableText key.replacesKeyId),
      (js "replacesKeyVersion",
        (key.replacesKeyVersion.map Json.number).getD .null),
      (js "revokedAt", nullableText key.revokedAt),
      (js "compromisedAt", nullableText key.compromisedAt),
      (js "createdAt", .string key.createdAt),
      (js "metadata", key.metadata)]

structure SignatureRecord where
  algorithm : SignatureAlgorithm
  keyId : JsString
  keyVersion : JsNumber
  purpose : KeyPurpose
  signedAt : JsString
  value : JsString
  deriving DecidableEq

/-! ## Audit events and entries -/

inductive ProvenanceLifecycleEvent where
  | created
  | edited
  | classified
  | redacted
  | translated
  | published
  | archived
  | superseded
  | exported
  | deleted
  | restored
  deriving DecidableEq, Repr

def ProvenanceLifecycleEvent.text : ProvenanceLifecycleEvent → JsString
  | .created => js "created"
  | .edited => js "edited"
  | .classified => js "classified"
  | .redacted => js "redacted"
  | .translated => js "translated"
  | .published => js "published"
  | .archived => js "archived"
  | .superseded => js "superseded"
  | .exported => js "exported"
  | .deleted => js "deleted"
  | .restored => js "restored"

def provenanceLifecycleEvents : List JsString :=
  [js "created", js "edited", js "classified", js "redacted",
    js "translated", js "published", js "archived", js "superseded",
    js "exported", js "deleted", js "restored"]

structure TrustEvent where
  structureVersion : JsString
  eventId : JsString
  tenantId : JsString
  streamId : JsString
  eventType : JsString
  provenanceLifecycle : Option ProvenanceLifecycleEvent
  subjectType : JsString
  subjectId : JsString
  actorIdentityId : Option JsString
  occurredAt : JsString
  idempotencyKey : JsString
  details : Json

def TrustEvent.toJson (event : TrustEvent) : Json :=
  .object
    [(js "structureVersion", .string event.structureVersion),
      (js "eventId", .string event.eventId),
      (js "tenantId", .string event.tenantId),
      (js "streamId", .string event.streamId),
      (js "eventType", .string event.eventType),
      (js "provenanceLifecycle",
        nullableText (event.provenanceLifecycle.map (·.text))),
      (js "subjectType", .string event.subjectType),
      (js "subjectId", .string event.subjectId),
      (js "actorIdentityId", nullableText event.actorIdentityId),
      (js "occurredAt", .string event.occurredAt),
      (js "idempotencyKey", .string event.idempotencyKey),
      (js "details", event.details)]

structure AuditCheckpoint where
  trustedSequence : JsNumber
  trustedDigest : JsString
  deriving DecidableEq

def AuditCheckpoint.toJson (checkpoint : AuditCheckpoint) : Json :=
  .object
    [(js "trustedSequence", .number checkpoint.trustedSequence),
      (js "trustedDigest", .string checkpoint.trustedDigest)]

/-- `AuditCheckpoint | null` as data. -/
def nullableCheckpoint : Option AuditCheckpoint → Json
  | none => .null
  | some checkpoint => checkpoint.toJson

/-- `digestAlgorithm` is not a field of the source's type; the verifier reads
it from entries that carry it at run time. -/
structure AuditChainEntry where
  structureVersion : JsString
  entryId : JsString
  tenantId : JsString
  streamId : JsString
  sequence : JsNumber
  previousDigest : Option JsString
  event : TrustEvent
  eventDigest : JsString
  entryDigest : JsString
  checkpoint : Option AuditCheckpoint
  appendedAt : JsString
  digestAlgorithm : Option Json := none

/-- The fields in the order of the source's type; nothing depends on it, since
only the number of printed bytes is read. -/
def AuditChainEntry.toJson (entry : AuditChainEntry) : Json :=
  .object <|
    [(js "structureVersion", .string entry.structureVersion),
      (js "entryId", .string entry.entryId),
      (js "tenantId", .string entry.tenantId),
      (js "streamId", .string entry.streamId),
      (js "sequence", .number entry.sequence),
      (js "previousDigest", nullableText entry.previousDigest),
      (js "event", entry.event.toJson),
      (js "eventDigest", .string entry.eventDigest),
      (js "entryDigest", .string entry.entryDigest),
      (js "checkpoint", nullableCheckpoint entry.checkpoint),
      (js "appendedAt", .string entry.appendedAt)] ++
      (entry.digestAlgorithm.map fun algorithm =>
        (js "digestAlgorithm", algorithm)).toList

/-! ## Merkle batches and proofs -/

structure SignedMerkleRoot where
  structureVersion : JsString
  tenantId : JsString
  batchId : JsString
  rootDigest : JsString
  leafCount : Nat
  signature : SignatureRecord
  deriving DecidableEq

structure MerkleBatch where
  structureVersion : JsString
  batchId : JsString
  tenantId : JsString
  leafDigests : List JsString
  leafCount : Nat
  rootDigest : JsString
  digestAlgorithm : JsString
  duplicatePolicy : JsString
  oddNodePolicy : JsString
  signedRoot : Option SignedMerkleRoot
  createdAt : JsString
  deriving DecidableEq

inductive StepPosition where
  | left
  | right
  deriving DecidableEq, Repr

structure MerkleProofStep where
  siblingDigest : JsString
  position : StepPosition
  deriving DecidableEq

structure MerkleProof where
  structureVersion : JsString
  proofVersion : JsString
  proofId : JsString
  batchId : JsString
  tenantId : JsString
  leafDigest : JsString
  leafIndex : JsNumber
  digestAlgorithm : JsString
  steps : List MerkleProofStep
  rootDigest : JsString
  deriving DecidableEq

/-! ## Provenance -/

inductive ProvenanceRelationship where
  | source
  | derivedFrom
  | generatedBy
  | supersedes
  deriving DecidableEq, Repr

def ProvenanceRelationship.text : ProvenanceRelationship → JsString
  | .source => js "source"
  | .derivedFrom => js "derived_from"
  | .generatedBy => js "generated_by"
  | .supersedes => js "supersedes"

structure ProvenanceLink where
  artifactType : JsString
  artifactId : JsString
  artifactVersion : JsString
  digest : JsString
  relationship : ProvenanceRelationship
  deriving DecidableEq

def ProvenanceLink.toJson (link : ProvenanceLink) : Json :=
  .object
    [(js "artifactType", .string link.artifactType),
      (js "artifactId", .string link.artifactId),
      (js "artifactVersion", .string link.artifactVersion),
      (js "digest", .string link.digest),
      (js "relationship", .string link.relationship.text)]

structure ProvenanceEvent where
  eventId : JsString
  lifecycle : ProvenanceLifecycleEvent
  occurredAt : JsString
  actorIdentityId : Option JsString
  priorDigest : Option JsString
  resultingDigest : Option JsString
  safeReference : Option JsString
  metadata : Json

def ProvenanceEvent.toJson (event : ProvenanceEvent) : Json :=
  .object
    [(js "eventId", .string event.eventId),
      (js "lifecycle", .string event.lifecycle.text),
      (js "occurredAt", .string event.occurredAt),
      (js "actorIdentityId", nullableText event.actorIdentityId),
      (js "priorDigest", nullableText event.priorDigest),
      (js "resultingDigest", nullableText event.resultingDigest),
      (js "safeReference", nullableText event.safeReference),
      (js "metadata", event.metadata)]

structure ProvenanceManifest where
  structureVersion : JsString
  manifestId : JsString
  tenantId : JsString
  artifactType : JsString
  artifactId : JsString
  artifactVersion : JsString
  artifactDigest : JsString
  links : List ProvenanceLink
  events : List ProvenanceEvent
  manifestDigest : JsString
  createdAt : JsString
  schemaVersion : JsString
  metadata : Json

end BidayaxExecutive.Trust
