import BidayaxExecutive.Runtime.Base64Url
import BidayaxExecutive.Runtime.JsonParse
import BidayaxExecutive.Trust.KeyLifecycle
import BidayaxExecutive.Trust.Provenance

/-!
# Cryptographic envelopes

An envelope holds a payload, the digest that binds it to its domain and its
artifact, an identifier that is a digest of everything else, and a signature
over all other fields.  The verification reads data it cannot trust: it notes
a reason for everything that is wrong, and accepts when no reason was noted.
-/

namespace BidayaxExecutive.Trust

open BidayaxExecutive.Runtime JsString

/-! ## Records -/

inductive EnvelopeStatus where
  | active
  | superseded
  | revoked
  deriving DecidableEq, Repr

def EnvelopeStatus.text : EnvelopeStatus → JsString
  | .active => js "active"
  | .superseded => js "superseded"
  | .revoked => js "revoked"

inductive SignerType where
  | platform
  | tenant
  | agent
  | system
  deriving DecidableEq, Repr

def SignerType.text : SignerType → JsString
  | .platform => js "platform"
  | .tenant => js "tenant"
  | .agent => js "agent"
  | .system => js "system"

structure CryptographicEnvelope where
  algorithmPolicyVersion : JsString
  artifactId : JsString
  artifactType : JsString
  artifactVersion : JsString
  canonicalizationVersion : JsString
  cardId : Option JsString
  digest : JsString
  digestAlgorithm : JsString
  domain : JsString
  envelopeId : JsString
  envelopeVersion : JsString
  expiresAt : Option JsString
  keyId : JsString
  keyPurpose : KeyPurpose
  keyVersion : JsNumber
  metadata : Json
  payload : Json
  previousDigest : Option JsString
  previousEnvelopeId : Option JsString
  provenanceManifestId : Option JsString
  schemaVersion : JsString
  signature : JsString
  signatureAlgorithm : SignatureAlgorithm
  signedAt : JsString
  signerId : JsString
  signerType : SignerType
  status : EnvelopeStatus
  structureVersion : JsString
  tenantId : JsString

/-- The fields in the order of the source's literal. -/
def CryptographicEnvelope.fields (envelope : CryptographicEnvelope) :
    List (JsString × Json) :=
  [(js "algorithmPolicyVersion", .string envelope.algorithmPolicyVersion),
    (js "artifactId", .string envelope.artifactId),
    (js "artifactType", .string envelope.artifactType),
    (js "artifactVersion", .string envelope.artifactVersion),
    (js "canonicalizationVersion", .string envelope.canonicalizationVersion),
    (js "cardId", nullableText envelope.cardId),
    (js "digest", .string envelope.digest),
    (js "digestAlgorithm", .string envelope.digestAlgorithm),
    (js "domain", .string envelope.domain),
    (js "envelopeId", .string envelope.envelopeId),
    (js "envelopeVersion", .string envelope.envelopeVersion),
    (js "expiresAt", nullableText envelope.expiresAt),
    (js "keyId", .string envelope.keyId),
    (js "keyPurpose", .string envelope.keyPurpose.text),
    (js "keyVersion", .number envelope.keyVersion),
    (js "metadata", envelope.metadata),
    (js "payload", envelope.payload),
    (js "previousDigest", nullableText envelope.previousDigest),
    (js "previousEnvelopeId", nullableText envelope.previousEnvelopeId),
    (js "provenanceManifestId", nullableText envelope.provenanceManifestId),
    (js "schemaVersion", .string envelope.schemaVersion),
    (js "signature", .string envelope.signature),
    (js "signatureAlgorithm", .string envelope.signatureAlgorithm.text),
    (js "signedAt", .string envelope.signedAt),
    (js "signerId", .string envelope.signerId),
    (js "signerType", .string envelope.signerType.text),
    (js "status", .string envelope.status.text),
    (js "structureVersion", .string envelope.structureVersion),
    (js "tenantId", .string envelope.tenantId)]

def CryptographicEnvelope.toJson (envelope : CryptographicEnvelope) : Json :=
  .object envelope.fields

/-! ## What is hashed and signed -/

/-- `{ [name]: _, ...material } = value`. -/
def Json.without (name : JsString) : Json → Json
  | .object fields => .object (fields.filter fun field => field.1 != name)
  | value => value

def withoutSignature (envelope : Json) : Json :=
  Json.without (js "signature") envelope

def envelopeIdentityMaterial (envelope : Json) : Json :=
  Json.without (js "envelopeId") (withoutSignature envelope)

/-! ## Keys -/

def keyPurposeForDomain (domain : JsString) (signerType : Option Json) :
    KeyPurpose :=
  if domain = js "settings.snapshot" ∨ domain = js "brand.tokens.snapshot" then
    .settingsSigning
  else if domain = js "provenance.manifest" then .provenanceSigning
  else if (js "capital.").isPrefixOf domain then .capitalDocumentSigning
  else if (js ".audit").isSuffixOf domain ∨ domain = js "telephony.usage" ∨
      domain = js "sentinelq.evidence" then
    .auditChainSigning
  else if Json.sameField signerType (some (.string SignerType.platform.text)) ∨
      Json.sameField signerType (some (.string SignerType.system.text)) then
    .platformArtifactSigning
  else .tenantArtifactSigning

def signatureContextForPurpose : KeyPurpose → AlgorithmContext
  | .auditChainSigning => .auditSignature
  | .provenanceSigning => .provenanceSignature
  | .agentMessageSigning => .agentMessageSignature
  | .capitalDocumentSigning => .capitalDocumentSignature
  | .platformArtifactSigning => .platformSignature
  | _ => .tenantSignature

structure ProviderKeyHandle where
  keyId : JsString
  keyVersion : JsNumber
  providerKeyReference : JsString
  providerType : ProviderType

structure SignatureRequest where
  algorithm : SignatureAlgorithm
  data : List UInt8
  key : ProviderKeyHandle

abbrev SignatureProvider := SignatureRequest → Outcome (List UInt8)

section Host

variable (host : Host)

def computeEnvelopeId (envelope : Json) : Outcome JsString := do
  let digest ← internalDigest host (js "cryptographic-envelope-id/v1")
    (js "cryptographic-envelope-id-1") (envelopeIdentityMaterial envelope).toJs
  .ok (js "env_" ++ digest)

def signingBytes (value : JsValue) : Outcome (List UInt8) := do
  let canonical ← canonicalize host value
    { schemaVersion := js "trust-signature-preimage-1" }
  .ok canonical.bytes

def signaturePreimage (envelope : Json) : Outcome (List UInt8) :=
  signingBytes host (withoutSignature envelope).toJs

def signBytes (data : List UInt8) (key : TrustKey)
    (provider : SignatureProvider) (purpose : KeyPurpose)
    (signedAt tenantId : JsString) : Outcome SignatureRecord := do
  enforceKeyForSigning host key tenantId purpose signedAt
  let _ ← enforceAlgorithmPolicy
    { algorithm := some (.string key.algorithm.text)
      context := signatureContextForPurpose purpose
      operation := .signature
      policyVersion := algorithmPolicyVersion }
  let signature ← provider
    ⟨key.algorithm, data,
      ⟨key.keyId, key.keyVersion, key.providerKeyReference,
        key.providerType⟩⟩
  let signedAt ← canonicalUtcTimestamp host signedAt
  .ok ⟨key.algorithm, key.keyId, key.keyVersion, purpose, signedAt,
    Base64Url.encode signature⟩

/-- An exception of the platform is a refusal. -/
def verifySignatureBytes (data : List UInt8) (key : TrustKey)
    (signature : JsString) : Bool :=
  key.algorithm == .ed25519 && Base64Url.isText signature &&
    (host.ed25519Verify key.publicKey data
      (Base64Url.decode signature)).getD false

/-! ## Building -/

structure BuildEnvelopeInput where
  tenantId : JsString
  cardId : Option JsString
  artifactType : JsString
  artifactId : JsString
  artifactVersion : JsString
  domain : JsString
  schemaVersion : JsString
  payload : JsValue
  key : TrustKey
  provider : SignatureProvider
  signerType : SignerType
  signerId : JsString
  signedAt : JsString
  expiresAt : Option JsString
  previousEnvelopeId : Option JsString
  previousDigest : Option JsString
  provenanceManifestId : Option JsString
  metadata : Json
  status : EnvelopeStatus
  maxCanonicalBytes : Option JsNumber := none

/-- The source's `unsigned`. -/
def BuildEnvelopeInput.unsigned (input : BuildEnvelopeInput)
    (signedAt : JsString) (expiresAt : Option JsString) (payload : Json)
    (digest : JsString) : CryptographicEnvelope where
  algorithmPolicyVersion := algorithmPolicyVersion
  artifactId := input.artifactId
  artifactType := input.artifactType
  artifactVersion := input.artifactVersion
  canonicalizationVersion := canonicalizationVersion
  cardId := input.cardId
  digest := digest
  digestAlgorithm := defaultDigestAlgorithm
  domain := input.domain
  envelopeId := []
  envelopeVersion := js "1"
  expiresAt := expiresAt
  keyId := input.key.keyId
  keyPurpose :=
    keyPurposeForDomain input.domain (some (.string input.signerType.text))
  keyVersion := input.key.keyVersion
  metadata := input.metadata
  payload := payload
  previousDigest := input.previousDigest
  previousEnvelopeId := input.previousEnvelopeId
  provenanceManifestId := input.provenanceManifestId
  schemaVersion := input.schemaVersion
  signature := []
  signatureAlgorithm := input.key.algorithm
  signedAt := signedAt
  signerId := input.signerId
  signerType := input.signerType
  status := input.status
  structureVersion := js "1"
  tenantId := input.tenantId

/-- `expiresAt !== null && Date.parse(expiresAt) <= Date.parse(signedAt)`. -/
def expiresBefore (expiresAt : Option JsString) (signedAt : JsString) : Bool :=
  match expiresAt with
  | none => false
  | some expiresAt =>
      match host.dateParse expiresAt, host.dateParse signedAt with
      | some expiry, some signing =>
          expiry.milliseconds ≤ signing.milliseconds
      | _, _ => false

def canonicalExpiry : Option JsString → Outcome (Option JsString)
  | none => .ok none
  | some expiresAt => do
      let canonical ← canonicalUtcTimestamp host expiresAt
      .ok (some canonical)

def buildCryptographicEnvelope (input : BuildEnvelopeInput) :
    Outcome CryptographicEnvelope := do
  if !isSecurityDomain input.domain then
    throw <| .error <| js "Unregistered security domain: " ++ input.domain
  if input.previousEnvelopeId.isNone ≠ input.previousDigest.isNone then
    throw <| .error <|
      js "Correction linkage requires both previousEnvelopeId and " ++
        js "previousDigest"
  assertSafeMetadata host input.metadata
  if input.key.identityId ≠ input.signerId then
    throw <| .error <|
      js "Signer identity must match the signing key identity"
  let signedAt ← canonicalUtcTimestamp host input.signedAt
  let expiresAt ← canonicalExpiry host input.expiresAt
  if expiresBefore host expiresAt signedAt then
    throw <| .error <| js "expiresAt must follow signedAt"
  let normalized ← canonicalize host input.payload
    { maxBytes := input.maxCanonicalBytes
      schemaVersion := input.schemaVersion }
  match jsonParse normalized.json with
  | none => throw .typeError
  | some payload => do
      let digest ← createDomainDigest host
        { domain := input.domain
          schemaVersion := input.schemaVersion
          canonicalizationVersion := some canonicalizationVersion
          tenantId := input.tenantId
          cardId := input.cardId
          artifactType := input.artifactType
          artifactId := input.artifactId
          artifactVersion := input.artifactVersion
          payload := payload.toJs }
      let unsigned := input.unsigned signedAt expiresAt payload digest
      let envelopeId ← computeEnvelopeId host unsigned.toJson
      let identified := { unsigned with envelopeId }
      let data ← signaturePreimage host identified.toJson
      let signature ← signBytes host data input.key input.provider
        unsigned.keyPurpose signedAt input.tenantId
      .ok { identified with signature := signature.value }

end Host

end BidayaxExecutive.Trust
