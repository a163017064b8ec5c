import BidayaxExecutive.Trust.Envelope

/-!
# Verification of an envelope

The value presented is JSON-like data with any fields.  Each part of the
verification sets the components it has established and notes the reasons of
what is wrong; what a part throws ends the verification with the reasons noted
so far.
-/

namespace BidayaxExecutive.Trust

open BidayaxExecutive.Runtime JsString

/-! ## Results -/

structure VerificationComponents where
  algorithmValid : Bool
  constraintsValid : Bool
  digestValid : Bool
  evidenceValid : Bool
  keyValid : Bool
  linkageValid : Bool
  provenanceValid : Bool
  signatureValid : Bool
  structureValid : Bool
  deriving DecidableEq, Repr

def blankComponents : VerificationComponents :=
  ⟨false, false, false, false, false, false, false, false, false⟩

def VerificationComponents.all : VerificationComponents :=
  ⟨true, true, true, true, true, true, true, true, true⟩

structure VerificationResult where
  components : VerificationComponents
  envelopeId : Option JsString
  keyId : Option JsString
  keyVersion : Option JsNumber
  reasonCodes : List VerificationReasonCode
  structureVersion : JsString
  valid : Bool
  verifiedAt : JsString
  warnings : List JsString

/-- The components, reasons and warnings while they are collected. -/
structure Verification where
  components : VerificationComponents
  reasons : List VerificationReasonCode
  warnings : List JsString

namespace Verification

def start : Verification := ⟨blankComponents, [], []⟩

def reject (verification : Verification)
    (reason : VerificationReasonCode) : Verification :=
  { verification with reasons := verification.reasons ++ [reason] }

def rejectIf (verification : Verification) (wrong : Bool)
    (reason : VerificationReasonCode) : Verification :=
  if wrong then verification.reject reason else verification

/-- `if (reasons.length === 0) reasons.push("malformed_envelope")`. -/
def malformed (verification : Verification) : Verification :=
  verification.rejectIf verification.reasons.isEmpty .malformedEnvelope

end Verification

/-! ## Inputs -/

/-- An expected card is compared when the property is there, even if it is
`undefined`. -/
structure EnvelopeVerificationExpectations where
  tenantId : Option JsString := none
  cardId : Option (Option Json) := none
  artifactType : Option JsString := none
  artifactId : Option JsString := none
  artifactVersion : Option JsString := none
  requirePreviousEnvelope : Bool := false
  requireProvenanceManifest : Bool := false

structure KeyRequest where
  keyId : JsString
  keyVersion : JsNumber
  tenantId : JsString
  deriving DecidableEq

/-- `identifier` is what the envelope holds, `none` when it is missing. -/
structure EvidenceRequest where
  identifier : Option Json
  tenantId : JsString

/-- A rejected promise of a resolver is an error. -/
structure VerifyEnvelopeInput where
  envelope : Json
  keyResolver : KeyRequest → Outcome (Option TrustKey)
  priorEnvelopeResolver : Option (EvidenceRequest → Outcome Json) := none
  provenanceResolver :
    Option (EvidenceRequest → Outcome (Option ProvenanceManifest)) := none
  expected : EnvelopeVerificationExpectations := {}
  allowRetiredHistorical : Bool := false
  verifiedAt : JsString

/-! ## Fields of the envelope -/

/-- A field that the validation has found to be a string. -/
def Json.text (value : Json) (name : JsString) : JsString :=
  match value.field? name with
  | some (.string text) => text
  | _ => []

/-- A field that the validation has found to be a number. -/
def Json.numeral (value : Json) (name : JsString) : JsNumber :=
  match value.field? name with
  | some (.number number) => number
  | _ => .nan

/-- A field that the validation has found to be a string or null. -/
def Json.nullable (value : Json) (name : JsString) : Option JsString :=
  match value.field? name with
  | some (.string text) => some text
  | _ => none

def Json.property (value : Json) (name : JsString) : JsValue :=
  match value.field? name with
  | none => .undefined
  | some found => found.toJs

def Json.names (value : Json) (name text : JsString) : Bool :=
  Json.sameField (value.field? name) (some (.string text))

/-- A domain that is no string has no `startsWith`. -/
def domainPurpose (envelope : Json) : Outcome KeyPurpose :=
  match envelope.field? (js "domain") with
  | some (.string domain) =>
      .ok (keyPurposeForDomain domain (envelope.field? (js "signerType")))
  | _ => .error .typeError

def domainDigestInput (envelope : Json) : DomainDigestInput where
  domain := Json.text envelope (js "domain")
  schemaVersion := Json.text envelope (js "schemaVersion")
  canonicalizationVersion :=
    some (Json.text envelope (js "canonicalizationVersion"))
  tenantId := Json.text envelope (js "tenantId")
  cardId := Json.nullable envelope (js "cardId")
  artifactType := Json.text envelope (js "artifactType")
  artifactId := Json.text envelope (js "artifactId")
  artifactVersion := Json.text envelope (js "artifactVersion")
  payload := Json.property envelope (js "payload")

def keyRequest (envelope : Json) : KeyRequest where
  keyId := Json.text envelope (js "keyId")
  keyVersion := Json.numeral envelope (js "keyVersion")
  tenantId := Json.text envelope (js "tenantId")

def evidenceRequest (envelope : Json) (name : JsString) : EvidenceRequest where
  identifier := envelope.field? name
  tenantId := Json.text envelope (js "tenantId")

/-- The purpose the key must have.  A text that is no purpose is the purpose of
no key, and verification-only keys are accepted for every purpose. -/
def statedPurpose (envelope : Json) : KeyPurpose :=
  let purposes : List KeyPurpose :=
    [.platformArtifactSigning, .tenantArtifactSigning, .settingsSigning,
      .auditChainSigning, .provenanceSigning, .capitalDocumentSigning,
      .agentMessageSigning]
  (purposes.find? fun purpose =>
    Json.names envelope (js "keyPurpose") purpose.text).getD .verificationOnly

def verificationUse (envelope : Json) (allowRetiredHistorical : Bool) :
    VerificationUse where
  tenantId := Json.text envelope (js "tenantId")
  keyVersion := Json.numeral envelope (js "keyVersion")
  purpose := statedPurpose envelope
  signedAt := Json.text envelope (js "signedAt")
  allowRetiredHistorical := allowRetiredHistorical

/-! ## Reasons -/

/-- `policyReason`, and what is pushed for any other exception. -/
def policyReason : TrustError → VerificationReasonCode
  | .algorithmPolicy .unknownAlgorithm _ => .unknownAlgorithm
  | .algorithmPolicy .algorithmDisabled _ => .disabledAlgorithm
  | .algorithmPolicy .algorithmTypeHookOnly _ => .disabledAlgorithm
  | _ => .algorithmContextInvalid

def keyReason : TrustError → VerificationReasonCode
  | .keyUse reasonCode _ => reasonCode
  | _ => .unknownKey

def constraintReasons : List VerificationReasonCode :=
  [.tenantMismatch, .cardMismatch, .artifactTypeMismatch,
    .artifactIdMismatch, .artifactVersionMismatch, .envelopeExpired,
    .wrongKeyPurpose]

section Host

variable (host : Host)

/-! ## The parts -/

def signatureContext (envelope : Json) (purpose : KeyPurpose) :
    AlgorithmContext :=
  if purpose = .platformArtifactSigning then .platformSignature
  else if Json.names envelope (js "keyPurpose")
      KeyPurpose.auditChainSigning.text then
    .auditSignature
  else if Json.names envelope (js "keyPurpose")
      KeyPurpose.provenanceSigning.text then
    .provenanceSignature
  else if Json.names envelope (js "keyPurpose")
      KeyPurpose.capitalDocumentSigning.text then
    .capitalDocumentSignature
  else .tenantSignature

def enforceAlgorithms (envelope : Json) : Outcome Unit := do
  let policyVersion := Json.text envelope (js "algorithmPolicyVersion")
  let _ ← enforceAlgorithmPolicy
    { algorithm := envelope.field? (js "digestAlgorithm")
      context := .artifactDigest
      operation := .digest
      policyVersion }
  let purpose ← domainPurpose envelope
  let _ ← enforceAlgorithmPolicy
    { algorithm := envelope.field? (js "signatureAlgorithm")
      context := signatureContext envelope purpose
      operation := .signature
      policyVersion }
  .ok ()

def verifyAlgorithms (envelope : Json) (verification : Verification) :
    Verification :=
  match enforceAlgorithms envelope with
  | .ok _ => { verification with components.algorithmValid := true }
  | .error failure => verification.reject (policyReason failure)

/-- The comparison with `NaN` is false. -/
def isExpired (envelope : Json) (verifiedAt : JsString) : Outcome Bool :=
  match envelope.field? (js "expiresAt") with
  | some .null => .ok false
  | expiresAt =>
      match fieldText? expiresAt with
      | none => .error .typeError
      | some text =>
          match host.dateParse verifiedAt, host.dateParse text with
          | some now, some expiry =>
              .ok (expiry.milliseconds ≤ now.milliseconds)
          | _, _ => .ok false

/-- The field is not the expected text, when one is expected. -/
def mismatches (envelope : Json) (name : JsString)
    (expected : Option JsString) : Bool :=
  expected.any fun text => !Json.names envelope name text

def cardMismatches (envelope : Json)
    (expected : Option (Option Json)) : Bool :=
  expected.any fun cardId =>
    !Json.sameField (envelope.field? (js "cardId")) cardId

def verifyConstraints (envelope : Json)
    (expected : EnvelopeVerificationExpectations) (verifiedAt : JsString)
    (verification : Verification) : Except Verification Verification :=
  match domainPurpose envelope with
  | .error _ => .error verification
  | .ok purpose =>
      let noted := verification
        |>.rejectIf (!Json.names envelope (js "keyPurpose") purpose.text)
          .wrongKeyPurpose
        |>.rejectIf (mismatches envelope (js "tenantId") expected.tenantId)
          .tenantMismatch
        |>.rejectIf (cardMismatches envelope expected.cardId) .cardMismatch
        |>.rejectIf
          (mismatches envelope (js "artifactType") expected.artifactType)
          .artifactTypeMismatch
        |>.rejectIf
          (mismatches envelope (js "artifactId") expected.artifactId)
          .artifactIdMismatch
        |>.rejectIf
          (mismatches envelope (js "artifactVersion")
            expected.artifactVersion)
          .artifactVersionMismatch
      match isExpired host envelope verifiedAt with
      | .error _ => .error noted
      | .ok expired =>
          let dated := noted.rejectIf expired .envelopeExpired
          .ok { dated with
            components.constraintsValid :=
              !dated.reasons.any constraintReasons.contains }

/-- One `try` around both comparisons. -/
def verifyDigest (envelope : Json) (verification : Verification) :
    Verification :=
  match createDomainDigest host (domainDigestInput envelope) with
  | .error _ => verification.reject .digestMismatch
  | .ok digest =>
      let compared :=
        if Json.names envelope (js "digest") digest then
          { verification with components.digestValid := true }
        else verification.reject .digestMismatch
      match computeEnvelopeId host envelope with
      | .error _ => compared.reject .digestMismatch
      | .ok envelopeId =>
          compared.rejectIf (!Json.names envelope (js "envelopeId") envelopeId)
            .signedMetadataMismatch

def historicalWarning : JsString :=
  js "historical verification used an explicitly allowed retired key"

/-- The key is of the signer and of the algorithm that are signed. -/
def keyNamed (envelope : Json) (key : TrustKey) : Bool :=
  Json.names envelope (js "signerId") key.identityId &&
    Json.names envelope (js "signatureAlgorithm") key.algorithm.text

def verifySignature (envelope : Json) (key : TrustKey)
    (verification : Verification) : Except Verification Verification :=
  if keyNamed envelope key &&
      !verification.reasons.contains .malformedSignature then
    match signaturePreimage host envelope with
    | .error _ => .error verification
    | .ok data =>
        if verifySignatureBytes host data key
            (Json.text envelope (js "signature")) then
          .ok { verification with components.signatureValid := true }
        else .ok (verification.reject .signatureInvalid)
  else .ok verification

def verifyKey (envelope : Json)
    (keyResolver : KeyRequest → Outcome (Option TrustKey))
    (allowRetiredHistorical : Bool) (verification : Verification) :
    Except Verification Verification :=
  let shaped := verification.rejectIf
    (!Base64Url.isText (Json.text envelope (js "signature")))
    .malformedSignature
  match keyResolver (keyRequest envelope) with
  | .error _ | .ok none => .ok (shaped.reject .unknownKey)
  | .ok (some key) =>
      let named :=
        shaped.rejectIf (!keyNamed envelope key) .signedMetadataMismatch
      match enforceKeyForVerification host key
          (verificationUse envelope allowRetiredHistorical) with
      | .error failure => .ok (named.reject (keyReason failure))
      | .ok _ =>
          verifySignature host envelope key
            { named with
              components.keyValid := true
              warnings :=
                if key.status = .retired then
                  named.warnings ++ [historicalWarning]
                else named.warnings }

/-- The prior envelope is the one that is named, of the same artifact. -/
def isPriorOf (envelope prior : Json) : Bool :=
  prior.truthy &&
    Json.sameField (prior.field? (js "envelopeId"))
      (envelope.field? (js "previousEnvelopeId")) &&
    Json.sameField (prior.field? (js "digest"))
      (envelope.field? (js "previousDigest")) &&
    Json.sameField (prior.field? (js "tenantId"))
      (envelope.field? (js "tenantId")) &&
    Json.sameField (prior.field? (js "artifactType"))
      (envelope.field? (js "artifactType")) &&
    Json.sameField (prior.field? (js "artifactId"))
      (envelope.field? (js "artifactId"))

def verifyLinkage (envelope : Json)
    (priorEnvelopeResolver : Option (EvidenceRequest → Outcome Json))
    (required : Bool) (verification : Verification) : Verification :=
  match envelope.field? (js "previousEnvelopeId") with
  | some .null =>
      { verification with components.linkageValid := !required }
        |>.rejectIf required .missingRequiredEvidence
  | _ =>
      match priorEnvelopeResolver with
      | none => verification.reject .missingRequiredEvidence
      | some resolvePriorEnvelope =>
          match resolvePriorEnvelope
              (evidenceRequest envelope (js "previousEnvelopeId")) with
          | .error _ => verification.reject .brokenPriorLinkage
          | .ok prior =>
              if isPriorOf envelope prior then
                { verification with components.linkageValid := true }
              else verification.reject .brokenPriorLinkage

/-- The manifest verifies and is about the artifact and its digest. -/
def isManifestOf (envelope : Json) (manifest : ProvenanceManifest) : Bool :=
  verifyProvenanceManifest host manifest &&
    Json.names envelope (js "tenantId") manifest.tenantId &&
    Json.names envelope (js "artifactType") manifest.artifactType &&
    Json.names envelope (js "artifactId") manifest.artifactId &&
    Json.names envelope (js "artifactVersion") manifest.artifactVersion &&
    Json.names envelope (js "digest") manifest.artifactDigest

def verifyProvenance (envelope : Json)
    (provenanceResolver :
      Option (EvidenceRequest → Outcome (Option ProvenanceManifest)))
    (required : Bool) (verification : Verification) : Verification :=
  match envelope.field? (js "provenanceManifestId") with
  | some .null =>
      { verification with components.provenanceValid := !required }
        |>.rejectIf required .missingRequiredEvidence
  | _ =>
      match provenanceResolver with
      | none => verification.reject .missingRequiredEvidence
      | some resolveProvenanceManifest =>
          match resolveProvenanceManifest
              (evidenceRequest envelope (js "provenanceManifestId")) with
          | .error _ | .ok none =>
              verification.reject .invalidProvenanceLinkage
          | .ok (some manifest) =>
              if isManifestOf host envelope manifest then
                { verification with components.provenanceValid := true }
              else verification.reject .invalidProvenanceLinkage

def verifyEvidence (input : VerifyEnvelopeInput)
    (verification : Verification) : Verification :=
  let evidenced := verification
    |> verifyLinkage input.envelope input.priorEnvelopeResolver
      input.expected.requirePreviousEnvelope
    |> verifyProvenance host input.envelope input.provenanceResolver
      input.expected.requireProvenanceManifest
  { evidenced with
    components.evidenceValid :=
      evidenced.components.linkageValid &&
        evidenced.components.provenanceValid }

/-! ## The whole -/

/-- `new Date(0)` where the text is no timestamp. -/
def evaluationTimestamp (verifiedAt : JsString) : JsString :=
  match canonicalUtcTimestamp host verifiedAt with
  | .ok timestamp => timestamp
  | .error _ => toISOString TimeValue.epoch

/-- The verification of an envelope that has passed the validation. -/
def verifyValidated (input : VerifyEnvelopeInput)
    (verification : Verification) : Except Verification Verification := do
  let structured := { verification with components.structureValid := true }
  let constrained ← verifyConstraints host input.envelope input.expected
    (evaluationTimestamp host input.verifiedAt)
    (verifyAlgorithms input.envelope structured)
  let keyed ← verifyKey host input.envelope input.keyResolver
    input.allowRetiredHistorical
    (verifyDigest host input.envelope constrained)
  return verifyEvidence host input keyed

/-- `partialEnvelope`: objects and arrays. -/
def isObject : Json → Bool
  | .object _ | .array _ => true
  | _ => false

def verifyVersions (envelope : Json) : Verification :=
  Verification.start
    |>.rejectIf (!Json.names envelope (js "envelopeVersion") (js "1"))
      .unsupportedEnvelopeVersion
    |>.rejectIf
      (!Json.names envelope (js "canonicalizationVersion")
        canonicalizationVersion)
      .unsupportedCanonicalizationVersion

def verifyEnvelope (input : VerifyEnvelopeInput) : Verification :=
  if isObject input.envelope then
    let versioned := verifyVersions input.envelope
    match validateCryptographicEnvelope host input.envelope with
    | .error _ => versioned.malformed
    | .ok validation =>
        if validation.valid then
          match verifyValidated host input versioned with
          | .ok verification => verification
          | .error verification => verification.malformed
        else versioned.malformed
  else Verification.start.reject .malformedEnvelope

/-- The source's `finish`. -/
def Verification.finish (verification : Verification)
    (envelope : Json) (verifiedAt : JsString) : VerificationResult :=
  let reasons := verification.reasons.eraseDups
  { components := verification.components
    envelopeId :=
      match envelope.field? (js "envelopeId") with
      | some (.string text) => some text
      | _ => none
    keyId :=
      match envelope.field? (js "keyId") with
      | some (.string text) => some text
      | _ => none
    keyVersion :=
      match envelope.field? (js "keyVersion") with
      | some (.number number) => some number
      | _ => none
    reasonCodes := if reasons.isEmpty then [.verified] else reasons
    structureVersion := js "1"
    valid := reasons.isEmpty
    verifiedAt
    warnings := verification.warnings }

def verifyCryptographicEnvelope (input : VerifyEnvelopeInput) :
    VerificationResult :=
  (verifyEnvelope host input).finish input.envelope
    (evaluationTimestamp host input.verifiedAt)

end Host

end BidayaxExecutive.Trust
