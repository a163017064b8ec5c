import BidayaxExecutive.Trust.EnvelopeAcceptance

/-!
# What an accepted envelope vouches for

Acceptance binds the contents to the digest and the identifier, and all fields
to a key of the signer.  Two checks are weaker than they look: a provenance
manifest is compared in everything but its own identifier, and a verification
time that is no timestamp is taken for the epoch.
-/

namespace BidayaxExecutive.Trust

open BidayaxExecutive.Runtime JsString

/-! ## Fields that the validation has found -/

theorem names_iff {value : Json} {name text : JsString} :
    Json.names value name text = true ↔
      value.field? name = some (.string text) := by
  rw [Json.names, Json.sameField_string]

theorem text_of_field {value : Json} {name text : JsString}
    (stored : value.field? name = some (.string text)) :
    Json.text value name = text := by
  rw [Json.text, stored]

theorem field?_of_nonEmpty {value : Json} {name : JsString}
    (present : nonEmpty (value.field? name) = true) :
    value.field? name = some (.string (Json.text value name)) := by
  rw [Json.text]
  cases found : value.field? name with
  | none =>
      rw [found] at present
      exact nomatch present
  | some field =>
      rw [found] at present
      cases field with
      | string text => rfl
      | null => exact nomatch present
      | boolean value => exact nomatch present
      | number value => exact nomatch present
      | array elements => exact nomatch present
      | object fields => exact nomatch present

theorem field?_of_safeInteger {value : Json} {name : JsString}
    (safe : safeInteger (value.field? name) = true) :
    value.field? name = some (.number (Json.numeral value name)) := by
  rw [Json.numeral]
  cases found : value.field? name with
  | none =>
      rw [found] at safe
      exact nomatch safe
  | some field =>
      rw [found] at safe
      cases field with
      | number number => rfl
      | null => exact nomatch safe
      | boolean value => exact nomatch safe
      | string text => exact nomatch safe
      | array elements => exact nomatch safe
      | object fields => exact nomatch safe

theorem field?_of_nullable {value : Json} {name : JsString}
    (stored : ∃ text, value.field? name = some (nullableText text)) :
    value.field? name = some (nullableText (Json.nullable value name)) := by
  obtain ⟨text, found⟩ := stored
  rw [Json.nullable, found]
  cases text with
  | none => rfl
  | some text => rfl

/-! ## The purpose of the key -/

theorem keyPurposeForDomain_ne_verificationOnly (domain : JsString)
    (signerType : Option Json) :
    keyPurposeForDomain domain signerType ≠ .verificationOnly := by
  unfold keyPurposeForDomain
  split_ifs <;> exact nofun

theorem statedPurpose_of_names {envelope : Json} {purpose : KeyPurpose}
    (signs : purpose ≠ .verificationOnly)
    (stored : envelope.field? (js "keyPurpose") =
      some (.string purpose.text)) :
    statedPurpose envelope = purpose := by
  have compares : ∀ other : KeyPurpose,
      Json.names envelope (js "keyPurpose") other.text =
        (purpose.text == other.text) := by
    intro other
    rw [Json.names, stored]
    rfl
  simp only [statedPurpose, compares]
  cases purpose with
  | verificationOnly => exact absurd rfl signs
  | platformArtifactSigning => decide
  | tenantArtifactSigning => decide
  | settingsSigning => decide
  | auditChainSigning => decide
  | provenanceSigning => decide
  | capitalDocumentSigning => decide
  | agentMessageSigning => decide

/-! ## A signed envelope -/

def settingsKey : TrustKey where
  structureVersion := js "1"
  keyId := js "key-settings_signing"
  keyVersion := .integer 1
  tenantId := js "tenant-1"
  identityId := js "identity-1"
  algorithm := .ed25519
  publicKey :=
    js "MCowBQYDK2VwAyEAmsnuWdGnG3z4UsCGsgH3dmgtjau_-2N4hWdyMnBDXOA"
  publicKeyEncoding := js "spki-der-base64url"
  purpose := .settingsSigning
  scopeId := js "tenant-1"
  providerType := .remoteSigner
  providerKeyReference := js "test-ref-settings_signing"
  status := .active
  validFrom := js "2026-07-01T00:00:00.000Z"
  validUntil := none
  statusChangedAt := js "2026-07-01T00:00:00.000Z"
  replacesKeyId := none
  replacesKeyVersion := none
  revokedAt := none
  compromisedAt := none
  createdAt := js "2026-07-01T00:00:00.000Z"
  metadata := .object []

/-- The manifest of the settings with the given time and digest. -/
def settingsManifest (createdAt manifestDigest : JsString) :
    ProvenanceManifest :=
  ProvenanceManifestInput.sealed
    { tenantId := js "tenant-1"
      artifactType := js "settings_snapshot"
      artifactId := js "settings-1"
      artifactVersion := js "7"
      artifactDigest := js
        "a4ab49ecc54c0af98aced81c5f20f92486da6af48e3af4158c5f64f52c9bf8be"
      links := []
      events := []
      createdAt
      schemaVersion := js "provenance-1"
      metadata := .object [] }
    manifestDigest

def namedManifest : ProvenanceManifest :=
  settingsManifest (js "2026-07-17T10:00:00.000Z") <|
    js "a2fd8a2ac99fec841c32e66f846781a73ffa7cdaa44187c36996f7c932507791"

/-- Half an hour younger, of the same artifact. -/
def otherManifest : ProvenanceManifest :=
  settingsManifest (js "2026-07-17T10:30:00.000Z") <|
    js "e4fa855bbd2049dadfe253e8e9684cfcb6015d4aa4154cff574b7ee8e3c19426"

def settingsPayload : Json :=
  .object
    [(js "enabled", .boolean true), (js "threshold", .string (js "12.50"))]

def settingsDraft (provider : SignatureProvider) : BuildEnvelopeInput where
  tenantId := js "tenant-1"
  cardId := some (js "card-1")
  artifactType := js "settings_snapshot"
  artifactId := js "settings-1"
  artifactVersion := js "7"
  domain := js "settings.snapshot"
  schemaVersion := js "settings-1"
  payload := settingsPayload.toJs
  key := settingsKey
  provider
  signerType := .tenant
  signerId := js "identity-1"
  signedAt := js "2026-07-17T10:00:00.000Z"
  expiresAt := some (js "2026-07-18T10:00:00.000Z")
  previousEnvelopeId := none
  previousDigest := none
  provenanceManifestId := some namedManifest.manifestId
  metadata := .object [(js "classification", .string (js "internal"))]
  status := .active

def settingsIdentified : CryptographicEnvelope :=
  { (settingsDraft fun _ => .ok []).unsigned
      (js "2026-07-17T10:00:00.000Z") (some (js "2026-07-18T10:00:00.000Z"))
      settingsPayload namedManifest.artifactDigest with
    envelopeId := js "env_" ++ js
      "32b7bb329820ab2fb2483bc7639509721a0c4db30ddeee565144c903d7de9158" }

/-- What the key signs. -/
def settingsData : List UInt8 :=
  (signaturePreimage (recordedHost []) settingsIdentified.toJson).toOption.getD
    []

def settingsSignature : JsString :=
  js "yTBHVCTa6p9TAq9A0SACW4DpI472OBWsoYuz9Zm4ZJhCHB2q7Pk6xAlArVT5HuZTpO5" ++
    js "CfDyNGn1-an7ZjOPHDg"

def settingsEnvelope : CryptographicEnvelope :=
  { settingsIdentified with signature := settingsSignature }

/-- A host that has checked the signature. -/
def settingsHost : Host :=
  recordedHost
    [(settingsKey.publicKey, settingsData,
      Base64Url.decode settingsSignature)]

def settingsVerification (manifest : ProvenanceManifest)
    (verifiedAt : JsString) : VerifyEnvelopeInput where
  envelope := settingsEnvelope.toJson
  keyResolver _ := .ok (some settingsKey)
  provenanceResolver := some fun _ => .ok (some manifest)
  allowRetiredHistorical := false
  verifiedAt

theorem settingsEnvelope_accepted :
    EnvelopeAccepted settingsHost
      (settingsVerification namedManifest (js "2026-07-17T11:00:00.000Z")) :=
  verifyCryptographicEnvelope_valid_iff.mp (by decide +kernel)

/-! ## Soundness -/

/-- A field that is compared when it is expected. -/
def Expected (envelope : Json) (name : JsString) (expected : Option JsString) :
    Prop :=
  ∀ text ∈ expected, envelope.field? name = some (.string text)

theorem expected_of_mismatches {envelope : Json} {name : JsString}
    {expected : Option JsString}
    (matching : mismatches envelope name expected = false) :
    Expected envelope name expected := by
  intro text isExpected
  rw [Option.mem_def] at isExpected
  rw [mismatches, isExpected, Option.any_some, Bool.not_eq_false',
    names_iff] at matching
  exact matching

/-- The fields an accepted envelope is read by are what they are read as. -/
structure FieldsRead (envelope : Json) : Prop where
  texts : ∀ name ∈ [js "envelopeId", js "digest", js "domain",
    js "schemaVersion", js "canonicalizationVersion", js "tenantId",
    js "artifactType", js "artifactId", js "artifactVersion", js "keyId",
    js "signerId", js "signedAt", js "signature"],
    envelope.field? name = some (.string (Json.text envelope name))
  cardId : envelope.field? (js "cardId") =
    some (nullableText (Json.nullable envelope (js "cardId")))
  keyVersion : envelope.field? (js "keyVersion") =
    some (.number (Json.numeral envelope (js "keyVersion")))

/-- The key that vouches for an envelope: what it shares with the envelope,
and that it verifies the signature over the canonical bytes of all other
fields. -/
structure SignedBy (host : Host) (input : VerifyEnvelopeInput)
    (key : TrustKey) : Prop where
  resolved : input.keyResolver
    ⟨Json.text input.envelope (js "keyId"),
      Json.numeral input.envelope (js "keyVersion"),
      Json.text input.envelope (js "tenantId")⟩ = .ok (some key)
  tenantId :
    input.envelope.field? (js "tenantId") = some (.string key.tenantId)
  keyVersion : ∃ keyVersion,
    input.envelope.field? (js "keyVersion") = some (.number keyVersion) ∧
      key.keyVersion.strictEquals keyVersion = true
  signerId :
    input.envelope.field? (js "signerId") = some (.string key.identityId)
  accepted : enforceKeyForVerification host key
    { tenantId := Json.text input.envelope (js "tenantId")
      keyVersion := Json.numeral input.envelope (js "keyVersion")
      purpose := keyPurposeForDomain
        (Json.text input.envelope (js "domain"))
        (input.envelope.field? (js "signerType"))
      signedAt := Json.text input.envelope (js "signedAt")
      allowRetiredHistorical := input.allowRetiredHistorical } = .ok ()
  signature : ∃ canonical,
    canonicalize host (withoutSignature input.envelope).toJs
        { schemaVersion := js "trust-signature-preimage-1" } =
      .ok canonical ∧
    verifySignatureBytes host canonical.bytes key
      (Json.text input.envelope (js "signature")) = true

structure EnvelopeSound (host : Host) (input : VerifyEnvelopeInput) :
    Prop where
  components : (verifyCryptographicEnvelope host input).components = .all
  fields : FieldsRead input.envelope
  envelopeVersion : input.envelope.field? (js "envelopeVersion") =
    some (.string (js "1"))
  digest : createDomainDigest host
      { domain := Json.text input.envelope (js "domain")
        schemaVersion := Json.text input.envelope (js "schemaVersion")
        canonicalizationVersion :=
          some (Json.text input.envelope (js "canonicalizationVersion"))
        tenantId := Json.text input.envelope (js "tenantId")
        cardId := Json.nullable input.envelope (js "cardId")
        artifactType := Json.text input.envelope (js "artifactType")
        artifactId := Json.text input.envelope (js "artifactId")
        artifactVersion := Json.text input.envelope (js "artifactVersion")
        payload := Json.property input.envelope (js "payload") } =
    .ok (Json.text input.envelope (js "digest"))
  envelopeId : computeEnvelopeId host input.envelope =
    .ok (Json.text input.envelope (js "envelopeId"))
  keyPurpose : input.envelope.field? (js "keyPurpose") =
    some (.string (keyPurposeForDomain
      (Json.text input.envelope (js "domain"))
      (input.envelope.field? (js "signerType"))).text)
  key : ∃ key, SignedBy host input key
  tenantId :
    Expected input.envelope (js "tenantId") input.expected.tenantId
  cardId : ∀ cardId ∈ input.expected.cardId,
    Json.sameField (input.envelope.field? (js "cardId")) cardId = true
  artifactType :
    Expected input.envelope (js "artifactType") input.expected.artifactType
  artifactId :
    Expected input.envelope (js "artifactId") input.expected.artifactId
  artifactVersion : Expected input.envelope (js "artifactVersion")
    input.expected.artifactVersion

section Host

variable {host : Host} {input : VerifyEnvelopeInput}

/-- The domain of an accepted envelope is a string, and the purpose is the one
for it. -/
theorem EnvelopeAccepted.keyPurpose (accepted : EnvelopeAccepted host input) :
    input.envelope.field? (js "domain") =
        some (.string (Json.text input.envelope (js "domain"))) ∧
      input.envelope.field? (js "keyPurpose") =
        some (.string (keyPurposeForDomain
          (Json.text input.envelope (js "domain"))
          (input.envelope.field? (js "signerType"))).text) := by
  obtain ⟨purpose, purposed, named⟩ := accepted.constraints.keyPurpose
  rw [domainPurpose] at purposed
  split at purposed
  · case h_1 domain stored =>
      rw [text_of_field stored, names_iff.mp named,
        ← Except.ok.inj purposed]
      exact ⟨stored, rfl⟩
  · exact nomatch purposed

theorem EnvelopeAccepted.fields (accepted : EnvelopeAccepted host input) :
    FieldsRead input.envelope := by
  have required := accepted.wellFormed.required
  have version := names_iff.mp accepted.wellFormed.canonicalizationVersion
  constructor
  · intro name listed
    simp only [List.mem_cons, List.not_mem_nil, or_false] at listed
    rcases listed with rfl | rfl | rfl | rfl | rfl | rfl | rfl | rfl | rfl |
      rfl | rfl | rfl | rfl
    · exact field?_of_nonEmpty (required _ (by decide))
    · exact field?_of_nonEmpty (required _ (by decide))
    · exact accepted.keyPurpose.1
    · exact field?_of_nonEmpty (required _ (by decide))
    · rw [text_of_field version, version]
    · exact field?_of_nonEmpty accepted.wellFormed.tenantId
    · exact field?_of_nonEmpty (required _ (by decide))
    · exact field?_of_nonEmpty (required _ (by decide))
    · exact field?_of_nonEmpty (required _ (by decide))
    · exact field?_of_nonEmpty (required _ (by decide))
    · exact field?_of_nonEmpty (required _ (by decide))
    · exact field?_of_nonEmpty (required _ (by decide))
    · exact field?_of_nonEmpty (required _ (by decide))
  · exact field?_of_nullable accepted.wellFormed.cardId
  · exact field?_of_safeInteger accepted.wellFormed.keyVersion

theorem EnvelopeAccepted.signedBy (accepted : EnvelopeAccepted host input) :
    ∃ key, SignedBy host input key := by
  have fields := accepted.fields
  obtain ⟨key, resolved, named, enforced, data, isData, verified⟩ :=
    accepted.key
  rw [keyNamed, Bool.and_eq_true, names_iff, names_iff] at named
  have purposed := statedPurpose_of_names
    (keyPurposeForDomain_ne_verificationOnly _ _) accepted.keyPurpose.2
  rw [verificationUse, purposed] at enforced
  obtain ⟨tenant, version, _⟩ :=
    (enforceKeyForVerification_eq_ok host).mp enforced
  obtain ⟨canonical, isCanonical, sameData⟩ := Outcome.bind_eq_ok.mp isData
  rw [← Except.ok.inj sameData] at verified
  refine ⟨key, resolved, ?_, ⟨_, fields.keyVersion, version⟩, named.1,
    enforced, ⟨canonical, isCanonical, verified⟩⟩
  rw [tenant]
  exact fields.texts _ (by decide)

/-- Whatever is presented and whatever the resolvers answer, an accepted
envelope is bound to its contents, its artifact and a key of its signer. -/
theorem verifyCryptographicEnvelope_sound
    (valid : (verifyCryptographicEnvelope host input).valid = true) :
    EnvelopeSound host input := by
  have accepted := verifyCryptographicEnvelope_valid_iff.mp valid
  obtain ⟨⟨digest, digested, sameDigest⟩, ⟨envelopeId, identified, sameId⟩⟩ :=
    accepted.digests
  have storedDigest := text_of_field (names_iff.mp sameDigest)
  have storedId := text_of_field (names_iff.mp sameId)
  have constraints := accepted.constraints
  refine
    { components := components_of_accepted accepted
      fields := accepted.fields
      envelopeVersion := names_iff.mp accepted.wellFormed.envelopeVersion
      digest := ?_
      envelopeId := ?_
      keyPurpose := accepted.keyPurpose.2
      key := accepted.signedBy
      tenantId := expected_of_mismatches constraints.tenantId
      cardId := ?_
      artifactType := expected_of_mismatches constraints.artifactType
      artifactId := expected_of_mismatches constraints.artifactId
      artifactVersion := expected_of_mismatches constraints.artifactVersion }
  · rw [storedDigest]
    exact digested
  · rw [storedId]
    exact identified
  · intro cardId isExpected
    have matching := constraints.cardId
    rw [Option.mem_def] at isExpected
    rw [cardMismatches, isExpected, Option.any_some,
      Bool.not_eq_false'] at matching
    exact matching

end Host

theorem verifyCryptographicEnvelope_sound_settings :
    EnvelopeSound settingsHost
      (settingsVerification namedManifest (js "2026-07-17T11:00:00.000Z")) :=
  verifyCryptographicEnvelope_sound <|
    verifyCryptographicEnvelope_valid_iff.mpr settingsEnvelope_accepted

/-! ## Evidence -/

/-- The evidence an envelope names is the evidence that is supplied for it. -/
structure EvidenceNamed (host : Host) (input : VerifyEnvelopeInput) :
    Prop where
  manifest :
    input.envelope.field? (js "provenanceManifestId") ≠ some .null →
      ∃ resolve manifest, input.provenanceResolver = some resolve ∧
        resolve (evidenceRequest input.envelope (js "provenanceManifestId")) =
          .ok (some manifest) ∧
        input.envelope.field? (js "provenanceManifestId") =
          some (.string manifest.manifestId) ∧
        verifyProvenanceManifest host manifest = true ∧
        input.envelope.field? (js "tenantId") =
          some (.string manifest.tenantId) ∧
        input.envelope.field? (js "artifactType") =
          some (.string manifest.artifactType) ∧
        input.envelope.field? (js "artifactId") =
          some (.string manifest.artifactId) ∧
        input.envelope.field? (js "artifactVersion") =
          some (.string manifest.artifactVersion) ∧
        input.envelope.field? (js "digest") =
          some (.string manifest.artifactDigest)
  prior :
    input.envelope.field? (js "previousEnvelopeId") ≠ some .null →
      ∃ resolve prior, input.priorEnvelopeResolver = some resolve ∧
        resolve (evidenceRequest input.envelope (js "previousEnvelopeId")) =
          .ok prior ∧
        Json.sameField (prior.field? (js "envelopeId"))
          (input.envelope.field? (js "previousEnvelopeId")) = true ∧
        Json.sameField (prior.field? (js "digest"))
          (input.envelope.field? (js "previousDigest")) = true ∧
        prior.field? (js "tenantId") =
          input.envelope.field? (js "tenantId") ∧
        prior.field? (js "artifactType") =
          input.envelope.field? (js "artifactType") ∧
        prior.field? (js "artifactId") =
          input.envelope.field? (js "artifactId")

/-- A resolver that is asked for a manifest answers with that manifest, if it
answers with one. -/
def AnswersAsked (input : VerifyEnvelopeInput) : Prop :=
  input.envelope.field? (js "provenanceManifestId") ≠ some .null →
    ∀ resolve manifest, input.provenanceResolver = some resolve →
      resolve (evidenceRequest input.envelope (js "provenanceManifestId")) =
        .ok (some manifest) →
      input.envelope.field? (js "provenanceManifestId") =
        some (.string manifest.manifestId)

theorem sameField_text {envelope : Json} {name : JsString}
    {other : Option Json}
    (stored : envelope.field? name = some (.string (Json.text envelope name)))
    (same : Json.sameField other (envelope.field? name) = true) :
    other = envelope.field? name := by
  rw [stored] at same ⊢
  exact (Json.sameField_string _ _).mp same

section Host

variable {host : Host} {input : VerifyEnvelopeInput}

/-- The prior envelope is compared in everything. -/
theorem EnvelopeAccepted.priorNamed (accepted : EnvelopeAccepted host input)
    (linked : input.envelope.field? (js "previousEnvelopeId") ≠ some .null) :
    ∃ resolve prior, input.priorEnvelopeResolver = some resolve ∧
      resolve (evidenceRequest input.envelope (js "previousEnvelopeId")) =
        .ok prior ∧
      Json.sameField (prior.field? (js "envelopeId"))
        (input.envelope.field? (js "previousEnvelopeId")) = true ∧
      Json.sameField (prior.field? (js "digest"))
        (input.envelope.field? (js "previousDigest")) = true ∧
      prior.field? (js "tenantId") = input.envelope.field? (js "tenantId") ∧
      prior.field? (js "artifactType") =
        input.envelope.field? (js "artifactType") ∧
      prior.field? (js "artifactId") =
        input.envelope.field? (js "artifactId") := by
  have texts := accepted.fields.texts
  rcases accepted.prior with ⟨unlinked, _⟩ |
    ⟨_, resolve, prior, isResolver, resolved, isPrior⟩
  · exact absurd unlinked linked
  · simp only [isPriorOf, Bool.and_eq_true] at isPrior
    obtain ⟨⟨⟨⟨⟨_, sameId⟩, sameDigest⟩, tenant⟩, type⟩, id⟩ := isPrior
    exact ⟨resolve, prior, isResolver, resolved, sameId, sameDigest,
      sameField_text (texts _ (by decide)) tenant,
      sameField_text (texts _ (by decide)) type,
      sameField_text (texts _ (by decide)) id⟩

/-- An accepted envelope is linked to the evidence it names exactly when the
resolver of manifests answers with the one it is asked for. -/
theorem verifyCryptographicEnvelope_evidenceNamed_iff
    (valid : (verifyCryptographicEnvelope host input).valid = true) :
    EvidenceNamed host input ↔ AnswersAsked input := by
  have accepted := verifyCryptographicEnvelope_valid_iff.mp valid
  constructor
  · intro named linked resolve manifest isResolver resolved
    obtain ⟨resolve', manifest', isResolver', resolved', sameId, _⟩ :=
      named.manifest linked
    rw [isResolver, Option.some.injEq] at isResolver'
    rw [← isResolver', resolved, Except.ok.injEq, Option.some.injEq]
      at resolved'
    rw [resolved']
    exact sameId
  · intro answers
    refine ⟨fun linked => ?_, accepted.priorNamed⟩
    rcases accepted.manifest with ⟨unlinked, _⟩ |
      ⟨_, resolve, manifest, isResolver, resolved, isManifest⟩
    · exact absurd unlinked linked
    · simp only [isManifestOf, Bool.and_eq_true, names_iff] at isManifest
      obtain ⟨⟨⟨⟨⟨verified, tenant⟩, type⟩, id⟩, version⟩, digest⟩ :=
        isManifest
      exact ⟨resolve, manifest, isResolver, resolved,
        answers linked resolve manifest isResolver resolved, verified, tenant,
        type, id, version, digest⟩

end Host

theorem otherManifest_accepted :
    EnvelopeAccepted settingsHost
      (settingsVerification otherManifest (js "2026-07-17T11:00:00.000Z")) :=
  { settingsEnvelope_accepted with
    prior := settingsEnvelope_accepted.prior
    manifest := .inr ⟨nofun, _, otherManifest, rfl, rfl, by decide +kernel⟩ }

theorem verifyCryptographicEnvelope_evidenceNamed_iff_named :
    EvidenceNamed settingsHost
        (settingsVerification namedManifest
          (js "2026-07-17T11:00:00.000Z")) ↔
      AnswersAsked
        (settingsVerification namedManifest
          (js "2026-07-17T11:00:00.000Z")) :=
  verifyCryptographicEnvelope_evidenceNamed_iff <|
    verifyCryptographicEnvelope_valid_iff.mpr settingsEnvelope_accepted

/-- A younger manifest of the same artifact takes the place of the one that is
signed. -/
theorem otherManifest_not_named :
    (verifyCryptographicEnvelope settingsHost
        (settingsVerification otherManifest
          (js "2026-07-17T11:00:00.000Z"))).valid = true ∧
      ¬EvidenceNamed settingsHost
        (settingsVerification otherManifest
          (js "2026-07-17T11:00:00.000Z")) := by
  constructor
  · exact verifyCryptographicEnvelope_valid_iff.mpr otherManifest_accepted
  · intro named
    obtain ⟨_, manifest, isResolver, resolved, sameId, _⟩ :=
      named.manifest nofun
    rw [← Option.some.inj isResolver, Except.ok.injEq, Option.some.injEq]
      at resolved
    rw [← resolved] at sameId
    have sameText : namedManifest.manifestId = otherManifest.manifestId :=
      Json.string.inj (Option.some.inj sameId)
    exact absurd sameText (by decide +kernel)

/-! ## Expiry -/

/-- The instant an envelope expires at, as `Date.parse` reads it. -/
def expiryInstant (host : Host) (envelope : Json) : Option TimeValue :=
  (fieldText? (envelope.field? (js "expiresAt"))).bind host.dateParse

/-- The verification time is a timestamp and before the expiry. -/
def VerifiedBefore (host : Host) (input : VerifyEnvelopeInput) : Prop :=
  (∃ timestamp, canonicalUtcTimestamp host input.verifiedAt = .ok timestamp) ∧
    ∃ now expiry, occurrence host input.verifiedAt = some now ∧
      expiryInstant host input.envelope = some expiry ∧
      now.milliseconds < expiry.milliseconds

section Host

variable {host : Host} {input : VerifyEnvelopeInput}

/-- An accepted envelope that expires has not expired exactly when both times
can be read. -/
theorem verifyCryptographicEnvelope_verifiedBefore_iff
    (expires : input.envelope.field? (js "expiresAt") ≠ some .null)
    (valid : (verifyCryptographicEnvelope host input).valid = true) :
    VerifiedBefore host input ↔
      (∃ timestamp,
          canonicalUtcTimestamp host input.verifiedAt = .ok timestamp) ∧
        ∃ expiry, expiryInstant host input.envelope = some expiry := by
  have accepted := verifyCryptographicEnvelope_valid_iff.mp valid
  constructor
  · intro before
    obtain ⟨isTimestamp, _, expiry, _, isExpiry, _⟩ := before
    exact ⟨isTimestamp, expiry, isExpiry⟩
  · intro readable
    obtain ⟨⟨timestamp, canonical⟩, expiry, isExpiry⟩ := readable
    obtain ⟨_, now, isNow, shape⟩ :=
      (canonicalUtcTimestamp_eq_ok host).mp canonical
    have evaluated :
        evaluationTimestamp host input.verifiedAt = toISOString now := by
      rw [evaluationTimestamp, canonical, shape]
    have unexpired := accepted.constraints.unexpired
    rw [evaluated, isExpired] at unexpired
    rw [expiryInstant] at isExpiry
    obtain ⟨text, isText, parsed⟩ := Option.bind_eq_some_iff.mp isExpiry
    refine ⟨⟨timestamp, canonical⟩, now, expiry, isNow, isExpiry, ?_⟩
    split at unexpired
    · case h_1 isNull => exact absurd isNull expires
    · simp only [isText, host.dateParse_toISOString, parsed, Except.ok.injEq,
        decide_eq_false_iff_not, not_le] at unexpired
      exact unexpired

end Host

theorem verifyCryptographicEnvelope_verifiedBefore_iff_settings :
    VerifiedBefore settingsHost
        (settingsVerification namedManifest
          (js "2026-07-17T11:00:00.000Z")) ↔
      (∃ timestamp, canonicalUtcTimestamp settingsHost
          (js "2026-07-17T11:00:00.000Z") = .ok timestamp) ∧
        ∃ expiry,
          expiryInstant settingsHost settingsEnvelope.toJson = some expiry :=
  verifyCryptographicEnvelope_verifiedBefore_iff nofun <|
    verifyCryptographicEnvelope_valid_iff.mpr settingsEnvelope_accepted

/-- A day after the expiry, a time without an offset is taken for the epoch. -/
theorem expired_accepted :
    (verifyCryptographicEnvelope settingsHost
        (settingsVerification namedManifest (js "2026-07-19T10:00:00"))).valid =
        true ∧
      settingsEnvelope.toJson.field? (js "expiresAt") ≠ some .null ∧
      ¬VerifiedBefore settingsHost
        (settingsVerification namedManifest (js "2026-07-19T10:00:00")) := by
  refine ⟨verifyCryptographicEnvelope_valid_iff.mpr ?_, nofun, ?_⟩
  · obtain ⟨purpose, tenant, card, type, id, version, _⟩ :=
      settingsEnvelope_accepted.constraints
    exact
      { settingsEnvelope_accepted with
        constraints :=
          ⟨purpose, tenant, card, type, id, version, by decide +kernel⟩
        prior := settingsEnvelope_accepted.prior
        manifest := settingsEnvelope_accepted.manifest }
  · intro before
    obtain ⟨⟨timestamp, canonical⟩, _⟩ := before
    have refused : (canonicalUtcTimestamp settingsHost
        (js "2026-07-19T10:00:00")).isOk = false := by
      decide +kernel
    have sameTime : canonicalUtcTimestamp settingsHost
        (js "2026-07-19T10:00:00") = .ok timestamp := canonical
    rw [sameTime] at refused
    exact nomatch refused

end BidayaxExecutive.Trust
