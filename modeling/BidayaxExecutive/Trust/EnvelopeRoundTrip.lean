import BidayaxExecutive.Trust.EnvelopeSoundness

/-!
# Built envelopes verify

The builder never canonicalizes the finished envelope.  It canonicalizes the
identity material inside the record that is hashed, and the names and versions
of that record take more bytes than the identifier and the signature that come
in later.  So the finished envelope is within the limit whenever its
identifier could be computed.
-/

namespace BidayaxExecutive.Trust

open BidayaxExecutive.Runtime JsString
open BidayaxExecutive.Library.Guards

/-! ## The builder -/

/-- The fields that are in the identity material. -/
def isIdentityKey (key : JsString) : Bool :=
  key != js "envelopeId" && key != js "signature"

theorem envelopeIdentityMaterial_eq (envelope : CryptographicEnvelope) :
    envelopeIdentityMaterial envelope.toJson =
      .object (envelope.fields.filter fun field => isIdentityKey field.1) :=
  rfl

/-- What the digest of an envelope binds. -/
def CryptographicEnvelope.binding (envelope : CryptographicEnvelope) :
    DomainDigestInput where
  domain := envelope.domain
  schemaVersion := envelope.schemaVersion
  canonicalizationVersion := some envelope.canonicalizationVersion
  tenantId := envelope.tenantId
  cardId := envelope.cardId
  artifactType := envelope.artifactType
  artifactId := envelope.artifactId
  artifactVersion := envelope.artifactVersion
  payload := envelope.payload.toJs

theorem domainDigestInput_toJson (envelope : CryptographicEnvelope) :
    domainDigestInput envelope.toJson = envelope.binding := by
  have card : Json.nullable envelope.toJson (js "cardId") =
      envelope.cardId := by
    have stored : envelope.toJson.field? (js "cardId") =
        some (nullableText envelope.cardId) :=
      rfl
    rw [Json.nullable, stored]
    cases envelope.cardId with
    | none => rfl
    | some cardId => rfl
  rw [domainDigestInput, card]
  rfl

/-- What is hashed and signed does not depend on what it gives. -/
theorem computeEnvelopeId_finished (host : Host)
    (envelope : CryptographicEnvelope) (envelopeId signature : JsString) :
    computeEnvelopeId host { envelope with envelopeId, signature }.toJson =
      computeEnvelopeId host envelope.toJson :=
  rfl

theorem signaturePreimage_finished (host : Host)
    (envelope : CryptographicEnvelope) (signature : JsString) :
    signaturePreimage host { envelope with signature }.toJson =
      signaturePreimage host envelope.toJson :=
  rfl

/-- The fields of a built envelope that are taken from the input. -/
def BuildEnvelopeInput.finished (input : BuildEnvelopeInput)
    (envelope : CryptographicEnvelope) : CryptographicEnvelope :=
  { input.unsigned envelope.signedAt envelope.expiresAt envelope.payload
      envelope.digest with
    envelopeId := envelope.envelopeId
    signature := envelope.signature }

/-- Everything the builder has done for an envelope. -/
structure EnvelopeBuilt (host : Host) (input : BuildEnvelopeInput)
    (envelope : CryptographicEnvelope) : Prop where
  domain : isSecurityDomain input.domain = true
  linkage : input.previousEnvelopeId.isNone = input.previousDigest.isNone
  metadata : (validateSafeMetadata host (some input.metadata)).valid = true
  signer : input.key.identityId = input.signerId
  contents : envelope = input.finished envelope
  signedAt : canonicalUtcTimestamp host input.signedAt = .ok envelope.signedAt
  schemaVersion : isBlank input.schemaVersion = false
  digest : createDomainDigest host envelope.binding = .ok envelope.digest
  envelopeId : computeEnvelopeId host envelope.toJson =
    .ok envelope.envelopeId
  signature : ∃ data record,
    signaturePreimage host envelope.toJson = .ok data ∧
      signBytes host data input.key input.provider envelope.keyPurpose
        envelope.signedAt input.tenantId = .ok record ∧
      envelope.signature = record.value

section Host

variable {host : Host} {input : BuildEnvelopeInput}
  {envelope : CryptographicEnvelope}

theorem valid_of_assertSafeMetadata {value : Json}
    (safe : assertSafeMetadata host value = .ok ()) :
    (validateSafeMetadata host (some value)).valid = true := by
  rw [assertSafeMetadata] at safe
  by_contra unsafeValue
  simp [unsafeValue] at safe

theorem visible_of_canonicalize {value : JsValue}
    {options : CanonicalizationOptions} {result : Canonicalized}
    (canonical : canonicalize host value options = .ok result) :
    isBlank options.schemaVersion = false := by
  obtain ⟨limit, form, isLimit, _⟩ := (canonicalize_eq_ok host).mp canonical
  by_contra blank
  simp [byteLimit?, blank] at isLimit

theorem buildCryptographicEnvelope_built
    (built : buildCryptographicEnvelope host input = .ok envelope) :
    EnvelopeBuilt host input envelope := by
  unfold buildCryptographicEnvelope at built
  rw [guard_eq_ok, guard_eq_ok] at built
  obtain ⟨domain, linkage, built⟩ := built
  obtain ⟨⟨⟩, safe, built⟩ := bind_eq_ok.mp built
  rw [guard_eq_ok] at built
  obtain ⟨signer, built⟩ := built
  obtain ⟨signedAt, isSignedAt, built⟩ := bind_eq_ok.mp built
  obtain ⟨expiresAt, isExpiresAt, built⟩ := bind_eq_ok.mp built
  rw [guard_eq_ok] at built
  obtain ⟨_, built⟩ := built
  obtain ⟨normalized, canonical, built⟩ := bind_eq_ok.mp built
  cases parsed : jsonParse normalized.json with
  | none =>
      rw [parsed] at built
      exact nomatch built
  | some payload =>
      rw [parsed] at built
      obtain ⟨digest, digested, built⟩ := bind_eq_ok.mp built
      obtain ⟨envelopeId, identified, built⟩ := bind_eq_ok.mp built
      obtain ⟨data, isData, built⟩ := bind_eq_ok.mp built
      obtain ⟨record, signed, built⟩ := bind_eq_ok.mp built
      have isDomain : isSecurityDomain input.domain = true := by
        simpa using domain
      have isId := (computeEnvelopeId_finished host
        (input.unsigned signedAt expiresAt payload digest) envelopeId
        record.value).trans identified
      have isPreimage := (signaturePreimage_finished host
        { input.unsigned signedAt expiresAt payload digest with envelopeId }
        record.value).trans isData
      have shape := (Except.ok.inj built).symm
      subst shape
      exact
        { domain := isDomain
          linkage := not_not.mp linkage
          metadata := valid_of_assertSafeMetadata safe
          signer := not_not.mp signer
          contents := rfl
          signedAt := isSignedAt
          schemaVersion := visible_of_canonicalize canonical
          digest := digested
          envelopeId := isId
          signature := ⟨data, record, isPreimage, signed, rfl⟩ }

/-! ## The signature -/

theorem fields_of_validateTrustKey {key : TrustKey}
    (valid : (validateTrustKey host key.toJson).valid = true) :
    nonEmpty (some (.string key.tenantId)) = true ∧
      nonEmpty (some (.string key.keyId)) = true ∧
      safeInteger (some (.number key.keyVersion)) = true := by
  have record : isRecord key.toJson = true := rfl
  have tenantId : key.toJson.field? (js "tenantId") =
      some (.string key.tenantId) := rfl
  have keyId : key.toJson.field? (js "keyId") = some (.string key.keyId) := rfl
  have version : key.toJson.field? (js "keyVersion") =
      some (.number key.keyVersion) := rfl
  simp only [validateTrustKey, validateVersionedTenantStructure, record,
    if_true, validationOf, List.isEmpty_iff, List.append_eq_nil_iff,
    versionedTenantErrors_eq_nil, trustKeyErrors, tenantId, keyId, version,
    ite_eq_left_iff, List.cons_ne_self, imp_false, not_not,
    Bool.and_eq_true] at valid
  obtain ⟨⟨_, isTenant, _⟩, ⟨⟨⟨⟨⟨isKeyId, isVersion⟩, _⟩, _⟩, _⟩, _⟩, _⟩ :=
    valid
  exact ⟨isTenant, isKeyId, isVersion⟩

/-- ECDSA is approved for interoperation alone, which no purpose is. -/
theorem algorithm_of_enforced {algorithm : SignatureAlgorithm}
    {purpose : KeyPurpose} {entry : AlgorithmPolicyEntry}
    (allowed : enforceAlgorithmPolicy
      { algorithm := some (.string algorithm.text)
        context := signatureContextForPurpose purpose
        operation := .signature
        policyVersion := algorithmPolicyVersion } = .ok entry) :
    algorithm = .ed25519 := by
  cases algorithm with
  | ed25519 => rfl
  | ecdsaP256Sha256 =>
      have refused : (enforceAlgorithmPolicy
          { algorithm := some (.string SignatureAlgorithm.ecdsaP256Sha256.text)
            context := signatureContextForPurpose purpose
            operation := .signature
            policyVersion := algorithmPolicyVersion }).isOk = false := by
        cases purpose <;> decide
      rw [allowed] at refused
      exact nomatch refused

theorem signBytes_eq_ok {data : List UInt8} {key : TrustKey}
    {provider : SignatureProvider} {purpose : KeyPurpose}
    {signedAt tenantId : JsString} {record : SignatureRecord}
    (signed : signBytes host data key provider purpose signedAt tenantId =
      .ok record) :
    enforceKeyForSigning host key tenantId purpose signedAt = .ok () ∧
      key.algorithm = .ed25519 ∧
      ∃ request signature, request.data = data ∧
        provider request = .ok signature ∧
        record.value = Base64Url.encode signature := by
  rw [signBytes] at signed
  obtain ⟨⟨⟩, enforced, signed⟩ := bind_eq_ok.mp signed
  obtain ⟨entry, allowed, signed⟩ := bind_eq_ok.mp signed
  obtain ⟨signature, provided, signed⟩ := bind_eq_ok.mp signed
  obtain ⟨timestamp, _, signed⟩ := bind_eq_ok.mp signed
  refine ⟨enforced, algorithm_of_enforced allowed, _, signature, rfl, provided,
    ?_⟩
  rw [← Except.ok.inj signed]

/-- A key that may sign vouches for what it signs. -/
theorem enforceKeyForVerification_of_signing {key : TrustKey}
    {tenantId signedAt : JsString} {purpose : KeyPurpose}
    (enforced : enforceKeyForSigning host key tenantId purpose signedAt =
      .ok ()) (allowRetiredHistorical : Bool) :
    enforceKeyForVerification host key
      { tenantId
        keyVersion := key.keyVersion
        purpose
        signedAt
        allowRetiredHistorical } = .ok () := by
  obtain ⟨valid, tenant, rightPurpose, active, window⟩ :=
    (enforceKeyForSigning_eq_ok host).mp enforced
  have safe := isSafeInteger_of_validateTrustKey host valid
  obtain ⟨number, integral⟩ := JsNumber.toInt?_of_isSafeInteger safe
  have sameVersion : key.keyVersion.strictEquals key.keyVersion = true := by
    rw [JsNumber.strictEquals_of_toInt? integral integral, beq_self_eq_true]
  have cutoff : key.cutoff = key.validUntil := by
    rw [TrustKey.cutoff, active]
    cases key.validUntil with
    | none => rfl
    | some validUntil => rfl
  rw [enforceKeyForVerification_eq_ok, cutoff]
  exact ⟨tenant, sameVersion, .inl rightPurpose.1, .inl active, window⟩

/-- The provider gives signatures of 64 bytes that the public key accepts. -/
def Signs (host : Host) (publicKey : JsString) (provider : SignatureProvider) :
    Prop :=
  ∀ request signature, provider request = .ok signature →
    signature.length = 64 ∧
      host.ed25519Verify publicKey request.data signature = some true

theorem EnvelopeBuilt.signing (built : EnvelopeBuilt host input envelope) :
    enforceKeyForSigning host input.key input.tenantId envelope.keyPurpose
        envelope.signedAt = .ok () ∧
      input.key.algorithm = .ed25519 ∧
      ∃ request signature,
        signaturePreimage host envelope.toJson = .ok request.data ∧
          input.provider request = .ok signature ∧
          envelope.signature = Base64Url.encode signature := by
  obtain ⟨data, record, isData, signed, isSignature⟩ := built.signature
  obtain ⟨enforced, algorithm, request, signature, sameData, provided,
    isValue⟩ := signBytes_eq_ok signed
  refine ⟨enforced, algorithm, request, signature, ?_, provided,
    isSignature.trans isValue⟩
  rw [sameData]
  exact isData

/-! ## The finished envelope is canonical -/

/-- An identifier and a signature of the lengths the builder gives them. -/
structure Sealed (envelope : CryptographicEnvelope) : Prop where
  envelopeId : ∃ digest, isHexDigest digest = true ∧
    envelope.envelopeId = js "env_" ++ digest
  signature : ∃ signature : List UInt8, signature.length = 64 ∧
    envelope.signature = Base64Url.encode signature

theorem plain_of_mem_encode {data : List UInt8} {unit : UInt16}
    (member : unit ∈ Base64Url.encode data) :
    unit < 128 ∧ isVerbatim unit = true ∧ unit ≠ 58 := by
  have plain : ∀ sextet < 64,
      Base64Url.sextetUnit sextet < 128 ∧
        isVerbatim (Base64Url.sextetUnit sextet) = true ∧
        Base64Url.sextetUnit sextet ≠ 58 := by
    decide
  obtain ⟨sextet, inSextets, rfl⟩ := List.mem_map.mp member
  exact plain sextet (Base64Url.sextets_lt inSextets)

/-- Canonicalization leaves a signature as it is, and prints it as it is. -/
theorem canonical_encode (host : Host) (data : List UInt8) :
    NormalText host (Base64Url.encode data) ∧
      (canonicalBytes (.string (Base64Url.encode data))).length =
        (data.length * 4 + 2) / 3 + 2 := by
  have ascii : isAscii (Base64Url.encode data) = true := by
    rw [isAscii, List.all_eq_true]
    intro unit member
    exact decide_eq_true (plain_of_mem_encode member).1
  constructor
  · apply normalText_of_no_colon host ascii
    intro member
    exact (plain_of_mem_encode member).2.2 rfl
  · rw [length_canonicalBytes_string ascii
      fun unit member => (plain_of_mem_encode member).2.1,
      Base64Url.length_encode]

theorem plainKeys_fields (envelope : CryptographicEnvelope) :
    plainKeys (envelope.fields.map Prod.fst) = true := by
  simp only [CryptographicEnvelope.fields, List.map_cons, List.map_nil]
  decide +kernel

theorem plainKeys_identity (envelope : CryptographicEnvelope) :
    plainKeys ((envelope.fields.filter fun field =>
      isIdentityKey field.1).map Prod.fst) = true := by
  have keys : (envelope.fields.filter fun field =>
      isIdentityKey field.1).map Prod.fst =
        (envelope.fields.map Prod.fst).filter isIdentityKey := by
    rw [List.filter_map]
    rfl
  rw [keys]
  simp only [CryptographicEnvelope.fields, List.map_cons, List.map_nil]
  decide +kernel

/-- The bytes of the finished envelope and of its identity material. -/
theorem canonical_finished (isSealed : Sealed envelope) {form : Json}
    (identity : Canonical host
      (envelopeIdentityMaterial envelope.toJson).toJs form) :
    ∃ whole, Canonical host envelope.toJson.toJs whole ∧
      (canonicalBytes whole).length = (canonicalBytes form).length + 185 := by
  obtain ⟨digest, hex, isId⟩ := isSealed.envelopeId
  obtain ⟨signature, length, isSignature⟩ := isSealed.signature
  have signed := canonical_encode host signature
  have identified : NormalText host (js "env_" ++ digest) :=
    normalText_marked host (js "env_") (by decide) (by decide) hex
  have idLength := length_canonicalBytes_digest (js "env_") (by decide)
    (List.all_eq_true.mp (by decide)) hex
  rw [envelopeIdentityMaterial_eq, toJs_object,
    canonical_record_iff host (by
      rw [List.map_map]
      exact plainKeys_identity envelope)] at identity
  obtain ⟨kept, keptCanonical, rfl⟩ := identity
  have keptFilter : ((envelope.fields.map fun field =>
      (field.1, field.2.toJs)).filter fun field => isIdentityKey field.1) =
        (envelope.fields.filter fun field => isIdentityKey field.1).map
          fun field => (field.1, field.2.toJs) :=
    List.filter_map
  have othersFilter : ((envelope.fields.map fun field =>
      (field.1, field.2.toJs)).filter fun field => !isIdentityKey field.1) =
        [(js "envelopeId", .string envelope.envelopeId),
          (js "signature", .string envelope.signature)] :=
    List.filter_map
  have othersCanonical : CanonicalFields host
      [(js "envelopeId", .string envelope.envelopeId),
        (js "signature", .string envelope.signature)]
      [(js "envelopeId", .string envelope.envelopeId),
        (js "signature", .string envelope.signature)] := by
    rw [isId, isSignature]
    exact .cons ⟨rfl, (canonical_string_iff host identified).mpr rfl⟩ <|
      .cons ⟨rfl, (canonical_string_iff host signed.1).mpr rfl⟩ .nil
  rw [← keptFilter] at keptCanonical
  rw [← othersFilter] at othersCanonical
  obtain ⟨entries, entriesCanonical, order⟩ :=
    canonicalFields_of_partition host (fun field => isIdentityKey field.1)
      keptCanonical othersCanonical
  refine ⟨.object entries, ?_, ?_⟩
  · rw [CryptographicEnvelope.toJson, toJs_object, canonical_record_iff host]
    · exact ⟨entries, entriesCanonical, rfl⟩
    · rw [List.map_map]
      exact plainKeys_fields envelope
  · have nonempty : kept ≠ [] := by
      intro empty
      rw [empty] at keptCanonical
      exact nomatch keptCanonical.length_eq
    rw [length_canonicalBytes_object_perm order, List.cons_append,
      List.cons_append, List.nil_append,
      length_canonicalBytes_object_cons (List.cons_ne_nil _ _),
      length_canonicalBytes_object_cons nonempty, fieldLength, fieldLength,
      isId, isSignature, idLength, signed.2, length]
    have idKey : (utf8 (quote (js "envelopeId"))).length = 12 := by
      decide +kernel
    have signatureKey : (utf8 (quote (js "signature"))).length = 11 := by
      decide +kernel
    have marker : (js "env_").length = 4 := rfl
    simp only [idKey, signatureKey, marker]
    omega

/-- The record that is hashed takes 192 bytes around the identity material. -/
theorem length_internalForm (form : Json) :
    (canonicalBytes (internalForm (js "cryptographic-envelope-id/v1")
      (js "cryptographic-envelope-id-1") form)).length =
        (canonicalBytes form).length + 192 := by
  have policy : fieldLength (js "algorithmPolicyVersion",
      .string algorithmPolicyVersion) = 52 := by
    decide +kernel
  have version : fieldLength (js "canonicalizationVersion",
      .string canonicalizationVersion) = 43 := by
    decide +kernel
  have context : fieldLength (js "context",
      .string (js "cryptographic-envelope-id/v1")) = 41 := by
    decide +kernel
  have schema : fieldLength (js "schemaVersion",
      .string (js "cryptographic-envelope-id-1")) = 46 := by
    decide +kernel
  have valueKey : (utf8 (quote (js "value"))).length = 7 := by
    decide +kernel
  have value : fieldLength (js "value", form) =
      (canonicalBytes form).length + 9 := by
    rw [fieldLength, valueKey]
    change 7 + (canonicalBytes form).length + 2 = _
    omega
  rw [internalForm, length_canonicalBytes_object]
  simp only [List.map_cons, List.map_nil, List.sum_cons, List.sum_nil, policy,
    version, context, schema, value]
  omega

theorem EnvelopeBuilt.sealed (built : EnvelopeBuilt host input envelope)
    (signs : Signs host input.key.publicKey input.provider) :
    Sealed envelope := by
  obtain ⟨digest, digested, isId⟩ := bind_eq_ok.mp built.envelopeId
  obtain ⟨bytes, _, isDigest⟩ := (internalDigest_eq_ok host).mp digested
  obtain ⟨_, _, request, signature, _, provided, isSignature⟩ := built.signing
  constructor
  · exact ⟨digest, isDigest ▸ isHexDigest_sha256Bytes bytes,
      (Except.ok.inj isId).symm⟩
  · exact ⟨signature, (signs request signature provided).1, isSignature⟩

/-- The finished envelope is within the limit. -/
theorem EnvelopeBuilt.canonicalizable
    (built : EnvelopeBuilt host input envelope)
    (signs : Signs host input.key.publicKey input.provider) :
    isCanonicalizable host envelope.toJson.toJs (js "runtime-structure-1") =
      true := by
  obtain ⟨digest, digested, _⟩ := bind_eq_ok.mp built.envelopeId
  obtain ⟨bytes, hashed, _⟩ := (internalDigest_eq_ok host).mp digested
  have contextNormal : NormalText host (js "cryptographic-envelope-id/v1") :=
    normalText_of_isAscii host (by decide) (by decide)
  have schemaNormal : NormalText host (js "cryptographic-envelope-id-1") :=
    normalText_of_isAscii host (by decide) (by decide)
  obtain ⟨form, identity, isBytes, small⟩ :=
    (internalPreimage_eq_ok host contextNormal schemaNormal).mp hashed
  obtain ⟨whole, canonical, length⟩ :=
    canonical_finished (built.sealed signs) identity
  rw [isBytes, length_internalForm] at small
  rw [isCanonicalizable, isOk_iff]
  exact ⟨_, (canonicalize_default_eq_ok host (by decide)).mpr
    ⟨whole, canonical, by omega, rfl⟩⟩

/-! ## Acceptance -/

theorem enforceAlgorithmPolicy_ed25519 {context : AlgorithmContext}
    (signing : context ∈ [.platformSignature, .auditSignature,
      .provenanceSignature, .capitalDocumentSignature,
      .tenantSignature]) :
    ∃ entry, enforceAlgorithmPolicy
      { algorithm := some (.string SignatureAlgorithm.ed25519.text)
        context
        operation := .signature
        policyVersion := algorithmPolicyVersion } = .ok entry := by
  simp only [List.mem_cons, List.not_mem_nil, or_false] at signing
  rcases signing with rfl | rfl | rfl | rfl | rfl
  · exact ⟨_, rfl⟩
  · exact ⟨_, rfl⟩
  · exact ⟨_, rfl⟩
  · exact ⟨_, rfl⟩
  · exact ⟨_, rfl⟩

theorem signatureContext_mem (value : Json) (purpose : KeyPurpose) :
    signatureContext value purpose ∈ [.platformSignature, .auditSignature,
      .provenanceSignature, .capitalDocumentSignature,
      AlgorithmContext.tenantSignature] := by
  unfold signatureContext
  split_ifs <;> simp

theorem domainPurpose_toJson (envelope : CryptographicEnvelope) :
    domainPurpose envelope.toJson =
      .ok (keyPurposeForDomain envelope.domain
        (some (.string envelope.signerType.text))) :=
  rfl

theorem enforceAlgorithms_toJson (contents : envelope = input.finished envelope)
    (algorithm : input.key.algorithm = .ed25519) :
    enforceAlgorithms envelope.toJson = .ok () := by
  have policyVersion :
      Json.text envelope.toJson (js "algorithmPolicyVersion") =
        algorithmPolicyVersion := by
    rw [contents]
    rfl
  have digestAlgorithm : envelope.toJson.field? (js "digestAlgorithm") =
      some (.string defaultDigestAlgorithm) := by
    rw [contents]
    rfl
  have signatureAlgorithm :
      envelope.toJson.field? (js "signatureAlgorithm") =
        some (.string SignatureAlgorithm.ed25519.text) := by
    rw [← algorithm, contents]
    rfl
  obtain ⟨digestEntry, digestAllowed⟩ := enforceAlgorithmPolicy_artifactDigest
  obtain ⟨entry, allowed⟩ := enforceAlgorithmPolicy_ed25519
    (signatureContext_mem envelope.toJson (keyPurposeForDomain envelope.domain
      (some (.string envelope.signerType.text))))
  simp only [enforceAlgorithms, policyVersion, digestAlgorithm,
    signatureAlgorithm]
  exact bind_eq_ok.mpr ⟨digestEntry, digestAllowed,
    bind_eq_ok.mpr ⟨_, domainPurpose_toJson envelope,
      bind_eq_ok.mpr ⟨entry, allowed, rfl⟩⟩⟩

theorem isText_encode {data : List UInt8} (nonempty : data ≠ []) :
    Base64Url.isText (Base64Url.encode data) = true := by
  have written : Base64Url.encode data ≠ [] := by
    have positive := List.length_pos_of_ne_nil nonempty
    apply List.ne_nil_of_length_pos
    rw [Base64Url.length_encode]
    omega
  simp only [Base64Url.isText, Bool.and_eq_true, Bool.not_eq_true',
    List.isEmpty_eq_false_iff, List.all_eq_true]
  exact ⟨written, fun unit member => Base64Url.isUnit_of_mem_encode member⟩

theorem nonEmpty_string {text : JsString} :
    nonEmpty (some (.string text)) = true ↔ text ≠ [] := by
  simp [nonEmpty]

theorem sameField_nullableText (text : Option JsString) :
    Json.sameField (some (nullableText text)) (some .null) = text.isNone := by
  cases text with
  | none => rfl
  | some text => rfl

/-- The texts that the builder takes from its input without a check. -/
structure Named (input : BuildEnvelopeInput) : Prop where
  artifactType : input.artifactType ≠ []
  artifactId : input.artifactId ≠ []
  artifactVersion : input.artifactVersion ≠ []
  signerId : input.signerId ≠ []

/-- A field that is taken from the input has what the input gives it. -/
theorem EnvelopeBuilt.field {Value : Type}
    (built : EnvelopeBuilt host input envelope)
    (view : CryptographicEnvelope → Value) :
    view envelope = view (input.finished envelope) :=
  congrArg view built.contents

theorem EnvelopeBuilt.schemaVersion_ne_nil
    (built : EnvelopeBuilt host input envelope) :
    envelope.schemaVersion ≠ [] := by
  rw [built.field (·.schemaVersion)]
  intro empty
  have visible := built.schemaVersion
  rw [show input.schemaVersion = [] from empty] at visible
  exact absurd visible (by decide)

theorem EnvelopeBuilt.digest_ne_nil
    (built : EnvelopeBuilt host input envelope) : envelope.digest ≠ [] := by
  obtain ⟨bytes, _, isDigest⟩ := createDomainDigest_eq_ok built.digest
  have length := isHexDigest_length (isHexDigest_sha256Bytes bytes)
  rw [← isDigest] at length
  exact List.ne_nil_of_length_eq_add_one length

theorem EnvelopeBuilt.signedAt_ne_nil
    (built : EnvelopeBuilt host input envelope) : envelope.signedAt ≠ [] := by
  obtain ⟨_, time, _, isTime⟩ :=
    (canonicalUtcTimestamp_eq_ok host).mp built.signedAt
  rw [isTime]
  exact toISOString_ne_nil time

theorem Sealed.envelopeId_ne_nil (isSealed : Sealed envelope) :
    envelope.envelopeId ≠ [] := by
  obtain ⟨digest, _, isId⟩ := isSealed.envelopeId
  rw [isId]
  exact List.cons_ne_nil _ _

theorem Sealed.signature_ne_nil (isSealed : Sealed envelope) :
    envelope.signature ≠ [] := by
  obtain ⟨signature, length, isSignature⟩ := isSealed.signature
  rw [isSignature]
  apply List.ne_nil_of_length_eq_add_one
  rw [Base64Url.length_encode, length]

/-- Every text that is required is there and not empty. -/
theorem EnvelopeBuilt.required (built : EnvelopeBuilt host input envelope)
    (named : Named input) (isSealed : Sealed envelope)
    (keyId : nonEmpty (some (.string input.key.keyId)) = true) :
    ∀ name ∈ envelopeRequiredStrings,
      nonEmpty (envelope.toJson.field? name) = true := by
  intro name listed
  simp only [envelopeRequiredStrings, List.mem_cons, List.not_mem_nil,
    or_false] at listed
  rcases listed with rfl | rfl | rfl | rfl | rfl | rfl | rfl | rfl | rfl | rfl
  · exact nonEmpty_string.mpr isSealed.envelopeId_ne_nil
  · exact nonEmpty_string.mpr <|
      (built.field (·.artifactType)).trans_ne named.artifactType
  · exact nonEmpty_string.mpr <|
      (built.field (·.artifactId)).trans_ne named.artifactId
  · exact nonEmpty_string.mpr <|
      (built.field (·.artifactVersion)).trans_ne named.artifactVersion
  · exact nonEmpty_string.mpr built.schemaVersion_ne_nil
  · exact nonEmpty_string.mpr built.digest_ne_nil
  · exact nonEmpty_string.mpr <|
      (built.field (·.keyId)).trans_ne (nonEmpty_string.mp keyId)
  · exact nonEmpty_string.mpr <|
      (built.field (·.signerId)).trans_ne named.signerId
  · exact nonEmpty_string.mpr built.signedAt_ne_nil
  · exact nonEmpty_string.mpr isSealed.signature_ne_nil

theorem EnvelopeBuilt.priorLinkage
    (built : EnvelopeBuilt host input envelope) :
    Json.sameField (envelope.toJson.field? (js "previousEnvelopeId"))
        (some .null) =
      Json.sameField (envelope.toJson.field? (js "previousDigest"))
        (some .null) := by
  have both : envelope.previousEnvelopeId.isNone =
      envelope.previousDigest.isNone := by
    rw [built.field (·.previousEnvelopeId), built.field (·.previousDigest)]
    exact built.linkage
  exact (sameField_nullableText _).trans
    (both.trans (sameField_nullableText _).symm)

theorem EnvelopeBuilt.wellFormed (built : EnvelopeBuilt host input envelope)
    (named : Named input)
    (signs : Signs host input.key.publicKey input.provider) :
    EnvelopeWellFormed host envelope.toJson := by
  obtain ⟨valid, tenant, _⟩ :=
    (enforceKeyForSigning_eq_ok host).mp built.signing.1
  obtain ⟨tenantId, keyId, keyVersion⟩ := fields_of_validateTrustKey valid
  have isTenant : envelope.tenantId = input.key.tenantId :=
    (built.field (·.tenantId)).trans tenant.symm
  have isVersion : envelope.keyVersion = input.key.keyVersion :=
    built.field (·.keyVersion)
  have isDomain : envelope.domain = input.domain := built.field (·.domain)
  have isMetadata : envelope.metadata = input.metadata :=
    built.field (·.metadata)
  exact
    { record := rfl
      structureVersion := by
        rw [built.contents]
        rfl
      tenantId := nonEmpty_string.mpr <|
        isTenant.trans_ne (nonEmpty_string.mp tenantId)
      canonicalizable := built.canonicalizable signs
      required := built.required named (built.sealed signs) keyId
      envelopeVersion := by
        rw [built.contents]
        rfl
      canonicalizationVersion := by
        rw [built.contents]
        rfl
      algorithmPolicyVersion := by
        rw [built.contents]
        rfl
      cardId := ⟨envelope.cardId, rfl⟩
      domain := ⟨envelope.domain, rfl, isDomain ▸ built.domain⟩
      keyVersion := by
        rw [← isVersion] at keyVersion
        exact keyVersion
      priorLinkage := built.priorLinkage
      metadata := by
        have safe := built.metadata
        rw [← isMetadata] at safe
        exact safe }

/-- The envelope is presented with the key that signed it, before it expires,
with nothing expected of it, and with the evidence it names. -/
structure Presented (host : Host) (key : TrustKey)
    (envelope : CryptographicEnvelope) (input : VerifyEnvelopeInput) :
    Prop where
  shown : input.envelope = envelope.toJson
  unexpecting : input.expected = {}
  key : input.keyResolver
    ⟨envelope.keyId, envelope.keyVersion, envelope.tenantId⟩ = .ok (some key)
  timestamp : ∃ timestamp,
    canonicalUtcTimestamp host input.verifiedAt = .ok timestamp
  unexpired : ∀ expiresAt ∈ envelope.expiresAt, ∃ now expiry,
    occurrence host input.verifiedAt = some now ∧
      host.dateParse expiresAt = some expiry ∧
      now.milliseconds < expiry.milliseconds
  prior : envelope.previousEnvelopeId ≠ none →
    ∃ resolve prior, input.priorEnvelopeResolver = some resolve ∧
      resolve ⟨some (nullableText envelope.previousEnvelopeId),
        envelope.tenantId⟩ = .ok prior ∧
      isPriorOf envelope.toJson prior = true
  manifest : envelope.provenanceManifestId ≠ none →
    ∃ resolve manifest, input.provenanceResolver = some resolve ∧
      resolve ⟨some (nullableText envelope.provenanceManifestId),
        envelope.tenantId⟩ = .ok (some manifest) ∧
      isManifestOf host envelope.toJson manifest = true

variable {verification : VerifyEnvelopeInput}

theorem Presented.isExpired
    (presented : Presented host input.key envelope verification) :
    isExpired host envelope.toJson
      (evaluationTimestamp host verification.verifiedAt) = .ok false := by
  obtain ⟨timestamp, canonical⟩ := presented.timestamp
  obtain ⟨_, time, isTime, shape⟩ :=
    (canonicalUtcTimestamp_eq_ok host).mp canonical
  have evaluated : evaluationTimestamp host verification.verifiedAt =
      toISOString time := by
    rw [evaluationTimestamp, canonical, shape]
  have stored : envelope.toJson.field? (js "expiresAt") =
      some (nullableText envelope.expiresAt) :=
    rfl
  rw [evaluated, BidayaxExecutive.Trust.isExpired, stored]
  cases expires : envelope.expiresAt with
  | none => rfl
  | some expiresAt =>
      obtain ⟨now, expiry, isNow, parsed, before⟩ :=
        presented.unexpired expiresAt expires
      rw [isTime, Option.some.injEq] at isNow
      rw [← isNow] at before
      have later : ¬expiry.milliseconds ≤ time.milliseconds := by
        omega
      simp [nullableText, fieldText?, Json.toText?, Json.elementText?,
        host.dateParse_toISOString, parsed, later]

theorem field?_eq_null_iff {envelope : Json} {name : JsString}
    {text : Option JsString}
    (stored : envelope.field? name = some (nullableText text)) :
    envelope.field? name = some .null ↔ text = none := by
  rw [stored]
  cases text with
  | none => simp [nullableText]
  | some text => simp [nullableText]

theorem Presented.priorLinked
    (presented : Presented host input.key envelope verification) :
    PriorLinked verification := by
  have stored : envelope.toJson.field? (js "previousEnvelopeId") =
      some (nullableText envelope.previousEnvelopeId) :=
    rfl
  rw [PriorLinked, presented.shown, presented.unexpecting]
  by_cases unlinked : envelope.previousEnvelopeId = none
  · exact .inl ⟨(field?_eq_null_iff stored).mpr unlinked, rfl⟩
  · refine .inr ⟨?_, presented.prior unlinked⟩
    exact (field?_eq_null_iff stored).not.mpr unlinked

theorem Presented.manifestLinked
    (presented : Presented host input.key envelope verification) :
    ManifestLinked host verification := by
  have stored : envelope.toJson.field? (js "provenanceManifestId") =
      some (nullableText envelope.provenanceManifestId) :=
    rfl
  rw [ManifestLinked, presented.shown, presented.unexpecting]
  by_cases unlinked : envelope.provenanceManifestId = none
  · exact .inl ⟨(field?_eq_null_iff stored).mpr unlinked, rfl⟩
  · refine .inr ⟨?_, presented.manifest unlinked⟩
    exact (field?_eq_null_iff stored).not.mpr unlinked

theorem Presented.accepted (built : EnvelopeBuilt host input envelope)
    (named : Named input)
    (signs : Signs host input.key.publicKey input.provider)
    (presented : Presented host input.key envelope verification) :
    EnvelopeAccepted host verification := by
  have wellFormed := built.wellFormed named signs
  obtain ⟨enforced, algorithm, request, signature, isData, provided,
    isSignature⟩ := built.signing
  have isUnexpired := presented.isExpired
  obtain ⟨shown, keyResolver, priorEnvelopeResolver, provenanceResolver,
    expected, allowRetiredHistorical, verifiedAt⟩ := verification
  obtain rfl : shown = envelope.toJson := presented.shown
  obtain rfl : expected = {} := presented.unexpecting
  have purposed : envelope.toJson.field? (js "keyPurpose") =
      some (.string (keyPurposeForDomain envelope.domain
        (some (.string envelope.signerType.text))).text) := by
    rw [built.contents]
    rfl
  have isNamed : keyNamed envelope.toJson input.key = true := by
    rw [keyNamed, Bool.and_eq_true, names_iff, names_iff, built.contents,
      built.signer]
    exact ⟨rfl, rfl⟩
  have isUsable : enforceKeyForVerification host input.key
      (verificationUse envelope.toJson allowRetiredHistorical) = .ok () := by
    have stated := statedPurpose_of_names
      (keyPurposeForDomain_ne_verificationOnly _ _) purposed
    have use : verificationUse envelope.toJson allowRetiredHistorical =
        { tenantId := input.tenantId
          keyVersion := input.key.keyVersion
          purpose := envelope.keyPurpose
          signedAt := envelope.signedAt
          allowRetiredHistorical } := by
      rw [verificationUse, stated, built.contents]
      rfl
    rw [use]
    exact enforceKeyForVerification_of_signing enforced _
  have isVerified : verifySignatureBytes host request.data input.key
      (Json.text envelope.toJson (js "signature")) = true := by
    obtain ⟨length, accepts⟩ := signs request signature provided
    have value : Json.text envelope.toJson (js "signature") =
        Base64Url.encode signature :=
      isSignature
    have isText := isText_encode (List.ne_nil_of_length_eq_add_one length)
    rw [verifySignatureBytes, algorithm, value, isText,
      Base64Url.decode_encode, accepts]
    rfl
  exact
    { record := rfl
      versions := ⟨wellFormed.envelopeVersion,
        wellFormed.canonicalizationVersion⟩
      wellFormed
      algorithms := enforceAlgorithms_toJson built.contents algorithm
      constraints :=
        { keyPurpose := ⟨_, domainPurpose_toJson envelope,
            names_iff.mpr purposed⟩
          tenantId := rfl
          cardId := rfl
          artifactType := rfl
          artifactId := rfl
          artifactVersion := rfl
          unexpired := isUnexpired }
      digests :=
        { digest := ⟨envelope.digest,
            (congrArg _ (domainDigestInput_toJson envelope)).trans
              built.digest, names_iff.mpr rfl⟩
          envelopeId := ⟨envelope.envelopeId, built.envelopeId,
            names_iff.mpr rfl⟩ }
      key := ⟨input.key, presented.key, isNamed, isUsable, request.data,
        isData, isVerified⟩
      prior := presented.priorLinked
      manifest := presented.manifestLinked }

/-- Every envelope the builder returns verifies. -/
theorem buildCryptographicEnvelope_verifies (named : Named input)
    (signs : Signs host input.key.publicKey input.provider)
    (built : buildCryptographicEnvelope host input = .ok envelope)
    (presented : Presented host input.key envelope verification) :
    (verifyCryptographicEnvelope host verification).valid = true ∧
      (verifyCryptographicEnvelope host verification).reasonCodes =
        [.verified] ∧
      (verifyCryptographicEnvelope host verification).components = .all := by
  have accepted :=
    presented.accepted (buildCryptographicEnvelope_built built) named signs
  have clean := verifyEnvelope_clean_iff.mpr accepted
  refine ⟨verifyCryptographicEnvelope_valid_iff.mpr accepted, ?_,
    components_of_accepted accepted⟩
  rw [verifyCryptographicEnvelope, Verification.finish, clean]
  rfl

end Host

/-- Signs the settings and nothing else. -/
def settingsProvider : SignatureProvider := fun request =>
  if request.data = settingsData then
    .ok (Base64Url.decode settingsSignature)
  else .error .rejected

theorem settingsProvider_signs :
    Signs settingsHost settingsKey.publicKey settingsProvider := by
  intro request signature provided
  rw [settingsProvider] at provided
  by_cases sameData : request.data = settingsData
  · rw [if_pos sameData, Except.ok.injEq] at provided
    rw [← provided, sameData]
    refine ⟨by decide +kernel, ?_⟩
    simp [settingsHost, recordedHost]
  · rw [if_neg sameData] at provided
    exact nomatch provided

def presentedSettings (envelope : CryptographicEnvelope) :
    VerifyEnvelopeInput :=
  { settingsVerification namedManifest (js "2026-07-17T11:00:00.000Z") with
    envelope := envelope.toJson }

theorem buildCryptographicEnvelope_verifies_settings :
    ∃ envelope,
      buildCryptographicEnvelope settingsHost
          (settingsDraft settingsProvider) = .ok envelope ∧
        (verifyCryptographicEnvelope settingsHost
          (presentedSettings envelope)).valid = true := by
  have computed : (buildCryptographicEnvelope settingsHost
      (settingsDraft settingsProvider)).toOption.map (fun envelope =>
        (envelope.expiresAt, envelope.previousEnvelopeId,
          isManifestOf settingsHost envelope.toJson namedManifest)) =
      some (some (js "2026-07-18T10:00:00.000Z"), none, true) := by
    decide +kernel
  have isTimestamp : (canonicalUtcTimestamp settingsHost
      (js "2026-07-17T11:00:00.000Z")).isOk = true := by
    decide +kernel
  have isNow : occurrence settingsHost (js "2026-07-17T11:00:00.000Z") =
      some ⟨1784286000000, by decide, by decide⟩ := by
    decide +kernel
  have isExpiry : settingsHost.dateParse (js "2026-07-18T10:00:00.000Z") =
      some ⟨1784368800000, by decide, by decide⟩ := by
    decide +kernel
  cases built : buildCryptographicEnvelope settingsHost
      (settingsDraft settingsProvider) with
  | error failure =>
      rw [built] at computed
      exact nomatch computed
  | ok envelope =>
      rw [built] at computed
      simp only [Except.toOption, Option.map_some, Option.some.injEq,
        Prod.mk.injEq] at computed
      obtain ⟨expires, unlinked, isManifest⟩ := computed
      have presented : Presented settingsHost settingsKey envelope
          (presentedSettings envelope) :=
        { shown := rfl
          unexpecting := rfl
          key := rfl
          timestamp := isOk_iff.mp isTimestamp
          unexpired := by
            intro expiresAt isExpiresAt
            rw [expires, Option.mem_some_iff] at isExpiresAt
            rw [← isExpiresAt]
            exact ⟨_, _, isNow, isExpiry, by decide⟩
          prior := fun linked => absurd unlinked linked
          manifest := fun _ => ⟨_, namedManifest, rfl, rfl, isManifest⟩ }
      have named : Named (settingsDraft settingsProvider) :=
        ⟨by decide, by decide, by decide, by decide⟩
      exact ⟨envelope, rfl, (buildCryptographicEnvelope_verifies named
        settingsProvider_signs built presented).1⟩

end BidayaxExecutive.Trust
