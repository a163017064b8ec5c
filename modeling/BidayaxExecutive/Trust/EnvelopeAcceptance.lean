import BidayaxExecutive.Trust.EnvelopeVerification

/-!
# What an accepted envelope has passed

Reasons are only ever added, and an exception adds one.  So an envelope is
accepted exactly when no part of the verification notes a reason, and then
every part has set its component.
-/

namespace BidayaxExecutive.Trust

open BidayaxExecutive.Runtime JsString
open BidayaxExecutive.Library.Guards

/-! ## Reasons -/

namespace Verification

variable {verification : Verification}

theorem reasons_reject_ne_nil (reason : VerificationReasonCode) :
    (verification.reject reason).reasons ≠ [] := by
  simp [reject]

theorem reasons_rejectIf_eq_nil {wrong : Bool}
    {reason : VerificationReasonCode} :
    (verification.rejectIf wrong reason).reasons = [] ↔
      verification.reasons = [] ∧ wrong = false := by
  cases wrong with
  | false => simp [rejectIf]
  | true => simp [rejectIf, reject]

theorem rejectIf_false (reason : VerificationReasonCode) :
    verification.rejectIf false reason = verification :=
  rfl

theorem reasons_malformed_ne_nil : verification.malformed.reasons ≠ [] := by
  rw [malformed, Ne, reasons_rejectIf_eq_nil]
  rintro ⟨none, some⟩
  rw [none] at some
  exact nomatch some

end Verification

open Verification

variable {verification next : Verification} {envelope : Json}

/-! ## Algorithms -/

theorem verifyAlgorithms_clean_iff :
    (verifyAlgorithms envelope verification).reasons = [] ↔
      verification.reasons = [] ∧ enforceAlgorithms envelope = .ok () := by
  rw [verifyAlgorithms]
  cases enforced : enforceAlgorithms envelope with
  | ok result => simp
  | error failure => simpa using reasons_reject_ne_nil (policyReason failure)

theorem verifyAlgorithms_of_ok (enforced : enforceAlgorithms envelope = .ok ()) :
    verifyAlgorithms envelope verification =
      { verification with components.algorithmValid := true } := by
  rw [verifyAlgorithms, enforced]

section Host

variable {host : Host}

/-! ## The validation -/

/-- All that the validation asks of an envelope. -/
structure EnvelopeWellFormed (host : Host) (envelope : Json) : Prop where
  record : isRecord envelope = true
  structureVersion :
    Json.names envelope (js "structureVersion") (js "1") = true
  tenantId : nonEmpty (envelope.field? (js "tenantId")) = true
  canonicalizable :
    isCanonicalizable host envelope.toJs (js "runtime-structure-1") = true
  required : ∀ name ∈ envelopeRequiredStrings,
    nonEmpty (envelope.field? name) = true
  envelopeVersion : Json.names envelope (js "envelopeVersion") (js "1") = true
  canonicalizationVersion : Json.names envelope (js "canonicalizationVersion")
    canonicalizationVersion = true
  algorithmPolicyVersion : Json.names envelope (js "algorithmPolicyVersion")
    algorithmPolicyVersion = true
  cardId : ∃ cardId, envelope.field? (js "cardId") = some (nullableText cardId)
  domain : ∃ domain, fieldText? (envelope.field? (js "domain")) = some domain ∧
    isSecurityDomain domain = true
  keyVersion : safeInteger (envelope.field? (js "keyVersion")) = true
  priorLinkage :
    Json.sameField (envelope.field? (js "previousEnvelopeId")) (some .null) =
      Json.sameField (envelope.field? (js "previousDigest")) (some .null)
  metadata :
    (validateSafeMetadata host (envelope.field? (js "metadata"))).valid = true

theorem requiredFields_eq_nil {value : Json} {names : List JsString} :
    requiredFields value names = [] ↔
      ∀ name ∈ names, nonEmpty (value.field? name) = true := by
  simp [requiredFields, List.filter_eq_nil_iff]

theorem versionedTenantErrors_eq_nil {value : Json} :
    versionedTenantErrors host value = [] ↔
      Json.names value (js "structureVersion") (js "1") = true ∧
        nonEmpty (value.field? (js "tenantId")) = true ∧
        isCanonicalizable host value.toJs (js "runtime-structure-1") =
          true := by
  simp [versionedTenantErrors, Json.names]

theorem cardErrors_eq_nil {card : Option Json} :
    (match card with
      | some (.string _) | some .null => []
      | _ => [js "cardId must be string or null"]) = [] ↔
      ∃ cardId, card = some (nullableText cardId) := by
  constructor
  · intro clean
    split at clean
    · exact ⟨some _, rfl⟩
    · exact ⟨none, rfl⟩
    · exact nomatch clean
  · intro found
    obtain ⟨cardId, rfl⟩ := found
    cases cardId with
    | none => rfl
    | some text => rfl

theorem validateCryptographicEnvelope_valid_iff :
    (∃ validation,
        validateCryptographicEnvelope host envelope = .ok validation ∧
          validation.valid = true) ↔
      EnvelopeWellFormed host envelope := by
  rw [validateCryptographicEnvelope]
  by_cases record : isRecord envelope = true
  · rw [if_pos record]
    cases text : fieldText? (envelope.field? (js "domain")) with
    | none =>
        constructor
        · intro found
          obtain ⟨_, passed, _⟩ := found
          cases passed
        · intro wellFormed
          obtain ⟨domain, isText, _⟩ := wellFormed.domain
          have impossible := text.symm.trans isText
          cases impossible
    | some domain =>
        simp only [Except.ok.injEq, exists_eq_left', validationOf,
          List.isEmpty_iff, List.append_eq_nil_iff,
          validateVersionedTenantStructure, record, if_true,
          versionedTenantErrors_eq_nil, envelopeErrors, requiredFields_eq_nil,
          ite_eq_left_iff, List.cons_ne_self, imp_false, not_not,
          Bool.not_eq_true, Bool.not_eq_false]
        constructor
        · intro found
          obtain ⟨⟨structureVersion, tenantId, canonicalizable⟩,
            ⟨⟨⟨⟨⟨⟨⟨required, envelopeVersion⟩, canonicalVersion⟩,
              policyVersion⟩, cardId⟩, isDomain⟩, keyVersion⟩, linkage⟩,
            metadata⟩ := found
          exact ⟨record, structureVersion, tenantId, canonicalizable, required,
            envelopeVersion, canonicalVersion, policyVersion,
            cardErrors_eq_nil.mp cardId,
            ⟨domain, text, isDomain⟩, keyVersion, linkage, metadata⟩
        · intro wellFormed
          obtain ⟨other, isText, isDomain⟩ := wellFormed.domain
          rw [text, Option.some.injEq] at isText
          exact ⟨⟨wellFormed.structureVersion, wellFormed.tenantId,
              wellFormed.canonicalizable⟩,
            ⟨⟨⟨⟨⟨⟨⟨wellFormed.required, wellFormed.envelopeVersion⟩,
              wellFormed.canonicalizationVersion⟩,
              wellFormed.algorithmPolicyVersion⟩,
              cardErrors_eq_nil.mpr wellFormed.cardId⟩,
              isText ▸ isDomain⟩, wellFormed.keyVersion⟩,
              wellFormed.priorLinkage⟩, wellFormed.metadata⟩
  · rw [if_neg record]
    constructor
    · intro found
      obtain ⟨validation, passed, valid⟩ := found
      rw [validateVersionedTenantStructure, if_neg record, Except.ok.injEq]
        at passed
      rw [← passed] at valid
      cases valid
    · intro wellFormed
      exact absurd wellFormed.record record

/-! ## The parts -/

/-- The signer's purpose fits the domain, what is expected is there, and the
envelope has not expired. -/
structure ConstraintsMet (host : Host) (envelope : Json)
    (expected : EnvelopeVerificationExpectations) (verifiedAt : JsString) :
    Prop where
  keyPurpose : ∃ purpose, domainPurpose envelope = .ok purpose ∧
    Json.names envelope (js "keyPurpose") purpose.text = true
  tenantId : mismatches envelope (js "tenantId") expected.tenantId = false
  cardId : cardMismatches envelope expected.cardId = false
  artifactType :
    mismatches envelope (js "artifactType") expected.artifactType = false
  artifactId :
    mismatches envelope (js "artifactId") expected.artifactId = false
  artifactVersion :
    mismatches envelope (js "artifactVersion") expected.artifactVersion = false
  unexpired : isExpired host envelope verifiedAt = .ok false

theorem verifyConstraints_clean_iff
    {expected : EnvelopeVerificationExpectations} {verifiedAt : JsString} :
    (verifyConstraints host envelope expected verifiedAt verification =
        .ok next ∧ next.reasons = []) ↔
      verification.reasons = [] ∧
        ConstraintsMet host envelope expected verifiedAt ∧
        next = { verification with components.constraintsValid := true } := by
  rw [verifyConstraints]
  cases purposed : domainPurpose envelope with
  | error failure =>
      constructor
      · intro passed
        exact nomatch passed.1
      · intro met
        obtain ⟨purpose, isPurpose, _⟩ := met.2.1.keyPurpose
        rw [purposed] at isPurpose
        exact nomatch isPurpose
  | ok purpose =>
      cases dated : isExpired host envelope verifiedAt with
      | error failure =>
          constructor
          · intro passed
            exact nomatch passed.1
          · intro met
            have unexpired := met.2.1.unexpired
            rw [dated] at unexpired
            exact nomatch unexpired
      | ok expired =>
          simp only [Except.ok.injEq]
          constructor
          · rintro ⟨rfl, clean⟩
            simp only [reasons_rejectIf_eq_nil] at clean
            obtain ⟨⟨⟨⟨⟨⟨⟨none, purposeFits⟩, tenant⟩, card⟩, type⟩, id⟩,
              version⟩, isDated⟩ := clean
            refine ⟨none, ⟨⟨purpose, purposed, by simpa using purposeFits⟩,
              tenant, card, type, id, version, by rw [dated, isDated]⟩, ?_⟩
            simp only [purposeFits, tenant, card, type, id, version, isDated,
              rejectIf_false, none]
            rfl
          · rintro ⟨none, met, rfl⟩
            obtain ⟨other, isOther, purposeFits⟩ := met.keyPurpose
            rw [purposed, Except.ok.injEq] at isOther
            have isDated := met.unexpired
            rw [dated, Except.ok.injEq] at isDated
            simp only [isOther, purposeFits, met.tenantId, met.cardId,
              met.artifactType, met.artifactId, met.artifactVersion, isDated,
              Bool.not_true, rejectIf_false, none]
            exact ⟨rfl, trivial⟩

/-- The digest and the identifier are those of the contents. -/
structure DigestsMatch (host : Host) (envelope : Json) : Prop where
  digest : ∃ digest,
    createDomainDigest host (domainDigestInput envelope) = .ok digest ∧
      Json.names envelope (js "digest") digest = true
  envelopeId : ∃ envelopeId,
    computeEnvelopeId host envelope = .ok envelopeId ∧
      Json.names envelope (js "envelopeId") envelopeId = true

theorem verifyDigest_clean_iff :
    (verifyDigest host envelope verification).reasons = [] ↔
      verification.reasons = [] ∧ DigestsMatch host envelope := by
  rw [verifyDigest]
  cases digested : createDomainDigest host (domainDigestInput envelope) with
  | error failure =>
      constructor
      · intro clean
        exact absurd clean (reasons_reject_ne_nil _)
      · intro matching
        obtain ⟨digest, isDigest, _⟩ := matching.2.digest
        rw [digested] at isDigest
        exact nomatch isDigest
  | ok digest =>
      cases identified : computeEnvelopeId host envelope with
      | error failure =>
          constructor
          · intro clean
            exact absurd clean (reasons_reject_ne_nil _)
          · intro matching
            obtain ⟨envelopeId, isId, _⟩ := matching.2.envelopeId
            rw [identified] at isId
            exact nomatch isId
      | ok envelopeId =>
          simp only [reasons_rejectIf_eq_nil, Bool.not_eq_false']
          by_cases same : Json.names envelope (js "digest") digest = true
          · rw [if_pos same]
            constructor
            · rintro ⟨none, sameId⟩
              exact ⟨none, ⟨digest, digested, same⟩,
                ⟨envelopeId, identified, sameId⟩⟩
            · rintro ⟨none, matching⟩
              obtain ⟨other, isId, sameId⟩ := matching.envelopeId
              rw [identified, Except.ok.injEq] at isId
              exact ⟨none, isId ▸ sameId⟩
          · rw [if_neg same]
            constructor
            · rintro ⟨clean, _⟩
              exact absurd clean (reasons_reject_ne_nil _)
            · rintro ⟨_, matching⟩
              obtain ⟨other, isDigest, sameDigest⟩ := matching.digest
              rw [digested, Except.ok.injEq] at isDigest
              exact absurd (isDigest ▸ sameDigest) same

theorem verifyDigest_of_match (matching : DigestsMatch host envelope) :
    verifyDigest host envelope verification =
      { verification with components.digestValid := true } := by
  obtain ⟨⟨digest, digested, same⟩, ⟨envelopeId, identified, sameId⟩⟩ :=
    matching
  rw [verifyDigest, digested, identified]
  simp only [same, if_true, sameId, Bool.not_true, rejectIf_false]

/-- A key is found that is the signer's, is usable, and verifies. -/
def KeyVouches (host : Host) (input : VerifyEnvelopeInput) (key : TrustKey) :
    Prop :=
  input.keyResolver (keyRequest input.envelope) = .ok (some key) ∧
    keyNamed input.envelope key = true ∧
    enforceKeyForVerification host key
      (verificationUse input.envelope input.allowRetiredHistorical) = .ok () ∧
    ∃ data, signaturePreimage host input.envelope = .ok data ∧
      verifySignatureBytes host data key
        (Json.text input.envelope (js "signature")) = true

theorem isText_of_verifySignatureBytes {data : List UInt8} {key : TrustKey}
    {signature : JsString}
    (verified : verifySignatureBytes host data key signature = true) :
    Base64Url.isText signature = true := by
  rw [verifySignatureBytes, Bool.and_eq_true, Bool.and_eq_true] at verified
  exact verified.1.2

theorem verifySignature_clean_iff {key : TrustKey}
    (named : keyNamed envelope key = true) :
    (verifySignature host envelope key verification = .ok next ∧
        next.reasons = []) ↔
      verification.reasons = [] ∧
        (∃ data, signaturePreimage host envelope = .ok data ∧
          verifySignatureBytes host data key
            (Json.text envelope (js "signature")) = true) ∧
        next = { verification with components.signatureValid := true } := by
  rw [verifySignature, named, Bool.true_and]
  by_cases malformed :
      verification.reasons.contains .malformedSignature = true
  · rw [malformed]
    constructor
    · rintro ⟨passed, clean⟩
      rw [← Except.ok.inj passed] at clean
      rw [clean] at malformed
      exact nomatch malformed
    · rintro ⟨none, _⟩
      rw [none] at malformed
      exact nomatch malformed
  · rw [Bool.not_eq_true] at malformed
    rw [malformed]
    cases preimage : signaturePreimage host envelope with
    | error failure =>
        constructor
        · rintro ⟨passed, _⟩
          exact nomatch passed
        · rintro ⟨_, ⟨data, isData, _⟩, _⟩
          exact nomatch isData
    | ok data =>
        by_cases verified : verifySignatureBytes host data key
            (Json.text envelope (js "signature")) = true
        · simp only [Bool.not_false, if_true, verified, Except.ok.injEq]
          constructor
          · rintro ⟨rfl, clean⟩
            exact ⟨clean, ⟨data, rfl, verified⟩, rfl⟩
          · rintro ⟨none, _, rfl⟩
            exact ⟨rfl, none⟩
        · simp only [Bool.not_false, if_true, verified, Bool.false_eq_true,
            if_false, Except.ok.injEq]
          constructor
          · rintro ⟨rfl, clean⟩
            exact absurd clean (reasons_reject_ne_nil _)
          · rintro ⟨_, ⟨other, isData, accepted⟩, _⟩
            exact absurd (isData ▸ accepted) verified

variable {input : VerifyEnvelopeInput}

theorem verifyKey_clean_iff :
    (verifyKey host input.envelope input.keyResolver
          input.allowRetiredHistorical verification = .ok next ∧
        next.reasons = []) ↔
      verification.reasons = [] ∧ ∃ key, KeyVouches host input key ∧
        next = { verification with
          components.keyValid := true
          components.signatureValid := true
          warnings :=
            if key.status = .retired then
              verification.warnings ++ [historicalWarning]
            else verification.warnings } := by
  rw [verifyKey]
  cases found : input.keyResolver (keyRequest input.envelope) with
  | error failure =>
      constructor
      · rintro ⟨passed, clean⟩
        rw [← Except.ok.inj passed] at clean
        exact absurd clean (reasons_reject_ne_nil _)
      · rintro ⟨_, key, vouches, _⟩
        exact nomatch found.symm.trans vouches.1
  | ok answer =>
      cases answer with
      | none =>
          constructor
          · rintro ⟨passed, clean⟩
            rw [← Except.ok.inj passed] at clean
            exact absurd clean (reasons_reject_ne_nil _)
          · rintro ⟨_, key, vouches, _⟩
            exact nomatch found.symm.trans vouches.1
      | some key =>
          cases enforced : enforceKeyForVerification host key
              (verificationUse input.envelope
                input.allowRetiredHistorical) with
          | error failure =>
              simp only [enforced]
              constructor
              · rintro ⟨passed, clean⟩
                rw [← Except.ok.inj passed] at clean
                exact absurd clean (reasons_reject_ne_nil _)
              · rintro ⟨_, other, ⟨isFound, _, accepted, _⟩, _⟩
                rw [found, Except.ok.injEq, Option.some.injEq] at isFound
                rw [← isFound, enforced] at accepted
                exact nomatch accepted
          | ok result =>
              simp only [enforced]
              by_cases named : keyNamed input.envelope key = true
              · rw [named, Bool.not_true, rejectIf_false,
                  verifySignature_clean_iff named]
                simp only [reasons_rejectIf_eq_nil, Bool.not_eq_false']
                constructor
                · rintro ⟨⟨none, isText⟩, verifies, rfl⟩
                  refine ⟨none, key, ⟨found, named, enforced, verifies⟩, ?_⟩
                  rw [isText, Bool.not_true, rejectIf_false]
                · rintro ⟨none, other, vouches, rfl⟩
                  obtain ⟨isFound, _, _, data, isData, verified⟩ := vouches
                  rw [found, Except.ok.injEq, Option.some.injEq] at isFound
                  have isText := isText_of_verifySignatureBytes verified
                  refine ⟨⟨none, isText⟩,
                    ⟨data, isData, isFound ▸ verified⟩, ?_⟩
                  rw [isText, Bool.not_true, rejectIf_false, isFound]
              · rw [Bool.not_eq_true] at named
                rw [verifySignature, named, Bool.false_and]
                simp only [Bool.not_false, Bool.false_eq_true, if_false,
                  Except.ok.injEq]
                constructor
                · rintro ⟨rfl, clean⟩
                  exact absurd clean (reasons_reject_ne_nil _)
                · rintro ⟨_, other, ⟨isFound, isNamed, _⟩, _⟩
                  rw [found, Except.ok.injEq, Option.some.injEq] at isFound
                  rw [← isFound, named] at isNamed
                  exact nomatch isNamed

/-! ## Evidence -/

/-- The prior envelope is there if one is named or required. -/
def PriorLinked (input : VerifyEnvelopeInput) : Prop :=
  (input.envelope.field? (js "previousEnvelopeId") = some .null ∧
      input.expected.requirePreviousEnvelope = false) ∨
    (input.envelope.field? (js "previousEnvelopeId") ≠ some .null ∧
      ∃ resolve prior, input.priorEnvelopeResolver = some resolve ∧
        resolve (evidenceRequest input.envelope (js "previousEnvelopeId")) =
          .ok prior ∧
        isPriorOf input.envelope prior = true)

theorem verifyLinkage_clean_iff :
    (verifyLinkage input.envelope input.priorEnvelopeResolver
        input.expected.requirePreviousEnvelope verification).reasons = [] ↔
      verification.reasons = [] ∧ PriorLinked input := by
  unfold verifyLinkage PriorLinked
  split
  · case h_1 unlinked =>
      simp [unlinked, reasons_rejectIf_eq_nil]
  · case h_2 linked =>
      have named : input.envelope.field? (js "previousEnvelopeId") ≠
          some .null := linked
      simp only [named, false_and, ne_eq, not_false_eq_true, true_and, false_or]
      cases resolver : input.priorEnvelopeResolver with
      | none => simp [reject]
      | some resolve =>
          simp only [Option.some.injEq]
          cases resolved : resolve
              (evidenceRequest input.envelope (js "previousEnvelopeId")) with
          | error failure => simp [reject, resolved]
          | ok prior =>
              by_cases isPrior : isPriorOf input.envelope prior = true
              · simp [isPrior, resolved]
              · simp [isPrior, resolved, reject]

theorem verifyLinkage_of_linked (linked : PriorLinked input) :
    verifyLinkage input.envelope input.priorEnvelopeResolver
        input.expected.requirePreviousEnvelope verification =
      { verification with components.linkageValid := true } := by
  unfold verifyLinkage
  rcases linked with ⟨unlinked, optional⟩ |
    ⟨named, resolve, prior, resolver, resolved, isPrior⟩
  · rw [unlinked, optional]
    rfl
  · split
    · case h_1 unlinked => exact absurd unlinked named
    · simp [resolver, resolved, isPrior]

/-- The manifest is there if one is named or required. -/
def ManifestLinked (host : Host) (input : VerifyEnvelopeInput) : Prop :=
  (input.envelope.field? (js "provenanceManifestId") = some .null ∧
      input.expected.requireProvenanceManifest = false) ∨
    (input.envelope.field? (js "provenanceManifestId") ≠ some .null ∧
      ∃ resolve manifest, input.provenanceResolver = some resolve ∧
        resolve (evidenceRequest input.envelope (js "provenanceManifestId")) =
          .ok (some manifest) ∧
        isManifestOf host input.envelope manifest = true)

theorem verifyProvenance_clean_iff :
    (verifyProvenance host input.envelope input.provenanceResolver
        input.expected.requireProvenanceManifest verification).reasons = [] ↔
      verification.reasons = [] ∧ ManifestLinked host input := by
  unfold verifyProvenance ManifestLinked
  split
  · case h_1 unlinked =>
      simp [unlinked, reasons_rejectIf_eq_nil]
  · case h_2 linked =>
      have named : input.envelope.field? (js "provenanceManifestId") ≠
          some .null := linked
      simp only [named, false_and, ne_eq, not_false_eq_true, true_and, false_or]
      cases resolver : input.provenanceResolver with
      | none => simp [reject]
      | some resolve =>
          simp only [Option.some.injEq]
          cases resolved : resolve
              (evidenceRequest input.envelope (js "provenanceManifestId")) with
          | error failure => simp [reject, resolved]
          | ok answer =>
              cases answer with
              | none => simp [reject, resolved]
              | some manifest =>
                  by_cases isManifest :
                      isManifestOf host input.envelope manifest = true
                  · simp [isManifest, resolved]
                  · simp [isManifest, resolved, reject]

theorem verifyProvenance_of_linked (linked : ManifestLinked host input) :
    verifyProvenance host input.envelope input.provenanceResolver
        input.expected.requireProvenanceManifest verification =
      { verification with components.provenanceValid := true } := by
  unfold verifyProvenance
  rcases linked with ⟨unlinked, optional⟩ |
    ⟨named, resolve, manifest, resolver, resolved, isManifest⟩
  · rw [unlinked, optional]
    rfl
  · split
    · case h_1 unlinked => exact absurd unlinked named
    · simp [resolver, resolved, isManifest]

/-! ## The whole -/

theorem verifyVersions_clean_iff :
    (verifyVersions envelope).reasons = [] ↔
      Json.names envelope (js "envelopeVersion") (js "1") = true ∧
        Json.names envelope (js "canonicalizationVersion")
          canonicalizationVersion = true := by
  rw [verifyVersions, reasons_rejectIf_eq_nil, reasons_rejectIf_eq_nil]
  simp [Verification.start]

/-- All that an accepted envelope has passed. -/
structure EnvelopeAccepted (host : Host) (input : VerifyEnvelopeInput) :
    Prop where
  record : isObject input.envelope = true
  versions : Json.names input.envelope (js "envelopeVersion") (js "1") = true ∧
    Json.names input.envelope (js "canonicalizationVersion")
      canonicalizationVersion = true
  wellFormed : EnvelopeWellFormed host input.envelope
  algorithms : enforceAlgorithms input.envelope = .ok ()
  constraints : ConstraintsMet host input.envelope input.expected
    (evaluationTimestamp host input.verifiedAt)
  digests : DigestsMatch host input.envelope
  key : ∃ key, KeyVouches host input key
  prior : PriorLinked input
  manifest : ManifestLinked host input

/-- What the parts behind the validation have passed when no reason is
noted. -/
theorem verifyValidated_clean
    (passed : verifyValidated host input verification = .ok next)
    (clean : next.reasons = []) :
    verification.reasons = [] ∧ enforceAlgorithms input.envelope = .ok () ∧
      ConstraintsMet host input.envelope input.expected
        (evaluationTimestamp host input.verifiedAt) ∧
      DigestsMatch host input.envelope ∧
      (∃ key, KeyVouches host input key) ∧ PriorLinked input ∧
      ManifestLinked host input ∧ next.components = .all := by
  rw [verifyValidated] at passed
  rcases bind_eq_ok.mp passed with ⟨constrained, isConstrained, rest⟩
  rcases bind_eq_ok.mp rest with ⟨keyed, isKeyed, last⟩
  have isNext := (Except.ok.inj last).symm
  rw [isNext, verifyEvidence] at clean
  obtain ⟨linkedClean, manifest⟩ := verifyProvenance_clean_iff.mp clean
  obtain ⟨keyedClean, prior⟩ := verifyLinkage_clean_iff.mp linkedClean
  obtain ⟨digestClean, key, vouches, keyedEq⟩ :=
    verifyKey_clean_iff.mp ⟨isKeyed, keyedClean⟩
  obtain ⟨constrainedClean, digests⟩ := verifyDigest_clean_iff.mp digestClean
  obtain ⟨algorithmsClean, constraints, constrainedEq⟩ :=
    verifyConstraints_clean_iff.mp ⟨isConstrained, constrainedClean⟩
  obtain ⟨none, algorithms⟩ := verifyAlgorithms_clean_iff.mp algorithmsClean
  refine ⟨none, algorithms, constraints, digests, ⟨key, vouches⟩, prior,
    manifest, ?_⟩
  rw [isNext, verifyEvidence, verifyLinkage_of_linked prior,
    verifyProvenance_of_linked manifest, keyedEq,
    verifyDigest_of_match digests, constrainedEq,
    verifyAlgorithms_of_ok algorithms]
  rfl

/-- And what passes them all. -/
theorem verifyValidated_of_accepted (accepted : EnvelopeAccepted host input)
    (none : verification.reasons = []) :
    ∃ next, verifyValidated host input verification = .ok next ∧
      next.reasons = [] := by
  obtain ⟨key, vouches⟩ := accepted.key
  have structured :
      { verification with components.structureValid := true }.reasons = [] :=
    none
  have algorithms :=
    verifyAlgorithms_clean_iff.mpr ⟨structured, accepted.algorithms⟩
  have constrained := verifyConstraints_clean_iff.mpr
    ⟨algorithms, accepted.constraints, rfl⟩
  have digested :=
    verifyDigest_clean_iff.mpr ⟨constrained.2, accepted.digests⟩
  have keyed := verifyKey_clean_iff.mpr ⟨digested, key, vouches, rfl⟩
  have linked := verifyLinkage_clean_iff.mpr ⟨keyed.2, accepted.prior⟩
  have evidenced :=
    verifyProvenance_clean_iff.mpr ⟨linked, accepted.manifest⟩
  refine ⟨verifyEvidence host input _, ?_, evidenced⟩
  rw [verifyValidated]
  exact bind_eq_ok.mpr ⟨_, constrained.1, bind_eq_ok.mpr ⟨_, keyed.1, rfl⟩⟩

theorem verifyEnvelope_clean_iff :
    (verifyEnvelope host input).reasons = [] ↔ EnvelopeAccepted host input := by
  rw [verifyEnvelope]
  by_cases record : isObject input.envelope = true
  · rw [if_pos record]
    cases validates : validateCryptographicEnvelope host input.envelope with
    | error failure =>
        constructor
        · intro clean
          exact absurd clean reasons_malformed_ne_nil
        · intro accepted
          obtain ⟨validation, isValidation, _⟩ :=
            validateCryptographicEnvelope_valid_iff.mpr accepted.wellFormed
          exact nomatch validates.symm.trans isValidation
    | ok validation =>
        by_cases valid : validation.valid = true
        · simp only [valid, if_true]
          cases passed : verifyValidated host input
              (verifyVersions input.envelope) with
          | error stopped =>
              constructor
              · intro clean
                exact absurd clean reasons_malformed_ne_nil
              · intro accepted
                have versions := verifyVersions_clean_iff.mpr accepted.versions
                obtain ⟨next, isNext, _⟩ :=
                  verifyValidated_of_accepted accepted versions
                exact nomatch passed.symm.trans isNext
          | ok next =>
              constructor
              · intro clean
                obtain ⟨none, algorithms, constraints, digests, key, prior,
                  manifest, _⟩ := verifyValidated_clean passed clean
                have wellFormed := validateCryptographicEnvelope_valid_iff.mp
                  ⟨validation, validates, valid⟩
                exact ⟨record, verifyVersions_clean_iff.mp none, wellFormed,
                  algorithms, constraints, digests, key, prior, manifest⟩
              · intro accepted
                have versions := verifyVersions_clean_iff.mpr accepted.versions
                obtain ⟨other, isOther, clean⟩ :=
                  verifyValidated_of_accepted accepted versions
                rw [passed, Except.ok.injEq] at isOther
                rw [isOther]
                exact clean
        · simp only [valid, Bool.false_eq_true, if_false]
          constructor
          · intro clean
            exact absurd clean reasons_malformed_ne_nil
          · intro accepted
            obtain ⟨other, isOther, isValid⟩ :=
              validateCryptographicEnvelope_valid_iff.mpr accepted.wellFormed
            rw [validates, Except.ok.injEq] at isOther
            exact absurd (isOther ▸ isValid) valid
  · rw [if_neg record]
    constructor
    · intro clean
      exact absurd clean (reasons_reject_ne_nil _)
    · intro accepted
      exact absurd accepted.record record

theorem components_of_accepted (accepted : EnvelopeAccepted host input) :
    (verifyEnvelope host input).components = .all := by
  obtain ⟨validation, validates, valid⟩ :=
    validateCryptographicEnvelope_valid_iff.mpr accepted.wellFormed
  have versions := verifyVersions_clean_iff.mpr accepted.versions
  obtain ⟨next, passed, clean⟩ := verifyValidated_of_accepted accepted versions
  rw [verifyEnvelope, if_pos accepted.record, validates]
  simp only [valid, if_true, passed]
  exact (verifyValidated_clean passed clean).2.2.2.2.2.2.2

/-- An envelope is accepted exactly when it has passed everything. -/
theorem verifyCryptographicEnvelope_valid_iff :
    (verifyCryptographicEnvelope host input).valid = true ↔
      EnvelopeAccepted host input := by
  rw [← verifyEnvelope_clean_iff, verifyCryptographicEnvelope,
    Verification.finish]
  cases reasons : (verifyEnvelope host input).reasons with
  | nil => simp
  | cons reason rest => simp [List.eraseDups_cons]

end Host

end BidayaxExecutive.Trust
