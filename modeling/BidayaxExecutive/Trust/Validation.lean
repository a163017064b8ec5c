import BidayaxExecutive.Trust.Domains

/-!
# Runtime validation

Records that cross a trust boundary are JSON-like data until they have been
validated.  A validation collects the texts of all its errors; it is valid
when there are none.
-/

namespace BidayaxExecutive.Trust

open BidayaxExecutive.Runtime JsString

structure RuntimeValidation where
  valid : Bool
  errors : List JsString
  deriving DecidableEq

def validationOf (errors : List JsString) : RuntimeValidation :=
  ⟨errors.isEmpty, errors⟩

/-! ## Sensitive keys -/

/-- ASCII lower case: without the `u` flag the `i` flag folds no other unit to
an ASCII letter. -/
def lowerUnit (unit : UInt16) : UInt16 :=
  if 65 ≤ unit && unit ≤ 90 then unit + 32 else unit

/-- What `.` does not match. -/
def isLineTerminator (unit : UInt16) : Bool :=
  unit == 10 || unit == 13 || unit == 8232 || unit == 8233

/-- `head.?key` at the start of the text. -/
def startsGapped (head text : JsString) : Bool :=
  head.isPrefixOf text &&
    match text.drop head.length with
    | [] => false
    | unit :: rest =>
        (js "key").isPrefixOf (unit :: rest) ||
          (!isLineTerminator unit && (js "key").isPrefixOf rest)

def sensitiveWords : List JsString :=
  [js "secret", js "password", js "credential", js "authorization",
    js "cookie", js "token", js "seed", js "mnemonic"]

/-- `sensitiveKey.test(key)`. -/
def isSensitiveKey (key : JsString) : Bool :=
  (key.map lowerUnit).tails.any fun rest =>
    startsGapped (js "private") rest || startsGapped (js "raw") rest ||
      sensitiveWords.any (·.isPrefixOf rest)

/-! ## Field checks -/

/-- `count > limit`; a limit that is not a number is never exceeded. -/
def exceeds (count : Nat) (limit : JsNumber) : Bool :=
  match limit with
  | .nan => false
  | limit => !JsNumber.lessOrEqual (.integer count) limit

def isRecord : Json → Bool
  | .object _ => true
  | _ => false

def nonEmpty : Option Json → Bool
  | some (.string value) => !value.isEmpty
  | _ => false

def safeInteger : Option Json → Bool
  | some (.number value) =>
      value.isSafeInteger && !value.lessOrEqual (.integer 0)
  | _ => false

/-- The value is one of the listed texts. -/
def isOneOf (texts : List JsString) : Option Json → Bool
  | some (.string value) => texts.contains value
  | _ => false

def requiredFields (value : Json) (fields : List JsString) : List JsString :=
  (fields.filter fun field => !nonEmpty (value.field? field)).map
    fun field => field ++ js " is required"

/-! ## Metadata -/

mutual

/-- The errors of the keys at and below a node, in the order of the visit. -/
def sensitivePaths (path : JsString) : Json → List JsString
  | .object fields => sensitiveFieldPaths path fields
  | .array elements => sensitiveElementPaths path 0 elements
  | _ => []

def sensitiveFieldPaths (path : JsString) :
    List (JsString × Json) → List JsString
  | [] => []
  | (key, child) :: rest =>
      (if isSensitiveKey key then
          [js "sensitive metadata key at " ++ path ++ js "." ++ key]
        else []) ++
        sensitivePaths (path ++ js "." ++ key) child ++
        sensitiveFieldPaths path rest

def sensitiveElementPaths (path : JsString) (index : Nat) :
    List Json → List JsString
  | [] => []
  | child :: rest =>
      sensitivePaths (path ++ js "[" ++ natText index ++ js "]") child ++
        sensitiveElementPaths path (index + 1) rest

end

section Host

variable (host : Host)

/-- Whether a `try` around `canonicalize` falls through to its `catch`. -/
def isCanonicalizable (value : JsValue) (schemaVersion : JsString) : Bool :=
  (canonicalize host value { schemaVersion := schemaVersion }).isOk

/-- A missing value is `undefined`, which is no object. -/
def validateSafeMetadata (value : Option Json) : RuntimeValidation :=
  match value with
  | some (.object fields) =>
      validationOf <|
        sensitivePaths (js "metadata") (.object fields) ++
          if isCanonicalizable host (Json.toJs (.object fields))
              (js "safe-metadata-1") then []
          else [js "metadata is not canonicalizable"]
  | _ => ⟨false, [js "metadata must be an object"]⟩

def versionedTenantErrors (value : Json) : List JsString :=
  (if Json.sameField (value.field? (js "structureVersion"))
        (some (.string (js "1"))) then []
    else [js "unsupported structureVersion"]) ++
    (if nonEmpty (value.field? (js "tenantId")) then []
      else [js "tenantId is required"]) ++
    if isCanonicalizable host value.toJs (js "runtime-structure-1") then []
    else [js "structure is not persistence-safe"]

def validateVersionedTenantStructure (value : Json) : RuntimeValidation :=
  if isRecord value then validationOf (versionedTenantErrors host value)
  else ⟨false, [js "structure must be an object"]⟩

/-! ## Records -/

def trustKeyErrors (value : Json) : List JsString :=
  (if nonEmpty (value.field? (js "keyId")) &&
        safeInteger (value.field? (js "keyVersion")) then []
    else [js "key identity/version is invalid"]) ++
    (if isOneOf keyStatuses (value.field? (js "status")) then []
      else [js "invalid key status"]) ++
    (if isOneOf keyPurposes (value.field? (js "purpose")) then []
      else [js "invalid key purpose"]) ++
    (if (Json.sameField (value.field? (js "status"))
            (some (.string (js "retiring"))) ||
          Json.sameField (value.field? (js "status"))
            (some (.string (js "retired")))) &&
          !nonEmpty (value.field? (js "validUntil")) then
        [js "retiring/retired keys require a signing cutoff"]
      else []) ++
    (match value with
      | .object fields =>
          if fields.any fun field => isSensitiveKey field.1 then
            [js "private or sensitive key field is forbidden"]
          else []
      | _ => []) ++
    if (validateSafeMetadata host (value.field? (js "metadata"))).valid then []
    else [js "unsafe key metadata"]

def validateTrustKey (value : Json) : RuntimeValidation :=
  if isRecord value then
    validationOf <|
      (validateVersionedTenantStructure host value).errors ++
        trustKeyErrors host value
  else validateVersionedTenantStructure host value

theorem isSafeInteger_of_validateTrustKey {key : TrustKey}
    (valid : (validateTrustKey host key.toJson).valid = true) :
    key.keyVersion.isSafeInteger = true := by
  have record : isRecord key.toJson = true := rfl
  have version : key.toJson.field? (js "keyVersion") =
      some (.number key.keyVersion) := rfl
  simp only [validateTrustKey, record, if_true, validationOf,
    trustKeyErrors, version, List.isEmpty_iff, List.append_eq_nil_iff]
    at valid
  by_contra unsafeVersion
  simp [safeInteger, unsafeVersion] at valid

def envelopeRequiredStrings : List JsString :=
  [js "envelopeId", js "artifactType", js "artifactId",
    js "artifactVersion", js "schemaVersion", js "digest", js "keyId",
    js "signerId", js "signedAt", js "signature"]

/-- `String(value)` of a property read. -/
def fieldText? : Option Json → Option JsString
  | none => some (js "undefined")
  | some value => value.toText?

def envelopeErrors (value : Json) (domain : JsString) : List JsString :=
  requiredFields value envelopeRequiredStrings ++
    (if Json.sameField (value.field? (js "envelopeVersion"))
          (some (.string (js "1"))) then []
      else [js "unsupported envelopeVersion"]) ++
    (if Json.sameField (value.field? (js "canonicalizationVersion"))
          (some (.string canonicalizationVersion)) then []
      else [js "unsupported canonicalizationVersion"]) ++
    (if Json.sameField (value.field? (js "algorithmPolicyVersion"))
          (some (.string algorithmPolicyVersion)) then []
      else [js "unsupported algorithmPolicyVersion"]) ++
    (match value.field? (js "cardId") with
      | some (.string _) | some .null => []
      | _ => [js "cardId must be string or null"]) ++
    (if isSecurityDomain domain then [] else [js "unregistered domain"]) ++
    (if safeInteger (value.field? (js "keyVersion")) then []
      else [js "keyVersion is invalid"]) ++
    (if Json.sameField (value.field? (js "previousEnvelopeId"))
          (some .null) =
          Json.sameField (value.field? (js "previousDigest"))
            (some .null) then []
      else [js "prior linkage must be complete"]) ++
    if (validateSafeMetadata host (value.field? (js "metadata"))).valid then []
    else [js "unsafe envelope metadata"]

/-- Throws when `String(value.domain)` does. -/
def validateCryptographicEnvelope (value : Json) : Outcome RuntimeValidation :=
  if isRecord value then
    match fieldText? (value.field? (js "domain")) with
    | none => .error .typeError
    | some domain =>
        .ok <| validationOf <|
          (validateVersionedTenantStructure host value).errors ++
            envelopeErrors host value domain
  else .ok (validateVersionedTenantStructure host value)

def trustEventErrors (value : Json) : List JsString :=
  requiredFields value
      [js "eventId", js "streamId", js "eventType", js "subjectType",
        js "subjectId", js "occurredAt", js "idempotencyKey"] ++
    (if Json.sameField (value.field? (js "provenanceLifecycle"))
          (some .null) ||
          isOneOf provenanceLifecycleEvents
            (value.field? (js "provenanceLifecycle")) then []
      else [js "invalid provenance lifecycle"]) ++
    if (validateSafeMetadata host (value.field? (js "details"))).valid then []
    else [js "unsafe event details"]

def validateTrustEvent (value : Json) : RuntimeValidation :=
  if isRecord value then
    validationOf <|
      (validateVersionedTenantStructure host value).errors ++
        trustEventErrors host value
  else validateVersionedTenantStructure host value

end Host

end BidayaxExecutive.Trust
