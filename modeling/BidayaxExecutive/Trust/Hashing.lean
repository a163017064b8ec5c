import BidayaxExecutive.Library.HashTree
import BidayaxExecutive.Runtime.Sha256
import BidayaxExecutive.Trust.CanonicalRecord
import BidayaxExecutive.Trust.Policy

/-!
# Digests

`internalDigest` hashes the canonical bytes of a value together with a context
and a schema version.  The bytes are named on their own: which values share a
digest is decided by them, up to collisions of SHA-256 among the bytes that
were hashed.
-/

namespace BidayaxExecutive.Trust

open BidayaxExecutive.Runtime JsString

def sha256Bytes (bytes : List UInt8) : JsString :=
  sha256Hex bytes

/-- `/^[a-f0-9]{64}$/.test(value)`. -/
def isHexDigest (value : JsString) : Bool :=
  value.length == 64 && value.all fun unit =>
    isDigit unit || (97 ≤ unit && unit ≤ 102)

section Host

variable (host : Host)

/-- The bytes `internalDigest` hashes. -/
def internalPreimage (context schemaVersion : JsString) (value : JsValue) :
    Outcome (List UInt8) := do
  let _ ← enforceAlgorithmPolicy artifactDigestRequest
  let canonical ← canonicalize host
    (recordValue
      [(js "algorithmPolicyVersion", .string algorithmPolicyVersion),
        (js "canonicalizationVersion", .string canonicalizationVersion),
        (js "context", .string context),
        (js "schemaVersion", .string schemaVersion),
        (js "value", value)])
    { schemaVersion := js "trust-internal-digest-1" }
  .ok canonical.bytes

def internalDigest (context schemaVersion : JsString) (value : JsValue) :
    Outcome JsString := do
  let bytes ← internalPreimage host context schemaVersion value
  .ok (sha256Bytes bytes)

/-- The canonical form of the record that is hashed. -/
def internalForm (context schemaVersion : JsString) (form : Json) : Json :=
  .object
    [(js "algorithmPolicyVersion", .string algorithmPolicyVersion),
      (js "canonicalizationVersion", .string canonicalizationVersion),
      (js "context", .string context),
      (js "schemaVersion", .string schemaVersion),
      (js "value", form)]

private theorem byteLimit?_default {schemaVersion : JsString}
    (visible : isBlank schemaVersion = false) :
    byteLimit? { schemaVersion := schemaVersion } =
      some defaultMaxCanonicalBytes := by
  simp [byteLimit?, visible, JsNumber.isSafeInteger, JsNumber.toInt?,
    JsNumber.maxSafeInteger, defaultMaxCanonicalBytes]

/-- `canonicalize` with a schema version and the default limit. -/
theorem canonicalize_default_eq_ok {value : JsValue}
    {schemaVersion : JsString} {result : Canonicalized}
    (visible : isBlank schemaVersion = false) :
    canonicalize host value { schemaVersion := schemaVersion } = .ok result ↔
      ∃ form, Canonical host value form ∧
        (canonicalBytes form).length ≤ 1048576 ∧
        result = ⟨canonicalBytes form, canonicalizationVersion,
          jsonStringify form, schemaVersion⟩ := by
  rw [canonicalize_eq_ok, byteLimit?_default visible]
  simp only [Option.some.injEq, exists_and_left, exists_eq_left',
    defaultMaxCanonicalBytes]
  constructor
  · intro found
    obtain ⟨form, canonical, fits, shape⟩ := found
    exact ⟨form, canonical, by exact_mod_cast fits, shape⟩
  · intro found
    obtain ⟨form, canonical, fits, shape⟩ := found
    exact ⟨form, canonical, by exact_mod_cast fits, shape⟩

private theorem canonical_internalRecord {context schemaVersion : JsString}
    {value : JsValue} {whole : Json}
    (contextNormal : NormalText host context)
    (schemaNormal : NormalText host schemaVersion) :
    Canonical host
        (recordValue
          [(js "algorithmPolicyVersion", .string algorithmPolicyVersion),
            (js "canonicalizationVersion", .string canonicalizationVersion),
            (js "context", .string context),
            (js "schemaVersion", .string schemaVersion),
            (js "value", value)])
        whole ↔
      ∃ form, Canonical host value form ∧
        whole = internalForm context schemaVersion form := by
  have policyNormal : NormalText host algorithmPolicyVersion :=
    normalText_of_isAscii host (by decide) (by decide)
  have versionNormal : NormalText host canonicalizationVersion :=
    normalText_of_isAscii host (by decide) (by decide)
  rw [canonical_record_iff host (by
    simp only [List.map_cons, List.map_nil]
    decide +kernel)]
  simp only [canonicalFields_cons, canonicalFields_nil,
    canonical_string_iff host policyNormal,
    canonical_string_iff host versionNormal,
    canonical_string_iff host contextNormal,
    canonical_string_iff host schemaNormal]
  constructor
  · intro found
    obtain ⟨_, ⟨_, _, rfl, ⟨_, _, rfl, ⟨_, _, rfl, ⟨_, _, rfl,
      ⟨form, _, canonical, rfl, rfl⟩, rfl⟩, rfl⟩, rfl⟩, rfl⟩, shape⟩ := found
    exact ⟨form, canonical, shape⟩
  · intro found
    obtain ⟨form, canonical, shape⟩ := found
    exact ⟨_, ⟨_, _, rfl, ⟨_, _, rfl, ⟨_, _, rfl, ⟨_, _, rfl,
      ⟨form, _, canonical, rfl, rfl⟩, rfl⟩, rfl⟩, rfl⟩, rfl⟩, shape⟩

/-- What `internalDigest` hashes, when its context and schema version are
literals. -/
theorem internalPreimage_eq_ok {context schemaVersion : JsString}
    {value : JsValue} {bytes : List UInt8}
    (contextNormal : NormalText host context)
    (schemaNormal : NormalText host schemaVersion) :
    internalPreimage host context schemaVersion value = .ok bytes ↔
      ∃ form, Canonical host value form ∧
        bytes = canonicalBytes (internalForm context schemaVersion form) ∧
        bytes.length ≤ 1048576 := by
  obtain ⟨entry, allowed⟩ := enforceAlgorithmPolicy_artifactDigest
  rw [internalPreimage, allowed]
  simp only [Outcome.ok_bind, Outcome.bind_eq_ok, Except.ok.injEq,
    canonicalize_default_eq_ok host
      (show isBlank (js "trust-internal-digest-1") = false by decide),
    canonical_internalRecord host contextNormal schemaNormal]
  constructor
  · intro found
    obtain ⟨_, ⟨_, ⟨form, canonical, rfl⟩, fits, rfl⟩, rfl⟩ := found
    exact ⟨form, canonical, rfl, fits⟩
  · intro found
    obtain ⟨form, canonical, rfl, fits⟩ := found
    exact ⟨_, ⟨_, ⟨form, canonical, rfl⟩, fits, rfl⟩, rfl⟩

theorem internalDigest_eq_ok {context schemaVersion : JsString}
    {value : JsValue} {digest : JsString} :
    internalDigest host context schemaVersion value = .ok digest ↔
      ∃ bytes, internalPreimage host context schemaVersion value = .ok bytes ∧
        digest = sha256Bytes bytes := by
  simp only [internalDigest, Outcome.bind_eq_ok, Except.ok.injEq,
    eq_comm (a := digest)]

theorem internalForm_inj {leftContext rightContext leftSchema rightSchema :
    JsString} {left right : Json}
    (same : internalForm leftContext leftSchema left =
      internalForm rightContext rightSchema right) :
    leftContext = rightContext ∧ leftSchema = rightSchema ∧ left = right := by
  simpa [internalForm] using same

theorem stored_internalForm {context schemaVersion : JsString} {form : Json}
    (stored : form.Stored) :
    (internalForm context schemaVersion form).Stored := by
  rw [internalForm]
  apply stored_object_of_plain
  · simp only [List.map_cons, List.map_nil]
    decide +kernel
  · intro entry member
    simp only [List.mem_cons, List.not_mem_nil, or_false] at member
    rcases member with rfl | rfl | rfl | rfl | rfl
    · trivial
    · trivial
    · trivial
    · trivial
    · exact stored

/-- Equal preimages come from equal contexts and equal canonical forms. -/
theorem internalPreimage_inj {leftContext rightContext leftSchema
    rightSchema : JsString} {left right : JsValue} {bytes : List UInt8}
    (leftContextNormal : NormalText host leftContext)
    (rightContextNormal : NormalText host rightContext)
    (leftSchemaNormal : NormalText host leftSchema)
    (rightSchemaNormal : NormalText host rightSchema)
    (leftHashed :
      internalPreimage host leftContext leftSchema left = .ok bytes)
    (rightHashed :
      internalPreimage host rightContext rightSchema right = .ok bytes) :
    leftContext = rightContext ∧
      ∃ form, Canonical host left form ∧ Canonical host right form := by
  obtain ⟨leftForm, leftCanonical, leftBytes, _⟩ :=
    (internalPreimage_eq_ok host leftContextNormal leftSchemaNormal).mp
      leftHashed
  obtain ⟨rightForm, rightCanonical, rightBytes, _⟩ :=
    (internalPreimage_eq_ok host rightContextNormal rightSchemaNormal).mp
      rightHashed
  have leftWhole := ((canonical_internalRecord host leftContextNormal
    leftSchemaNormal).mpr ⟨leftForm, leftCanonical, rfl⟩).normal host
  have rightWhole := ((canonical_internalRecord host rightContextNormal
    rightSchemaNormal).mpr ⟨rightForm, rightCanonical, rfl⟩).normal host
  have sameForm := canonicalBytes_inj leftWhole.stored rightWhole.stored
    (leftBytes.symm.trans rightBytes)
  obtain ⟨sameContext, _, sameValue⟩ := internalForm_inj sameForm
  rw [← sameValue] at rightCanonical
  exact ⟨sameContext, leftForm, leftCanonical, rightCanonical⟩

end Host

/-! ## Hexadecimal digests -/

/-- No two of the given byte strings have one SHA-256 digest. -/
def CollisionFree (hashed : List (List UInt8)) : Prop :=
  Library.HashTree.CollisionFreeOn sha256Bytes hashed

instance (hashed : List (List UInt8)) : Decidable (CollisionFree hashed) :=
  inferInstanceAs (Decidable (∀ left ∈ hashed, ∀ right ∈ hashed,
    sha256Bytes left = sha256Bytes right → left = right))

theorem CollisionFree.mono {few many : List (List UInt8)}
    (free : CollisionFree many) (subset : few ⊆ many) :
    CollisionFree few := by
  intro left leftMember right rightMember
  exact free left (subset leftMember) right (subset rightMember)

theorem collisionFree_of_nodup {hashed : List (List UInt8)}
    {digests : List JsString} (computed : hashed.map sha256Bytes = digests)
    (distinct : digests.Nodup) :
    CollisionFree hashed := by
  rw [← computed] at distinct
  intro left leftMember right rightMember
  exact List.inj_on_of_nodup_map distinct leftMember rightMember

theorem isHexDigest_sha256Bytes (bytes : List UInt8) :
    isHexDigest (sha256Bytes bytes) = true := by
  rw [isHexDigest, Bool.and_eq_true]
  constructor
  · simp [sha256Bytes, length_sha256Hex]
  · rw [List.all_eq_true]
    intro unit member
    obtain ⟨digit, small, shape⟩ := hexUnit_of_mem_sha256Hex member
    rw [shape]
    clear member shape
    revert digit
    decide

theorem isHexDigest_length {digest : JsString}
    (hex : isHexDigest digest = true) :
    digest.length = 64 := by
  rw [isHexDigest, Bool.and_eq_true] at hex
  simpa using hex.1

private theorem isHexDigest_unit {digest : JsString}
    (hex : isHexDigest digest = true) :
    ∀ unit ∈ digest, 48 ≤ unit.toNat ∧ unit.toNat ≤ 102 ∧ unit ≠ 58 ∧
      unit ≠ 92 := by
  intro unit member
  rw [isHexDigest, Bool.and_eq_true, List.all_eq_true] at hex
  have digit := hex.2 unit member
  simp only [isDigit, Bool.or_eq_true, Bool.and_eq_true, decide_eq_true_eq,
    UInt16.le_iff_toNat_le] at digit
  have bounds :
      (48 ≤ unit.toNat ∧ unit.toNat ≤ 57) ∨
        (97 ≤ unit.toNat ∧ unit.toNat ≤ 102) := digit
  refine ⟨by omega, by omega, ?_, ?_⟩
  · rintro rfl
    revert bounds
    decide
  · rintro rfl
    revert bounds
    decide

theorem isHexDigest_isAscii {digest : JsString}
    (hex : isHexDigest digest = true) :
    isAscii digest = true := by
  rw [isAscii, List.all_eq_true]
  intro unit member
  obtain ⟨_, most, _⟩ := isHexDigest_unit hex unit member
  rw [decide_eq_true_eq, UInt16.lt_iff_toNat_lt]
  exact Nat.lt_of_le_of_lt most (by decide)

theorem isHexDigest_isVerbatim {digest : JsString}
    (hex : isHexDigest digest = true) :
    ∀ unit ∈ digest, isVerbatim unit = true := by
  intro unit member
  obtain ⟨least, most, _, notBackslash⟩ := isHexDigest_unit hex unit member
  have notQuote : unit ≠ 34 := by
    rintro rfl
    revert least
    decide
  have printable : (32 : UInt16) ≤ unit := by
    rw [UInt16.le_iff_toNat_le]
    exact Nat.le_trans (by decide) least
  have small : unit < 0xD800 := by
    rw [UInt16.lt_iff_toNat_lt]
    exact Nat.lt_of_le_of_lt most (by decide)
  simp [isVerbatim, printable, small, notQuote, notBackslash]

theorem no_colon_of_isHexDigest {digest : JsString}
    (hex : isHexDigest digest = true) :
    58 ∉ digest := by
  intro member
  exact (isHexDigest_unit hex 58 member).2.2.1 rfl

/-- Canonicalization leaves a digest as it is. -/
theorem normalText_of_isHexDigest (host : Host) {digest : JsString}
    (hex : isHexDigest digest = true) :
    NormalText host digest :=
  normalText_of_no_colon host (isHexDigest_isAscii hex)
    (no_colon_of_isHexDigest hex)

theorem normalText_marked (host : Host) (marker : JsString)
    (ascii : isAscii marker = true) (plain : 58 ∉ marker)
    {digest : JsString} (hex : isHexDigest digest = true) :
    NormalText host (marker ++ digest) := by
  apply normalText_of_no_colon host
  · rw [isAscii, List.all_append, Bool.and_eq_true]
    exact ⟨ascii, isHexDigest_isAscii hex⟩
  · intro member
    rcases List.mem_append.mp member with inMarker | inDigest
    · exact plain inMarker
    · exact no_colon_of_isHexDigest hex inDigest

/-- A digest behind a marker is printed as it is. -/
theorem length_canonicalBytes_digest (marker : JsString)
    (ascii : isAscii marker = true)
    (verbatim : ∀ unit ∈ marker, isVerbatim unit = true) {digest : JsString}
    (hex : isHexDigest digest = true) :
    (canonicalBytes (.string (marker ++ digest))).length =
      marker.length + 66 := by
  rw [length_canonicalBytes_string, List.length_append,
    isHexDigest_length hex]
  · rw [isAscii, List.all_append, Bool.and_eq_true]
    exact ⟨ascii, isHexDigest_isAscii hex⟩
  · intro unit member
    rcases List.mem_append.mp member with inMarker | inDigest
    · exact verbatim unit inMarker
    · exact isHexDigest_isVerbatim hex unit inDigest

end BidayaxExecutive.Trust
