import Mathlib.Data.List.Sort
import BidayaxExecutive.Communications.Columns
import BidayaxExecutive.Library.Patterns

/-!
# Two checks of communication metadata

The domain package and the table's check both refuse metadata that could name
a credential or a person.  The domain searches every key and every text value
with one pattern.  The table searches keys for the listed words only, and asks
of the fields for hashes that they hold a digest, whatever stands in it.  Both
search engines fold the case of ASCII letters.
-/

namespace BidayaxExecutive.Communications

open BidayaxExecutive.Library.Patterns (Pattern)
open BidayaxExecutive.Library.Patterns.Pattern

/-! ## Metadata -/

/-- A number is kept as its text. -/
inductive SafeCommunicationMetadataValue where
  | string (text : Text)
  | number (text : Text)
  | boolean (value : Bool)
  | null

structure SafeCommunicationMetadata where
  entries : List (Text × SafeCommunicationMetadataValue)
  distinctKeys : (entries.map Prod.fst).Nodup

/-- The order of the keys of a `jsonb` object. -/
def jsonbKeyLe (left right : Text) : Bool :=
  left.utf8ByteSize < right.utf8ByteSize ||
    (left.utf8ByteSize == right.utf8ByteSize && left ≤ right)

def SafeCommunicationMetadataValue.jsonb :
    SafeCommunicationMetadataValue → Jsonb
  | string text => .string text
  | number text => .number text
  | boolean value => .boolean value
  | null => .null

def SafeCommunicationMetadata.jsonb (metadata : SafeCommunicationMetadata) :
    Jsonb :=
  .object <|
    (metadata.entries.mergeSort fun left right =>
      jsonbKeyLe left.1 right.1).map fun entry => (entry.1, entry.2.jsonb)

/-! ## The patterns -/

def within (characters : Text) (character : Char) : Bool :=
  characters.toList.contains character

/-- The characters of a word in either case. -/
def word (text : Text) : Pattern Char :=
  sequence <| text.toList.map fun letter =>
    one fun character => character.toLower == letter

def rawContent (separators : Text) : Pattern Char :=
  sequence [word "raw", optional (one (within separators)),
    anyOf [word "body", word "payload", word "transcript", word "audio"]]

def privateKey : Pattern Char :=
  sequence [word "private", optional (one (within " _-")), word "key"]

/-- `\+?[0-9][0-9 .()]\x7b6,\x7d[0-9]` -/
def dialledNumber : Pattern Char :=
  sequence [optional (one (within "+")), one Char.isDigit,
    atLeast (within "0123456789 .()") 6, one Char.isDigit]

/-- `\([0-9]\x7b3\x7d\)[0-9 ._-]\x7b3,\x7d[0-9]` -/
def areaCodeNumber : Pattern Char :=
  sequence [one (within "("), exactly Char.isDigit 3, one (within ")"),
    atLeast (within "0123456789 ._-") 3, one Char.isDigit]

/-- The ten digits of a North American number in three groups. -/
def groupedNumber : Pattern Char :=
  sequence [
    optional <| sequence [optional (one (within "+")), one (within "1"),
      optional (one (within "- ."))],
    optional (one (within "(")), one (within "23456789"),
    exactly Char.isDigit 2, optional (one (within ")")), one (within "- ."),
    exactly Char.isDigit 3, one (within "- ."), exactly Char.isDigit 4]

def digitRun : Pattern Char :=
  atLeast Char.isDigit 10

def sensitiveWords (rawSeparators : Text) : List (Pattern Char) :=
  [word "authorization", word "bearer", word "token", word "secret",
    word "password", privateKey, rawContent rawSeparators, word "transcript",
    word "recording", word "audio", word "e164", word "phone", word "email"]

def numberPatterns : List (Pattern Char) :=
  [dialledNumber, areaCodeNumber, groupedNumber, digitRun]

def sensitiveCommunicationMetadataPattern : Pattern Char :=
  anyOf (sensitiveWords "_ -" ++ word "@" :: numberPatterns)

/-- The pattern for text values in the table's check. -/
def sensitiveValuePattern : Pattern Char :=
  anyOf (word "@" :: (sensitiveWords " _-" ++ numberPatterns))

/-- The pattern for keys in the table's check. -/
def sensitiveKeyPattern : Pattern Char :=
  anyOf (sensitiveWords " _-")

def isSensitive (text : Text) : Bool :=
  sensitiveCommunicationMetadataPattern.found text.toList

/-! ## The domain's check -/

def assertSafeEntries :
    List (Text × SafeCommunicationMetadataValue) → Except Text Unit
  | [] => .ok ()
  | (key, value) :: rest =>
      if isSensitive key then
        .error s!"Communication metadata key '{key}' is not safe."
      else
        match value with
        | .string text =>
            if isSensitive text then
              .error s!"Communication metadata value for '{key}' is not safe."
            else assertSafeEntries rest
        | _ => assertSafeEntries rest

def assertSafeCommunicationMetadata (metadata : SafeCommunicationMetadata) :
    Except Text Unit :=
  assertSafeEntries metadata.entries

/-! ## The table's check -/

/-- `^[0-9a-f]\x7b64\x7d$` -/
def isDigest (text : Text) : Bool :=
  text.toList.length == 64 && text.toList.all (within "0123456789abcdef")

def isHashField (name : Text) : Bool :=
  ["requestHash", "payloadHash", "digest", "checksumSha256"].contains name

mutual

def valueIsSafe (fieldName : Text) : Jsonb → Bool
  | .object fields => fieldsAreSafe fields
  | .array items => itemsAreSafe items
  | .string text =>
      if isHashField fieldName then isDigest text
      else !sensitiveValuePattern.found text.toList
  | _ => true

def fieldsAreSafe : List (Text × Jsonb) → Bool
  | [] => true
  | (key, item) :: rest =>
      if sensitiveKeyPattern.found key.toList then false
      else if !valueIsSafe key item then false
      else fieldsAreSafe rest

def itemsAreSafe : List Jsonb → Bool
  | [] => true
  | item :: rest =>
      if !valueIsSafe "" item then false else itemsAreSafe rest

end

/-- A missing value is safe. -/
def communicationMetadataValueIsSafe (fieldName : Text) :
    Option Jsonb → Bool
  | none => true
  | some fieldValue => valueIsSafe fieldName fieldValue

/-- Missing metadata is not. -/
def communicationMetadataIsSafe : Option Jsonb → Bool
  | none => false
  | some (.object fields) => fieldsAreSafe fields
  | some (.array items) => itemsAreSafe items
  | some other => communicationMetadataValueIsSafe "" (some other)

/-! ## What the patterns share -/

def contactPattern : Pattern Char :=
  anyOf (word "@" :: numberPatterns)

theorem sensitiveWords_separators :
    sensitiveWords "_ -" = sensitiveWords " _-" := by
  have reordered : ("_ -".toList).Perm " _-".toList := by
    decide +kernel
  have sameClass : within "_ -" = within " _-" := by
    funext character
    rw [within, within, Bool.eq_iff_iff, List.contains_iff_mem,
      List.contains_iff_mem]
    exact reordered.mem_iff
  have sameRaw : rawContent "_ -" = rawContent " _-" := by
    rw [rawContent, rawContent, sameClass]
  rw [sensitiveWords, sensitiveWords, sameRaw]

/-- A listed word, or a part that reads like an address or a number. -/
theorem isSensitive_iff (text : Text) :
    isSensitive text = true ↔
      sensitiveKeyPattern.found text.toList = true ∨
        contactPattern.found text.toList = true := by
  rw [isSensitive, sensitiveCommunicationMetadataPattern,
    sensitiveWords_separators]
  exact found_anyOf_append

theorem isSensitive_eq_found_value (text : Text) :
    isSensitive text = sensitiveValuePattern.found text.toList := by
  rw [isSensitive, sensitiveCommunicationMetadataPattern,
    sensitiveWords_separators]
  exact found_anyOf_perm List.perm_middle

/-! ## What each check refuses -/

/-- The text of a value that is a text. -/
def SafeCommunicationMetadataValue.text? :
    SafeCommunicationMetadataValue → Option Text
  | string text => some text
  | _ => none

def DomainRefuses (entry : Text × SafeCommunicationMetadataValue) : Prop :=
  isSensitive entry.1 = true ∨ ∃ text ∈ entry.2.text?, isSensitive text = true

def TableRefuses (entry : Text × SafeCommunicationMetadataValue) : Prop :=
  sensitiveKeyPattern.found entry.1.toList = true ∨
    ∃ text ∈ entry.2.text?,
      if isHashField entry.1 then isDigest text = false
      else isSensitive text = true

theorem domainRefuses_string {key text : Text} :
    DomainRefuses (key, .string text) ↔
      isSensitive key = true ∨ isSensitive text = true := by
  constructor
  · rintro (keySensitive | ⟨_, ⟨⟩, textSensitive⟩)
    · exact Or.inl keySensitive
    · exact Or.inr textSensitive
  · rintro (keySensitive | textSensitive)
    · exact Or.inl keySensitive
    · exact Or.inr ⟨text, rfl, textSensitive⟩

theorem domainRefuses_of_text?_eq_none {key : Text}
    {value : SafeCommunicationMetadataValue} (noText : value.text? = none) :
    DomainRefuses (key, value) ↔ isSensitive key = true := by
  constructor
  · rintro (keySensitive | ⟨text, member, _⟩)
    · exact keySensitive
    · rw [noText] at member
      exact nomatch member
  · exact Or.inl

theorem assertSafeEntries_iff
    (entries : List (Text × SafeCommunicationMetadataValue)) :
    assertSafeEntries entries = .ok () ↔
      ∀ entry ∈ entries, ¬DomainRefuses entry := by
  induction entries with
  | nil =>
      exact iff_of_true rfl nofun
  | cons entry rest inductionHypothesis =>
      obtain ⟨key, value⟩ := entry
      rw [List.forall_mem_cons, ← inductionHypothesis]
      cases value with
      | string text =>
          rw [assertSafeEntries, domainRefuses_string, not_or]
          by_cases keySensitive : isSensitive key = true
          · simp [keySensitive]
          · by_cases textSensitive : isSensitive text = true
            · simp [keySensitive, textSensitive]
            · simp [keySensitive, textSensitive]
      | number text | boolean value | null =>
          rw [domainRefuses_of_text?_eq_none rfl, assertSafeEntries]
          · by_cases keySensitive : isSensitive key = true
            · simp [keySensitive]
            · simp [keySensitive]
          · nofun

theorem valueIsSafe_jsonb (key : Text)
    (value : SafeCommunicationMetadataValue) :
    valueIsSafe key value.jsonb = true ↔
      ¬∃ text ∈ value.text?,
        if isHashField key then isDigest text = false
        else isSensitive text = true := by
  cases value with
  | string text =>
      have onlyText (property : Text → Prop) :
          (∃ found ∈ (SafeCommunicationMetadataValue.string text).text?,
            property found) ↔ property text := by
        constructor
        · rintro ⟨_, ⟨⟩, holds⟩
          exact holds
        · intro holds
          exact ⟨text, rfl, holds⟩
      rw [onlyText, SafeCommunicationMetadataValue.jsonb, valueIsSafe,
        isSensitive_eq_found_value]
      by_cases hashField : isHashField key = true <;> simp [hashField]
  | number text | boolean value | null =>
      refine iff_of_true ?_ ?_
      · rw [SafeCommunicationMetadataValue.jsonb, valueIsSafe] <;> nofun
      · rintro ⟨_, impossible, _⟩
        exact nomatch impossible

theorem fieldsAreSafe_iff
    (entries : List (Text × SafeCommunicationMetadataValue)) :
    fieldsAreSafe (entries.map fun entry => (entry.1, entry.2.jsonb)) = true ↔
      ∀ entry ∈ entries, ¬TableRefuses entry := by
  induction entries with
  | nil =>
      exact iff_of_true rfl nofun
  | cons entry rest inductionHypothesis =>
      rw [List.forall_mem_cons, ← inductionHypothesis, List.map_cons,
        fieldsAreSafe, TableRefuses, not_or, ← valueIsSafe_jsonb]
      by_cases keyWord : sensitiveKeyPattern.found entry.1.toList = true
      · simp [keyWord]
      · simp [keyWord]

theorem communicationMetadataIsSafe_iff
    (metadata : SafeCommunicationMetadata) :
    communicationMetadataIsSafe (some metadata.jsonb) = true ↔
      ∀ entry ∈ metadata.entries, ¬TableRefuses entry := by
  have sameEntries := List.mergeSort_perm metadata.entries fun left right =>
    jsonbKeyLe left.1 right.1
  rw [SafeCommunicationMetadata.jsonb, communicationMetadataIsSafe,
    fieldsAreSafe_iff]
  constructor
  · intro accepted entry member
    exact accepted entry (sameEntries.mem_iff.mpr member)
  · intro accepted entry member
    exact accepted entry (sameEntries.mem_iff.mp member)

/-! ## Agreement -/

/-- An `@` or a number in the key of a value that holds neither of these and
no listed word, or a digest in a field for hashes in which the pattern is
found. -/
def OnlyDomainRefuses (entry : Text × SafeCommunicationMetadataValue) :
    Prop :=
  sensitiveKeyPattern.found entry.1.toList = false ∧
    ((contactPattern.found entry.1.toList = true ∧
        ∀ text ∈ entry.2.text?, isSensitive text = false) ∨
      (isHashField entry.1 = true ∧
        ∃ text ∈ entry.2.text?, isDigest text = true ∧
          isSensitive text = true))

/-- A text that is no digest in a field for hashes, in which the pattern is
not found. -/
def OnlyTableRefuses (entry : Text × SafeCommunicationMetadataValue) : Prop :=
  isHashField entry.1 = true ∧
    ∃ text ∈ entry.2.text?, isDigest text = false ∧ isSensitive text = false

/-- A listed word in the key, or a text in which the pattern is found outside
the digests of the fields for hashes. -/
def BothRefuse (entry : Text × SafeCommunicationMetadataValue) : Prop :=
  sensitiveKeyPattern.found entry.1.toList = true ∨
    ∃ text ∈ entry.2.text?, isSensitive text = true ∧
      (isHashField entry.1 = true → isDigest text = false)

theorem isSensitive_of_isHashField {name : Text}
    (hashField : isHashField name = true) : isSensitive name = false := by
  have listed := List.contains_iff_mem.mp hashField
  simp only [List.mem_cons, List.not_mem_nil, or_false] at listed
  rcases listed with rfl | rfl | rfl | rfl <;> decide +kernel

theorem no_keyWord_of_isHashField {name : Text}
    (hashField : isHashField name = true) :
    sensitiveKeyPattern.found name.toList = false := by
  have accepted := isSensitive_of_isHashField hashField
  rw [Bool.eq_false_iff] at accepted ⊢
  intro keyWord
  exact accepted ((isSensitive_iff name).mpr (Or.inl keyWord))

section

variable {entry : Text × SafeCommunicationMetadataValue}

theorem domainRefuses_hashField (hashField : isHashField entry.1 = true) :
    DomainRefuses entry ↔ ∃ text ∈ entry.2.text?, isSensitive text = true := by
  rw [DomainRefuses, isSensitive_of_isHashField hashField]
  simp only [Bool.false_eq_true, false_or]

theorem tableRefuses_hashField (hashField : isHashField entry.1 = true) :
    TableRefuses entry ↔ ∃ text ∈ entry.2.text?, isDigest text = false := by
  rw [TableRefuses, no_keyWord_of_isHashField hashField]
  simp only [Bool.false_eq_true, false_or, hashField, if_true]

theorem tableRefuses_other (other : isHashField entry.1 ≠ true) :
    TableRefuses entry ↔
      sensitiveKeyPattern.found entry.1.toList = true ∨
        ∃ text ∈ entry.2.text?, isSensitive text = true := by
  rw [TableRefuses]
  simp only [other, Bool.false_eq_true, if_false]

/-- Outside the fields for hashes the domain's check is the stricter one. -/
theorem domainRefuses_of_tableRefuses (other : isHashField entry.1 ≠ true)
    (refused : TableRefuses entry) : DomainRefuses entry := by
  rcases (tableRefuses_other other).mp refused with keyWord | textSensitive
  · exact Or.inl ((isSensitive_iff _).mpr (Or.inl keyWord))
  · exact Or.inr textSensitive

theorem onlyDomainRefuses_iff :
    OnlyDomainRefuses entry ↔ DomainRefuses entry ∧ ¬TableRefuses entry := by
  by_cases hashField : isHashField entry.1 = true
  · have noWord := no_keyWord_of_isHashField hashField
    have noContact : contactPattern.found entry.1.toList ≠ true := by
      intro contact
      have sensitive := (isSensitive_iff entry.1).mpr (Or.inr contact)
      rw [isSensitive_of_isHashField hashField] at sensitive
      exact nomatch sensitive
    rw [OnlyDomainRefuses, domainRefuses_hashField hashField,
      tableRefuses_hashField hashField]
    cases entry.2.text? with
    | none => simp [noContact]
    | some text => simp [noWord, noContact, hashField, and_comm]
  · rw [OnlyDomainRefuses, DomainRefuses, tableRefuses_other hashField, not_or,
      Bool.not_eq_true, and_left_comm]
    refine and_congr_right fun noWord => ?_
    have onlyContact : isSensitive entry.1 = true ↔
        contactPattern.found entry.1.toList = true := by
      rw [isSensitive_iff, noWord]
      simp only [Bool.false_eq_true, false_or]
    rw [onlyContact]
    cases entry.2.text? with
    | none => simp [hashField]
    | some text =>
        by_cases textSensitive : isSensitive text = true
        · simp [hashField, textSensitive]
        · simp [hashField, textSensitive]

theorem onlyTableRefuses_iff :
    OnlyTableRefuses entry ↔ TableRefuses entry ∧ ¬DomainRefuses entry := by
  by_cases hashField : isHashField entry.1 = true
  · rw [OnlyTableRefuses, domainRefuses_hashField hashField,
      tableRefuses_hashField hashField]
    cases entry.2.text? with
    | none => simp
    | some text => simp [hashField]
  · refine iff_of_false ?_ ?_
    · rintro ⟨impossible, _⟩
      exact hashField impossible
    · rintro ⟨refused, accepted⟩
      exact accepted (domainRefuses_of_tableRefuses hashField refused)

theorem bothRefuse_iff :
    BothRefuse entry ↔ DomainRefuses entry ∧ TableRefuses entry := by
  by_cases hashField : isHashField entry.1 = true
  · rw [BothRefuse, domainRefuses_hashField hashField,
      tableRefuses_hashField hashField, no_keyWord_of_isHashField hashField]
    cases entry.2.text? with
    | none => simp
    | some text => simp [hashField]
  · rw [and_iff_right_of_imp (domainRefuses_of_tableRefuses hashField),
      tableRefuses_other hashField, BothRefuse]
    simp only [hashField, Bool.false_eq_true, false_imp_iff, and_true]

end

/-- The two checks agree on metadata when some entry is refused by both, or
when entries that only one of them refuses stand on both sides or on
neither. -/
theorem metadataChecksAgree_iff (metadata : SafeCommunicationMetadata) :
    (assertSafeCommunicationMetadata metadata = .ok () ↔
        communicationMetadataIsSafe (some metadata.jsonb) = true) ↔
      (∃ entry ∈ metadata.entries, BothRefuse entry) ∨
        ((∃ entry ∈ metadata.entries, OnlyDomainRefuses entry) ↔
          ∃ entry ∈ metadata.entries, OnlyTableRefuses entry) := by
  rw [assertSafeCommunicationMetadata, assertSafeEntries_iff,
    communicationMetadataIsSafe_iff]
  simp only [onlyDomainRefuses_iff, onlyTableRefuses_iff, bothRefuse_iff]
  constructor
  · intro agree
    by_cases domainAccepts : ∀ entry ∈ metadata.entries, ¬DomainRefuses entry
    · have tableAccepts := agree.mp domainAccepts
      refine Or.inr (iff_of_false ?_ ?_)
      · rintro ⟨entry, member, refused, _⟩
        exact domainAccepts entry member refused
      · rintro ⟨entry, member, refused, _⟩
        exact tableAccepts entry member refused
    · have tableRefuses := mt agree.mpr domainAccepts
      simp only [not_forall, not_not, exists_prop]
        at domainAccepts tableRefuses
      obtain ⟨first, firstMember, firstRefused⟩ := domainAccepts
      obtain ⟨second, secondMember, secondRefused⟩ := tableRefuses
      by_cases firstBoth : TableRefuses first
      · exact Or.inl ⟨first, firstMember, firstRefused, firstBoth⟩
      · by_cases secondBoth : DomainRefuses second
        · exact Or.inl ⟨second, secondMember, secondBoth, secondRefused⟩
        · exact Or.inr (iff_of_true
            ⟨first, firstMember, firstRefused, firstBoth⟩
            ⟨second, secondMember, secondRefused, secondBoth⟩)
  · rintro (⟨entry, member, domainRefused, tableRefused⟩ | sides)
    · refine iff_of_false ?_ ?_
      · intro accepts
        exact accepts entry member domainRefused
      · intro accepts
        exact accepts entry member tableRefused
    · constructor
      · intro domainAccepts entry member refused
        obtain ⟨other, otherMember, otherRefused, _⟩ := sides.mpr
          ⟨entry, member, refused, domainAccepts entry member⟩
        exact domainAccepts other otherMember otherRefused
      · intro tableAccepts entry member refused
        obtain ⟨other, otherMember, otherRefused, _⟩ := sides.mp
          ⟨entry, member, refused, tableAccepts entry member⟩
        exact tableAccepts other otherMember otherRefused

/-- A digest with a run of digits. -/
def payloadDigestMetadata : SafeCommunicationMetadata where
  entries := [("payloadHash", .string
    "9f2c4417263508a1b3c5d7e9f0a2b4c6d8eaf1b3c5d7e9f0a2b4c6d8eaf1b3c5")]
  distinctKeys := List.nodup_singleton _

theorem not_metadataChecksAgree_of_digest :
    ¬∀ metadata : SafeCommunicationMetadata,
      assertSafeCommunicationMetadata metadata = .ok () ↔
        communicationMetadataIsSafe (some metadata.jsonb) = true := by
  intro agree
  have accepted :
      communicationMetadataIsSafe (some payloadDigestMetadata.jsonb) = true := by
    decide +kernel
  have refused :
      assertSafeCommunicationMetadata payloadDigestMetadata ≠ .ok () := by
    decide +kernel
  exact refused ((agree payloadDigestMetadata).mpr accepted)

end BidayaxExecutive.Communications
