import BidayaxExecutive.Trust.Domains
import BidayaxExecutive.Trust.Equivalence

/-!
# The signed digest of a settings snapshot

The canonicalizer refuses fractions, so a snapshot is rewritten before it is
signed: every fraction becomes the string of its text.  Where another snapshot
holds that string already, the two have one digest.
-/

namespace BidayaxExecutive.Settings

open BidayaxExecutive.Runtime JsString
open BidayaxExecutive.Trust
open BidayaxExecutive.Library.Guards

/-! ## The payload -/

def settingsTrustNumber : JsNumber → Outcome Json
  | .nan | .infinity _ =>
      .error <| .error <|
        js "Settings trust payload contains a non-finite number"
  | .fraction _ text => .ok (.string text.1)
  | value => .ok (.number value)

mutual

/-- A snapshot is JSON data, so that no value is left unsupported. -/
def settingsTrustPayload : Json → Outcome Json
  | .number value => settingsTrustNumber value
  | .array elements => do
      let items ← settingsTrustItems elements
      .ok (.array items)
  | .object fields => do
      let entries ← settingsTrustEntries fields
      .ok (.object (ownPropertyOrder entries))
  | value => .ok value

def settingsTrustItems : List Json → Outcome (List Json)
  | [] => .ok []
  | element :: rest => do
      let item ← settingsTrustPayload element
      let items ← settingsTrustItems rest
      .ok (item :: items)

def settingsTrustEntries :
    List (JsString × Json) → Outcome (List (JsString × Json))
  | [] => .ok []
  | (key, child) :: rest => do
      let value ← settingsTrustPayload child
      let entries ← settingsTrustEntries rest
      .ok ((key, value) :: entries)

end

/-- The digest `buildEvidence` takes of a published version. -/
def settingsDigestInput (versionId cardId tenantId : JsString)
    (payload : Json) : DomainDigestInput where
  domain := js "settings.snapshot"
  schemaVersion := js "settings-snapshot-1"
  tenantId := tenantId
  cardId := some cardId
  artifactType := js "settings_snapshot"
  artifactId := versionId
  artifactVersion := versionId
  payload := payload.toJs

def settingsSnapshotDigest (host : Host)
    (versionId cardId tenantId : JsString) (settingsSnapshot : Json) :
    Outcome JsString := do
  let payload ← settingsTrustPayload settingsSnapshot
  createDomainDigest host
    (settingsDigestInput versionId cardId tenantId payload)

/-- The bytes that are hashed for a snapshot. -/
def settingsSnapshotPreimages (host : Host)
    (versionId cardId tenantId : JsString) (settingsSnapshot : Json) :
    List (List UInt8) :=
  let preimage := do
    let payload ← settingsTrustPayload settingsSnapshot
    domainPreimage host
      (settingsDigestInput versionId cardId tenantId payload)
  preimage.toOption.toList

/-! ## What snapshots share -/

section Host

variable (host : Host)

mutual

/-- Equality up to the order of keys, the normalization of texts, the sign of
zero and the text of timestamps.  When it is `lenient`, a fraction may also
meet the string of its text. -/
def SameSettings (lenient : Bool) : Json → Json → Prop
  | .null, .null => True
  | .boolean left, .boolean right => left = right
  | .number left, .number right => left.strictEquals right = true
  | .string left, .string right => utcText host left = utcText host right
  | .number (.fraction _ text), .string right =>
      lenient = true ∧ text.1 = utcText host right
  | .string left, .number (.fraction _ text) =>
      lenient = true ∧ utcText host left = text.1
  | .array left, .array right => SameItems lenient left right
  | .object left, .object right =>
      ∃ reordered, reordered.Perm right ∧ SameFields lenient left reordered
  | _, _ => False

def SameItems (lenient : Bool) : List Json → List Json → Prop
  | [], [] => True
  | left :: lefts, right :: rights =>
      SameSettings lenient left right ∧ SameItems lenient lefts rights
  | _, _ => False

def SameFields (lenient : Bool) :
    List (JsString × Json) → List (JsString × Json) → Prop
  | [], [] => True
  | (leftKey, left) :: lefts, (rightKey, right) :: rights =>
      host.nfc leftKey = host.nfc rightKey ∧
        SameSettings lenient left right ∧ SameFields lenient lefts rights
  | _, _ => False

end

end Host

mutual

/-- The fractions of a value, each with its text. -/
def fractions : Json → List (ℚ × JsString)
  | .number (.fraction value text) => [(value, text.1)]
  | .array elements => fractionsOfItems elements
  | .object fields => fractionsOfFields fields
  | _ => []

def fractionsOfItems : List Json → List (ℚ × JsString)
  | [] => []
  | element :: rest => fractions element ++ fractionsOfItems rest

def fractionsOfFields : List (JsString × Json) → List (ℚ × JsString)
  | [] => []
  | (_, value) :: rest => fractions value ++ fractionsOfFields rest

end

/-- The texts are those of `Number::toString`: there is one for each value,
and none has a colon. -/
structure PrintedNumbers (numbers : List (ℚ × JsString)) : Prop where
  noColon : ∀ number ∈ numbers, 58 ∉ number.2
  faithful : ∀ first ∈ numbers, ∀ second ∈ numbers,
    first.2 = second.2 ↔ first.1 = second.1

theorem printedNumbers_singleton {value : ℚ} {text : JsString}
    (plain : 58 ∉ text) : PrintedNumbers [(value, text)] := by
  constructor
  · intro number member
    rw [List.mem_singleton.mp member]
    exact plain
  · intro first firstMember second secondMember
    rw [List.mem_singleton.mp firstMember, List.mem_singleton.mp secondMember]
    exact iff_of_true rfl rfl

/-! ## Rewritten snapshots -/

/-- What a number becomes. -/
theorem settingsTrustNumber_eq_ok {number : JsNumber} {payload : Json}
    (rewritten : settingsTrustNumber number = .ok payload) :
    (∃ integer, number.toInt? = some integer ∧ payload = .number number) ∨
      ∃ value text, number = .fraction value text ∧
        payload = .string text.1 := by
  cases number with
  | nan => exact nomatch rewritten
  | infinity _ => exact nomatch rewritten
  | negativeZero => exact Or.inl ⟨0, rfl, (Except.ok.inj rewritten).symm⟩
  | integer value =>
      exact Or.inl ⟨value, rfl, (Except.ok.inj rewritten).symm⟩
  | fraction value text =>
      exact Or.inr ⟨value, text, rfl, (Except.ok.inj rewritten).symm⟩

/-- A field and the entry it becomes. -/
def RewrittenField (field entry : JsString × Json) : Prop :=
  entry.1 = field.1 ∧ settingsTrustPayload field.2 = .ok entry.2

theorem settingsTrustEntries_eq_ok {fields entries : List (JsString × Json)} :
    settingsTrustEntries fields = .ok entries ↔
      List.Forall₂ RewrittenField fields entries := by
  induction fields generalizing entries with
  | nil =>
      rw [settingsTrustEntries, List.forall₂_nil_left_iff, Except.ok.injEq,
        eq_comm]
  | cons field rest inductionHypothesis =>
      obtain ⟨key, child⟩ := field
      rw [settingsTrustEntries, List.forall₂_cons_left_iff]
      simp only [Outcome.bind_eq_ok, inductionHypothesis, Except.ok.injEq]
      constructor
      · rintro ⟨value, rewritten, others, tail, rfl⟩
        exact ⟨(key, value), others, ⟨rfl, rewritten⟩, tail, rfl⟩
      · rintro ⟨⟨entryKey, value⟩, others, ⟨sameKey, rewritten⟩, tail, rfl⟩
        have keyEq : entryKey = key := sameKey
        exact ⟨value, rewritten, others, tail, by rw [keyEq]⟩

/-- Reordered fields become reordered entries. -/
theorem settingsTrustEntries_of_perm_fields
    {fields entries reordered : List (JsString × Json)}
    (rewritten : settingsTrustEntries fields = .ok entries)
    (permutation : reordered.Perm fields) :
    ∃ matched, matched.Perm entries ∧
      settingsTrustEntries reordered = .ok matched := by
  obtain ⟨matched, related, perm⟩ := List.perm_comp_forall₂ permutation
    (settingsTrustEntries_eq_ok.mp rewritten)
  exact ⟨matched, perm, settingsTrustEntries_eq_ok.mpr related⟩

/-- Reordered entries come from reordered fields. -/
theorem settingsTrustEntries_of_perm_entries
    {fields entries reordered : List (JsString × Json)}
    (rewritten : settingsTrustEntries fields = .ok entries)
    (permutation : reordered.Perm entries) :
    ∃ matched, matched.Perm fields ∧
      settingsTrustEntries matched = .ok reordered := by
  have flipped := (settingsTrustEntries_eq_ok.mp rewritten).flip
  obtain ⟨matched, related, perm⟩ :=
    List.perm_comp_forall₂ permutation flipped
  exact ⟨matched, perm, settingsTrustEntries_eq_ok.mpr related.flip⟩

theorem fractionsOfFields_eq_flatMap (fields : List (JsString × Json)) :
    fractionsOfFields fields = fields.flatMap fun field =>
      fractions field.2 := by
  induction fields with
  | nil =>
      rfl
  | cons field rest inductionHypothesis =>
      obtain ⟨key, value⟩ := field
      rw [fractionsOfFields, inductionHypothesis, List.flatMap_cons]

theorem fractionsOfFields_subset_of_perm
    {fields reordered : List (JsString × Json)}
    (permutation : reordered.Perm fields) :
    fractionsOfFields reordered ⊆ fractionsOfFields fields := by
  rw [fractionsOfFields_eq_flatMap, fractionsOfFields_eq_flatMap]
  exact (permutation.flatMap_right _).subset

/-! ## Which snapshots have equivalent payloads -/

section Host

variable (host : Host)

/-- The text of a fraction is canonical. -/
theorem utcText_of_printed {numbers : List (ℚ × JsString)}
    (printed : PrintedNumbers numbers) {value : ℚ}
    {text : { text : JsString // isAscii text = true }}
    (member : (value, text.1) ∈ numbers) :
    utcText host text.1 = text.1 := by
  have normal : NormalText host text.1 :=
    normalText_of_no_colon host text.2 (printed.noColon _ member)
  exact (normalizeString_eq_utcText host normal).symm

variable {numbers : List (ℚ × JsString)} (printed : PrintedNumbers numbers)

include printed in
theorem equivalent_number_iff {left right : JsNumber}
    {leftPayload rightPayload : Json}
    (leftRewritten : settingsTrustNumber left = .ok leftPayload)
    (rightRewritten : settingsTrustNumber right = .ok rightPayload)
    (leftPrinted : fractions (.number left) ⊆ numbers)
    (rightPrinted : fractions (.number right) ⊆ numbers) :
    Equivalent host (SameText host) leftPayload.toJs rightPayload.toJs ↔
      left.strictEquals right = true := by
  rcases settingsTrustNumber_eq_ok leftRewritten with
    ⟨leftValue, leftIntegral, rfl⟩ | ⟨leftValue, leftText, rfl, rfl⟩
  · rcases settingsTrustNumber_eq_ok rightRewritten with
      ⟨rightValue, rightIntegral, rfl⟩ | ⟨rightValue, rightText, rfl, rfl⟩
    · rw [JsNumber.strictEquals_of_toInt? leftIntegral rightIntegral, beq_iff_eq]
      simp only [Json.toJs, Equivalent, leftIntegral, rightIntegral,
        Option.some.injEq]
      constructor
      · rintro ⟨integer, leftIs, rightIs⟩
        exact leftIs.trans rightIs.symm
      · intro same
        exact ⟨leftValue, rfl, same.symm⟩
    · refine iff_of_false ?_ ?_
      · simp only [Json.toJs, Equivalent, not_false_eq_true]
      · cases left <;> simp_all [JsNumber.strictEquals, JsNumber.toInt?]
  · have leftMember : (leftValue, leftText.1) ∈ numbers :=
      leftPrinted (List.mem_singleton.mpr rfl)
    rcases settingsTrustNumber_eq_ok rightRewritten with
      ⟨rightValue, rightIntegral, rfl⟩ | ⟨rightValue, rightText, rfl, rfl⟩
    · refine iff_of_false ?_ ?_
      · simp only [Json.toJs, Equivalent, not_false_eq_true]
      · cases right <;> simp_all [JsNumber.strictEquals, JsNumber.toInt?]
    · have rightMember : (rightValue, rightText.1) ∈ numbers :=
        rightPrinted (List.mem_singleton.mpr rfl)
      have sameText := printed.faithful _ leftMember _ rightMember
      simp only [Json.toJs, Equivalent, SameText, JsNumber.strictEquals,
        JsNumber.toInt?,
        utcText_of_printed host printed leftMember,
        utcText_of_printed host printed rightMember, beq_iff_eq]
      exact sameText

theorem equivalentProperties_iff_forall₂
    {left right : List (JsString × Json)} :
    EquivalentProperties host (SameText host) (Json.propertiesOf left)
        (Json.propertiesOf right) ↔
      List.Forall₂ (fun first second =>
        host.nfc first.1 = host.nfc second.1 ∧
          Equivalent host (SameText host) first.2.toJs second.2.toJs)
        left right := by
  induction left generalizing right with
  | nil =>
      cases right with
      | nil => simp [Json.propertiesOf, EquivalentProperties]
      | cons field rest => simp [Json.propertiesOf, EquivalentProperties]
  | cons field rest inductionHypothesis =>
      cases right with
      | nil => simp [Json.propertiesOf, EquivalentProperties]
      | cons other others =>
          rw [List.forall₂_cons, ← inductionHypothesis, and_assoc]
          exact Iff.rfl

theorem equivalent_object_iff {left right : List (JsString × Json)} :
    Equivalent host (SameText host) (Json.object (ownPropertyOrder left)).toJs
        (Json.object (ownPropertyOrder right)).toJs ↔
      ∃ reordered, reordered.Perm right ∧
        EquivalentProperties host (SameText host) (Json.propertiesOf left)
          (Json.propertiesOf reordered) := by
  have leftPerm := ownPropertyOrder_perm left
  have rightPerm := ownPropertyOrder_perm right
  simp only [Json.toJs, Equivalent]
  constructor
  · rintro ⟨properties, perm, matched⟩
    have printedBack : List.Forall₂
        (fun property (field : JsString × Json) =>
          property = (field.1, SlotKind.enumerable, field.2.toJs))
        (Json.propertiesOf (ownPropertyOrder right))
        (ownPropertyOrder right) := by
      rw [Json.propertiesOf_eq_map, List.forall₂_map_left_iff]
      exact List.forall₂_same.mpr fun _ _ => rfl
    obtain ⟨fields, fromFields, fieldsPerm⟩ :=
      List.perm_comp_forall₂ perm printedBack
    have sameProperties : properties = Json.propertiesOf fields := by
      rw [Json.propertiesOf_eq_map]
      clear matched perm fieldsPerm
      induction fromFields with
      | nil => rfl
      | cons head _ inductionHypothesis =>
          rw [head, inductionHypothesis, List.map_cons]
    rw [sameProperties, equivalentProperties_iff_forall₂] at matched
    obtain ⟨reordered, related, reorderedPerm⟩ :=
      List.perm_comp_forall₂ leftPerm.symm matched
    exact ⟨reordered, reorderedPerm.trans (fieldsPerm.trans rightPerm),
      (equivalentProperties_iff_forall₂ host).mpr related⟩
  · rintro ⟨reordered, perm, matched⟩
    rw [equivalentProperties_iff_forall₂] at matched
    obtain ⟨fields, related, fieldsPerm⟩ :=
      List.perm_comp_forall₂ leftPerm matched
    refine ⟨Json.propertiesOf fields, ?_,
      (equivalentProperties_iff_forall₂ host).mpr related⟩
    rw [Json.propertiesOf_eq_map, Json.propertiesOf_eq_map]
    exact (fieldsPerm.trans (perm.trans rightPerm.symm)).map _

/-- A number and a value of another kind. -/
theorem equivalent_number_other {number : JsNumber} {payload : Json}
    (rewritten : settingsTrustNumber number = .ok payload) (other : Json)
    (notNumber : ∀ value, other ≠ .number value)
    (notString : ∀ text, other ≠ .string text) :
    ¬Equivalent host (SameText host) payload.toJs other.toJs ∧
      ¬Equivalent host (SameText host) other.toJs payload.toJs := by
  rcases settingsTrustNumber_eq_ok rewritten with
    ⟨_, _, rfl⟩ | ⟨_, _, _, rfl⟩
  · cases other with
    | number value => exact absurd rfl (notNumber value)
    | null | boolean _ | string _ | array _ | object _ =>
        simp [Json.toJs, Equivalent]
  · cases other with
    | string text => exact absurd rfl (notString text)
    | null | boolean _ | number _ | array _ | object _ =>
        simp [Json.toJs, Equivalent]

include printed

theorem equivalent_number_string_iff {number : JsNumber} {payload : Json}
    {text : JsString}
    (rewritten : settingsTrustNumber number = .ok payload)
    (numberPrinted : fractions (.number number) ⊆ numbers) :
    (Equivalent host (SameText host) payload.toJs (Json.string text).toJs ↔
        SameSettings host true (.number number) (.string text)) ∧
      (Equivalent host (SameText host) (Json.string text).toJs payload.toJs ↔
        SameSettings host true (.string text) (.number number)) := by
  rcases settingsTrustNumber_eq_ok rewritten with
    ⟨integer, integral, rfl⟩ | ⟨value, numberText, rfl, rfl⟩
  · cases number <;>
      simp_all [Json.toJs, Equivalent, SameSettings, JsNumber.toInt?]
  · have member : (value, numberText.1) ∈ numbers :=
      numberPrinted (List.mem_singleton.mpr rfl)
    simp only [Json.toJs, Equivalent, SameText, SameSettings, true_and,
      utcText_of_printed host printed member, and_self]

omit printed in
/-- A list and a value of another kind. -/
theorem equivalent_array_other {elements items : List Json}
    {right rightPayload : Json}
    (rightRewritten : settingsTrustPayload right = .ok rightPayload)
    (other : ∀ elements, right ≠ .array elements) :
    Equivalent host (SameText host) (Json.array items).toJs
        rightPayload.toJs ↔
      SameSettings host true (.array elements) right := by
  cases right with
  | number number =>
      have different := equivalent_number_other host rightRewritten
        (.array items) nofun nofun
      simp [different, SameSettings]
  | null | boolean _ | string _ =>
      cases Except.ok.inj rightRewritten
      simp [Json.toJs, Equivalent, SameSettings]
  | array others =>
      exact absurd rfl (other others)
  | object _ =>
      obtain ⟨_, _, shape⟩ := Outcome.bind_eq_ok.mp rightRewritten
      cases Except.ok.inj shape
      simp [Json.toJs, Equivalent, SameSettings]

omit printed in
/-- A record and a value of another kind. -/
theorem equivalent_object_other {fields entries : List (JsString × Json)}
    {right rightPayload : Json}
    (rightRewritten : settingsTrustPayload right = .ok rightPayload)
    (other : ∀ fields, right ≠ .object fields) :
    Equivalent host (SameText host) (Json.object entries).toJs
        rightPayload.toJs ↔
      SameSettings host true (.object fields) right := by
  cases right with
  | number number =>
      have different := equivalent_number_other host rightRewritten
        (.object entries) nofun nofun
      simp [different, SameSettings]
  | null | boolean _ | string _ =>
      cases Except.ok.inj rightRewritten
      simp [Json.toJs, Equivalent, SameSettings]
  | array _ =>
      obtain ⟨_, _, shape⟩ := Outcome.bind_eq_ok.mp rightRewritten
      cases Except.ok.inj shape
      simp [Json.toJs, Equivalent, SameSettings]
  | object others =>
      exact absurd rfl (other others)

/-- A number and any value. -/
theorem equivalent_number_payload_iff {number : JsNumber}
    {right leftPayload rightPayload : Json}
    (leftRewritten : settingsTrustNumber number = .ok leftPayload)
    (rightRewritten : settingsTrustPayload right = .ok rightPayload)
    (leftPrinted : fractions (.number number) ⊆ numbers)
    (rightPrinted : fractions right ⊆ numbers) :
    Equivalent host (SameText host) leftPayload.toJs rightPayload.toJs ↔
      SameSettings host true (.number number) right := by
  cases right with
  | number other =>
      rw [SameSettings]
      exact equivalent_number_iff host printed leftRewritten rightRewritten
        leftPrinted rightPrinted
  | string text =>
      cases Except.ok.inj rightRewritten
      exact (equivalent_number_string_iff host printed leftRewritten
        leftPrinted).1
  | null | boolean _ =>
      cases Except.ok.inj rightRewritten
      simp [equivalent_number_other host leftRewritten, SameSettings]
  | array _ | object _ =>
      obtain ⟨_, _, shape⟩ := Outcome.bind_eq_ok.mp rightRewritten
      cases Except.ok.inj shape
      simp [equivalent_number_other host leftRewritten, SameSettings]

/-- A value that is kept as it is, and any value. -/
theorem equivalent_kept_payload_iff {left right rightPayload : Json}
    (kept : left = .null ∨ (∃ value, left = .boolean value) ∨
      ∃ text, left = .string text)
    (rightRewritten : settingsTrustPayload right = .ok rightPayload)
    (rightPrinted : fractions right ⊆ numbers) :
    Equivalent host (SameText host) left.toJs rightPayload.toJs ↔
      SameSettings host true left right := by
  cases right with
  | number number =>
      have different := fun other notNumber notString =>
        (equivalent_number_other host rightRewritten other notNumber
          notString).2
      rcases kept with rfl | ⟨value, rfl⟩ | ⟨text, rfl⟩
      · simp [different .null nofun nofun, SameSettings]
      · simp [different (.boolean value) nofun nofun, SameSettings]
      · exact (equivalent_number_string_iff host printed rightRewritten
          rightPrinted).2
  | null | boolean _ | string _ =>
      cases Except.ok.inj rightRewritten
      rcases kept with rfl | ⟨value, rfl⟩ | ⟨text, rfl⟩ <;>
        simp [Json.toJs, Equivalent, SameText, SameSettings]
  | array _ | object _ =>
      obtain ⟨_, _, shape⟩ := Outcome.bind_eq_ok.mp rightRewritten
      cases Except.ok.inj shape
      rcases kept with rfl | ⟨value, rfl⟩ | ⟨text, rfl⟩ <;>
        simp [Json.toJs, Equivalent, SameSettings]

omit printed in
/-- Records agree where their entries do, in whatever order. -/
theorem equivalent_fields_iff
    {left right leftEntries rightEntries : List (JsString × Json)}
    (rightRewritten : settingsTrustEntries right = .ok rightEntries)
    (rightPrinted : fractionsOfFields right ⊆ numbers)
    (ordered : ∀ source reordered,
      settingsTrustEntries source = .ok reordered →
      fractionsOfFields source ⊆ numbers →
      (EquivalentProperties host (SameText host)
          (Json.propertiesOf leftEntries) (Json.propertiesOf reordered) ↔
        SameFields host true left source)) :
    Equivalent host (SameText host)
        (Json.object (ownPropertyOrder leftEntries)).toJs
        (Json.object (ownPropertyOrder rightEntries)).toJs ↔
      SameSettings host true (.object left) (.object right) := by
  rw [equivalent_object_iff, SameSettings]
  constructor
  · rintro ⟨reordered, perm, matched⟩
    obtain ⟨source, sourcePerm, sourceRewritten⟩ :=
      settingsTrustEntries_of_perm_entries rightRewritten perm
    have printedSource := List.Subset.trans
      (fractionsOfFields_subset_of_perm sourcePerm) rightPrinted
    exact ⟨source, sourcePerm,
      (ordered source reordered sourceRewritten printedSource).mp matched⟩
  · rintro ⟨source, perm, matched⟩
    obtain ⟨reordered, reorderedPerm, sourceRewritten⟩ :=
      settingsTrustEntries_of_perm_fields rightRewritten perm
    have printedSource := List.Subset.trans
      (fractionsOfFields_subset_of_perm perm) rightPrinted
    exact ⟨reordered, reorderedPerm,
      (ordered source reordered sourceRewritten printedSource).mpr matched⟩

set_option linter.unusedSectionVars false in
mutual

theorem equivalent_payload_iff :
    ∀ {left right leftPayload rightPayload : Json},
      settingsTrustPayload left = .ok leftPayload →
      settingsTrustPayload right = .ok rightPayload →
      fractions left ⊆ numbers → fractions right ⊆ numbers →
      (Equivalent host (SameText host) leftPayload.toJs rightPayload.toJs ↔
        SameSettings host true left right)
  | .null, right, _, _, leftRewritten, rightRewritten, _, rightPrinted => by
      cases Except.ok.inj leftRewritten
      exact equivalent_kept_payload_iff host printed (.inl rfl)
        rightRewritten rightPrinted
  | .boolean value, right, _, _, leftRewritten, rightRewritten, _,
      rightPrinted => by
      cases Except.ok.inj leftRewritten
      exact equivalent_kept_payload_iff host printed (.inr (.inl ⟨_, rfl⟩))
        rightRewritten rightPrinted
  | .number number, right, _, _, leftRewritten, rightRewritten, leftPrinted,
      rightPrinted =>
      equivalent_number_payload_iff host printed leftRewritten rightRewritten
        leftPrinted rightPrinted
  | .string value, right, _, _, leftRewritten, rightRewritten, _,
      rightPrinted => by
      cases Except.ok.inj leftRewritten
      exact equivalent_kept_payload_iff host printed (.inr (.inr ⟨_, rfl⟩))
        rightRewritten rightPrinted
  | .array elements, right, _, _, leftRewritten, rightRewritten, leftPrinted,
      rightPrinted => by
      obtain ⟨items, itemsRewritten, shape⟩ :=
        Outcome.bind_eq_ok.mp leftRewritten
      cases Except.ok.inj shape
      cases right with
      | array others =>
          obtain ⟨_, othersRewritten, otherShape⟩ :=
            Outcome.bind_eq_ok.mp rightRewritten
          cases Except.ok.inj otherShape
          rw [Json.toJs, Json.toJs, Equivalent, SameSettings]
          exact equivalent_items_iff itemsRewritten othersRewritten leftPrinted
            rightPrinted
      | null | boolean _ | number _ | string _ | object _ =>
          exact equivalent_array_other host rightRewritten nofun
  | .object fields, right, _, _, leftRewritten, rightRewritten, leftPrinted,
      rightPrinted => by
      obtain ⟨entries, entriesRewritten, shape⟩ :=
        Outcome.bind_eq_ok.mp leftRewritten
      cases Except.ok.inj shape
      cases right with
      | object others =>
          obtain ⟨_, othersRewritten, otherShape⟩ :=
            Outcome.bind_eq_ok.mp rightRewritten
          cases Except.ok.inj otherShape
          exact equivalent_fields_iff host othersRewritten rightPrinted
            fun _ _ sourceRewritten sourcePrinted =>
              equivalent_entries_iff entriesRewritten sourceRewritten
                leftPrinted sourcePrinted
      | null | boolean _ | number _ | string _ | array _ =>
          exact equivalent_object_other host rightRewritten nofun

theorem equivalent_items_iff :
    ∀ {left right leftItems rightItems : List Json},
      settingsTrustItems left = .ok leftItems →
      settingsTrustItems right = .ok rightItems →
      fractionsOfItems left ⊆ numbers → fractionsOfItems right ⊆ numbers →
      (EquivalentSlots host (SameText host) (Json.slotsOf leftItems)
          (Json.slotsOf rightItems) ↔
        SameItems host true left right)
  | [], right, _, _, leftRewritten, rightRewritten, _, _ => by
      cases Except.ok.inj leftRewritten
      cases right with
      | nil =>
          cases Except.ok.inj rightRewritten
          simp [Json.slotsOf, EquivalentSlots, SameItems]
      | cons other others =>
          obtain ⟨_, _, rest⟩ := Outcome.bind_eq_ok.mp rightRewritten
          obtain ⟨_, _, shape⟩ := Outcome.bind_eq_ok.mp rest
          cases Except.ok.inj shape
          simp [Json.slotsOf, EquivalentSlots, SameItems]
  | element :: rest, right, _, _, leftRewritten, rightRewritten, leftPrinted,
      rightPrinted => by
      obtain ⟨item, itemRewritten, tail⟩ :=
        Outcome.bind_eq_ok.mp leftRewritten
      obtain ⟨items, itemsRewritten, shape⟩ := Outcome.bind_eq_ok.mp tail
      cases Except.ok.inj shape
      cases right with
      | nil =>
          cases Except.ok.inj rightRewritten
          simp [Json.slotsOf, EquivalentSlots, SameItems]
      | cons other others =>
          obtain ⟨_, otherRewritten, otherTail⟩ :=
            Outcome.bind_eq_ok.mp rightRewritten
          obtain ⟨_, othersRewritten, otherShape⟩ :=
            Outcome.bind_eq_ok.mp otherTail
          cases Except.ok.inj otherShape
          rw [fractionsOfItems, List.append_subset] at leftPrinted rightPrinted
          rw [Json.slotsOf, Json.slotsOf, EquivalentSlots, SameItems,
            equivalent_payload_iff itemRewritten otherRewritten leftPrinted.1
              rightPrinted.1,
            equivalent_items_iff itemsRewritten othersRewritten leftPrinted.2
              rightPrinted.2]

theorem equivalent_entries_iff :
    ∀ {left right leftEntries rightEntries : List (JsString × Json)},
      settingsTrustEntries left = .ok leftEntries →
      settingsTrustEntries right = .ok rightEntries →
      fractionsOfFields left ⊆ numbers → fractionsOfFields right ⊆ numbers →
      (EquivalentProperties host (SameText host) (Json.propertiesOf leftEntries)
          (Json.propertiesOf rightEntries) ↔
        SameFields host true left right)
  | [], right, _, _, leftRewritten, rightRewritten, _, _ => by
      cases Except.ok.inj leftRewritten
      cases right with
      | nil =>
          cases Except.ok.inj rightRewritten
          simp [Json.propertiesOf, EquivalentProperties, SameFields]
      | cons other others =>
          obtain ⟨_, _, rest⟩ := Outcome.bind_eq_ok.mp rightRewritten
          obtain ⟨_, _, shape⟩ := Outcome.bind_eq_ok.mp rest
          cases Except.ok.inj shape
          simp [Json.propertiesOf, EquivalentProperties, SameFields]
  | (key, value) :: rest, right, _, _, leftRewritten, rightRewritten,
      leftPrinted, rightPrinted => by
      obtain ⟨payload, valueRewritten, tail⟩ :=
        Outcome.bind_eq_ok.mp leftRewritten
      obtain ⟨entries, entriesRewritten, shape⟩ :=
        Outcome.bind_eq_ok.mp tail
      cases Except.ok.inj shape
      cases right with
      | nil =>
          cases Except.ok.inj rightRewritten
          simp [Json.propertiesOf, EquivalentProperties, SameFields]
      | cons other others =>
          obtain ⟨otherKey, otherValue⟩ := other
          obtain ⟨_, otherRewritten, otherTail⟩ :=
            Outcome.bind_eq_ok.mp rightRewritten
          obtain ⟨_, othersRewritten, otherShape⟩ :=
            Outcome.bind_eq_ok.mp otherTail
          cases Except.ok.inj otherShape
          rw [fractionsOfFields, List.append_subset]
            at leftPrinted rightPrinted
          rw [Json.propertiesOf, Json.propertiesOf, EquivalentProperties,
            SameFields,
            equivalent_payload_iff valueRewritten otherRewritten leftPrinted.1
              rightPrinted.1,
            equivalent_entries_iff entriesRewritten othersRewritten
              leftPrinted.2 rightPrinted.2]

end

/-! ## Digests -/

omit printed in
theorem settingsSnapshotDigest_eq_ok {versionId cardId tenantId : JsString}
    {snapshot : Json} {digest : JsString}
    (computed : settingsSnapshotDigest host versionId cardId tenantId snapshot =
      .ok digest) :
    ∃ payload bytes, settingsTrustPayload snapshot = .ok payload ∧
      domainPreimage host
        (settingsDigestInput versionId cardId tenantId payload) = .ok bytes ∧
      settingsSnapshotPreimages host versionId cardId tenantId snapshot =
        [bytes] ∧
      digest = sha256Bytes bytes := by
  obtain ⟨payload, rewritten, hashed⟩ := Outcome.bind_eq_ok.mp computed
  obtain ⟨bytes, preimage, shape⟩ := createDomainDigest_eq_ok hashed
  refine ⟨payload, bytes, rewritten, preimage, ?_, shape⟩
  rw [settingsSnapshotPreimages, rewritten, Outcome.ok_bind, preimage]
  rfl

omit printed in
/-- Bindings that differ in equivalent payloads have the same bytes. -/
theorem domainPreimage_eq_of_equivalent
    {versionId cardId tenantId : JsString} {left right : Json}
    {leftBytes rightBytes : List UInt8}
    (leftHashed : domainPreimage host
      (settingsDigestInput versionId cardId tenantId left) = .ok leftBytes)
    (rightHashed : domainPreimage host
      (settingsDigestInput versionId cardId tenantId right) = .ok rightBytes)
    (equivalent : Equivalent host (SameText host) left.toJs right.toJs) :
    leftBytes = rightBytes := by
  obtain ⟨leftCanonical, leftFound, leftShape⟩ :=
    Outcome.bind_eq_ok.mp leftHashed
  obtain ⟨rightCanonical, rightFound, rightShape⟩ :=
    Outcome.bind_eq_ok.mp rightHashed
  obtain ⟨_, leftForm, _, leftIs, _, rfl⟩ :=
    (canonicalize_eq_ok host).mp leftFound
  obtain ⟨_, rightForm, _, rightIs, _, rfl⟩ :=
    (canonicalize_eq_ok host).mp rightFound
  have sameRecord : Equivalent host (SameText host)
      (recordValue (domainBinding
        (settingsDigestInput versionId cardId tenantId left)))
      (recordValue (domainBinding
        (settingsDigestInput versionId cardId tenantId right))) := by
    rw [recordValue, recordValue, Equivalent]
    refine ⟨_, List.Perm.refl _, ?_⟩
    simp only [domainBinding, settingsDigestInput, List.map_cons, List.map_nil,
      EquivalentProperties, equivalent, nullableText, Json.toJs, Equivalent,
      SameText, and_self]
  have sameForm := form_eq_of_equivalent host sameRecord leftIs rightIs
  rw [← Except.ok.inj leftShape, ← Except.ok.inj rightShape, sameForm]

/-- Snapshots have one digest exactly when they are the same up to fractions
that were written as strings. -/
theorem settingsSnapshotDigest_eq_iff {versionId cardId tenantId : JsString}
    {left right : Json} {leftDigest rightDigest : JsString}
    (leftComputed : settingsSnapshotDigest host versionId cardId tenantId left =
      .ok leftDigest)
    (rightComputed :
      settingsSnapshotDigest host versionId cardId tenantId right =
        .ok rightDigest)
    (free : CollisionFree
      (settingsSnapshotPreimages host versionId cardId tenantId left ++
        settingsSnapshotPreimages host versionId cardId tenantId right))
    (leftPrinted : fractions left ⊆ numbers)
    (rightPrinted : fractions right ⊆ numbers) :
    leftDigest = rightDigest ↔ SameSettings host true left right := by
  obtain ⟨leftPayload, leftBytes, leftRewritten, leftHashed, leftList, rfl⟩ :=
    settingsSnapshotDigest_eq_ok host leftComputed
  obtain ⟨rightPayload, rightBytes, rightRewritten, rightHashed, rightList,
    rfl⟩ := settingsSnapshotDigest_eq_ok host rightComputed
  rw [← equivalent_payload_iff host printed leftRewritten rightRewritten
    leftPrinted rightPrinted]
  constructor
  · intro sameDigest
    have sameBytes : leftBytes = rightBytes := by
      apply free
      · rw [leftList]
        exact List.mem_append_left _ (List.mem_singleton.mpr rfl)
      · rw [rightList]
        exact List.mem_append_right _ (List.mem_singleton.mpr rfl)
      · exact sameDigest
    rw [← sameBytes] at rightHashed
    have binding := domainPreimage_inj leftHashed rightHashed
    simp only [domainBinding, List.forall₂_cons] at binding
    obtain ⟨_, _, _, _, _, _, ⟨form, leftForm, rightForm⟩, _⟩ := binding
    exact equivalent_of_canonical host leftForm rightForm
  · intro equivalent
    rw [domainPreimage_eq_of_equivalent host leftHashed rightHashed equivalent]

omit printed

/-- Equal digests bind equal snapshots unless some fractions of one are the
strings of the other, and that is all they differ in. -/
theorem settingsSnapshotDigest_binds_iff
    {versionId cardId tenantId : JsString}
    {left right : Json} {leftDigest rightDigest : JsString}
    (leftComputed : settingsSnapshotDigest host versionId cardId tenantId left =
      .ok leftDigest)
    (rightComputed :
      settingsSnapshotDigest host versionId cardId tenantId right =
        .ok rightDigest)
    (free : CollisionFree
      (settingsSnapshotPreimages host versionId cardId tenantId left ++
        settingsSnapshotPreimages host versionId cardId tenantId right))
    (printed : PrintedNumbers (fractions left ++ fractions right)) :
    (leftDigest = rightDigest → SameSettings host false left right) ↔
      ¬(SameSettings host true left right ∧
        ¬SameSettings host false left right) := by
  rw [settingsSnapshotDigest_eq_iff host printed leftComputed rightComputed
    free (List.subset_append_left _ _) (List.subset_append_right _ _),
    not_and_not_right]

end Host

/-- A snapshot with one brand token. -/
def tokenSnapshot (lineHeight : Json) : Json :=
  .object [(js "resolvedBrandTokens",
    .object [(js "lineHeight", lineHeight)])]

def halfLineHeight : Json :=
  .number (.fraction (3 / 2) ⟨js "1.5", by decide⟩)

theorem settingsSnapshotDigest_halfLineHeight :
    settingsSnapshotDigest (recordedHost []) (js "version-1") (js "card-1")
        (js "tenant-1") (tokenSnapshot halfLineHeight) =
      settingsSnapshotDigest (recordedHost []) (js "version-1") (js "card-1")
        (js "tenant-1") (tokenSnapshot (.string (js "1.5"))) :=
  rfl

theorem settingsSnapshotDigest_binds_iff_whole :
    ∃ left right,
      settingsSnapshotDigest (recordedHost []) (js "version-1") (js "card-1")
        (js "tenant-1") (tokenSnapshot halfLineHeight) = .ok left ∧
      settingsSnapshotDigest (recordedHost []) (js "version-1") (js "card-1")
        (js "tenant-1") (tokenSnapshot (.number (.integer 2))) = .ok right ∧
      ((left = right →
          SameSettings (recordedHost []) false (tokenSnapshot halfLineHeight)
            (tokenSnapshot (.number (.integer 2)))) ↔
        ¬(SameSettings (recordedHost []) true (tokenSnapshot halfLineHeight)
            (tokenSnapshot (.number (.integer 2))) ∧
          ¬SameSettings (recordedHost []) false (tokenSnapshot halfLineHeight)
            (tokenSnapshot (.number (.integer 2))))) := by
  have leftSucceeds : (settingsSnapshotDigest (recordedHost [])
      (js "version-1") (js "card-1") (js "tenant-1")
      (tokenSnapshot halfLineHeight)).isOk = true := by
    decide +kernel
  have rightSucceeds : (settingsSnapshotDigest (recordedHost [])
      (js "version-1") (js "card-1") (js "tenant-1")
      (tokenSnapshot (.number (.integer 2)))).isOk = true := by
    decide +kernel
  have free : CollisionFree
      (settingsSnapshotPreimages (recordedHost []) (js "version-1")
          (js "card-1") (js "tenant-1") (tokenSnapshot halfLineHeight) ++
        settingsSnapshotPreimages (recordedHost []) (js "version-1")
          (js "card-1") (js "tenant-1")
          (tokenSnapshot (.number (.integer 2)))) := by
    decide +kernel
  obtain ⟨left, leftComputed⟩ := isOk_iff.mp leftSucceeds
  obtain ⟨right, rightComputed⟩ := isOk_iff.mp rightSucceeds
  exact ⟨left, right, leftComputed, rightComputed,
    settingsSnapshotDigest_binds_iff (recordedHost []) leftComputed
      rightComputed free (printedNumbers_singleton (by decide))⟩

theorem not_settingsSnapshotDigest_binds_of_fraction :
    ¬∀ (host : Host) (versionId cardId tenantId : JsString)
        (left right : Json) (leftDigest rightDigest : JsString),
      settingsSnapshotDigest host versionId cardId tenantId left =
        .ok leftDigest →
      settingsSnapshotDigest host versionId cardId tenantId right =
        .ok rightDigest →
      CollisionFree
        (settingsSnapshotPreimages host versionId cardId tenantId left ++
          settingsSnapshotPreimages host versionId cardId tenantId right) →
      PrintedNumbers (fractions left ++ fractions right) →
      leftDigest = rightDigest → SameSettings host false left right := by
  intro binds
  have succeeds : (settingsSnapshotDigest (recordedHost [])
      (js "version-1") (js "card-1") (js "tenant-1")
      (tokenSnapshot halfLineHeight)).isOk = true := by
    decide +kernel
  have free : CollisionFree
      (settingsSnapshotPreimages (recordedHost []) (js "version-1")
          (js "card-1") (js "tenant-1") (tokenSnapshot halfLineHeight) ++
        settingsSnapshotPreimages (recordedHost []) (js "version-1")
          (js "card-1") (js "tenant-1")
          (tokenSnapshot (.string (js "1.5")))) := by
    decide +kernel
  obtain ⟨digest, computed⟩ := isOk_iff.mp succeeds
  have same := binds (recordedHost []) _ _ _ _ _ digest digest computed
    (settingsSnapshotDigest_halfLineHeight ▸ computed) free
    (printedNumbers_singleton (by decide)) rfl
  simp [tokenSnapshot, halfLineHeight, SameSettings, SameFields] at same

end BidayaxExecutive.Settings
