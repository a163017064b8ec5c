import BidayaxExecutive.Library.Guards
import BidayaxExecutive.Trust.AuditAcceptance
import BidayaxExecutive.Trust.AuditCommitment
import BidayaxExecutive.Trust.Jsonb
import BidayaxExecutive.TrustStore.TrustTables

/-!
# Trust records and their rows

The rows `persistEvidence` inserts, and the entries `priorAuditChain` reads.
An entry that was stored is read as it was, but for the order of the fields in
the details of its event: it has the same digests and is printed in as many
bytes.
-/

namespace BidayaxExecutive.TrustStore

open BidayaxExecutive.Communications (Refusal Timestamptz)
open BidayaxExecutive.Library.Guards
open BidayaxExecutive.Runtime JsString
open BidayaxExecutive.Trust

/-! ## Columns -/

/-- The cast to `timestamptz`, and
`to_char(instant at time zone 'UTC', 'YYYY-MM-DD"T"HH24:MI:SS.MS"Z"')`. -/
structure SqlTime where
  timestamptz : JsString → Option Timestamptz
  toChar : Timestamptz → JsString

/-- A timestamp in the form of `toISOString` is printed as it was read. -/
def SqlTime.Faithful (host : Host) (time : SqlTime) : Prop :=
  ∀ text canonical instant,
    canonicalUtcTimestamp host text = .ok canonical →
      time.timestamptz canonical = some instant →
        time.toChar instant = canonical

def SqlTime.cast (time : SqlTime) (text : JsString) : Accepted Timestamptz :=
  match time.timestamptz text with
  | some instant => pure instant
  | none => throw .outOfRange

/-- A number for a `BIGINT`. -/
def bigint (number : JsNumber) : Accepted Int :=
  match number.toInt? with
  | some value =>
      if value.natAbs ≤ maxBigint then pure value else throw .outOfRange
  | none => throw .outOfRange

def nullableBigint : Option JsNumber → Accepted (Option Int)
  | none => pure none
  | some number => do
      let value ← bigint number
      return some value

/-! ## Rows -/

section Rows

variable (time : SqlTime)

def eventRow (event : TrustEvent) : Accepted TrustEventRow := do
  let occurredAt ← time.cast event.occurredAt
  return {
    eventId := event.eventId
    tenantId := event.tenantId
    structureVersion := event.structureVersion
    streamId := event.streamId
    eventType := event.eventType
    provenanceLifecycle := event.provenanceLifecycle.map (·.text)
    subjectType := event.subjectType
    subjectId := event.subjectId
    actorIdentityId := event.actorIdentityId
    occurredAt := occurredAt
    idempotencyKey := event.idempotencyKey
    details := throughJsonb event.details }

def entryRow (entry : AuditChainEntry) : Accepted AuditEntryRow := do
  let sequenceNumber ← bigint entry.sequence
  let checkpointSequence ←
    nullableBigint (entry.checkpoint.map (·.trustedSequence))
  let appendedAt ← time.cast entry.appendedAt
  return {
    entryId := entry.entryId
    tenantId := entry.tenantId
    structureVersion := entry.structureVersion
    streamId := entry.streamId
    sequenceNumber := sequenceNumber
    previousDigest := entry.previousDigest
    eventId := entry.event.eventId
    eventPayload := throughJsonb entry.event.toJson
    eventDigest := entry.eventDigest
    entryDigest := entry.entryDigest
    checkpointSequence := checkpointSequence
    checkpointDigest := entry.checkpoint.map (·.trustedDigest)
    appendedAt := appendedAt }

end Rows

/-! ## Reading rows -/

def textField? (value : Json) (name : JsString) : Option JsString :=
  match value.field? name with
  | some (.string text) => some text
  | _ => none

def nullableTextField? (value : Json) (name : JsString) :
    Option (Option JsString) :=
  match value.field? name with
  | some .null => some none
  | some (.string text) => some (some text)
  | _ => none

def lifecycleOfText? (text : JsString) : Option ProvenanceLifecycleEvent :=
  [.created, .edited, .classified, .redacted, .translated, .published,
    .archived, .superseded, .exported, .deleted, .restored].find?
      fun (event : ProvenanceLifecycleEvent) => event.text == text

def nullableLifecycle? :
    Option JsString → Option (Option ProvenanceLifecycleEvent)
  | none => some none
  | some text => (lifecycleOfText? text).map some

/-- A payload as the record it is read as. -/
def trustEventOfJson? (value : Json) : Option TrustEvent := do
  let structureVersion ← textField? value (js "structureVersion")
  let eventId ← textField? value (js "eventId")
  let tenantId ← textField? value (js "tenantId")
  let streamId ← textField? value (js "streamId")
  let eventType ← textField? value (js "eventType")
  let lifecycleText ← nullableTextField? value (js "provenanceLifecycle")
  let provenanceLifecycle ← nullableLifecycle? lifecycleText
  let subjectType ← textField? value (js "subjectType")
  let subjectId ← textField? value (js "subjectId")
  let actorIdentityId ← nullableTextField? value (js "actorIdentityId")
  let occurredAt ← textField? value (js "occurredAt")
  let idempotencyKey ← textField? value (js "idempotencyKey")
  let details ← value.field? (js "details")
  return {
    structureVersion, eventId, tenantId, streamId, eventType,
    provenanceLifecycle, subjectType, subjectId, actorIdentityId,
    occurredAt, idempotencyKey, details }

/-- The checkpoint of a row, whose columns are null together. -/
def AuditEntryRow.checkpoint (row : AuditEntryRow) :
    Option AuditCheckpoint :=
  match row.checkpointSequence, row.checkpointDigest with
  | some sequence, some digest => some ⟨.integer sequence, digest⟩
  | _, _ => none

def readEntry (time : SqlTime) (row : AuditEntryRow) :
    Option AuditChainEntry := do
  let event ← trustEventOfJson? row.eventPayload
  return {
    structureVersion := row.structureVersion
    entryId := row.entryId
    tenantId := row.tenantId
    streamId := row.streamId
    sequence := .integer row.sequenceNumber
    previousDigest := row.previousDigest
    event := event
    eventDigest := row.eventDigest
    entryDigest := row.entryDigest
    checkpoint := row.checkpoint
    appendedAt := time.toChar row.appendedAt }

/-! ## What is read of a stored event -/

namespace Stored

def event (event : TrustEvent) : TrustEvent :=
  { event with details := throughJsonb event.details }

def entry (entry : AuditChainEntry) : AuditChainEntry :=
  { entry with event := event entry.event }

end Stored

theorem lifecycleOfText?_text (event : ProvenanceLifecycleEvent) :
    lifecycleOfText? event.text = some event := by
  cases event <;> decide

theorem nullableLifecycle?_text
    (lifecycle : Option ProvenanceLifecycleEvent) :
    nullableLifecycle? (lifecycle.map (·.text)) = some lifecycle := by
  cases lifecycle with
  | none =>
      rfl
  | some event =>
      rw [Option.map_some, nullableLifecycle?, lifecycleOfText?_text]
      rfl

private theorem eventFields_nodup :
    [js "structureVersion", js "eventId", js "tenantId", js "streamId",
      js "eventType", js "provenanceLifecycle", js "subjectType",
      js "subjectId", js "actorIdentityId", js "occurredAt",
      js "idempotencyKey", js "details"].Nodup := by
  decide

section Fields

variable (event : TrustEvent)

private theorem field?_stored {name : JsString} {value : Json}
    (found : event.toJson.field? name = some value) :
    (throughJsonb event.toJson).field? name =
      some (throughJsonb value) := by
  unfold TrustEvent.toJson at found ⊢
  refine field?_throughJsonb ?_ found
  exact eventFields_nodup

private theorem textField?_stored {name text : JsString}
    (found : event.toJson.field? name = some (.string text)) :
    textField? (throughJsonb event.toJson) name = some text := by
  rw [textField?, field?_stored event found]
  rfl

private theorem nullableTextField?_stored {name : JsString}
    {text : Option JsString}
    (found : event.toJson.field? name = some (nullableText text)) :
    nullableTextField? (throughJsonb event.toJson) name = some text := by
  rw [nullableTextField?, field?_stored event found]
  cases text with
  | none => rfl
  | some _ => rfl

theorem trustEventOfJson?_stored :
    trustEventOfJson? (throughJsonb event.toJson) =
      some (Stored.event event) := by
  have lifecycle : nullableTextField? (throughJsonb event.toJson)
      (js "provenanceLifecycle") =
        some (event.provenanceLifecycle.map (·.text)) :=
    nullableTextField?_stored event rfl
  have actor : nullableTextField? (throughJsonb event.toJson)
      (js "actorIdentityId") = some event.actorIdentityId :=
    nullableTextField?_stored event rfl
  have details : (throughJsonb event.toJson).field? (js "details") =
      some (throughJsonb event.details) :=
    field?_stored event rfl
  unfold trustEventOfJson?
  iterate 9 rw [textField?_stored event rfl]
  rw [lifecycle, actor, details]
  simp only [Option.bind_eq_bind, Option.bind_some,
    nullableLifecycle?_text]
  rfl

end Fields

/-! ## Digests and sizes of what is read -/

/-- The fields of an event as they are read. -/
theorem toJson_storedEvent (event : TrustEvent) :
    ∃ fields, event.toJson = .object fields ∧
      (Stored.event event).toJson = .object (throughJsonbFields fields) := by
  refine ⟨_, rfl, ?_⟩
  cases lifecycle : event.provenanceLifecycle <;>
    cases actor : event.actorIdentityId <;>
      simp only [TrustEvent.toJson, Stored.event, lifecycle, actor] <;>
        rfl

theorem length_canonicalBytes_storedEvent (event : TrustEvent) :
    (canonicalBytes (Stored.event event).toJson).length =
      (canonicalBytes event.toJson).length := by
  obtain ⟨fields, isObject, isRead⟩ := toJson_storedEvent event
  rw [isObject, isRead,
    ← length_canonicalBytes_object_perm (jsonbFields_perm _),
    ← length_canonicalBytes_throughJsonb (.object fields), throughJsonb]

theorem serializedBytes_storedEntry (entry : AuditChainEntry) :
    serializedBytes (Stored.entry entry).toJson =
      serializedBytes entry.toJson := by
  change (canonicalBytes _).length = (canonicalBytes _).length
  have sameEvent : fieldLength
      (js "event", (Stored.event entry.event).toJson) =
        fieldLength (js "event", entry.event.toJson) := by
    rw [fieldLength, fieldLength, length_canonicalBytes_storedEvent]
  simp only [AuditChainEntry.toJson, Stored.entry, List.cons_append,
    length_canonicalBytes_object, List.map_cons, List.sum_cons, sameEvent]

section Host

variable {host : Host}

theorem canonical_storedEvent {event : TrustEvent} {form : Json}
    (canonical : Canonical host event.toJson.toJs form) :
    Canonical host (Stored.event event).toJson.toJs form := by
  obtain ⟨fields, isObject, isRead⟩ := toJson_storedEvent event
  rw [isObject] at canonical
  rw [isRead]
  simp only [Json.toJs, Canonical] at canonical ⊢
  obtain ⟨known, plain, entries, listed, distinct, isForm⟩ := canonical
  exact ⟨known, plain, entries, canonicalEntries_throughJsonb host listed,
    distinct, isForm⟩

theorem eventDigest_storedEvent {event : TrustEvent} {digest : JsString}
    (computed : eventDigest host event = .ok digest) :
    eventDigest host (Stored.event event) = .ok digest := by
  obtain ⟨bytes, preimage, isDigest⟩ := eventDigest_eq_ok.mp computed
  refine eventDigest_eq_ok.mpr ⟨bytes, ?_, isDigest⟩
  have normal : NormalText host (js "trust-audit-event/v1") :=
    normalText_of_isAscii host (by decide) (by decide)
  have schemaNormal : NormalText host (js "trust-event-1") :=
    normalText_of_isAscii host (by decide) (by decide)
  obtain ⟨form, canonical, isBytes, fits⟩ :=
    (internalPreimage_eq_ok host normal schemaNormal).mp preimage
  exact (internalPreimage_eq_ok host normal schemaNormal).mpr
    ⟨form, canonical_storedEvent canonical, isBytes, fits⟩

/-- Fields of which some values have other names for their forms. -/
private theorem CanonicalFields.replace
    {fields others : List (JsString × JsValue)}
    {entries : List (JsString × Json)}
    (canonical : CanonicalFields host fields entries)
    (replaced : List.Forall₂ (fun field other => other.1 = field.1 ∧
      ∀ form, Canonical host field.2 form → Canonical host other.2 form)
      fields others) :
    CanonicalFields host others entries := by
  induction replaced generalizing entries with
  | nil =>
      exact canonical
  | cons same _ inductionHypothesis =>
      obtain ⟨entry, rest, found, tail, rfl⟩ :=
        List.forall₂_cons_left_iff.mp canonical
      exact .cons ⟨found.1.trans same.1.symm, same.2 _ found.2⟩
        (inductionHypothesis tail)

theorem entryDigest_storedEntry {entry : AuditChainEntry}
    {digest : JsString} (computed : entryDigest host entry = .ok digest) :
    entryDigest host (Stored.entry entry) = .ok digest := by
  obtain ⟨bytes, preimage, isDigest⟩ := entryDigest_eq_ok.mp computed
  refine entryDigest_eq_ok.mpr ⟨bytes, ?_, isDigest⟩
  have normal : NormalText host (js "trust-audit-entry/v1") :=
    normalText_of_isAscii host (by decide) (by decide)
  have schemaNormal : NormalText host (js "trust-audit-entry-1") :=
    normalText_of_isAscii host (by decide) (by decide)
  have plain : ∀ other : AuditChainEntry,
      plainKeys ((entryBase other).map Prod.fst) = true := by
    intro other
    change plainKeys [js "appendedAt", js "checkpoint", js "event",
      js "eventDigest", js "previousDigest", js "sequence", js "streamId",
      js "structureVersion", js "tenantId"] = true
    decide
  obtain ⟨form, canonical, isBytes, fits⟩ :=
    (internalPreimage_eq_ok host normal schemaNormal).mp preimage
  obtain ⟨entries, fields, isForm⟩ :=
    (canonical_record_iff host (plain entry)).mp canonical
  refine (internalPreimage_eq_ok host normal schemaNormal).mpr
    ⟨form, ?_, isBytes, fits⟩
  refine (canonical_record_iff host (plain _)).mpr ⟨entries, ?_, isForm⟩
  refine CanonicalFields.replace fields ?_
  refine .cons ⟨rfl, fun _ same => same⟩ (.cons ⟨rfl, fun _ same => same⟩
    (.cons ⟨rfl, fun _ same => canonical_storedEvent same⟩ ?_))
  exact List.forall₂_same.mpr fun _ _ => ⟨rfl, fun _ same => same⟩

end Host

/-! ## Entries that were stored -/

theorem bigint_eq_ok {number : JsNumber} {value : Int}
    (converted : bigint number = .ok value) :
    number.toInt? = some value := by
  unfold bigint at converted
  cases read : number.toInt? with
  | none =>
      rw [read] at converted
      exact nomatch converted
  | some integer =>
      simp only [read] at converted
      by_cases fits : integer.natAbs ≤ maxBigint
      · rw [if_pos fits] at converted
        exact congrArg some (Except.ok.inj converted)
      · rw [if_neg fits] at converted
        exact nomatch converted

theorem cast_eq_ok {time : SqlTime} {text : JsString}
    {instant : Timestamptz} (converted : time.cast text = .ok instant) :
    time.timestamptz text = some instant := by
  unfold SqlTime.cast at converted
  cases read : time.timestamptz text with
  | none =>
      rw [read] at converted
      exact nomatch converted
  | some value =>
      rw [read] at converted
      exact congrArg some (Except.ok.inj converted)

theorem keys_of_eventRow {time : SqlTime} {event : TrustEvent}
    {row : TrustEventRow} (written : eventRow time event = .ok row) :
    row.eventId = event.eventId ∧ row.tenantId = event.tenantId ∧
      row.idempotencyKey = event.idempotencyKey := by
  unfold eventRow at written
  rcases bind_eq_ok.mp written with ⟨instant, _, written⟩
  cases Except.ok.inj written
  exact ⟨rfl, rfl, rfl⟩

theorem scope_of_entryRow {time : SqlTime} {entry : AuditChainEntry}
    {row : AuditEntryRow} (written : entryRow time entry = .ok row) :
    row.tenantId = entry.tenantId ∧ row.streamId = entry.streamId := by
  unfold entryRow at written
  rcases bind_eq_ok.mp written with ⟨sequence, _, written⟩
  rcases bind_eq_ok.mp written with ⟨checkpoint, _, written⟩
  rcases bind_eq_ok.mp written with ⟨instant, _, written⟩
  cases Except.ok.inj written
  exact ⟨rfl, rfl⟩

/-- The row of an entry without a checkpoint. -/
structure IsRowOf (time : SqlTime) (entry : AuditChainEntry)
    (row : AuditEntryRow) : Prop where
  sequence : entry.sequence.toInt? = some row.sequenceNumber
  appendedAt : time.timestamptz entry.appendedAt = some row.appendedAt
  columns : row = { row with
    entryId := entry.entryId
    tenantId := entry.tenantId
    structureVersion := entry.structureVersion
    streamId := entry.streamId
    previousDigest := entry.previousDigest
    eventId := entry.event.eventId
    eventPayload := throughJsonb entry.event.toJson
    eventDigest := entry.eventDigest
    entryDigest := entry.entryDigest
    checkpointSequence := none
    checkpointDigest := none }

theorem isRowOf_of_entryRow {time : SqlTime} {entry : AuditChainEntry}
    {row : AuditEntryRow} (genesis : entry.checkpoint = none)
    (written : entryRow time entry = .ok row) : IsRowOf time entry row := by
  unfold entryRow at written
  rw [genesis] at written
  rcases bind_eq_ok.mp written with ⟨sequence, counted, written⟩
  rcases bind_eq_ok.mp written with ⟨checkpoint, given, written⟩
  rcases bind_eq_ok.mp written with ⟨instant, dated, written⟩
  cases Except.ok.inj given
  cases Except.ok.inj written
  exact ⟨bigint_eq_ok counted, cast_eq_ok dated, rfl⟩

/-- A stored entry is read as it was written. -/
theorem IsRowOf.readEntry {host : Host} {time : SqlTime}
    (faithful : time.Faithful host) {entry : AuditChainEntry}
    {row : AuditEntryRow} (isRow : IsRowOf time entry row)
    (genesis : entry.checkpoint = none)
    (algorithm : entry.digestAlgorithm = none) {text : JsString}
    (canonical : canonicalUtcTimestamp host text = .ok entry.appendedAt)
    (positive : 0 < row.sequenceNumber) :
    readEntry time row = some (Stored.entry entry) := by
  have sequence : JsNumber.integer row.sequenceNumber = entry.sequence := by
    have counted := isRow.sequence
    cases number : entry.sequence with
    | integer value =>
        rw [number] at counted
        exact congrArg _ (Option.some.inj counted).symm
    | negativeZero =>
        rw [number] at counted
        rw [← Option.some.inj counted] at positive
        exact absurd positive (lt_irrefl _)
    | nan =>
        rw [number] at counted
        exact nomatch counted
    | infinity negative =>
        rw [number] at counted
        exact nomatch counted
    | fraction value printed =>
        rw [number] at counted
        exact nomatch counted
  have printed := faithful text _ _ canonical isRow.appendedAt
  rw [isRow.columns, TrustStore.readEntry]
  simp only [trustEventOfJson?_stored, Option.bind_eq_bind,
    Option.bind_some, sequence, printed]
  obtain ⟨⟩ := entry
  cases genesis
  cases algorithm
  rfl

end BidayaxExecutive.TrustStore
