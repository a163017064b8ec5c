import BidayaxExecutive.Library.IdempotentRequests
import BidayaxExecutive.Library.Tables
import BidayaxExecutive.Settings.PublishHistory

/-!
# The settings repository

The tables of the settings versions, the audit events and the idempotency keys,
and the operations of the repository on them.  An operation is one statement of
the database, or an insert and the read after it, and counts as atomic.  The
triggers are part of the operations: a row belongs to the tenant of its card,
and a published version is only ever archived.
-/

namespace BidayaxExecutive.Settings

open BidayaxExecutive.Runtime JsString
open BidayaxExecutive.Library.Tables
open BidayaxExecutive.Library.Transactions

structure SettingsIdempotencyRecord where
  cardId : JsString
  createdAt : JsString
  expiresAt : Option JsString
  idempotencyKey : JsString
  operation : JsString
  requestHash : JsString
  resultSnapshotHash : Option JsString
  resultVersionId : Option JsString
  tenantId : JsString
  deriving DecidableEq

/-- The column types of the database: the text that is read back for a
`TIMESTAMPTZ`, if the text is one, and whether the text and JSON columns hold
the values of a row.  JSON is read back as the same value. -/
structure Database where
  timestamptz : JsString → Option JsString
  storesVersion : CardSettingsVersion → Bool
  storesAuditEvent : SettingsAuditEvent → Bool
  storesRecord : SettingsIdempotencyRecord → Bool

/-! ## Tables -/

/-- `idx_card_settings_versions_current_published` and the reference of
`previous_version_id`. -/
def versionAllowed (rows : List CardSettingsVersion)
    (version : CardSettingsVersion) : Bool :=
  !(version.status == .published && rows.any fun row =>
      row.status == .published && row.cardId == version.cardId &&
        row.tenantId == version.tenantId) &&
    match version.previousVersionId with
    | none => true
    | some previous =>
        (version :: rows).any fun row => row.versionId == previous

theorem wellFormed_insert {rows : List CardSettingsVersion}
    {version : CardSettingsVersion} (formed : WellFormed rows)
    (free : ∀ old ∈ rows, old.versionId ≠ version.versionId)
    (allowed : versionAllowed rows version = true) :
    WellFormed (rows ++ [version]) := by
  have alone : version.status = .published → ∀ old ∈ rows,
      old.status = .published → ¬SameCard old version := by
    intro published old member oldPublished same
    simp only [versionAllowed, Bool.and_eq_true, Bool.not_eq_true',
      Bool.and_eq_false_iff, published, beq_self_eq_true, Bool.true_eq_false,
      false_or, List.any_eq_false] at allowed
    have other := allowed.1 old member
    simp [oldPublished, same.1, same.2] at other
  refine ⟨nodup_map_insert _ formed.distinct free, ?_⟩
  intro left leftMember right rightMember leftPublished rightPublished same
  rcases List.mem_append.mp leftMember with leftOld | leftNew
  · rcases List.mem_append.mp rightMember with rightOld | rightNew
    · exact formed.onePublished left leftOld right rightOld leftPublished
        rightPublished same
    · rw [List.mem_singleton.mp rightNew] at rightPublished same
      exact absurd same (alone rightPublished left leftOld leftPublished)
  · rw [List.mem_singleton.mp leftNew] at leftPublished same ⊢
    rcases List.mem_append.mp rightMember with rightOld | rightNew
    · exact absurd ⟨same.1.symm, same.2.symm⟩
        (alone leftPublished right rightOld rightPublished)
    · exact (List.mem_singleton.mp rightNew).symm

/-- `card_settings_versions`. -/
def versionTable : Table CardSettingsVersion where
  sameKey version row := row.versionId == version.versionId
  visible version row :=
    row.tenantId == version.tenantId && row.cardId == version.cardId &&
      row.versionId == version.versionId
  agrees version row :=
    row.snapshotHash == version.snapshotHash && row.status == version.status
  allowed := versionAllowed
  Valid := WellFormed
  visible_self _ := by simp
  agrees_self _ := by simp
  sameKey_of_visible visible := (Bool.and_eq_true _ _ ▸ visible).2
  valid_insert formed free allowed :=
    wellFormed_insert formed (fun old member => by
      simpa using free old member) allowed

/-- `settings_audit_events`. -/
def auditEventTable : Table SettingsAuditEvent where
  sameKey event row := row.eventId == event.eventId
  visible event row :=
    row.tenantId == event.tenantId && row.cardId == event.cardId &&
      row.eventId == event.eventId
  agrees _ _ := true
  allowed _ _ := true
  Valid rows := (rows.map (·.eventId)).Nodup
  visible_self _ := by simp
  agrees_self _ := rfl
  sameKey_of_visible visible := (Bool.and_eq_true _ _ ▸ visible).2
  valid_insert distinct free _ :=
    nodup_map_insert SettingsAuditEvent.eventId distinct
      fun old member => by simpa using free old member

/-- The primary key of an idempotency record. -/
def SettingsIdempotencyRecord.key (record : SettingsIdempotencyRecord) :
    JsString × JsString × JsString × JsString :=
  (record.tenantId, record.cardId, record.operation, record.idempotencyKey)

/-- `settings_idempotency_keys`. -/
def idempotencyTable : Table SettingsIdempotencyRecord where
  sameKey record row := row.key == record.key
  visible record row := row.key == record.key
  agrees record row := row.requestHash == record.requestHash
  allowed _ _ := true
  Valid rows := (rows.map (·.key)).Nodup
  visible_self _ := by simp
  agrees_self _ := by simp
  sameKey_of_visible visible := visible
  valid_insert distinct free _ :=
    nodup_map_insert SettingsIdempotencyRecord.key distinct
      fun old member => by simpa using free old member

/-- `cards` are the pairs of `card_id` and `tenant_id` in
`executive_card_profiles`. -/
structure Store where
  cards : List (JsString × JsString)
  versions : versionTable.Rows
  auditEvents : auditEventTable.Rows
  idempotencyKeys : idempotencyTable.Rows

/-- The card exists and belongs to the tenant. -/
def Store.owns (store : Store) (tenantId cardId : JsString) : Bool :=
  store.cards.lookup cardId == some tenantId

/-- The rows of a table in the store. -/
structure Part {Row : Type} (table : Table Row) where
  rows : Store → table.Rows
  withRows : Store → table.Rows → Store
  rows_withRows : ∀ store changed, rows (withRows store changed) = changed
  withRows_rows : ∀ store, withRows store (rows store) = store
  withRows_withRows : ∀ store first second,
    withRows (withRows store first) second = withRows store second
  cards_withRows : ∀ store changed, (withRows store changed).cards = store.cards

def versionPart : Part versionTable where
  rows := Store.versions
  withRows store versions := { store with versions }
  rows_withRows _ _ := rfl
  withRows_rows _ := rfl
  withRows_withRows _ _ _ := rfl
  cards_withRows _ _ := rfl

def auditEventPart : Part auditEventTable where
  rows := Store.auditEvents
  withRows store auditEvents := { store with auditEvents }
  rows_withRows _ _ := rfl
  withRows_rows _ := rfl
  withRows_withRows _ _ _ := rfl
  cards_withRows _ _ := rfl

def idempotencyPart : Part idempotencyTable where
  rows := Store.idempotencyKeys
  withRows store idempotencyKeys := { store with idempotencyKeys }
  rows_withRows _ _ := rfl
  withRows_rows _ := rfl
  withRows_withRows _ _ _ := rfl
  cards_withRows _ _ := rfl

/-! ## Saving rows -/

/-- Saves the row that the columns and triggers make of the values, if they
take them. -/
def saveRow {Row : Type} {table : Table Row} (part : Part table)
    (stored : Store → Option Row) (conflict : JsString) :
    Transaction Store SettingsError Row := fun store =>
  match stored store with
  | none => (.error .refused, store)
  | some row =>
      match table.save (.conflict conflict) .refused (part.rows store) row with
      | .ok (existing, rows) => (.ok existing, part.withRows store rows)
      | .error failure => (.error failure, store)

theorem yields_saveRow {Row : Type} {table : Table Row} {part : Part table}
    {stored : Store → Option Row} {conflict : JsString} {store final : Store}
    {existing : Row} :
    Yields (saveRow part stored conflict) store existing final ↔
      ∃ row rows, stored store = some row ∧
        table.save (SettingsError.conflict conflict) .refused
          (part.rows store) row = .ok (existing, rows) ∧
        part.withRows store rows = final := by
  unfold Yields saveRow
  cases stored store with
  | none =>
      simp
  | some row =>
      cases saved : table.save (SettingsError.conflict conflict) .refused
        (part.rows store) row with
      | error failure =>
          simp [saved]
      | ok result =>
          rcases result with ⟨found, rows⟩
          simp [saved, -Subtype.exists]

theorem saveRow_store {Row : Type} {table : Table Row} (part : Part table)
    (stored : Store → Option Row) (conflict : JsString) (store : Store) :
    (saveRow part stored conflict store).2 = store ∨
      ∃ changed, (saveRow part stored conflict store).2 =
        part.withRows store changed := by
  unfold saveRow
  split
  · exact Or.inl rfl
  · split
    · exact Or.inr ⟨_, rfl⟩
    · exact Or.inl rfl

section Operations

variable (database : Database)

/-- The row of a version, when its values are stored and it belongs to the
tenant of its card. -/
def storedVersion (version : CardSettingsVersion) (store : Store) :
    Option CardSettingsVersion :=
  if store.owns version.tenantId version.cardId &&
      database.storesVersion version then
    (database.timestamptz version.createdAt).map fun createdAt =>
      { version with createdAt }
  else none

def versionConflict (version : CardSettingsVersion) : JsString :=
  js "Settings version " ++ version.versionId ++
    js " already exists with different immutable content."

def saveCardSettingsVersion (version : CardSettingsVersion) :
    Transaction Store SettingsError CardSettingsVersion :=
  saveRow versionPart (storedVersion database version)
    (versionConflict version)

def storedAuditEvent (event : SettingsAuditEvent) (store : Store) :
    Option SettingsAuditEvent :=
  if store.owns event.tenantId event.cardId &&
      database.storesAuditEvent event then
    (database.timestamptz event.occurredAt).map fun occurredAt =>
      { event with occurredAt }
  else none

def auditEventConflict (event : SettingsAuditEvent) : JsString :=
  js "Audit event " ++ event.eventId ++
    js " already exists for a different tenant or card."

def saveSettingsAuditEvent (event : SettingsAuditEvent) :
    Transaction Store SettingsError SettingsAuditEvent :=
  saveRow auditEventPart (storedAuditEvent database event)
    (auditEventConflict event)

/-- The reference of `result_version_id`. -/
def resultStored (record : SettingsIdempotencyRecord)
    (versions : List CardSettingsVersion) : Bool :=
  match record.resultVersionId with
  | none => true
  | some versionId => versions.any fun row => row.versionId == versionId

/-- A text that may be missing, as a `TIMESTAMPTZ`. -/
def nullableTimestamptz (text : Option JsString) : Option (Option JsString) :=
  match text with
  | none => some none
  | some found => (database.timestamptz found).map some

/-- The values of a record as the columns take them. -/
def recordRow (record : SettingsIdempotencyRecord) :
    Option SettingsIdempotencyRecord := do
  let createdAt ← database.timestamptz record.createdAt
  let expiresAt ← nullableTimestamptz database record.expiresAt
  some { record with createdAt, expiresAt }

/-- The row of a record.  The reference is checked when the row is inserted. -/
def storedRecord (record : SettingsIdempotencyRecord) (store : Store) :
    Option SettingsIdempotencyRecord :=
  if store.owns record.tenantId record.cardId &&
      database.storesRecord record then
    (recordRow database record).filter fun row =>
      idempotencyTable.Taken store.idempotencyKeys.1 row ||
        resultStored record store.versions.1
  else none

/-- `row.expires_at ? toIsoString(row.expires_at) : null`. -/
def mapSettingsIdempotencyRecord (row : SettingsIdempotencyRecord) :
    SettingsIdempotencyRecord :=
  { row with expiresAt := row.expiresAt.filter (!·.isEmpty) }

def saveSettingsIdempotencyRecord (record : SettingsIdempotencyRecord) :
    Transaction Store SettingsError SettingsIdempotencyRecord := do
  let row ← saveRow idempotencyPart (storedRecord database record) <|
    js "Idempotency key " ++ record.idempotencyKey ++
      js " was already used with a different request."
  pure (mapSettingsIdempotencyRecord row)

end Operations

/-! ## Reading and archiving -/

def findIdempotencyRecord
    (tenantId cardId operation idempotencyKey : JsString) (store : Store) :
    Option SettingsIdempotencyRecord :=
  (store.idempotencyKeys.1.find? fun row =>
    row.key == (tenantId, cardId, operation, idempotencyKey)).map
      mapSettingsIdempotencyRecord

def getSettingsIdempotencyRecord
    (tenantId cardId operation idempotencyKey : JsString) :
    Transaction Store SettingsError (Option SettingsIdempotencyRecord) :=
  fun store =>
    (.ok (findIdempotencyRecord tenantId cardId operation idempotencyKey
      store), store)

/-- `select … for update`: whether the card was found. -/
def lockExecutiveCardForSettingsPublish (tenantId cardId : JsString) :
    Transaction Store SettingsError Bool := fun store =>
  (.ok (store.owns tenantId cardId), store)

/-- The rows of a card, in no particular order. -/
def listCardSettingsVersions (tenantId cardId : JsString) (store : Store) :
    List CardSettingsVersion :=
  store.versions.1.filter fun row =>
    row.tenantId == tenantId && row.cardId == cardId

/-- The published row that is archived for a version. -/
def isArchivable (version row : CardSettingsVersion) : Bool :=
  row.tenantId == version.tenantId && row.cardId == version.cardId &&
    row.versionId == version.versionId && row.status == .published &&
    row.snapshotHash == version.snapshotHash

/-- The row after `set status = 'archived', immutable = true`. -/
def archivedRow (version row : CardSettingsVersion) : CardSettingsVersion :=
  if isArchivable version row then
    { row with status := .archived, immutable := true }
  else row

theorem archivedRow_versionId (version row : CardSettingsVersion) :
    (archivedRow version row).versionId = row.versionId := by
  unfold archivedRow
  by_cases archivable : isArchivable version row = true
  · rw [if_pos archivable]
  · rw [if_neg archivable]

/-- The update publishes nothing. -/
theorem archivedRow_of_published {version row : CardSettingsVersion}
    (published : (archivedRow version row).status = .published) :
    archivedRow version row = row := by
  unfold archivedRow at published ⊢
  by_cases archivable : isArchivable version row = true
  · rw [if_pos archivable] at published
    exact nomatch published
  · rw [if_neg archivable]

theorem wellFormed_map_archivedRow {rows : List CardSettingsVersion}
    (formed : WellFormed rows) (version : CardSettingsVersion) :
    WellFormed (rows.map (archivedRow version)) := by
  constructor
  · have sameIds : (rows.map (archivedRow version)).map (·.versionId) =
        rows.map (·.versionId) := by
      rw [List.map_map]
      exact List.map_congr_left fun row _ => archivedRow_versionId version row
    rw [sameIds]
    exact formed.distinct
  · intro left leftMember right rightMember leftPublished rightPublished same
    rcases List.mem_map.mp leftMember with ⟨leftRow, leftOld, rfl⟩
    rcases List.mem_map.mp rightMember with ⟨rightRow, rightOld, rfl⟩
    have left := archivedRow_of_published leftPublished
    have right := archivedRow_of_published rightPublished
    rw [left] at leftPublished same ⊢
    rw [right] at rightPublished same ⊢
    exact formed.onePublished leftRow leftOld rightRow rightOld leftPublished
      rightPublished same

/-- The versions after the update. -/
def archiveVersions (version : CardSettingsVersion)
    (versions : versionTable.Rows) : versionTable.Rows :=
  ⟨versions.1.map (archivedRow version),
    wellFormed_map_archivedRow versions.2 version⟩

def archiveCardSettingsVersion (version : CardSettingsVersion) :
    Transaction Store SettingsError CardSettingsVersion := fun store =>
  match store.versions.1.find? (isArchivable version) with
  | none =>
      (.error (.conflict (js "Published settings version " ++
        version.versionId ++ js " could not be archived.")), store)
  | some row =>
      if store.owns row.tenantId row.cardId then
        (.ok (archivedRow version row),
          { store with versions := archiveVersions version store.versions })
      else (.error .refused, store)

theorem yields_archiveCardSettingsVersion {version archived :
      CardSettingsVersion} {store final : Store} :
    Yields (archiveCardSettingsVersion version) store archived final ↔
      ∃ row, store.versions.1.find? (isArchivable version) = some row ∧
        store.owns row.tenantId row.cardId = true ∧
        archivedRow version row = archived ∧
        { store with versions := archiveVersions version store.versions } =
          final := by
  unfold Yields archiveCardSettingsVersion
  cases search : store.versions.1.find? (isArchivable version) with
  | none =>
      simp
  | some row =>
      by_cases owns : store.owns row.tenantId row.cardId = true
      · simp [owns]
      · simp [owns]

/-! ## Stores later in a run -/

/-- Versions and audit events are only added; archiving is no such step. -/
structure Later (store later : Store) : Prop where
  cards : store.cards = later.cards
  versions : store.versions.1 <+: later.versions.1
  auditEvents : store.auditEvents.1 <+: later.auditEvents.1

end BidayaxExecutive.Settings

