import BidayaxExecutive.Trust.AuditAppend
import BidayaxExecutive.TrustStore.AuditStreams
import BidayaxExecutive.TrustStore.StoredRecords

/-!
# Trusted publishes as transactions

A trusted publish reads the stream of its card without a lock, appends an entry
to what it has read, and inserts the event and the entry later in the same
transaction.  Other publishes run meanwhile.  `persistSettingsPublishResult`,
the manifest and the envelope are written to other tables in between.
-/

namespace BidayaxExecutive.TrustStore

open BidayaxExecutive.Communications (Refusal Timestamptz)
open BidayaxExecutive.Library.Guards
open BidayaxExecutive.Library.LockingTransactions
open BidayaxExecutive.Library.SerializedLogs
open BidayaxExecutive.Runtime
open BidayaxExecutive.Trust

/-! ## The stream of a card -/

/-- `order by sequence_number`.  No entry is read of a row whose payload is not
a trust event; no publish writes such a row. -/
def priorAuditChain (time : SqlTime) (database : TrustDatabase)
    (tenantId streamId : JsString) : Option (List AuditChainEntry) :=
  ((auditStream tenantId streamId database).insertionSort fun left right =>
    left.sequenceNumber ≤ right.sequenceNumber).mapM (readEntry time)

/-! ## One publish -/

/-- What `buildEvidence` appends, and when. -/
structure TrustedPublish where
  publishedAt : JsString
  event : TrustEvent

/-- The stream that `buildEvidence` appends to has no checkpoint. -/
def TrustedPublish.input (publish : TrustedPublish)
    (chain : List AuditChainEntry) : AppendInput where
  appendedAt := publish.publishedAt
  chain := chain
  streamId := publish.event.streamId
  event := publish.event
  tenantId := publish.event.tenantId
  startingCheckpoint := none

/-- How far a transaction has come.  The event of the entry is the event that is
inserted. -/
inductive PublishStage where
  | started
  | built (entry : AuditChainEntry)
  | recorded (entry : AuditChainEntry)
  | appended

structure PublishWrites where
  audit : AuditWrites
  stage : PublishStage

inductive PublishFailure where
  | thrown (error : TrustError)
  | refused (refusal : Refusal)
  | noTrustEvent

/-- An insertion is given with the keys it locks; it inserts what the
transaction has built. -/
inductive PublishStatement where
  | buildEvidence (publish : TrustedPublish)
  | insertEvent (eventId tenantId idempotencyKey : JsString)
  | insertEntry (entryId tenantId streamId : JsString)

section Statements

variable (host : Host) (time : SqlTime)

def buildAuditEntry (database : TrustDatabase) (publish : TrustedPublish) :
    Except PublishFailure AuditChainEntry :=
  match priorAuditChain time database publish.event.tenantId
      publish.event.streamId with
  | none => throw .noTrustEvent
  | some chain =>
      (appendAuditChainEntry host (publish.input chain)).mapError .thrown

def insertBuiltEvent (database : TrustDatabase) (entry : AuditChainEntry) :
    Accepted TrustEventRow := do
  let row ← eventRow time entry.event
  let _ ← insertTrustEvent database row
  return row

def insertBuiltEntry (database : TrustDatabase) (entry : AuditChainEntry) :
    Accepted AuditEntryRow := do
  let row ← entryRow time entry
  let _ ← insertAuditEntry database row
  return row

/-- The statements of a publish in their order; none is issued twice. -/
def PublishStatement.perform (database : TrustDatabase)
    (statement : PublishStatement) (writes : PublishWrites) :
    Except PublishFailure PublishWrites :=
  match statement, writes.stage with
  | .buildEvidence publish, .started => do
      let entry ← buildAuditEntry host time database publish
      return { writes with stage := .built entry }
  | .insertEvent eventId tenantId idempotencyKey, .built entry =>
      if entry.event.eventId == eventId &&
          entry.event.tenantId == tenantId &&
          entry.event.idempotencyKey == idempotencyKey then do
        let row ← (insertBuiltEvent time database entry).mapError .refused
        return {
          audit := { writes.audit with events := writes.audit.events ++ [row] }
          stage := .recorded entry }
      else pure writes
  | .insertEntry entryId tenantId streamId, .recorded entry =>
      if entry.entryId == entryId && entry.tenantId == tenantId &&
          entry.streamId == streamId then do
        let row ← (insertBuiltEntry time database entry).mapError .refused
        return {
          audit := { writes.audit with
            entries := writes.audit.entries ++ [row] }
          stage := .appended }
      else pure writes
  | _, _ => pure writes

def PublishStatement.resources (hashtextextended : JsString → Int) :
    PublishStatement → List AuditResource
  | .buildEvidence _ => []
  | .insertEvent eventId tenantId idempotencyKey =>
      [.event eventId, .idempotency tenantId idempotencyKey]
  | .insertEntry entryId tenantId streamId =>
      [streamLock hashtextextended tenantId streamId, .entry entryId]

variable (hashtextextended : JsString → Int)

def publishSystem :
    System Timestamptz TrustDatabase PublishStatement PublishWrites
      AuditResource PublishFailure where
  resources := fun _ statement => some (statement.resources hashtextextended)
  perform := fun _ database statement writes =>
    statement.perform host time database writes
  noWrites := ⟨⟨[], []⟩, .started⟩
  apply := fun writes => writes.audit.apply

abbrev PublishWorld : Type :=
  World Timestamptz TrustDatabase PublishStatement PublishWrites
    AuditResource

/-! ## The logs of the publishes -/

def publishedEntries (tenantId streamId : JsString) :
    Log (publishSystem host time hashtextextended) AuditEntryRow where
  committed := auditStream tenantId streamId
  appended := fun writes =>
    writes.audit.entries.filter (AuditEntryRow.ofStream tenantId streamId)
  appended_noWrites := rfl
  committed_apply := fun _ _ => List.filter_append _ _

def allEntries :
    Log (publishSystem host time hashtextextended) AuditEntryRow where
  committed := TrustDatabase.auditEntries
  appended := fun writes => writes.audit.entries
  appended_noWrites := rfl
  committed_apply := fun _ _ => rfl

def allEvents :
    Log (publishSystem host time hashtextextended) TrustEventRow where
  committed := TrustDatabase.events
  appended := fun writes => writes.audit.events
  appended_noWrites := rfl
  committed_apply := fun _ _ => rfl

def TrustEventRow.hasKey (tenantId idempotencyKey : JsString)
    (row : TrustEventRow) : Bool :=
  row.tenantId == tenantId && row.idempotencyKey == idempotencyKey

def keyedEvents (tenantId idempotencyKey : JsString) :
    Log (publishSystem host time hashtextextended) TrustEventRow where
  committed := fun database =>
    database.events.filter (TrustEventRow.hasKey tenantId idempotencyKey)
  appended := fun writes =>
    writes.audit.events.filter (TrustEventRow.hasKey tenantId idempotencyKey)
  appended_noWrites := rfl
  committed_apply := fun _ _ => List.filter_append _ _

end Statements

/-! ## What a statement does -/

section Steps

variable {host : Host} {time : SqlTime} {database : TrustDatabase}

theorem mapError_eq_ok {Failure Other Value : Type}
    {outcome : Except Failure Value} {wrap : Failure → Other}
    {value : Value} :
    outcome.mapError wrap = .ok value ↔ outcome = .ok value := by
  cases outcome <;> simp [Except.mapError]

/-- What a statement that is performed has done. -/
inductive Performs (host : Host) (time : SqlTime) (database : TrustDatabase)
    (statement : PublishStatement) (writes after : PublishWrites) : Prop
  | passed : after = writes → Performs host time database statement writes after
  | built (publish : TrustedPublish) (chain : List AuditChainEntry)
      (entry : AuditChainEntry) :
      priorAuditChain time database publish.event.tenantId
        publish.event.streamId = some chain →
      appendAuditChainEntry host (publish.input chain) = .ok entry →
      after = { writes with stage := .built entry } →
      Performs host time database statement writes after
  | recorded (entry : AuditChainEntry) (row : TrustEventRow) :
      writes.stage = .built entry →
      statement = .insertEvent entry.event.eventId entry.event.tenantId
        entry.event.idempotencyKey →
      eventRow time entry.event = .ok row →
      (insertTrustEvent database row).isOk = true →
      after = {
        audit := { writes.audit with events := writes.audit.events ++ [row] }
        stage := .recorded entry } →
      Performs host time database statement writes after
  | appended (entry : AuditChainEntry) (row : AuditEntryRow) :
      writes.stage = .recorded entry →
      statement = .insertEntry entry.entryId entry.tenantId
        entry.streamId →
      entryRow time entry = .ok row →
      (insertAuditEntry database row).isOk = true →
      after = {
        audit := { writes.audit with
          entries := writes.audit.entries ++ [row] }
        stage := .appended } →
      Performs host time database statement writes after

theorem performs_of_perform {statement : PublishStatement}
    {writes after : PublishWrites}
    (performed : statement.perform host time database writes = .ok after) :
    Performs host time database statement writes after := by
  obtain ⟨audit, stage⟩ := writes
  cases statement with
  | buildEvidence publish =>
      cases stage with
      | started =>
          rcases bind_eq_ok.mp performed with ⟨entry, isEntry, isAfter⟩
          unfold buildAuditEntry at isEntry
          cases read : priorAuditChain time database publish.event.tenantId
              publish.event.streamId with
          | none =>
              rw [read] at isEntry
              exact nomatch isEntry
          | some chain =>
              rw [read] at isEntry
              exact .built publish chain entry read
                (mapError_eq_ok.mp isEntry) (Except.ok.inj isAfter).symm
      | built entry => exact .passed (Except.ok.inj performed).symm
      | recorded entry => exact .passed (Except.ok.inj performed).symm
      | appended => exact .passed (Except.ok.inj performed).symm
  | insertEvent eventId tenantId idempotencyKey =>
      cases stage with
      | built entry =>
          simp only [PublishStatement.perform] at performed
          split_ifs at performed with matched
          · rcases bind_eq_ok.mp performed with ⟨row, isRow, isAfter⟩
            rcases bind_eq_ok.mp (mapError_eq_ok.mp isRow) with
              ⟨written, converted, isRow⟩
            rcases bind_eq_ok.mp isRow with ⟨_, inserted, same⟩
            cases Except.ok.inj same
            simp only [Bool.and_eq_true, beq_iff_eq] at matched
            rcases matched with ⟨⟨rfl, rfl⟩, rfl⟩
            exact .recorded entry row rfl rfl converted
              (isOk_iff.mpr ⟨_, inserted⟩) (Except.ok.inj isAfter).symm
          · exact .passed (Except.ok.inj performed).symm
      | started => exact .passed (Except.ok.inj performed).symm
      | recorded entry => exact .passed (Except.ok.inj performed).symm
      | appended => exact .passed (Except.ok.inj performed).symm
  | insertEntry entryId tenantId streamId =>
      cases stage with
      | recorded entry =>
          simp only [PublishStatement.perform] at performed
          split_ifs at performed with matched
          · rcases bind_eq_ok.mp performed with ⟨row, isRow, isAfter⟩
            rcases bind_eq_ok.mp (mapError_eq_ok.mp isRow) with
              ⟨written, converted, isRow⟩
            rcases bind_eq_ok.mp isRow with ⟨_, inserted, same⟩
            cases Except.ok.inj same
            simp only [Bool.and_eq_true, beq_iff_eq] at matched
            rcases matched with ⟨⟨rfl, rfl⟩, rfl⟩
            exact .appended entry row rfl rfl converted
              (isOk_iff.mpr ⟨_, inserted⟩) (Except.ok.inj isAfter).symm
          · exact .passed (Except.ok.inj performed).symm
      | started => exact .passed (Except.ok.inj performed).symm
      | built entry => exact .passed (Except.ok.inj performed).symm
      | appended => exact .passed (Except.ok.inj performed).symm

end Steps

end BidayaxExecutive.TrustStore
