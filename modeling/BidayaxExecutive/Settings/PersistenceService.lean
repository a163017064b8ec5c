import BidayaxExecutive.Settings.Persistence

/-!
# Persisting the result of a publication

The card is locked, the version published before is archived, the other
versions and the audit events are saved.  An idempotent call first looks for
the record of an earlier call with its key, and saves such a record at the end.
-/

namespace BidayaxExecutive.Settings

open BidayaxExecutive.Runtime JsString
open BidayaxExecutive.Library.Tables
open BidayaxExecutive.Library.Transactions
open BidayaxExecutive.Library.Scripts Script

abbrev SettingsScript := Script Store SettingsError

structure PersistSettingsPublishResult where
  auditEventCount : ℕ
  persistedVersionIds : List JsString
  deriving DecidableEq

structure PersistIdempotentSettingsPublishResult extends
    PersistSettingsPublishResult where
  idempotencyRecord : SettingsIdempotencyRecord
  reusedExistingResult : Bool
  deriving DecidableEq

structure PersistIdempotentSettingsPublishResultInput where
  publishResult : SettingsPublishResult
  createdAt : JsString
  expiresAt : Option JsString
  idempotencyKey : JsString
  requestHash : JsString

/-- `publishResult.publishedVersion ?? publishResult.versions[0]`. -/
def publishTarget (publishResult : SettingsPublishResult) :
    Option CardSettingsVersion :=
  publishResult.publishedVersion.or publishResult.versions.head?

section Service

variable (database : Database)

def saveAuditEvents : List SettingsAuditEvent → SettingsScript Unit
  | [] => pure ()
  | event :: rest => do
      let _ ← perform (saveSettingsAuditEvent database event)
      saveAuditEvents rest

def persistSettingsAuditEvents (auditEvents : List SettingsAuditEvent) :
    SettingsScript ℕ := do
  saveAuditEvents database auditEvents
  pure auditEvents.length

def lockConflict (target : CardSettingsVersion) : SettingsError :=
  .conflict <| js "Card " ++ target.cardId ++
    js " could not be locked for tenant " ++ target.tenantId ++ js "."

def lockPublishTarget (target : Option CardSettingsVersion) :
    SettingsScript Unit :=
  match target with
  | none => pure ()
  | some version => do
      let locked ← perform <|
        lockExecutiveCardForSettingsPublish version.tenantId version.cardId
      if locked then pure () else fail (lockConflict version)

/-- The ids of the versions that were archived. -/
def archivePrevious (archivedVersion : Option CardSettingsVersion) :
    SettingsScript (List JsString) :=
  match archivedVersion with
  | none => pure []
  | some version => do
      let _ ← perform (archiveCardSettingsVersion version)
      pure [version.versionId]

/-- The ids of the versions that were saved: all but the archived one. -/
def saveVersions (archivedVersionId : Option JsString) :
    List CardSettingsVersion → SettingsScript (List JsString)
  | [] => pure []
  | version :: rest =>
      if archivedVersionId = some version.versionId then
        saveVersions archivedVersionId rest
      else do
        let _ ← perform (saveCardSettingsVersion database version)
        let savedIds ← saveVersions archivedVersionId rest
        pure (version.versionId :: savedIds)

def persistSettingsPublishResult (publishResult : SettingsPublishResult) :
    SettingsScript PersistSettingsPublishResult := do
  lockPublishTarget (publishTarget publishResult)
  let archivedIds ← archivePrevious publishResult.archivedVersion
  let savedIds ← saveVersions database
    (publishResult.archivedVersion.map (·.versionId)) publishResult.versions
  let auditEventCount ←
    persistSettingsAuditEvents database publishResult.auditEvents
  pure { auditEventCount, persistedVersionIds := archivedIds ++ savedIds }

/-! ## Idempotent calls -/

variable (input : PersistIdempotentSettingsPublishResultInput)

/-- The record of the call. -/
def idempotencyRecordOf (target : CardSettingsVersion) :
    SettingsIdempotencyRecord where
  cardId := target.cardId
  createdAt := input.createdAt
  expiresAt := input.expiresAt
  idempotencyKey := input.idempotencyKey
  operation := js "settings.publish"
  requestHash := input.requestHash
  resultSnapshotHash := input.publishResult.snapshotHash
  resultVersionId := input.publishResult.publishedVersionId
  tenantId := target.tenantId

/-- The answer when there is a record. -/
def reuseIdempotencyRecord (existing : SettingsIdempotencyRecord) :
    Attempt PersistIdempotentSettingsPublishResult :=
  if existing.requestHash ≠ input.requestHash then
    .error <| .conflict <| js "Idempotency key " ++ input.idempotencyKey ++
      js " was reused with different request content."
  else
    .ok
      { auditEventCount := 0
        idempotencyRecord := existing
        persistedVersionIds :=
          match existing.resultVersionId with
          | none => []
          | some versionId => if versionId.isEmpty then [] else [versionId]
        reusedExistingResult := true }

def persistIdempotentSettingsPublishResult :
    SettingsScript PersistIdempotentSettingsPublishResult :=
  match publishTarget input.publishResult with
  | none =>
      fail <| .conflict <| js "Cannot persist an idempotent publish result " ++
        js "without a target settings version."
  | some target => do
      let existing ← perform <|
        getSettingsIdempotencyRecord target.tenantId target.cardId
          (js "settings.publish") input.idempotencyKey
      match existing with
      | some record => .done (reuseIdempotencyRecord input record)
      | none =>
          let result ← persistSettingsPublishResult database
            input.publishResult
          let idempotencyRecord ← perform <|
            saveSettingsIdempotencyRecord database
              (idempotencyRecordOf input target)
          pure
            { result with
              idempotencyRecord, reusedExistingResult := false }

end Service

end BidayaxExecutive.Settings
