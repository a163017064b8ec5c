import BidayaxExecutive.Settings.AuditEvents
import BidayaxExecutive.Settings.ReceptionistValidation

/-!
# Versions of the settings

A draft becomes a preview and a published version becomes an archived one as
updated copies of the record, each with its events.
-/

namespace BidayaxExecutive.Settings

open BidayaxExecutive.Runtime JsString

structure SettingsVersionActorContext where
  actor : Option SettingsAuditActor
  actorId : JsString
  createdAt : JsString

structure SettingsVersionOperationResult where
  auditEvents : List SettingsAuditEvent
  version : CardSettingsVersion
  emittedEvents : List SettingsVersionEvent

section Platform

variable (platform : Platform)

/-- The four parts of a snapshot that its hash is taken of. -/
def snapshotParts (snapshot : CardSettingsSnapshot) :
    List (JsString × Json) :=
  [(js "brandProfile", snapshot.brandProfile),
    (js "cardProfile", snapshot.cardProfile),
    (js "receptionistSettings", snapshot.receptionistSettings),
    (js "resolvedBrandTokens", snapshot.resolvedBrandTokens)]

/-- The hash that `createCardSettingsSnapshot` gives a snapshot. -/
def settingsSnapshotHash (snapshot : CardSettingsSnapshot) : JsString :=
  createSettingsStableHash <|
    stableStringify platform (.object (snapshotParts snapshot))

def createCardSettingsSnapshot (input : CardSettingsSnapshot)
    (generatedAt : Option JsString) : CardSettingsSnapshot :=
  { input with
    generatedAt := generatedAt.getD (toISOString platform.now)
    snapshotHash := settingsSnapshotHash platform input }

def createVersionId (status : CardSettingsVersionStatus)
    (snapshotHash createdAt : JsString) : JsString :=
  js "settings-version-" ++ createSettingsStableHash
    (stableObject platform
      [(js "createdAt", quote createdAt),
        (js "snapshotHash", quote snapshotHash),
        (js "status", quote status.text)])

def createEventId (eventName : SettingsVersionEventName)
    (versionId : Option JsString) (createdAt : JsString) : JsString :=
  js "settings-event-" ++ createSettingsStableHash
    (stableObject platform
      [(js "createdAt", quote createdAt),
        (js "eventName", quote eventName.text),
        (js "versionId", stableNullable versionId)])

/-- The event of a version, by an actor at a time. -/
def createSettingsVersionEvent (actorId createdAt : JsString)
    (version : CardSettingsVersion) (eventName : SettingsVersionEventName)
    (metadata : EventMetadata) : SettingsVersionEvent where
  eventId := createEventId platform eventName (some version.versionId)
    createdAt
  eventName := eventName
  tenantId := version.tenantId
  cardId := version.cardId
  versionId := some version.versionId
  actorId := actorId
  createdAt := createdAt
  metadata := metadata

/-- The audit events of the emitted ones, for a version that replaces one with
the given hash. -/
def auditEventsOf (context : SettingsVersionActorContext)
    (previousSnapshotHash : Option JsString) (version : CardSettingsVersion)
    (events : List SettingsVersionEvent) : List SettingsAuditEvent :=
  createSettingsAuditEvents platform events
    { actor := context.actor
      actorId := context.actorId
      previousSnapshotHash := previousSnapshotHash
      snapshotHash := some version.snapshotHash }

/-- The record that `generatePreviewVersion` makes of a draft. -/
def previewOf (context : SettingsVersionActorContext)
    (draftVersion : CardSettingsVersion) : CardSettingsVersion :=
  { draftVersion with
    createdAt := context.createdAt
    createdBy := context.actorId
    immutable := false
    status := .preview
    versionId := createVersionId platform .preview draftVersion.snapshotHash
      context.createdAt }

def generatePreviewVersion (context : SettingsVersionActorContext)
    (draftVersion : CardSettingsVersion) :
    Attempt SettingsVersionOperationResult := do
  let settings := draftVersion.settingsSnapshot.receptionistSettings
  let validation := validateReceptionistSettings settings
  let version := previewOf platform context draftVersion
  let enabled ← readField (some settings) (js "enabled")
  let events :=
    [createSettingsVersionEvent platform context.actorId context.createdAt
        version .settingsPreviewGenerated
        [(js "draftVersionId", some (.string draftVersion.versionId)),
          (js "snapshotHash", some (.string version.snapshotHash)),
          (js "status", some (.string version.status.text))],
      createSettingsVersionEvent platform context.actorId context.createdAt
        version .receptionistSettingsPreviewed
        [(js "enabled", enabled),
          (js "issueCount",
            some (.number (.integer validation.issues.length))),
          (js "valid", some (.boolean validation.valid))]]
  .ok
    { auditEvents := auditEventsOf platform context
        (some draftVersion.snapshotHash) version events
      version := version
      emittedEvents := events }

/-- The record that `archivePublishedVersion` makes of a published version. -/
def archiveOf (context : SettingsVersionActorContext)
    (publishedVersion : CardSettingsVersion) : CardSettingsVersion :=
  { publishedVersion with
    createdAt := context.createdAt
    createdBy := context.actorId
    immutable := true
    status := .archived }

def archivePublishedVersion (context : SettingsVersionActorContext)
    (publishedVersion : CardSettingsVersion) :
    SettingsVersionOperationResult :=
  let version := archiveOf context publishedVersion
  let events :=
    [createSettingsVersionEvent platform context.actorId context.createdAt
      version .settingsVersionArchived
      [(js "archivedFromStatus",
          some (.string publishedVersion.status.text)),
        (js "previousVersionId",
          some (.string publishedVersion.versionId)),
        (js "snapshotHash", some (.string version.snapshotHash))]]
  { auditEvents := auditEventsOf platform context
      (some publishedVersion.snapshotHash) version events
    version := version
    emittedEvents := events }

def findCurrentPublishedVersion (versions : List CardSettingsVersion)
    (cardId tenantId : JsString) : Option CardSettingsVersion :=
  versions.find? fun version =>
    version.cardId == cardId && version.tenantId == tenantId &&
      version.status == .published

end Platform

end BidayaxExecutive.Settings
