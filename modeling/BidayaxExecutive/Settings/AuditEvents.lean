import BidayaxExecutive.Settings.StableHash

/-!
# Audit events of the settings

Every version event is turned into an audit event with an actor, a source, a
severity, sanitized metadata and an id that is a hash of all of it.
-/

namespace BidayaxExecutive.Settings

open BidayaxExecutive.Runtime JsString

/-- `sensitiveMetadataKeyPattern.test(key)`. -/
def isSensitiveMetadataKey (key : JsString) : Bool :=
  [js "authorization", js "cookie", js "credential", js "password",
    js "secret", js "session", js "token"].any
    fun word => hasInfix word (lowerCase key)

/-- `{ ...metadata, name: value }`. -/
def withEntry (metadata : EventMetadata) (name : JsString)
    (value : Option Json) : EventMetadata :=
  if metadata.any (·.1 == name) then
    metadata.map fun entry => if entry.1 = name then (name, value) else entry
  else metadata ++ [(name, value)]

def inferSettingsAuditSource (eventType : SettingsVersionEventName) :
    SettingsAuditSource :=
  if (js "receptionist.").isPrefixOf eventType.text then .receptionistSettings
  else if hasInfix (js "publish") eventType.text ||
      hasInfix (js "archived") eventType.text then
    .settingsPublish
  else .settingsVersioning

def inferSettingsAuditSeverity (eventType : SettingsVersionEventName) :
    SettingsAuditSeverity :=
  if hasInfix (js "validation_failed") eventType.text then .warning
  else .info

def createSettingsAuditActor (actorId : JsString)
    (actor : Option SettingsAuditActor) : SettingsAuditActor :=
  actor.getD
    { actorId := actorId, actorType := .user, displayName := actorId }

structure SettingsAuditEventContext where
  actor : Option SettingsAuditActor
  actorId : JsString
  previousSnapshotHash : Option JsString
  snapshotHash : Option JsString

section Platform

variable (platform : Platform)

def sanitizeSettingsAuditMetadata (metadata : EventMetadata) :
    EventMetadata :=
  localeSort platform <|
    metadata.filter fun entry => !isSensitiveMetadataKey entry.1

def stableActor (actor : SettingsAuditActor) : JsString :=
  stableObject platform <|
    [(js "actorId", quote actor.actorId),
      (js "actorType", quote actor.actorType.text),
      (js "displayName", quote actor.displayName)] ++
      (actor.ipAddress.map fun value => (js "ipAddress", quote value)).toList ++
      (actor.userAgent.map fun value => (js "userAgent", quote value)).toList

/-- The stable text of an event without its id. -/
def stableEvent (event : SettingsAuditEvent) : JsString :=
  stableObject platform
    [(js "actor", stableActor platform event.actor),
      (js "cardId", quote event.cardId),
      (js "eventType", quote event.eventType.text),
      (js "metadata", stableMetadata platform event.metadata),
      (js "occurredAt", quote event.occurredAt),
      (js "previousSnapshotHash", stableNullable event.previousSnapshotHash),
      (js "severity", quote event.severity.text),
      (js "snapshotHash", stableNullable event.snapshotHash),
      (js "source", quote event.source.text),
      (js "tenantId", quote event.tenantId)]

/-- The version id joins the metadata before they are sanitized. -/
def createSettingsAuditEventFromVersionEvent (event : SettingsVersionEvent)
    (context : SettingsAuditEventContext) : SettingsAuditEvent :=
  let withoutId : SettingsAuditEvent :=
    { eventId := []
      eventType := event.eventName
      tenantId := event.tenantId
      cardId := event.cardId
      actor := createSettingsAuditActor context.actorId context.actor
      occurredAt := event.createdAt
      source := inferSettingsAuditSource event.eventName
      snapshotHash := context.snapshotHash
      previousSnapshotHash := context.previousSnapshotHash
      metadata := sanitizeSettingsAuditMetadata platform <|
        withEntry event.metadata (js "versionId") <| some <|
          (event.versionId.map Json.string).getD .null
      severity := inferSettingsAuditSeverity event.eventName }
  { withoutId with
    eventId := js "settings-audit-" ++
      hashText (fnv1a (stableEvent platform withoutId)) }

def createSettingsAuditEvents (events : List SettingsVersionEvent)
    (context : SettingsAuditEventContext) : List SettingsAuditEvent :=
  events.map fun event =>
    createSettingsAuditEventFromVersionEvent platform event context

end Platform

end BidayaxExecutive.Settings
