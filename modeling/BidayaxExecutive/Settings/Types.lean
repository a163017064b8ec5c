import BidayaxExecutive.Runtime.JsValue

/-!
# Records of the settings package

The records that publishing and persistence exchange.  The four parts of a
snapshot are JSON-like data: they are stored as such, and the code reads single
properties of them.
-/

namespace BidayaxExecutive.Settings

open BidayaxExecutive.Runtime

/-- `typeError` is thrown by the language, `conflict` is a
`SettingsPersistenceConflictError`, and `refused` stands for every error of the
database. -/
inductive SettingsError where
  | typeError
  | conflict (message : JsString)
  | refused
  deriving DecidableEq, Repr

abbrev Attempt := Except SettingsError

/-! ## Versions -/

inductive CardSettingsVersionStatus where
  | draft
  | preview
  | published
  | archived
  deriving DecidableEq, Repr

def CardSettingsVersionStatus.text : CardSettingsVersionStatus → JsString
  | .draft => js "draft"
  | .preview => js "preview"
  | .published => js "published"
  | .archived => js "archived"

structure CardSettingsSnapshot where
  brandProfile : Json
  resolvedBrandTokens : Json
  cardProfile : Json
  receptionistSettings : Json
  snapshotHash : JsString
  generatedAt : JsString

structure CardSettingsVersion where
  versionId : JsString
  cardId : JsString
  tenantId : JsString
  settingsSnapshot : CardSettingsSnapshot
  createdBy : JsString
  createdAt : JsString
  status : CardSettingsVersionStatus
  snapshotHash : JsString
  immutable : Bool
  previousVersionId : Option JsString

/-! ## Events -/

inductive SettingsVersionEventName where
  | settingsDraftCreated
  | settingsPreviewGenerated
  | settingsPublishValidationFailed
  | settingsPublished
  | settingsVersionArchived
  | receptionistSettingsPreviewed
  | receptionistSettingsValidationFailed
  | receptionistSettingsPublished
  deriving DecidableEq, Repr

def SettingsVersionEventName.text : SettingsVersionEventName → JsString
  | .settingsDraftCreated => js "settings.draft.created"
  | .settingsPreviewGenerated => js "settings.preview.generated"
  | .settingsPublishValidationFailed =>
      js "settings.publish.validation_failed"
  | .settingsPublished => js "settings.published"
  | .settingsVersionArchived => js "settings.version.archived"
  | .receptionistSettingsPreviewed => js "receptionist.settings.previewed"
  | .receptionistSettingsValidationFailed =>
      js "receptionist.settings.validation_failed"
  | .receptionistSettingsPublished => js "receptionist.settings.published"

/-- A record of primitive values; one that is read from a snapshot may be
missing or of any type. -/
abbrev EventMetadata := List (JsString × Option Json)

structure SettingsVersionEvent where
  eventId : JsString
  eventName : SettingsVersionEventName
  tenantId : JsString
  cardId : JsString
  versionId : Option JsString
  actorId : JsString
  createdAt : JsString
  metadata : EventMetadata

/-! ## Audit events -/

inductive SettingsAuditActorType where
  | user
  | system
  | receptionist
  | admin
  deriving DecidableEq, Repr

def SettingsAuditActorType.text : SettingsAuditActorType → JsString
  | .user => js "user"
  | .system => js "system"
  | .receptionist => js "receptionist"
  | .admin => js "admin"

structure SettingsAuditActor where
  actorId : JsString
  actorType : SettingsAuditActorType
  displayName : JsString
  ipAddress : Option JsString := none
  userAgent : Option JsString := none
  deriving DecidableEq

inductive SettingsAuditSeverity where
  | info
  | warning
  | critical
  deriving DecidableEq, Repr

def SettingsAuditSeverity.text : SettingsAuditSeverity → JsString
  | .info => js "info"
  | .warning => js "warning"
  | .critical => js "critical"

inductive SettingsAuditSource where
  | settingsVersioning
  | settingsPublish
  | receptionistSettings
  deriving DecidableEq, Repr

def SettingsAuditSource.text : SettingsAuditSource → JsString
  | .settingsVersioning => js "settings-versioning"
  | .settingsPublish => js "settings-publish"
  | .receptionistSettings => js "receptionist-settings"

structure SettingsAuditEvent where
  eventId : JsString
  eventType : SettingsVersionEventName
  tenantId : JsString
  cardId : JsString
  actor : SettingsAuditActor
  occurredAt : JsString
  source : SettingsAuditSource
  snapshotHash : Option JsString
  previousSnapshotHash : Option JsString
  metadata : EventMetadata
  severity : SettingsAuditSeverity

/-! ## Results of publishing -/

inductive SettingsCheckSeverity where
  | info
  | warning
  | blocker
  deriving DecidableEq, Repr

structure SettingsPublishValidationCheck where
  checkId : JsString
  passed : Bool
  severity : SettingsCheckSeverity
  message : JsString
  deriving DecidableEq

structure SettingsPublishValidationResult where
  valid : Bool
  checks : List SettingsPublishValidationCheck
  deriving DecidableEq

structure SettingsPublishResult where
  ok : Bool
  publishedVersionId : Option JsString
  archivedVersionId : Option JsString
  snapshotHash : Option JsString
  publishedVersion : Option CardSettingsVersion
  archivedVersion : Option CardSettingsVersion
  versions : List CardSettingsVersion
  emittedEvents : List SettingsVersionEvent
  auditEvents : List SettingsAuditEvent
  warnings : List Json
  validation : SettingsPublishValidationResult

/-! ## Property reads -/

/-- `value.name`, where the value may be missing. -/
def readField (value : Option Json) (name : JsString) :
    Attempt (Option Json) :=
  match value with
  | none | some .null => .error .typeError
  | some found => .ok (found.field? name)

/-- `typeof value === "string" && value.trim().length > 0`. -/
def hasText : Option Json → Bool
  | some (.string text) => !JsString.isBlank text
  | _ => false

end BidayaxExecutive.Settings
