import BidayaxExecutive.Library.Guards
import BidayaxExecutive.Settings.Versioning

/-!
# Publishing

A draft is first made a preview.  A preview that passes the checks is copied to
a new published version, the version published before is archived, and the
list of versions is put together anew; a preview that fails a blocking check is
returned at the end of the list.
-/

namespace BidayaxExecutive.Settings

open BidayaxExecutive.Runtime JsString
open BidayaxExecutive.Library.Guards

/-! ## Checks -/

/-- `Boolean(value)`. -/
def isTruthy : Option Json → Bool
  | none => false
  | some value => value.truthy

/-- A blocking check that a property of the profile, or of the brand tokens,
has a text. -/
def requiredText (owner : Option Json) (field checkId message : JsString) :
    Attempt SettingsPublishValidationCheck := do
  let value ← readField owner field
  .ok ⟨checkId, hasText value, .blocker, message⟩

def profileChecks (cardProfile : Json) :
    Attempt (List SettingsPublishValidationCheck) := do
  let card := some cardProfile
  let name ← requiredText card (js "executiveName")
    (js "profile.executive_name.required")
    (js "Executive name is required before publish.")
  let title ← requiredText card (js "title") (js "profile.title.required")
    (js "Executive title is required before publish.")
  let company ← requiredText card (js "company")
    (js "profile.company.required")
    (js "Company name is required before publish.")
  let email ← requiredText card (js "email") (js "profile.email.required")
    (js "Executive email is required before publish.")
  let phone ← requiredText card (js "phone") (js "profile.phone.required")
    (js "Executive phone is required before publish.")
  let website ← requiredText card (js "website")
    (js "profile.website.required")
    (js "Executive website is required before publish.")
  .ok [name, title, company, email, phone, website]

/-- A visible call to action has a label and a destination. -/
def primaryCtaCheck (cardProfile : Json) :
    Attempt SettingsPublishValidationCheck := do
  let primaryCTA ← readField (some cardProfile) (js "primaryCTA")
  let visible ← readField primaryCTA (js "visible")
  let label ← readField primaryCTA (js "label")
  let destination ← readField primaryCTA (js "destination")
  .ok ⟨js "cta.primary.valid",
    !isTruthy visible || (hasText label && hasText destination), .blocker,
    js "Visible primary CTA requires a label and destination."⟩

/-- The checks of the brand tokens: the two blocking ones and the warning. -/
def brandChecks (resolvedBrandTokens : Json) :
    Attempt (List SettingsPublishValidationCheck ×
      SettingsPublishValidationCheck) := do
  let tokens := some resolvedBrandTokens
  let hash ← requiredText tokens (js "snapshotHash")
    (js "brand.snapshot.hash.required")
    (js "Resolved brand tokens must include a snapshot hash.")
  let accessibility ← readField tokens (js "accessibility")
  let wcagLevel ← readField accessibility (js "wcagLevel")
  let fallbackApplied ← readField accessibility (js "fallbackApplied")
  .ok
    ([hash,
      ⟨js "brand.snapshot.wcag_aa", isText (js "AA") wcagLevel, .blocker,
        js "Resolved brand tokens must meet WCAG AA contrast before " ++
          js "publish."⟩],
    ⟨js "brand.snapshot.fallback_reviewed", !isTruthy fallbackApplied,
      .warning,
      js "Resolved brand tokens used a safe fallback and should be " ++
        js "reviewed."⟩)

/-- A draft or a preview. -/
def isPreviewable (status : CardSettingsVersionStatus) : Bool :=
  status == .draft || status == .preview

def statusCheck (version : CardSettingsVersion) :
    SettingsPublishValidationCheck :=
  ⟨js "version.status.previewable", isPreviewable version.status, .blocker,
    js "Only draft or preview settings versions can be published."⟩

/-- Both hashes are stored ones. -/
def snapshotHashCheck (version : CardSettingsVersion) :
    SettingsPublishValidationCheck :=
  ⟨js "snapshot.hash.matches.version",
    version.settingsSnapshot.snapshotHash == version.snapshotHash, .blocker,
    js "Version snapshot hash must match the immutable settings snapshot."⟩

def receptionistChecks (receptionistSettings : Json) :
    List SettingsPublishValidationCheck :=
  (validateReceptionistSettings receptionistSettings).issues.map fun issue =>
    ⟨js "receptionist." ++ issue.code, false, .blocker, issue.message⟩

/-- A blocking check that is not passed. -/
def isBlocked (check : SettingsPublishValidationCheck) : Bool :=
  check.severity == .blocker && !check.passed

def validateSettingsForPublish (version : CardSettingsVersion) :
    Attempt SettingsPublishValidationResult := do
  let snapshot := version.settingsSnapshot
  let profile ← profileChecks snapshot.cardProfile
  let (brand, fallback) ← brandChecks snapshot.resolvedBrandTokens
  let primaryCta ← primaryCtaCheck snapshot.cardProfile
  let checks := statusCheck version :: profile ++ brand ++
    snapshotHashCheck version ::
      receptionistChecks snapshot.receptionistSettings ++
      [primaryCta, fallback]
  .ok { checks, valid := checks.all fun check => !isBlocked check }

/-- `[...value]`: an array gives its elements and a string its code points. -/
def codePoints : JsString → List JsString
  | [] => []
  | [unit] => [[unit]]
  | first :: second :: rest =>
      if isHighSurrogate first && isLowSurrogate second then
        [first, second] :: codePoints rest
      else [first] :: codePoints (second :: rest)

def spread : Option Json → Attempt (List Json)
  | some (.array elements) => .ok elements
  | some (.string text) => .ok ((codePoints text).map Json.string)
  | _ => .error .typeError

def collectWarnings (validation : SettingsPublishValidationResult)
    (version : CardSettingsVersion) : Attempt (List Json) := do
  let warnings ← readField
    (some version.settingsSnapshot.resolvedBrandTokens) (js "warnings")
  let listed ← spread warnings
  .ok <| listed ++
    (validation.checks.filter fun check =>
      check.severity == .warning && !check.passed).map
        fun check => Json.string check.message

/-! ## Publishing -/

structure PublishSettingsVersionInput where
  actor : Option SettingsAuditActor
  actorId : JsString
  existingVersions : List CardSettingsVersion
  publishedAt : Option JsString
  sourceVersion : CardSettingsVersion

section Platform

variable (platform : Platform)

/-- Actor and time of a publication. -/
def PublishSettingsVersionInput.context
    (input : PublishSettingsVersionInput) : SettingsVersionActorContext where
  actor := input.actor
  actorId := input.actorId
  createdAt := input.publishedAt.getD (toISOString platform.now)

def publishedVersionId (createdAt : JsString)
    (previousVersionId : Option JsString) (snapshotHash : JsString) :
    JsString :=
  js "settings-version-" ++ createSettingsStableHash
    (stableObject platform
      [(js "createdAt", quote createdAt),
        (js "previousVersionId", stableNullable previousVersionId),
        (js "snapshotHash", quote snapshotHash),
        (js "status", quote (js "published"))])

def createPublishedVersion (actorId createdAt : JsString)
    (previousVersionId : Option JsString)
    (sourceVersion : CardSettingsVersion) : CardSettingsVersion :=
  { sourceVersion with
    createdAt
    createdBy := actorId
    immutable := true
    previousVersionId
    status := .published
    versionId := publishedVersionId platform createdAt previousVersionId
      sourceVersion.snapshotHash }

/-- A draft with its events as a preview; any other version as it is. -/
def previewStep (context : SettingsVersionActorContext)
    (source : CardSettingsVersion) :
    Attempt SettingsVersionOperationResult :=
  if source.status = .draft then
    generatePreviewVersion platform context source
  else .ok ⟨[], source, []⟩

/-- The events of a failed validation. -/
def failureEvents (context : SettingsVersionActorContext)
    (validation : SettingsPublishValidationResult)
    (preview : CardSettingsVersion) : List SettingsVersionEvent :=
  let receptionistBlockers := validation.checks.filter fun check =>
    (js "receptionist.").isPrefixOf check.checkId && !check.passed
  createSettingsVersionEvent platform context.actorId context.createdAt
      preview .settingsPublishValidationFailed
      [(js "blockerCount", some (.number (.integer
          (validation.checks.filter isBlocked).length))),
        (js "snapshotHash", some (.string preview.snapshotHash))] ::
    if receptionistBlockers.isEmpty then []
    else
      [createSettingsVersionEvent platform context.actorId context.createdAt
        preview .receptionistSettingsValidationFailed
        [(js "issueCount",
            some (.number (.integer receptionistBlockers.length))),
          (js "snapshotHash", some (.string preview.snapshotHash))]]

/-- The events of a publication. -/
def publishEvents (context : SettingsVersionActorContext)
    (archivedVersionId : Option JsString) (published : CardSettingsVersion)
    (enabled : Option Json) : List SettingsVersionEvent :=
  [createSettingsVersionEvent platform context.actorId context.createdAt
      published .settingsPublished
      [(js "archivedVersionId",
          some ((archivedVersionId.map Json.string).getD .null)),
        (js "snapshotHash", some (.string published.snapshotHash))],
    createSettingsVersionEvent platform context.actorId context.createdAt
      published .receptionistSettingsPublished
      [(js "enabled", enabled),
        (js "snapshotHash", some (.string published.snapshotHash))]]

/-- The existing versions that a publication does not replace. -/
def retainedVersions (existingVersions : List CardSettingsVersion)
    (previous : Option CardSettingsVersion) (preview : CardSettingsVersion) :
    List CardSettingsVersion :=
  existingVersions.filter fun version =>
    !((previous.map (·.versionId)).toList ++ [preview.versionId]).contains
      version.versionId

def publishSettingsVersion (input : PublishSettingsVersionInput) :
    Attempt SettingsPublishResult := do
  let context := input.context platform
  let previewResult ← previewStep platform context input.sourceVersion
  let preview := previewResult.version
  let validation ← validateSettingsForPublish preview
  let warnings ← collectWarnings validation preview
  if validation.valid then
    let previous := findCurrentPublishedVersion input.existingVersions
      preview.cardId preview.tenantId
    let archived := previous.map (archivePublishedVersion platform context)
    let archivedVersion := archived.map (·.version)
    let published := createPublishedVersion platform context.actorId
      context.createdAt (archivedVersion.map (·.versionId)) preview
    let enabled ← readField
      (some published.settingsSnapshot.receptionistSettings) (js "enabled")
    let events := publishEvents platform context
      (archivedVersion.map (·.versionId)) published enabled
    .ok
      { ok := true
        publishedVersionId := some published.versionId
        archivedVersionId := archivedVersion.map (·.versionId)
        snapshotHash := some published.snapshotHash
        publishedVersion := some published
        archivedVersion := archivedVersion
        versions :=
          retainedVersions input.existingVersions previous preview ++
            preview :: (archivedVersion.toList ++ [published])
        emittedEvents := previewResult.emittedEvents ++
          (archived.map (·.emittedEvents)).getD [] ++ events
        auditEvents := previewResult.auditEvents ++
          (archived.map (·.auditEvents)).getD [] ++
          auditEventsOf platform context (previous.map (·.snapshotHash))
            published events
        warnings := warnings
        validation := validation }
  else
    let events := failureEvents platform context validation preview
    .ok
      { ok := false
        publishedVersionId := none
        archivedVersionId := none
        snapshotHash := none
        publishedVersion := none
        archivedVersion := none
        versions := input.existingVersions ++ [preview]
        emittedEvents := previewResult.emittedEvents ++ events
        auditEvents := previewResult.auditEvents ++
          auditEventsOf platform context (some preview.snapshotHash)
            preview events
        warnings := warnings
        validation := validation }

end Platform

end BidayaxExecutive.Settings
