import BidayaxExecutive.Settings.PublishHistory

/-!
# Snapshots and their hashes

A version stores the hash of its snapshot twice, in the snapshot and beside it.
The checks of publishing compare the two stored hashes and compute none, so a
published version has the hash of its own parts exactly when its source had.
-/

namespace BidayaxExecutive.Settings

open BidayaxExecutive.Runtime JsString
open BidayaxExecutive.Library.Guards

section Platform

variable (platform : Platform)

/-- The stored hash is the one of the parts of the snapshot. -/
def Untampered (version : CardSettingsVersion) : Prop :=
  version.snapshotHash =
    settingsSnapshotHash platform version.settingsSnapshot

/-! ## Where hashes come from -/

theorem untampered_previewOf (context : SettingsVersionActorContext)
    (version : CardSettingsVersion) :
    Untampered platform (previewOf platform context version) ↔
      Untampered platform version :=
  Iff.rfl

theorem untampered_createPublishedVersion (actorId createdAt : JsString)
    (previousVersionId : Option JsString) (version : CardSettingsVersion) :
    Untampered platform (createPublishedVersion platform actorId createdAt
        previousVersionId version) ↔
      Untampered platform version :=
  Iff.rfl

theorem untampered_previewVersion (input : PublishSettingsVersionInput) :
    Untampered platform (previewVersion platform input) ↔
      Untampered platform input.sourceVersion := by
  unfold previewVersion
  by_cases draft : input.sourceVersion.status = .draft
  · rw [if_pos draft]
    exact untampered_previewOf platform _ _
  · rw [if_neg draft]

/-! ## What the checks read -/

/-- A draft and its preview pass the same checks. -/
theorem validateSettingsForPublish_previewOf
    (context : SettingsVersionActorContext) {version : CardSettingsVersion}
    (draft : version.status = .draft) :
    validateSettingsForPublish (previewOf platform context version) =
      validateSettingsForPublish version := by
  have status : statusCheck (previewOf platform context version) =
      statusCheck version := by
    simp [statusCheck, previewOf, isPreviewable, draft]
  unfold validateSettingsForPublish
  rw [status]
  rfl

theorem isPublishable_previewVersion (input : PublishSettingsVersionInput) :
    isPublishable (previewVersion platform input) =
      isPublishable input.sourceVersion := by
  unfold previewVersion
  by_cases draft : input.sourceVersion.status = .draft
  · rw [if_pos draft, isPublishable,
      validateSettingsForPublish_previewOf platform _ draft, isPublishable]
  · rw [if_neg draft]

end Platform

/-! ## Publications of tampered snapshots -/

theorem publishSettingsVersion_untampered_iff {platform : Platform}
    {input : PublishSettingsVersionInput} {result : SettingsPublishResult}
    (returned : publishSettingsVersion platform input = .ok result) :
    (result.ok = true → ∃ published, result.publishedVersion = some published ∧
        Untampered platform published) ↔
      (isPublishable input.sourceVersion = true →
        Untampered platform input.sourceVersion) := by
  rw [← isPublishable_previewVersion platform input,
    ← untampered_previewVersion platform input]
  rcases publish_cases platform input returned with succeeds | fails
  · constructor
    · intro untampered _
      rcases untampered succeeds.ok with ⟨published, isNew, holds⟩
      rw [succeeds.published] at isNew
      rw [← Option.some.inj isNew] at holds
      exact (untampered_createPublishedVersion platform _ _ _ _).mp holds
    · intro untampered _
      exact ⟨newPublished platform input, succeeds.published,
        (untampered_createPublishedVersion platform _ _ _ _).mpr
          (untampered succeeds.valid)⟩
  · rw [fails.ok, fails.invalid]
    exact ⟨fun _ => nofun, fun _ => nofun⟩

/-- A version with the hash of the snapshot for a name. -/
def hashedVersion (executiveName hashedName : String)
    (status : CardSettingsVersionStatus) : CardSettingsVersion :=
  cardVersion "version-1" executiveName
    (settingsSnapshotHash codeUnitPlatform
      (cardVersion "version-1" hashedName [] status).settingsSnapshot) status

/-- A preview whose name was changed after its hash was taken. -/
def tamperedPreview : CardSettingsVersion :=
  hashedVersion "Other" "Name" .preview

theorem tamperedPreview_published :
    ∃ result published,
      publishSettingsVersion codeUnitPlatform
          (cardPublication tamperedPreview []) = .ok result ∧
        result.ok = true ∧ result.publishedVersion = some published ∧
        ¬Untampered codeUnitPlatform published := by
  have publishable : isPublishable tamperedPreview = true := by
    decide +kernel
  have tampered : tamperedPreview.snapshotHash ≠
      settingsSnapshotHash codeUnitPlatform
        tamperedPreview.settingsSnapshot := by
    decide +kernel
  have succeeds : (publishSettingsVersion codeUnitPlatform
      (cardPublication tamperedPreview [])).isOk = true := by
    decide +kernel
  rcases isOk_iff.mp succeeds with ⟨result, returned⟩
  rcases publish_cases _ _ returned with published | fails
  · exact ⟨result, _, returned, published.ok, published.published, tampered⟩
  · exact nomatch publishable.symm.trans fails.invalid

theorem publishSettingsVersion_untampered_iff_draft :
    ∃ result,
      publishSettingsVersion codeUnitPlatform
          (cardPublication (hashedVersion "Name" "Name" .draft) []) =
            .ok result ∧
        (result.ok = true → ∃ published,
          result.publishedVersion = some published ∧
            Untampered codeUnitPlatform published) := by
  have succeeds : (publishSettingsVersion codeUnitPlatform
      (cardPublication (hashedVersion "Name" "Name" .draft) [])).isOk =
        true := by
    decide +kernel
  rcases isOk_iff.mp succeeds with ⟨result, returned⟩
  exact ⟨result, returned,
    (publishSettingsVersion_untampered_iff returned).mpr fun _ => rfl⟩

end BidayaxExecutive.Settings
