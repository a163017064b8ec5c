import BidayaxExecutive.Settings.Publish

/-!
# The history that publishing leaves behind

A publication replaces the preview and the version published before in the
list of versions, and a refused one adds the preview at the end.  Only the
first filters the list by version id.  So the history stays well formed except
where the source of a refused publication, or another version with its id, is
in the list already.
-/

namespace BidayaxExecutive.Settings

open BidayaxExecutive.Runtime JsString
open BidayaxExecutive.Library.Guards

/-! ## Well-formed histories -/

def SameCard (left right : CardSettingsVersion) : Prop :=
  left.cardId = right.cardId ∧ left.tenantId = right.tenantId

/-- Distinct version ids, and at most one published version of a card. -/
structure WellFormed (versions : List CardSettingsVersion) : Prop where
  distinct : (versions.map (·.versionId)).Nodup
  onePublished : ∀ left ∈ versions, ∀ right ∈ versions,
    left.status = .published → right.status = .published →
    SameCard left right → left = right

/-- The same version, no longer published. -/
def ArchivedAs (old archived : CardSettingsVersion) : Prop :=
  archived.status = .archived ∧ archived.versionId = old.versionId ∧
    archived.settingsSnapshot = old.settingsSnapshot

/-- What a publication owes to the versions that existed. -/
structure Replaces (existing versions : List CardSettingsVersion)
    (published : CardSettingsVersion) : Prop where
  member : published ∈ versions
  status : published.status = .published
  only : ∀ other ∈ versions, other.status = .published →
    SameCard other published → other = published
  archived : ∀ old ∈ existing, old.status = .published →
    SameCard old published → ∃ version ∈ versions, ArchivedAs old version
  unchanged : ∀ old ∈ existing,
    ¬(old.status = .published ∧ SameCard old published) → old ∈ versions

structure KeepsHistory (existing : List CardSettingsVersion)
    (result : SettingsPublishResult) : Prop where
  formed : WellFormed result.versions
  succeeded : result.ok = true → ∃ published,
    result.publishedVersion = some published ∧
      Replaces existing result.versions published
  failed : result.ok = false → result.versions = existing ∨
    ∃ preview, preview.status ≠ .published ∧
      result.versions = existing ++ [preview]

theorem WellFormed.eq_of_versionId {versions : List CardSettingsVersion}
    (formed : WellFormed versions) {left right : CardSettingsVersion}
    (leftMember : left ∈ versions) (rightMember : right ∈ versions)
    (same : left.versionId = right.versionId) : left = right :=
  List.inj_on_of_nodup_map formed.distinct leftMember rightMember same

/-! ## The two outcomes -/

/-- The checks of publishing are passed. -/
def isPublishable (version : CardSettingsVersion) : Bool :=
  match validateSettingsForPublish version with
  | .ok validation => validation.valid
  | .error _ => false

section Platform

variable (platform : Platform) (input : PublishSettingsVersionInput)

/-- The version that is checked: a draft is made a preview first. -/
def previewVersion : CardSettingsVersion :=
  if input.sourceVersion.status = .draft then
    previewOf platform (input.context platform) input.sourceVersion
  else input.sourceVersion

def previousPublished : Option CardSettingsVersion :=
  findCurrentPublishedVersion input.existingVersions
    (previewVersion platform input).cardId
    (previewVersion platform input).tenantId

def newPublished : CardSettingsVersion :=
  createPublishedVersion platform (input.context platform).actorId
    (input.context platform).createdAt
    ((previousPublished platform input).map (·.versionId))
    (previewVersion platform input)

def archivedVersion : Option CardSettingsVersion :=
  (previousPublished platform input).map
    (archiveOf (input.context platform))

structure Succeeds (result : SettingsPublishResult) : Prop where
  valid : isPublishable (previewVersion platform input) = true
  ok : result.ok = true
  published : result.publishedVersion = some (newPublished platform input)
  archived : result.archivedVersion = archivedVersion platform input
  versions : result.versions =
    retainedVersions input.existingVersions
        (previousPublished platform input) (previewVersion platform input) ++
      previewVersion platform input ::
        ((archivedVersion platform input).toList ++
          [newPublished platform input])

structure Fails (result : SettingsPublishResult) : Prop where
  invalid : isPublishable (previewVersion platform input) = false
  ok : result.ok = false
  versions : result.versions =
    input.existingVersions ++ [previewVersion platform input]

theorem previewStep_version {operation : SettingsVersionOperationResult}
    (stepped : previewStep platform (input.context platform)
      input.sourceVersion = .ok operation) :
    operation.version = previewVersion platform input := by
  unfold previewStep at stepped
  unfold previewVersion
  by_cases draft : input.sourceVersion.status = .draft
  · rw [if_pos draft] at stepped ⊢
    unfold generatePreviewVersion at stepped
    rcases bind_eq_ok.mp stepped with ⟨enabled, _, made⟩
    rw [← Except.ok.inj made]
  · rw [if_neg draft] at stepped ⊢
    rw [← Except.ok.inj stepped]

theorem map_archivePublishedVersion :
    ((previousPublished platform input).map
        (archivePublishedVersion platform (input.context platform))).map
      (·.version) = archivedVersion platform input :=
  Option.map_map _ _ _

theorem map_archivedVersionId :
    (((previousPublished platform input).map
        (archivePublishedVersion platform (input.context platform))).map
      (·.version)).map (·.versionId) =
      (previousPublished platform input).map (·.versionId) := by
  rw [Option.map_map, Option.map_map]
  rfl

theorem publish_cases {result : SettingsPublishResult}
    (returned : publishSettingsVersion platform input = .ok result) :
    Succeeds platform input result ∨ Fails platform input result := by
  unfold publishSettingsVersion at returned
  rcases bind_eq_ok.mp returned with ⟨operation, stepped, checked⟩
  rcases bind_eq_ok.mp checked with ⟨validation, validated, warned⟩
  rcases bind_eq_ok.mp warned with ⟨warnings, _, finished⟩
  have version := previewStep_version platform input stepped
  rw [version] at validated finished
  have publishable : isPublishable (previewVersion platform input) =
      validation.valid := by
    rw [isPublishable, validated]
  by_cases valid : validation.valid = true
  · rw [if_pos valid] at finished
    rcases bind_eq_ok.mp finished with ⟨enabled, _, made⟩
    rw [← Except.ok.inj made]
    have archived := map_archivePublishedVersion platform input
    have previousId := map_archivedVersionId platform input
    refine Or.inl ⟨publishable.trans valid, rfl, ?_, archived, ?_⟩
    · exact congrArg (some <| createPublishedVersion platform _ _ · _)
        previousId
    · dsimp only
      exact congrArg₂ (fun (archived : Option CardSettingsVersion) published =>
          retainedVersions input.existingVersions
              (previousPublished platform input)
              (previewVersion platform input) ++
            previewVersion platform input :: (archived.toList ++ [published]))
        archived <|
          congrArg (createPublishedVersion platform _ _ · _) previousId
  · rw [if_neg valid] at finished
    rw [← Except.ok.inj finished]
    exact Or.inr ⟨publishable.trans (by simpa using valid), rfl, rfl⟩

end Platform

/-! ## Membership -/

theorem mem_retainedVersions {existing : List CardSettingsVersion}
    {previous : Option CardSettingsVersion}
    {preview version : CardSettingsVersion} :
    version ∈ retainedVersions existing previous preview ↔
      version ∈ existing ∧
        (∀ old, previous = some old → version.versionId ≠ old.versionId) ∧
        version.versionId ≠ preview.versionId := by
  unfold retainedVersions
  rw [List.mem_filter]
  cases previous with
  | none =>
      simp
  | some old =>
      simp

theorem findCurrentPublishedVersion_eq_some
    {versions : List CardSettingsVersion} {cardId tenantId : JsString}
    {found : CardSettingsVersion}
    (search : findCurrentPublishedVersion versions cardId tenantId =
      some found) :
    found ∈ versions ∧ found.status = .published ∧ found.cardId = cardId ∧
      found.tenantId = tenantId := by
  have accepted := List.find?_some search
  simp only [Bool.and_eq_true, beq_iff_eq] at accepted
  exact ⟨List.mem_of_find?_eq_some search, accepted.2, accepted.1.1,
    accepted.1.2⟩

/-- In a well-formed history the search finds the published version. -/
theorem WellFormed.find_published {versions : List CardSettingsVersion}
    (formed : WellFormed versions) {old preview : CardSettingsVersion}
    (member : old ∈ versions) (published : old.status = .published)
    (same : SameCard old preview) :
    findCurrentPublishedVersion versions preview.cardId preview.tenantId =
      some old := by
  cases search : findCurrentPublishedVersion versions preview.cardId
    preview.tenantId with
  | none =>
      have rejected := List.find?_eq_none.mp search old member
      simp [published, same.1, same.2] at rejected
  | some found =>
      rcases findCurrentPublishedVersion_eq_some search with
        ⟨foundMember, foundPublished, card, tenant⟩
      rw [formed.onePublished found foundMember old member foundPublished
        published ⟨card.trans same.1.symm, tenant.trans same.2.symm⟩]

section History

variable {platform : Platform} {input : PublishSettingsVersionInput}
  {result : SettingsPublishResult}

/-- The ids that a publication generates are not in use. -/
structure FreshIds (platform : Platform)
    (input : PublishSettingsVersionInput) : Prop where
  preview : input.sourceVersion.status = .draft →
    (previewVersion platform input).versionId ∉
      input.existingVersions.map (·.versionId)
  published : isPublishable (previewVersion platform input) = true →
    (newPublished platform input).versionId ∉
      (previewVersion platform input :: input.existingVersions).map
        (·.versionId)

/-- The existing versions with the id of the preview are the preview itself,
and there is none when the preview is refused. -/
def Joins (platform : Platform) (input : PublishSettingsVersionInput) : Prop :=
  ∀ old ∈ input.existingVersions,
    old.versionId = (previewVersion platform input).versionId →
    old = previewVersion platform input ∧
      isPublishable (previewVersion platform input) = true

theorem previewVersion_status
    (source : isPreviewable input.sourceVersion.status = true) :
    (previewVersion platform input).status = .preview := by
  unfold previewVersion
  by_cases draft : input.sourceVersion.status = .draft
  · rw [if_pos draft]
    rfl
  · rw [if_neg draft]
    simpa [isPreviewable, draft] using source

/-- Only drafts and previews pass the checks. -/
theorem isPreviewable_of_isPublishable {version : CardSettingsVersion}
    (publishable : isPublishable version = true) :
    isPreviewable version.status = true := by
  unfold isPublishable at publishable
  cases validated : validateSettingsForPublish version with
  | error failure =>
      rw [validated] at publishable
      exact nomatch publishable
  | ok validation =>
      rw [validated] at publishable
      unfold validateSettingsForPublish at validated
      rcases bind_eq_ok.mp validated with ⟨profile, _, branded⟩
      rcases bind_eq_ok.mp branded with ⟨brand, _, called⟩
      rcases bind_eq_ok.mp called with ⟨primaryCta, _, made⟩
      rw [← Except.ok.inj made] at publishable
      have passed := List.all_eq_true.mp publishable (statusCheck version)
        List.mem_cons_self
      simpa [isBlocked, statusCheck] using passed

theorem Succeeds.preview_status (succeeds : Succeeds platform input result) :
    (previewVersion platform input).status = .preview := by
  have previewable := isPreviewable_of_isPublishable succeeds.valid
  unfold previewVersion at previewable ⊢
  by_cases draft : input.sourceVersion.status = .draft
  · rw [if_pos draft]
    rfl
  · rw [if_neg draft] at previewable ⊢
    simpa [isPreviewable, draft] using previewable

theorem Succeeds.mem_versions (succeeds : Succeeds platform input result)
    {version : CardSettingsVersion} :
    version ∈ result.versions ↔
      version ∈ retainedVersions input.existingVersions
          (previousPublished platform input) (previewVersion platform input) ∨
        version = previewVersion platform input ∨
        archivedVersion platform input = some version ∨
        version = newPublished platform input := by
  rw [succeeds.versions]
  simp

/-- The published versions of the new list. -/
theorem Succeeds.published_of_mem (succeeds : Succeeds platform input result)
    (formed : WellFormed input.existingVersions)
    (preview : (previewVersion platform input).status = .preview)
    {version : CardSettingsVersion} (member : version ∈ result.versions)
    (published : version.status = .published) :
    version = newPublished platform input ∨
      version ∈ input.existingVersions ∧
        ¬SameCard version (newPublished platform input) := by
  rcases succeeds.mem_versions.mp member with
    retained | isPreview | archived | isNew
  · rcases mem_retainedVersions.mp retained with ⟨existing, replaced, _⟩
    refine Or.inr ⟨existing, fun same => ?_⟩
    have found : previousPublished platform input = some version :=
      formed.find_published existing published same
    exact replaced version found rfl
  · rw [isPreview, preview] at published
    exact nomatch published
  · rcases Option.map_eq_some_iff.mp archived with ⟨old, _, archive⟩
    rw [← archive] at published
    exact nomatch published
  · exact Or.inl isNew

/-- The version published before is none with the id of the preview. -/
theorem Joins.previous_ne (joins : Joins platform input)
    (preview : (previewVersion platform input).status = .preview)
    {old : CardSettingsVersion}
    (found : previousPublished platform input = some old) :
    old.versionId ≠ (previewVersion platform input).versionId := by
  intro same
  rcases findCurrentPublishedVersion_eq_some found with
    ⟨member, published, _⟩
  rw [(joins old member same).1, preview] at published
  exact nomatch published

theorem nodup_replacements (joins : Joins platform input)
    (new : (newPublished platform input).versionId ∉
      (previewVersion platform input :: input.existingVersions).map
        (·.versionId))
    (preview : (previewVersion platform input).status = .preview) :
    ((previewVersion platform input ::
      ((archivedVersion platform input).toList ++
        [newPublished platform input])).map (·.versionId)).Nodup := by
  rw [List.map_cons, List.mem_cons, not_or] at new
  cases found : previousPublished platform input with
  | none =>
      simp [archivedVersion, found, Ne.symm new.1]
  | some old =>
      have member := (findCurrentPublishedVersion_eq_some found).1
      have oldPreview := joins.previous_ne preview found
      have oldNew : old.versionId ≠ (newPublished platform input).versionId :=
        fun same => new.2 (same ▸ List.mem_map_of_mem member)
      simp [archivedVersion, found, archiveOf, Ne.symm new.1,
        Ne.symm oldPreview, oldNew]

theorem retained_ne_replacement
    (new : (newPublished platform input).versionId ∉
      (previewVersion platform input :: input.existingVersions).map
        (·.versionId))
    {retained replacement : CardSettingsVersion}
    (kept : retained ∈ retainedVersions input.existingVersions
      (previousPublished platform input) (previewVersion platform input))
    (member : replacement ∈ previewVersion platform input ::
      ((archivedVersion platform input).toList ++
        [newPublished platform input])) :
    retained.versionId ≠ replacement.versionId := by
  rcases mem_retainedVersions.mp kept with ⟨existing, replaced, isPreview⟩
  rcases List.mem_cons.mp member with same | tail
  · rw [same]
    exact isPreview
  · rcases List.mem_append.mp tail with archived | isNew
    · rcases Option.map_eq_some_iff.mp (Option.mem_toList.mp archived) with
        ⟨old, found, archive⟩
      rw [← archive]
      exact replaced old found
    · rw [List.mem_singleton.mp isNew]
      intro same
      exact new <| List.mem_cons_of_mem _ (same ▸ List.mem_map_of_mem existing)

theorem Succeeds.distinct (succeeds : Succeeds platform input result)
    (formed : WellFormed input.existingVersions)
    (preview : (previewVersion platform input).status = .preview)
    (new : (newPublished platform input).versionId ∉
      (previewVersion platform input :: input.existingVersions).map
        (·.versionId))
    (joins : Joins platform input) :
    (result.versions.map (·.versionId)).Nodup := by
  rw [succeeds.versions, List.map_append, List.nodup_append]
  refine ⟨formed.distinct.sublist (List.filter_sublist.map _),
    nodup_replacements joins new preview, ?_⟩
  intro retainedId retained replacementId replacement
  rcases List.mem_map.mp retained with ⟨version, kept, id⟩
  rcases List.mem_map.mp replacement with ⟨other, member, otherId⟩
  rw [← id, ← otherId]
  exact retained_ne_replacement new kept member

theorem Succeeds.replaces (succeeds : Succeeds platform input result)
    (formed : WellFormed input.existingVersions)
    (preview : (previewVersion platform input).status = .preview)
    (joins : Joins platform input) :
    Replaces input.existingVersions result.versions
      (newPublished platform input) where
  member := succeeds.mem_versions.mpr (Or.inr (Or.inr (Or.inr rfl)))
  status := rfl
  only other member published same :=
    (succeeds.published_of_mem formed preview member published).resolve_right
      fun existing => existing.2 same
  archived old member published same := by
    have found : previousPublished platform input = some old :=
      formed.find_published member published same
    refine ⟨archiveOf (input.context platform) old, ?_, rfl, rfl, rfl⟩
    exact succeeds.mem_versions.mpr
      (Or.inr (Or.inr (Or.inl (Option.map_eq_some_iff.mpr ⟨old, found, rfl⟩))))
  unchanged old member kept := by
    by_cases same : old.versionId = (previewVersion platform input).versionId
    · exact succeeds.mem_versions.mpr (Or.inr (Or.inl (joins old member same).1))
    · refine succeeds.mem_versions.mpr (Or.inl ?_)
      refine mem_retainedVersions.mpr ⟨member, fun previous found id => ?_, same⟩
      rcases findCurrentPublishedVersion_eq_some found with
        ⟨previousMember, published, card, tenant⟩
      have equal := formed.eq_of_versionId member previousMember id
      rw [equal] at kept
      exact kept ⟨published, card, tenant⟩

theorem Succeeds.keepsHistory (succeeds : Succeeds platform input result)
    (formed : WellFormed input.existingVersions)
    (preview : (previewVersion platform input).status = .preview)
    (fresh : FreshIds platform input) (joins : Joins platform input) :
    KeepsHistory input.existingVersions result where
  formed := by
    refine ⟨succeeds.distinct formed preview
      (fresh.published succeeds.valid) joins, ?_⟩
    intro left leftMember right rightMember leftPublished rightPublished same
    rcases succeeds.published_of_mem formed preview leftMember leftPublished
      with leftNew | leftOld
    · rcases succeeds.published_of_mem formed preview rightMember
        rightPublished with rightNew | rightOld
      · exact leftNew.trans rightNew.symm
      · rw [leftNew] at same
        exact absurd ⟨same.1.symm, same.2.symm⟩ rightOld.2
    · rcases succeeds.published_of_mem formed preview rightMember
        rightPublished with rightNew | rightOld
      · rw [rightNew] at same
        exact absurd same leftOld.2
      · exact formed.onePublished left leftOld.1 right rightOld.1
          leftPublished rightPublished same
  succeeded _ :=
    ⟨newPublished platform input, succeeds.published,
      succeeds.replaces formed preview joins⟩
  failed refused := by
    rw [succeeds.ok] at refused
    exact nomatch refused

theorem Succeeds.joins (succeeds : Succeeds platform input result)
    (preview : (previewVersion platform input).status = .preview)
    (keeps : KeepsHistory input.existingVersions result) :
    Joins platform input := by
  intro old member same
  refine ⟨?_, succeeds.valid⟩
  have previewMember : previewVersion platform input ∈ result.versions :=
    succeeds.mem_versions.mpr (Or.inr (Or.inl rfl))
  rcases keeps.succeeded succeeds.ok with ⟨published, _, replaces⟩
  by_cases replaced : old.status = .published ∧ SameCard old published
  · rcases replaces.archived old member replaced.1 replaced.2 with
      ⟨archived, archivedMember, status, id, _⟩
    have equal := keeps.formed.eq_of_versionId archivedMember previewMember
      (id.trans same)
    rw [equal, preview] at status
    exact nomatch status
  · exact keeps.formed.eq_of_versionId (replaces.unchanged old member replaced)
      previewMember same

theorem Fails.keepsHistory (fails : Fails platform input result)
    (formed : WellFormed input.existingVersions)
    (preview : (previewVersion platform input).status = .preview)
    (joins : Joins platform input) :
    KeepsHistory input.existingVersions result := by
  have absent : ∀ old ∈ input.existingVersions,
      old.versionId ≠ (previewVersion platform input).versionId := by
    intro old member same
    have valid := (joins old member same).2
    rw [fails.invalid] at valid
    exact nomatch valid
  have existingOf : ∀ version ∈ result.versions,
      version.status = .published → version ∈ input.existingVersions := by
    intro version member published
    rw [fails.versions] at member
    refine (List.mem_append.mp member).resolve_right fun isPreview => ?_
    rw [List.mem_singleton.mp isPreview, preview] at published
    exact nomatch published
  refine ⟨⟨?_, ?_⟩, fun ok => ?_, fun _ => Or.inr ⟨_, ?_, fails.versions⟩⟩
  · rw [fails.versions, List.map_append, List.nodup_append]
    refine ⟨formed.distinct, List.nodup_singleton _, ?_⟩
    intro id existing previewId isPreview
    rcases List.mem_map.mp existing with ⟨old, member, same⟩
    rw [List.mem_singleton.mp isPreview, ← same]
    exact absent old member
  · exact fun left leftMember right rightMember leftPublished rightPublished =>
      formed.onePublished left (existingOf left leftMember leftPublished)
        right (existingOf right rightMember rightPublished)
        leftPublished rightPublished
  · rw [fails.ok] at ok
    exact nomatch ok
  · rw [preview]
    exact nofun

theorem Fails.joins (fails : Fails platform input result)
    (keeps : KeepsHistory input.existingVersions result) :
    Joins platform input := by
  intro old member same
  have distinct := keeps.formed.distinct
  rw [fails.versions, List.map_append, List.nodup_append] at distinct
  exact absurd same <| distinct.2.2 _ (List.mem_map_of_mem member) _
    (List.mem_singleton_self _)

/-- A draft gets a new id when it is made a preview. -/
theorem joins_iff (fresh : FreshIds platform input) :
    Joins platform input ↔
      input.sourceVersion.status = .draft ∨
        ∀ old ∈ input.existingVersions,
          old.versionId = input.sourceVersion.versionId →
          old = input.sourceVersion ∧
            isPublishable input.sourceVersion = true := by
  by_cases draft : input.sourceVersion.status = .draft
  · refine ⟨fun _ => Or.inl draft, fun _ old member same => ?_⟩
    exact absurd (same ▸ List.mem_map_of_mem member) (fresh.preview draft)
  · have preview : previewVersion platform input = input.sourceVersion :=
      if_neg draft
    simp only [Joins, preview, draft, false_or]

end History

/-! ## A card -/

def jsonObject (fields : List (String × Json)) : Json :=
  .object (fields.map fun field => (js field.1, field.2))

def jsonText (value : String) : Json :=
  .string (js value)

def cardAction (label type destination : String) : Json :=
  jsonObject
    [("label", jsonText label), ("type", jsonText type),
      ("destination", jsonText destination), ("visible", .boolean true)]

def cardBrandProfile : Json :=
  jsonObject
    [("tenantId", jsonText "tenant-1"), ("companyName", jsonText "Company"),
      ("logoAssetId", jsonText "logo"), ("faviconAssetId", jsonText "mark"),
      ("primaryColor", jsonText "#d4af37"), ("secondaryColor", jsonText "#2b2b2b"),
      ("accentColor", jsonText "#d4af37"), ("backgroundColor", jsonText "#000000"),
      ("textColor", jsonText "#ffffff"), ("fontFamily", jsonText "Inter"),
      ("buttonRadius", jsonText "0.5rem"), ("cardRadius", jsonText "0.75rem"),
      ("motionIntensity", jsonText "standard"), ("contrastMode", jsonText "standard"),
      ("createdAt", jsonText "2026-07-08T13:00:00.000Z"),
      ("updatedAt", jsonText "2026-07-08T13:00:00.000Z")]

def cardBrandTokens : Json :=
  jsonObject
    [("tenantId", jsonText "tenant-1"),
      ("sourceBrandProfileId", jsonText "tenant-1:tenant-brand-profile"),
      ("colors", jsonObject
        [("primary", jsonText "#d4af37"), ("secondary", jsonText "#2b2b2b"),
          ("accent", jsonText "#d4af37"), ("background", jsonText "#000000"),
          ("surface", jsonText "#2b2b2b"), ("text", jsonText "#ffffff"),
          ("mutedText", jsonText "#9a9a9a"), ("actionPrimary", jsonText "#d4af37"),
          ("actionText", jsonText "#000000"), ("focus", jsonText "#d4af37")]),
      ("typography", jsonObject
        [("fontFamily", jsonText "Inter"), ("displayFont", jsonText "Inter"),
          ("bodyFont", jsonText "Inter")]),
      ("radius", jsonObject
        [("buttonRadius", jsonText "0.5rem"), ("cardRadius", jsonText "0.75rem")]),
      ("motion", jsonObject
        [("intensity", jsonText "standard"), ("durationToken", jsonText "200ms")]),
      ("accessibility", jsonObject
        [("contrastMode", jsonText "standard"),
          ("textOnBackgroundContrast", .number (.integer 21)),
          ("actionContrast", .number (.integer 10)),
          ("minimumContrastRatio", .number (.integer 4)),
          ("fallbackApplied", .boolean false), ("wcagLevel", jsonText "AA")]),
      ("warnings", .array []), ("resolverVersion", jsonText "2"),
      ("snapshotHash", jsonText "token-snapshot"),
      ("createdAt", jsonText "2026-07-08T13:00:00.000Z")]

def cardProfile (executiveName : String) : Json :=
  jsonObject
    [("cardId", jsonText "card-1"), ("tenantId", jsonText "tenant-1"),
      ("executiveName", jsonText executiveName), ("title", jsonText "Founder"),
      ("company", jsonText "Company"), ("bio", jsonText "Executive identity."),
      ("profileImageAssetId", jsonText "avatar"), ("phone", jsonText "+13025550100"),
      ("email", jsonText "contact@example.com"),
      ("website", jsonText "https://example.com"),
      ("calendarUrl", jsonText "https://example.com/calendar"),
      ("location", jsonText "Dover"), ("socialLinks", .array []),
      ("primaryCTA", cardAction "Call" "call" "tel:+13025550100"),
      ("secondaryCTA",
        cardAction "Email" "email" "mailto:contact@example.com"),
      ("qrDestinationMode", jsonText "card_profile"),
      ("publishedVersion", .null), ("draftVersion", .null),
      ("status", jsonText "draft")]

def cardReceptionist : Json :=
  jsonObject
    [("tenantId", jsonText "tenant-1"), ("enabled", .boolean true),
      ("defaultLanguage", jsonText "English"),
      ("supportedLanguages", .array [jsonText "English", jsonText "Spanish"]),
      ("voiceProfile", jsonText "professional"), ("mood", jsonText "confident"),
      ("greetingMode", jsonText "standard"),
      ("standardGreeting", jsonText "Welcome."), ("customGreeting", .null),
      ("fallbackBehavior", jsonText "queue_callback"),
      ("callRoutingRules", .array []),
      ("appointmentRules", jsonObject
        [("enabled", .boolean true), ("calendarUrl", .null),
          ("timezone", jsonText "America/New_York"),
          ("allowedWindows", .array [jsonText "weekday-business-hours"]),
          ("requireHumanApproval", .boolean true)]),
      ("afterHoursBehavior", jsonText "queue_next_business_day"),
      ("escalationContacts", .array []),
      ("consentDisclosure", jsonText "This receptionist may route a request."),
      ("recordingPolicy", jsonText "transcript_only")]

/-- A version of the card's settings, with the hash it is stored with. -/
def cardVersion (versionId executiveName : String) (snapshotHash : JsString)
    (status : CardSettingsVersionStatus) : CardSettingsVersion where
  versionId := js versionId
  cardId := js "card-1"
  tenantId := js "tenant-1"
  settingsSnapshot :=
    { brandProfile := cardBrandProfile
      resolvedBrandTokens := cardBrandTokens
      cardProfile := cardProfile executiveName
      receptionistSettings := cardReceptionist
      snapshotHash := snapshotHash
      generatedAt := js "2026-07-08T13:00:00.000Z" }
  createdBy := js "author"
  createdAt := js "2026-07-08T13:00:00.000Z"
  status := status
  snapshotHash := snapshotHash
  immutable := false
  previousVersionId := none

def cardPublication (source : CardSettingsVersion)
    (existing : List CardSettingsVersion) : PublishSettingsVersionInput where
  actor := none
  actorId := js "publisher"
  existingVersions := existing
  publishedAt := some (js "2026-07-08T14:00:00.000Z")
  sourceVersion := source

def blankPreview : CardSettingsVersion :=
  cardVersion "version-1" "" [] .preview

/-- A draft, while an earlier version is published. -/
def draftPublication : PublishSettingsVersionInput :=
  cardPublication (cardVersion "version-2" "Name" [] .draft)
    [cardVersion "version-1" "Name" [] .published]

theorem wellFormed_singleton (version : CardSettingsVersion) :
    WellFormed [version] := by
  refine ⟨List.nodup_singleton _, ?_⟩
  intro left leftMember right rightMember _ _ _
  rw [List.mem_singleton.mp leftMember, List.mem_singleton.mp rightMember]

/-! ## Where the history stays well formed -/

theorem publishSettingsVersion_keepsHistory_iff {platform : Platform}
    {input : PublishSettingsVersionInput} {result : SettingsPublishResult}
    (formed : WellFormed input.existingVersions)
    (source : isPreviewable input.sourceVersion.status = true)
    (fresh : FreshIds platform input)
    (returned : publishSettingsVersion platform input = .ok result) :
    KeepsHistory input.existingVersions result ↔
      input.sourceVersion.status = .draft ∨
        ∀ old ∈ input.existingVersions,
          old.versionId = input.sourceVersion.versionId →
          old = input.sourceVersion ∧
            isPublishable input.sourceVersion = true := by
  rw [← joins_iff fresh]
  have preview : (previewVersion platform input).status = .preview :=
    previewVersion_status source
  rcases publish_cases platform input returned with succeeds | fails
  · exact ⟨succeeds.joins preview, succeeds.keepsHistory formed preview fresh⟩
  · exact ⟨fails.joins, fails.keepsHistory formed preview⟩

/-- The preview with a blank name is refused, and the list has it twice. -/
theorem blankPreview_duplicated :
    ∃ result,
      WellFormed [blankPreview] ∧
        isPreviewable blankPreview.status = true ∧
        FreshIds codeUnitPlatform
          (cardPublication blankPreview [blankPreview]) ∧
        publishSettingsVersion codeUnitPlatform
          (cardPublication blankPreview [blankPreview]) = .ok result ∧
        ¬KeepsHistory [blankPreview] result := by
  have refused : isPublishable blankPreview = false := by
    decide +kernel
  have succeeds : (publishSettingsVersion codeUnitPlatform
      (cardPublication blankPreview [blankPreview])).isOk = true := by
    decide +kernel
  rcases isOk_iff.mp succeeds with ⟨result, returned⟩
  refine ⟨result, wellFormed_singleton _, rfl, ⟨nofun, fun valid => ?_⟩,
    returned, ?_⟩
  · exact nomatch refused.symm.trans valid
  · intro keeps
    rcases publish_cases _ _ returned with published | fails
    · exact nomatch refused.symm.trans published.valid
    · have joined := fails.joins keeps _ List.mem_cons_self rfl
      exact nomatch refused.symm.trans joined.2

theorem publishSettingsVersion_keepsHistory_iff_draft :
    ∃ result,
      publishSettingsVersion codeUnitPlatform draftPublication = .ok result ∧
        KeepsHistory draftPublication.existingVersions result := by
  have succeeds : (publishSettingsVersion codeUnitPlatform
      draftPublication).isOk = true := by
    decide +kernel
  have fresh : FreshIds codeUnitPlatform draftPublication :=
    ⟨fun _ => by decide +kernel, fun _ => by decide +kernel⟩
  rcases isOk_iff.mp succeeds with ⟨result, returned⟩
  refine ⟨result, returned, ?_⟩
  exact (publishSettingsVersion_keepsHistory_iff (wellFormed_singleton _)
    rfl fresh returned).mpr (Or.inl rfl)

end BidayaxExecutive.Settings
