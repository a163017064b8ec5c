import BidayaxExecutive.Settings.PersistenceService

/-!
# The stored versions and the published ones

After a publication has been persisted the store has a row for every version of
the result.  The rows are those versions themselves only where the database
would have written what the publication wrote: archiving leaves creator and time
of a row as they are, and a version that is there already is not written again.
-/

namespace BidayaxExecutive.Settings

open BidayaxExecutive.Runtime JsString
open BidayaxExecutive.Library.Tables
open BidayaxExecutive.Library.Transactions
open BidayaxExecutive.Library.Scripts Script

/-! ## What saving does to the rows -/

section Saving

variable {database : Database} {store final : Store}

/-- A version is there already, with its hash and status, or it is added. -/
def SavesVersion (database : Database) (version : CardSettingsVersion)
    (rows final : List CardSettingsVersion) : Prop :=
  (final = rows ∧ ∃ old ∈ rows, old.versionId = version.versionId ∧
      SameCard old version ∧ old.status = version.status) ∨
    (∀ old ∈ rows, old.versionId ≠ version.versionId) ∧
      ∃ createdAt, database.timestamptz version.createdAt = some createdAt ∧
        final = rows ++ [{ version with createdAt }]

def SavesVersions (database : Database) :
    List CardSettingsVersion → List CardSettingsVersion →
      List CardSettingsVersion → Prop
  | [], rows, final => final = rows
  | version :: rest, rows, final =>
      ∃ middle, SavesVersion database version rows middle ∧
        SavesVersions database rest middle final

theorem SavesVersion.isPrefix {version : CardSettingsVersion}
    {rows final : List CardSettingsVersion}
    (saves : SavesVersion database version rows final) : rows <+: final := by
  rcases saves with ⟨same, _⟩ | ⟨_, createdAt, _, added⟩
  · rw [same]
  · rw [added]
    exact List.prefix_append _ _

theorem SavesVersions.isPrefix {versions rows final : List CardSettingsVersion}
    (saves : SavesVersions database versions rows final) : rows <+: final := by
  induction versions generalizing rows with
  | nil =>
      rw [saves]
  | cons version rest inductionHypothesis =>
      rcases saves with ⟨middle, savesFirst, savesRest⟩
      exact savesFirst.isPrefix.trans (inductionHypothesis savesRest)

theorem savesVersions_append {first second rows final :
      List CardSettingsVersion} :
    SavesVersions database (first ++ second) rows final ↔
      ∃ middle, SavesVersions database first rows middle ∧
        SavesVersions database second middle final := by
  induction first generalizing rows with
  | nil =>
      simp [SavesVersions]
  | cons version rest inductionHypothesis =>
      simp only [List.cons_append, SavesVersions, inductionHypothesis]
      constructor
      · rintro ⟨between, saves, middle, savesRest, savesSecond⟩
        exact ⟨middle, ⟨between, saves, savesRest⟩, savesSecond⟩
      · rintro ⟨middle, ⟨between, saves, savesRest⟩, savesSecond⟩
        exact ⟨between, saves, middle, savesRest, savesSecond⟩

/-- Versions that are there already change nothing. -/
theorem SavesVersions.eq_of_present {versions rows final :
      List CardSettingsVersion}
    (present : ∀ version ∈ versions, ∃ old ∈ rows,
      old.versionId = version.versionId)
    (saves : SavesVersions database versions rows final) : final = rows := by
  induction versions with
  | nil =>
      exact saves
  | cons version rest inductionHypothesis =>
      rcases saves with ⟨middle, savesFirst, savesRest⟩
      rcases present version List.mem_cons_self with ⟨old, member, same⟩
      rcases savesFirst with ⟨unchanged, _⟩ | ⟨absent, _⟩
      · rw [unchanged] at savesRest
        exact inductionHypothesis (fun later laterMember =>
          present later (List.mem_cons_of_mem _ laterMember)) savesRest
      · exact absurd same (absent old member)

theorem savesVersion_of_yields {version existing : CardSettingsVersion}
    (yields : Yields (saveCardSettingsVersion database version) store existing
      final) :
    SavesVersion database version store.versions.1 final.versions.1 := by
  rcases yields_saveRow.mp yields with ⟨row, rows, stored, saved, rfl⟩
  unfold storedVersion at stored
  by_cases takes : (store.owns version.tenantId version.cardId &&
      database.storesVersion version) = true
  · rw [if_pos takes] at stored
    rcases Option.map_eq_some_iff.mp stored with ⟨createdAt, time, rfl⟩
    have agrees := Table.agrees_of_save saved
    rcases Table.save_eq_ok.mp saved with ⟨_, same, found⟩
    have visible := List.find?_some found
    simp only [versionTable, Bool.and_eq_true, beq_iff_eq] at agrees visible
    by_cases taken : versionTable.Taken (versionPart.rows store).1
        { version with createdAt }
    · rw [Table.after_of_taken taken] at same
      have member := List.mem_of_find?_eq_some found
      rw [same] at member
      exact Or.inl ⟨same, existing, member, visible.2,
        ⟨visible.1.2, visible.1.1⟩, agrees.2⟩
    · rw [Table.after_of_free taken] at same
      refine Or.inr ⟨fun old member sameId => ?_, createdAt, time, same⟩
      exact taken ⟨old, member, beq_iff_eq.mpr sameId⟩
  · rw [if_neg takes] at stored
    exact nomatch stored

theorem savesVersions_of_yields {archivedVersionId : Option JsString}
    {versions : List CardSettingsVersion} {savedIds : List JsString}
    (yields : Yields (saveVersions database archivedVersionId versions).run
      store savedIds final) :
    SavesVersions database
      (versions.filter (archivedVersionId ≠ some ·.versionId))
      store.versions.1 final.versions.1 := by
  induction versions generalizing store savedIds with
  | nil =>
      rw [(yields_pure.mp yields).2]
      rfl
  | cons version rest inductionHypothesis =>
      unfold saveVersions at yields
      by_cases skipped : archivedVersionId = some version.versionId
      · rw [if_pos skipped] at yields
        rw [List.filter_cons_of_neg (by simpa using skipped)]
        exact inductionHypothesis yields
      · rw [if_neg skipped] at yields
        rw [List.filter_cons_of_pos (by simpa using skipped)]
        simp only [run_bind, yields_bind, run_perform] at yields
        rcases yields with ⟨existing, middle, saved, restIds, last, savedRest,
          finished⟩
        rw [(yields_pure.mp finished).2] at savedRest
        exact ⟨middle.versions.1, savesVersion_of_yields saved,
          inductionHypothesis savedRest⟩

/-- Audit events and the lock leave the versions alone. -/
theorem versions_of_saveAuditEvents {events : List SettingsAuditEvent}
    {result : Unit}
    (yields : Yields (saveAuditEvents database events).run store result
      final) :
    final.versions = store.versions := by
  induction events generalizing store with
  | nil =>
      rw [(yields_pure.mp yields).2]
  | cons event rest inductionHypothesis =>
      simp only [saveAuditEvents, run_bind, yields_bind, run_perform] at yields
      rcases yields with ⟨existing, middle, saved, savedRest⟩
      rcases yields_saveRow.mp saved with ⟨row, rows, _, _, rfl⟩
      have unchanged := inductionHypothesis savedRest
      exact unchanged

theorem store_of_lockPublishTarget {target : Option CardSettingsVersion}
    {result : Unit}
    (yields : Yields (lockPublishTarget target).run store result final) :
    final = store := by
  cases target with
  | none =>
      exact (yields_pure.mp yields).2.symm
  | some version =>
      simp only [lockPublishTarget, run_bind, yields_bind, run_perform]
        at yields
      rcases yields with ⟨locked, middle, lock, checked⟩
      have unchanged : middle = store := (congrArg Prod.snd lock).symm
      rw [← unchanged]
      cases locked with
      | true =>
          exact (yields_pure.mp checked).2.symm
      | false =>
          exact nomatch congrArg Prod.fst checked

/-- A row after the previous version is archived. -/
def rowAfterArchive (archivedVersion : Option CardSettingsVersion)
    (row : CardSettingsVersion) : CardSettingsVersion :=
  match archivedVersion with
  | none => row
  | some version => archivedRow version row

def rowsAfterArchive (publishResult : SettingsPublishResult) (store : Store) :
    List CardSettingsVersion :=
  store.versions.1.map (rowAfterArchive publishResult.archivedVersion)

theorem versions_of_archivePrevious {archivedVersion : Option CardSettingsVersion}
    {archivedIds : List JsString}
    (yields : Yields (archivePrevious archivedVersion).run store archivedIds
      final) :
    final.versions.1 =
      store.versions.1.map (rowAfterArchive archivedVersion) := by
  cases archivedVersion with
  | none =>
      rw [(yields_pure.mp yields).2]
      exact (List.map_id _).symm
  | some version =>
      simp only [archivePrevious, run_bind, yields_bind, run_perform] at yields
      rcases yields with ⟨archived, middle, update, finished⟩
      rw [← (yields_pure.mp finished).2]
      rcases yields_archiveCardSettingsVersion.mp update with
        ⟨row, _, _, _, rfl⟩
      rfl

theorem savesVersions_of_persist {publishResult : SettingsPublishResult}
    {persisted : PersistSettingsPublishResult}
    (yields : Yields (persistSettingsPublishResult database publishResult).run
      store persisted final) :
    SavesVersions database
      (publishResult.versions.filter
        (publishResult.archivedVersion.map (·.versionId) ≠ some ·.versionId))
      (rowsAfterArchive publishResult store) final.versions.1 := by
  simp only [persistSettingsPublishResult, persistSettingsAuditEvents, run_bind,
    yields_bind] at yields
  rcases yields with ⟨_, locked, lock, archivedIds, archived, archive,
    savedIds, saved, saves, eventCount, counted,
    ⟨_, audited, events, count⟩, finished⟩
  rw [← (yields_pure.mp finished).2, ← (yields_pure.mp count).2,
    versions_of_saveAuditEvents events,
    ← store_of_lockPublishTarget lock, rowsAfterArchive,
    ← versions_of_archivePrevious archive]
  exact savesVersions_of_yields saves

end Saving

/-! ## Rows after archiving -/

theorem rowAfterArchive_id (archivedVersion : Option CardSettingsVersion)
    (row : CardSettingsVersion) :
    (rowAfterArchive archivedVersion row).versionId = row.versionId := by
  cases archivedVersion with
  | none =>
      rfl
  | some version =>
      exact archivedRow_versionId version row

theorem rowAfterArchive_sameCard (archivedVersion : Option CardSettingsVersion)
    (row other : CardSettingsVersion) :
    SameCard (rowAfterArchive archivedVersion row) other ↔
      SameCard row other := by
  cases archivedVersion with
  | none =>
      rfl
  | some version =>
      unfold rowAfterArchive archivedRow
      by_cases archivable : isArchivable version row = true
      · simp only [archivable, if_true, SameCard]
      · simp only [archivable, if_false, Bool.false_eq_true]

theorem rowAfterArchive_eq_or (archivedVersion : Option CardSettingsVersion)
    (row : CardSettingsVersion) :
    rowAfterArchive archivedVersion row = row ∨
      (rowAfterArchive archivedVersion row).status = .archived := by
  cases archivedVersion with
  | none =>
      exact Or.inl rfl
  | some version =>
      by_cases archivable : isArchivable version row = true
      · exact Or.inr (congrArg CardSettingsVersion.status
          (if_pos archivable))
      · exact Or.inl (if_neg archivable)

/-- The row of the version published before. -/
theorem rowAfterArchive_archiveOf (context : SettingsVersionActorContext)
    {row : CardSettingsVersion} (published : row.status = .published) :
    rowAfterArchive (some (archiveOf context row)) row =
      { row with status := .archived, immutable := true } := by
  have archivable : isArchivable (archiveOf context row) row = true := by
    simp [isArchivable, archiveOf, published]
  exact if_pos archivable

theorem rowAfterArchive_of_ne (context : SettingsVersionActorContext)
    {old row : CardSettingsVersion} (different : row.versionId ≠ old.versionId) :
    rowAfterArchive (some (archiveOf context old)) row = row := by
  have archivable : ¬isArchivable (archiveOf context old) row = true := by
    simp [isArchivable, archiveOf, different]
  exact if_neg archivable

/-! ## A persisted publication -/

/-- A publication over the rows of its card, and the rows after it has been
persisted. -/
structure Persisted (database : Database) (platform : Platform)
    (input : PublishSettingsVersionInput) (result : SettingsPublishResult)
    (store final : Store) : Prop where
  succeeds : Succeeds platform input result
  rows : (listCardSettingsVersions input.sourceVersion.tenantId
    input.sourceVersion.cardId store).Perm input.existingVersions
  saves : SavesVersions database
    (result.versions.filter
      (result.archivedVersion.map (·.versionId) ≠ some ·.versionId))
    (rowsAfterArchive result store)
    final.versions.1

/-- Where the database writes what the publication wrote. -/
structure Agrees (database : Database) (platform : Platform)
    (input : PublishSettingsVersionInput) : Prop where
  time : database.timestamptz (input.context platform).createdAt =
    some (input.context platform).createdAt
  archived : ∀ old ∈ input.existingVersions, old.status = .published →
    old.createdAt = (input.context platform).createdAt ∧
      old.createdBy = (input.context platform).actorId ∧
      old.versionId ≠ (newPublished platform input).versionId
  joined : ∀ old ∈ input.existingVersions,
    old.versionId = (previewVersion platform input).versionId →
    old = previewVersion platform input
  added : (∀ old ∈ input.existingVersions,
      old.versionId ≠ (previewVersion platform input).versionId) →
    database.timestamptz (previewVersion platform input).createdAt =
      some (previewVersion platform input).createdAt

theorem sameCard_previewVersion (platform : Platform)
    (input : PublishSettingsVersionInput) :
    SameCard (previewVersion platform input) input.sourceVersion := by
  unfold previewVersion
  by_cases draft : input.sourceVersion.status = .draft
  · rw [if_pos draft]
    exact ⟨rfl, rfl⟩
  · rw [if_neg draft]
    exact ⟨rfl, rfl⟩

theorem WellFormed.of_perm {rows versions : List CardSettingsVersion}
    (formed : WellFormed rows) {keep : CardSettingsVersion → Bool}
    (perm : (rows.filter keep).Perm versions) : WellFormed versions := by
  have old : ∀ version ∈ versions, version ∈ rows :=
    fun version member => List.mem_of_mem_filter (perm.mem_iff.mpr member)
  constructor
  · exact (perm.map _).nodup_iff.mp
      (formed.distinct.sublist (List.filter_sublist.map _))
  · intro left leftMember right rightMember
    exact formed.onePublished left (old left leftMember) right
      (old right rightMember)

section Refinement

variable {database : Database} {platform : Platform}
  {input : PublishSettingsVersionInput} {result : SettingsPublishResult}
  {store final : Store}

namespace Persisted

theorem formed (persisted : Persisted database platform input result store
    final) : WellFormed input.existingVersions :=
  store.versions.2.of_perm persisted.rows

theorem mem_existing (persisted : Persisted database platform input result
    store final) {version : CardSettingsVersion} :
    version ∈ input.existingVersions ↔ version ∈ store.versions.1 ∧
      SameCard version (previewVersion platform input) := by
  have card := sameCard_previewVersion platform input
  rw [← persisted.rows.mem_iff, listCardSettingsVersions, List.mem_filter]
  simp only [Bool.and_eq_true, beq_iff_eq, SameCard, card.1, card.2]
  tauto

/-- The row of an existing version. -/
theorem mem_rows (persisted : Persisted database platform input result store
    final) {old : CardSettingsVersion} (member : old ∈ input.existingVersions) :
    rowAfterArchive result.archivedVersion old ∈
      rowsAfterArchive result store :=
  List.mem_map_of_mem (persisted.mem_existing.mp member).1

theorem existing_of_row (persisted : Persisted database platform input result
    store final) {row : CardSettingsVersion}
    (member : row ∈ rowsAfterArchive result store)
    (same : SameCard row (previewVersion platform input)) :
    ∃ old ∈ input.existingVersions,
      row = rowAfterArchive result.archivedVersion old := by
  rcases List.mem_map.mp member with ⟨old, stored, rfl⟩
  rw [rowAfterArchive_sameCard] at same
  exact ⟨old, persisted.mem_existing.mpr ⟨stored, same⟩, rfl⟩

/-- No row of the card is published any more. -/
theorem not_published (persisted : Persisted database platform input result
    store final) {row : CardSettingsVersion}
    (member : row ∈ rowsAfterArchive result store)
    (same : SameCard row (previewVersion platform input)) :
    row.status ≠ .published := by
  intro published
  rcases persisted.existing_of_row member same with ⟨old, existing, rfl⟩
  rcases rowAfterArchive_eq_or result.archivedVersion old with
    unchanged | archived
  · rw [unchanged] at published same
    have found : previousPublished platform input = some old :=
      persisted.formed.find_published existing published same
    have archivedVersion : result.archivedVersion =
        some (archiveOf (input.context platform) old) := by
      rw [persisted.succeeds.archived, archivedVersion, found]
      rfl
    rw [archivedVersion, rowAfterArchive_archiveOf _ published] at unchanged
    rw [← unchanged] at published
    cases published
  · rw [archived] at published
    cases published

/-- The version has the id of the archived one, and is not saved. -/
def Skips (platform : Platform) (input : PublishSettingsVersionInput)
    (version : CardSettingsVersion) : Prop :=
  ∃ old, previousPublished platform input = some old ∧
    old.versionId = version.versionId

def SavesUnlessSkipped (database : Database) (platform : Platform)
    (input : PublishSettingsVersionInput) (version : CardSettingsVersion)
    (rows later : List CardSettingsVersion) : Prop :=
  (Skips platform input version ∧ later = rows) ∨
    ¬Skips platform input version ∧ SavesVersion database version rows later

theorem skips_iff (persisted : Persisted database platform input result store
    final) {version : CardSettingsVersion} :
    Skips platform input version ↔
      result.archivedVersion.map (·.versionId) = some version.versionId := by
  rw [persisted.succeeds.archived, archivedVersion, Option.map_map,
    Option.map_eq_some_iff]
  rfl

theorem saves_singleton (persisted : Persisted database platform input result
    store final) {version : CardSettingsVersion}
    {rows later : List CardSettingsVersion}
    (saves : SavesVersions database
      ([version].filter
        (result.archivedVersion.map (·.versionId) ≠ some ·.versionId))
      rows later) :
    SavesUnlessSkipped database platform input version rows later := by
  by_cases skips : Skips platform input version
  · rw [List.filter_cons_of_neg
      (by simpa using persisted.skips_iff.mp skips)] at saves
    exact Or.inl ⟨skips, saves⟩
  · have kept := mt persisted.skips_iff.mpr skips
    rw [List.filter_cons_of_pos (by simpa using kept)] at saves
    rcases saves with ⟨middle, savesFirst, same⟩
    rw [← same] at savesFirst
    exact Or.inr ⟨skips, savesFirst⟩

/-- The versions there are already change nothing; then the preview and the
published version are saved, unless one of them has the archived id. -/
theorem course (persisted : Persisted database platform input result store
    final) :
    ∃ middle,
      SavesUnlessSkipped database platform input
          (previewVersion platform input) (rowsAfterArchive result store)
          middle ∧
        SavesUnlessSkipped database platform input
          (newPublished platform input) middle final.versions.1 := by
  have saves := persisted.saves
  have archivedOnly : result.archivedVersion.toList.filter
      (result.archivedVersion.map (·.versionId) ≠ some ·.versionId) = [] := by
    cases result.archivedVersion with
    | none =>
        rfl
    | some version =>
        simp
  rw [persisted.succeeds.versions, ← persisted.succeeds.archived,
    List.filter_append, ← List.singleton_append, List.filter_append,
    List.filter_append, archivedOnly, List.nil_append,
    savesVersions_append] at saves
  rcases saves with ⟨afterRetained, retained, rest⟩
  rcases savesVersions_append.mp rest with ⟨middle, first, second⟩
  have unchanged := retained.eq_of_present (by
    intro version member
    have kept := mem_retainedVersions.mp (List.mem_of_mem_filter member)
    exact ⟨_, persisted.mem_rows kept.1, rowAfterArchive_id _ _⟩)
  rw [unchanged] at first
  exact ⟨middle, persisted.saves_singleton first,
    persisted.saves_singleton second⟩

theorem skips_existing {version : CardSettingsVersion}
    (skips : Skips platform input version) :
    ∃ old ∈ input.existingVersions, old.status = .published ∧
      old.versionId = version.versionId ∧
      previousPublished platform input = some old := by
  rcases skips with ⟨old, found, same⟩
  have published := findCurrentPublishedVersion_eq_some found
  exact ⟨old, published.1, published.2.1, same, found⟩

/-- A saved preview is there with its id on the card, or it is new. -/
theorem preview_saved (persisted : Persisted database platform input result
    store final) {middle : List CardSettingsVersion}
    (saves : SavesVersion database (previewVersion platform input)
      (rowsAfterArchive result store) middle) :
    (middle = rowsAfterArchive result store ∧
        ∃ old ∈ input.existingVersions,
          old.versionId = (previewVersion platform input).versionId) ∨
      (∀ old ∈ input.existingVersions,
          old.versionId ≠ (previewVersion platform input).versionId) ∧
        ∃ createdAt,
          database.timestamptz (previewVersion platform input).createdAt =
            some createdAt ∧
          middle = rowsAfterArchive result store ++
            [{ previewVersion platform input with createdAt }] := by
  rcases saves with ⟨unchanged, row, member, same, card, _⟩ |
    ⟨absent, createdAt, time, added⟩
  · rcases persisted.existing_of_row member card with ⟨old, existing, rfl⟩
    rw [rowAfterArchive_id] at same
    exact Or.inl ⟨unchanged, old, existing, same⟩
  · refine Or.inr ⟨fun old existing same => ?_, createdAt, time, added⟩
    refine absent _ (persisted.mem_rows existing) ?_
    rw [rowAfterArchive_id]
    exact same

/-- No row that is there when the published version is saved is published. -/
theorem middle_not_published (persisted : Persisted database platform input
    result store final) {middle : List CardSettingsVersion}
    (saves : SavesUnlessSkipped database platform input
      (previewVersion platform input) (rowsAfterArchive result store) middle)
    {row : CardSettingsVersion} (member : row ∈ middle)
    (same : SameCard row (previewVersion platform input)) :
    row.status ≠ .published := by
  rcases saves with ⟨_, unchanged⟩ | ⟨_, saves⟩
  · rw [unchanged] at member
    exact persisted.not_published member same
  · rcases saves with ⟨unchanged, _⟩ | ⟨_, createdAt, _, added⟩
    · rw [unchanged] at member
      exact persisted.not_published member same
    · rw [added] at member
      rcases List.mem_append.mp member with old | new
      · exact persisted.not_published old same
      · rw [List.mem_singleton.mp new]
        exact persisted.succeeds.preview_status.symm ▸ nofun

/-! ## When the rows are the versions -/

/-- A row and a version of the result with one id are the same. -/
theorem row_eq
    (perm : (listCardSettingsVersions input.sourceVersion.tenantId
      input.sourceVersion.cardId final).Perm result.versions)
    {row version : CardSettingsVersion} (rowMember : row ∈ final.versions.1)
    (member : version ∈ result.versions)
    (same : row.versionId = version.versionId) : row = version :=
  final.versions.2.eq_of_versionId rowMember
    (List.mem_of_mem_filter (perm.mem_iff.mpr member)) same

theorem SavesUnlessSkipped.isPrefix {version : CardSettingsVersion}
    {rows later : List CardSettingsVersion}
    (saves : SavesUnlessSkipped database platform input version rows later) :
    rows <+: later := by
  rcases saves with ⟨_, same⟩ | ⟨_, saves⟩
  · rw [same]
  · exact saves.isPrefix

theorem rows_prefix (persisted : Persisted database platform input result
    store final) : rowsAfterArchive result store <+: final.versions.1 := by
  rcases persisted.course with ⟨middle, previewSaves, publishedSaves⟩
  exact previewSaves.isPrefix.trans publishedSaves.isPrefix

theorem preview_mem (persisted : Persisted database platform input result
    store final) : previewVersion platform input ∈ result.versions :=
  persisted.succeeds.mem_versions.mpr (Or.inr (Or.inl rfl))

theorem newPublished_mem (persisted : Persisted database platform input result
    store final) : newPublished platform input ∈ result.versions :=
  persisted.succeeds.mem_versions.mpr (Or.inr (Or.inr (Or.inr rfl)))

/-- The row and the version of what was published before. -/
theorem archived_mem (persisted : Persisted database platform input result
    store final) {old : CardSettingsVersion}
    (member : old ∈ input.existingVersions)
    (published : old.status = .published) :
    { old with status := .archived, immutable := true } ∈ final.versions.1 ∧
      archiveOf (input.context platform) old ∈ result.versions := by
  have found : previousPublished platform input = some old :=
    persisted.formed.find_published member published
      (persisted.mem_existing.mp member).2
  have archivedIs : archivedVersion platform input =
      some (archiveOf (input.context platform) old) := by
    rw [archivedVersion, found]
    rfl
  have row := persisted.rows_prefix.subset (persisted.mem_rows member)
  rw [persisted.succeeds.archived, archivedIs,
    rowAfterArchive_archiveOf _ published] at row
  exact ⟨row, persisted.succeeds.mem_versions.mpr
    (Or.inr (Or.inr (Or.inl archivedIs)))⟩

section Equal

variable (persisted : Persisted database platform input result store final)
  (perm : (listCardSettingsVersions input.sourceVersion.tenantId
    input.sourceVersion.cardId final).Perm result.versions)

include persisted perm

theorem time_of_perm :
    database.timestamptz (input.context platform).createdAt =
      some (input.context platform).createdAt := by
  rcases persisted.course with ⟨middle, previewSaves, publishedSaves⟩
  rcases publishedSaves with ⟨skips, _⟩ | ⟨_, saves⟩
  · rcases skips_existing skips with ⟨old, member, published, same, _⟩
    have row := (persisted.archived_mem member published).1
    exact nomatch congrArg CardSettingsVersion.status
      (row_eq perm row persisted.newPublished_mem same)
  · rcases saves with ⟨_, row, member, _, card, status⟩ |
      ⟨_, createdAt, time, added⟩
    · exact absurd status
        (persisted.middle_not_published previewSaves member card)
    · have row : { newPublished platform input with createdAt } ∈
          final.versions.1 := by
        rw [added]
        exact List.mem_append_right _ (List.mem_singleton_self _)
      have same := congrArg CardSettingsVersion.createdAt
        (row_eq perm row persisted.newPublished_mem rfl)
      exact time.trans (congrArg some same)

theorem archived_of_perm {old : CardSettingsVersion}
    (member : old ∈ input.existingVersions)
    (published : old.status = .published) :
    old.createdAt = (input.context platform).createdAt ∧
      old.createdBy = (input.context platform).actorId ∧
      old.versionId ≠ (newPublished platform input).versionId := by
  have archived := persisted.archived_mem member published
  have same := row_eq perm archived.1 archived.2 rfl
  refine ⟨congrArg CardSettingsVersion.createdAt same,
    congrArg CardSettingsVersion.createdBy same, fun isNew => ?_⟩
  exact nomatch congrArg CardSettingsVersion.status
    (row_eq perm archived.1 persisted.newPublished_mem isNew)

theorem joined_of_perm {old : CardSettingsVersion}
    (member : old ∈ input.existingVersions)
    (same : old.versionId = (previewVersion platform input).versionId) :
    old = previewVersion platform input := by
  have row := persisted.rows_prefix.subset (persisted.mem_rows member)
  have isPreview := row_eq perm row persisted.preview_mem
    ((rowAfterArchive_id _ _).trans same)
  rcases rowAfterArchive_eq_or result.archivedVersion old with
    unchanged | archived
  · exact unchanged.symm.trans isPreview
  · rw [isPreview, persisted.succeeds.preview_status] at archived
    exact nomatch archived

theorem added_of_perm
    (absent : ∀ old ∈ input.existingVersions,
      old.versionId ≠ (previewVersion platform input).versionId) :
    database.timestamptz (previewVersion platform input).createdAt =
      some (previewVersion platform input).createdAt := by
  rcases persisted.course with ⟨middle, previewSaves, publishedSaves⟩
  rcases previewSaves with ⟨skips, _⟩ | ⟨_, saves⟩
  · rcases skips_existing skips with ⟨old, member, _, same, _⟩
    exact absurd same (absent old member)
  · rcases persisted.preview_saved saves with ⟨_, old, member, same⟩ |
      ⟨_, createdAt, time, added⟩
    · exact absurd same (absent old member)
    · have row : { previewVersion platform input with createdAt } ∈
          final.versions.1 := by
        refine publishedSaves.isPrefix.subset ?_
        rw [added]
        exact List.mem_append_right _ (List.mem_singleton_self _)
      have same := congrArg CardSettingsVersion.createdAt
        (row_eq perm row persisted.preview_mem rfl)
      exact time.trans (congrArg some same)

theorem agrees_of_perm : Agrees database platform input where
  time := persisted.time_of_perm perm
  archived _ member published := persisted.archived_of_perm perm member published
  joined _ member same := persisted.joined_of_perm perm member same
  added absent := persisted.added_of_perm perm absent

end Equal

/-- Every existing version is the archived one, or its row is itself. -/
theorem row_of_agrees (persisted : Persisted database platform input result
    store final) (agrees : Agrees database platform input)
    {old : CardSettingsVersion} (member : old ∈ input.existingVersions) :
    (archivedVersion platform input =
          some (rowAfterArchive result.archivedVersion old)) ∨
      (∀ previous, previousPublished platform input = some previous →
          old.versionId ≠ previous.versionId) ∧
        rowAfterArchive result.archivedVersion old = old := by
  rw [persisted.succeeds.archived]
  unfold archivedVersion
  cases found : previousPublished platform input with
  | none =>
      exact Or.inr ⟨nofun, rfl⟩
  | some previous =>
      rcases findCurrentPublishedVersion_eq_some found with
        ⟨previousMember, published, _⟩
      by_cases same : old.versionId = previous.versionId
      · have isPrevious : old = previous :=
          persisted.formed.eq_of_versionId member previousMember same
        have written := agrees.archived previous previousMember published
        have row := rowAfterArchive_archiveOf (input.context platform)
          published
        rw [isPrevious]
        refine Or.inl (congrArg some (Eq.trans ?_ row.symm))
        simp only [archiveOf, ← written.1, ← written.2.1]
      · refine Or.inr ⟨fun other isOther => ?_, rowAfterArchive_of_ne _ same⟩
        rw [← Option.some.inj isOther]
        exact same

theorem not_skips_preview (persisted : Persisted database platform input
    result store final) (agrees : Agrees database platform input) :
    ¬Skips platform input (previewVersion platform input) := by
  intro skips
  rcases skips_existing skips with ⟨old, member, published, same, _⟩
  rw [agrees.joined old member same, persisted.succeeds.preview_status]
    at published
  exact nomatch published

theorem not_skips_published (agrees : Agrees database platform input) :
    ¬Skips platform input (newPublished platform input) := by
  intro skips
  rcases skips_existing skips with ⟨old, member, published, same, _⟩
  exact (agrees.archived old member published).2.2 same

/-- The rows before the published version is saved. -/
theorem mem_middle (persisted : Persisted database platform input result store
    final) (agrees : Agrees database platform input)
    {middle : List CardSettingsVersion}
    (saves : SavesVersion database (previewVersion platform input)
      (rowsAfterArchive result store) middle) {row : CardSettingsVersion} :
    row ∈ middle ↔ row ∈ rowsAfterArchive result store ∨
      row = previewVersion platform input := by
  rcases persisted.preview_saved saves with ⟨unchanged, old, member, same⟩ |
    ⟨absent, createdAt, time, added⟩
  · have isPreview := agrees.joined old member same
    have kept : rowAfterArchive result.archivedVersion old = old := by
      rcases rowAfterArchive_eq_or result.archivedVersion old with
        unchanged | archived
      · exact unchanged
      · rcases persisted.row_of_agrees agrees member with isArchived | kept
        · rcases Option.map_eq_some_iff.mp isArchived with
            ⟨previous, found, archive⟩
          have sameId := congrArg CardSettingsVersion.versionId archive
          rw [rowAfterArchive_id] at sameId
          exact absurd ⟨previous, found, sameId.trans same⟩
            (persisted.not_skips_preview agrees)
        · exact kept.2
    have present := persisted.mem_rows member
    rw [kept, isPreview] at present
    rw [unchanged]
    constructor
    · exact Or.inl
    · rintro (old | rfl)
      · exact old
      · exact present
  · have sameTime := Option.some.inj (time.symm.trans (agrees.added absent))
    rw [added, sameTime, List.mem_append, List.mem_singleton]

/-- The rows of the card but the published version. -/
theorem mem_replaced (persisted : Persisted database platform input result
    store final) (agrees : Agrees database platform input)
    (version : CardSettingsVersion) :
    (version ∈ rowsAfterArchive result store ∧
          SameCard version (previewVersion platform input) ∨
        version = previewVersion platform input) ↔
      version ∈ retainedVersions input.existingVersions
          (previousPublished platform input) (previewVersion platform input) ∨
        version = previewVersion platform input ∨
        archivedVersion platform input = some version := by
  constructor
  · rintro (⟨row, same⟩ | isPreview)
    · rcases persisted.existing_of_row row same with ⟨old, member, rfl⟩
      rcases persisted.row_of_agrees agrees member with archived | ⟨other, kept⟩
      · exact Or.inr (Or.inr archived)
      · rw [kept]
        by_cases sameId : old.versionId =
            (previewVersion platform input).versionId
        · exact Or.inr (Or.inl (agrees.joined old member sameId))
        · exact Or.inl (mem_retainedVersions.mpr ⟨member, other, sameId⟩)
    · exact Or.inr (Or.inl isPreview)
  · rintro (retained | isPreview | archived)
    · rcases mem_retainedVersions.mp retained with ⟨member, other, _⟩
      rcases persisted.row_of_agrees agrees member with archived | ⟨_, kept⟩
      · rcases Option.map_eq_some_iff.mp archived with
          ⟨previous, found, archive⟩
        have sameId := congrArg CardSettingsVersion.versionId archive
        rw [rowAfterArchive_id] at sameId
        exact absurd sameId.symm (other previous found)
      · have row := persisted.mem_rows member
        rw [kept] at row
        exact Or.inl ⟨row, (persisted.mem_existing.mp member).2⟩
    · exact Or.inr isPreview
    · rcases Option.map_eq_some_iff.mp archived with ⟨previous, found, _⟩
      have member := (findCurrentPublishedVersion_eq_some found).1
      rcases persisted.row_of_agrees agrees member with isArchived | ⟨other, _⟩
      · rw [archived] at isArchived
        rw [Option.some.inj isArchived, rowAfterArchive_sameCard]
        exact Or.inl ⟨persisted.mem_rows member,
          (persisted.mem_existing.mp member).2⟩
      · exact absurd rfl (other previous found)

/-- The preview is there, and the published version is new. -/
theorem rows_of_agrees (persisted : Persisted database platform input result
    store final) (agrees : Agrees database platform input) :
    (∀ row, row ∈ final.versions.1 ↔ row ∈ rowsAfterArchive result store ∨
        row = previewVersion platform input ∨
        row = newPublished platform input) ∧
      (newPublished platform input).versionId ∉
        (previewVersion platform input :: input.existingVersions).map
          (·.versionId) := by
  rcases persisted.course with ⟨middle, previewSaves, publishedSaves⟩
  have saves := (previewSaves.resolve_left fun skipped =>
    persisted.not_skips_preview agrees skipped.1).2
  have memMiddle : ∀ row, row ∈ middle ↔ row ∈ rowsAfterArchive result store ∨
      row = previewVersion platform input :=
    fun _ => persisted.mem_middle agrees saves
  rcases (publishedSaves.resolve_left fun skipped =>
      not_skips_published agrees skipped.1).2 with
    ⟨_, row, member, _, same, published⟩ | ⟨absent, createdAt, time, added⟩
  · exact absurd published
      (persisted.middle_not_published previewSaves member same)
  have sameTime := Option.some.inj (time.symm.trans agrees.time)
  have isNew : { newPublished platform input with createdAt } =
      newPublished platform input := by
    rw [sameTime]
    rfl
  constructor
  · intro row
    rw [added, isNew, List.mem_append, memMiddle, List.mem_singleton, or_assoc]
  · intro used
    rcases List.mem_map.mp used with ⟨version, member, same⟩
    rcases List.mem_cons.mp member with isPreview | existing
    · exact absent version ((memMiddle _).mpr (Or.inr isPreview)) same
    · exact absent _ ((memMiddle _).mpr (Or.inl (persisted.mem_rows existing)))
        ((rowAfterArchive_id _ _).trans same)

theorem mem_listed (persisted : Persisted database platform input result store
    final) (agrees : Agrees database platform input)
    (version : CardSettingsVersion) :
    version ∈ listCardSettingsVersions input.sourceVersion.tenantId
        input.sourceVersion.cardId final ↔ version ∈ result.versions := by
  have card := sameCard_previewVersion platform input
  have onCard : ((version.tenantId == input.sourceVersion.tenantId &&
      version.cardId == input.sourceVersion.cardId) = true) ↔
        SameCard version (previewVersion platform input) := by
    simp only [Bool.and_eq_true, beq_iff_eq, SameCard, card.1, card.2]
    exact and_comm
  have previewCard : version = previewVersion platform input →
      SameCard version (previewVersion platform input) :=
    fun same => same ▸ ⟨rfl, rfl⟩
  have newCard : version = newPublished platform input →
      SameCard version (previewVersion platform input) :=
    fun same => same ▸ ⟨rfl, rfl⟩
  calc
    version ∈ listCardSettingsVersions input.sourceVersion.tenantId
        input.sourceVersion.cardId final
      ↔ (version ∈ rowsAfterArchive result store ∨
            version = previewVersion platform input ∨
            version = newPublished platform input) ∧
          SameCard version (previewVersion platform input) := by
        rw [listCardSettingsVersions, List.mem_filter, onCard,
          (persisted.rows_of_agrees agrees).1]
    _ ↔ (version ∈ rowsAfterArchive result store ∧
            SameCard version (previewVersion platform input) ∨
          version = previewVersion platform input) ∨
          version = newPublished platform input := by
        rw [or_and_right, or_and_right, and_iff_left_of_imp previewCard,
          and_iff_left_of_imp newCard, or_assoc]
    _ ↔ version ∈ result.versions := by
        rw [persisted.mem_replaced agrees, persisted.succeeds.mem_versions,
          or_assoc, or_assoc]

theorem perm_of_agrees (persisted : Persisted database platform input result
    store final) (agrees : Agrees database platform input) :
    (listCardSettingsVersions input.sourceVersion.tenantId
      input.sourceVersion.cardId final).Perm result.versions := by
  have joins : Joins platform input := fun old member same =>
    ⟨agrees.joined old member same, persisted.succeeds.valid⟩
  have distinct := persisted.succeeds.distinct persisted.formed
    persisted.succeeds.preview_status (persisted.rows_of_agrees agrees).2 joins
  refine (List.perm_ext_iff_of_nodup ?_ distinct.of_map).mpr
    (persisted.mem_listed agrees)
  exact final.versions.2.distinct.of_map.filter _

end Persisted

end Refinement

theorem persistSettingsPublishResult_refines_iff {database : Database}
    {platform : Platform} {input : PublishSettingsVersionInput}
    {result : SettingsPublishResult} {store final : Store}
    {persisted : PersistSettingsPublishResult}
    (rows : (listCardSettingsVersions input.sourceVersion.tenantId
      input.sourceVersion.cardId store).Perm input.existingVersions)
    (returned : publishSettingsVersion platform input = .ok result)
    (ok : result.ok = true)
    (persists : Yields (persistSettingsPublishResult database result).run store
      persisted final) :
    (listCardSettingsVersions input.sourceVersion.tenantId
        input.sourceVersion.cardId final).Perm result.versions ↔
      Agrees database platform input := by
  have succeeds : Succeeds platform input result := by
    refine (publish_cases platform input returned).resolve_right fun fails => ?_
    exact nomatch fails.ok.symm.trans ok
  have publication : Persisted database platform input result store final :=
    ⟨succeeds, rows, savesVersions_of_persist persists⟩
  exact ⟨publication.agrees_of_perm, publication.perm_of_agrees⟩

/-- A database that reads back every text as it was written. -/
def plainDatabase : Database where
  timestamptz := some
  storesVersion _ := true
  storesAuditEvent _ := true
  storesRecord _ := true

/-- The card with the given versions. -/
def cardStore (versions : versionTable.Rows) : Store where
  cards := [(js "card-1", js "tenant-1")]
  versions := versions
  auditEvents := ⟨[], List.nodup_nil⟩
  idempotencyKeys := ⟨[], List.nodup_nil⟩

def publishedStore : Store :=
  cardStore ⟨[cardVersion "version-1" "Name" [] .published],
    wellFormed_singleton _⟩

/-- Whether a publication succeeds and is persisted. -/
def persistsPublication (input : PublishSettingsVersionInput) (store : Store) :
    Bool :=
  match publishSettingsVersion codeUnitPlatform input with
  | .ok result => result.ok &&
      ((persistSettingsPublishResult plainDatabase result).run store).1.isOk
  | .error _ => false

theorem exists_of_persistsPublication {input : PublishSettingsVersionInput}
    {store : Store} (persists : persistsPublication input store = true) :
    ∃ result persisted final,
      publishSettingsVersion codeUnitPlatform input = .ok result ∧
        result.ok = true ∧
        Yields (persistSettingsPublishResult plainDatabase result).run store
          persisted final := by
  unfold persistsPublication at persists
  cases returned : publishSettingsVersion codeUnitPlatform input with
  | error failure =>
      rw [returned] at persists
      exact nomatch persists
  | ok result =>
      rw [returned] at persists
      rcases (Bool.and_eq_true _ _ ▸ persists) with ⟨ok, succeeds⟩
      rcases Library.Guards.isOk_iff.mp succeeds with ⟨persisted, answer⟩
      exact ⟨result, persisted, _, rfl, ok, Prod.ext answer rfl⟩

/-- The row of the archived version has another creator and time. -/
theorem archivedVersion_not_refined :
    ∃ result persisted final,
      listCardSettingsVersions (js "tenant-1") (js "card-1") publishedStore =
          draftPublication.existingVersions ∧
        publishSettingsVersion codeUnitPlatform draftPublication =
          .ok result ∧
        result.ok = true ∧
        Yields (persistSettingsPublishResult plainDatabase result).run
          publishedStore persisted final ∧
        ¬(listCardSettingsVersions (js "tenant-1") (js "card-1") final).Perm
          result.versions := by
  have persists : persistsPublication draftPublication publishedStore =
      true := by
    decide +kernel
  rcases exists_of_persistsPublication persists with
    ⟨result, persisted, final, returned, ok, yields⟩
  refine ⟨result, persisted, final, rfl, returned, ok, yields, fun perm => ?_⟩
  have succeeds : Succeeds codeUnitPlatform draftPublication result := by
    refine (publish_cases _ _ returned).resolve_right fun fails => ?_
    exact nomatch fails.ok.symm.trans ok
  have publication : Persisted plainDatabase codeUnitPlatform draftPublication
      result publishedStore final :=
    ⟨succeeds, List.Perm.refl _, savesVersions_of_persist yields⟩
  have written := publication.archived_of_perm perm List.mem_cons_self rfl
  exact absurd written.1 (by decide)

/-- A version that was published by the same publisher at the same instant. -/
def samePublished : CardSettingsVersion :=
  { cardVersion "version-1" "Name" [] .published with
    createdBy := js "publisher"
    createdAt := js "2026-07-08T14:00:00.000Z" }

def followingPublication : PublishSettingsVersionInput :=
  cardPublication (cardVersion "version-2" "Name" [] .draft) [samePublished]

def samePublishedStore : Store :=
  cardStore ⟨[samePublished], wellFormed_singleton _⟩

theorem persistSettingsPublishResult_refines_iff_following :
    ∃ result persisted final,
      publishSettingsVersion codeUnitPlatform followingPublication =
          .ok result ∧
        Yields (persistSettingsPublishResult plainDatabase result).run
          samePublishedStore persisted final ∧
        (listCardSettingsVersions (js "tenant-1") (js "card-1") final).Perm
          result.versions := by
  have persists : persistsPublication followingPublication
      samePublishedStore = true := by
    decide +kernel
  rcases exists_of_persistsPublication persists with
    ⟨result, persisted, final, returned, ok, yields⟩
  have apart : samePublished.versionId ≠
      (newPublished codeUnitPlatform followingPublication).versionId ∧
      samePublished.versionId ≠
        (previewVersion codeUnitPlatform followingPublication).versionId := by
    decide +kernel
  have agrees : Agrees plainDatabase codeUnitPlatform
      followingPublication := by
    refine ⟨rfl, fun old member _ => ?_, fun old member same => ?_,
      fun _ => rfl⟩
    · rw [List.mem_singleton.mp member]
      exact ⟨rfl, rfl, apart.1⟩
    · rw [List.mem_singleton.mp member] at same
      exact absurd same apart.2
  refine ⟨result, persisted, final, returned, yields, ?_⟩
  exact (persistSettingsPublishResult_refines_iff (List.Perm.refl _) returned
    ok yields).mpr agrees

end BidayaxExecutive.Settings
