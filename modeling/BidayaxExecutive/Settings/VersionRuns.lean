import BidayaxExecutive.Library.KeyedRows
import BidayaxExecutive.Library.Schedules
import BidayaxExecutive.Settings.IdempotentPublish

/-!
# Settings versions over runs of publications

Any number of publications persist their results at a time, in any order of
their queries, and each may stop anywhere.  A stored version is never lost and
never changes, but that a published one is archived, once and for all.
-/

namespace BidayaxExecutive.Settings

open BidayaxExecutive.Library.KeyedRows
open BidayaxExecutive.Library.Schedules
open BidayaxExecutive.Library.Scripts Script
open BidayaxExecutive.Library.Tables
open BidayaxExecutive.Library.Transactions
open BidayaxExecutive.Runtime

/-! ## Two rows of one version -/

/-- The row is the same, or it was published and is archived. -/
def VersionFollows (old new : CardSettingsVersion) : Prop :=
  new = old ∨ old.status = .published ∧
    new = { old with status := .archived, immutable := true }

theorem versionFollows_refl (row : CardSettingsVersion) :
    VersionFollows row row :=
  .inl rfl

theorem versionFollows_trans (first second third : CardSettingsVersion)
    (follows : VersionFollows first second)
    (next : VersionFollows second third) : VersionFollows first third := by
  rcases follows with rfl | ⟨published, rfl⟩
  · exact next
  · rcases next with rfl | ⟨again, _⟩
    · exact .inr ⟨published, rfl⟩
    · exact nomatch again

theorem versionFollows_archivedRow (version row : CardSettingsVersion) :
    VersionFollows row (archivedRow version row) := by
  unfold archivedRow
  by_cases archivable : isArchivable version row = true
  · rw [if_pos archivable]
    simp only [isArchivable, Bool.and_eq_true, beq_iff_eq] at archivable
    exact .inr ⟨archivable.1.2, rfl⟩
  · rw [if_neg archivable]
    exact versionFollows_refl row

/-! ## Two stores of one run -/

/-- Every version that a row comes after is stored. -/
def PreviousStored (versions : List CardSettingsVersion) : Prop :=
  ∀ row ∈ versions, ∀ previous ∈ row.previousVersionId,
    ∃ other ∈ versions, other.versionId = previous

/-- What a run of publications keeps. -/
structure StoreKept (before after : Store) : Prop where
  cards : after.cards = before.cards
  versions : Evolves CardSettingsVersion.versionId VersionFollows
    before.versions.1 after.versions.1
  previous : PreviousStored before.versions.1 →
    PreviousStored after.versions.1
  auditEvents : before.auditEvents.1 <+: after.auditEvents.1
  idempotencyKeys : before.idempotencyKeys.1 <+: after.idempotencyKeys.1

namespace StoreKept

variable {before middle after : Store}

theorem refl (store : Store) : StoreKept store store where
  cards := rfl
  versions := .refl versionFollows_refl store.versions.2.distinct
  previous := id
  auditEvents := List.prefix_rfl
  idempotencyKeys := List.prefix_rfl

theorem trans (first : StoreKept before middle)
    (second : StoreKept middle after) : StoreKept before after where
  cards := second.cards.trans first.cards
  versions := first.versions.trans versionFollows_trans second.versions
  previous := second.previous ∘ first.previous
  auditEvents := first.auditEvents.trans second.auditEvents
  idempotencyKeys := first.idempotencyKeys.trans second.idempotencyKeys

end StoreKept

/-! ## The operations -/

/-- Saving adds a row under a new key, or nothing. -/
theorem saveRow_grows {Row : Type} {table : Table Row} (part : Part table)
    (stored : Store → Option Row) (conflict : JsString) (store : Store) :
    (saveRow part stored conflict store).2 = store ∨
      ∃ row changed, ¬table.Taken (part.rows store).1 row ∧
        table.allowed (part.rows store).1 row = true ∧
        changed.1 = (part.rows store).1 ++ [row] ∧
        (saveRow part stored conflict store).2 =
          part.withRows store changed := by
  unfold saveRow
  cases stored store with
  | none =>
      exact .inl rfl
  | some row =>
      cases saved : table.save (SettingsError.conflict conflict) .refused
          (part.rows store) row with
      | error failure =>
          simp only [saved]
          exact .inl trivial
      | ok result =>
          rcases result with ⟨existing, changed⟩
          simp only [saved]
          rcases Table.save_eq_ok.mp saved with ⟨accepts, isAfter, _⟩
          by_cases taken : table.Taken (part.rows store).1 row
          · rw [Table.after_of_taken taken] at isAfter
            rw [Subtype.ext isAfter, part.withRows_rows]
            exact .inl rfl
          · rw [Table.after_of_free taken] at isAfter
            rw [Table.accepts_of_free taken] at accepts
            exact .inr ⟨row, changed, taken, accepts, isAfter, rfl⟩

theorem previousStored_insert {rows : List CardSettingsVersion}
    {version : CardSettingsVersion} (stored : PreviousStored rows)
    (allowed : versionAllowed rows version = true) :
    PreviousStored (rows ++ [version]) := by
  intro row member previous isPrevious
  rcases List.mem_append.mp member with wasThere | isNew
  · rcases stored row wasThere previous isPrevious with ⟨other, found, same⟩
    exact ⟨other, List.mem_append_left _ found, same⟩
  · rw [List.mem_singleton.mp isNew] at isPrevious
    simp only [versionAllowed, Bool.and_eq_true,
      Option.mem_def.mp isPrevious, List.any_eq_true, beq_iff_eq] at allowed
    rcases allowed.2 with ⟨other, found, same⟩
    refine ⟨other, ?_, same⟩
    rw [List.mem_append, List.mem_singleton]
    exact (List.mem_cons.mp found).symm

theorem previousStored_archive {rows : List CardSettingsVersion}
    (stored : PreviousStored rows) (version : CardSettingsVersion) :
    PreviousStored (rows.map (archivedRow version)) := by
  intro row member previous isPrevious
  rcases List.mem_map.mp member with ⟨old, wasThere, rfl⟩
  have samePrevious : (archivedRow version old).previousVersionId =
      old.previousVersionId := by
    rcases versionFollows_archivedRow version old with same | ⟨_, same⟩
    · rw [same]
    · rw [same]
  rw [samePrevious] at isPrevious
  rcases stored old wasThere previous isPrevious with ⟨other, found, same⟩
  exact ⟨_, List.mem_map_of_mem found,
    (archivedRow_versionId version other).trans same⟩

/-- What the operation keeps, whether it succeeds or fails. -/
abbrev KeepsStore {α : Type}
    (operation : Transaction Store SettingsError α) : Prop :=
  ∀ store, StoreKept store (operation store).2

section Operations

variable (database : Database)

theorem keepsStore_saveCardSettingsVersion
    (version : CardSettingsVersion) :
    KeepsStore (saveCardSettingsVersion database version) := by
  intro store
  unfold saveCardSettingsVersion
  rcases saveRow_grows versionPart (storedVersion database version)
    (versionConflict version) store with
    same | ⟨row, changed, free, allowed, isChanged, saved⟩
  · rw [same]
    exact .refl store
  · rw [saved]
    have unused : ∀ old ∈ store.versions.1,
        old.versionId ≠ row.versionId := by
      intro old member same
      exact free ⟨old, member, by simpa [versionTable] using same⟩
    refine { StoreKept.refl store with versions := ?_, previous := ?_ }
    · change Evolves _ _ store.versions.1 changed.1
      rw [isChanged]
      exact .insert versionFollows_refl store.versions.2.distinct unused
    · change _ → PreviousStored changed.1
      rw [isChanged]
      exact fun stored => previousStored_insert stored allowed

theorem keepsStore_saveSettingsAuditEvent (event : SettingsAuditEvent) :
    KeepsStore (saveSettingsAuditEvent database event) := by
  intro store
  unfold saveSettingsAuditEvent
  rcases saveRow_grows auditEventPart (storedAuditEvent database event)
    (auditEventConflict event) store with
    same | ⟨row, changed, _, _, isChanged, saved⟩
  · rw [same]
    exact .refl store
  · rw [saved]
    refine { StoreKept.refl store with auditEvents := ?_ }
    change store.auditEvents.1 <+: changed.1
    rw [isChanged]
    exact List.prefix_append _ _

theorem keepsStore_saveSettingsIdempotencyRecord
    (record : SettingsIdempotencyRecord) :
    KeepsStore (saveSettingsIdempotencyRecord database record) := by
  intro store
  have written : (saveSettingsIdempotencyRecord database record store).2 =
      (saveRow idempotencyPart (storedRecord database record)
        (js "Idempotency key " ++ record.idempotencyKey ++
          js " was already used with a different request.") store).2 := by
    unfold saveSettingsIdempotencyRecord
    rw [bind_apply]
    split
    · rename_i saved
      rw [saved]
      rfl
    · rename_i failed
      rw [failed]
  rw [written]
  rcases saveRow_grows idempotencyPart (storedRecord database record)
    (js "Idempotency key " ++ record.idempotencyKey ++
      js " was already used with a different request.") store with
    same | ⟨row, changed, _, _, isChanged, saved⟩
  · rw [same]
    exact .refl store
  · rw [saved]
    refine { StoreKept.refl store with idempotencyKeys := ?_ }
    change store.idempotencyKeys.1 <+: changed.1
    rw [isChanged]
    exact List.prefix_append _ _

theorem keepsStore_archiveCardSettingsVersion
    (version : CardSettingsVersion) :
    KeepsStore (archiveCardSettingsVersion version) := by
  intro store
  unfold archiveCardSettingsVersion
  split
  · exact .refl store
  · split
    · refine { StoreKept.refl store with versions := ?_, previous := ?_ }
      · exact .map store.versions.2.distinct
          (archivedRow_versionId version) (versionFollows_archivedRow version)
      · exact fun stored => previousStored_archive stored version
    · exact .refl store

end Operations

/-! ## The calls -/

/-- Whatever was kept before a step of the script is kept after it. -/
abbrev KeepsStoreThroughout {α : Type} (script : SettingsScript α) :
    Prop :=
  ∀ before, script.Preserves (StoreKept before)

theorem keepsStoreThroughout_perform {α : Type}
    {operation : Transaction Store SettingsError α}
    (keeps : KeepsStore operation) :
    KeepsStoreThroughout (perform operation) :=
  fun _ => preserves_perform fun store kept => kept.trans (keeps store)

theorem keepsStoreThroughout_bind {α β : Type} {first : SettingsScript α}
    {next : α → SettingsScript β} (keeps : KeepsStoreThroughout first)
    (rest : ∀ value, KeepsStoreThroughout (next value)) :
    KeepsStoreThroughout (first >>= next) :=
  fun before => preserves_bind (keeps before) fun value => rest value before

section Calls

variable (database : Database)

theorem keepsStore_lockPublishTarget
    (target : Option CardSettingsVersion) :
    KeepsStoreThroughout (lockPublishTarget target) := by
  unfold lockPublishTarget
  cases target with
  | none =>
      exact fun _ => trivial
  | some version =>
      refine keepsStoreThroughout_bind
        (keepsStoreThroughout_perform .refl) ?_
      intro locked
      cases locked with
      | false =>
          exact fun _ => trivial
      | true =>
          exact fun _ => trivial

theorem keepsStore_archivePrevious
    (archivedVersion : Option CardSettingsVersion) :
    KeepsStoreThroughout (archivePrevious archivedVersion) := by
  cases archivedVersion with
  | none =>
      exact fun _ => trivial
  | some version =>
      exact keepsStoreThroughout_bind
        (keepsStoreThroughout_perform
          (keepsStore_archiveCardSettingsVersion version))
        fun _ _ => trivial

theorem keepsStore_saveVersions (archivedVersionId : Option JsString)
    (versions : List CardSettingsVersion) :
    KeepsStoreThroughout
      (saveVersions database archivedVersionId versions) := by
  induction versions with
  | nil =>
      exact fun _ => trivial
  | cons version rest inductionHypothesis =>
      unfold saveVersions
      by_cases archived : archivedVersionId = some version.versionId
      · rw [if_pos archived]
        exact inductionHypothesis
      · rw [if_neg archived]
        refine keepsStoreThroughout_bind
          (keepsStoreThroughout_perform
            (keepsStore_saveCardSettingsVersion database version))
          fun _ => ?_
        exact keepsStoreThroughout_bind inductionHypothesis
          fun _ _ => trivial

theorem keepsStore_saveAuditEvents (events : List SettingsAuditEvent) :
    KeepsStoreThroughout (saveAuditEvents database events) := by
  induction events with
  | nil =>
      exact fun _ => trivial
  | cons event rest inductionHypothesis =>
      exact keepsStoreThroughout_bind
        (keepsStoreThroughout_perform
          (keepsStore_saveSettingsAuditEvent database event))
        fun _ => inductionHypothesis

theorem keepsStore_persistSettingsPublishResult
    (publishResult : SettingsPublishResult) :
    KeepsStoreThroughout
      (persistSettingsPublishResult database publishResult) := by
  unfold persistSettingsPublishResult
  refine keepsStoreThroughout_bind (keepsStore_lockPublishTarget _)
    fun _ => ?_
  refine keepsStoreThroughout_bind (keepsStore_archivePrevious _)
    fun _ => ?_
  refine keepsStoreThroughout_bind
    (keepsStore_saveVersions database _ _) fun _ => ?_
  refine keepsStoreThroughout_bind ?_ fun _ _ => trivial
  exact keepsStoreThroughout_bind
    (keepsStore_saveAuditEvents database _) fun _ _ => trivial

theorem keepsStore_persistIdempotentSettingsPublishResult
    (input : PersistIdempotentSettingsPublishResultInput) :
    KeepsStoreThroughout
      (persistIdempotentSettingsPublishResult database input) := by
  unfold persistIdempotentSettingsPublishResult
  cases publishTarget input.publishResult with
  | none =>
      exact fun _ => trivial
  | some target =>
      refine keepsStoreThroughout_bind
        (keepsStoreThroughout_perform .refl) fun existing => ?_
      cases existing with
      | some record =>
          exact fun _ => trivial
      | none =>
          refine keepsStoreThroughout_bind
            (keepsStore_persistSettingsPublishResult database _)
            fun _ => ?_
          exact keepsStoreThroughout_bind
            (keepsStoreThroughout_perform
              (keepsStore_saveSettingsIdempotencyRecord database _))
            fun _ _ => trivial

end Calls

/-! ## Runs -/

/-- A call that persists the result of a publication. -/
inductive PersistCall where
  | persist (publishResult : SettingsPublishResult)
  | persistIdempotent (input : PersistIdempotentSettingsPublishResultInput)

def persistScript (database : Database) : PersistCall → SettingsScript Unit
  | .persist publishResult => do
      let _ ← persistSettingsPublishResult database publishResult
      pure ()
  | .persistIdempotent input => do
      let _ ← persistIdempotentSettingsPublishResult database input
      pure ()

theorem keepsStore_persistScript (database : Database)
    (call : PersistCall) :
    KeepsStoreThroughout (persistScript database call) := by
  cases call with
  | persist publishResult =>
      exact keepsStoreThroughout_bind
        (keepsStore_persistSettingsPublishResult database publishResult)
        fun _ _ => trivial
  | persistIdempotent input =>
      exact keepsStoreThroughout_bind
        (keepsStore_persistIdempotentSettingsPublishResult database input)
        fun _ _ => trivial

/-- At any moment of any number of concurrent calls, no version was lost, none
has changed but that it was archived after it was published, a card has one
published version, and the audit events and the records only grew. -/
theorem persistCalls_keepStore (database : Database)
    {calls : List PersistCall} {picks : List Nat}
    {ended : List (SettingsScript Unit)} {store final : Store}
    (picked : pickSteps picks (calls.map (persistScript database)) store =
      some (ended, final)) :
    StoreKept store final ∧ WellFormed final.versions.1 := by
  refine ⟨pickSteps_preserves ?_ (StoreKept.refl store) picked,
    final.versions.2⟩
  intro script member
  rcases List.mem_map.mp member with ⟨call, _, rfl⟩
  exact keepsStore_persistScript database call store

/-- Two calls that both lock the card, of which one archives the version. -/
def racedPicks : List Nat :=
  [0, 1, 0, 1, 0]

def racedCalls (result : SettingsPublishResult) : List PersistCall :=
  [.persist result, .persistIdempotent (publishCall result)]

theorem persistCalls_keepStore_raced :
    ∃ result ended final,
      publishSettingsVersion codeUnitPlatform draftPublication = .ok result ∧
        pickSteps racedPicks
          ((racedCalls result).map (persistScript plainDatabase))
          publishedStore = some (ended, final) ∧
        StoreKept publishedStore final := by
  have picks : ((publishSettingsVersion codeUnitPlatform
      draftPublication).toOption.any fun result =>
        (pickSteps racedPicks
          ((racedCalls result).map (persistScript plainDatabase))
          publishedStore).isSome) = true := by
    decide +kernel
  cases returned : publishSettingsVersion codeUnitPlatform
      draftPublication with
  | error failure =>
      rw [returned] at picks
      exact nomatch picks
  | ok result =>
      rw [returned] at picks
      rcases Option.isSome_iff_exists.mp picks with ⟨⟨ended, final⟩, picked⟩
      exact ⟨result, ended, final, rfl, picked,
        (persistCalls_keepStore plainDatabase picked).1⟩

end BidayaxExecutive.Settings
