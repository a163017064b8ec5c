import BidayaxExecutive.Settings.PublishRefinement

/-!
# Idempotent publishing

Two calls with one idempotency key may both find no record and persist the
publication twice.  Locking the card and saving versions and audit events can
be repeated; archiving the previous version cannot, since the row is not
published any more.  So the two calls agree in every interleaving exactly when
there is a record already, or nothing has to be archived.
-/

namespace BidayaxExecutive.Settings

open BidayaxExecutive.Runtime JsString
open BidayaxExecutive.Library.Tables
open BidayaxExecutive.Library.Transactions
open BidayaxExecutive.Library.Scripts Script
open BidayaxExecutive.Library.IdempotentRequests

/-! ## What can be repeated -/

/-- The record that a call looks for. -/
abbrev recordFor (target : CardSettingsVersion) (idempotencyKey : JsString) :
    Store → Option SettingsIdempotencyRecord :=
  findIdempotencyRecord target.tenantId target.cardId (js "settings.publish")
    idempotencyKey

theorem growth_later : Growth Later where
  refl _ := ⟨rfl, List.prefix_refl _, List.prefix_refl _⟩
  trans first second :=
    ⟨first.cards.trans second.cards, first.versions.trans second.versions,
      first.auditEvents.trans second.auditEvents⟩

section Repeating

variable {database : Database} {target : CardSettingsVersion}
  {idempotencyKey : JsString}

theorem settling_saveRow {Row : Type} {table : Table Row} {part : Part table}
    {stored : Store → Option Row} {conflict : JsString}
    (grows : ∀ {store changed}, (part.rows store).1 <+: changed.1 →
      Later store (part.withRows store changed))
    (rows : ∀ {store later}, Later store later →
      (part.rows store).1 <+: (part.rows later).1)
    (stable : ∀ {store later : Store}, store.cards = later.cards →
      stored store = stored later)
    (keeps : ∀ store changed,
      recordFor target idempotencyKey (part.withRows store changed) =
        recordFor target idempotencyKey store) :
    Settling Later (recordFor target idempotencyKey)
      (saveRow part stored conflict) where
  settles := by
    intro store existing final yields
    rcases yields_saveRow.mp yields with ⟨row, changed, takes, saved, rfl⟩
    have kept : (part.rows store).1 <+: changed.1 := by
      rw [(Table.save_eq_ok.mp saved).2.1]
      exact Table.prefix_after _ _
    have grown := grows kept
    refine ⟨grown, fun later laterGrown => ?_⟩
    have found : changed.1 <+: (part.rows later).1 := by
      have more := rows laterGrown
      rw [part.rows_withRows] at more
      exact more
    refine yields_saveRow.mpr ⟨row, part.rows later, ?_,
      Table.save_again saved found, part.withRows_rows later⟩
    rw [← stable (grown.cards.trans laterGrown.cards)]
    exact takes
  keeps store := by
    rcases saveRow_store part stored conflict store with same | ⟨changed, same⟩
    · rw [same]
    · rw [same]
      exact keeps store changed

theorem owns_congr {store later : Store} (cards : store.cards = later.cards)
    (tenantId cardId : JsString) :
    store.owns tenantId cardId = later.owns tenantId cardId := by
  rw [Store.owns, Store.owns, cards]

theorem storedVersion_congr (version : CardSettingsVersion)
    {store later : Store} (cards : store.cards = later.cards) :
    storedVersion database version store =
      storedVersion database version later := by
  rw [storedVersion, storedVersion, owns_congr cards]

theorem storedAuditEvent_congr (event : SettingsAuditEvent)
    {store later : Store} (cards : store.cards = later.cards) :
    storedAuditEvent database event store =
      storedAuditEvent database event later := by
  rw [storedAuditEvent, storedAuditEvent, owns_congr cards]

theorem settling_saveCardSettingsVersion (version : CardSettingsVersion) :
    Settling Later (recordFor target idempotencyKey)
      (saveCardSettingsVersion database version) :=
  settling_saveRow (fun kept => ⟨rfl, kept, List.prefix_refl _⟩)
    (fun grown => grown.versions) (storedVersion_congr version) fun _ _ => rfl

theorem settling_saveSettingsAuditEvent (event : SettingsAuditEvent) :
    Settling Later (recordFor target idempotencyKey)
      (saveSettingsAuditEvent database event) :=
  settling_saveRow (fun kept => ⟨rfl, List.prefix_refl _, kept⟩)
    (fun grown => grown.auditEvents) (storedAuditEvent_congr event) fun _ _ => rfl

theorem settling_lock (tenantId cardId : JsString) :
    Settling Later (recordFor target idempotencyKey)
      (lockExecutiveCardForSettingsPublish tenantId cardId) where
  settles := by
    intro store locked final yields
    rcases Prod.mk.inj yields with ⟨answer, rfl⟩
    refine ⟨growth_later.refl store, fun later grown => ?_⟩
    refine Prod.ext (Eq.trans ?_ answer) rfl
    exact congrArg Except.ok (owns_congr grown.cards _ _).symm
  keeps _ := rfl

theorem repeatable_saveVersions (versions : List CardSettingsVersion) :
    Repeatable Later (recordFor target idempotencyKey)
      (saveVersions database none versions) := by
  induction versions with
  | nil =>
      exact .done
  | cons version rest inductionHypothesis =>
      unfold saveVersions
      rw [if_neg (by simp)]
      exact repeatable_bind
        (repeatable_perform (settling_saveCardSettingsVersion version))
        fun _ => repeatable_bind inductionHypothesis fun _ => .done

theorem repeatable_saveAuditEvents (events : List SettingsAuditEvent) :
    Repeatable Later (recordFor target idempotencyKey)
      (saveAuditEvents database events) := by
  induction events with
  | nil =>
      exact .done
  | cons event rest inductionHypothesis =>
      exact repeatable_bind
        (repeatable_perform (settling_saveSettingsAuditEvent event))
        fun _ => inductionHypothesis

theorem repeatable_lockPublishTarget (locked : Option CardSettingsVersion) :
    Repeatable Later (recordFor target idempotencyKey)
      (lockPublishTarget locked) := by
  cases locked with
  | none =>
      exact .done
  | some version =>
      refine repeatable_bind (repeatable_perform (settling_lock _ _)) ?_
      intro found
      cases found with
      | true =>
          exact .done
      | false =>
          exact .done

/-- Without a version to archive the publication can be repeated. -/
theorem repeatable_persistSettingsPublishResult
    {publishResult : SettingsPublishResult}
    (archived : publishResult.archivedVersion = none) :
    Repeatable Later (recordFor target idempotencyKey)
      (persistSettingsPublishResult database publishResult) := by
  unfold persistSettingsPublishResult persistSettingsAuditEvents
  rw [archived]
  exact repeatable_bind (repeatable_lockPublishTarget _) fun _ =>
    repeatable_bind .done fun _ =>
      repeatable_bind (repeatable_saveVersions _) fun _ =>
        repeatable_bind (repeatable_bind (repeatable_saveAuditEvents _)
          fun _ => .done) fun _ => .done

end Repeating

/-! ## When the operations succeed -/

section Saving

variable {Item Row : Type} {table : Table Row} (part : Part table)
  (stored : Item → Store → Option Row) (conflict : Item → JsString)

/-- Saves the row of every item. -/
def saveEach : List Item → SettingsScript Unit
  | [] => pure ()
  | item :: rest => do
      let _ ← perform (saveRow part (stored item) (conflict item))
      saveEach rest

variable {part stored conflict} {store final : Store}

theorem yields_saveEach
    (stable : ∀ item {store later : Store}, store.cards = later.cards →
      stored item store = stored item later)
    {items : List Item} {result : Unit} :
    Yields (saveEach part stored conflict items).run store result final ↔
      table.AcceptsAll (stored · store) (part.rows store).1 items ∧
        ∃ rows : table.Rows,
          rows.1 = table.afterAll (stored · store) (part.rows store).1 items ∧
          part.withRows store rows = final := by
  induction items generalizing store with
  | nil =>
      constructor
      · intro yields
        refine ⟨trivial, part.rows store, rfl, ?_⟩
        rw [part.withRows_rows]
        exact (yields_pure.mp yields).2
      · rintro ⟨_, rows, same, written⟩
        have unchanged : rows = part.rows store := Subtype.ext same
        rw [unchanged, part.withRows_rows] at written
        exact yields_pure.mpr ⟨rfl, written⟩
  | cons item rest inductionHypothesis =>
      have sameStored : ∀ changed, (stored · (part.withRows store changed)) =
          (stored · store) := fun changed =>
        funext fun later => stable later (part.cards_withRows store changed)
      have step : ∀ {row}, stored item store = some row →
          table.afterAll (stored · store) (part.rows store).1 (item :: rest) =
            table.afterAll (stored · store)
              (table.after (part.rows store).1 row) rest :=
        fun takes => Table.afterAll_cons takes
      simp only [saveEach, run_bind, yields_bind, run_perform,
        inductionHypothesis]
      constructor
      · rintro ⟨existing, middle, saved, acceptsRest, rows, same, written⟩
        rcases yields_saveRow.mp saved with ⟨row, changed, takes, saves, rfl⟩
        rcases Table.save_eq_ok.mp saves with ⟨accepts, after, _⟩
        rw [sameStored, part.rows_withRows, after] at acceptsRest same
        rw [part.withRows_withRows] at written
        exact ⟨⟨row, takes, accepts, acceptsRest⟩, rows,
          same.trans (step takes).symm, written⟩
      · rintro ⟨⟨row, takes, accepts, acceptsRest⟩, rows, same, written⟩
        rcases Table.exists_save accepts with ⟨existing, saves⟩
        refine ⟨existing, _, yields_saveRow.mpr ⟨row, _, takes, saves, rfl⟩,
          ?_, rows, ?_, ?_⟩
        · rw [sameStored, part.rows_withRows]
          exact acceptsRest
        · rw [sameStored, part.rows_withRows]
          exact same.trans (step takes)
        · rw [part.withRows_withRows]
          exact written

end Saving

section Persisting

variable {database : Database} {store middle final : Store}

theorem saveAuditEvents_eq (events : List SettingsAuditEvent) :
    saveAuditEvents database events =
      saveEach auditEventPart (storedAuditEvent database) auditEventConflict
        events := by
  induction events with
  | nil =>
      rfl
  | cons event rest inductionHypothesis =>
      rw [saveAuditEvents, saveEach, inductionHypothesis]
      rfl

theorem yields_saveVersions {versions : List CardSettingsVersion}
    {savedIds : List JsString} :
    Yields (saveVersions database none versions).run store savedIds final ↔
      savedIds = versions.map (·.versionId) ∧
        Yields (saveEach versionPart (storedVersion database) versionConflict
          versions).run store () final := by
  induction versions generalizing store savedIds with
  | nil =>
      constructor
      · intro yields
        rcases yields_pure.mp yields with ⟨same, sameStore⟩
        exact ⟨same.symm, yields_pure.mpr ⟨rfl, sameStore⟩⟩
      · rintro ⟨same, yields⟩
        exact yields_pure.mpr ⟨same.symm, (yields_pure.mp yields).2⟩
  | cons version rest inductionHypothesis =>
      unfold saveVersions saveEach
      rw [if_neg (by simp)]
      simp only [run_bind, yields_bind, run_perform]
      constructor
      · rintro ⟨existing, first, saved, restIds, last, savedRest, finished⟩
        rcases yields_pure.mp finished with ⟨same, sameStore⟩
        rw [sameStore] at savedRest
        rcases inductionHypothesis.mp savedRest with ⟨sameRest, each⟩
        refine ⟨?_, existing, first, saved, each⟩
        rw [← same, sameRest]
        rfl
      · rintro ⟨same, existing, first, saved, each⟩
        exact ⟨existing, first, saved, _, final,
          inductionHypothesis.mpr ⟨rfl, each⟩,
          yields_pure.mpr ⟨same.symm, rfl⟩⟩

/-! ## One call alone -/

theorem yields_lockPublishTarget {target : CardSettingsVersion}
    {result : Unit} :
    Yields (lockPublishTarget (some target)).run store result final ↔
      store.owns target.tenantId target.cardId = true ∧ store = final := by
  simp only [lockPublishTarget, run_bind, yields_bind, run_perform]
  constructor
  · rintro ⟨locked, first, lock, checked⟩
    rcases Prod.mk.inj lock with ⟨answer, rfl⟩
    rw [Except.ok.inj answer]
    cases locked with
    | true =>
        exact ⟨rfl, (yields_pure.mp checked).2⟩
    | false =>
        have impossible := congrArg Prod.fst checked
        cases impossible
  · rintro ⟨owns, rfl⟩
    refine ⟨true, store, Prod.ext (congrArg Except.ok owns) rfl, ?_⟩
    exact yields_pure.mpr ⟨rfl, rfl⟩

/-- Every version and audit event of the result can be saved. -/
structure Savable (database : Database) (publishResult : SettingsPublishResult)
    (target : CardSettingsVersion) (store : Store) : Prop where
  owned : store.owns target.tenantId target.cardId = true
  versions : versionTable.AcceptsAll (storedVersion database · store)
    store.versions.1 publishResult.versions
  auditEvents : auditEventTable.AcceptsAll (storedAuditEvent database · store)
    store.auditEvents.1 publishResult.auditEvents

theorem yields_persistSettingsPublishResult
    {publishResult : SettingsPublishResult} {target : CardSettingsVersion}
    (archived : publishResult.archivedVersion = none)
    (targeted : publishTarget publishResult = some target)
    {result : PersistSettingsPublishResult} :
    Yields (persistSettingsPublishResult database publishResult).run store
        result final ↔
      Savable database publishResult target store ∧
        result = ⟨publishResult.auditEvents.length,
          publishResult.versions.map (·.versionId)⟩ ∧
        ∃ versions auditEvents,
          versions.1 = versionTable.afterAll (storedVersion database · store)
            store.versions.1 publishResult.versions ∧
          auditEvents.1 = auditEventTable.afterAll
            (storedAuditEvent database · store) store.auditEvents.1
            publishResult.auditEvents ∧
          { store with versions, auditEvents } = final := by
  have sameStored : ∀ versions : versionTable.Rows,
      (storedAuditEvent database · (versionPart.withRows store versions)) =
        (storedAuditEvent database · store) :=
    fun versions => funext fun event => storedAuditEvent_congr event rfl
  simp only [persistSettingsPublishResult, persistSettingsAuditEvents, archived,
    targeted, archivePrevious, Option.map_none, run_bind, yields_bind,
    saveAuditEvents_eq, yields_lockPublishTarget, yields_saveVersions]
  constructor
  · rintro ⟨_, locked, ⟨owned, rfl⟩, archivedIds, first, unarchived, savedIds,
      saved, ⟨ids, versionsSaved⟩, count, counted, ⟨_, audited, eventsSaved,
      counting⟩, finished⟩
    rcases yields_pure.mp unarchived with ⟨rfl, rfl⟩
    rcases yields_pure.mp counting with ⟨rfl, rfl⟩
    rcases yields_pure.mp finished with ⟨rfl, rfl⟩
    rcases (yields_saveEach storedVersion_congr).mp versionsSaved with
      ⟨acceptsVersions, versions, versionsAre, rfl⟩
    rcases (yields_saveEach storedAuditEvent_congr).mp eventsSaved with
      ⟨acceptsEvents, auditEvents, eventsAre, rfl⟩
    rw [sameStored versions] at acceptsEvents eventsAre
    exact ⟨⟨owned, acceptsVersions, acceptsEvents⟩, by rw [ids]; rfl, versions,
      auditEvents, versionsAre, eventsAre, rfl⟩
  · rintro ⟨savable, rfl, versions, auditEvents, versionsAre, eventsAre, rfl⟩
    refine ⟨(), store, ⟨savable.owned, rfl⟩, [], store,
      yields_pure.mpr ⟨rfl, rfl⟩, _, versionPart.withRows store versions,
      ⟨rfl, ?_⟩, _, _, ⟨(), { store with versions, auditEvents }, ?_, yields_pure.mpr
        ⟨rfl, rfl⟩⟩, yields_pure.mpr ⟨rfl, rfl⟩⟩
    · exact (yields_saveEach storedVersion_congr).mpr
        ⟨savable.versions, versions, versionsAre, rfl⟩
    · refine (yields_saveEach storedAuditEvent_congr).mpr
        ⟨?_, auditEvents, ?_, rfl⟩
      · rw [sameStored versions]
        exact savable.auditEvents
      · rw [sameStored versions]
        exact eventsAre

/-! ## The record -/

theorem recordRow_spec {record row : SettingsIdempotencyRecord}
    (made : recordRow database record = some row) :
    row.key = record.key ∧ row.requestHash = record.requestHash := by
  unfold recordRow at made
  rcases Option.bind_eq_some_iff.mp made with ⟨createdAt, _, timed⟩
  rcases Option.bind_eq_some_iff.mp timed with ⟨expiresAt, _, same⟩
  rw [← Option.some.inj same]
  exact ⟨rfl, rfl⟩

theorem storedRecord_eq_some {record row : SettingsIdempotencyRecord} :
    storedRecord database record store = some row ↔
      store.owns record.tenantId record.cardId = true ∧
        database.storesRecord record = true ∧
        recordRow database record = some row ∧
        (idempotencyTable.Taken store.idempotencyKeys.1 row ∨
          resultStored record store.versions.1 = true) := by
  unfold storedRecord
  by_cases takes : (store.owns record.tenantId record.cardId &&
      database.storesRecord record) = true
  · rw [if_pos takes, Option.filter_eq_some_iff]
    simp only [Bool.and_eq_true] at takes
    simp [takes]
  · rw [if_neg takes]
    simp only [Bool.and_eq_true, not_and] at takes
    simp only [reduceCtorEq, false_iff, not_and]
    exact fun owns stores => absurd stores (takes owns)

variable {input other : PersistIdempotentSettingsPublishResultInput}
  {target : CardSettingsVersion}

/-- How a call saves its record and answers. -/
def requestOf (database : Database)
    (input : PersistIdempotentSettingsPublishResultInput)
    (target : CardSettingsVersion) :
    Request Store SettingsError PersistSettingsPublishResult
      SettingsIdempotencyRecord PersistIdempotentSettingsPublishResult where
  save := saveSettingsIdempotencyRecord database
    (idempotencyRecordOf input target)
  finish result idempotencyRecord :=
    { result with idempotencyRecord, reusedExistingResult := false }
  reuse := reuseIdempotencyRecord input

theorem persistIdempotent_eq_call
    (targeted : publishTarget input.publishResult = some target) :
    persistIdempotentSettingsPublishResult database input =
      (requestOf database input target).call
        (recordFor target input.idempotencyKey)
        (persistSettingsPublishResult database input.publishResult) := by
  unfold persistIdempotentSettingsPublishResult
  rw [targeted]
  refine congrArg (Script.step id) (funext fun found => ?_)
  cases looked : recordFor target input.idempotencyKey found with
  | none =>
      rw [recordFor] at looked
      simp only [getSettingsIdempotencyRecord, looked]
      rfl
  | some record =>
      rw [recordFor] at looked
      simp only [getSettingsIdempotencyRecord, looked]
      rfl

theorem recordFor_eq_none {idempotencyKey : JsString} :
    recordFor target idempotencyKey store = none ↔
      ∀ row ∈ store.idempotencyKeys.1, row.key ≠
        (target.tenantId, target.cardId, js "settings.publish",
          idempotencyKey) := by
  simp [recordFor, findIdempotencyRecord]

theorem key_of_recordRow {row : SettingsIdempotencyRecord}
    (made : recordRow database (idempotencyRecordOf input target) =
      some row) :
    row.key = (target.tenantId, target.cardId, js "settings.publish",
      input.idempotencyKey) :=
  (recordRow_spec made).1

theorem not_taken_of_absent
    (absent : recordFor target input.idempotencyKey store = none)
    {row : SettingsIdempotencyRecord}
    (made : recordRow database (idempotencyRecordOf input target) =
      some row) :
    ¬idempotencyTable.Taken store.idempotencyKeys.1 row := by
  rintro ⟨old, member, same⟩
  exact recordFor_eq_none.mp absent old member
    ((beq_iff_eq.mp same).trans (key_of_recordRow made))

/-- The first record with its key is added. -/
theorem yields_save_record
    (absent : recordFor target input.idempotencyKey store = none)
    {saved : SettingsIdempotencyRecord} :
    Yields (requestOf database input target).save store saved final ↔
      ∃ row rows,
        storedRecord database (idempotencyRecordOf input target) store =
            some row ∧
          rows.1 = store.idempotencyKeys.1 ++ [row] ∧
          { store with idempotencyKeys := rows } = final ∧
          mapSettingsIdempotencyRecord row = saved := by
  have free : ∀ {row}, storedRecord database (idempotencyRecordOf input target)
      store = some row →
        ¬idempotencyTable.Taken (idempotencyPart.rows store).1 row :=
    fun takes =>
      not_taken_of_absent absent (storedRecord_eq_some.mp takes).2.2.1
  simp only [requestOf, saveSettingsIdempotencyRecord, yields_bind]
  constructor
  · rintro ⟨existing, middle, saves, finished⟩
    rcases yields_pure.mp finished with ⟨mapped, sameStore⟩
    rcases yields_saveRow.mp saves with ⟨row, rows, takes, saved, written⟩
    rcases Table.save_eq_ok.mp saved with ⟨_, after, found⟩
    rw [Table.after_of_free (free takes)] at after
    rw [after, Table.find?_insert (free takes)] at found
    rw [Option.some.inj found] at takes after
    exact ⟨existing, rows, takes, after, written.trans sameStore, mapped⟩
  · rintro ⟨row, rows, takes, added, written, mapped⟩
    refine ⟨row, final, yields_saveRow.mpr ⟨row, rows, takes, ?_, written⟩,
      yields_pure.mpr ⟨mapped, rfl⟩⟩
    have after : rows.1 = idempotencyTable.after
        (idempotencyPart.rows store).1 row :=
      added.trans (Table.after_of_free (free takes)).symm
    refine Table.save_eq_ok.mpr
      ⟨(Table.accepts_of_free (free takes)).mpr rfl, after, ?_⟩
    rw [added]
    exact Table.find?_insert (free takes)

/-- The record that was saved is found. -/
theorem recordFor_of_save
    (absent : recordFor target input.idempotencyKey store = none)
    {saved : SettingsIdempotencyRecord}
    (saves : Yields (requestOf database input target).save store saved final) :
    recordFor target input.idempotencyKey final = some saved ∧
      saved.requestHash = input.requestHash ∧ Later store final := by
  rcases (yields_save_record absent).mp saves with
    ⟨row, rows, takes, added, rfl, rfl⟩
  have made := (storedRecord_eq_some.mp takes).2.2.1
  refine ⟨?_, (recordRow_spec made).2,
    ⟨rfl, List.prefix_refl _, List.prefix_refl _⟩⟩
  have earlier := recordFor_eq_none.mp absent
  simp only [recordFor, findIdempotencyRecord, added, List.find?_append]
  rw [List.find?_eq_none.mpr fun old member => by
      simpa using earlier old member,
    Option.none_or]
  simp [key_of_recordRow made]

theorem exists_save_record
    (absent : recordFor target input.idempotencyKey store = none)
    {row : SettingsIdempotencyRecord}
    (takes : storedRecord database (idempotencyRecordOf input target) store =
      some row) :
    ∃ saved final,
      Yields (requestOf database input target).save store saved final := by
  have free : ¬idempotencyTable.Taken store.idempotencyKeys.1 row :=
    not_taken_of_absent absent (storedRecord_eq_some.mp takes).2.2.1
  have accepts : idempotencyTable.Accepts store.idempotencyKeys.1 row :=
    (Table.accepts_of_free free).mpr rfl
  exact ⟨_, _, (yields_save_record absent).mpr ⟨row,
    ⟨_, Table.valid_after store.idempotencyKeys.2 accepts⟩, takes,
    Table.after_of_free free, rfl, rfl⟩⟩

theorem versions_of_save {saved : SettingsIdempotencyRecord}
    (saves : Yields (requestOf database input target).save store saved final) :
    final.versions = store.versions := by
  rcases yields_bind.mp saves with ⟨_, middle, written, finished⟩
  rw [← (yields_pure.mp finished).2]
  rcases yields_saveRow.mp written with ⟨_, _, _, _, rfl⟩
  rfl

/-- Calls that differ in when they were made. -/
structure SameRequest (input other : PersistIdempotentSettingsPublishResultInput) :
    Prop where
  publishResult : other.publishResult = input.publishResult
  idempotencyKey : other.idempotencyKey = input.idempotencyKey
  requestHash : other.requestHash = input.requestHash

/-- A request that comes to save its record later keeps the one that is
there. -/
theorem yields_save_again (same : SameRequest input other)
    (absent : recordFor target input.idempotencyKey store = none)
    {saved : SettingsIdempotencyRecord}
    (saves : Yields (requestOf database input target).save store saved final)
    (stores : database.storesRecord (idempotencyRecordOf other target) = true)
    {otherRow : SettingsIdempotencyRecord}
    (made : recordRow database (idempotencyRecordOf other target) =
      some otherRow) :
    Yields (requestOf database other target).save final saved final := by
  rcases (yields_save_record absent).mp saves with
    ⟨row, rows, takes, added, rfl, rfl⟩
  rcases storedRecord_eq_some.mp takes with ⟨owns, _, rowMade, _⟩
  have sameKey : otherRow.key = row.key := by
    rw [key_of_recordRow made, key_of_recordRow rowMade, same.idempotencyKey]
  have sameHash : row.requestHash = otherRow.requestHash :=
    (recordRow_spec rowMade).2.trans
      (same.requestHash.symm.trans (recordRow_spec made).2.symm)
  have sameVisible : idempotencyTable.visible otherRow =
      idempotencyTable.visible row := by
    funext old
    simp only [idempotencyTable, sameKey]
  have found : rows.1.find? (idempotencyTable.visible otherRow) = some row := by
    rw [sameVisible, added]
    exact Table.find?_insert (not_taken_of_absent absent rowMade)
  have taken : idempotencyTable.Taken rows.1 otherRow :=
    ⟨row, List.mem_of_find?_eq_some found,
      idempotencyTable.sameKey_of_visible (List.find?_some found)⟩
  have accepts : idempotencyTable.Accepts rows.1 otherRow := by
    unfold Table.Accepts
    rw [if_pos taken]
    exact ⟨row, found, beq_iff_eq.mpr sameHash⟩
  refine yields_bind.mpr ⟨row, _, yields_saveRow.mpr ⟨otherRow, rows, ?_,
    Table.save_eq_ok.mpr ⟨accepts, (Table.after_of_taken taken).symm, found⟩,
    rfl⟩, yields_pure.mpr ⟨rfl, rfl⟩⟩
  exact storedRecord_eq_some.mpr ⟨owns, stores, made, Or.inl taken⟩

/-! ## One call alone -/

/-- The publication can be saved, and then the record. -/
structure Admissible (database : Database)
    (input : PersistIdempotentSettingsPublishResultInput)
    (target : CardSettingsVersion) (store : Store) : Prop extends
    Savable database input.publishResult target store where
  stores : database.storesRecord (idempotencyRecordOf input target) = true
  row : ∃ row, recordRow database (idempotencyRecordOf input target) = some row
  result : resultStored (idempotencyRecordOf input target)
    (versionTable.afterAll (storedVersion database · store) store.versions.1
      input.publishResult.versions) = true

/-- The store between the publication and the record. -/
theorem Admissible.persists (admissible : Admissible database input target store)
    (archived : input.publishResult.archivedVersion = none)
    (targeted : publishTarget input.publishResult = some target) :
    ∃ result middle,
      Yields (persistSettingsPublishResult database input.publishResult).run
          store result middle ∧
        middle.idempotencyKeys = store.idempotencyKeys ∧
        ∀ {other}, Admissible database other target store →
          other.publishResult = input.publishResult →
          ∃ row, storedRecord database (idempotencyRecordOf other target)
            middle = some row := by
  let versions : versionTable.Rows :=
    ⟨_, Table.valid_afterAll store.versions.2 admissible.versions⟩
  let auditEvents : auditEventTable.Rows :=
    ⟨_, Table.valid_afterAll store.auditEvents.2 admissible.auditEvents⟩
  refine ⟨_, { store with versions, auditEvents },
    (yields_persistSettingsPublishResult archived targeted).mpr
      ⟨admissible.toSavable, rfl, versions, auditEvents, rfl, rfl, rfl⟩,
    rfl, ?_⟩
  intro other otherAdmissible same
  rcases otherAdmissible.row with ⟨row, made⟩
  refine ⟨row, storedRecord_eq_some.mpr ⟨otherAdmissible.owned,
    otherAdmissible.stores, made, Or.inr ?_⟩⟩
  have stored := otherAdmissible.result
  rw [same] at stored
  exact stored

/-- Either call saves the record for both. -/
theorem saves_of_stored (same : SameRequest input other)
    (absent : recordFor target input.idempotencyKey store = none)
    {row otherRow : SettingsIdempotencyRecord}
    (takes : storedRecord database (idempotencyRecordOf input target) store =
      some row)
    (otherTakes : storedRecord database (idempotencyRecordOf other target)
      store = some otherRow) :
    ∃ record final,
      (requestOf database input target).Saves Later
          (recordFor target input.idempotencyKey)
          (requestOf database other target) store record final ∧
        record.requestHash = input.requestHash := by
  rcases exists_save_record absent takes with ⟨record, final, saves⟩
  rcases recordFor_of_save absent saves with ⟨found, sameHash, grows⟩
  rcases storedRecord_eq_some.mp otherTakes with ⟨_, stores, made, _⟩
  exact ⟨record, final, ⟨saves, grows, found,
    yields_save_again same absent saves stores made⟩, sameHash⟩

theorem reuseIdempotencyRecord_of_sameHash
    {existing : SettingsIdempotencyRecord}
    (sameHash : existing.requestHash = input.requestHash) :
    ∃ result, reuseIdempotencyRecord input existing = .ok result ∧
      result.idempotencyRecord = existing := by
  unfold reuseIdempotencyRecord
  rw [if_neg (not_not.mpr sameHash)]
  exact ⟨_, rfl, rfl⟩

theorem sameHash_of_reuse {existing : SettingsIdempotencyRecord}
    {result : PersistIdempotentSettingsPublishResult}
    (reused : reuseIdempotencyRecord input existing = .ok result) :
    existing.requestHash = input.requestHash := by
  unfold reuseIdempotencyRecord at reused
  by_contra different
  rw [if_pos different] at reused
  exact nomatch reused

theorem run_of_found
    (targeted : publishTarget input.publishResult = some target)
    {record : SettingsIdempotencyRecord}
    (found : recordFor target input.idempotencyKey store = some record) :
    (persistIdempotentSettingsPublishResult database input).run store =
      (reuseIdempotencyRecord input record, store) := by
  rw [persistIdempotent_eq_call targeted]
  exact Request.run_call_of_found _ found

theorem run_of_absent
    (targeted : publishTarget input.publishResult = some target)
    (absent : recordFor target input.idempotencyKey store = none) :
    (persistIdempotentSettingsPublishResult database input).run store =
      ((requestOf database input target).finishing
        (persistSettingsPublishResult database input.publishResult)).run
          store := by
  rw [persistIdempotent_eq_call targeted]
  exact Request.run_call_of_absent _ absent

theorem admissible_of_yields
    (archived : input.publishResult.archivedVersion = none)
    (targeted : publishTarget input.publishResult = some target)
    (absent : recordFor target input.idempotencyKey store = none)
    {result : PersistIdempotentSettingsPublishResult}
    (yields : Yields (persistIdempotentSettingsPublishResult database input).run
      store result final) :
    Admissible database input target store := by
  unfold Yields at yields
  rw [run_of_absent targeted absent] at yields
  rcases (Request.yields_finishing _).mp yields with
    ⟨persisted, middle, record, persists, saves, _⟩
  rcases (yields_persistSettingsPublishResult archived targeted).mp persists
    with ⟨savable, _, versions, auditEvents, versionsAre, _, rfl⟩
  have stillAbsent : recordFor target input.idempotencyKey
      { store with versions, auditEvents } = none := absent
  rcases (yields_save_record stillAbsent).mp saves with ⟨row, _, takes, _⟩
  rcases storedRecord_eq_some.mp takes with ⟨_, stores, made, taken | stored⟩
  · exact absurd taken (not_taken_of_absent absent made)
  · rw [versionsAre] at stored
    exact ⟨savable, stores, ⟨row, made⟩, stored⟩

/-! ## One call after the other -/

theorem keeps_saveRow {Row Value : Type} {table : Table Row}
    {part : Part table} {stored : Store → Option Row} {conflict : JsString}
    {read : Store → Value}
    (keeps : ∀ store changed, read (part.withRows store changed) = read store) :
    Keeps read (perform (saveRow part stored conflict)) := by
  intro store
  rw [run_perform]
  rcases saveRow_store part stored conflict store with same | ⟨changed, same⟩
  · rw [same]
  · rw [same]
    exact keeps store changed

theorem keeps_archivePrevious (version : Option CardSettingsVersion) :
    Keeps Store.idempotencyKeys (archivePrevious version) := by
  cases version with
  | none =>
      exact keeps_done _
  | some version =>
      refine keeps_bind (fun store => ?_) fun _ => keeps_done _
      rw [run_perform, archiveCardSettingsVersion]
      split
      · rfl
      · split
        · rfl
        · rfl

theorem keeps_lockPublishTarget (locked : Option CardSettingsVersion) :
    Keeps Store.idempotencyKeys (lockPublishTarget locked) := by
  cases locked with
  | none =>
      exact keeps_done _
  | some version =>
      refine keeps_bind (fun _ => rfl) fun found => ?_
      cases found with
      | true =>
          exact keeps_done _
      | false =>
          exact keeps_done _

theorem keeps_saveVersions (archivedVersionId : Option JsString)
    (versions : List CardSettingsVersion) :
    Keeps Store.idempotencyKeys
      (saveVersions database archivedVersionId versions) := by
  induction versions with
  | nil =>
      exact keeps_done _
  | cons version rest inductionHypothesis =>
      unfold saveVersions
      by_cases skipped : archivedVersionId = some version.versionId
      · rw [if_pos skipped]
        exact inductionHypothesis
      · rw [if_neg skipped]
        exact keeps_bind (keeps_saveRow fun _ _ => rfl) fun _ =>
          keeps_bind inductionHypothesis fun _ => keeps_done _

theorem keeps_saveAuditEvents (events : List SettingsAuditEvent) :
    Keeps Store.idempotencyKeys (saveAuditEvents database events) := by
  induction events with
  | nil =>
      exact keeps_done _
  | cons event rest inductionHypothesis =>
      exact keeps_bind (keeps_saveRow fun _ _ => rfl) fun _ =>
        inductionHypothesis

/-- A publication saves no record. -/
theorem keeps_persistSettingsPublishResult
    (publishResult : SettingsPublishResult) :
    Keeps Store.idempotencyKeys
      (persistSettingsPublishResult database publishResult) := by
  unfold persistSettingsPublishResult persistSettingsAuditEvents
  exact keeps_bind (keeps_lockPublishTarget _) fun _ =>
    keeps_bind (keeps_archivePrevious _) fun _ =>
      keeps_bind (keeps_saveVersions _ _) fun _ =>
        keeps_bind (keeps_bind (keeps_saveAuditEvents _) fun _ =>
          keeps_done _) fun _ => keeps_done _

/-- A retry after the call reuses its record. -/
theorem retry_of_yields (same : SameRequest input other)
    {result : PersistIdempotentSettingsPublishResult}
    (yields : Yields (persistIdempotentSettingsPublishResult database input).run
      store result final) :
    ∃ again,
      Yields (persistIdempotentSettingsPublishResult database other).run final
          again final ∧
        again.idempotencyRecord = result.idempotencyRecord := by
  cases targeted : publishTarget input.publishResult with
  | none =>
      simp only [persistIdempotentSettingsPublishResult, targeted] at yields
      exact nomatch congrArg Prod.fst yields
  | some target =>
      have reuses : ∀ {record}, recordFor target input.idempotencyKey final =
            some record →
          record.requestHash = input.requestHash →
          ∃ again,
            Yields (persistIdempotentSettingsPublishResult database other).run
                final again final ∧
              again.idempotencyRecord = record := by
        intro record found sameHash
        rcases reuseIdempotencyRecord_of_sameHash
            (sameHash.trans same.requestHash.symm) with
          ⟨again, reused, sameRecord⟩
        refine ⟨again, ?_, sameRecord⟩
        unfold Yields
        rw [run_of_found (same.publishResult ▸ targeted)
          (same.idempotencyKey ▸ found), reused]
      cases found : recordFor target input.idempotencyKey store with
      | some record =>
          have answer := (run_of_found targeted found).symm.trans yields
          have reused : reuseIdempotencyRecord input record = .ok result :=
            congrArg Prod.fst answer
          have sameStore : store = final := congrArg Prod.snd answer
          have sameHash := sameHash_of_reuse reused
          rcases reuseIdempotencyRecord_of_sameHash sameHash with
            ⟨_, isResult, sameRecord⟩
          rw [reused] at isResult
          rw [Except.ok.inj isResult, sameRecord]
          exact reuses (sameStore ▸ found) sameHash
      | none =>
          unfold Yields at yields
          rw [run_of_absent targeted found] at yields
          rcases (Request.yields_finishing _).mp yields with
            ⟨persisted, middle, record, persists, saves, finished⟩
          have sameKeys : middle.idempotencyKeys = store.idempotencyKeys := by
            have kept : Keeps Store.idempotencyKeys
                (persistSettingsPublishResult database input.publishResult) :=
              keeps_persistSettingsPublishResult _
            have sameKeys := kept store
            rw [persists] at sameKeys
            exact sameKeys
          have stillAbsent : recordFor target input.idempotencyKey middle =
              none := by
            rw [recordFor_eq_none, sameKeys, ← recordFor_eq_none]
            exact found
          rcases recordFor_of_save stillAbsent saves with
            ⟨foundAgain, sameHash, _⟩
          rw [← finished]
          exact reuses foundAgain sameHash

/-! ## Both calls at once -/

/-- The version that was archived is not published any more. -/
theorem not_archivable_of_persist {publishResult : SettingsPublishResult}
    {version : CardSettingsVersion}
    (archives : publishResult.archivedVersion = some version)
    {persisted : PersistSettingsPublishResult}
    (persists : Yields
      (persistSettingsPublishResult database publishResult).run store persisted
        final) :
    final.versions.1.find? (isArchivable version) = none := by
  have kept := (savesVersions_of_persist persists).isPrefix
  simp only [rowsAfterArchive, archives] at kept
  simp only [persistSettingsPublishResult, archives, archivePrevious, run_bind,
    yields_bind, run_perform] at persists
  rcases persists with ⟨_, locked, lock, _, _, ⟨_, _, archive, _⟩, _⟩
  rcases yields_archiveCardSettingsVersion.mp archive with ⟨row, search, _⟩
  rw [store_of_lockPublishTarget lock] at search
  have archivable := List.find?_some search
  have member : archivedRow version row ∈ final.versions.1 :=
    kept.subset (List.mem_map_of_mem (List.mem_of_find?_eq_some search))
  have isArchived : (archivedRow version row).status = .archived :=
    congrArg CardSettingsVersion.status (if_pos archivable)
  have sameId : row.versionId = version.versionId := by
    simp only [isArchivable, Bool.and_eq_true, beq_iff_eq] at archivable
    exact archivable.1.1.2
  refine List.find?_eq_none.mpr fun other otherMember otherArchivable => ?_
  simp only [isArchivable, Bool.and_eq_true, beq_iff_eq] at otherArchivable
  have same : other = archivedRow version row := by
    refine final.versions.2.eq_of_versionId otherMember member ?_
    rw [archivedRow_versionId, sameId]
    exact otherArchivable.1.1.2
  rw [same, isArchived] at otherArchivable
  have impossible := otherArchivable.1.2
  cases impossible

/-- So the same publication cannot be persisted again. -/
theorem not_persists_again {publishResult : SettingsPublishResult}
    {version : CardSettingsVersion}
    (archives : publishResult.archivedVersion = some version)
    (absent : store.versions.1.find? (isArchivable version) = none)
    {persisted : PersistSettingsPublishResult} :
    ¬Yields (persistSettingsPublishResult database publishResult).run store
      persisted final := by
  intro persists
  simp only [persistSettingsPublishResult, archives, archivePrevious, run_bind,
    yields_bind, run_perform] at persists
  rcases persists with ⟨_, locked, lock, _, _, ⟨_, _, archive, _⟩, _⟩
  rcases yields_archiveCardSettingsVersion.mp archive with ⟨row, search, _⟩
  rw [store_of_lockPublishTarget lock, absent] at search
  cases search

end Persisting

/-! ## Two calls -/

/-- In every interleaving both calls succeed with one record, and the store is
that after one of the calls alone. -/
def Settles (database : Database) (store : Store)
    (first second : PersistIdempotentSettingsPublishResultInput) : Prop :=
  ∀ {firstOutcome secondOutcome final},
    Interleaves (persistIdempotentSettingsPublishResult database first)
        (persistIdempotentSettingsPublishResult database second) store
        firstOutcome secondOutcome final →
      ∃ firstResult secondResult,
        firstOutcome = .ok firstResult ∧ secondOutcome = .ok secondResult ∧
          firstResult.idempotencyRecord = secondResult.idempotencyRecord ∧
          (((persistIdempotentSettingsPublishResult database first).run
              store).2 = final ∨
            ((persistIdempotentSettingsPublishResult database second).run
              store).2 = final)

section Settling

variable {database : Database} {store : Store}
  {first second : PersistIdempotentSettingsPublishResultInput}
  {target : CardSettingsVersion}

/-- Each of the calls succeeds alone. -/
theorem Settles.alone (settles : Settles database store first second) :
    (∃ result final,
        Yields (persistIdempotentSettingsPublishResult database first).run store
          result final) ∧
      ∃ result final,
        Yields (persistIdempotentSettingsPublishResult database second).run
          store result final := by
  constructor
  · rcases settles (interleaves_run _ _ store) with
      ⟨firstResult, _, answer, _⟩
    exact ⟨firstResult, _, Prod.ext answer rfl⟩
  · rcases settles (interleaves_run _ _ store).symm with
      ⟨_, secondResult, _, answer, _⟩
    exact ⟨secondResult, _, Prod.ext answer rfl⟩

/-- Nothing is archived, since both calls may look before one archives. -/
theorem Settles.archived (settles : Settles database store first second)
    (same : SameRequest first second)
    (targeted : publishTarget first.publishResult = some target)
    (absent : recordFor target first.idempotencyKey store = none) :
    first.publishResult.archivedVersion = none := by
  by_contra archives
  rcases Option.ne_none_iff_exists'.mp archives with ⟨version, archives⟩
  have calls := fun {firstOutcome secondOutcome final} =>
    @settles firstOutcome secondOutcome final
  rw [persistIdempotent_eq_call targeted,
    persistIdempotent_eq_call (same.publishResult ▸ targeted),
    same.publishResult, same.idempotencyKey] at calls
  rcases calls (interleaves_of_absent absent) with
    ⟨firstResult, secondResult, firstAnswer, secondAnswer, _⟩
  rcases (Request.yields_finishing _).mp (Prod.ext firstAnswer rfl) with
    ⟨_, middle, _, persists, saves, _⟩
  rcases (Request.yields_finishing _).mp (Prod.ext secondAnswer rfl) with
    ⟨_, _, _, persistsAgain, _⟩
  refine not_persists_again archives ?_ persistsAgain
  rw [versions_of_save saves]
  exact not_archivable_of_persist archives persists

theorem SameRequest.symm (same : SameRequest first second) :
    SameRequest second first :=
  ⟨same.publishResult.symm, same.idempotencyKey.symm, same.requestHash.symm⟩

/-- Both calls reuse the record that is there. -/
theorem settles_of_found (same : SameRequest first second)
    (targeted : publishTarget first.publishResult = some target)
    {record : SettingsIdempotencyRecord}
    (found : recordFor target first.idempotencyKey store = some record)
    (sameHash : record.requestHash = first.requestHash) :
    Settles database store first second := by
  intro firstOutcome secondOutcome final interleaves
  rcases reuseIdempotencyRecord_of_sameHash sameHash with
    ⟨firstResult, firstReuses, firstRecord⟩
  rcases reuseIdempotencyRecord_of_sameHash
      (sameHash.trans same.requestHash.symm) with
    ⟨secondResult, secondReuses, secondRecord⟩
  rw [persistIdempotent_eq_call targeted,
    persistIdempotent_eq_call (same.publishResult ▸ targeted),
    same.publishResult, same.idempotencyKey] at interleaves
  rcases interleaves_calls_of_found found interleaves with
    ⟨unchanged, firstAnswer, secondAnswer⟩
  refine ⟨firstResult, secondResult, firstAnswer.trans firstReuses,
    secondAnswer.trans secondReuses, firstRecord.trans secondRecord.symm,
    Or.inl ?_⟩
  rw [run_of_found targeted found, unchanged]

/-- What the one that saves answers, and the other. -/
theorem exists_of_served (same : SameRequest first second)
    {value : PersistSettingsPublishResult} {record : SettingsIdempotencyRecord}
    (sameHash : record.requestHash = first.requestHash)
    {firstOutcome secondOutcome :
      Except SettingsError PersistIdempotentSettingsPublishResult}
    (served : (requestOf database first target).Served
      (requestOf database second target) value record firstOutcome
        secondOutcome) :
    ∃ firstResult secondResult,
      firstOutcome = .ok firstResult ∧ secondOutcome = .ok secondResult ∧
        firstResult.idempotencyRecord = record ∧
        secondResult.idempotencyRecord = record := by
  rcases served with ⟨firstAnswer, finished | reused⟩
  · exact ⟨_, _, firstAnswer, finished, rfl, rfl⟩
  · rcases reuseIdempotencyRecord_of_sameHash
        (sameHash.trans same.requestHash.symm) with
      ⟨secondResult, reuses, sameRecord⟩
    exact ⟨_, secondResult, firstAnswer, reused.trans reuses, rfl, sameRecord⟩

/-- Both calls may persist the publication. -/
theorem settles_of_admissible (same : SameRequest first second)
    (targeted : publishTarget first.publishResult = some target)
    (absent : recordFor target first.idempotencyKey store = none)
    (archived : first.publishResult.archivedVersion = none)
    (firstAdmissible : Admissible database first target store)
    (secondAdmissible : Admissible database second target store) :
    Settles database store first second := by
  intro firstOutcome secondOutcome final interleaves
  rcases firstAdmissible.persists archived targeted with
    ⟨value, middle, persists, sameKeys, stores⟩
  have stillAbsent : recordFor target first.idempotencyKey middle = none := by
    rw [recordFor_eq_none, sameKeys, ← recordFor_eq_none]
    exact absent
  rcases stores firstAdmissible rfl with ⟨firstRow, firstTakes⟩
  rcases stores secondAdmissible same.publishResult with
    ⟨secondRow, secondTakes⟩
  rcases saves_of_stored same stillAbsent firstTakes secondTakes with
    ⟨firstRecord, firstFinal, firstSaves, firstHash⟩
  rcases saves_of_stored same.symm (same.idempotencyKey ▸ stillAbsent)
      secondTakes firstTakes with
    ⟨secondRecord, secondFinal, secondSaves, secondHash⟩
  rw [same.idempotencyKey] at secondSaves
  have secondTargeted : publishTarget second.publishResult = some target :=
    same.publishResult ▸ targeted
  have firstAlone : Yields
      (persistIdempotentSettingsPublishResult database first).run store
      ((requestOf database first target).finish value firstRecord)
      firstFinal :=
    (run_of_absent targeted absent).trans ((Request.yields_finishing _).mpr
      ⟨value, middle, firstRecord, persists, firstSaves.saves, rfl⟩)
  have secondAlone : Yields
      (persistIdempotentSettingsPublishResult database second).run store
      ((requestOf database second target).finish value secondRecord)
      secondFinal :=
    (run_of_absent secondTargeted (same.idempotencyKey ▸ absent)).trans
      ((Request.yields_finishing _).mpr ⟨value, middle, secondRecord,
        same.publishResult ▸ persists, secondSaves.saves, rfl⟩)
  rw [persistIdempotent_eq_call targeted,
    persistIdempotent_eq_call secondTargeted, same.publishResult,
    same.idempotencyKey] at interleaves
  rcases interleaves_calls growth_later
      (repeatable_persistSettingsPublishResult archived) absent persists
      firstSaves secondSaves interleaves with
    ⟨ended, served⟩ | ⟨ended, served⟩
  · rcases exists_of_served same firstHash served with
      ⟨firstResult, secondResult, firstAnswer, secondAnswer, sameFirst,
        sameSecond⟩
    exact ⟨firstResult, secondResult, firstAnswer, secondAnswer,
      sameFirst.trans sameSecond.symm,
      Or.inl ((congrArg Prod.snd firstAlone).trans ended.symm)⟩
  · rcases exists_of_served same.symm secondHash served with
      ⟨secondResult, firstResult, secondAnswer, firstAnswer, sameSecond,
        sameFirst⟩
    exact ⟨firstResult, secondResult, firstAnswer, secondAnswer,
      sameFirst.trans sameSecond.symm,
      Or.inr ((congrArg Prod.snd secondAlone).trans ended.symm)⟩

end Settling

theorem persistIdempotentSettingsPublishResult_settles_iff
    (database : Database) (store : Store)
    (input : PersistIdempotentSettingsPublishResultInput)
    (createdAt : JsString) (expiresAt : Option JsString) :
    Settles database store input { input with createdAt, expiresAt } ↔
      ∃ target, publishTarget input.publishResult = some target ∧
        match recordFor target input.idempotencyKey store with
        | some record => record.requestHash = input.requestHash
        | none =>
            input.publishResult.archivedVersion = none ∧
              Admissible database input target store ∧
              Admissible database { input with createdAt, expiresAt } target
                store := by
  have same : SameRequest input { input with createdAt, expiresAt } :=
    ⟨rfl, rfl, rfl⟩
  constructor
  · intro settles
    rcases settles.alone with
      ⟨⟨firstResult, _, firstYields⟩, secondResult, _, secondYields⟩
    cases targeted : publishTarget input.publishResult with
    | none =>
        simp only [persistIdempotentSettingsPublishResult, targeted]
          at firstYields
        exact nomatch congrArg Prod.fst firstYields
    | some target =>
        refine ⟨target, rfl, ?_⟩
        cases found : recordFor target input.idempotencyKey store with
        | some record =>
            have answer := (run_of_found targeted found).symm.trans firstYields
            exact sameHash_of_reuse (congrArg Prod.fst answer)
        | none =>
            have archived := settles.archived same targeted found
            exact ⟨archived,
              admissible_of_yields archived targeted found firstYields,
              admissible_of_yields archived targeted found secondYields⟩
  · rintro ⟨target, targeted, condition⟩
    cases found : recordFor target input.idempotencyKey store with
    | some record =>
        rw [found] at condition
        exact settles_of_found same targeted found condition
    | none =>
        rw [found] at condition
        exact settles_of_admissible same targeted found condition.1
          condition.2.1 condition.2.2

/-- A call that persists the publication. -/
def publishCall (publishResult : SettingsPublishResult) :
    PersistIdempotentSettingsPublishResultInput where
  publishResult := publishResult
  createdAt := js "2026-07-08T14:00:00.000Z"
  expiresAt := none
  idempotencyKey := js "key-1"
  requestHash := js "request-1"

/-- Whether a publication archives a version, and a call alone persists it. -/
def persistsArchiving (input : PublishSettingsVersionInput) (store : Store) :
    Bool :=
  match publishSettingsVersion codeUnitPlatform input with
  | .ok result => result.archivedVersion.isSome &&
      ((persistIdempotentSettingsPublishResult plainDatabase
        (publishCall result)).run store).1.isOk
  | .error _ => false

/-- The second of two racing calls cannot archive the version again. -/
theorem archivingCalls_not_settled :
    ∃ result persisted final,
      publishSettingsVersion codeUnitPlatform draftPublication = .ok result ∧
        Yields (persistIdempotentSettingsPublishResult plainDatabase
          (publishCall result)).run publishedStore persisted final ∧
        ¬Settles plainDatabase publishedStore (publishCall result)
          (publishCall result) := by
  have persists : persistsArchiving draftPublication publishedStore = true := by
    decide +kernel
  unfold persistsArchiving at persists
  cases returned : publishSettingsVersion codeUnitPlatform draftPublication with
  | error failure =>
      rw [returned] at persists
      exact nomatch persists
  | ok result =>
      rw [returned] at persists
      rcases (Bool.and_eq_true _ _ ▸ persists) with ⟨archives, succeeds⟩
      rcases Library.Guards.isOk_iff.mp succeeds with ⟨persisted, answer⟩
      refine ⟨result, persisted, _, rfl, Prod.ext answer rfl, ?_⟩
      intro settles
      cases targeted : publishTarget result with
      | none =>
          simp only [persistIdempotentSettingsPublishResult, publishCall,
            targeted] at answer
          exact nomatch answer
      | some target =>
          have archived := settles.archived ⟨rfl, rfl, rfl⟩ targeted rfl
          change result.archivedVersion = none at archived
          rw [archived] at archives
          exact nomatch archives

end BidayaxExecutive.Settings
