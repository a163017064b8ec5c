import BidayaxExecutive.TrustStore.PublishedStreams

/-!
# Runs of trusted publishes

Three invariants hold of every world that is reached: no idempotency key of a
tenant is recorded twice, every row of a stream has its event, and every stream
is one that the verifier accepts up to the size of its last entry.  Each is
kept by a statement that is performed and by the commit of another publish.
-/

namespace BidayaxExecutive.TrustStore

open BidayaxExecutive.Communications (Timestamptz)
open BidayaxExecutive.Library.Guards
open BidayaxExecutive.Library.LockingTransactions
open BidayaxExecutive.Library.Runs
open BidayaxExecutive.Library.SerializedLogs
open BidayaxExecutive.Runtime
open BidayaxExecutive.Trust

section Publishes

variable {host : Host} {time : SqlTime} {hashtextextended : JsString → Int}
  {tenantId streamId idempotencyKey : JsString}

/-! ## Recorded keys -/

theorem unshared_of_insertTrustEvent {database : TrustDatabase}
    {new : TrustEventRow}
    (inserted : (insertTrustEvent database new).isOk = true) :
    ∀ row ∈ database.events, new.sharesKey row = false := by
  rcases isOk_iff.mp inserted with ⟨next, inserted⟩
  unfold insertTrustEvent at inserted
  rw [guard_eq_ok, guard_eq_ok] at inserted
  intro row member
  have unshared := inserted.2.1
  rw [List.any_eq_true] at unshared
  exact Bool.eq_false_of_not_eq_true
    fun shared => unshared ⟨row, member, shared⟩

theorem serialized_keyedEvents :
    Serialized (keyedEvents host time hashtextextended tenantId
        idempotencyKey)
      (.idempotency tenantId idempotencyKey) (fun _ => True)
      (fun events => events.length ≤ 1) (fun _ _ => True) := by
  refine .of_entries (fun _ => trivial) (fun _ _ => trivial) ?_
  intro _ store before statement resources writes after needs performed _ _ _
  cases performs_of_perform performed with
  | passed isAfter =>
      subst isAfter
      exact .inl ⟨rfl, trivial⟩
  | built publish chain entry _ _ isAfter =>
      subst isAfter
      exact .inl ⟨rfl, trivial⟩
  | appended entry row _ _ _ _ isAfter =>
      subst isAfter
      exact .inl ⟨rfl, trivial⟩
  | recorded entry row _ isStatement converted inserted isAfter =>
      rcases keys_of_eventRow converted with ⟨_, rowTenant, rowKey⟩
      have unshared := unshared_of_insertTrustEvent inserted
      subst isAfter
      by_cases keyed : row.hasKey tenantId idempotencyKey = true
      · have scope := keyed
        simp only [TrustEventRow.hasKey, Bool.and_eq_true,
          beq_iff_eq] at scope
        have none : (keyedEvents host time hashtextextended tenantId
            idempotencyKey).seen store writes = [] := by
          change List.filter _ store.events ++
            List.filter _ writes.audit.events = []
          rw [← List.filter_append, List.filter_eq_nil_iff]
          intro other member otherKeyed
          simp only [TrustEventRow.hasKey, Bool.and_eq_true,
            beq_iff_eq] at otherKeyed
          have apart := unshared other member
          simp [TrustEventRow.sharesKey, scope, otherKeyed] at apart
        refine .inr ⟨row, ?_, ?_, ?_, trivial⟩
        · change List.filter _ (writes.audit.events ++ [row]) = _
          rw [List.filter_append, List.filter_singleton, keyed]
          rfl
        · rw [← Option.some.inj needs, isStatement, ← rowTenant,
            ← rowKey, scope.1, scope.2]
          exact List.mem_cons_of_mem _ List.mem_cons_self
        · rw [none]
          exact le_rfl
      · refine .inl ⟨?_, trivial⟩
        change List.filter _ (writes.audit.events ++ [row]) = _
        rw [List.filter_append, List.filter_singleton,
          Bool.eq_false_of_not_eq_true keyed]
        exact List.append_nil _

/-! ## Recorded events -/

/-- What the transaction of a publish has done by itself. -/
structure Carries (time : SqlTime) (writes : PublishWrites) : Prop where
  scope : ∀ entry ∈ writes.stage.entry?,
    entry.event.tenantId = entry.tenantId ∧ entry.checkpoint = none
  recorded : ∀ entry, writes.stage = .recorded entry →
    ∃ row ∈ writes.audit.events, eventRow time entry.event = .ok row

theorem Carries.performs {database : TrustDatabase}
    {statement : PublishStatement} {writes after : PublishWrites}
    (carries : Carries time writes)
    (performs : Performs host time database statement writes after) :
    Carries time after := by
  cases performs with
  | passed isAfter =>
      rw [isAfter]
      exact carries
  | built publish chain entry _ appends isAfter =>
      subst isAfter
      refine ⟨?_, fun _ absurdity => nomatch absurdity⟩
      intro built isBuilt
      cases isBuilt
      rcases scope_of_appends appends with ⟨tenant, _, event, genesis⟩
      exact ⟨(congrArg TrustEvent.tenantId event).trans tenant.symm, genesis⟩
  | recorded entry row isBuilt _ converted _ isAfter =>
      subst isAfter
      refine ⟨?_, ?_⟩
      · intro recorded isRecorded
        cases isRecorded
        refine carries.scope entry ?_
        rw [isBuilt]
        rfl
      · intro recorded isRecorded
        cases isRecorded
        exact ⟨row, List.mem_append_right _ List.mem_cons_self, converted⟩
  | appended entry row _ _ _ _ isAfter =>
      subst isAfter
      exact ⟨fun _ absurdity => (nomatch absurdity),
        fun _ absurdity => (nomatch absurdity)⟩

abbrev PublishTransaction : Type :=
  Transaction Timestamptz PublishStatement PublishWrites AuditResource

theorem keptBySteps_carries :
    KeptBySteps (publishSystem host time hashtextextended)
      (fun transaction : PublishTransaction =>
        Carries time transaction.writes) where
  started := fun _ => ⟨fun _ absurdity => (nomatch absurdity),
    fun _ absurdity => (nomatch absurdity)⟩
  submitted := fun _ _ _ carries _ _ => carries
  acquired := fun _ _ _ carries _ => carries
  finished := fun _ _ _ carries _ performed =>
    carries.performs (performs_of_perform performed)

/-- A row that is inserted has the event that its transaction recorded. -/
theorem supported_of_performs {store : TrustDatabase}
    {statement : PublishStatement} {writes after : PublishWrites}
    (carries : Carries time writes)
    (performs : Performs host time (writes.audit.apply store) statement
      writes after)
    (supported : Supported (allEntries host time hashtextextended)
      (allEvents host time hashtextextended) (Records time) store writes) :
    Supported (allEntries host time hashtextextended)
      (allEvents host time hashtextextended) (Records time) store after := by
  cases performs with
  | passed isAfter =>
      rw [isAfter]
      exact supported
  | built publish chain entry _ _ isAfter =>
      subst isAfter
      exact supported
  | recorded entry row _ _ _ _ isAfter =>
      subst isAfter
      intro item member
      rcases supported item member with ⟨event, isEvent, records⟩
      refine ⟨event, ?_, records⟩
      rcases List.mem_append.mp isEvent with committed | appended
      · exact List.mem_append_left _ committed
      · exact List.mem_append_right _ (List.mem_append_left _ appended)
  | appended entry row isRecorded _ written _ isAfter =>
      subst isAfter
      intro item member
      have seen : item ∈ (allEntries host time hashtextextended).seen store
          writes ∨ item = row := by
        rcases List.mem_append.mp member with committed | appended
        · exact .inl (List.mem_append_left _ committed)
        · rcases List.mem_append.mp appended with earlier | isNew
          · exact .inl (List.mem_append_right _ earlier)
          · exact .inr (List.mem_singleton.mp isNew)
      rcases seen with earlier | rfl
      · exact supported item earlier
      · rcases carries.recorded entry isRecorded with
          ⟨event, isEvent, converted⟩
        refine ⟨event, List.mem_append_right _ isEvent, ?_⟩
        rcases carries.scope entry (isRecorded ▸ rfl) with ⟨tenant, genesis⟩
        have isRow := isRowOf_of_entryRow genesis written
        intro found read
        have payload := (columns_of_readEntry read).2.2.2.2
        rw [isRow.columns] at payload ⊢
        have same : Stored.event entry.event = found.event :=
          Option.some.inj
            ((trustEventOfJson?_stored entry.event).symm.trans payload)
        rcases keys_of_eventRow converted with ⟨eventId, ownTenant, key⟩
        rw [← same]
        exact ⟨eventId, ownTenant.trans tenant, key⟩

/-! ## Published streams -/

theorem Knows.of_no_entry {rows : List AuditEntryRow}
    {writes : PublishWrites} (nothing : writes.stage.entry? = none) :
    Knows host time tenantId streamId rows writes := by
  refine ⟨?_, ?_⟩
  · intro entry isEntry
    rw [nothing] at isEntry
    simp at isEntry
  · intro entry isRecorded
    rw [isRecorded] at nothing
    simp [PublishStage.entry?] at nothing

/-- What else is kept by every row that continues a stream within its limits
is kept by every publish. -/
theorem serialized_publishedEntries (faithful : time.Faithful host)
    {keeps : List AuditEntryRow → Prop}
    (kept : ∀ {rows row chain}, keeps rows → ReadAs time rows chain →
      WithinLimits chain → keeps (rows ++ [row])) :
    Serialized
      (publishedEntries host time hashtextextended tenantId streamId)
      (streamLock hashtextextended tenantId streamId) (RecordedEvents time)
      (fun rows => Published host time tenantId streamId rows ∧ keeps rows)
      (Knows host time tenantId streamId) := by
  refine .of_entries (fun _ => .of_no_entry rfl) (fun _ knows =>
    ⟨fun entry isEntry tenant stream =>
      (knows.prepared entry isEntry tenant stream).mono, knows.recorded⟩) ?_
  intro _ store before statement resources writes after needs performed
    events published knows
  have seen : (publishedEntries host time hashtextextended tenantId
      streamId).seen store writes =
        auditStream tenantId streamId (writes.audit.apply store) :=
    (List.filter_append _ _).symm
  rw [seen] at published knows
  rw [seen]
  cases performs_of_perform performed with
  | passed isAfter =>
      subst isAfter
      exact .inl ⟨rfl, knows⟩
  | built publish chain entry read appends isAfter =>
      subst isAfter
      refine .inl ⟨rfl, ?_, fun _ isRecorded =>
        PublishStage.noConfusion isRecorded⟩
      intro built isBuilt tenant stream
      cases isBuilt
      rcases scope_of_appends appends with ⟨ownTenant, ownStream, _⟩
      have sameTenant := ownTenant.symm.trans tenant
      have sameStream := ownStream.symm.trans stream
      rw [sameTenant, sameStream] at read
      have isRead :=
        (priorAuditChain_of_chained published.1.chained).mp read
      exact ⟨publish, _, chain, List.prefix_rfl, isRead, sameTenant,
        sameStream, appends⟩
  | recorded entry row isBuilt _ converted _ isAfter =>
      subst isAfter
      refine .inl ⟨rfl, ?_, ?_⟩
      · intro recorded isRecorded
        cases isRecorded
        refine knows.prepared entry ?_
        rw [isBuilt]
        rfl
      · intro recorded isRecorded
        cases isRecorded
        exact ⟨row, List.mem_append_right _ List.mem_cons_self, converted⟩
  | appended entry row isRecorded isStatement written inserted isAfter =>
      subst isAfter
      rcases scope_of_entryRow written with ⟨sameTenant, sameStream⟩
      by_cases ofStream : row.ofStream tenantId streamId = true
      · have scope := ofStream
        simp only [AuditEntryRow.ofStream, Bool.and_eq_true,
          beq_iff_eq] at scope
        refine .inr ⟨row, ?_, ?_, ?_, .of_no_entry rfl⟩
        · change List.filter _ (writes.audit.entries ++ [row]) = _
          rw [List.filter_append, List.filter_singleton, ofStream]
          rfl
        · rw [← Option.some.inj needs, isStatement, ← sameTenant,
            ← sameStream, scope.1, scope.2]
          exact List.mem_cons_self
        · rcases isOk_iff.mp inserted with ⟨_, inserted⟩
          have prepared := knows.prepared entry (isRecorded ▸ rfl)
            (sameTenant.symm.trans scope.1) (sameStream.symm.trans scope.2)
          rcases knows.recorded entry isRecorded with
            ⟨event, isEvent, converted⟩
          have admitted := admitted_of_insertAuditEntry inserted
          refine ⟨published.1.append faithful events prepared
            ⟨event, List.mem_append_right _ isEvent, converted⟩ written
            admitted, ?_⟩
          rcases current_of_admitted published.1 prepared written
            admitted with ⟨publish, chain, isRead, _, _, appends, _⟩
          exact kept published.2 isRead (verifies_iff_withinLimits.mp
            (appendAuditChainEntry_eq_ok.mp appends).1).1
      · refine .inl ⟨?_, .of_no_entry rfl⟩
        change List.filter _ (writes.audit.entries ++ [row]) = _
        rw [List.filter_append, List.filter_singleton,
          Bool.eq_false_of_not_eq_true ofStream]
        exact List.append_nil _

/-! ## Every reachable store -/

/-- The tables, as migrations and publishes leave them. -/
structure PublishedTables (host : Host) (time : SqlTime)
    (database : TrustDatabase) : Prop where
  events : RecordedEvents time database
  streams : ∀ tenantId streamId, Published host time tenantId streamId
    (auditStream tenantId streamId database)

theorem publishedTables_of_empty {database : TrustDatabase}
    (noEvents : database.events = [])
    (noEntries : database.auditEntries = []) :
    PublishedTables host time database where
  events :=
    { recorded := by
        rw [noEntries]
        exact fun _ member => (List.not_mem_nil member).elim
      distinct := by
        rw [noEvents]
        exact fun _ _ => Nat.zero_le _ }
  streams := by
    intro tenantId streamId
    rw [auditStream, noEntries]
    exact published_nil host time tenantId streamId

variable {world next : PublishWorld} {actor : Option Nat}

/-- What is kept of the events and of the transactions. -/
structure EventsKept (host : Host) (time : SqlTime)
    (hashtextextended : JsString → Int) (world : PublishWorld) : Prop where
  orderly : Orderly (fun transaction : PublishTransaction =>
    Carries time transaction.writes) world
  supported : SupportedWorld (allEntries host time hashtextextended)
    (allEvents host time hashtextextended) (Records time) world
  keyed : ∀ tenantId idempotencyKey, SoundWorld
    (keyedEvents host time hashtextextended tenantId idempotencyKey)
    (.idempotency tenantId idempotencyKey) (fun events => events.length ≤ 1)
    (fun _ _ => True) world

theorem EventsKept.moves
    (kept : EventsKept host time hashtextextended world)
    (moves : Moves (publishSystem host time hashtextextended) world next
      actor) :
    EventsKept host time hashtextextended next where
  orderly := kept.orderly.moves keptBySteps_carries moves
  supported := kept.supported.moves
    (fun _ _ _ carries performed supported =>
      supported_of_performs carries (performs_of_perform performed)
        supported)
    kept.orderly.each moves
  keyed := fun tenantId idempotencyKey =>
    (kept.keyed tenantId idempotencyKey).moves serialized_keyedEvents
      (fun _ _ _ => trivial) moves

theorem EventsKept.events
    (kept : EventsKept host time hashtextextended world) :
    RecordedEvents time world.store :=
  ⟨kept.supported.committed, fun tenantId idempotencyKey =>
    (kept.keyed tenantId idempotencyKey).committed⟩

theorem EventsKept.background
    (kept : EventsKept host time hashtextextended world) :
    EachTransaction (fun moving => RecordedEvents time
      (view (publishSystem host time hashtextextended) world moving))
      world := by
  intro session moving isActive
  refine ⟨kept.supported.each session moving isActive, ?_⟩
  intro tenantId idempotencyKey
  have sound := ((kept.keyed tenantId idempotencyKey).each session moving
    isActive).sound
  have seen : (keyedEvents host time hashtextextended tenantId
      idempotencyKey).seen world.store moving.writes =
        (moving.writes.audit.apply world.store).events.filter
          (TrustEventRow.hasKey tenantId idempotencyKey) :=
    (List.filter_append _ _).symm
  rw [seen] at sound
  exact sound

theorem EventsKept.of_isIdle (idle : IsIdle world)
    (events : RecordedEvents time world.store) :
    EventsKept host time hashtextextended world where
  orderly := orderly_of_isIdle idle
  supported := supportedWorld_of_isIdle idle events.recorded
  keyed := fun tenantId idempotencyKey =>
    soundWorld_of_isIdle idle (events.distinct tenantId idempotencyKey)

theorem EventsKept.run
    {actions : List (Action Timestamptz PublishStatement)}
    (kept : EventsKept host time hashtextextended world)
    (ran : Library.Runs.run (step (publishSystem host time hashtextextended))
      world actions = .ok next) :
    EventsKept host time hashtextextended next := by
  refine run_preserves _ (EventsKept host time hashtextextended) ?_ kept ran
  intro state action after before stepped
  exact before.moves (moves_of_step stepped)

theorem stream_of_run (faithful : time.Faithful host)
    (keeps : List AuditEntryRow → Prop)
    (kept : ∀ {rows row chain}, keeps rows → ReadAs time rows chain →
      WithinLimits chain → keeps (rows ++ [row]))
    {actions : List (Action Timestamptz PublishStatement)}
    (idle : IsIdle world) (tables : PublishedTables host time world.store)
    (initially : keeps (auditStream tenantId streamId world.store))
    (ran : run (step (publishSystem host time hashtextextended)) world
      actions = .ok next) :
    Published host time tenantId streamId
        (auditStream tenantId streamId next.store) ∧
      keeps (auditStream tenantId streamId next.store) := by
  have idleStream : SoundWorld
      (publishedEntries host time hashtextextended tenantId streamId)
      (streamLock hashtextextended tenantId streamId)
      (fun rows => Published host time tenantId streamId rows ∧ keeps rows)
      (Knows host time tenantId streamId) world :=
    soundWorld_of_isIdle idle ⟨tables.streams tenantId streamId, initially⟩
  have reached := idleStream.run (serialized_publishedEntries faithful kept)
    EventsKept.moves EventsKept.background
    (EventsKept.of_isIdle idle tables.events) ran
  exact reached.committed

theorem publishedTables_of_run (faithful : time.Faithful host)
    {actions : List (Action Timestamptz PublishStatement)}
    (idle : IsIdle world) (tables : PublishedTables host time world.store)
    (ran : run (step (publishSystem host time hashtextextended)) world
      actions = .ok next) : PublishedTables host time next.store := by
  have initially : EventsKept host time hashtextextended world :=
    EventsKept.of_isIdle idle tables.events
  refine ⟨(initially.run ran).events, fun tenantId streamId => ?_⟩
  exact (stream_of_run faithful (fun _ => True) (fun _ _ _ => trivial) idle
    tables trivial ran).1

/-- Whatever publishes run at a time, and in any order of their statements,
every stream is read as a chain of which the verifier accepts all but the last
entry, and that one too unless a limit is exceeded. -/
theorem trustedPublishes_verify (faithful : time.Faithful host)
    {actions : List (Action Timestamptz PublishStatement)}
    (idle : IsIdle world) (tables : PublishedTables host time world.store)
    (ran : run (step (publishSystem host time hashtextextended)) world
      actions = .ok next) (tenantId streamId : JsString) :
    ∃ chain, priorAuditChain time next.store tenantId streamId =
        some chain ∧
      Verifies host (cardStream tenantId streamId).options chain.dropLast ∧
      (Verifies host (cardStream tenantId streamId).options chain ↔
        WithinLimits chain) := by
  have published :=
    (publishedTables_of_run faithful idle tables ran).streams tenantId streamId
  rcases published.sealed with ⟨chain, isRead, isSealed⟩
  exact ⟨chain, (priorAuditChain_of_chained published.chained).mpr isRead,
    isSealed.earlier, isSealed.whole⟩

/-! ## Streams that are overgrown -/

/-- A transaction that has built nothing has written nothing. -/
def WritesWhatIsBuilt (transaction : PublishTransaction) : Prop :=
  transaction.writes.stage = .started → transaction.writes.audit = ⟨[], []⟩

theorem keptBySteps_writesWhatIsBuilt :
    KeptBySteps (publishSystem host time hashtextextended)
      WritesWhatIsBuilt where
  started := fun _ _ => rfl
  submitted := fun _ _ _ kept _ _ => kept
  acquired := fun _ _ _ kept _ => kept
  finished := by
    intro transaction store statement after kept _ performed
    cases performs_of_perform performed with
    | passed isAfter =>
        rw [isAfter]
        exact kept
    | built publish chain entry _ _ isAfter =>
        rw [isAfter]
        exact PublishStage.noConfusion
    | recorded entry row _ _ _ _ isAfter =>
        rw [isAfter]
        exact PublishStage.noConfusion
    | appended entry row _ _ _ _ isAfter =>
        rw [isAfter]
        exact PublishStage.noConfusion

theorem priorAuditChain_congr {left right : TrustDatabase}
    (same : auditStream tenantId streamId left =
      auditStream tenantId streamId right) :
    priorAuditChain time left tenantId streamId =
      priorAuditChain time right tenantId streamId := by
  rw [priorAuditChain, same, ← priorAuditChain]

/-- To a chain over a limit nothing is appended. -/
theorem appendAuditChainEntry_of_overgrown {chain : List AuditChainEntry}
    (overgrown : ¬WithinLimits chain) (publish : TrustedPublish) :
    ∃ error, appendAuditChainEntry host (publish.input chain) =
      .error error := by
  cases appended : appendAuditChainEntry host (publish.input chain) with
  | error failure =>
      exact ⟨failure, rfl⟩
  | ok entry =>
      have verifies := (appendAuditChainEntry_eq_ok.mp appended).1
      exact absurd (verifies_iff_withinLimits.mp verifies).1 overgrown

/-- A publish that reads the overgrown chain ends its transaction. -/
theorem finish_of_overgrown {chain : List AuditChainEntry}
    {publish : TrustedPublish} {session : Nat}
    {transaction : PublishTransaction}
    (prior : priorAuditChain time next.store publish.event.tenantId
      publish.event.streamId = some chain)
    (overgrown : ¬WithinLimits chain)
    (isActive : next.transactions session = some transaction)
    (waiting : transaction.waiting = some (.buildEvidence publish, []))
    (stage : transaction.writes.stage = .started)
    (written : transaction.writes.audit = ⟨[], []⟩) :
    step (publishSystem host time hashtextextended) next (.finish session) =
      .ok (next.remove session) := by
  obtain ⟨start, ⟨audit, stage⟩, acquired, waiting⟩ := transaction
  subst waiting stage written
  have unwritten : auditStream publish.event.tenantId publish.event.streamId
      (AuditWrites.apply ⟨[], []⟩ next.store) =
        auditStream publish.event.tenantId publish.event.streamId
          next.store := by
    simp only [auditStream, AuditWrites.apply, List.append_nil]
  rw [← priorAuditChain_congr unwritten] at prior
  have refuses : ∃ error, appendAuditChainEntry host (publish.input chain) =
      .error error := appendAuditChainEntry_of_overgrown overgrown publish
  rcases refuses with ⟨failure, refused⟩
  have performed : PublishStatement.perform host time
      (AuditWrites.apply ⟨[], []⟩ next.store) (.buildEvidence publish)
        ⟨⟨[], []⟩, .started⟩ = .error (.thrown failure) := by
    rw [PublishStatement.perform, buildAuditEntry, prior]
    · dsimp only
      rw [refused]
      rfl
    · rfl
  have performed' : (publishSystem host time hashtextextended).perform start
      ((publishSystem host time hashtextextended).apply
        ⟨⟨[], []⟩, .started⟩ next.store) (.buildEvidence publish)
          ⟨⟨[], []⟩, .started⟩ = .error (.thrown failure) := performed
  simp only [step, isActive, performed']
  rfl

/-- A stream that exceeds a limit takes no further entry, and a publish to it
is refused when it builds its entry. -/
theorem overgrownStream_unchanged (faithful : time.Faithful host)
    {actions : List (Action Timestamptz PublishStatement)}
    (idle : IsIdle world) (tables : PublishedTables host time world.store)
    {tenantId streamId : JsString} {chain : List AuditChainEntry}
    (prior : priorAuditChain time world.store tenantId streamId = some chain)
    (overgrown : ¬WithinLimits chain)
    (ran : run (step (publishSystem host time hashtextextended)) world
      actions = .ok next) :
    auditStream tenantId streamId next.store =
        auditStream tenantId streamId world.store ∧
      ∀ publish : TrustedPublish, publish.event.tenantId = tenantId →
        publish.event.streamId = streamId →
        (∃ error, appendAuditChainEntry host (publish.input chain) =
          .error error) ∧
        ∀ session transaction,
          next.transactions session = some transaction →
          transaction.waiting = some (.buildEvidence publish, []) →
          transaction.writes.stage = .started →
          step (publishSystem host time hashtextextended) next
            (.finish session) = .ok (next.remove session) := by
  have isRead := (priorAuditChain_of_chained
    (tables.streams tenantId streamId).chained).mp prior
  have unchanged : auditStream tenantId streamId next.store =
      auditStream tenantId streamId world.store := by
    refine (stream_of_run faithful
      (fun rows => rows = auditStream tenantId streamId world.store) ?_ idle
      tables rfl ran).2
    intro rows row found same foundRead limits
    rw [same] at foundRead
    have sameChain : found = chain :=
      Option.some.inj ((mapM_readEntry.mpr foundRead).symm.trans
        (mapM_readEntry.mpr isRead))
    exact absurd (sameChain ▸ limits) overgrown
  have orderly : Orderly WritesWhatIsBuilt next :=
    run_preserves _ (Orderly WritesWhatIsBuilt)
      (fun before stepped => before.moves keptBySteps_writesWhatIsBuilt
        (moves_of_step stepped)) (orderly_of_isIdle idle) ran
  refine ⟨unchanged, ?_⟩
  rintro publish rfl rfl
  refine ⟨appendAuditChainEntry_of_overgrown overgrown publish, ?_⟩
  intro session transaction isActive waiting stage
  rw [← priorAuditChain_congr unchanged] at prior
  exact finish_of_overgrown prior overgrown isActive waiting stage
    (orderly.each session transaction isActive stage)

end Publishes

/-! ## Two publishes, and a stream that is overgrown -/

/-- `YYYY`: a year before 1 is counted back from 1 BC. -/
def yyyy (year : Int) : JsString :=
  let printed := (if 0 < year then year else 1 - year).toNat
  if printed ≤ 9999 then fixedText 4 printed else natText printed

/-- `to_char` of every instant; the cast reads the timestamps that
`toISOString` prints, of the years 1 to 9999. -/
def recordedTime : SqlTime where
  timestamptz := fun text =>
    (isoParse text).bind fun time =>
      let year := (civilOfDays (time.milliseconds / 86400000)).year
      if toISOString time = text ∧ 0 < year ∧ year ≤ 9999 then
        some (time.milliseconds * 1000)
      else none
  toChar := fun instant =>
    let date := civilOfDays (instant / 86400000000)
    let rest := (instant % 86400000000 / 1000).toNat
    yyyy date.year ++ 45 :: (fixedText 2 date.month.toNat ++
      45 :: (fixedText 2 date.day.toNat ++
      84 :: (fixedText 2 (rest / 3600000) ++
      58 :: (fixedText 2 (rest / 60000 % 60) ++
      58 :: (fixedText 2 (rest / 1000 % 60) ++
      46 :: (fixedText 3 (rest % 1000) ++ [90]))))))

theorem yyyy_eq_yearText {year : Int} (positive : 0 < year)
    (small : year ≤ 9999) : yyyy year = yearText year := by
  have printed : year.toNat ≤ 9999 := by omega
  have fourDigits : 0 ≤ year ∧ year ≤ 9999 := ⟨positive.le, small⟩
  rw [yyyy, yearText, if_pos fourDigits, if_pos positive, if_pos printed]

theorem faithful_recordedTime (host : Host) :
    recordedTime.Faithful host := by
  intro text canonical instant _ converted
  rcases Option.bind_eq_some_iff.mp converted with ⟨time, _, isInstant⟩
  dsimp only at isInstant
  split_ifs at isInstant with printed
  rcases printed with ⟨rfl, positive, small⟩
  have days : time.milliseconds * 1000 / 86400000000 =
      time.milliseconds / 86400000 := by
    omega
  have rest : time.milliseconds * 1000 % 86400000000 / 1000 =
      time.milliseconds % 86400000 := by
    omega
  rw [← Option.some.inj isInstant]
  simp only [recordedTime, days, rest, yyyy_eq_yearText positive small,
    toISOString]

def firstPublish : TrustedPublish :=
  ⟨js "2026-07-17T10:00:01.000Z", recordedEvent (js "event-1") (js "key-1")⟩

def secondPublish : TrustedPublish :=
  ⟨js "2026-07-17T10:01:01.000Z", recordedEvent (js "event-2") (js "key-2")⟩

/-- The statements of a publish whose entry has the identifier, up to the lock
of the stream. -/
def publishUpToLock (session : Nat) (publish : TrustedPublish)
    (entryId : JsString) : List (Action Timestamptz PublishStatement) :=
  [.submit session (.buildEvidence publish), .finish session,
    .submit session (.insertEvent publish.event.eventId (js "tenant-1")
      publish.event.idempotencyKey), .acquire session, .acquire session,
    .finish session,
    .submit session (.insertEntry entryId (js "tenant-1") (js "stream-1"))]

/-- What the second publish builds on the empty stream. -/
def staleEntryId : JsString :=
  js "audit_9e22b25929db441a67ac527cccba77d0499e7637dd537ed0a461ac9c9742723e"

/-- Both publishes read the empty stream, and the first one holds its lock when
the second one asks for it. -/
def racedPublishes : List (Action Timestamptz PublishStatement) :=
  [.start 1, .start 2] ++
    publishUpToLock 1 firstPublish (recordedFirst []).entryId ++
    .acquire 1 :: publishUpToLock 2 secondPublish staleEntryId

/-- The trigger refuses the entry of the second publish, which is made again. -/
def repeatedPublish : List (Action Timestamptz PublishStatement) :=
  [.acquire 1, .finish 1, .commit 1, .acquire 2, .acquire 2, .finish 2,
    .start 2] ++
    publishUpToLock 2 secondPublish (recordedSecond []).entryId ++
    [.acquire 2, .acquire 2, .finish 2, .commit 2]

def publishWorld (database : TrustDatabase) : PublishWorld :=
  ⟨0, database, fun _ => none, fun _ => none⟩

theorem isIdle_publishWorld (database : TrustDatabase) :
    IsIdle (publishWorld database) :=
  ⟨fun _ => rfl, fun _ => rfl⟩

def publishStep :
    PublishWorld → Action Timestamptz PublishStatement →
      Except Disabled PublishWorld :=
  step (publishSystem (recordedHost []) recordedTime fun _ => 0)

theorem trustedPublishes_verify_raced :
    (run publishStep (publishWorld oneTenant)
        (racedPublishes ++ [.acquire 2])).isOk = false ∧
      ∃ next, run publishStep (publishWorld oneTenant)
          (racedPublishes ++ repeatedPublish) = .ok next ∧
        ∃ chain, priorAuditChain recordedTime next.store (js "tenant-1")
            (js "stream-1") = some chain ∧
          chain.map (·.entryId) =
            [(recordedFirst []).entryId, (recordedSecond []).entryId] ∧
          Verifies (recordedHost [])
            (cardStream (js "tenant-1") (js "stream-1")).options chain := by
  refine ⟨by decide +kernel, ?_⟩
  have reaches : (run publishStep (publishWorld oneTenant)
      (racedPublishes ++ repeatedPublish)).toOption.map (fun next =>
        (priorAuditChain recordedTime next.store (js "tenant-1")
          (js "stream-1")).map fun chain =>
            (chain.map (·.entryId), decide (chain.length ≤ 1000 ∧
              (∀ entry ∈ chain, serializedBytes entry.toJson ≤ 16384) ∧
              serializedBytes (.array (chain.map (·.toJson))) ≤
                1048576))) =
      some (some ([(recordedFirst []).entryId, (recordedSecond []).entryId],
        true)) := by
    decide +kernel
  rcases Option.map_eq_some_iff.mp reaches with ⟨next, reached, isRead⟩
  have ran := toOption_eq_some.mp reached
  rcases trustedPublishes_verify (faithful_recordedTime _)
    (isIdle_publishWorld _) (publishedTables_of_empty rfl rfl) ran
    (js "tenant-1") (js "stream-1") with ⟨chain, isChain, _, whole⟩
  rw [isChain, Option.map_some, Option.some.injEq, Prod.mk.injEq,
    decide_eq_true_eq] at isRead
  rcases isRead with ⟨entries, count, small, smallChain⟩
  exact ⟨next, ran, chain, isChain, entries,
    whole.mpr ⟨count, small, smallChain⟩⟩

/-- A first row whose identifier alone exceeds the limit of an entry. -/
def overlongRow : AuditEntryRow :=
  { genesisEntry with
    streamId := js "stream-1"
    entryId := List.replicate 16384 97
    eventPayload := (recordedEvent (js "event-1") (js "key-1")).toJson }

def overlongTables : TrustDatabase :=
  { oneTenant with
    events := [publishedEvent]
    auditEntries := [overlongRow] }

def overlongEntry : AuditChainEntry where
  structureVersion := js "1"
  entryId := List.replicate 16384 97
  tenantId := js "tenant-1"
  streamId := js "stream-1"
  sequence := .integer 1
  previousDigest := none
  event := recordedEvent (js "event-1") (js "key-1")
  eventDigest := List.replicate 64 97
  entryDigest := List.replicate 64 98
  checkpoint := none
  appendedAt := recordedTime.toChar 0

theorem readEntry_overlongRow :
    readEntry recordedTime overlongRow = some overlongEntry :=
  rfl

theorem not_withinLimits_overlong : ¬WithinLimits [overlongEntry] := by
  intro limits
  have small := limits.small overlongEntry List.mem_cons_self
  have long : (canonicalBytes (.string overlongEntry.entryId)).length =
      16386 := by
    rw [length_canonicalBytes_string, overlongEntry, List.length_replicate]
    · refine List.all_eq_true.mpr fun unit member => ?_
      rw [List.eq_of_mem_replicate member]
      decide
    · intro unit member
      rw [List.eq_of_mem_replicate member]
      decide
  change (canonicalBytes _).length ≤ 16384 at small
  rw [AuditChainEntry.toJson, List.cons_append,
    length_canonicalBytes_object, List.cons_append, List.map_cons,
    List.map_cons, List.sum_cons, List.sum_cons] at small
  have field : fieldLength (js "entryId", .string overlongEntry.entryId) ≥
      16386 := by
    rw [fieldLength, long]
    omega
  omega

theorem auditStream_overlongTables (tenantId streamId : JsString) :
    auditStream tenantId streamId overlongTables = [overlongRow] ∨
      auditStream tenantId streamId overlongTables = [] := by
  change List.filter _ [overlongRow] = [overlongRow] ∨
    List.filter _ [overlongRow] = []
  rw [List.filter_singleton]
  cases overlongRow.ofStream tenantId streamId with
  | true => exact .inl rfl
  | false => exact .inr rfl

theorem published_overlongRow (tenantId streamId : JsString) :
    Published (recordedHost []) recordedTime tenantId streamId
      [overlongRow] where
  chained :=
    { starts := by
        intro first isFirst
        cases isFirst
        exact ⟨rfl, rfl⟩
      follows := .singleton _
      unshared := List.pairwise_singleton _ _
      checked := by
        intro row member
        rw [List.mem_singleton.mp member]
        decide +kernel }
  sealed := by
    refine ⟨[overlongEntry], .cons readEntry_overlongRow .nil,
      verifies_nil _ _, iff_of_false ?_ not_withinLimits_overlong⟩
    intro verifies
    exact not_withinLimits_overlong (verifies_iff_withinLimits.mp
      (show Verifies (recordedHost []) (AppendInput.options
        ⟨[], [], streamId, overlongEntry.event, tenantId, none⟩)
          [overlongEntry] from verifies)).1

theorem publishedTables_overlong :
    PublishedTables (recordedHost []) recordedTime overlongTables where
  events :=
    { recorded := by
        intro row member
        rw [List.mem_singleton.mp member]
        refine ⟨publishedEvent, List.mem_singleton_self _, ?_⟩
        intro entry read
        cases Option.some.inj (readEntry_overlongRow.symm.trans read)
        exact ⟨rfl, rfl, rfl⟩
      distinct := fun _ _ => List.length_filter_le _ _ }
  streams := by
    intro tenantId streamId
    rcases auditStream_overlongTables tenantId streamId with same | same
    · rw [same]
      exact published_overlongRow tenantId streamId
    · rw [same]
      exact published_nil _ _ tenantId streamId

def overlongActions : List (Action Timestamptz PublishStatement) :=
  [.start 1, .submit 1 (.buildEvidence secondPublish)]

/-- The publish to the overgrown stream ends, and its row stays alone. -/
theorem overgrownStream_unchanged_overlong :
    ∃ waiting next,
      run publishStep (publishWorld overlongTables) overlongActions =
          .ok waiting ∧
        publishStep waiting (.finish 1) = .ok next ∧
        next.transactions 1 = none ∧
        auditStream (js "tenant-1") (js "stream-1") next.store =
          [overlongRow] := by
  have prior : priorAuditChain recordedTime overlongTables (js "tenant-1")
      (js "stream-1") = some [overlongEntry] :=
    rfl
  have ran : run publishStep (publishWorld overlongTables) overlongActions =
      .ok _ := rfl
  rcases overgrownStream_unchanged (faithful_recordedTime _)
    (isIdle_publishWorld _) publishedTables_overlong prior
    not_withinLimits_overlong ran with ⟨unchanged, refuses⟩
  exact ⟨_, _, ran, (refuses secondPublish rfl rfl).2 1 _ rfl rfl rfl, rfl,
    unchanged⟩

end BidayaxExecutive.TrustStore
