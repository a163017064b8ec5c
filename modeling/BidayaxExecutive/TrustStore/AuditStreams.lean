import BidayaxExecutive.Library.Guards
import BidayaxExecutive.Library.SerializedLogs
import BidayaxExecutive.TrustStore.TrustTables
import Mathlib.Data.List.Chain

/-!
# Audit streams in the database

A row is appended to a stream under the advisory lock of the stream, and its
trigger compares it with the last row that is committed by then.  So whatever
transactions do, in any order of their statements, each stream is a chain
without gaps and forks, and it only grows.
-/

namespace BidayaxExecutive.TrustStore

open BidayaxExecutive.Communications (Refusal Timestamptz)
open BidayaxExecutive.Library.Guards
open BidayaxExecutive.Library.LockingTransactions
open BidayaxExecutive.Library.Runs
open BidayaxExecutive.Library.SerializedLogs
open BidayaxExecutive.Runtime
open BidayaxExecutive.Trust

/-! ## Chains of rows -/

namespace AuditEntryRow

/-- A row before which its stream has none. -/
def Starts (row : AuditEntryRow) : Prop :=
  match row.checkpointSequence with
  | none => row.sequenceNumber = 1 ∧ row.previousDigest = none
  | some checkpoint =>
      row.sequenceNumber = checkpoint + 1 ∧
        row.previousDigest = row.checkpointDigest

def Follows (previous row : AuditEntryRow) : Prop :=
  row.sequenceNumber = previous.sequenceNumber + 1 ∧
    row.previousDigest = some previous.entryDigest

end AuditEntryRow

open AuditEntryRow

structure Chained (rows : List AuditEntryRow) : Prop where
  starts : ∀ first ∈ rows.head?, first.Starts
  follows : rows.IsChain Follows
  unshared : rows.Pairwise fun earlier row =>
    row.sharesStreamKey earlier = false
  checked : ∀ row ∈ rows, row.checks = true

theorem chained_nil : Chained [] where
  starts := fun _ isFirst => (Option.not_mem_none _ isFirst).elim
  follows := .nil
  unshared := .nil
  checked := fun _ member => (List.not_mem_nil member).elim

/-- How a row continues a stream. -/
def Continues (rows : List AuditEntryRow) (new : AuditEntryRow) : Prop :=
  match rows.getLast? with
  | none => new.Starts
  | some previous => previous.Follows new

theorem Chained.append {rows : List AuditEntryRow} {new : AuditEntryRow}
    (chained : Chained rows) (continues : Continues rows new)
    (unshared : ∀ row ∈ rows, new.sharesStreamKey row = false)
    (checked : new.checks = true) : Chained (rows ++ [new]) := by
  refine ⟨?_, ?_, ?_, ?_⟩
  · intro first isFirst
    cases rows with
    | nil =>
        cases isFirst
        exact continues
    | cons head rest =>
        exact chained.starts first isFirst
  · refine List.isChain_append.mpr ⟨chained.follows, .singleton new, ?_⟩
    intro previous isLast row isNew
    cases isNew
    rw [Continues, Option.mem_def.mp isLast] at continues
    exact continues
  · refine List.pairwise_append.mpr ⟨chained.unshared, ?_, ?_⟩
    · exact List.pairwise_singleton _ _
    · intro row member other isNew
      rw [List.mem_singleton.mp isNew]
      exact unshared row member
  · intro row member
    rcases List.mem_append.mp member with earlier | isNew
    · exact chained.checked row earlier
    · rw [List.mem_singleton.mp isNew]
      exact checked

/-- The row with the greatest sequence number is the last one. -/
theorem foldl_laterEntry_eq_getLast? {rows : List AuditEntryRow}
    (follows : rows.IsChain Follows) :
    rows.foldl laterEntry none = rows.getLast? := by
  induction rows using List.reverseRecOn with
  | nil =>
      rfl
  | append_singleton rows last inductionHypothesis =>
      rcases List.isChain_append.mp follows with ⟨before, _, linked⟩
      rw [List.foldl_append, inductionHypothesis before,
        List.getLast?_concat]
      cases found : rows.getLast? with
      | none =>
          rfl
      | some previous =>
          have follows := linked previous found last rfl
          have larger : previous.sequenceNumber < last.sequenceNumber := by
            rw [follows.1]
            exact Int.lt_succ _
          exact if_pos larger

theorem Chained.prior {database : TrustDatabase}
    {tenantId streamId : JsString}
    (chained : Chained (auditStream tenantId streamId database)) :
    priorAuditEntry database tenantId streamId =
      (auditStream tenantId streamId database).getLast? :=
  foldl_laterEntry_eq_getLast? chained.follows

/-- The sequence numbers of a stream count on from its first. -/
theorem Chained.sequenceNumber {rows : List AuditEntryRow}
    (chained : Chained rows) {index : Nat} {row first : AuditEntryRow}
    (isFirst : rows.head? = some first) (found : rows[index]? = some row) :
    row.sequenceNumber = first.sequenceNumber + index := by
  induction index generalizing row with
  | zero =>
      rw [← List.head?_eq_getElem?, isFirst] at found
      rw [Option.some.inj found, Nat.cast_zero, add_zero]
  | succ index inductionHypothesis =>
      rcases List.getElem?_eq_some_iff.mp found with ⟨inRange, isRow⟩
      have linked := List.isChain_iff_getElem.mp chained.follows index inRange
      have earlier := inductionHypothesis
        (List.getElem?_eq_getElem (Nat.lt_of_succ_lt inRange))
      rw [← isRow, linked.1, earlier, Nat.cast_succ, add_assoc]

/-! ## What an insertion appends -/

theorem nextSequence_eq_ok {sequence following : Int} :
    nextSequence sequence = .ok following ↔
      sequence ≠ maxBigint ∧ following = sequence + 1 := by
  unfold nextSequence
  by_cases largest : sequence = maxBigint
  · simp [largest]
  · rw [if_neg largest]
    simp [pure, Except.pure, largest, eq_comm]

/-- What the trigger lets pass continues the stream. -/
theorem continues_of_enforceTrustAuditAppend {database : TrustDatabase}
    {new : AuditEntryRow}
    (chained : Chained (auditStream new.tenantId new.streamId database))
    (enforced : enforceTrustAuditAppend database new = .ok ()) :
    Continues (auditStream new.tenantId new.streamId database) new := by
  unfold enforceTrustAuditAppend at enforced
  rw [chained.prior] at enforced
  unfold Continues
  cases last : (auditStream new.tenantId new.streamId
      database).getLast? with
  | some prior =>
      simp only [last] at enforced
      rcases bind_eq_ok.mp enforced with ⟨following, isNext, linked⟩
      rw [lastGuard_eq_ok] at linked
      rw [(nextSequence_eq_ok.mp isNext).2] at linked
      simpa [Follows] using linked
  | none =>
      simp only [last] at enforced
      cases given : new.checkpointSequence with
      | none =>
          simp only [given] at enforced
          rw [lastGuard_eq_ok] at enforced
          simpa [Starts, given] using enforced
      | some checkpoint =>
          simp only [given] at enforced
          rcases bind_eq_ok.mp enforced with ⟨following, isNext, linked⟩
          rw [lastGuard_eq_ok] at linked
          rw [(nextSequence_eq_ok.mp isNext).2] at linked
          simpa [Starts, given] using linked

/-- What an accepted insertion has passed. -/
structure Admitted (database : TrustDatabase) (new : AuditEntryRow) :
    Prop where
  enforced : enforceTrustAuditAppend database new = .ok ()
  checked : new.checks = true
  unshared : ∀ row ∈ database.auditEntries, new.sharesKey row = false
  knownEvent : ∃ event ∈ database.events,
    event.eventId = new.eventId ∧ event.tenantId = new.tenantId

theorem admitted_of_insertAuditEntry {database next : TrustDatabase}
    {new : AuditEntryRow}
    (inserted : insertAuditEntry database new = .ok next) :
    Admitted database new := by
  unfold insertAuditEntry at inserted
  rcases bind_eq_ok.mp inserted with ⟨_, enforced, inserted⟩
  rw [guard_eq_ok, guard_eq_ok, guard_eq_ok] at inserted
  rcases inserted with ⟨checked, unshared, known, _⟩
  simp only [Bool.not_eq_true, Bool.not_eq_false', Bool.and_eq_true,
    List.any_eq_true, beq_iff_eq] at checked known
  refine ⟨enforced, checked, ?_, known.2⟩
  intro row member
  rw [List.any_eq_true] at unshared
  exact Bool.eq_false_of_not_eq_true
    fun shared => unshared ⟨row, member, shared⟩

theorem Admitted.unshared_stream {database : TrustDatabase}
    {new : AuditEntryRow} (admitted : Admitted database new) :
    ∀ row ∈ auditStream new.tenantId new.streamId database,
      new.sharesStreamKey row = false := by
  intro row member
  rcases List.mem_filter.mp member with ⟨inserted, ofStream⟩
  have unshared := admitted.unshared row inserted
  rw [sharesKey, ofStream, Bool.true_and, Bool.or_eq_false_iff] at unshared
  exact unshared.2

theorem Admitted.chained {database : TrustDatabase} {new : AuditEntryRow}
    (admitted : Admitted database new)
    (chained : Chained (auditStream new.tenantId new.streamId database)) :
    Chained (auditStream new.tenantId new.streamId database ++ [new]) :=
  chained.append
    (continues_of_enforceTrustAuditAppend chained admitted.enforced)
    admitted.unshared_stream admitted.checked

/-! ## Transactions on the audit tables -/

/-- What a statement locks until its transaction ends. -/
inductive AuditResource where
  | advisory (key : Int)
  | entry (entryId : JsString)
  | event (eventId : JsString)
  | idempotency (tenantId idempotencyKey : JsString)
  deriving DecidableEq

/-- An update or a deletion is given with the rows it is about. -/
inductive AuditStatement where
  | insertEvent (new : TrustEventRow)
  | insertEntry (new : AuditEntryRow)
  | changeEvents (concerns : TrustEventRow → Bool)
  | changeEntries (concerns : AuditEntryRow → Bool)

structure AuditWrites where
  events : List TrustEventRow
  entries : List AuditEntryRow

def AuditWrites.apply (writes : AuditWrites) (database : TrustDatabase) :
    TrustDatabase :=
  { database with
    events := database.events ++ writes.events
    auditEntries := database.auditEntries ++ writes.entries }

section Systems

variable (hashtextextended : JsString → Int)

/-- `pg_advisory_xact_lock(hashtextextended(tenant_id || ':' || stream_id))`. -/
def streamLock (tenantId streamId : JsString) : AuditResource :=
  .advisory (hashtextextended (tenantId ++ js ":" ++ streamId))

/-- The trigger locks the stream; an inserted row locks its other keys. -/
def AuditStatement.resources : AuditStatement → List AuditResource
  | .insertEvent new =>
      [.event new.eventId, .idempotency new.tenantId new.idempotencyKey]
  | .insertEntry new =>
      [streamLock hashtextextended new.tenantId new.streamId,
        .entry new.entryId]
  | .changeEvents _ | .changeEntries _ => []

def AuditStatement.perform (database : TrustDatabase)
    (statement : AuditStatement) (writes : AuditWrites) :
    Accepted AuditWrites :=
  match statement with
  | .insertEvent new => do
      let _ ← insertTrustEvent database new
      return { writes with events := writes.events ++ [new] }
  | .insertEntry new => do
      let _ ← insertAuditEntry database new
      return { writes with entries := writes.entries ++ [new] }
  | .changeEvents concerns => do
      preventTrustEvidenceMutation database.events concerns
      return writes
  | .changeEntries concerns => do
      preventTrustEvidenceMutation database.auditEntries concerns
      return writes

def auditSystem :
    System Timestamptz TrustDatabase AuditStatement AuditWrites AuditResource
      Refusal where
  resources := fun _ statement => some (statement.resources hashtextextended)
  perform := fun _ database statement writes =>
    statement.perform database writes
  noWrites := ⟨[], []⟩
  apply := AuditWrites.apply

abbrev AuditWorld : Type :=
  World Timestamptz TrustDatabase AuditStatement AuditWrites AuditResource

/-- The rows of a stream. -/
def streamLog (tenantId streamId : JsString) :
    Log (auditSystem hashtextextended) AuditEntryRow where
  committed := auditStream tenantId streamId
  appended := fun writes =>
    writes.entries.filter (AuditEntryRow.ofStream tenantId streamId)
  appended_noWrites := rfl
  committed_apply := fun _ _ => List.filter_append _ _

variable {hashtextextended} {tenantId streamId : JsString}

theorem seen_streamLog (store : TrustDatabase) (writes : AuditWrites) :
    (streamLog hashtextextended tenantId streamId).seen store writes =
      auditStream tenantId streamId (writes.apply store) :=
  (List.filter_append _ _).symm

/-- Only an insertion of one of its rows adds to a stream, and that under the
lock of the stream. -/
theorem serialized_streamLog :
    Serialized (streamLog hashtextextended tenantId streamId)
      (streamLock hashtextextended tenantId streamId) (fun _ => True) Chained
      (fun _ _ => True) := by
  refine .of_entries (fun _ => trivial) (fun _ _ => trivial) ?_
  intro _ store before statement resources writes after needs performed _
    chained _
  rw [seen_streamLog] at chained
  rw [seen_streamLog]
  cases statement with
  | insertEvent new =>
      rcases bind_eq_ok.mp performed with ⟨_, _, isAfter⟩
      rw [← Except.ok.inj isAfter]
      exact .inl ⟨rfl, trivial⟩
  | changeEvents concerns =>
      rcases bind_eq_ok.mp performed with ⟨_, _, isAfter⟩
      rw [← Except.ok.inj isAfter]
      exact .inl ⟨rfl, trivial⟩
  | changeEntries concerns =>
      rcases bind_eq_ok.mp performed with ⟨_, _, isAfter⟩
      rw [← Except.ok.inj isAfter]
      exact .inl ⟨rfl, trivial⟩
  | insertEntry new =>
      rcases bind_eq_ok.mp performed with ⟨_, inserted, isAfter⟩
      rw [← Except.ok.inj isAfter]
      by_cases ofStream : new.ofStream tenantId streamId = true
      · have scope := ofStream
        simp only [AuditEntryRow.ofStream, Bool.and_eq_true,
          beq_iff_eq] at scope
        rcases scope with ⟨rfl, rfl⟩
        refine .inr ⟨new, ?_, ?_, ?_, trivial⟩
        · change List.filter _ (writes.entries ++ [new]) = _
          rw [List.filter_append, List.filter_singleton, ofStream]
          rfl
        · rw [← Option.some.inj needs]
          exact List.mem_cons_self
        · exact (admitted_of_insertAuditEntry inserted).chained chained
      · refine .inl ⟨?_, trivial⟩
        change List.filter _ (writes.entries ++ [new]) = _
        rw [List.filter_append, List.filter_singleton,
          Bool.eq_false_of_not_eq_true ofStream]
        exact List.append_nil _

end Systems

/-- Whatever the transactions insert and try to change, in any order of their
statements, every stream stays a chain without gaps and forks, and keeps the
rows it has. -/
theorem auditStreams_chained (hashtextextended : JsString → Int)
    {world next : AuditWorld}
    {actions : List (Action Timestamptz AuditStatement)}
    (idle : IsIdle world)
    (chained : ∀ tenantId streamId,
      Chained (auditStream tenantId streamId world.store))
    (ran : run (step (auditSystem hashtextextended)) world actions =
      .ok next) (tenantId streamId : JsString) :
    Chained (auditStream tenantId streamId next.store) ∧
      auditStream tenantId streamId world.store <+:
        auditStream tenantId streamId next.store := by
  have initially : SoundWorld
      (streamLog hashtextextended tenantId streamId)
      (streamLock hashtextextended tenantId streamId) Chained
      (fun _ _ => True) world :=
    soundWorld_of_isIdle idle (chained tenantId streamId)
  have reached := initially.run_alone serialized_streamLog ran
  have grown : (streamLog hashtextextended tenantId streamId).committed
      world.store <+: _ :=
    committed_prefix_of_run ran
  exact ⟨reached.committed, grown⟩

/-- The tables of one tenant, before anything is recorded. -/
def oneTenant : TrustDatabase where
  tenants := [js "tenant-1"]
  cryptoIdentities := []
  algorithms := []
  keys := []
  revocations := []
  events := []
  auditEntries := []

def publishedEvent : TrustEventRow where
  eventId := js "event-1"
  tenantId := js "tenant-1"
  structureVersion := js "1"
  streamId := js "settings:card-1"
  eventType := js "settings.published.signed"
  provenanceLifecycle := some (js "published")
  subjectType := js "settings_snapshot"
  subjectId := js "version-1"
  actorIdentityId := none
  occurredAt := 0
  idempotencyKey := js "key-1"
  details := .object []

def genesisEntry : AuditEntryRow where
  entryId := js "audit_1"
  tenantId := js "tenant-1"
  structureVersion := js "1"
  streamId := js "settings:card-1"
  sequenceNumber := 1
  previousDigest := none
  eventId := js "event-1"
  eventPayload := .object []
  eventDigest := List.replicate 64 97
  entryDigest := List.replicate 64 98
  checkpointSequence := none
  checkpointDigest := none
  appendedAt := 0

/-! ## Two sessions on one stream -/

def followingEvent : TrustEventRow :=
  { publishedEvent with
    eventId := js "event-2"
    idempotencyKey := js "key-2" }

def followingEntry : AuditEntryRow :=
  { genesisEntry with
    entryId := js "audit_2"
    sequenceNumber := 2
    previousDigest := some genesisEntry.entryDigest
    eventId := js "event-2"
    eventDigest := List.replicate 64 99
    entryDigest := List.replicate 64 100 }

/-- Both sessions record their events, and the first one holds the lock of the
stream when the second one asks for it. -/
def contendedActions : List (Action Timestamptz AuditStatement) :=
  [.start 1, .start 2, .submit 1 (.insertEvent publishedEvent), .acquire 1,
    .submit 2 (.insertEvent followingEvent), .acquire 2, .acquire 2,
    .acquire 1, .finish 1, .finish 2,
    .submit 1 (.insertEntry genesisEntry), .acquire 1,
    .submit 2 (.insertEntry followingEntry)]

/-- The second session goes on when the first one has committed. -/
def releasedActions : List (Action Timestamptz AuditStatement) :=
  [.acquire 1, .finish 1, .commit 1, .acquire 2, .acquire 2, .finish 2,
    .commit 2]

def auditWorld : AuditWorld :=
  ⟨0, oneTenant, fun _ => none, fun _ => none⟩

/-- What links the rows of the stream. -/
def links (database : TrustDatabase) :
    List (JsString × Int × Option JsString) :=
  (auditStream (js "tenant-1") (js "settings:card-1") database).map
    fun row => (row.entryDigest, row.sequenceNumber, row.previousDigest)

theorem auditStreams_chained_contended :
    (run (step (auditSystem fun _ => 0)) auditWorld
        (contendedActions ++ [.acquire 2])).isOk = false ∧
      ∃ next, run (step (auditSystem fun _ => 0)) auditWorld
          (contendedActions ++ releasedActions) = .ok next ∧
        links next.store =
          [(genesisEntry.entryDigest, 1, none),
            (followingEntry.entryDigest, 2,
              some genesisEntry.entryDigest)] ∧
        Chained (auditStream (js "tenant-1") (js "settings:card-1")
          next.store) := by
  refine ⟨by decide +kernel, ?_⟩
  have reaches : (run (step (auditSystem fun _ => 0)) auditWorld
      (contendedActions ++ releasedActions)).toOption.map (fun next =>
        links next.store) =
      some [(genesisEntry.entryDigest, 1, none),
        (followingEntry.entryDigest, 2,
          some genesisEntry.entryDigest)] := by
    decide +kernel
  rcases Option.map_eq_some_iff.mp reaches with ⟨next, reached, linked⟩
  have ran := toOption_eq_some.mp reached
  have idle : IsIdle auditWorld := ⟨fun _ => rfl, fun _ => rfl⟩
  refine ⟨next, ran, linked, ?_⟩
  exact (auditStreams_chained (fun _ => 0) idle (fun _ _ => chained_nil) ran
    _ _).1

end BidayaxExecutive.TrustStore
