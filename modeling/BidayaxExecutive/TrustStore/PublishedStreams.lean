import BidayaxExecutive.TrustStore.SealedChains
import BidayaxExecutive.TrustStore.TrustedPublishes
import Mathlib.Data.List.Forall2

/-!
# What the verifier finds in the streams of the publishes

A publish appends to the chain it has read, whatever was committed since.  The
trigger refuses the row when the stream has grown, and the keys of the tables
refuse what `appendAuditChainEntry` does not look for: an idempotency key that
was used, an event that was sealed, a second successor.  So of every stream the
verifier accepts all but the last entry, whatever publishes run at a time.
-/

namespace BidayaxExecutive.TrustStore

open BidayaxExecutive.Communications (Refusal Timestamptz)
open BidayaxExecutive.Library.Guards
open BidayaxExecutive.Library.LockingTransactions
open BidayaxExecutive.Library.Runs
open BidayaxExecutive.Library.SerializedLogs
open BidayaxExecutive.Runtime
open BidayaxExecutive.Trust

/-! ## Rows and the entries they are read as -/

section Reading

variable {time : SqlTime} {rows : List AuditEntryRow}
  {chain : List AuditChainEntry}

def ReadAs (time : SqlTime) :
    List AuditEntryRow → List AuditChainEntry → Prop :=
  List.Forall₂ fun row entry => readEntry time row = some entry

theorem mapM_readEntry :
    rows.mapM (readEntry time) = some chain ↔ ReadAs time rows chain := by
  induction rows generalizing chain with
  | nil =>
      rw [List.mapM_nil, ReadAs, List.forall₂_nil_left_iff]
      exact ⟨fun same => (Option.some.inj same).symm, fun same => same ▸ rfl⟩
  | cons row rest inductionHypothesis =>
      rw [List.mapM_cons, ReadAs, List.forall₂_cons_left_iff]
      simp only [Option.bind_eq_bind, Option.bind_eq_some_iff,
        inductionHypothesis]
      constructor
      · rintro ⟨entry, read, others, readRest, same⟩
        exact ⟨entry, others, read, readRest, (Option.some.inj same).symm⟩
      · rintro ⟨entry, others, read, readRest, rfl⟩
        exact ⟨entry, read, others, readRest, rfl⟩

theorem ReadAs.append {row : AuditEntryRow} {entry : AuditChainEntry}
    (read : ReadAs time rows chain)
    (last : readEntry time row = some entry) :
    ReadAs time (rows ++ [row]) (chain ++ [entry]) :=
  List.rel_append read (.cons last .nil)

theorem ReadAs.row_of_mem (read : ReadAs time rows chain)
    {entry : AuditChainEntry} (member : entry ∈ chain) :
    ∃ row ∈ rows, readEntry time row = some entry := by
  induction read with
  | nil =>
      exact (List.not_mem_nil member).elim
  | cons head _ inductionHypothesis =>
      rcases List.mem_cons.mp member with rfl | later
      · exact ⟨_, List.mem_cons_self, head⟩
      · rcases inductionHypothesis later with ⟨row, inRest, isRead⟩
        exact ⟨row, List.mem_cons_of_mem _ inRest, isRead⟩

theorem ReadAs.getLast? (read : ReadAs time rows chain)
    {row : AuditEntryRow} (isLast : rows.getLast? = some row) :
    ∃ entry, chain.getLast? = some entry ∧
      readEntry time row = some entry := by
  have backwards := List.forall₂_reverse_iff.mpr read
  rw [← List.head?_reverse, List.head?_eq_some_iff] at isLast
  rcases isLast with ⟨earlier, reversed⟩
  rw [reversed] at backwards
  rcases List.forall₂_cons_left_iff.mp backwards with
    ⟨entry, entries, isRead, _, isChain⟩
  refine ⟨entry, ?_, isRead⟩
  rw [← List.head?_reverse, isChain, List.head?_cons]

/-- The columns that an entry is read from. -/
theorem columns_of_readEntry {row : AuditEntryRow} {entry : AuditChainEntry}
    (read : readEntry time row = some entry) :
    entry.sequence = .integer row.sequenceNumber ∧
      entry.previousDigest = row.previousDigest ∧
      entry.eventDigest = row.eventDigest ∧
      entry.entryDigest = row.entryDigest ∧
      trustEventOfJson? row.eventPayload = some entry.event := by
  rw [readEntry] at read
  rcases Option.bind_eq_some_iff.mp read with ⟨event, isEvent, same⟩
  cases Option.some.inj same
  exact ⟨rfl, rfl, rfl, rfl, isEvent⟩

theorem priorAuditChain_of_chained {database : TrustDatabase}
    {tenantId streamId : JsString}
    (chained : Chained (auditStream tenantId streamId database)) :
    priorAuditChain time database tenantId streamId = some chain ↔
      ReadAs time (auditStream tenantId streamId database) chain := by
  have sorted : (auditStream tenantId streamId database).Pairwise
      fun left right => left.sequenceNumber ≤ right.sequenceNumber := by
    refine List.isChain_iff_pairwise.mp (chained.follows.imp ?_)
    intro left right follows
    exact follows.1 ▸ le_of_lt (Int.lt_succ _)
  rw [priorAuditChain, List.Pairwise.insertionSort_eq sorted,
    mapM_readEntry]

end Reading

/-! ## What holds of the tables -/

def cardStream (tenantId streamId : JsString) : AuditStream where
  streamId := streamId
  tenantId := tenantId
  startingCheckpoint := none

structure Published (host : Host) (time : SqlTime)
    (tenantId streamId : JsString) (rows : List AuditEntryRow) : Prop where
  chained : Chained rows
  sealed : ∃ chain, ReadAs time rows chain ∧
    SealedChain host (cardStream tenantId streamId).options chain

theorem published_nil (host : Host) (time : SqlTime)
    (tenantId streamId : JsString) :
    Published host time tenantId streamId [] :=
  ⟨chained_nil, [], .nil, sealedChain_nil host _⟩

/-- The event of a row in the table of the events. -/
def Records (time : SqlTime) (event : TrustEventRow) (row : AuditEntryRow) :
    Prop :=
  ∀ entry, readEntry time row = some entry →
    event.eventId = entry.event.eventId ∧ event.tenantId = row.tenantId ∧
      event.idempotencyKey = entry.event.idempotencyKey

structure RecordedEvents (time : SqlTime) (database : TrustDatabase) :
    Prop where
  recorded : ∀ row ∈ database.auditEntries, ∃ event ∈ database.events,
    Records time event row
  distinct : ∀ tenantId idempotencyKey,
    (database.events.filter
      (TrustEventRow.hasKey tenantId idempotencyKey)).length ≤ 1

theorem RecordedEvents.unique {time : SqlTime} {database : TrustDatabase}
    (events : RecordedEvents time database) {first second : TrustEventRow}
    (isFirst : first ∈ database.events) (isSecond : second ∈ database.events)
    (sameTenant : first.tenantId = second.tenantId)
    (sameKey : first.idempotencyKey = second.idempotencyKey) :
    first = second := by
  have distinct := events.distinct second.tenantId second.idempotencyKey
  have firstKept : first ∈ database.events.filter
      (TrustEventRow.hasKey second.tenantId second.idempotencyKey) := by
    rw [List.mem_filter, TrustEventRow.hasKey, sameTenant, sameKey]
    simp [isFirst]
  have secondKept : second ∈ database.events.filter
      (TrustEventRow.hasKey second.tenantId second.idempotencyKey) := by
    rw [List.mem_filter, TrustEventRow.hasKey]
    simp [isSecond]
  revert distinct firstKept secondKept
  generalize database.events.filter _ = kept
  intro distinct firstKept secondKept
  rcases kept with _ | ⟨only, _ | ⟨other, rest⟩⟩
  · exact (List.not_mem_nil firstKept).elim
  · rw [List.mem_singleton.mp firstKept, List.mem_singleton.mp secondKept]
  · rw [List.length_cons, List.length_cons] at distinct
    omega

/-! ## What a transaction has prepared -/

/-- The entry was appended to a chain that the stream had. -/
def Prepared (host : Host) (time : SqlTime) (tenantId streamId : JsString)
    (rows : List AuditEntryRow) (entry : AuditChainEntry) : Prop :=
  ∃ (publish : TrustedPublish) (read : List AuditEntryRow)
      (chain : List AuditChainEntry),
    read <+: rows ∧ ReadAs time read chain ∧
    publish.event.tenantId = tenantId ∧ publish.event.streamId = streamId ∧
    appendAuditChainEntry host (publish.input chain) = .ok entry

/-- The entry that is not inserted yet. -/
def PublishStage.entry? : PublishStage → Option AuditChainEntry
  | .built entry | .recorded entry => some entry
  | .started | .appended => none

structure Knows (host : Host) (time : SqlTime) (tenantId streamId : JsString)
    (rows : List AuditEntryRow) (writes : PublishWrites) : Prop where
  prepared : ∀ entry ∈ writes.stage.entry?, entry.tenantId = tenantId →
    entry.streamId = streamId → Prepared host time tenantId streamId rows entry
  recorded : ∀ entry, writes.stage = .recorded entry →
    ∃ row ∈ writes.audit.events, eventRow time entry.event = .ok row

theorem Prepared.mono {host : Host} {time : SqlTime}
    {tenantId streamId : JsString} {rows more : List AuditEntryRow}
    {entry : AuditChainEntry}
    (prepared : Prepared host time tenantId streamId rows entry) :
    Prepared host time tenantId streamId (rows ++ more) entry := by
  rcases prepared with ⟨publish, read, chain, isPrefix, isRead, scope⟩
  exact ⟨publish, read, chain, isPrefix.trans (List.prefix_append _ _),
    isRead, scope⟩

/-- What an appended entry shares with its input. -/
theorem scope_of_appends {host : Host} {publish : TrustedPublish}
    {chain : List AuditChainEntry} {entry : AuditChainEntry}
    (appends : appendAuditChainEntry host (publish.input chain) =
      .ok entry) :
    entry.tenantId = publish.event.tenantId ∧
      entry.streamId = publish.event.streamId ∧
      entry.event = publish.event ∧ entry.checkpoint = none := by
  rcases appended_of_eq_ok (appendAuditChainEntry_eq_ok.mp appends).2 with
    ⟨appendedAt, sealedEvent, digest, appended, rfl⟩
  refine ⟨rfl, rfl, rfl, ?_⟩
  exact ite_self none

/-! ## Inserting the prepared entry -/

section Insertion

variable {host : Host} {time : SqlTime} {tenantId streamId : JsString}
  {rows read : List AuditEntryRow} {chain : List AuditChainEntry}
  {publish : TrustedPublish} {entry : AuditChainEntry}
  {row : AuditEntryRow}

/-- The sequence number of a row that was appended to what was read. -/
theorem sequenceNumber_of_appends (isRead : ReadAs time read chain)
    (appends : appendAuditChainEntry host (publish.input chain) = .ok entry)
    (isRow : IsRowOf time entry row) :
    row.sequenceNumber =
      match read.getLast? with
      | none => 1
      | some previous => previous.sequenceNumber + 1 := by
  rcases appended_of_eq_ok (appendAuditChainEntry_eq_ok.mp appends).2 with
    ⟨appendedAt, sealedEvent, digest, appended, rfl⟩
  have counted := isRow.sequence
  cases last : read.getLast? with
  | none =>
      rw [List.getLast?_eq_none_iff.mp last, ReadAs,
        List.forall₂_nil_left_iff] at isRead
      subst isRead
      exact (Option.some.inj counted).symm
  | some previous =>
      rcases isRead.getLast? last with ⟨earlier, isLast, earlierRead⟩
      have safe := sequence_of_entryDigest appended.entrySealed
      have bounds := JsNumber.bounds_of_isSafeInteger safe counted
      have isLast' : (publish.input chain).chain.getLast? = some earlier :=
        isLast
      simp only [AppendInput.entry, isLast'] at counted
      have before := JsNumber.toInt?_of_increment bounds counted
      rw [(columns_of_readEntry earlierRead).1] at before
      have same : previous.sequenceNumber = row.sequenceNumber - 1 :=
        Option.some.inj before
      simp only [same, Int.sub_add_cancel]

/-- The trigger accepts the row only when the stream has not grown. -/
theorem read_eq_of_continues (chained : Chained rows)
    (isPrefix : read <+: rows) (isRead : ReadAs time read chain)
    (appends : appendAuditChainEntry host (publish.input chain) = .ok entry)
    (isRow : IsRowOf time entry row) (continues : Continues rows row) :
    read = rows := by
  have number := sequenceNumber_of_appends isRead appends isRow
  cases last : rows.getLast? with
  | none =>
      rw [List.getLast?_eq_none_iff.mp last] at isPrefix ⊢
      exact List.prefix_nil.mp isPrefix
  | some previous =>
      rw [Continues, last] at continues
      cases lastRead : read.getLast? with
      | none =>
          rw [lastRead, continues.1] at number
          have checked := chained.checked previous
            (List.mem_of_getLast? last)
          simp only [AuditEntryRow.checks, Bool.and_eq_true,
            decide_eq_true_eq] at checked
          have first : previous.sequenceNumber + 1 = 1 := number
          omega
      | some earlier =>
          rw [lastRead, continues.1] at number
          have sameNumber : previous.sequenceNumber =
              earlier.sequenceNumber := by
            simpa using number
          refine isPrefix.eq_of_length ?_
          rcases isPrefix with ⟨rest, rfl⟩
          by_contra different
          have nonempty : rest ≠ [] := by
            intro isEmpty
            rw [isEmpty, List.append_nil] at different
            exact different rfl
          rw [List.getLast?_append_of_ne_nil _ nonempty] at last
          have unshared := (List.pairwise_append.mp chained.unshared).2.2
            earlier (List.mem_of_getLast? lastRead) previous
            (List.mem_of_getLast? last)
          rw [AuditEntryRow.sharesStreamKey, sameNumber,
            beq_self_eq_true] at unshared
          simp at unshared

/-- The row continues the chain that was read, which the stream still is. -/
theorem current_of_admitted {database : TrustDatabase}
    (published : Published host time tenantId streamId
      (auditStream tenantId streamId database))
    (prepared : Prepared host time tenantId streamId
      (auditStream tenantId streamId database) entry)
    (written : entryRow time entry = .ok row)
    (admitted : Admitted database row) :
    ∃ (publish : TrustedPublish) (chain : List AuditChainEntry),
      ReadAs time (auditStream tenantId streamId database) chain ∧
        publish.event.tenantId = tenantId ∧
        publish.event.streamId = streamId ∧
        appendAuditChainEntry host (publish.input chain) = .ok entry ∧
        IsRowOf time entry row := by
  rcases prepared with
    ⟨publish, read, chain, isPrefix, isRead, rfl, rfl, appends⟩
  rcases scope_of_appends appends with ⟨sameTenant, sameStream, _, genesis⟩
  have isRow := isRowOf_of_entryRow genesis written
  rcases scope_of_entryRow written with ⟨rowTenant, rowStream⟩
  have chained := published.chained
  rw [← sameTenant, ← sameStream, ← rowTenant, ← rowStream] at chained
  have continues :=
    continues_of_enforceTrustAuditAppend chained admitted.enforced
  rw [rowTenant, sameTenant, rowStream, sameStream] at continues
  have same := read_eq_of_continues published.chained isPrefix isRead appends
    isRow continues
  rw [same] at isRead
  exact ⟨publish, chain, isRead, rfl, rfl, appends, isRow⟩

/-- The row of a prepared entry keeps the stream as it should be. -/
theorem Published.append (faithful : time.Faithful host)
    {database : TrustDatabase}
    (published : Published host time tenantId streamId
      (auditStream tenantId streamId database))
    (events : RecordedEvents time database)
    (prepared : Prepared host time tenantId streamId
      (auditStream tenantId streamId database) entry)
    (recorded : ∃ event ∈ database.events,
      eventRow time entry.event = .ok event)
    (written : entryRow time entry = .ok row)
    (admitted : Admitted database row) :
    Published host time tenantId streamId
      (auditStream tenantId streamId database ++ [row]) := by
  rcases current_of_admitted published prepared written admitted with
    ⟨publish, chain, isRead, rfl, rfl, appends, isRow⟩
  rcases scope_of_appends appends with ⟨sameTenant, sameStream, _, genesis⟩
  rcases scope_of_entryRow written with ⟨rowTenant, rowStream⟩
  have unshared := admitted.unshared_stream
  have stillChained : Chained (auditStream row.tenantId row.streamId
      database) → Chained _ := admitted.chained
  rw [rowTenant, sameTenant, rowStream, sameStream] at unshared stillChained
  rcases appended_of_eq_ok (appendAuditChainEntry_eq_ok.mp appends).2 with
    ⟨appendedAt, sealedEvent, digest, appended, rfl⟩
  have checked := admitted.checked
  simp only [AuditEntryRow.checks, Bool.and_eq_true,
    decide_eq_true_eq] at checked
  have rowRead := isRow.readEntry faithful genesis rfl appended.time
    checked.1.1.1.1.1.1.2
  -- what the keys of the stream keep the row from sharing
  have differs : ∀ earlier ∈ chain,
      sealedEvent ≠ earlier.eventDigest ∧
        (row.previousDigest.isSome →
          row.previousDigest ≠ earlier.previousDigest) := by
    intro earlier member
    rcases isRead.row_of_mem member with ⟨other, inStream, otherRead⟩
    rcases columns_of_readEntry otherRead with ⟨_, previous, sealedOther, _⟩
    have apart := unshared other inStream
    simp only [AuditEntryRow.sharesStreamKey, Bool.or_eq_false_iff,
      Bool.and_eq_false_iff, beq_eq_false_iff_ne] at apart
    rw [sealedOther, previous]
    refine ⟨?_, ?_⟩
    · have sealedRow : row.eventDigest = sealedEvent := by
        rw [isRow.columns]
        rfl
      rw [← sealedRow]
      exact apart.1.1.2
    · intro isSome
      exact apart.2.resolve_left (by simp [isSome])
  refine ⟨stillChained published.chained, _, isRead.append rowRead,
    sealedChain_append appends ?_ ?_ ?_⟩
  · intro earlier member sameKey
    rcases isRead.row_of_mem member with ⟨other, inStream, otherRead⟩
    rcases recorded with ⟨own, isOwn, converted⟩
    rcases events.recorded other (List.mem_filter.mp inStream).1 with
      ⟨event, isEvent, records⟩
    rcases records earlier otherRead with ⟨sameId, eventTenant, eventKey⟩
    rcases keys_of_eventRow converted with ⟨ownId, ownTenant, ownKey⟩
    have otherTenant : other.tenantId = publish.event.tenantId := by
      have ofStream := (List.mem_filter.mp inStream).2
      simp only [AuditEntryRow.ofStream, Bool.and_eq_true,
        beq_iff_eq] at ofStream
      exact ofStream.1
    have isOnly : event = own :=
      events.unique isEvent isOwn
        (eventTenant.trans (otherTenant.trans ownTenant.symm))
        (eventKey.trans (sameKey.trans ownKey.symm))
    rw [isOnly, ownId] at sameId
    exact appended.newId earlier member sameId.symm
  · intro earlier member sealedTwice
    rw [show eventDigest host (publish.input chain).event =
      .ok sealedEvent from appended.eventSealed] at sealedTwice
    exact (differs earlier member).1 (Except.ok.inj sealedTwice)
  · intro last isLast earlier member follows
    have isLast' : (publish.input chain).chain.getLast? = some last := isLast
    have previous : row.previousDigest = some last.entryDigest := by
      rw [isRow.columns]
      simp only [AppendInput.entry, isLast']
    refine (differs earlier member).2 ?_ (previous.trans follows.symm)
    rw [previous, Option.isSome_some]

end Insertion

end BidayaxExecutive.TrustStore
