import BidayaxExecutive.Communications.StandingConsent
import BidayaxExecutive.Communications.SubjectLocks

/-!
# Dispatches and the suppressions they race with

While a queued attempt holds the locks of its subject, the suppressions and the
receipts of its participant do not change: whatever was committed before is
seen.  But a row is evaluated at the instant the transaction of the attempt
began, so one that is dated after this instant is passed over, although it was
committed before the locks were obtained.
-/

namespace BidayaxExecutive.Communications

open BidayaxExecutive.Library.Guards
open BidayaxExecutive.Library.LockingTransactions
open BidayaxExecutive.Library.Runs

/-! ## The rows of a participant -/

def Suppression.ofParticipant (attempt : DispatchAttempt)
    (suppression : Suppression) : Bool :=
  suppression.tenantId == attempt.tenantId &&
    suppression.cardId == some attempt.cardId &&
    suppression.participantId == attempt.participantId

def ConsentReceipt.ofParticipant (attempt : DispatchAttempt)
    (receipt : ConsentReceipt) : Bool :=
  receipt.tenantId == attempt.tenantId &&
    receipt.cardId == some attempt.cardId &&
    receipt.participantId == attempt.participantId

def participantRows (attempt : DispatchAttempt)
    (database : CommunicationsDatabase) :
    List Suppression × List ConsentReceipt :=
  (database.suppressions.filter (Suppression.ofParticipant attempt),
    database.consentReceipts.filter (ConsentReceipt.ofParticipant attempt))

section Races

variable {hashtextextended : Text → Int}
  {readTimestamptz : Text → Option Timestamptz} {attempt : DispatchAttempt}

/-- The lock without channel and purpose. -/
def participantLock (hashtextextended : Text → Int)
    (attempt : DispatchAttempt) : PolicyResource :=
  lockCommunicationPolicySubject hashtextextended attempt.tenantId
    (some attempt.cardId) attempt.participantId none none

theorem participantLock_mem_hierarchy {channel purpose : Option Text} :
    participantLock hashtextextended attempt ∈
      lockCommunicationPolicySubjectHierarchy hashtextextended
        attempt.tenantId (some attempt.cardId) attempt.participantId channel
        purpose := by
  simp [participantLock, lockCommunicationPolicySubjectHierarchy]

theorem participantLock_mem_suppression {suppression : Suppression}
    (concerns : suppression.ofParticipant attempt = true) :
    participantLock hashtextextended attempt ∈
      suppression.locks hashtextextended := by
  simp only [Suppression.ofParticipant, Bool.and_eq_true,
    beq_iff_eq] at concerns
  rw [Suppression.locks, concerns.1.1, concerns.1.2, concerns.2]
  exact participantLock_mem_hierarchy

theorem participantLock_mem_receipt {receipt : ConsentReceipt}
    (concerns : receipt.ofParticipant attempt = true) :
    participantLock hashtextextended attempt ∈
      receipt.locks hashtextextended := by
  simp only [ConsentReceipt.ofParticipant, Bool.and_eq_true,
    beq_iff_eq] at concerns
  rw [ConsentReceipt.locks, concerns.1.1, concerns.1.2, concerns.2]
  exact participantLock_mem_hierarchy

theorem participantLock_mem_attempt (queued : attempt.state = .queued) :
    participantLock hashtextextended attempt ∈
      attempt.locks hashtextextended := by
  rw [DispatchAttempt.locks, if_pos queued]
  exact participantLock_mem_hierarchy

/-! ## What the locks guard -/

def PolicyWrites.participantRows (attempt : DispatchAttempt)
    (writes : PolicyWrites) : List Suppression × List ConsentReceipt :=
  (writes.suppressions.filter (Suppression.ofParticipant attempt),
    writes.receipts.filter (ConsentReceipt.ofParticipant attempt))

theorem participantRows_apply {writes : PolicyWrites}
    (untouched : writes.participantRows attempt = ([], []))
    (database : CommunicationsDatabase) :
    participantRows attempt (writes.apply database) =
      participantRows attempt database := by
  rcases Prod.mk.inj untouched with ⟨suppressions, receipts⟩
  unfold participantRows PolicyWrites.apply
  rw [List.filter_append, List.filter_append, suppressions, receipts,
    List.append_nil, List.append_nil]

theorem filter_append_of_not {Row : Type} {keep : Row → Bool}
    {rows : List Row} {row : Row} (dropped : ¬keep row = true) :
    (rows ++ [row]).filter keep = rows.filter keep := by
  rw [List.filter_append, List.filter_singleton,
    Bool.eq_false_of_not_eq_true dropped]
  exact List.append_nil _

/-- A statement that writes a row of the participant needs the lock. -/
theorem participantRows_perform {now : Timestamptz}
    {database store : CommunicationsDatabase} {statement : PolicyStatement}
    {resources : List PolicyResource} {writes after : PolicyWrites}
    (needs : statement.resources hashtextextended store = some resources)
    (performed : statement.perform readTimestamptz now database writes =
      .ok after) :
    participantLock hashtextextended attempt ∈ resources ∨
      after.participantRows attempt = writes.participantRows attempt := by
  cases statement with
  | suppress new =>
      rcases bind_eq_ok.mp performed with ⟨_, _, isAfter⟩
      rw [← Except.ok.inj isAfter]
      by_cases concerns : new.ofParticipant attempt = true
      · rw [← Option.some.inj needs]
        exact .inl (List.mem_append_left _
          (participantLock_mem_suppression concerns))
      · right
        unfold PolicyWrites.participantRows
        rw [filter_append_of_not concerns]
  | receive new =>
      rcases bind_eq_ok.mp performed with ⟨_, _, isAfter⟩
      rw [← Except.ok.inj isAfter]
      by_cases concerns : new.ofParticipant attempt = true
      · rw [← Option.some.inj needs]
        exact .inl (List.mem_append_left _
          (participantLock_mem_receipt concerns))
      · right
        unfold PolicyWrites.participantRows
        rw [filter_append_of_not concerns]
  | dispatch new =>
      rcases bind_eq_ok.mp performed with ⟨_, _, isAfter⟩
      rw [← Except.ok.inj isAfter]
      exact .inr rfl
  | redispatch attemptId new =>
      simp only [PolicyStatement.perform] at performed
      cases found : findDispatchAttempt database attemptId with
      | none =>
          simp only [found] at performed
          rw [← Except.ok.inj performed]
          exact .inr rfl
      | some old =>
          simp only [found] at performed
          rcases bind_eq_ok.mp performed with ⟨_, _, isAfter⟩
          rw [← Except.ok.inj isAfter]
          exact .inr rfl

/-- A transaction that has written rows of the participant holds the lock. -/
structure GuardsParticipant (hashtextextended : Text → Int)
    (readTimestamptz : Text → Option Timestamptz)
    (attempt : DispatchAttempt) (transaction : PolicyTransaction) : Prop where
  locking : Locking (policySystem hashtextextended readTimestamptz)
    transaction
  written : participantLock hashtextextended attempt ∈ transaction.acquired ∨
    transaction.writes.participantRows attempt = ([], [])

theorem keptBySteps_guardsParticipant :
    KeptBySteps (policySystem hashtextextended readTimestamptz)
      (GuardsParticipant hashtextextended readTimestamptz attempt) where
  started instant := ⟨keptBySteps_locking.started instant, .inr rfl⟩
  submitted store statement resources guards waiting needs :=
    ⟨keptBySteps_locking.submitted store statement resources guards.locking
      waiting needs, guards.written⟩
  acquired statement resource rest guards waiting := by
    refine ⟨keptBySteps_locking.acquired statement resource rest
      guards.locking waiting, ?_⟩
    cases guards.written with
    | inl acquired =>
        exact .inl (List.mem_cons_of_mem _ acquired)
    | inr untouched =>
        exact .inr untouched
  finished := by
    intro transaction store statement after guards waiting performed
    refine ⟨keptBySteps_locking.finished store statement after
      guards.locking waiting performed, ?_⟩
    rcases guards.locking statement [] waiting with
      ⟨seen, resources, needs, covered⟩
    cases participantRows_perform needs performed with
    | inl needed =>
        cases covered _ needed with
        | inl acquired =>
            exact .inl acquired
        | inr awaited =>
            exact nomatch awaited
    | inr same =>
        cases guards.written with
        | inl acquired =>
            exact .inl acquired
        | inr untouched =>
            exact .inr (same.trans untouched)

theorem guards_of_guardsParticipant (transaction : PolicyTransaction)
    (guards : GuardsParticipant hashtextextended readTimestamptz attempt
      transaction) :
    Guards (policySystem hashtextextended readTimestamptz)
      (participantLock hashtextextended attempt) (participantRows attempt)
      transaction := by
  cases guards.written with
  | inl acquired =>
      exact .inl acquired
  | inr untouched =>
      exact .inr (participantRows_apply untouched)

/-! ## An attempt that has its locks -/

/-- The statement finds its row and writes the attempt in state `queued`. -/
def PolicyStatement.Queues (database : CommunicationsDatabase)
    (attempt : DispatchAttempt) : PolicyStatement → Prop
  | .dispatch new => attempt = new ∧ new.state = .queued
  | .redispatch attemptId new =>
      (∃ old, findDispatchAttempt database attemptId = some old) ∧
        attempt = new ∧ new.state = .queued
  | _ => False

theorem participantLock_mem_queues
    {database store : CommunicationsDatabase} {statement : PolicyStatement}
    {resources : List PolicyResource}
    (queues : statement.Queues database attempt)
    (needs : statement.resources hashtextextended store = some resources) :
    participantLock hashtextextended attempt ∈ resources := by
  cases statement with
  | dispatch new =>
      rcases queues with ⟨isNew, queued⟩
      subst isNew
      rw [← Option.some.inj needs]
      exact List.mem_append_left _ (participantLock_mem_attempt queued)
  | redispatch attemptId new =>
      rcases queues with ⟨_, isNew, queued⟩
      subst isNew
      simp only [PolicyStatement.resources] at needs
      cases found : findDispatchAttempt store attemptId with
      | none =>
          simp only [found] at needs
          exact nomatch needs
      | some old =>
          simp only [found] at needs
          rw [← Option.some.inj needs]
          exact List.mem_append_left _
            (List.mem_cons_of_mem _ (participantLock_mem_attempt queued))
  | _ =>
      exact queues.elim

theorem counted_of_perform {now : Timestamptz}
    {database : CommunicationsDatabase} {statement : PolicyStatement}
    {writes after : PolicyWrites}
    (queues : statement.Queues database attempt)
    (performed : statement.perform readTimestamptz now database writes =
      .ok after) : Counted database attempt now := by
  cases statement with
  | dispatch new =>
      rcases queues with ⟨isNew, queued⟩
      subst isNew
      rcases bind_eq_ok.mp performed with ⟨row, admitted, _⟩
      exact counted_of_checkDispatchAttempt
        (checked_of_admitDispatchInsert admitted) queued
  | redispatch attemptId new =>
      rcases queues with ⟨⟨old, found⟩, isNew, queued⟩
      subst isNew
      simp only [PolicyStatement.perform, found] at performed
      rcases bind_eq_ok.mp performed with ⟨row, admitted, _⟩
      exact counted_of_checkDispatchAttempt
        (checked_of_admitDispatchUpdate admitted) queued
  | _ =>
      exact queues.elim

/-! ## Rows that bar an attempt -/

/-- An active suppression that is neither released nor expired, or a
revocation; with the instant the row is dated at. -/
inductive Barred (database : CommunicationsDatabase)
    (attempt : DispatchAttempt) (instant : Timestamptz) : Timestamptz → Prop
  | suppressed (suppression : Suppression) :
      suppression ∈ database.suppressions →
      suppression.covers attempt = true → suppression.status = .active →
      suppression.releasedAt = none →
      (∀ expiresAt ∈ suppression.expiresAt, instant < expiresAt) →
      Barred database attempt instant suppression.createdAt
  | revoked (receipt : ConsentReceipt) :
      receipt ∈ database.consentReceipts →
      receipt.concerns attempt = true → receipt.status = .revoked →
      Barred database attempt instant receipt.effectiveAt

variable {database other : CommunicationsDatabase}
  {instant time date : Timestamptz}

theorem Barred.of_participantRows
    (barred : Barred database attempt instant date)
    (same : participantRows attempt other =
      participantRows attempt database) :
    Barred other attempt instant date := by
  rcases Prod.mk.inj same with ⟨suppressions, receipts⟩
  cases barred with
  | suppressed suppression member covers active unreleased unexpired =>
      have concerns : suppression.ofParticipant attempt = true := by
        simp only [Suppression.covers, Bool.and_eq_true] at covers
        simp only [Suppression.ofParticipant, Bool.and_eq_true]
        exact covers.1.1
      have kept := List.mem_filter.mpr ⟨member, concerns⟩
      rw [← suppressions] at kept
      exact .suppressed suppression (List.mem_filter.mp kept).1 covers
        active unreleased unexpired
  | revoked receipt member concerns status =>
      have ofParticipant : receipt.ofParticipant attempt = true := by
        simp only [ConsentReceipt.concerns, Bool.and_eq_true] at concerns
        simp only [ConsentReceipt.ofParticipant, Bool.and_eq_true]
        exact concerns.1.1
      have kept := List.mem_filter.mpr ⟨member, ofParticipant⟩
      rw [← receipts] at kept
      exact .revoked receipt (List.mem_filter.mp kept).1 concerns status

theorem Barred.apply (barred : Barred database attempt instant date)
    (writes : PolicyWrites) :
    Barred (writes.apply database) attempt instant date := by
  cases barred with
  | suppressed suppression member =>
      exact .suppressed suppression (List.mem_append_left _ member) ‹_› ‹_›
        ‹_› ‹_›
  | revoked receipt member =>
      exact .revoked receipt (List.mem_append_left _ member) ‹_› ‹_›

/-- A row that is dated no later than the evaluation is counted. -/
theorem Barred.not_counted (barred : Barred database attempt instant date)
    (dated : date ≤ time) (past : time ≤ instant) :
    ¬Counted database attempt time := by
  intro counted
  cases barred with
  | suppressed suppression member covers active unreleased unexpired =>
      have isActive : suppression ∈
          activeSuppressions database attempt time := by
        refine List.mem_filter.mpr ⟨member, ?_⟩
        have effective : isEffective suppression.createdAt
            suppression.expiresAt time = true := by
          simp only [isEffective, Bool.and_eq_true, decide_eq_true_eq,
            Option.all_eq_true]
          exact ⟨dated, fun expiresAt isSet =>
            lt_of_le_of_lt past (unexpired expiresAt isSet)⟩
        simp [covers, active, effective, unreleased]
      rw [counted.suppressions] at isActive
      exact nomatch isActive
  | revoked receipt member concerns status =>
      have revoked : isConsentRevoked database attempt time = true := by
        refine List.any_eq_true.mpr ⟨receipt, member, ?_⟩
        simp [concerns, status, dated]
      rcases List.length_eq_one_iff.mp counted.active with ⟨only, isActive⟩
      have active : only ∈ activeConsents database attempt time := by
        rw [isActive]
        exact List.mem_singleton_self only
      have unrevoked := (mem_activeConsents.mp active).2.2.2
      rw [revoked] at unrevoked
      exact nomatch unrevoked

/-! ## The race -/

/-- Of the rows committed when the locks are obtained, those dated no later
than the start of the transaction reject the attempt. -/
theorem queued_rejected {initial middle last : PolicyWorld}
    {before between : List PolicyAction} {session : Nat}
    {transaction : PolicyTransaction} {statement : PolicyStatement}
    (idle : IsIdle initial)
    (ranBefore : run (step (policySystem hashtextextended readTimestamptz))
      initial before = .ok middle)
    (isActive : middle.transactions session = some transaction)
    (locked : transaction.waiting = some (statement, []))
    (others : ∀ action ∈ between, action.session? ≠ some session)
    (ranBetween : run (step (policySystem hashtextextended readTimestamptz))
      middle between = .ok last)
    (queues : statement.Queues
      (view (policySystem hashtextextended readTimestamptz) last transaction)
      attempt)
    (barred : Barred middle.store attempt last.clock date)
    (dated : date ≤ transaction.start) :
    step (policySystem hashtextextended readTimestamptz) last
      (.finish session) = .ok (last.remove session) := by
  have kept : KeptBySteps (policySystem hashtextextended readTimestamptz)
      (GuardsParticipant hashtextextended readTimestamptz attempt) :=
    keptBySteps_guardsParticipant
  have orderly := (orderly_of_isIdle idle).run kept ranBefore
  have guards := orderly.each session transaction isActive
  rcases guards.locking statement [] locked with
    ⟨seen, resources, needs, covered⟩
  have holds : participantLock hashtextextended attempt ∈
      transaction.acquired := by
    cases covered _ (participantLock_mem_queues queues needs) with
    | inl acquired =>
        exact acquired
    | inr awaited =>
        exact nomatch awaited
  have unchanged := guarded_unchanged kept orderly
    guards_of_guardsParticipant isActive holds others ranBetween
  have past := (orderly.run kept ranBetween).past session transaction
    unchanged.1
  have stillBarred :=
    (barred.of_participantRows unchanged.2).apply transaction.writes
  cases performed : statement.perform readTimestamptz transaction.start
      (view (policySystem hashtextextended readTimestamptz) last transaction)
      transaction.writes with
  | ok after =>
      exact absurd (counted_of_perform queues performed)
        (stillBarred.not_counted dated past)
  | error refusal =>
      exact step_finish_of_error unchanged.1 locked performed

end Races

/-! ## A suppression that is outrun -/

/-- It tells the subjects of the locks below apart. -/
def textLength (text : Text) : Int :=
  text.length

def visitorSuppression : Suppression where
  suppressionId := "suppression"
  tenantId := "tenant"
  cardId := some "card"
  participantId := "visitor"
  channel := none
  purpose := none
  status := .active
  reasonCode := "requested"
  createdByActorId := "owner"
  releasedByActorId := none
  createdAt := seconds 20
  expiresAt := none
  releasedAt := none
  releaseReason := none
  auditEventId := none

/-- The visitor has consented, and nothing is under way. -/
def callbackWorld : PolicyWorld where
  clock := seconds 10
  store := { callbackDesk with
    consentPolicies := [callbackPolicy]
    consentReceipts := [callbackReceipt "granted" .granted (seconds 10)] }
  holders := fun _ => none
  transactions := fun _ => none

def callbackStep : PolicyWorld → PolicyAction → Except Disabled PolicyWorld :=
  step (policySystem textLength readInstant)

def suppressVisitor : List PolicyAction :=
  .submit 2 (.suppress visitorSuppression) ::
    List.replicate 5 (.acquire 2) ++ [.finish 2, .commit 2]

def lockCallback : List PolicyAction :=
  .submit 1 (.dispatch callbackAttempt) :: List.replicate 5 (.acquire 1)

theorem visitorSuppression_rejects :
    ∃ middle transaction,
      run callbackStep callbackWorld
        ([.tick (seconds 20), .start 2] ++ suppressVisitor ++
          .start 1 :: lockCallback) = .ok middle ∧
      middle.transactions 1 = some transaction ∧
      callbackStep middle (.finish 1) = .ok (middle.remove 1) := by
  refine ⟨_, _, rfl, rfl, ?_⟩
  have idle : IsIdle callbackWorld := ⟨fun _ => rfl, fun _ => rfl⟩
  have ran : run callbackStep callbackWorld
      ([.tick (seconds 20), .start 2] ++ suppressVisitor ++
        .start 1 :: lockCallback) = .ok _ := rfl
  have others : ∀ action ∈ ([] : List PolicyAction),
      action.session? ≠ some 1 :=
    fun _ absurdity => nomatch absurdity
  exact queued_rejected idle ran rfl rfl others rfl ⟨rfl, rfl⟩
    (.suppressed visitorSuppression List.mem_cons_self rfl rfl rfl
      fun _ isSet => nomatch isSet) le_rfl

/-- The dispatch begins at ten seconds; the suppression is inserted and
committed at twenty, before the dispatch asks for its locks. -/
theorem visitorSuppression_outrun :
    ∃ inserting middle next transaction,
      run callbackStep callbackWorld
        [.start 1, .tick (seconds 20), .start 2] = .ok inserting ∧
      visitorSuppression.createdAt ≤ inserting.clock ∧
      run callbackStep inserting (suppressVisitor ++ lockCallback) =
        .ok middle ∧
      middle.transactions 1 = some transaction ∧
      transaction.waiting = some (.dispatch callbackAttempt, []) ∧
      Barred middle.store callbackAttempt middle.clock
        visitorSuppression.createdAt ∧
      run callbackStep middle [.finish 1, .commit 1] = .ok next ∧
      ∃ row ∈ next.store.dispatchAttempts,
        row.attemptId = callbackAttempt.attemptId ∧ row.state = .queued := by
  refine ⟨_, _, _, _, rfl, ?_, rfl, rfl, rfl, ?_, rfl, _,
    List.mem_cons_self, rfl, rfl⟩
  · exact le_rfl
  · exact .suppressed visitorSuppression List.mem_cons_self rfl rfl rfl
      fun _ isSet => nomatch isSet

end BidayaxExecutive.Communications
