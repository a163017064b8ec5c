import BidayaxExecutive.Communications.Dispatch
import BidayaxExecutive.Library.Tables

/-!
# Queued dispatches have standing consent

The receipt that a queued attempt cites is the only one of its subject that is
granted and effective, and no revocation stands against it.  A denial is a
receipt that no query asks for: the consent stands exactly when no receipt of
the subject denies it from the instant the cited receipt takes effect.
-/

namespace BidayaxExecutive.Communications

open BidayaxExecutive.Library.Guards
open BidayaxExecutive.Library.Runs
open BidayaxExecutive.Library.Tables

variable {database next : CommunicationsDatabase} {attempt : DispatchAttempt}
  {time : Timestamptz}

/-! ## Runs -/

/-- `elsewhere` stands for whatever is done to the other tables. -/
inductive ConsentStatement where
  | insertPolicy (new : ConsentPolicy)
  | mutatePolicy (consentPolicyId : Text)
  | insertReceipt (new : ConsentReceipt)
  | mutateReceipt (consentReceiptId : Text)
  | insertSuppression (new : Suppression)
  | updateSuppression (suppressionId : Text)
      (revise : Suppression → Suppression)
  | deleteSuppression (suppressionId : Text)
  | insertDispatch (now : Timestamptz) (new : DispatchAttempt)
  | updateDispatch (now : Timestamptz) (attemptId : Text)
      (revise : DispatchAttempt → DispatchAttempt)
  | deleteDispatch (attemptId : Text)
  | elsewhere (other : CommunicationsDatabase)

/-- An update or a deletion that every row it finds refuses. -/
def refuseMutation (database : CommunicationsDatabase)
    (refusal : Accepted CommunicationsDatabase) (present : Bool) :
    Accepted CommunicationsDatabase :=
  if present then refusal else pure database

def executeConsent (readTimestamptz : Text → Option Timestamptz)
    (database : CommunicationsDatabase) :
    ConsentStatement → Accepted CommunicationsDatabase
  | .insertPolicy new => insertConsentPolicy database new
  | .mutatePolicy consentPolicyId =>
      refuseMutation database preventCommunicationEvidenceMutation <|
        database.consentPolicies.any fun policy =>
          policy.consentPolicyId == consentPolicyId
  | .insertReceipt new => insertConsentReceipt database readTimestamptz new
  | .mutateReceipt consentReceiptId =>
      refuseMutation database preventCommunicationEvidenceMutation <|
        database.consentReceipts.any fun receipt =>
          receipt.consentReceiptId == consentReceiptId
  | .insertSuppression new => insertSuppression database new
  | .updateSuppression suppressionId revise =>
      updateSuppression database suppressionId revise
  | .deleteSuppression suppressionId =>
      refuseMutation database
        (throw <| .raised
          "communication suppression evidence cannot be deleted") <|
        database.suppressions.any fun suppression =>
          suppression.suppressionId == suppressionId
  | .insertDispatch now new => insertDispatchAttempt database now new
  | .updateDispatch now attemptId revise =>
      updateDispatchAttempt database now attemptId revise
  | .deleteDispatch attemptId =>
      pure { database with
        dispatchAttempts := database.dispatchAttempts.filter fun attempt =>
          attempt.attemptId ≠ attemptId }
  | .elsewhere other =>
      pure { other with
        consentPolicies := database.consentPolicies
        consentReceipts := database.consentReceipts
        suppressions := database.suppressions
        dispatchAttempts := database.dispatchAttempts }

/-- The statement writes the attempt in state `queued` at the instant. -/
def Queues (database : CommunicationsDatabase) (attempt : DispatchAttempt)
    (time : Timestamptz) : ConsentStatement → Prop
  | .insertDispatch now new =>
      attempt = new ∧ time = now ∧ new.state = .queued
  | .updateDispatch now attemptId revise =>
      ∃ old, findDispatchAttempt database attemptId = some old ∧
        attempt = revise old ∧ time = now ∧ (revise old).state = .queued
  | _ => False

/-! ## What the checks of receipts keep -/

structure ReceiptsChecked (database : CommunicationsDatabase) : Prop where
  keys : (database.consentReceipts.map
    ConsentReceipt.consentReceiptId).Nodup
  revokedAt : ∀ receipt ∈ database.consentReceipts,
    receipt.status = .revoked ↔ receipt.revokedAt.isSome = true

theorem receiptsChecked_of_same (checked : ReceiptsChecked database)
    (same : next.consentReceipts = database.consentReceipts) :
    ReceiptsChecked next := by
  constructor
  · rw [same]
    exact checked.keys
  · rw [same]
    exact checked.revokedAt

theorem receiptsChecked_insert
    {readTimestamptz : Text → Option Timestamptz} {new : ConsentReceipt}
    (checked : ReceiptsChecked database)
    (inserted : insertConsentReceipt database readTimestamptz new =
      .ok next) : ReceiptsChecked next := by
  unfold insertConsentReceipt at inserted
  rcases bind_eq_ok.mp inserted with ⟨_, _, inScope⟩
  rcases bind_eq_ok.mp inScope with ⟨_, _, carded⟩
  rcases bind_eq_ok.mp carded with ⟨_, _, guarded⟩
  simp only [guard_eq_ok, not_or, not_not, List.any_eq_true, not_exists,
    not_and, beq_iff_eq] at guarded
  have isNext := Except.ok.inj guarded.2.2.2
  have receipts : next.consentReceipts = database.consentReceipts ++ [new] :=
    by rw [← isNext]
  constructor
  · rw [receipts]
    exact nodup_map_insert _ checked.keys guarded.2.1
  · intro receipt member
    rw [receipts] at member
    cases List.mem_append.mp member with
    | inl earlier =>
        exact checked.revokedAt receipt earlier
    | inr added =>
        rw [List.mem_singleton.mp added]
        exact guarded.1.2

theorem refuseMutation_eq_ok {refusal : Refusal} {present : Bool}
    (refused : refuseMutation database (throw refusal) present = .ok next) :
    next = database := by
  unfold refuseMutation at refused
  cases present with
  | false =>
      exact (Except.ok.inj refused).symm
  | true =>
      exact absurd refused throw_ne_ok

theorem consentReceipts_updateSuppression {suppressionId : Text}
    {revise : Suppression → Suppression}
    (updated : updateSuppression database suppressionId revise = .ok next) :
    next.consentReceipts = database.consentReceipts := by
  unfold updateSuppression at updated
  cases found : database.suppressions.find? fun suppression =>
      suppression.suppressionId == suppressionId with
  | none =>
      simp only [found] at updated
      rw [← Except.ok.inj updated]
  | some old =>
      simp only [found] at updated
      rcases bind_eq_ok.mp updated with ⟨_, _, carded⟩
      rcases bind_eq_ok.mp carded with ⟨_, _, moved⟩
      rcases bind_eq_ok.mp moved with ⟨_, _, guarded⟩
      simp only [guard_eq_ok] at guarded
      rw [← Except.ok.inj guarded.2.2.2.2]

theorem consentReceipts_insertSuppression {new : Suppression}
    (inserted : insertSuppression database new = .ok next) :
    next.consentReceipts = database.consentReceipts := by
  unfold insertSuppression at inserted
  rcases bind_eq_ok.mp inserted with ⟨_, _, carded⟩
  rcases bind_eq_ok.mp carded with ⟨_, _, guarded⟩
  simp only [guard_eq_ok] at guarded
  rw [← Except.ok.inj guarded.2.2.2]

theorem checked_of_admitDispatchInsert {now : Timestamptz}
    {new row : DispatchAttempt}
    (admitted : admitDispatchInsert database now new = .ok row) :
    checkDispatchAttempt database now .insert new = .ok row := by
  unfold admitDispatchInsert at admitted
  rcases bind_eq_ok.mp admitted with ⟨checkedRow, checked, guarded⟩
  simp only [guard_eq_ok] at guarded
  rw [← Except.ok.inj guarded.2.2]
  exact checked

theorem checked_of_admitDispatchUpdate {now : Timestamptz}
    {old new row : DispatchAttempt}
    (admitted : admitDispatchUpdate database now old new = .ok row) :
    checkDispatchAttempt database now (.update old) new = .ok row := by
  unfold admitDispatchUpdate at admitted
  rcases bind_eq_ok.mp admitted with ⟨checkedRow, checked, guarded⟩
  simp only [guard_eq_ok] at guarded
  rw [← Except.ok.inj guarded.2.2]
  exact checked

theorem insertDispatchAttempt_eq_ok {now : Timestamptz}
    {new : DispatchAttempt}
    (inserted : insertDispatchAttempt database now new = .ok next) :
    (∃ row, admitDispatchInsert database now new = .ok row) ∧
      next.consentReceipts = database.consentReceipts := by
  unfold insertDispatchAttempt at inserted
  rcases bind_eq_ok.mp inserted with ⟨row, admitted, isNext⟩
  refine ⟨⟨row, admitted⟩, ?_⟩
  rw [← Except.ok.inj isNext]

theorem updateDispatchAttempt_eq_ok {now : Timestamptz} {attemptId : Text}
    {revise : DispatchAttempt → DispatchAttempt}
    (updated : updateDispatchAttempt database now attemptId revise =
      .ok next) :
    (∀ old, findDispatchAttempt database attemptId = some old →
      ∃ row, admitDispatchUpdate database now old (revise old) =
        .ok row) ∧
      next.consentReceipts = database.consentReceipts := by
  unfold updateDispatchAttempt at updated
  cases found : findDispatchAttempt database attemptId with
  | none =>
      simp only [found] at updated
      rw [← Except.ok.inj updated]
      exact ⟨fun _ absurdity => (nomatch absurdity), rfl⟩
  | some old =>
      simp only [found] at updated
      rcases bind_eq_ok.mp updated with ⟨row, admitted, isNext⟩
      refine ⟨fun other same => ?_, ?_⟩
      · rw [← Option.some.inj same]
        exact ⟨row, admitted⟩
      · rw [← Except.ok.inj isNext]

theorem receiptsChecked_execute
    {readTimestamptz : Text → Option Timestamptz}
    {statement : ConsentStatement} (checked : ReceiptsChecked database)
    (executed : executeConsent readTimestamptz database statement =
      .ok next) : ReceiptsChecked next := by
  cases statement with
  | insertReceipt new =>
      exact receiptsChecked_insert checked executed
  | insertPolicy new =>
      simp only [executeConsent, insertConsentPolicy, guard_eq_ok] at executed
      refine receiptsChecked_of_same checked ?_
      rw [← Except.ok.inj executed.2.2.2]
  | mutatePolicy consentPolicyId =>
      rw [refuseMutation_eq_ok executed]
      exact checked
  | mutateReceipt consentReceiptId =>
      rw [refuseMutation_eq_ok executed]
      exact checked
  | insertSuppression new =>
      exact receiptsChecked_of_same checked
        (consentReceipts_insertSuppression executed)
  | updateSuppression suppressionId revise =>
      exact receiptsChecked_of_same checked
        (consentReceipts_updateSuppression executed)
  | deleteSuppression suppressionId =>
      rw [refuseMutation_eq_ok executed]
      exact checked
  | insertDispatch now new =>
      exact receiptsChecked_of_same checked
        (insertDispatchAttempt_eq_ok executed).2
  | updateDispatch now attemptId revise =>
      exact receiptsChecked_of_same checked
        (updateDispatchAttempt_eq_ok executed).2
  | deleteDispatch attemptId =>
      refine receiptsChecked_of_same checked ?_
      rw [← Except.ok.inj executed]
  | elsewhere other =>
      refine receiptsChecked_of_same checked ?_
      rw [← Except.ok.inj executed]

theorem receiptsChecked_run {readTimestamptz : Text → Option Timestamptz}
    {initial : CommunicationsDatabase} {statements : List ConsentStatement}
    (isNew : initial.consentReceipts = [])
    (ran : run (executeConsent readTimestamptz) initial statements =
      .ok database) : ReceiptsChecked database := by
  have start : ReceiptsChecked initial := by
    constructor
    · rw [isNew]
      exact List.nodup_nil
    · rw [isNew]
      exact fun _ member => nomatch member
  refine run_preserves _ ReceiptsChecked ?_ start ran
  intro state statement after checked executed
  exact receiptsChecked_execute checked executed

/-! ## The two queries -/

/-- The receipt is of the subject of the attempt, granted and in force, and so
is its policy. -/
structure ConsentReceipt.Stands (database : CommunicationsDatabase)
    (attempt : DispatchAttempt) (time : Timestamptz)
    (receipt : ConsentReceipt) : Prop where
  concerns : receipt.concerns attempt = true
  granted : receipt.status = .granted
  effective : isEffective receipt.effectiveAt receipt.expiresAt time = true
  policy : ∃ policy ∈ database.consentPolicies,
    policy.tenantId = receipt.tenantId ∧
      policy.consentPolicyId = receipt.consentPolicyId ∧
      isEffective policy.effectiveAt policy.expiresAt time = true

theorem mem_activeConsents {receipt : ConsentReceipt}
    {policy : ConsentPolicy} :
    (receipt, policy) ∈ activeConsents database attempt time ↔
      (receipt ∈ database.consentReceipts ∧
        policy ∈ database.consentPolicies) ∧
      (policy.tenantId = receipt.tenantId ∧
        policy.consentPolicyId = receipt.consentPolicyId ∧
        isEffective policy.effectiveAt policy.expiresAt time = true) ∧
      (receipt.concerns attempt = true ∧ receipt.status = .granted ∧
        isEffective receipt.effectiveAt receipt.expiresAt time = true ∧
        receipt.revokedAt = none) ∧
      isConsentRevoked database attempt time = false := by
  unfold activeConsents
  rw [List.mem_filter, List.pair_mem_product]
  simp only [Bool.and_eq_true, beq_iff_eq, Option.isNone_iff_eq_none,
    Bool.not_eq_true']
  tauto

theorem eq_of_length_one {Item : Type} {items : List Item}
    (one : items.length = 1) {first second : Item} (isFirst : first ∈ items)
    (isSecond : second ∈ items) : first = second := by
  rcases List.length_eq_one_iff.mp one with ⟨only, same⟩
  rw [same] at isFirst isSecond
  exact (List.mem_singleton.mp isFirst).trans
    (List.mem_singleton.mp isSecond).symm

/-- What the checks of a queued attempt have counted. -/
structure Counted (database : CommunicationsDatabase)
    (attempt : DispatchAttempt) (time : Timestamptz) : Prop where
  selected : (selectedConsents database attempt time).length = 1
  active : (activeConsents database attempt time).length = 1
  suppressions : activeSuppressions database attempt time = []

theorem checkQueuedDispatch_eq_ok {result : PUnit} :
    checkQueuedDispatch database attempt time = .ok result ↔
      Counted database attempt time := by
  unfold checkQueuedDispatch
  simp only [guard_eq_ok, lastGuard_eq_ok, not_not, gt_iff_lt, not_lt,
    Nat.le_zero_eq, List.length_eq_zero_iff]
  constructor
  · intro checked
    exact ⟨checked.1, checked.2.1, checked.2.2⟩
  · intro counted
    exact ⟨counted.selected, counted.active, counted.suppressions⟩

theorem counted_of_checkDispatchAttempt
    {operation : TriggerOperation DispatchAttempt} {row : DispatchAttempt}
    (checked : checkDispatchAttempt database time operation attempt =
      .ok row) (queued : attempt.state = .queued) :
    Counted database attempt time := by
  unfold checkDispatchAttempt at checked
  rcases bind_eq_ok.mp checked with ⟨_, _, enforcedRest⟩
  rcases bind_eq_ok.mp enforcedRest with ⟨_, enforced, _⟩
  unfold enforceCommunicationDispatchPolicy at enforced
  cases operation with
  | insert =>
      simp only [guard_eq_ok, queued, if_true] at enforced
      rcases bind_eq_ok.mp enforced.2 with ⟨_, counted, _⟩
      exact checkQueuedDispatch_eq_ok.mp counted
  | update old =>
      simp only [guard_eq_ok, queued, if_true] at enforced
      rcases bind_eq_ok.mp enforced.2.2 with ⟨_, counted, _⟩
      exact checkQueuedDispatch_eq_ok.mp counted

theorem counted_of_queues {readTimestamptz : Text → Option Timestamptz}
    {statement : ConsentStatement}
    (queues : Queues database attempt time statement)
    (executed : executeConsent readTimestamptz database statement =
      .ok next) : Counted database attempt time := by
  cases statement with
  | insertDispatch now new =>
      rcases queues with ⟨isNew, isNow, queued⟩
      subst isNew isNow
      rcases (insertDispatchAttempt_eq_ok executed).1 with ⟨row, admitted⟩
      exact counted_of_checkDispatchAttempt
        (checked_of_admitDispatchInsert admitted) queued
  | updateDispatch now attemptId revise =>
      rcases queues with ⟨old, found, isNew, isNow, queued⟩
      subst isNew isNow
      rcases (updateDispatchAttempt_eq_ok executed).1 old found with
        ⟨row, admitted⟩
      exact counted_of_checkDispatchAttempt
        (checked_of_admitDispatchUpdate admitted) queued
  | _ =>
      exact queues.elim

/-! ## Standing consent -/

/-- A receipt of the subject with the status that is effective from the cited
receipt on, and at the instant. -/
def Withdraws (attempt : DispatchAttempt) (time : Timestamptz)
    (cited : ConsentReceipt) (status : ConsentStatus)
    (receipt : ConsentReceipt) : Prop :=
  receipt.concerns attempt = true ∧ receipt.status = status ∧
    cited.effectiveAt ≤ receipt.effectiveAt ∧ receipt.effectiveAt ≤ time

structure StandingConsent (database : CommunicationsDatabase)
    (attempt : DispatchAttempt) (time : Timestamptz)
    (cited : ConsentReceipt) : Prop where
  isCited : cited ∈ database.consentReceipts ∧
    some cited.consentReceiptId = attempt.consentReceiptId
  stands : cited.Stands database attempt time
  only : ∀ receipt ∈ database.consentReceipts,
    receipt.Stands database attempt time → receipt = cited
  unwithdrawn : ∀ receipt ∈ database.consentReceipts,
    ¬Withdraws attempt time cited .revoked receipt ∧
      ¬Withdraws attempt time cited .denied receipt

/-- No receipt of the subject denies it from the cited receipt on. -/
def Undenied (database : CommunicationsDatabase) (attempt : DispatchAttempt)
    (time : Timestamptz) : Prop :=
  ∀ cited ∈ database.consentReceipts,
    some cited.consentReceiptId = attempt.consentReceiptId →
    ∀ receipt ∈ database.consentReceipts,
      ¬Withdraws attempt time cited .denied receipt

/-- What the queries establish: all but the denials. -/
theorem standing_of_counted (checked : ReceiptsChecked database)
    (counted : Counted database attempt time) :
    ∃ cited, (cited ∈ database.consentReceipts ∧
        some cited.consentReceiptId = attempt.consentReceiptId) ∧
      cited.Stands database attempt time ∧
      (∀ receipt ∈ database.consentReceipts,
        receipt.Stands database attempt time → receipt = cited) ∧
      ∀ receipt ∈ database.consentReceipts,
        ¬Withdraws attempt time cited .revoked receipt := by
  rcases List.length_eq_one_iff.mp counted.selected with
    ⟨⟨cited, policy⟩, isSelected⟩
  have selected : (cited, policy) ∈
      selectedConsents database attempt time := by
    rw [isSelected]
    exact List.mem_cons_self
  rcases List.mem_filter.mp selected with ⟨active, isCited⟩
  rcases mem_activeConsents.mp active with ⟨stored, scope, facts, unrevoked⟩
  refine ⟨cited, ⟨stored.1, by simpa using isCited⟩,
    ⟨facts.1, facts.2.1, facts.2.2.1, policy, stored.2, scope⟩, ?_, ?_⟩
  · intro receipt member stands
    rcases stands.policy with ⟨other, isPolicy, otherScope⟩
    have notRevoked : receipt.revokedAt = none := by
      have status := (checked.revokedAt receipt member).not.mp
      rw [stands.granted] at status
      simpa using status (by decide)
    have alsoActive : (receipt, other) ∈
        activeConsents database attempt time :=
      mem_activeConsents.mpr ⟨⟨member, isPolicy⟩, otherScope,
        ⟨stands.concerns, stands.granted, stands.effective, notRevoked⟩,
        unrevoked⟩
    exact congrArg Prod.fst
      (eq_of_length_one counted.active alsoActive active)
  · intro receipt member withdraws
    have revoked : isConsentRevoked database attempt time = true := by
      refine List.any_eq_true.mpr ⟨receipt, member, ?_⟩
      simp [withdraws.1, withdraws.2.1, withdraws.2.2.2]
    rw [unrevoked] at revoked
    exact nomatch revoked

theorem queued_standingConsent {readTimestamptz : Text → Option Timestamptz}
    {initial : CommunicationsDatabase} {statements : List ConsentStatement}
    {statement : ConsentStatement} (isNew : initial.consentReceipts = [])
    (ran : run (executeConsent readTimestamptz) initial statements =
      .ok database)
    (queues : Queues database attempt time statement)
    (executed : executeConsent readTimestamptz database statement =
      .ok next) :
    (∃ cited, StandingConsent database attempt time cited) ↔
      Undenied database attempt time := by
  have checked := receiptsChecked_run isNew ran
  have counted := counted_of_queues queues executed
  rcases standing_of_counted checked counted with
    ⟨cited, isCited, stands, only, unrevoked⟩
  constructor
  · intro standing
    rcases standing with ⟨standingReceipt, standing⟩
    intro other isOther isNamed receipt member withdraws
    have sameKey : other.consentReceiptId =
        standingReceipt.consentReceiptId :=
      Option.some.inj (isNamed.trans standing.isCited.2.symm)
    have same := List.inj_on_of_nodup_map checked.keys isOther
      standing.isCited.1 sameKey
    rw [same] at withdraws
    exact (standing.unwithdrawn receipt member).2 withdraws
  · intro undenied
    refine ⟨cited, isCited, stands, only, fun receipt member => ?_⟩
    exact ⟨unrevoked receipt member,
      undenied cited isCited.1 isCited.2 receipt member⟩

/-! ## A consent that is denied afterwards -/

def seconds (count : Int) : Timestamptz :=
  count * 1000000

/-- The instants that occur below. -/
def readInstant (text : Text) : Option Timestamptz :=
  if text = "1970-01-01T00:00:10Z" then some (seconds 10)
  else if text = "1970-01-01T00:00:20Z" then some (seconds 20)
  else none

def callbackPolicy : ConsentPolicy where
  consentPolicyId := "policy"
  tenantId := "tenant"
  cardId := some "card"
  policyVersion := "1"
  jurisdiction := "EU"
  channel := .telephony
  purpose := .callback
  effectiveAt := 0
  expiresAt := none

def callbackReceipt (identifier : Text) (status : ConsentStatus)
    (effectiveAt : Timestamptz) : ConsentReceipt where
  consentReceiptId := identifier
  tenantId := "tenant"
  cardId := some "card"
  participantId := "visitor"
  consentPolicyId := "policy"
  channel := .telephony
  purpose := .callback
  status := status
  source := .visitor
  evidenceReferenceId := identifier
  observedAt := effectiveAt
  effectiveAt := effectiveAt
  expiresAt := none
  revokedAt := none

def callbackEvidence (identifier : Text) (status : ConsentStatus)
    (effectiveAt : Text) : TrustEvidenceReference where
  trustEvidenceReferenceId := identifier
  tenantId := "tenant"
  cardId := some "card"
  communicationId := "call"
  domain := "communications.consent"
  artifactSchema := "communication-consent-v1"
  evidenceFields := .object
    [("consentReceiptId", .string identifier),
      ("channel", .string "telephony"), ("purpose", .string "callback"),
      ("participantId", .string "visitor"),
      ("consentPolicyId", .string "policy"),
      ("status", .string status.text), ("source", .string "visitor"),
      ("policyVersion", .string "1"), ("observedAt", .string effectiveAt),
      ("effectiveAt", .string effectiveAt), ("expiresAt", .null),
      ("revokedAt", .null)]

def callbackCommand : CommandReservation where
  tenantId := "tenant"
  cardId := some "card"
  scopeType := .card
  scopeId := "card"
  operation := .requestCallback
  idempotencyKey := "key"
  requestHash :=
    "0000000000000000000000000000000000000000000000000000000000000000"
  resultCommunicationId := none
  actorType := .user
  actorUserId := some "owner"
  actorServiceId := none
  actorPlatformId := none
  sessionId := some "session"
  cardGrantId := some "grant"
  authorizationDecisionId := "event"
  requiredPermission := "communications:request_callback"
  permissionVersion := "communications-permissions-v1"
  policyVersion := "communications-policy-v1"
  status := .reserved
  createdAt := 0
  completedAt := none
  expiresAt := none

/-- A card with a visitor, a call and a reserved callback. -/
def callbackDesk : CommunicationsDatabase where
  lifecycleTransitionSetting := none
  tenants := ["tenant"]
  cardProfiles := [("card", "tenant")]
  memberships := [⟨"membership", "tenant", "owner", .tenantOwner, .active⟩]
  sessions := []
  grants := []
  cryptoIdentities := []
  communications :=
    [{  communicationId := "call"
        tenantId := "tenant"
        cardId := some "card"
        channel := .telephony
        direction := .outbound
        currentState := .requested
        stateVersion := 0
        createdAt := 0
        updatedAt := 0 }]
  transitions := []
  participants := [⟨"visitor", "tenant", some "card"⟩]
  consentPolicies := []
  consentReceipts := []
  suppressions := []
  commands := [callbackCommand]
  dispatchAttempts := []
  auditEvents := []
  trustReferences :=
    [callbackEvidence "granted" .granted "1970-01-01T00:00:10Z",
      callbackEvidence "denied" .denied "1970-01-01T00:00:20Z"]
  furtherReferences := []

def callbackAttempt : DispatchAttempt where
  attemptId := "attempt"
  tenantId := "tenant"
  cardId := "card"
  communicationId := "call"
  participantId := "visitor"
  purpose := .callback
  consentReceiptId := some "granted"
  suppressionId := none
  commandOperation := "request_callback"
  commandIdempotencyKey := "key"
  adapterId := "adapter"
  channel := .telephony
  state := .queued
  retryCount := 0
  providerDispatchEnabled := false
  providerReferenceId := none
  createdAt := seconds 30
  policyEvaluatedAt := seconds 30
  updatedAt := seconds 30

def grantedConsent : List ConsentStatement :=
  [.insertPolicy callbackPolicy,
    .insertReceipt (callbackReceipt "granted" .granted (seconds 10))]

theorem grantedConsent_standing :
    ∃ database next,
      run (executeConsent readInstant) callbackDesk grantedConsent =
        .ok database ∧
      executeConsent readInstant database
        (.insertDispatch (seconds 30) callbackAttempt) = .ok next ∧
      ((∃ cited, StandingConsent database callbackAttempt (seconds 30)
          cited) ↔
        Undenied database callbackAttempt (seconds 30)) := by
  refine ⟨_, _, rfl, rfl, ?_⟩
  have ran : run (executeConsent readInstant) callbackDesk grantedConsent =
      .ok _ := rfl
  have queues : ∀ database, Queues database callbackAttempt (seconds 30)
      (.insertDispatch (seconds 30) callbackAttempt) :=
    fun _ => ⟨rfl, rfl, rfl⟩
  exact queued_standingConsent rfl ran (queues _) rfl

/-- The visitor consents at ten seconds and denies at twenty; the callback is
queued at thirty. -/
def deniedConsent : List ConsentStatement :=
  [.insertPolicy callbackPolicy,
    .insertReceipt (callbackReceipt "granted" .granted (seconds 10)),
    .insertReceipt (callbackReceipt "denied" .denied (seconds 20))]

theorem deniedConsent_not_standing :
    ∃ database next,
      run (executeConsent readInstant) callbackDesk deniedConsent =
        .ok database ∧
      executeConsent readInstant database
        (.insertDispatch (seconds 30) callbackAttempt) = .ok next ∧
      ¬∃ cited, StandingConsent database callbackAttempt (seconds 30)
        cited := by
  refine ⟨_, _, rfl, rfl, fun standing => ?_⟩
  rcases standing with ⟨cited, standing⟩
  have unwithdrawn := standing.unwithdrawn
    (callbackReceipt "denied" .denied (seconds 20))
    (List.mem_cons_of_mem _ List.mem_cons_self)
  have isCited := standing.only
    (callbackReceipt "granted" .granted (seconds 10)) List.mem_cons_self
    ⟨rfl, rfl, rfl, callbackPolicy, List.mem_cons_self, rfl, rfl, rfl⟩
  rw [← isCited] at unwithdrawn
  exact unwithdrawn.2 ⟨rfl, rfl, by decide, by decide⟩

end BidayaxExecutive.Communications
