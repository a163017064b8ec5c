import BidayaxExecutive.Communications.Commands
import BidayaxExecutive.Communications.Consent
import BidayaxExecutive.Communications.LifecycleChanges

/-!
# Evidence that binds what it authorizes

Commands, lifecycle transitions, releases of suppressions and consent receipts
cite evidence, and the triggers compare its fields with the row.  A comparison
with a missing field is unknown and rejects nothing, so an accepted row is
bound to its evidence exactly when the evidence has every field.
-/

namespace BidayaxExecutive.Communications

open BidayaxExecutive.Library.Guards
open BidayaxExecutive.Library.ThreeValued

variable {database next : CommunicationsDatabase}

/-! ## Citations -/

/-- The cited evidence, and the fields it is to have with their values. -/
structure Citation where
  evidence : Jsonb
  fields : List (Text × Option Text)

/-- Every field is present and equal to the value of the row. -/
def Citation.Bound (citation : Citation) : Prop :=
  ∀ field ∈ citation.fields, field.2.isSome = true ∧
    citation.evidence.text? field.1 = field.2

/-- Every field is present. -/
def Citation.Complete (citation : Citation) : Prop :=
  ∀ field ∈ citation.fields,
    (citation.evidence.text? field.1).isSome = true

/-- The row has every value, and no comparison finds a difference. -/
structure Citation.Unrejected (citation : Citation) : Prop where
  known : ∀ field ∈ citation.fields, field.2.isSome = true
  same : ∀ field ∈ citation.fields,
    ¬(differs (citation.evidence.text? field.1) field.2).Holds

theorem not_holds_fieldsDiffer {evidence : Jsonb}
    {fields : List (Text × Option Text)} :
    ¬(fieldsDiffer evidence fields).Holds ↔
      ∀ field ∈ fields, ¬(differs (evidence.text? field.1) field.2).Holds := by
  unfold fieldsDiffer
  rw [not_holds_anyDiffers, List.forall_mem_map]

theorem Citation.bound_iff_complete {citation : Citation}
    (unrejected : citation.Unrejected) :
    citation.Bound ↔ citation.Complete := by
  have accepted : ¬(fieldsDiffer citation.evidence citation.fields).Holds :=
    not_holds_fieldsDiffer.mpr unrejected.same
  have known : ∀ pair ∈ citation.fields.map fun field =>
      (citation.evidence.text? field.1, field.2), pair.2.isSome = true :=
    List.forall_mem_map.mpr unrejected.known
  have agree := agree_iff_present accepted known
  rw [List.forall_mem_map, List.forall_mem_map] at agree
  constructor
  · intro bound
    exact agree.mp fun field member => (bound field member).2
  · intro complete field member
    exact ⟨unrejected.known field member, agree.mpr complete field member⟩

/-! ## The four kinds of rows -/

/-- A row that cites evidence; a release is an update of a suppression. -/
inductive EvidencedRow where
  | command (new : CommandReservation)
  | transition (new : LifecycleTransition)
  | release (old new : Suppression)
  | receipt (new : ConsentReceipt)

def citation? (database : CommunicationsDatabase) :
    EvidencedRow → Option Citation
  | .command new =>
      (commandDecision? database new).map fun decision =>
        ⟨decision.metadata, commandFields new ++
          if new.scopeType = .card then commandContextFields new else []⟩
  | .transition new =>
      (lifecycleDecision? database new).map fun decision =>
        ⟨decision.metadata, lifecycleFields new⟩
  | .release _ new =>
      (releaseEvent? database new).map fun release =>
        ⟨release.metadata, releaseFields new release⟩
  | .receipt new =>
      (consentEvidence? database new).map fun reference =>
        ⟨reference.evidenceFields, receiptFields new⟩

/-- The statement that writes the row is accepted. -/
def Accepts (readTimestamptz : Text → Option Timestamptz)
    (database : CommunicationsDatabase) (row : EvidencedRow) : Prop :=
  ∃ next, match row with
    | .command new => insertCommand database new = .ok next
    | .transition new => insertTransition database new = .ok next
    | .release old new =>
        database.suppressions.find? (fun suppression =>
          suppression.suppressionId == old.suppressionId) = some old ∧
        updateSuppression database old.suppressionId (fun _ => new) =
          .ok next
    | .receipt new =>
        insertConsentReceipt database readTimestamptz new = .ok next

/-- Evidence is cited that binds the row. -/
def BoundToEvidence (database : CommunicationsDatabase) (row : EvidencedRow) :
    Prop :=
  ∃ citation, citation? database row = some citation ∧ citation.Bound

/-- Evidence is cited that has every field. -/
def CitesCompleteEvidence (database : CommunicationsDatabase)
    (row : EvidencedRow) : Prop :=
  ∃ citation, citation? database row = some citation ∧ citation.Complete

/-! ## What each trigger leaves unrejected -/

/-- A command for a card is made by a user, with a session and a grant. -/
theorem CommandReservation.Valid.context_known {new : CommandReservation}
    (valid : new.Valid) (forCard : new.scopeType = .card) :
    new.sessionId.isSome = true ∧ new.cardGrantId.isSome = true := by
  have byUser : new.actorType = .user := by
    cases valid.permission with
    | inl platform =>
        exact nomatch forCard.symm.trans platform.2.1
    | inr others =>
        cases others with
        | inl tenant =>
            exact nomatch forCard.symm.trans tenant.2.1
        | inr card =>
            exact card.2.2.1
  exact ⟨valid.session.mp byUser, valid.cardGrant.mp ⟨forCard, byUser⟩⟩

theorem command_unrejected {new : CommandReservation}
    (inserted : insertCommand database new = .ok next) :
    ∃ citation, citation? database (.command new) = some citation ∧
      citation.Unrejected := by
  unfold insertCommand at inserted
  rcases bind_eq_ok.mp inserted with ⟨_, _, decidedRest⟩
  rcases bind_eq_ok.mp decidedRest with ⟨_, decided, checked⟩
  simp only [guard_eq_ok, not_not] at checked
  have valid := checked.1
  unfold enforceCommunicationCommandAuthorizationDecision at decided
  cases found : commandDecision? database new with
  | none =>
      simp [found] at decided
  | some decision =>
      simp only [found, guard_eq_ok] at decided
      have sameResource := not_holds_fieldsDiffer.mp decided.2.1
      have sameContext := decided.2.2.1
      refine ⟨_, congrArg (Option.map _) found, ?_⟩
      by_cases forCard : new.scopeType = .card
      · have context := valid.context_known forCard
        have sameUser := not_holds_fieldsDiffer.mp fun differ =>
          sameContext ⟨forCard, differ⟩
        rw [if_pos forCard]
        constructor
        · refine List.forall_mem_append.mpr ⟨?_, ?_⟩
          · simp [commandFields]
          · simpa [commandContextFields] using context
        · exact List.forall_mem_append.mpr ⟨sameResource, sameUser⟩
      · rw [if_neg forCard, List.append_nil]
        constructor
        · simp [commandFields]
        · exact sameResource

theorem transition_unrejected {new : LifecycleTransition}
    (inserted : insertTransition database new = .ok next) :
    ∃ citation, citation? database (.transition new) = some citation ∧
      citation.Unrejected := by
  rcases (insertTransition_eq_ok inserted).2 with ⟨decision, found, same⟩
  refine ⟨_, congrArg (Option.map _) found, ?_⟩
  constructor
  · simp [lifecycleFields]
  · exact not_holds_fieldsDiffer.mp same

theorem receipt_unrejected {readTimestamptz : Text → Option Timestamptz}
    {new : ConsentReceipt}
    (inserted : insertConsentReceipt database readTimestamptz new =
      .ok next) :
    ∃ citation, citation? database (.receipt new) = some citation ∧
      citation.Unrejected := by
  unfold insertConsentReceipt at inserted
  rcases bind_eq_ok.mp inserted with ⟨_, enforced, _⟩
  unfold enforceCommunicationConsentEvidenceReference at enforced
  cases found : consentEvidence? database new with
  | none =>
      simp [found] at enforced
  | some reference =>
      simp only [found, guard_eq_ok, not_or] at enforced
      refine ⟨_, congrArg (Option.map _) found, ?_⟩
      constructor
      · simp [receiptFields]
      · exact not_holds_fieldsDiffer.mp enforced.1.1

theorem release_unrejected {old new : Suppression}
    (found : database.suppressions.find? (fun suppression =>
      suppression.suppressionId == old.suppressionId) = some old)
    (updated : updateSuppression database old.suppressionId (fun _ => new) =
      .ok next) :
    ∃ citation, citation? database (.release old new) = some citation ∧
      citation.Unrejected := by
  unfold updateSuppression at updated
  simp only [found] at updated
  rcases bind_eq_ok.mp updated with ⟨_, evidenced, updatedRest⟩
  rcases bind_eq_ok.mp updatedRest with ⟨_, _, movedRest⟩
  rcases bind_eq_ok.mp movedRest with ⟨_, moved, checked⟩
  unfold enforceCommunicationSuppressionTransition at moved
  simp only [guard_eq_ok, not_or, not_not] at moved checked
  have released : new.status = .released := moved.2.1.2
  have reason : new.releaseReason.isSome = true := by
    cases noReason : new.releaseReason with
    | none =>
        have status := checked.1.status
        simp [released, noReason] at status
    | some text =>
        rfl
  unfold enforceCommunicationSuppressionActorEvidence at evidenced
  simp only [guard_eq_ok, released, if_true] at evidenced
  have releasing := evidenced.2
  unfold checkSuppressionRelease at releasing
  simp only [guard_eq_ok] at releasing
  cases event : releaseEvent? database new with
  | none =>
      simp [event] at releasing
  | some release =>
      simp only [event, guard_eq_ok] at releasing
      refine ⟨_, congrArg (Option.map _) event, ?_⟩
      constructor
      · simpa [releaseFields] using reason
      · exact not_holds_fieldsDiffer.mp releasing.2.1

/-! ## The four kinds together -/

theorem accepted_unrejected {readTimestamptz : Text → Option Timestamptz}
    {row : EvidencedRow} (accepts : Accepts readTimestamptz database row) :
    ∃ citation, citation? database row = some citation ∧
      citation.Unrejected := by
  rcases accepts with ⟨next, accepted⟩
  cases row with
  | command new =>
      exact command_unrejected accepted
  | transition new =>
      exact transition_unrejected accepted
  | release old new =>
      exact release_unrejected accepted.1 accepted.2
  | receipt new =>
      exact receipt_unrejected accepted

theorem boundToEvidence_iff {readTimestamptz : Text → Option Timestamptz}
    {row : EvidencedRow} (accepts : Accepts readTimestamptz database row) :
    BoundToEvidence database row ↔ CitesCompleteEvidence database row := by
  rcases accepted_unrejected accepts with ⟨citation, cited, unrejected⟩
  have iff := Citation.bound_iff_complete unrejected
  constructor
  · intro bound
    rcases bound with ⟨other, alsoCited, isBound⟩
    rw [cited] at alsoCited
    rw [← Option.some.inj alsoCited] at isBound
    exact ⟨citation, cited, iff.mp isBound⟩
  · intro complete
    rcases complete with ⟨other, alsoCited, isComplete⟩
    rw [cited] at alsoCited
    rw [← Option.some.inj alsoCited] at isComplete
    exact ⟨citation, cited, iff.mpr isComplete⟩

/-! ## A kill switch -/

def killSwitch : CommandReservation where
  tenantId := "tenant"
  cardId := none
  scopeType := .tenant
  scopeId := "tenant"
  operation := .applyTenantKillSwitch
  idempotencyKey := "key"
  requestHash :=
    "0000000000000000000000000000000000000000000000000000000000000000"
  resultCommunicationId := none
  actorType := .user
  actorUserId := some "owner"
  actorServiceId := none
  actorPlatformId := none
  sessionId := some "session"
  cardGrantId := none
  authorizationDecisionId := "event"
  requiredPermission := "communications:tenant:kill_switch"
  permissionVersion := "communications-permissions-v1"
  policyVersion := "communications-policy-v1"
  status := .reserved
  createdAt := 5
  completedAt := none
  expiresAt := none

/-- The owner of the tenant is signed in and has been authorized, with the
metadata. -/
def authorizedOwner (metadata : Jsonb) : CommunicationsDatabase where
  lifecycleTransitionSetting := none
  tenants := ["tenant"]
  cardProfiles := []
  memberships := [⟨"membership", "tenant", "owner", .tenantOwner, .active⟩]
  sessions := [⟨"session", "tenant", "owner", 100, 100, none⟩]
  grants := []
  cryptoIdentities := []
  communications := []
  transitions := []
  participants := []
  consentPolicies := []
  consentReceipts := []
  suppressions := []
  commands := []
  dispatchAttempts := []
  auditEvents :=
    [{  auditEventId := "event"
        tenantId := "tenant"
        cardId := none
        communicationId := none
        eventType := "communication.authorization_decision"
        actorType := .user
        actorUserId := some "owner"
        actorServiceId := none
        actorPlatformId := none
        authorizationDecisionId := "decision"
        permissionVersion := "communications-permissions-v1"
        policyVersion := "communications-policy-v1"
        result := .succeeded
        occurredAt := 4
        metadata := metadata }]
  trustReferences := []
  furtherReferences := []

def killSwitchMetadata : Jsonb :=
  .object [("operation", .string "apply_tenant_kill_switch"),
    ("scopeType", .string "tenant"), ("scopeId", .string "tenant"),
    ("requiredPermission", .string "communications:tenant:kill_switch"),
    ("requestHash", .string killSwitch.requestHash)]

theorem killSwitch_boundToEvidence :
    Accepts (fun _ => none) (authorizedOwner killSwitchMetadata)
        (.command killSwitch) ∧
      (BoundToEvidence (authorizedOwner killSwitchMetadata)
          (.command killSwitch) ↔
        CitesCompleteEvidence (authorizedOwner killSwitchMetadata)
          (.command killSwitch)) := by
  have accepts : Accepts (fun _ => none)
      (authorizedOwner killSwitchMetadata) (.command killSwitch) :=
    ⟨_, rfl⟩
  exact ⟨accepts, boundToEvidence_iff accepts⟩

/-- The evidence is an empty object. -/
theorem killSwitch_not_boundToEvidence :
    Accepts (fun _ => none) (authorizedOwner (.object []))
        (.command killSwitch) ∧
      ¬BoundToEvidence (authorizedOwner (.object []))
        (.command killSwitch) := by
  refine ⟨⟨_, rfl⟩, fun bound => ?_⟩
  rcases bound with ⟨citation, cited, isBound⟩
  rw [← Option.some.inj cited] at isBound
  have operation := isBound ("operation", some "apply_tenant_kill_switch")
    List.mem_cons_self
  exact nomatch operation.2

end BidayaxExecutive.Communications
