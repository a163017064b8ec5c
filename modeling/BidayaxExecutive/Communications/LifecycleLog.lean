import BidayaxExecutive.Communications.LifecycleChanges
import BidayaxExecutive.Library.EventLog

/-!
# A communication is the replay of its transitions

The communication keeps a state and a version, the transitions keep the whole
history.  In every run the state and the version are those that replaying the
history gives, so no communication leaves a terminal state.
-/

namespace BidayaxExecutive.Communications

open BidayaxExecutive.Library.Guards
open BidayaxExecutive.Library.EventLog
open BidayaxExecutive.Library.Runs

variable {database next : CommunicationsDatabase}

/-- The trigger and the domain package list the same transitions. -/
theorem isLifecycleTransition_eq (source target :
      CommunicationLifecycleState) :
    isLifecycleTransition source target =
      canTransitionCommunicationLifecycleState source target := by
  cases source <;> rfl

theorem canTransition_of_terminal {state : CommunicationLifecycleState}
    (terminal : state ∈ communicationTerminalStates)
    (target : CommunicationLifecycleState) :
    canTransitionCommunicationLifecycleState state target = false := by
  revert terminal
  cases state <;> simp [communicationTerminalStates,
    canTransitionCommunicationLifecycleState, allowedTransitions]

def LifecycleTransition.event (transition : LifecycleTransition) :
    Event CommunicationLifecycleState :=
  ⟨transition.sequenceNumber, transition.fromState, transition.toState⟩

def Communication.head (communication : Communication) :
    Head CommunicationLifecycleState :=
  ⟨communication.currentState, communication.stateVersion⟩

/-- The communication is where its transitions lead. -/
def Replayed (communication : Communication)
    (transitions : List LifecycleTransition) : Prop :=
  replay canTransitionCommunicationLifecycleState .requested
    (transitions.map LifecycleTransition.event) = some communication.head

theorem advance_of_continues {current : Communication}
    {new : LifecycleTransition} (continues : new.Continues current) :
    advance canTransitionCommunicationLifecycleState current.head
        new.event =
      some (current.moved new).head := by
  refine advance_eq_some.mpr
    ⟨⟨continues.fromState, continues.sequenceNumber, ?_⟩, rfl⟩
  have listed := continues.allowed
  rw [isLifecycleTransition_eq] at listed
  exact listed

theorem keptByChanges_replayed :
    KeptByChanges Replayed fun _ _ _ => True where
  inserted starts version _ := by
    rw [Replayed, Communication.head, starts, version]
    rfl
  updated replayed replaces _ := by
    rw [Replayed, Communication.head, replaces.currentState,
      replaces.stateVersion]
    exact replayed
  advanced replayed continues := by
    rw [Replayed, List.map_append]
    refine replay_append_singleton.trans ?_
    rw [Replayed] at replayed
    rw [replayed]
    exact advance_of_continues continues

theorem allowedUpdate_always (statement : LifecycleStatement) :
    AllowedUpdate (fun _ _ _ => True) database statement := by
  cases statement <;> simp [AllowedUpdate]

/-! ## Terminal states -/

/-- The communication is in the table and in the state. -/
def Stays (identifier tenantId : Text) (state : CommunicationLifecycleState)
    (database : CommunicationsDatabase) : Prop :=
  ∃ communication ∈ database.communications,
    communication.communicationId = identifier ∧
      communication.tenantId = tenantId ∧ communication.currentState = state

theorem transitionsOf_ne_nil {communication : Communication}
    (replayed : Replayed communication
      (transitionsOf database communication))
    (terminal : communication.currentState ∈ communicationTerminalStates) :
    transitionsOf database communication ≠ [] := by
  intro noneYet
  rw [Replayed, noneYet] at replayed
  have starts : communication.currentState = .requested :=
    (congrArg Head.state (Option.some.inj replayed)).symm
  rw [starts] at terminal
  revert terminal
  decide

theorem stays_of_change (consistent : Consistent database)
    (replayed : Each Replayed database)
    {identifier tenantId : Text} {state : CommunicationLifecycleState}
    (terminal : state ∈ communicationTerminalStates)
    {statement : LifecycleStatement}
    (change : Change database next statement)
    (stays : Stays identifier tenantId state database) :
    Stays identifier tenantId state next := by
  rcases stays with ⟨communication, member, isNamed, isTenant, isState⟩
  have stuck : communication.currentState ∈ communicationTerminalStates := by
    rw [isState]
    exact terminal
  have logged := transitionsOf_ne_nil
    (replayed communication member) stuck
  cases change with
  | none communications _ =>
      rw [Stays, communications]
      exact ⟨communication, member, isNamed, isTenant, isState⟩
  | inserted _ _ _ _ communications _ =>
      rw [Stays, communications]
      exact ⟨communication, List.mem_append_left _ member, isNamed, isTenant,
        isState⟩
  | @updated old revise isOld replaces renamed communications _ =>
      rw [Stays, communications]
      by_cases isUpdated : communication.communicationId =
          old.communicationId
      · have isSame := eq_of_key consistent member isOld isUpdated
        subst isSame
        have kept : (revise communication).communicationId =
            communication.communicationId := by
          by_contra isRenamed
          exact logged (renamed isRenamed).1
        exact ⟨revise communication,
          List.mem_map.mpr ⟨communication, member, if_pos rfl⟩,
          kept.trans isNamed, replaces.tenantId.trans isTenant,
          replaces.currentState.trans isState⟩
      · exact ⟨communication,
          List.mem_map.mpr ⟨communication, member, if_neg isUpdated⟩,
          isNamed, isTenant, isState⟩
  | @deleted old isOld noneYet communications _ =>
      rw [Stays, communications]
      refine ⟨communication, List.mem_filter.mpr ⟨member, ?_⟩, isNamed,
        isTenant, isState⟩
      rw [decide_eq_true_eq]
      intro isDeleted
      rw [eq_of_key consistent member isOld isDeleted] at logged
      exact logged noneYet
  | @advanced current new isCurrent continues communications _ =>
      rw [Stays, communications]
      refine ⟨communication,
        List.mem_map.mpr ⟨communication, member, if_neg ?_⟩, isNamed,
        isTenant, isState⟩
      intro belongs
      have sameKey := (belongsTo_iff.mp belongs).2.trans
        (belongsTo_iff.mp continues.belongs).2.symm
      rw [eq_of_key consistent member isCurrent sameKey] at stuck
      have impossible := advance_of_continues continues
      rw [not_advance_of_terminal (canTransition_of_terminal stuck)]
        at impossible
      exact nomatch impossible

/-! ## The law of the lifecycle -/

/-- The transitions are numbered from one, chained from `requested` to the
current state, and each is one the domain package allows. -/
structure FoldsTransitions (communication : Communication)
    (transitions : List LifecycleTransition) : Prop where
  numbers : transitions.map LifecycleTransition.sequenceNumber =
    (List.range' 1 transitions.length).map Int.ofNat
  starts : ∀ first ∈ transitions.head?, first.fromState = .requested
  linked : transitions.IsChain fun earlier later =>
    later.fromState = earlier.toState
  allowed : ∀ transition ∈ transitions,
    canTransitionCommunicationLifecycleState transition.fromState
      transition.toState = true
  currentState : communication.currentState =
    (transitions.getLast?.map LifecycleTransition.toState).getD .requested
  stateVersion : communication.stateVersion = transitions.length

theorem foldsTransitions_of_replayed {communication : Communication}
    {transitions : List LifecycleTransition}
    (replayed : Replayed communication transitions) :
    FoldsTransitions communication transitions := by
  have ordered := wellOrdered_of_replay replayed
  constructor
  · have numbers := ordered.numbers
    rw [List.map_map, List.length_map] at numbers
    exact numbers
  · intro first isFirst
    refine ordered.starts first.event ?_
    rw [List.head?_map]
    exact Option.mem_map_of_mem _ isFirst
  · exact (List.isChain_map _).mp ordered.linked
  · intro transition member
    exact ordered.allowed transition.event (List.mem_map_of_mem member)
  · have reached := ordered.state
    rw [List.getLast?_map, Option.map_map] at reached
    exact reached
  · have counted := ordered.version
    rw [List.length_map] at counted
    exact counted

theorem lifecycle_foldsTransitions {initial : CommunicationsDatabase}
    {statements : List LifecycleStatement} (isNew : IsNew initial)
    (ran : run execute initial statements = .ok database) :
    (database.communications.map Communication.communicationId).Nodup ∧
    (∀ communication ∈ database.communications,
      FoldsTransitions communication
        (transitionsOf database communication)) ∧
    ∀ (later : List LifecycleStatement) (final : CommunicationsDatabase),
      run execute database later = .ok final →
      ∀ communication ∈ database.communications,
        communication.currentState ∈ communicationTerminalStates →
        Stays communication.communicationId communication.tenantId
          communication.currentState final := by
  have allowed : Along execute (AllowedUpdate fun _ _ _ => True) initial
      statements :=
    along_of_forall execute
      (fun _ statement _ => allowedUpdate_always statement) initial
  have holds := each_of_run keptByChanges_replayed
    (consistent_of_isNew isNew) (each_of_isNew isNew) allowed ran
  refine ⟨holds.1.keys, ?_, ?_⟩
  · intro communication member
    exact foldsTransitions_of_replayed (holds.2 communication member)
  · intro later final ranLater communication member terminal
    have kept := run_preserves execute
      (fun state => (Consistent state ∧ Each Replayed state) ∧
        Stays communication.communicationId communication.tenantId
          communication.currentState state)
      (fun {state statement after} holds executed => ?_)
      ⟨holds, communication, member, rfl, rfl, rfl⟩ ranLater
    · exact kept.2
    · have change := execute_change executed
      refine ⟨⟨holds.1.1.change change, ?_⟩,
        stays_of_change holds.1.1 holds.1.2 terminal change holds.2⟩
      exact holds.1.2.change keptByChanges_replayed holds.1.1
        (allowedUpdate_always statement) change

/-! ## A call that is blocked -/

def callCenter : CommunicationsDatabase where
  lifecycleTransitionSetting := none
  tenants := ["tenant"]
  cardProfiles := []
  memberships := [⟨"membership", "tenant", "owner", .tenantOwner, .active⟩]
  sessions := []
  grants := []
  cryptoIdentities := []
  communications := []
  transitions := []
  participants := []
  consentPolicies := []
  consentReceipts := []
  suppressions := []
  commands := []
  dispatchAttempts := []
  auditEvents := []
  trustReferences := []
  furtherReferences := []

def call : Communication where
  communicationId := "call"
  tenantId := "tenant"
  cardId := none
  channel := .telephony
  direction := .outbound
  currentState := .requested
  stateVersion := 0
  createdAt := 0
  updatedAt := 0

def callTransition (number : Int)
    (source target : CommunicationLifecycleState)
    (occurredAt : Timestamptz) : LifecycleTransition where
  transitionId := target.text
  tenantId := "tenant"
  cardId := none
  communicationId := "call"
  sequenceNumber := number
  fromState := source
  toState := target
  actorUserId := some "owner"
  authorizationDecisionId := target.text
  occurredAt := occurredAt

/-- The decision that a transition of the call cites. -/
def callDecision (source target : CommunicationLifecycleState) :
    AuditEvent where
  auditEventId := target.text
  tenantId := "tenant"
  cardId := none
  communicationId := some "call"
  eventType := "communication.authorization_decision"
  actorType := .user
  actorUserId := some "owner"
  actorServiceId := none
  actorPlatformId := none
  authorizationDecisionId := "decision"
  permissionVersion := "communications-permissions-v1"
  policyVersion := "communications-policy-v1"
  result := .succeeded
  occurredAt := 0
  metadata := .object
    [("operation", .string "advance_lifecycle"),
      ("resourceType", .string "communication_lifecycle_transition"),
      ("communicationId", .string "call"),
      ("fromState", .string source.text), ("toState", .string target.text),
      ("requiredPermission", .string "communications:advance_lifecycle")]

/-- The call is checked, updated, authorized and then blocked. -/
def blockedCall : List LifecycleStatement :=
  [.insertCommunication call,
    .elsewhere { callCenter with
      auditEvents := [callDecision .requested .policyChecking,
        callDecision .policyChecking .authorized,
        callDecision .authorized .blocked] },
    .insertTransition (callTransition 1 .requested .policyChecking 5),
    .updateCommunication "call" fun old => { old with updatedAt := 7 },
    .insertTransition (callTransition 2 .policyChecking .authorized 8),
    .insertTransition (callTransition 3 .authorized .blocked 12)]

def laterUpdate : List LifecycleStatement :=
  [.updateCommunication "call" fun old => { old with updatedAt := 20 }]

/-- A later update of the call leaves it blocked. -/
theorem blockedCall_foldsTransitions :
    ∃ database, run execute callCenter blockedCall = .ok database ∧
      database.transitions.length = 3 ∧
      (∀ communication ∈ database.communications,
        FoldsTransitions communication
          (transitionsOf database communication)) ∧
      ∃ final, run execute database laterUpdate = .ok final ∧
        Stays "call" "tenant" .blocked final := by
  have folds := lifecycle_foldsTransitions ⟨rfl, rfl⟩
    (rfl : run execute callCenter blockedCall = .ok _)
  refine ⟨_, rfl, rfl, folds.2.1, _, rfl, ?_⟩
  exact folds.2.2 laterUpdate _ rfl _ List.mem_cons_self (by decide)

end BidayaxExecutive.Communications
