import BidayaxExecutive.Communications.Database
import BidayaxExecutive.Library.Runs
import BidayaxExecutive.Library.ThreeValued

/-!
# Communications and their lifecycle transitions

The single-row statements on `communications` and on
`communication_lifecycle_transitions`, with the triggers and the constraints
they meet.  Inserting a transition moves the communication it names: that
update happens inside a trigger, one level deeper than a statement of a client.
What the statements on other tables do is left open.
-/

namespace BidayaxExecutive.Communications

open BidayaxExecutive.Library.ThreeValued
open BidayaxExecutive.Library.Runs

/-! ## The transition table of the domain package -/

open CommunicationLifecycleState in
def allowedTransitions :
    CommunicationLifecycleState → List CommunicationLifecycleState
  | accepted => [active, completed, failed, terminated]
  | active => [completed, failed, terminated]
  | authorized => [queued, blocked, suppressed, cancelled]
  | blocked => []
  | cancelled => []
  | completed => []
  | dispatching => [accepted, failed, terminated]
  | expired => []
  | failed => []
  | policyChecking => [authorized, blocked, suppressed, expired]
  | queued => [dispatching, cancelled, expired, suppressed]
  | requested => [policyChecking, blocked, suppressed, cancelled]
  | suppressed => []
  | terminated => []

def canTransitionCommunicationLifecycleState
    (source target : CommunicationLifecycleState) : Bool :=
  (allowedTransitions source).contains target

open CommunicationLifecycleState in
def communicationTerminalStates : List CommunicationLifecycleState :=
  [completed, blocked, cancelled, failed, expired, suppressed, terminated]

/-! ## Triggers -/

inductive TriggerOperation (Row : Type) where
  | insert
  | update (old : Row)

def enforceCommunicationAggregateStateBoundary (setting : Option Text)
    (depth : Nat) (operation : TriggerOperation Communication)
    (new : Communication) : Accepted PUnit :=
  match operation with
  | .insert =>
      if new.currentState ≠ .requested ∨ new.stateVersion ≠ 0 then
        throw <| .raised <|
          "communication aggregate must start in requested state" ++
            " at version 0"
      else pure ⟨⟩
  | .update old => do
      let moves := decide (new.currentState ≠ old.currentState) ||
        decide (new.stateVersion ≠ old.stateVersion)
      let inTransition := (agrees setting (some "true")).both
        (some (decide (depth > 1)))
      if (Truth.both (some moves) inTransition.negate).Holds then
        throw <| .raised <|
          "communication state may change only through lifecycle" ++
            " transitions"
      if new.tenantId ≠ old.tenantId ∨ new.cardId ≠ old.cardId ∨
          new.channel ≠ old.channel ∨ new.direction ≠ old.direction ∨
          new.createdAt ≠ old.createdAt then
        throw <| .raised <|
          "communication aggregate ownership and creation fields are" ++
            " immutable"

def enforceCommunicationReferenceCardScope
    (database : CommunicationsDatabase) (tenantId : Text)
    (communicationId : Option Text) (cardId : Option Text) :
    Accepted PUnit :=
  match communicationId with
  | none => pure ⟨⟩
  | some identifier =>
      let parent := database.communications.find? fun communication =>
        communication.tenantId == tenantId &&
          communication.communicationId == identifier
      match parent with
      | none =>
          throw <| .raised
            "communication reference requires an existing communication"
      | some communication =>
          if cardId ≠ communication.cardId then
            throw <| .raised <|
              "communication reference card scope does not match" ++
                " communication"
          else pure ⟨⟩

/-- One row of an `UPDATE communications`. -/
def reviseCommunication (setting : Option Text) (depth : Nat)
    (old new : Communication) : Accepted Communication := do
  enforceCommunicationAggregateStateBoundary setting depth (.update old)
    new
  if new.stateVersion < 0 ∨ new.updatedAt < new.createdAt then
    throw .checkViolation
  return new

/-- The allowed transitions as the trigger lists them. -/
def isLifecycleTransition :
    CommunicationLifecycleState → CommunicationLifecycleState → Bool
  | .requested, target =>
      [.policyChecking, .blocked, .suppressed, .cancelled].contains target
  | .policyChecking, target =>
      [.authorized, .blocked, .suppressed, .expired].contains target
  | .authorized, target =>
      [.queued, .blocked, .suppressed, .cancelled].contains target
  | .queued, target =>
      [.dispatching, .cancelled, .expired, .suppressed].contains target
  | .dispatching, target =>
      [.accepted, .failed, .terminated].contains target
  | .accepted, target =>
      [.active, .completed, .failed, .terminated].contains target
  | .active, target =>
      [.completed, .failed, .terminated].contains target
  | _, _ => false

/-- The names of metadata fields with the values they are compared to; one
that differs. -/
def fieldsDiffer (evidence : Jsonb) (expected : List (Text × Option Text)) :
    Truth :=
  anyDiffers (expected.map fun field => (evidence.text? field.1, field.2))

def lifecycleDecision? (database : CommunicationsDatabase)
    (new : LifecycleTransition) : Option AuditEvent :=
  database.auditEvents.find? fun event =>
    event.tenantId == new.tenantId &&
      event.auditEventId == new.authorizationDecisionId &&
      event.eventType == "communication.authorization_decision" &&
      event.result == .succeeded && event.cardId == new.cardId &&
      event.communicationId == some new.communicationId &&
      event.actorType == .user && event.actorUserId == new.actorUserId

def lifecycleFields (new : LifecycleTransition) :
    List (Text × Option Text) :=
  [("operation", some "advance_lifecycle"),
    ("resourceType", some "communication_lifecycle_transition"),
    ("communicationId", some new.communicationId),
    ("fromState", some new.fromState.text),
    ("toState", some new.toState.text),
    ("requiredPermission", some "communications:advance_lifecycle")]

/-- What the trigger asks of a transition before it moves the
communication. -/
def checkLifecycleTransition (database : CommunicationsDatabase)
    (current : Communication) (new : LifecycleTransition) :
    Accepted PUnit := do
  if new.cardId ≠ current.cardId then
    throw <| .raised <|
      "communication lifecycle transition card scope does not match" ++
        " communication"
  if new.fromState ≠ current.currentState then
    throw <| .raised <|
      "communication lifecycle transition does not match current state"
  if maxInteger < current.stateVersion + 1 then throw .outOfRange
  if new.sequenceNumber ≠ current.stateVersion + 1 then
    throw <| .raised <|
      "communication lifecycle transition sequence must increment by one"
  if new.occurredAt < current.updatedAt then
    throw <| .raised <|
      "communication lifecycle transition cannot backdate aggregate" ++
        " chronology"
  match lifecycleDecision? database new with
  | none =>
      throw <| .raised <|
        "communication lifecycle transition requires durable" ++
          " authorization decision evidence"
  | some decision =>
      if (fieldsDiffer decision.metadata (lifecycleFields new)).Holds then
        throw <| .raised <|
          "communication lifecycle transition authorization decision" ++
            " resource mismatch"
      if ¬isLifecycleTransition new.fromState new.toState then
        throw <| .raised <|
          "invalid communication lifecycle transition from " ++
            new.fromState.text ++ " to " ++ new.toState.text

/-- The update of the communication is made at trigger depth two. -/
def enforceCommunicationLifecycleTransition
    (database : CommunicationsDatabase) (new : LifecycleTransition) :
    Accepted CommunicationsDatabase := do
  let isMoved (communication : Communication) : Bool :=
    communication.tenantId == new.tenantId &&
      communication.communicationId == new.communicationId
  match database.communications.find? isMoved with
  | none =>
      throw <| .raised <|
        "communication lifecycle transition requires an existing" ++
          " communication"
  | some current =>
      checkLifecycleTransition database current new
      let communications ← database.communications.mapM fun old =>
        if isMoved old then
          reviseCommunication (some "true") 2 old
            { old with
              currentState := new.toState
              stateVersion := new.sequenceNumber
              updatedAt := new.occurredAt }
        else pure old
      return { database with
        communications := communications
        lifecycleTransitionSetting := some "false" }

def preventCommunicationEvidenceMutation {Value : Type} : Accepted Value :=
  throw <| .raised "communications evidence is immutable and append-only"

/-! ## Statements -/

def insertCommunication (database : CommunicationsDatabase)
    (new : Communication) : Accepted CommunicationsDatabase := do
  enforceCommunicationAggregateStateBoundary
    database.lifecycleTransitionSetting 1 .insert new
  if new.updatedAt < new.createdAt then throw .checkViolation
  if database.communications.any fun old =>
      old.communicationId == new.communicationId then throw .keyInUse
  if ¬(database.knowsTenant new.tenantId ∧
      database.knowsCard new.tenantId new.cardId) then
    throw .missingReference
  return { database with
    communications := database.communications ++ [new] }

/-- A row of some table refers to the communication. -/
def isReferenced (database : CommunicationsDatabase)
    (communication : Communication) : Bool :=
  (database.transitions.any fun transition =>
      transition.tenantId == communication.tenantId &&
        transition.communicationId == communication.communicationId) ||
    (database.commands.any fun command =>
      command.tenantId == communication.tenantId &&
        command.resultCommunicationId ==
          some communication.communicationId) ||
    (database.dispatchAttempts.any fun attempt =>
      attempt.tenantId == communication.tenantId &&
        attempt.communicationId == communication.communicationId) ||
    (database.auditEvents.any fun event =>
      event.tenantId == communication.tenantId &&
        event.communicationId == some communication.communicationId) ||
    (database.trustReferences.any fun reference =>
      reference.tenantId == communication.tenantId &&
        reference.communicationId == communication.communicationId) ||
    database.furtherReferences.contains
      (communication.communicationId, communication.tenantId)

/-- `UPDATE communications SET … WHERE communication_id = …`. -/
def updateCommunication (database : CommunicationsDatabase)
    (communicationId : Text) (revise : Communication → Communication) :
    Accepted CommunicationsDatabase :=
  match database.communications.find? fun communication =>
      communication.communicationId == communicationId with
  | none => pure database
  | some old => do
      let new ← reviseCommunication database.lifecycleTransitionSetting 1 old
        (revise old)
      if new.communicationId ≠ communicationId then
        if database.communications.any fun other =>
            other.communicationId == new.communicationId then
          throw .keyInUse
        if isReferenced database old then throw .stillReferenced
      return { database with
        communications := database.communications.map fun communication =>
          if communication.communicationId = communicationId then new
          else communication }

def deleteCommunication (database : CommunicationsDatabase)
    (communicationId : Text) : Accepted CommunicationsDatabase :=
  match database.communications.find? fun communication =>
      communication.communicationId == communicationId with
  | none => pure database
  | some old => do
      if isReferenced database old then throw .stillReferenced
      return { database with
        communications := database.communications.filter fun communication =>
          communication.communicationId ≠ communicationId }

def insertTransition (database : CommunicationsDatabase)
    (new : LifecycleTransition) : Accepted CommunicationsDatabase := do
  enforceCommunicationReferenceCardScope database new.tenantId
    (some new.communicationId) new.cardId
  let moved ← enforceCommunicationLifecycleTransition database new
  if new.sequenceNumber ≤ 0 then throw .checkViolation
  if moved.transitions.any fun old =>
      old.transitionId == new.transitionId ||
        old.tenantId == new.tenantId &&
          old.communicationId == new.communicationId &&
          old.sequenceNumber == new.sequenceNumber then
    throw .keyInUse
  if ¬(moved.knowsCommunication new.tenantId (some new.communicationId)
        new.cardId ∧
      moved.knowsCard new.tenantId new.cardId ∧
      moved.knowsMember new.tenantId new.actorUserId) then
    throw .missingReference
  return { moved with transitions := moved.transitions ++ [new] }

/-- `UPDATE` and `DELETE` of the transition with the identifier. -/
def mutateTransition (database : CommunicationsDatabase)
    (transitionId : Text) : Accepted CommunicationsDatabase :=
  if database.transitions.any fun transition =>
      transition.transitionId == transitionId then
    preventCommunicationEvidenceMutation
  else pure database

/-- `elsewhere` stands for whatever is done to the other tables and to the
setting. -/
inductive LifecycleStatement where
  | insertCommunication (new : Communication)
  | updateCommunication (communicationId : Text)
      (revise : Communication → Communication)
  | deleteCommunication (communicationId : Text)
  | insertTransition (new : LifecycleTransition)
  | updateTransition (transitionId : Text)
      (revise : LifecycleTransition → LifecycleTransition)
  | deleteTransition (transitionId : Text)
  | elsewhere (other : CommunicationsDatabase)

def execute (database : CommunicationsDatabase) :
    LifecycleStatement → Accepted CommunicationsDatabase
  | .insertCommunication new => insertCommunication database new
  | .updateCommunication communicationId revise =>
      updateCommunication database communicationId revise
  | .deleteCommunication communicationId =>
      deleteCommunication database communicationId
  | .insertTransition new => insertTransition database new
  | .updateTransition transitionId _ =>
      mutateTransition database transitionId
  | .deleteTransition transitionId => mutateTransition database transitionId
  | .elsewhere other =>
      pure { other with
        communications := database.communications
        transitions := database.transitions }

/-- The two tables as the migration creates them. -/
def IsNew (database : CommunicationsDatabase) : Prop :=
  database.communications = [] ∧ database.transitions = []

end BidayaxExecutive.Communications
