import BidayaxExecutive.Communications.Lifecycle
import Mathlib.Tactic.MkIffOfInductiveProp

/-!
# Command reservations

A command is reserved by inserting its idempotency key.  Two triggers look at
the evidence it is reserved with: the membership, session, grant or service
identity of the actor, and the audit event that records the decision.
-/

namespace BidayaxExecutive.Communications

open BidayaxExecutive.Library.ThreeValued

variable (database : CommunicationsDatabase) (new : CommandReservation)

/-! ## The actor -/

def activeIdentity? (tenantId : Text) (identityId : Option Text)
    (identityType : Text) : Option CryptoIdentity :=
  database.cryptoIdentities.find? fun identity =>
    identity.tenantId == tenantId && some identity.identityId == identityId &&
      identity.identityType == identityType && identity.status == "active"

/-- `metadata->'communicationsCapabilities' ? capability`. -/
def CryptoIdentity.hasCapability (identity : CryptoIdentity)
    (capability : Text) : Bool :=
  match identity.metadata.field? "communicationsCapabilities" with
  | some capabilities => capabilities.hasKey capability
  | none => false

/-- A command of a service or of the platform, with the messages of the two
branches. -/
def checkIdentityActor (identity : Option CryptoIdentity)
    (operation : CommandOperation) (capability : Text)
    (requires limited lacks : Text) : Accepted PUnit :=
  match identity with
  | none => throw (.raised requires)
  | some record => do
      if new.operation ≠ operation then throw (.raised limited)
      if ¬record.hasCapability capability then throw (.raised lacks)

def checkCardGrant : Accepted PUnit :=
  match database.grants.find? fun grant =>
      some grant.grantId == new.cardGrantId &&
        grant.tenantId == new.tenantId && some grant.cardId == new.cardId &&
        some grant.userId == new.actorUserId with
  | none =>
      throw <| .raised
        "communication command grant does not match actor, tenant, and card"
  | some grant => do
      if grant.revokedAt.isSome ∨
          grant.expiresAt.any fun expiresAt => new.createdAt ≥ expiresAt then
        throw <| .raised "communication command grant is not active"
      if ¬grant.permissionSet.hasKey new.requiredPermission then
        throw <| .raised
          "communication command grant lacks required permission"

def checkUserActor : Accepted PUnit := do
  let membership := database.memberships.find? fun membership =>
    membership.tenantId == new.tenantId &&
      some membership.userId == new.actorUserId
  match membership with
  | none =>
      throw <| .raised
        "communication command requires an active tenant membership"
  | some membership =>
      if membership.status ≠ .active then
        throw <| .raised
          "communication command requires an active tenant membership"
      if new.scopeType = .tenant ∧ new.operation = .applyTenantKillSwitch ∧
          membership.role ≠ .tenantOwner ∧ membership.role ≠ .tenantAdmin then
        throw <| .raised <|
          "communication tenant kill-switch command requires owner or" ++
            " admin membership"
  let session := database.sessions.find? fun session =>
    some session.sessionId == new.sessionId &&
      session.tenantId == new.tenantId &&
      some session.userId == new.actorUserId
  match session with
  | none =>
      throw <| .raised
        "communication command session does not match actor and tenant"
  | some session =>
      if session.revokedAt.isSome ∨ new.createdAt ≥ session.idleExpiresAt ∨
          new.createdAt ≥ session.absoluteExpiresAt then
        throw <| .raised "communication command session is not active"
  if new.scopeType = .card then checkCardGrant database new

def enforceCommunicationAuthorizationEvidence : Accepted PUnit := do
  if new.status ≠ .reserved ∨ new.completedAt.isSome ∨
      new.resultCommunicationId.isSome then
    throw <| .raised <|
      "communication command reservation must be inserted in reserved" ++
        " state without terminal result"
  match new.actorType with
  | .service =>
      checkIdentityActor new
        (activeIdentity? database new.tenantId new.actorServiceId "service")
        .applyTenantKillSwitch "tenant_kill_switch"
        "communication service command requires an active service identity"
        ("communication service commands are limited to tenant" ++
          " kill-switch scope in Phase 11B")
        "communication service command lacks tenant kill-switch capability"
  | .platform =>
      checkIdentityActor new
        (activeIdentity? database new.tenantId new.actorPlatformId "system")
        .applyPlatformKillSwitch "platform_kill_switch"
        "communication platform command requires an active platform identity"
        ("communication platform commands are limited to platform" ++
          " kill-switch scope in Phase 11B")
        "communication platform command lacks platform kill-switch capability"
  | .user | .system => checkUserActor database new

/-! ## The decision -/

def commandDecision? : Option AuditEvent :=
  database.auditEvents.find? fun event =>
    event.tenantId == new.tenantId &&
      event.auditEventId == new.authorizationDecisionId &&
      event.eventType == "communication.authorization_decision" &&
      event.result == .succeeded

def commandFields : List (Text × Option Text) :=
  [("operation", some new.operation.text),
    ("scopeType", some new.scopeType.text),
    ("scopeId", some new.scopeId),
    ("requiredPermission", some new.requiredPermission),
    ("requestHash", some new.requestHash)]

def commandContextFields : List (Text × Option Text) :=
  [("sessionId", new.sessionId), ("cardGrantId", new.cardGrantId)]

def enforceCommunicationCommandAuthorizationDecision : Accepted PUnit :=
  match commandDecision? database new with
  | none =>
      throw <| .raised <|
        "communication command requires durable authorization decision" ++
          " evidence"
  | some decision => do
      if decision.permissionVersion ≠ new.permissionVersion ∨
          decision.policyVersion ≠ new.policyVersion then
        throw <| .raised
          "communication command authorization decision version mismatch"
      if (fieldsDiffer decision.metadata (commandFields new)).Holds then
        throw <| .raised
          "communication command authorization decision resource mismatch"
      if new.scopeType = .card ∧
          (fieldsDiffer decision.metadata
            (commandContextFields new)).Holds then
        throw <| .raised <|
          "communication command authorization decision user context" ++
            " mismatch"
      if new.scopeType = .card ∧ decision.cardId ≠ new.cardId then
        throw <| .raised
          "communication command authorization decision card mismatch"
      if new.scopeType ≠ .card ∧ decision.cardId.isSome then
        throw <| .raised <|
          "communication command tenant/platform authorization decision" ++
            " must be cardless"
      if new.actorType = .user ∧ (decision.actorType ≠ .user ∨
          decision.actorUserId ≠ new.actorUserId) then
        throw <| .raised
          "communication command user authorization decision actor mismatch"
      if new.actorType = .service ∧ (decision.actorType ≠ .service ∨
          decision.actorServiceId ≠ new.actorServiceId) then
        throw <| .raised <|
          "communication command service authorization decision actor" ++
            " mismatch"
      if new.actorType = .platform ∧
          ((decision.actorType ≠ .platform ∧ decision.actorType ≠ .system) ∨
            decision.actorPlatformId ≠ new.actorPlatformId) then
        throw <| .raised <|
          "communication command platform authorization decision actor" ++
            " mismatch"

/-! ## The row -/

/-- The checks of the table. -/
@[mk_iff]
structure CommandReservation.Valid (command : CommandReservation) : Prop where
  requestHash : command.requestHash.length = 64 ∧
    command.requestHash.toList.all fun digit =>
      digit.isDigit || ('a' ≤ digit && digit ≤ 'f')
  permissionVersion :
    command.permissionVersion = "communications-permissions-v1"
  policyVersion : command.policyVersion = "communications-policy-v1"
  expiresAt : ∀ expiresAt ∈ command.expiresAt, expiresAt > command.createdAt
  scope :
    (command.scopeType = .card ∧ command.cardId = some command.scopeId) ∨
    (command.scopeType = .tenant ∧ command.cardId = none ∧
      command.scopeId = command.tenantId) ∨
    (command.scopeType = .platform ∧ command.cardId = none ∧
      command.scopeId = "platform")
  actor :
    (command.actorType = .user ∧ command.actorUserId.isSome ∧
      command.actorServiceId = none ∧ command.actorPlatformId = none) ∨
    (command.actorType = .service ∧ command.actorUserId = none ∧
      command.actorServiceId.isSome ∧ command.actorPlatformId = none) ∨
    (command.actorType = .platform ∧ command.actorUserId = none ∧
      command.actorServiceId = none ∧ command.actorPlatformId.isSome)
  permission :
    (command.operation = .applyPlatformKillSwitch ∧
      command.scopeType = .platform ∧ command.actorType = .platform ∧
      command.requiredPermission =
        "communications:platform:kill_switch") ∨
    (command.operation = .applyTenantKillSwitch ∧
      command.scopeType = .tenant ∧
      (command.actorType = .user ∨ command.actorType = .service) ∧
      command.requiredPermission = "communications:tenant:kill_switch") ∨
    ((command.operation ≠ .applyPlatformKillSwitch ∧
        command.operation ≠ .applyTenantKillSwitch) ∧
      command.scopeType = .card ∧ command.actorType = .user ∧
      command.requiredPermission =
        "communications:" ++ command.operation.text)
  session : command.actorType = .user ↔ command.sessionId.isSome
  cardGrant : (command.scopeType = .card ∧ command.actorType = .user) ↔
    command.cardGrantId.isSome

instance CommandReservation.decidableValid (command : CommandReservation) :
    Decidable command.Valid :=
  decidable_of_iff' _ (CommandReservation.valid_iff command)

def CommandReservation.sameKey (command other : CommandReservation) : Bool :=
  command.tenantId == other.tenantId &&
    command.operation == other.operation &&
    command.idempotencyKey == other.idempotencyKey &&
    ((command.scopeType == other.scopeType &&
        command.scopeId == other.scopeId) ||
      (command.cardId.isSome && command.cardId == other.cardId))

def insertCommand : Accepted CommunicationsDatabase := do
  enforceCommunicationAuthorizationEvidence database new
  enforceCommunicationCommandAuthorizationDecision database new
  if ¬new.Valid then throw .checkViolation
  if database.commands.any new.sameKey then throw .keyInUse
  if ¬(database.knowsTenant new.tenantId ∧
      database.knowsCard new.tenantId new.cardId ∧
      database.knowsMember new.tenantId new.actorUserId ∧
      database.knowsCommunication new.tenantId new.resultCommunicationId
        new.cardId ∧
      (new.sessionId.all fun identifier =>
        database.sessions.any fun session =>
          session.sessionId == identifier) ∧
      (new.cardGrantId.all fun identifier =>
        database.grants.any fun grant => grant.grantId == identifier) ∧
      (new.actorServiceId.all fun identifier =>
        database.cryptoIdentities.any fun identity =>
          identity.identityId == identifier &&
            identity.tenantId == new.tenantId) ∧
      (new.actorPlatformId.all fun identifier =>
        database.cryptoIdentities.any fun identity =>
          identity.identityId == identifier &&
            identity.tenantId == new.tenantId)) then
    throw .missingReference
  return { database with commands := database.commands ++ [new] }

end BidayaxExecutive.Communications
