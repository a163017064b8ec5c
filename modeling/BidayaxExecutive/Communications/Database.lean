import BidayaxExecutive.Communications.Columns
import BidayaxExecutive.Identity.Authorization

/-!
# Tables of the communications schema

Each row type has the columns that a trigger, a check or a key reads.  A
statement takes effect as a whole or is refused: by the text a trigger raises,
then by a check, by a key that is in use, or by a foreign key.
-/

namespace BidayaxExecutive.Communications

open BidayaxExecutive.Identity

/-! ## Rows of other schemas -/

structure TenantMembership where
  membershipId : Text
  tenantId : Text
  userId : Text
  role : TenantMembershipRole
  status : IdentityRecordStatus
  deriving DecidableEq

structure ApplicationSession where
  sessionId : Text
  tenantId : Text
  userId : Text
  idleExpiresAt : Timestamptz
  absoluteExpiresAt : Timestamptz
  revokedAt : Option Timestamptz
  deriving DecidableEq

structure CardAccessGrant where
  grantId : Text
  tenantId : Text
  cardId : Text
  userId : Text
  permissionSet : Jsonb
  expiresAt : Option Timestamptz
  revokedAt : Option Timestamptz

/-- A row of `trust_crypto_identities`. -/
structure CryptoIdentity where
  identityId : Text
  tenantId : Text
  identityType : Text
  status : Text
  metadata : Jsonb

/-! ## Communications -/

structure Communication where
  communicationId : Text
  tenantId : Text
  cardId : Option Text
  channel : CommunicationChannel
  direction : CommunicationDirection
  currentState : CommunicationLifecycleState
  stateVersion : Int
  createdAt : Timestamptz
  updatedAt : Timestamptz
  deriving DecidableEq

structure LifecycleTransition where
  transitionId : Text
  tenantId : Text
  cardId : Option Text
  communicationId : Text
  sequenceNumber : Int
  fromState : CommunicationLifecycleState
  toState : CommunicationLifecycleState
  actorUserId : Option Text
  authorizationDecisionId : Text
  occurredAt : Timestamptz
  deriving DecidableEq

structure CommunicationParticipant where
  participantId : Text
  tenantId : Text
  cardId : Option Text
  deriving DecidableEq

/-! ## Consent and suppression -/

structure ConsentPolicy where
  consentPolicyId : Text
  tenantId : Text
  cardId : Option Text
  policyVersion : Text
  jurisdiction : Text
  channel : CommunicationChannel
  purpose : CommunicationPurpose
  effectiveAt : Timestamptz
  expiresAt : Option Timestamptz
  deriving DecidableEq

structure ConsentReceipt where
  consentReceiptId : Text
  tenantId : Text
  cardId : Option Text
  participantId : Text
  consentPolicyId : Text
  channel : CommunicationChannel
  purpose : CommunicationPurpose
  status : ConsentStatus
  source : ConsentSource
  evidenceReferenceId : Text
  observedAt : Timestamptz
  effectiveAt : Timestamptz
  expiresAt : Option Timestamptz
  revokedAt : Option Timestamptz
  deriving DecidableEq

/-- The purpose of a suppression is not checked against the list. -/
structure Suppression where
  suppressionId : Text
  tenantId : Text
  cardId : Option Text
  participantId : Text
  channel : Option CommunicationChannel
  purpose : Option Text
  status : SuppressionStatus
  reasonCode : Text
  createdByActorId : Text
  releasedByActorId : Option Text
  createdAt : Timestamptz
  expiresAt : Option Timestamptz
  releasedAt : Option Timestamptz
  releaseReason : Option Text
  auditEventId : Option Text
  deriving DecidableEq

/-! ## Commands and dispatch -/

/-- A row of `communication_command_idempotency_keys`. -/
structure CommandReservation where
  tenantId : Text
  cardId : Option Text
  scopeType : ScopeType
  scopeId : Text
  operation : CommandOperation
  idempotencyKey : Text
  requestHash : Text
  resultCommunicationId : Option Text
  actorType : ActorType
  actorUserId : Option Text
  actorServiceId : Option Text
  actorPlatformId : Option Text
  sessionId : Option Text
  cardGrantId : Option Text
  authorizationDecisionId : Text
  requiredPermission : Text
  permissionVersion : Text
  policyVersion : Text
  status : CommandStatus
  createdAt : Timestamptz
  completedAt : Option Timestamptz
  expiresAt : Option Timestamptz
  deriving DecidableEq

structure DispatchAttempt where
  attemptId : Text
  tenantId : Text
  cardId : Text
  communicationId : Text
  participantId : Text
  purpose : CommunicationPurpose
  consentReceiptId : Option Text
  suppressionId : Option Text
  commandOperation : Text
  commandIdempotencyKey : Text
  adapterId : Text
  channel : CommunicationChannel
  state : DispatchState
  retryCount : Int
  providerDispatchEnabled : Bool
  providerReferenceId : Option Text
  createdAt : Timestamptz
  policyEvaluatedAt : Timestamptz
  updatedAt : Timestamptz
  deriving DecidableEq

/-! ## Evidence -/

structure AuditEvent where
  auditEventId : Text
  tenantId : Text
  cardId : Option Text
  communicationId : Option Text
  eventType : Text
  actorType : ActorType
  actorUserId : Option Text
  actorServiceId : Option Text
  actorPlatformId : Option Text
  authorizationDecisionId : Text
  permissionVersion : Text
  policyVersion : Text
  result : AuditResult
  occurredAt : Timestamptz
  metadata : Jsonb

structure TrustEvidenceReference where
  trustEvidenceReferenceId : Text
  tenantId : Text
  cardId : Option Text
  communicationId : Text
  domain : Text
  artifactSchema : Text
  evidenceFields : Jsonb

/-- `furtherReferences` are the identifiers and tenants of the communications
that rows of the remaining tables refer to; the setting is
`bidayax.communication_lifecycle_transition`. -/
structure CommunicationsDatabase where
  lifecycleTransitionSetting : Option Text
  tenants : List Text
  cardProfiles : List (Text × Text)
  memberships : List TenantMembership
  sessions : List ApplicationSession
  grants : List CardAccessGrant
  cryptoIdentities : List CryptoIdentity
  communications : List Communication
  transitions : List LifecycleTransition
  participants : List CommunicationParticipant
  consentPolicies : List ConsentPolicy
  consentReceipts : List ConsentReceipt
  suppressions : List Suppression
  commands : List CommandReservation
  dispatchAttempts : List DispatchAttempt
  auditEvents : List AuditEvent
  trustReferences : List TrustEvidenceReference
  furtherReferences : List (Text × Text)

/-! ## Refusals -/

inductive Refusal where
  | raised (message : Text)
  | checkViolation
  | keyInUse
  | missingReference
  | stillReferenced
  | outOfRange
  deriving DecidableEq, Repr

abbrev Accepted : Type → Type :=
  Except Refusal

namespace CommunicationsDatabase

variable (database : CommunicationsDatabase)

/-- The foreign key to `executive_card_profiles`, for a card that is not
null. -/
def knowsCard (tenantId : Text) (cardId : Option Text) : Bool :=
  cardId.all fun card => database.cardProfiles.contains (card, tenantId)

def knowsTenant (tenantId : Text) : Bool :=
  database.tenants.contains tenantId

/-- The foreign key to `tenant_memberships`, for a user that is not null. -/
def knowsMember (tenantId : Text) (userId : Option Text) : Bool :=
  userId.all fun user => database.memberships.any fun membership =>
    membership.tenantId == tenantId && membership.userId == user

/-- The foreign keys to `communications`, for an identifier that is not
null. -/
def knowsCommunication (tenantId : Text) (communicationId : Option Text)
    (cardId : Option Text) : Bool :=
  communicationId.all fun identifier =>
    database.communications.any fun communication =>
      communication.communicationId == identifier &&
        communication.tenantId == tenantId &&
        (cardId.isNone || communication.cardId == cardId)

/-- The foreign keys to `communication_participants`. -/
def knowsParticipant (tenantId participantId : Text)
    (cardId : Option Text) : Bool :=
  database.participants.any fun participant =>
    participant.participantId == participantId &&
      participant.tenantId == tenantId &&
      (cardId.isNone || participant.cardId == cardId)

end CommunicationsDatabase

end BidayaxExecutive.Communications
