import BidayaxExecutive.Communications.Lifecycle
import Mathlib.Tactic.MkIffOfInductiveProp

/-!
# Consent policies, consent receipts and suppressions

Policies and receipts are only ever inserted; a suppression is inserted active
and may be released once.  A receipt cites a trust evidence reference, and a
release cites an audit event: the triggers compare their fields with the row.
-/

namespace BidayaxExecutive.Communications

open BidayaxExecutive.Library.ThreeValued

variable (database : CommunicationsDatabase)

def enforceCommunicationParticipantCardScope
    (tenantId participantId : Text) (cardId : Option Text) :
    Accepted PUnit :=
  let parent := database.participants.find? fun participant =>
    participant.tenantId == tenantId &&
      participant.participantId == participantId
  match parent with
  | none =>
      throw <| .raised
        "communication participant reference requires an existing participant"
  | some participant =>
      if cardId ≠ participant.cardId then
        throw <| .raised <|
          "communication participant reference card scope does not match" ++
            " participant"
      else pure ⟨⟩

/-! ## Policies -/

def ConsentPolicy.sameKey (policy other : ConsentPolicy) : Bool :=
  policy.consentPolicyId == other.consentPolicyId ||
    (policy.tenantId == other.tenantId && policy.cardId.isSome &&
      policy.cardId == other.cardId &&
      policy.policyVersion == other.policyVersion &&
      policy.channel == other.channel && policy.purpose == other.purpose &&
      policy.jurisdiction == other.jurisdiction)

def insertConsentPolicy (new : ConsentPolicy) :
    Accepted CommunicationsDatabase := do
  if new.expiresAt.any fun expiresAt => expiresAt ≤ new.effectiveAt then
    throw .checkViolation
  if database.consentPolicies.any new.sameKey then throw .keyInUse
  if ¬(database.knowsTenant new.tenantId ∧
      database.knowsCard new.tenantId new.cardId) then
    throw .missingReference
  return { database with
    consentPolicies := database.consentPolicies ++ [new] }

/-! ## Receipts -/

section Receipts

-- The input function of `timestamptz` under the settings of the session.
variable (readTimestamptz : Text → Option Timestamptz)

def communicationEvidenceTimestamptzMatches (evidenceValue : Option Text)
    (actualValue : Option Timestamptz) : Bool :=
  match evidenceValue, actualValue with
  | some text, some instant => readTimestamptz text == some instant
  | _, _ => false

/-- The check of an instant that a receipt may lack: the field must be there,
and null where the receipt has none. -/
def evidenceInstantDiffers (evidence : Jsonb) (name : Text)
    (actualValue : Option Timestamptz) : Bool :=
  !evidence.hasKey name ||
    match actualValue with
    | none => !(evidence.field? name).all Jsonb.isNull
    | some _ => !communicationEvidenceTimestamptzMatches readTimestamptz
        (evidence.text? name) actualValue

def consentEvidence? (new : ConsentReceipt) : Option TrustEvidenceReference :=
  database.trustReferences.find? fun reference =>
    reference.tenantId == new.tenantId &&
      reference.trustEvidenceReferenceId == new.evidenceReferenceId &&
      reference.domain == "communications.consent" &&
      reference.artifactSchema == "communication-consent-v1" &&
      reference.cardId == new.cardId

def consentPolicy? (new : ConsentReceipt) : Option ConsentPolicy :=
  database.consentPolicies.find? fun policy =>
    policy.tenantId == new.tenantId &&
      policy.consentPolicyId == new.consentPolicyId

def receiptFields (new : ConsentReceipt) : List (Text × Option Text) :=
  [("consentReceiptId", some new.consentReceiptId),
    ("channel", some new.channel.text), ("purpose", some new.purpose.text),
    ("participantId", some new.participantId),
    ("consentPolicyId", some new.consentPolicyId),
    ("status", some new.status.text), ("source", some new.source.text)]

def enforceCommunicationConsentEvidenceReference (new : ConsentReceipt) :
    Accepted PUnit :=
  match consentEvidence? database new with
  | none =>
      throw <| .raised <|
        "communication consent receipt requires matching durable consent" ++
          " evidence reference"
  | some reference => do
      let evidence := reference.evidenceFields
      if (fieldsDiffer evidence (receiptFields new)).Holds ∨
          (evidence.text? "policyVersion").isNone then
        throw <| .raised
          "communication consent evidence reference does not match receipt"
      if new.effectiveAt > new.observedAt ∨
          (new.expiresAt.any fun expiresAt => expiresAt ≤ new.effectiveAt) ∨
          (new.revokedAt.any fun revokedAt =>
            revokedAt < new.effectiveAt) then
        throw <| .raised
          "communication consent receipt chronology is invalid"
      if ¬communicationEvidenceTimestamptzMatches readTimestamptz
            (evidence.text? "observedAt") (some new.observedAt) ∨
          ¬communicationEvidenceTimestamptzMatches readTimestamptz
            (evidence.text? "effectiveAt") (some new.effectiveAt) then
        throw <| .raised <|
          "communication consent evidence reference does not match" ++
            " receipt timing"
      if evidenceInstantDiffers readTimestamptz evidence "expiresAt"
          new.expiresAt then
        throw <| .raised <|
          "communication consent evidence reference does not match" ++
            " receipt expiry"
      if evidenceInstantDiffers readTimestamptz evidence "revokedAt"
          new.revokedAt then
        throw <| .raised <|
          "communication consent evidence reference does not match" ++
            " receipt revocation chronology"
      let versionDiffers := (consentPolicy? database new).all fun policy =>
        evidence.text? "policyVersion" != some policy.policyVersion
      if versionDiffers then
        throw <| .raised <|
          "communication consent evidence reference policy version does" ++
            " not match cited policy"

def enforceCommunicationConsentPolicyScope (new : ConsentReceipt) :
    Accepted PUnit :=
  match consentPolicy? database new with
  | none =>
      throw <| .raised
        "communication consent receipt requires an existing policy"
  | some policy => do
      if policy.cardId.isSome ∧ new.cardId ≠ policy.cardId then
        throw <| .raised
          "communication consent receipt card scope does not match policy"
      if new.channel ≠ policy.channel then
        throw <| .raised
          "communication consent receipt channel does not match policy"
      if new.purpose ≠ policy.purpose then
        throw <| .raised
          "communication consent receipt purpose does not match policy"
      if new.effectiveAt < policy.effectiveAt ∨
          policy.expiresAt.any fun expiresAt =>
            new.effectiveAt ≥ expiresAt then
        throw <| .raised
          "communication consent receipt is outside policy effective window"

def insertConsentReceipt (new : ConsentReceipt) :
    Accepted CommunicationsDatabase := do
  enforceCommunicationConsentEvidenceReference database readTimestamptz new
  enforceCommunicationConsentPolicyScope database new
  enforceCommunicationParticipantCardScope database new.tenantId
    new.participantId new.cardId
  if (new.expiresAt.any fun expiresAt => expiresAt ≤ new.effectiveAt) ∨
      ¬(new.status = .revoked ↔ new.revokedAt.isSome) then
    throw .checkViolation
  if database.consentReceipts.any fun old =>
      old.consentReceiptId == new.consentReceiptId then
    throw .keyInUse
  if ¬(database.knowsParticipant new.tenantId new.participantId new.cardId ∧
      (consentPolicy? database new).isSome ∧
      (database.trustReferences.any fun reference =>
        reference.trustEvidenceReferenceId == new.evidenceReferenceId &&
          reference.tenantId == new.tenantId) ∧
      database.knowsCard new.tenantId new.cardId) then
    throw .missingReference
  return { database with
    consentReceipts := database.consentReceipts ++ [new] }

end Receipts

/-! ## Suppressions -/

def releaseFields (new : Suppression) (release : AuditEvent) :
    List (Text × Option Text) :=
  [("suppressionId", some new.suppressionId),
    ("releaseReason", new.releaseReason),
    ("requiredPermission", some "communications:release_suppression"),
    ("decisionId", some release.authorizationDecisionId)]

def releaseEvent? (new : Suppression) : Option AuditEvent :=
  database.auditEvents.find? fun event =>
    event.tenantId == new.tenantId &&
      some event.auditEventId == new.auditEventId &&
      event.eventType == "communication.suppression_released" &&
      event.result == .succeeded && event.cardId == new.cardId &&
      event.actorType == .user && event.actorUserId.isSome &&
      event.actorUserId == new.releasedByActorId

def checkSuppressionRelease (new : Suppression) : Accepted PUnit := do
  let releaser := database.memberships.find? fun membership =>
    membership.tenantId == new.tenantId &&
      some membership.userId == new.releasedByActorId &&
      membership.status == .active
  let releases := releaser.any fun membership =>
    membership.role == .tenantOwner || membership.role == .tenantAdmin ||
      membership.role == .receptionistManager
  if ¬releases then
    throw <| .raised
      "communication suppression release requires authorized active membership"
  match releaseEvent? database new with
  | none =>
      throw <| .raised <|
        "communication suppression release requires matching release audit" ++
          " evidence"
  | some release =>
      if (fieldsDiffer release.metadata (releaseFields new release)).Holds then
        throw <| .raised <|
          "communication suppression release audit evidence does not match" ++
            " suppression resource"
      if release.occurredAt < new.createdAt ∨
          new.releasedAt.any fun releasedAt =>
            release.occurredAt > releasedAt then
        throw <| .raised
          "communication suppression release audit chronology is invalid"

def enforceCommunicationSuppressionActorEvidence
    (operation : TriggerOperation Suppression) (new : Suppression) :
    Accepted PUnit := do
  let creator := database.memberships.find? fun membership =>
    membership.tenantId == new.tenantId &&
      membership.userId == new.createdByActorId &&
      membership.status == .active
  if creator.all fun membership => membership.role == .viewer then
    throw <| .raised <|
      "communication suppression creator requires active non-viewer" ++
        " membership"
  match operation with
  | .insert =>
      if new.status ≠ .active then
        throw <| .raised <|
          "communication suppression rows must be inserted active and" ++
            " released through a controlled transition"
  | .update _ => pure ⟨⟩
  if new.status = .released then checkSuppressionRelease database new

/-- The update branch of the trigger; a deletion is refused. -/
def enforceCommunicationSuppressionTransition (old new : Suppression) :
    Accepted PUnit := do
  if new.tenantId ≠ old.tenantId ∨ new.cardId ≠ old.cardId ∨
      new.participantId ≠ old.participantId ∨ new.channel ≠ old.channel ∨
      new.purpose ≠ old.purpose ∨ new.reasonCode ≠ old.reasonCode ∨
      new.createdByActorId ≠ old.createdByActorId ∨
      new.createdAt ≠ old.createdAt ∨ new.expiresAt ≠ old.expiresAt then
    throw <| .raised <|
      "communication suppression scope and creation evidence is immutable"
  if old.status ≠ .active ∨ new.status ≠ .released then
    throw <| .raised
      "communication suppression update must release one active suppression"
  if (new.releasedAt.all fun releasedAt => releasedAt < old.createdAt) ∨
      new.releasedByActorId.isNone ∨
      (new.releaseReason.all fun reason =>
        reason.toList.all fun character => character == ' ') ∨
      new.auditEventId.isNone then
    throw <| .raised <|
      "communication suppression release requires actor, reason, time, and" ++
        " audit evidence"

/-- The checks of the table. -/
@[mk_iff]
structure Suppression.Valid (suppression : Suppression) : Prop where
  status :
    (suppression.status = .active ∧ suppression.releasedAt = none ∧
      suppression.releasedByActorId = none ∧
      suppression.releaseReason = none ∧ suppression.auditEventId = none) ∨
    (suppression.status = .expired ∧ suppression.releasedAt = none ∧
      suppression.releasedByActorId = none ∧
      suppression.releaseReason = none) ∨
    (suppression.status = .released ∧ suppression.releasedAt.isSome ∧
      suppression.releasedByActorId.isSome ∧
      suppression.releaseReason.isSome ∧ suppression.auditEventId.isSome)
  expiresAt : ∀ expiresAt ∈ suppression.expiresAt,
    expiresAt > suppression.createdAt

instance Suppression.decidableValid (suppression : Suppression) :
    Decidable suppression.Valid :=
  decidable_of_iff' _ (Suppression.valid_iff suppression)

def Suppression.referencesKnown (suppression : Suppression) : Bool :=
  database.knowsParticipant suppression.tenantId suppression.participantId
      suppression.cardId &&
    database.knowsCard suppression.tenantId suppression.cardId &&
    database.knowsMember suppression.tenantId
      (some suppression.createdByActorId) &&
    database.knowsMember suppression.tenantId
      suppression.releasedByActorId &&
    (suppression.auditEventId.all fun identifier =>
      database.auditEvents.any fun event =>
        event.auditEventId == identifier &&
          event.tenantId == suppression.tenantId)

/-- The identifier, or the audit event of the release. -/
def Suppression.sameKey (suppression other : Suppression) : Bool :=
  suppression.suppressionId == other.suppressionId ||
    (suppression.tenantId == other.tenantId &&
      suppression.auditEventId.isSome &&
      suppression.auditEventId == other.auditEventId)

def insertSuppression (new : Suppression) :
    Accepted CommunicationsDatabase := do
  enforceCommunicationSuppressionActorEvidence database .insert new
  enforceCommunicationParticipantCardScope database new.tenantId
    new.participantId new.cardId
  if ¬new.Valid then throw .checkViolation
  if database.suppressions.any new.sameKey then throw .keyInUse
  if ¬new.referencesKnown database then throw .missingReference
  return { database with suppressions := database.suppressions ++ [new] }

/-- `UPDATE communication_suppressions SET … WHERE suppression_id = …`. -/
def updateSuppression (suppressionId : Text)
    (revise : Suppression → Suppression) : Accepted CommunicationsDatabase :=
  match database.suppressions.find? fun suppression =>
      suppression.suppressionId == suppressionId with
  | none => pure database
  | some old => do
      let new := revise old
      enforceCommunicationSuppressionActorEvidence database (.update old) new
      enforceCommunicationParticipantCardScope database new.tenantId
        new.participantId new.cardId
      enforceCommunicationSuppressionTransition old new
      if ¬new.Valid then throw .checkViolation
      if database.suppressions.any fun other =>
          other.suppressionId != suppressionId && new.sameKey other then
        throw .keyInUse
      if ¬new.referencesKnown database then throw .missingReference
      if new.suppressionId ≠ suppressionId ∧
          (database.dispatchAttempts.any fun attempt =>
            attempt.tenantId == old.tenantId &&
              attempt.suppressionId == some suppressionId) then
        throw .stillReferenced
      return { database with
        suppressions := database.suppressions.map fun suppression =>
          if suppression.suppressionId = suppressionId then new
          else suppression }

end BidayaxExecutive.Communications
