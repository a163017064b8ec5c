import BidayaxExecutive.Communications.Consent

/-!
# Dispatch attempts

An attempt that is queued needs exactly one active consent receipt of its
subject, the one it cites, and no active suppression.  Both are evaluated at
`now()`, the instant the transaction began.
-/

namespace BidayaxExecutive.Communications

variable (database : CommunicationsDatabase)

/-! ## The policy -/

/-- The receipt is of the tenant, card, participant, channel and purpose. -/
def ConsentReceipt.concerns (receipt : ConsentReceipt)
    (attempt : DispatchAttempt) : Bool :=
  receipt.tenantId == attempt.tenantId &&
    receipt.cardId == some attempt.cardId &&
    receipt.participantId == attempt.participantId &&
    receipt.channel == attempt.channel && receipt.purpose == attempt.purpose

/-- The instant is between the two, or none is set. -/
def isEffective (effectiveAt : Timestamptz) (expiresAt : Option Timestamptz)
    (evaluationTime : Timestamptz) : Bool :=
  effectiveAt ≤ evaluationTime &&
    expiresAt.all fun expiresAt => expiresAt > evaluationTime

def isConsentRevoked (attempt : DispatchAttempt)
    (evaluationTime : Timestamptz) : Bool :=
  database.consentReceipts.any fun revocation =>
    revocation.concerns attempt && revocation.status == .revoked &&
      revocation.effectiveAt ≤ evaluationTime

/-- The receipts that count, each with its policy. -/
def activeConsents (attempt : DispatchAttempt)
    (evaluationTime : Timestamptz) : List (ConsentReceipt × ConsentPolicy) :=
  (database.consentReceipts.product database.consentPolicies).filter
    fun (receipt, policy) =>
      policy.tenantId == receipt.tenantId &&
        policy.consentPolicyId == receipt.consentPolicyId &&
        receipt.concerns attempt && receipt.status == .granted &&
        isEffective receipt.effectiveAt receipt.expiresAt evaluationTime &&
        receipt.revokedAt.isNone &&
        isEffective policy.effectiveAt policy.expiresAt evaluationTime &&
        !isConsentRevoked database attempt evaluationTime

def selectedConsents (attempt : DispatchAttempt)
    (evaluationTime : Timestamptz) : List (ConsentReceipt × ConsentPolicy) :=
  (activeConsents database attempt evaluationTime).filter
    fun (receipt, _) => some receipt.consentReceiptId ==
      attempt.consentReceiptId

def Suppression.covers (suppression : Suppression)
    (attempt : DispatchAttempt) : Bool :=
  suppression.tenantId == attempt.tenantId &&
    suppression.cardId == some attempt.cardId &&
    suppression.participantId == attempt.participantId &&
    (suppression.channel.all fun channel => channel == attempt.channel) &&
    suppression.purpose.all fun purpose => purpose == attempt.purpose.text

def activeSuppressions (attempt : DispatchAttempt)
    (evaluationTime : Timestamptz) : List Suppression :=
  database.suppressions.filter fun suppression =>
    suppression.covers attempt && suppression.status == .active &&
      isEffective suppression.createdAt suppression.expiresAt
        evaluationTime &&
      suppression.releasedAt.isNone

/-- The fields that an update may not change. -/
def DispatchAttempt.sameAuthorization (new old : DispatchAttempt) : Bool :=
  new.tenantId == old.tenantId && new.cardId == old.cardId &&
    new.communicationId == old.communicationId &&
    new.participantId == old.participantId && new.purpose == old.purpose &&
    new.consentReceiptId == old.consentReceiptId &&
    new.commandOperation == old.commandOperation &&
    new.commandIdempotencyKey == old.commandIdempotencyKey &&
    new.adapterId == old.adapterId && new.channel == old.channel &&
    new.providerDispatchEnabled == old.providerDispatchEnabled &&
    new.providerReferenceId == old.providerReferenceId &&
    new.createdAt == old.createdAt

/-- What is asked of an attempt that is queued. -/
def checkQueuedDispatch (new : DispatchAttempt)
    (evaluationTime : Timestamptz) : Accepted PUnit := do
  if (selectedConsents database new evaluationTime).length ≠ 1 then
    throw <| .raised
      "communication dispatch requires an active cited consent receipt"
  if (activeConsents database new evaluationTime).length ≠ 1 then
    throw <| .raised
      "communication dispatch requires exactly one active consent receipt"
  if (activeSuppressions database new evaluationTime).length > 0 then
    throw <| .raised
      "communication dispatch is blocked by an active suppression"

/-- The row as the trigger leaves it. -/
def enforceCommunicationDispatchPolicy (now : Timestamptz)
    (operation : TriggerOperation DispatchAttempt) (new : DispatchAttempt) :
    Accepted DispatchAttempt := do
  if new.providerDispatchEnabled then
    throw <| .raised <|
      "communication provider dispatch is disabled until a later authorized" ++
        " phase"
  match operation with
  | .insert => pure ⟨⟩
  | .update old =>
      if ¬new.sameAuthorization old then
        throw <| .raised
          "communication dispatch authorization fields are immutable"
  if new.state = .queued then
    checkQueuedDispatch database new now
    return { new with policyEvaluatedAt := now }
  else return new

/-! ## The statements -/

def DispatchAttempt.referencesKnown (attempt : DispatchAttempt) : Bool :=
  database.knowsCommunication attempt.tenantId (some attempt.communicationId)
      (some attempt.cardId) &&
    database.knowsParticipant attempt.tenantId attempt.participantId
      (some attempt.cardId) &&
    (attempt.consentReceiptId.all fun identifier =>
      database.consentReceipts.any fun receipt =>
        receipt.consentReceiptId == identifier &&
          receipt.tenantId == attempt.tenantId &&
          receipt.cardId == some attempt.cardId) &&
    (attempt.suppressionId.all fun identifier =>
      database.suppressions.any fun suppression =>
        suppression.suppressionId == identifier &&
          suppression.tenantId == attempt.tenantId &&
          suppression.cardId == some attempt.cardId) &&
    (database.commands.any fun command =>
      command.tenantId == attempt.tenantId &&
        command.cardId == some attempt.cardId &&
        command.operation.text == attempt.commandOperation &&
        command.idempotencyKey == attempt.commandIdempotencyKey) &&
    database.knowsCard attempt.tenantId (some attempt.cardId)

/-- The triggers and the checks of a row that is written. -/
def checkDispatchAttempt (now : Timestamptz)
    (operation : TriggerOperation DispatchAttempt) (new : DispatchAttempt) :
    Accepted DispatchAttempt := do
  enforceCommunicationReferenceCardScope database new.tenantId
    (some new.communicationId) (some new.cardId)
  let row ← enforceCommunicationDispatchPolicy database now operation new
  if row.retryCount < 0 ∨ row.updatedAt < row.createdAt ∨
      (row.state = .queued ∧ row.consentReceiptId.isNone) then
    throw .checkViolation
  return row

/-- The row that an insert adds. -/
def admitDispatchInsert (now : Timestamptz) (new : DispatchAttempt) :
    Accepted DispatchAttempt := do
  let row ← checkDispatchAttempt database now .insert new
  if database.dispatchAttempts.any fun old =>
      old.attemptId == row.attemptId then
    throw .keyInUse
  if ¬row.referencesKnown database then throw .missingReference
  return row

/-- The row that an update puts in the place of another. -/
def admitDispatchUpdate (now : Timestamptz) (old new : DispatchAttempt) :
    Accepted DispatchAttempt := do
  let row ← checkDispatchAttempt database now (.update old) new
  if database.dispatchAttempts.any fun other =>
      other.attemptId != old.attemptId &&
        other.attemptId == row.attemptId then
    throw .keyInUse
  if ¬row.referencesKnown database then throw .missingReference
  return row

def findDispatchAttempt (attemptId : Text) : Option DispatchAttempt :=
  database.dispatchAttempts.find? fun attempt =>
    attempt.attemptId == attemptId

def insertDispatchAttempt (now : Timestamptz) (new : DispatchAttempt) :
    Accepted CommunicationsDatabase := do
  let row ← admitDispatchInsert database now new
  return { database with
    dispatchAttempts := database.dispatchAttempts ++ [row] }

/-- `UPDATE communication_dispatch_attempts SET … WHERE attempt_id = …`. -/
def updateDispatchAttempt (now : Timestamptz) (attemptId : Text)
    (revise : DispatchAttempt → DispatchAttempt) :
    Accepted CommunicationsDatabase :=
  match findDispatchAttempt database attemptId with
  | none => pure database
  | some old => do
      let row ← admitDispatchUpdate database now old (revise old)
      return { database with
        dispatchAttempts := database.dispatchAttempts.map fun attempt =>
          if attempt.attemptId = attemptId then row else attempt }

end BidayaxExecutive.Communications
