import BidayaxExecutive.Communications.Dispatch
import BidayaxExecutive.Library.LockingTransactions

/-!
# Policy subjects and their locks

Suppressions, consent receipts and queued dispatch attempts lock the subject
they are about until their transaction ends: the subject itself, and the
subjects without its channel, without its purpose and without both.  A row that
is inserted or updated is locked as well, by its key.  Under `READ COMMITTED` a
trigger sees what is committed when it evaluates its queries, while `now()` is
the instant its transaction began.
-/

namespace BidayaxExecutive.Communications

open BidayaxExecutive.Library.LockingTransactions

/-! ## The locks -/

inductive PolicyResource where
  | advisory (key : Int)
  | suppression (suppressionId : Text)
  | receipt (consentReceiptId : Text)
  | attempt (attemptId : Text)
  deriving DecidableEq

section Locks

variable (hashtextextended : Text → Int)

def lockCommunicationPolicySubject (tenantId : Text) (cardId : Option Text)
    (participantId : Text) (channel purpose : Option Text) :
    PolicyResource :=
  .advisory <| hashtextextended <|
    tenantId ++ ":" ++ cardId.getD "<tenant>" ++ ":" ++ participantId ++
      ":" ++ channel.getD "<any>" ++ ":" ++ purpose.getD "<any>"

def lockCommunicationPolicySubjectHierarchy (tenantId : Text)
    (cardId : Option Text) (participantId : Text)
    (channel purpose : Option Text) : List PolicyResource :=
  let lock := lockCommunicationPolicySubject hashtextextended tenantId cardId
    participantId
  [lock channel purpose, lock none purpose, lock channel none,
    lock none none]

def Suppression.locks (suppression : Suppression) : List PolicyResource :=
  lockCommunicationPolicySubjectHierarchy hashtextextended
    suppression.tenantId suppression.cardId suppression.participantId
    (suppression.channel.map CommunicationChannel.text) suppression.purpose

def ConsentReceipt.locks (receipt : ConsentReceipt) : List PolicyResource :=
  lockCommunicationPolicySubjectHierarchy hashtextextended receipt.tenantId
    receipt.cardId receipt.participantId (some receipt.channel.text)
    (some receipt.purpose.text)

/-- Only a queued attempt locks its subject. -/
def DispatchAttempt.locks (attempt : DispatchAttempt) :
    List PolicyResource :=
  if attempt.state = .queued then
    lockCommunicationPolicySubjectHierarchy hashtextextended attempt.tenantId
      (some attempt.cardId) attempt.participantId (some attempt.channel.text)
      (some attempt.purpose.text)
  else []

end Locks

/-! ## Statements -/

/-- An update is given with the row it writes. -/
inductive PolicyStatement where
  | suppress (new : Suppression)
  | receive (new : ConsentReceipt)
  | dispatch (new : DispatchAttempt)
  | redispatch (attemptId : Text) (new : DispatchAttempt)

inductive AttemptWrite where
  | insert (row : DispatchAttempt)
  | replace (attemptId : Text) (row : DispatchAttempt)

/-- What a transaction has written and not committed. -/
structure PolicyWrites where
  suppressions : List Suppression
  receipts : List ConsentReceipt
  attempts : List AttemptWrite

def AttemptWrite.apply (attempts : List DispatchAttempt) :
    AttemptWrite → List DispatchAttempt
  | .insert row => attempts ++ [row]
  | .replace attemptId row => attempts.map fun attempt =>
      if attempt.attemptId = attemptId then row else attempt

def PolicyWrites.apply (writes : PolicyWrites)
    (database : CommunicationsDatabase) : CommunicationsDatabase :=
  { database with
    suppressions := database.suppressions ++ writes.suppressions
    consentReceipts := database.consentReceipts ++ writes.receipts
    dispatchAttempts :=
      writes.attempts.foldl AttemptWrite.apply database.dispatchAttempts }

/-- An inserted row locks its key once the triggers are done, an updated row
before they begin.  An update that finds no row ends there. -/
def PolicyStatement.resources (hashtextextended : Text → Int)
    (database : CommunicationsDatabase) :
    PolicyStatement → Option (List PolicyResource)
  | .suppress new =>
      some (new.locks hashtextextended ++ [.suppression new.suppressionId])
  | .receive new =>
      some (new.locks hashtextextended ++ [.receipt new.consentReceiptId])
  | .dispatch new =>
      some (new.locks hashtextextended ++ [.attempt new.attemptId])
  | .redispatch attemptId new =>
      match findDispatchAttempt database attemptId with
      | none => none
      | some _ =>
          some (.attempt attemptId :: new.locks hashtextextended ++
            [.attempt new.attemptId])

def PolicyStatement.perform (readTimestamptz : Text → Option Timestamptz)
    (now : Timestamptz) (database : CommunicationsDatabase)
    (statement : PolicyStatement) (writes : PolicyWrites) :
    Accepted PolicyWrites :=
  match statement with
  | .suppress new => do
      let _ ← insertSuppression database new
      return { writes with suppressions := writes.suppressions ++ [new] }
  | .receive new => do
      let _ ← insertConsentReceipt database readTimestamptz new
      return { writes with receipts := writes.receipts ++ [new] }
  | .dispatch new => do
      let row ← admitDispatchInsert database now new
      return { writes with attempts := writes.attempts ++ [.insert row] }
  | .redispatch attemptId new =>
      match findDispatchAttempt database attemptId with
      | none => pure writes
      | some old => do
          let row ← admitDispatchUpdate database now old new
          return { writes with
            attempts := writes.attempts ++ [.replace attemptId row] }

/-- The transactions on the policy tables. -/
def policySystem (hashtextextended : Text → Int)
    (readTimestamptz : Text → Option Timestamptz) :
    System Timestamptz CommunicationsDatabase PolicyStatement PolicyWrites
      PolicyResource Refusal where
  resources := PolicyStatement.resources hashtextextended
  perform := PolicyStatement.perform readTimestamptz
  noWrites := ⟨[], [], []⟩
  apply := PolicyWrites.apply

abbrev PolicyWorld : Type :=
  World Timestamptz CommunicationsDatabase PolicyStatement PolicyWrites
    PolicyResource

abbrev PolicyTransaction : Type :=
  Transaction Timestamptz PolicyStatement PolicyWrites PolicyResource

abbrev PolicyAction : Type :=
  Action Timestamptz PolicyStatement

end BidayaxExecutive.Communications
