import BidayaxExecutive.Communications.Database
import BidayaxExecutive.Runtime.Base64Url
import BidayaxExecutive.Trust.Hashing
import BidayaxExecutive.Trust.Types

/-!
# Tables of the trust schema

The rows of the keys, of their revocations, of the trust events and of the
audit chains, with the columns of the migration.  A statement takes effect as a
whole or is refused, by a trigger, a check, a key that is in use or a foreign
key, in this order.
-/

namespace BidayaxExecutive.TrustStore

open BidayaxExecutive.Communications (Refusal Timestamptz)
open BidayaxExecutive.Runtime
open BidayaxExecutive.Trust

/-- A statement takes effect or is refused. -/
abbrev Accepted : Type → Type :=
  Except Refusal

/-- The largest `BIGINT`. -/
def maxBigint : Int := 9223372036854775807

/-- `jsonb_typeof(value) = 'object'`. -/
def isJsonbObject : Json → Bool
  | .object _ => true
  | _ => false

/-! ## Keys -/

/-- A row of `trust_keys`. -/
structure TrustKeyRow where
  keyId : JsString
  keyVersion : Int
  tenantId : JsString
  structureVersion : JsString
  identityId : JsString
  algorithm : JsString
  operation : JsString
  publicKey : JsString
  publicKeyEncoding : JsString
  purpose : KeyPurpose
  scopeId : JsString
  providerType : ProviderType
  providerKeyReference : JsString
  status : TrustKeyStatus
  validFrom : Timestamptz
  validUntil : Option Timestamptz
  statusChangedAt : Timestamptz
  replacesKeyId : Option JsString
  replacesKeyVersion : Option Int
  revokedAt : Option Timestamptz
  compromisedAt : Option Timestamptz
  metadata : Json
  createdAt : Timestamptz

inductive RevocationType where
  | revoked
  | compromised
  deriving DecidableEq, Repr

/-- A row of `trust_key_revocations`. -/
structure KeyRevocationRow where
  revocationId : JsString
  tenantId : JsString
  keyId : JsString
  keyVersion : Int
  revocationType : RevocationType
  reasonCode : JsString
  effectiveAt : Timestamptz
  recordedAt : Timestamptz
  actorIdentityId : Option JsString
  idempotencyKey : JsString
  metadata : Json

/-! ## Events and audit chains -/

/-- A row of `trust_events`. -/
structure TrustEventRow where
  eventId : JsString
  tenantId : JsString
  structureVersion : JsString
  streamId : JsString
  eventType : JsString
  provenanceLifecycle : Option JsString
  subjectType : JsString
  subjectId : JsString
  actorIdentityId : Option JsString
  occurredAt : Timestamptz
  idempotencyKey : JsString
  details : Json

/-- A row of `trust_audit_chain_entries`. -/
structure AuditEntryRow where
  entryId : JsString
  tenantId : JsString
  structureVersion : JsString
  streamId : JsString
  sequenceNumber : Int
  previousDigest : Option JsString
  eventId : JsString
  eventPayload : Json
  eventDigest : JsString
  entryDigest : JsString
  checkpointSequence : Option Int
  checkpointDigest : Option JsString
  appendedAt : Timestamptz

/-- Of the tenants, the identities and the registered algorithms only the keys
are referred to. -/
structure TrustDatabase where
  tenants : List JsString
  cryptoIdentities : List (JsString × JsString)
  algorithms : List (JsString × JsString)
  keys : List TrustKeyRow
  revocations : List KeyRevocationRow
  events : List TrustEventRow
  auditEntries : List AuditEntryRow

namespace TrustDatabase

variable (database : TrustDatabase)

/-- The foreign keys to `trust_crypto_identities`, for an identity that is not
null. -/
def knowsIdentity (tenantId : JsString) (identityId : Option JsString) :
    Bool :=
  identityId.all fun identity =>
    database.cryptoIdentities.contains (identity, tenantId)

end TrustDatabase

/-! ## Inserting events -/

def TrustEventRow.checks (row : TrustEventRow) : Bool :=
  row.structureVersion == js "1" &&
    row.provenanceLifecycle.all provenanceLifecycleEvents.contains &&
    isJsonbObject row.details

/-- The keys `(event_id)`, `(event_id, tenant_id)` and
`(tenant_id, idempotency_key)`; the second follows from the first. -/
def TrustEventRow.sharesKey (row other : TrustEventRow) : Bool :=
  row.eventId == other.eventId ||
    (row.tenantId == other.tenantId &&
      row.idempotencyKey == other.idempotencyKey)

def insertTrustEvent (database : TrustDatabase) (new : TrustEventRow) :
    Accepted TrustDatabase := do
  if !new.checks then
    throw .checkViolation
  if database.events.any new.sharesKey then
    throw .keyInUse
  if !(database.tenants.contains new.tenantId &&
      database.knowsIdentity new.tenantId new.actorIdentityId) then
    throw .missingReference
  return { database with events := database.events ++ [new] }

/-! ## Appending to audit chains -/

def AuditEntryRow.ofStream (tenantId streamId : JsString)
    (row : AuditEntryRow) : Bool :=
  row.tenantId == tenantId && row.streamId == streamId

/-- The rows of a stream in the order they were inserted in. -/
def auditStream (tenantId streamId : JsString) (database : TrustDatabase) :
    List AuditEntryRow :=
  database.auditEntries.filter (AuditEntryRow.ofStream tenantId streamId)

/-- The row with the greater sequence number so far. -/
def laterEntry (greatest : Option AuditEntryRow) (row : AuditEntryRow) :
    Option AuditEntryRow :=
  match greatest with
  | none => some row
  | some previous =>
      if previous.sequenceNumber < row.sequenceNumber then some row
      else some previous

/-- `ORDER BY sequence_number DESC LIMIT 1`. -/
def priorAuditEntry (database : TrustDatabase)
    (tenantId streamId : JsString) : Option AuditEntryRow :=
  (auditStream tenantId streamId database).foldl laterEntry none

/-- The sum of a `BIGINT` and one. -/
def nextSequence (sequence : Int) : Accepted Int :=
  if sequence = maxBigint then throw .outOfRange else pure (sequence + 1)

/-- The trigger `enforce_trust_audit_append_v1`, once it has its lock. -/
def enforceTrustAuditAppend (database : TrustDatabase)
    (new : AuditEntryRow) : Accepted Unit :=
  match priorAuditEntry database new.tenantId new.streamId with
  | some prior => do
      let following ← nextSequence prior.sequenceNumber
      if new.sequenceNumber != following ||
          new.previousDigest != some prior.entryDigest then
        throw (.raised "audit append would create a gap or fork")
  | none =>
      match new.checkpointSequence with
      | none =>
          if new.sequenceNumber != 1 || new.previousDigest.isSome then
            throw (.raised "audit genesis must begin at sequence 1")
          else pure ()
      | some checkpoint => do
          let following ← nextSequence checkpoint
          if new.sequenceNumber != following ||
              new.previousDigest != new.checkpointDigest then
            throw (.raised "audit checkpoint linkage is invalid")

def AuditEntryRow.checks (row : AuditEntryRow) : Bool :=
  row.structureVersion == js "1" &&
    decide (0 < row.sequenceNumber) &&
    isJsonbObject row.eventPayload &&
    isHexDigest row.eventDigest &&
    isHexDigest row.entryDigest &&
    row.checkpointSequence.isNone == row.checkpointDigest.isNone &&
    row.previousDigest.all isHexDigest &&
    row.checkpointDigest.all isHexDigest

/-- The keys of a stream: its sequence numbers, events, event digests, entry
digests and the digests that are followed. -/
def AuditEntryRow.sharesStreamKey (row other : AuditEntryRow) : Bool :=
  row.sequenceNumber == other.sequenceNumber ||
    row.eventId == other.eventId ||
    row.eventDigest == other.eventDigest ||
    row.entryDigest == other.entryDigest ||
    (row.previousDigest.isSome && row.previousDigest == other.previousDigest)

def AuditEntryRow.sharesKey (row other : AuditEntryRow) : Bool :=
  row.entryId == other.entryId ||
    (other.ofStream row.tenantId row.streamId && row.sharesStreamKey other)

def insertAuditEntry (database : TrustDatabase) (new : AuditEntryRow) :
    Accepted TrustDatabase := do
  enforceTrustAuditAppend database new
  if !new.checks then
    throw .checkViolation
  if database.auditEntries.any new.sharesKey then
    throw .keyInUse
  if !(database.tenants.contains new.tenantId &&
      database.events.any fun event =>
        event.eventId == new.eventId && event.tenantId == new.tenantId) then
    throw .missingReference
  return { database with auditEntries := database.auditEntries ++ [new] }

/-! ## Changing evidence -/

/-- The trigger `prevent_trust_evidence_mutation_v1`, before each row that an
update or a deletion is about. -/
def preventTrustEvidenceMutation {Row : Type} (rows : List Row)
    (concerns : Row → Bool) : Accepted Unit :=
  if rows.any concerns then
    throw (.raised "trust evidence is immutable and append-only")
  else pure ()

end BidayaxExecutive.TrustStore
