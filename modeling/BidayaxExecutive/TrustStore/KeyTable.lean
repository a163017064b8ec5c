import BidayaxExecutive.Library.KeyedRows
import BidayaxExecutive.Trust.KeyLifecycle
import BidayaxExecutive.TrustStore.TrustTables

/-!
# The table of the trust keys

A key is inserted, moves along its lifecycle one update at a time, and is never
deleted.  A replacement is registered while the key it replaces is retiring.
The evidence of a revocation is recorded for a key that is revoked at the time
the evidence says, and never changes.
-/

namespace BidayaxExecutive.TrustStore

open BidayaxExecutive.Communications (Refusal Timestamptz)
open BidayaxExecutive.Library.KeyedRows
open BidayaxExecutive.Runtime
open BidayaxExecutive.Trust

/-! ## Keys of the rows -/

/-- The primary key of `trust_keys`. -/
abbrev KeyIdentity : Type :=
  JsString × JsString × Int

def TrustKeyRow.identity (row : TrustKeyRow) : KeyIdentity :=
  (row.tenantId, row.keyId, row.keyVersion)

/-- The key that a row says it replaces. -/
def TrustKeyRow.predecessor? (row : TrustKeyRow) : Option KeyIdentity :=
  match row.replacesKeyId, row.replacesKeyVersion with
  | some keyId, some keyVersion => some (row.tenantId, keyId, keyVersion)
  | _, _ => none

def findKey (database : TrustDatabase) (wanted : KeyIdentity) :
    Option TrustKeyRow :=
  database.keys.find? fun row => row.identity == wanted

/-! ## Triggers -/

def sqlStatus : TrustKeyStatus → String
  | .pending => "pending"
  | .active => "active"
  | .retiring => "retiring"
  | .retired => "retired"
  | .revoked => "revoked"
  | .compromised => "compromised"

/-- `INTEGER` addition of one. -/
def nextVersion (version : Int) : Accepted Int :=
  if version = 2147483647 then throw .outOfRange else pure (version + 1)

/-- The trigger `enforce_trust_key_registration_v1`. -/
def enforceTrustKeyRegistration (database : TrustDatabase)
    (new : TrustKeyRow) : Accepted Unit :=
  match new.replacesKeyId with
  | none => pure ()
  | some _ =>
      match new.predecessor?.bind (findKey database) with
      | none => throw (.raised
          "replacement registration must transactionally follow the retiring predecessor")
      | some predecessor => do
          let following ← nextVersion predecessor.keyVersion
          if predecessor.status != .retiring || new.status != .pending ||
              new.keyVersion != following ||
              new.identityId != predecessor.identityId ||
              new.purpose != predecessor.purpose ||
              new.scopeId != predecessor.scopeId then
            throw (.raised
              "replacement registration must transactionally follow the retiring predecessor")

/-- The columns that no update changes. -/
def TrustKeyRow.keepsMetadata (old new : TrustKeyRow) : Bool :=
  new.keyId == old.keyId && new.keyVersion == old.keyVersion &&
    new.tenantId == old.tenantId && new.identityId == old.identityId &&
    new.algorithm == old.algorithm && new.publicKey == old.publicKey &&
    new.publicKeyEncoding == old.publicKeyEncoding &&
    new.purpose == old.purpose && new.scopeId == old.scopeId &&
    new.providerType == old.providerType &&
    new.providerKeyReference == old.providerKeyReference &&
    new.validFrom == old.validFrom &&
    (new.validUntil == old.validUntil ||
      (old.status == .active && new.status == .retiring &&
        new.validUntil == some new.statusChangedAt)) &&
    new.replacesKeyId == old.replacesKeyId &&
    new.replacesKeyVersion == old.replacesKeyVersion &&
    new.createdAt == old.createdAt

/-- The status changes of `enforce_trust_key_lifecycle_v1`. -/
def lifecycleAllows : TrustKeyStatus → TrustKeyStatus → Bool
  | .pending, .active | .pending, .revoked | .pending, .compromised => true
  | .active, .retiring | .active, .revoked | .active, .compromised => true
  | .retiring, .retired | .retiring, .revoked | .retiring, .compromised =>
      true
  | .retired, .revoked | .retired, .compromised => true
  | .revoked, .compromised => true
  | _, _ => false

/-- The trigger `enforce_trust_key_lifecycle_v1`, before an update. -/
def enforceTrustKeyLifecycle (old new : TrustKeyRow) : Accepted Unit := do
  if !old.keepsMetadata new then
    throw (.raised "trust key public/provider metadata is immutable")
  if !lifecycleAllows old.status new.status then
    throw (.raised ("invalid trust key lifecycle transition from " ++
      sqlStatus old.status ++ " to " ++
      sqlStatus new.status))
  if new.statusChangedAt ≤ old.statusChangedAt then
    throw (.raised "key lifecycle timestamp must increase")

/-! ## Checks and keys -/

/-- `public_key ~* '(private[ _-]?key|begin)'`. -/
def looksPrivate (publicKey : JsString) : Bool :=
  [js "privatekey", js "private key", js "private_key", js "private-key",
    js "begin"].any fun text =>
      JsString.hasInfix text (JsString.lowerCase publicKey)

def TrustKeyRow.statusChecks (row : TrustKeyRow) : Bool :=
  match row.status with
  | .pending | .active | .retiring | .retired =>
      row.revokedAt.isNone && row.compromisedAt.isNone
  | .revoked => row.revokedAt.isSome && row.compromisedAt.isNone
  | .compromised => row.compromisedAt.isSome

def TrustKeyRow.checks (row : TrustKeyRow) : Bool :=
  decide (0 < row.keyVersion) && row.structureVersion == js "1" &&
    row.operation == js "signature" && Base64Url.isText row.publicKey &&
    row.publicKeyEncoding == js "spki-der-base64url" &&
    !row.providerKeyReference.isEmpty && isJsonbObject row.metadata &&
    row.replacesKeyId.isNone == row.replacesKeyVersion.isNone &&
    row.validUntil.all (decide <| row.validFrom ≤ ·) &&
    ((row.status != .retiring && row.status != .retired) ||
      row.validUntil.isSome) &&
    row.statusChecks && !looksPrivate row.publicKey

/-- The primary key, the provider's key, the active key of a scope and the
replacement of a key. -/
def TrustKeyRow.sharesKey (row other : TrustKeyRow) : Bool :=
  row.identity == other.identity ||
    (row.tenantId == other.tenantId &&
      row.providerType == other.providerType &&
      row.providerKeyReference == other.providerKeyReference &&
      row.keyVersion == other.keyVersion) ||
    (row.status == .active && other.status == .active &&
      row.tenantId == other.tenantId && row.purpose == other.purpose &&
      row.scopeId == other.scopeId) ||
    (row.predecessor?.isSome && row.predecessor? == other.predecessor?)

/-- The foreign keys of a key; `predecessor?` is one of them. -/
def TrustKeyRow.referencesKnown (database : TrustDatabase)
    (row : TrustKeyRow) : Bool :=
  database.tenants.contains row.tenantId &&
    database.knowsIdentity row.tenantId (some row.identityId) &&
    database.algorithms.contains (row.algorithm, row.operation) &&
    row.predecessor?.all fun wanted =>
      row.identity == wanted || (findKey database wanted).isSome

/-! ## Statements -/

def insertTrustKey (database : TrustDatabase) (new : TrustKeyRow) :
    Accepted TrustDatabase := do
  enforceTrustKeyRegistration database new
  if !new.checks then
    throw .checkViolation
  if database.keys.any new.sharesKey then
    throw .keyInUse
  if !new.referencesKnown database then
    throw .missingReference
  return { database with keys := database.keys ++ [new] }

/-- An update of the row with the primary key, given with the row it writes.
The columns of its foreign keys are not changed. -/
def updateTrustKey (database : TrustDatabase) (wanted : KeyIdentity)
    (new : TrustKeyRow) : Accepted TrustDatabase :=
  match findKey database wanted with
  | none => pure database
  | some old => do
      enforceTrustKeyLifecycle old new
      if !new.checks then
        throw .checkViolation
      if database.keys.any fun row =>
          row.identity != wanted && new.sharesKey row then
        throw .keyInUse
      return { database with
        keys := replace TrustKeyRow.identity wanted new database.keys }

def deleteTrustKeys (database : TrustDatabase)
    (concerns : TrustKeyRow → Bool) : Accepted TrustDatabase := do
  if database.keys.any concerns then
    throw (.raised "trust keys cannot be deleted")
  return database

/-- The trigger `enforce_trust_revocation_evidence_v1`.  No key at all fails
the comparison of the time. -/
def enforceTrustRevocationEvidence (database : TrustDatabase)
    (new : KeyRevocationRow) : Accepted Unit :=
  let matched := (findKey database
      (new.tenantId, new.keyId, new.keyVersion)).any fun key =>
    match new.revocationType with
    | .revoked =>
        key.status == .revoked && key.revokedAt == some new.effectiveAt
    | .compromised =>
        key.status == .compromised &&
          key.compromisedAt == some new.effectiveAt
  if matched then pure ()
  else throw (.raised "revocation evidence must match key lifecycle state")

def KeyRevocationRow.checks (row : KeyRevocationRow) : Bool :=
  !row.reasonCode.isEmpty && decide (row.effectiveAt ≤ row.recordedAt) &&
    isJsonbObject row.metadata

def KeyRevocationRow.sharesKey (row other : KeyRevocationRow) : Bool :=
  row.revocationId == other.revocationId ||
    (row.tenantId == other.tenantId &&
      row.idempotencyKey == other.idempotencyKey) ||
    (row.tenantId == other.tenantId && row.keyId == other.keyId &&
      row.keyVersion == other.keyVersion &&
      row.revocationType == other.revocationType &&
      row.effectiveAt == other.effectiveAt)

def insertKeyRevocation (database : TrustDatabase)
    (new : KeyRevocationRow) : Accepted TrustDatabase := do
  enforceTrustRevocationEvidence database new
  if !new.checks then
    throw .checkViolation
  if database.revocations.any new.sharesKey then
    throw .keyInUse
  if !(database.tenants.contains new.tenantId &&
      (findKey database
        (new.tenantId, new.keyId, new.keyVersion)).isSome &&
      database.knowsIdentity new.tenantId new.actorIdentityId) then
    throw .missingReference
  return { database with revocations := database.revocations ++ [new] }

inductive KeyStatement where
  | insertKey (new : TrustKeyRow)
  | updateKey (wanted : KeyIdentity) (new : TrustKeyRow)
  | deleteKeys (concerns : TrustKeyRow → Bool)
  | insertRevocation (new : KeyRevocationRow)
  | changeRevocations (concerns : KeyRevocationRow → Bool)

/-- A statement that is refused leaves the tables as they are, so a run has the
accepted ones. -/
def keyStatementStep (database : TrustDatabase) :
    KeyStatement → Accepted TrustDatabase
  | .insertKey new => insertTrustKey database new
  | .updateKey wanted new => updateTrustKey database wanted new
  | .deleteKeys concerns => deleteTrustKeys database concerns
  | .insertRevocation new => insertKeyRevocation database new
  | .changeRevocations concerns => do
      preventTrustEvidenceMutation database.revocations concerns
      return database

end BidayaxExecutive.TrustStore
