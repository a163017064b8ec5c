import BidayaxExecutive.Identity.AuditEvents
import BidayaxExecutive.Identity.Authorization
import BidayaxExecutive.Library.Transactions

/-!
# Identity repository

The tables of the identity schema and the statements that the repository
executes on them.  A statement either takes effect as a whole or fails and
changes nothing; it fails when a trigger raises, a check, a unique index or a
foreign key is violated, in this order.
-/

namespace BidayaxExecutive.Identity

open BidayaxExecutive.Runtime JsString
open BidayaxExecutive.Library.Transactions

/-! ## Rows -/

structure UserIdentityRow extends UserIdentity where
  providerSubject : JsString
  email : JsString
  normalizedEmail : JsString
  emailVerified : Bool
  avatarUrl : Option JsString
  createdAt : TimeValue
  updatedAt : TimeValue
  lastAuthenticatedAt : TimeValue
  deriving DecidableEq

structure IdentityProviderAccount where
  providerAccountId : JsString
  userId : JsString
  providerSubject : JsString
  providerTenantId : Option JsString
  authenticationMethod : JsString
  createdAt : TimeValue
  updatedAt : TimeValue
  deriving DecidableEq

structure ProviderTenantLink where
  providerTenantId : JsString
  tenantId : JsString
  deriving DecidableEq

structure TenantMembershipRow extends TenantMembership where
  membershipId : JsString
  userId : JsString
  deriving DecidableEq

structure CardAccessGrantRow where
  grantId : JsString
  tenantId : JsString
  cardId : JsString
  userId : JsString
  permissionSet : List IdentityPermission
  expiresAt : Option TimeValue
  revokedAt : Option TimeValue
  deriving DecidableEq

structure ApplicationSession where
  sessionId : JsString
  userId : JsString
  tenantId : JsString
  provider : JsString
  providerSessionId : Option JsString
  authenticationMethod : JsString
  createdAt : TimeValue
  lastSeenAt : TimeValue
  idleExpiresAt : TimeValue
  absoluteExpiresAt : TimeValue
  revokedAt : Option TimeValue
  rotatedFromSessionId : Option JsString
  deriving DecidableEq

structure StoredApplicationSession extends ApplicationSession where
  sessionTokenHash : JsString
  csrfTokenHash : JsString
  deriving DecidableEq

structure StoredOAuthTransaction where
  transactionId : JsString
  transactionTokenHash : JsString
  stateHash : JsString
  nonceHash : JsString
  codeVerifierCiphertext : JsString
  returnTo : JsString
  createdAt : TimeValue
  expiresAt : TimeValue
  consumedAt : Option TimeValue
  deriving DecidableEq

structure WebhookReceipt where
  providerEventId : JsString
  eventType : JsString
  occurredAt : JsString
  receivedAt : TimeValue
  payloadHash : JsString
  deriving DecidableEq

/-- `now` is the start of the current transaction. -/
structure IdentityDatabase where
  now : TimeValue
  tenants : List JsString
  identities : List UserIdentityRow
  providerAccounts : List IdentityProviderAccount
  tenantLinks : List ProviderTenantLink
  memberships : List TenantMembershipRow
  grants : List CardAccessGrantRow
  sessions : List StoredApplicationSession
  transactions : List StoredOAuthTransaction
  auditEvents : List IdentityAuditEvent
  webhookReceipts : List WebhookReceipt

/-! ## What the provider says -/

structure ProviderIdentity where
  providerSubject : JsString
  providerTenantId : Option JsString
  providerSessionId : Option JsString
  email : JsString
  emailVerified : Bool
  displayName : JsString
  avatarUrl : Option JsString
  authenticationMethod : JsString
  deriving DecidableEq

structure VerifiedProviderWebhook where
  eventId : JsString
  eventType : JsString
  occurredAt : JsString
  data : Json

/-! ## Failures -/

inductive IdentityServiceErrorCode where
  | callbackInvalid
  | emailUnverified
  | identityDisabled
  | membershipMissing
  | membershipAmbiguous
  | sessionRotationReplayed
  deriving DecidableEq, Repr

/-- Why the database rejects a statement. -/
inductive Violation where
  | raised (message : JsString)
  | check (constraint : JsString)
  | unique (constraint : JsString)
  | foreignKey (constraint : JsString)
  deriving DecidableEq

inductive IdentityFailure where
  | service (code : IdentityServiceErrorCode) (message : JsString)
  | authorization (error : IdentityAuthorizationError)
  | provider (message : JsString)
  | database (violation : Violation)
  | unreadableSecret
  | invalidTime
  deriving DecidableEq

/-! ## Statements -/

abbrev Statement := Transaction IdentityDatabase IdentityFailure

/-- A statement that fails changes nothing. -/
def statement {α : Type} (effect : IdentityDatabase →
    Except Violation (α × IdentityDatabase)) : Statement α :=
  fun database =>
    match effect database with
    | .ok (value, written) => (.ok value, written)
    | .error violation => (.error (.database violation), database)

def query {α : Type} (read : IdentityDatabase → α) : Statement α :=
  fun database => (.ok (read database), database)

/-- `Identity.trim().toLowerCase()` maps letters beyond ASCII by the tables of
the host, which is what `lower` stands for. -/
def normalizeEmail (lower : JsString → JsString) (email : JsString) :
    JsString :=
  lower (trim email)

/-- `revoke_identity_sessions_on_access_change`, on a disabled identity. -/
def revokeIdentitySessionsOnAccessChange (identity : UserIdentityRow)
    (database : IdentityDatabase) : IdentityDatabase :=
  if identity.status = .disabled then
    { database with
      sessions := database.sessions.map fun session =>
        if session.userId = identity.userId ∧ session.revokedAt = none then
          { session with revokedAt := some database.now }
        else session }
  else database

def upsertProviderIdentity (lower : JsString → JsString)
    (identity : ProviderIdentity) (now : TimeValue) :
    Statement UserIdentityRow :=
  statement fun database =>
    let normalizedEmail := normalizeEmail lower identity.email
    match database.identities.find?
      (·.providerSubject == identity.providerSubject) with
    | some existing =>
        let row :=
          { existing with
            email := identity.email
            normalizedEmail := normalizedEmail
            emailVerified := identity.emailVerified
            displayName := identity.displayName
            avatarUrl := identity.avatarUrl
            updatedAt := now
            lastAuthenticatedAt := now }
        if database.identities.any fun other =>
            other.userId ≠ existing.userId ∧
              other.normalizedEmail = normalizedEmail then
          .error (.unique (js "user_identities_normalized_email_key"))
        else
          .ok (row, revokeIdentitySessionsOnAccessChange row
            { database with
              identities := database.identities.map fun other =>
                if other.userId = existing.userId then row else other })
    | none =>
        let row : UserIdentityRow :=
          { userId := js "usr_" ++ identity.providerSubject
            displayName := identity.displayName
            status := .active
            providerSubject := identity.providerSubject
            email := identity.email
            normalizedEmail := normalizedEmail
            emailVerified := identity.emailVerified
            avatarUrl := identity.avatarUrl
            createdAt := now
            updatedAt := now
            lastAuthenticatedAt := now }
        if database.identities.any (·.userId == row.userId) then
          .error (.unique (js "user_identities_pkey"))
        else if database.identities.any
            (·.normalizedEmail == normalizedEmail) then
          .error (.unique (js "user_identities_normalized_email_key"))
        else
          .ok (row,
            { database with identities := database.identities ++ [row] })

def saveProviderAccount (account : IdentityProviderAccount) :
    Statement Unit :=
  statement fun database =>
    if database.providerAccounts.any
        (·.providerSubject == account.providerSubject) then
      .ok ((),
        { database with
          providerAccounts := database.providerAccounts.map fun existing =>
            if existing.providerSubject = account.providerSubject then
              { existing with
                providerTenantId := account.providerTenantId
                authenticationMethod := account.authenticationMethod
                updatedAt := account.updatedAt }
            else existing })
    else if database.providerAccounts.any
        (·.providerAccountId == account.providerAccountId) then
      .error (.unique (js "identity_provider_accounts_pkey"))
    else if !database.identities.any (·.userId == account.userId) then
      .error (.foreignKey (js "identity_provider_accounts_user_id_fkey"))
    else
      .ok ((),
        { database with
          providerAccounts := database.providerAccounts ++ [account] })

def getIdentity (userId : JsString) : Statement (Option UserIdentityRow) :=
  query fun database => database.identities.find? (·.userId == userId)

def getTenantIdForProviderTenant (providerTenantId : JsString) :
    Statement (Option JsString) :=
  query fun database =>
    (database.tenantLinks.find?
      (·.providerTenantId == providerTenantId)).map (·.tenantId)

/-- The order of the rows is left open: nobody reads it, since a user has one
membership in a tenant. -/
def listActiveMemberships (userId : JsString) :
    Statement (List TenantMembershipRow) :=
  query fun database => database.memberships.filter fun membership =>
    membership.userId == userId && membership.status == .active &&
      membership.revokedAt.isNone

def mapGrant (row : CardAccessGrantRow) : CardAccessGrant where
  tenantId := row.tenantId
  cardId := row.cardId
  userId := row.userId
  permissionSet := row.permissionSet
  expiresAt := row.expiresAt.map toISOString
  revokedAt := row.revokedAt.map toISOString

def listActiveCardGrants (userId tenantId : JsString) (now : TimeValue) :
    Statement (List CardAccessGrant) :=
  query fun database => (database.grants.filter fun grant =>
    grant.userId == userId && grant.tenantId == tenantId &&
      grant.revokedAt.isNone &&
      grant.expiresAt.all fun expiresAt =>
        now.milliseconds < expiresAt.milliseconds).map mapGrant

/-! ## Sessions -/

/-- `enforce_active_identity_session`; a row that is not there has no status,
and no comparison with it holds. -/
def enforceActiveIdentitySession (database : IdentityDatabase)
    (session : StoredApplicationSession) : Except Violation Unit :=
  let identity := database.identities.find? (·.userId == session.userId)
  let membership := database.memberships.find? fun membership =>
    membership.tenantId == session.tenantId &&
      membership.userId == session.userId
  if identity.any (·.status ≠ .active) then
    .error (.raised (js "application session requires an active identity"))
  else if membership.any fun membership =>
      membership.status ≠ .active ∨ membership.revokedAt.isSome then
    .error (.raised
      (js "application session requires an active tenant membership"))
  else .ok ()

/-- The two CHECK constraints of `application_sessions`. -/
def checkSession (session : StoredApplicationSession) :
    Except Violation Unit :=
  if ¬session.createdAt.milliseconds < session.idleExpiresAt.milliseconds then
    .error (.check (js "application_sessions_check"))
  else if ¬session.idleExpiresAt.milliseconds ≤
      session.absoluteExpiresAt.milliseconds then
    .error (.check (js "application_sessions_check1"))
  else .ok ()

def sessionReferences (database : IdentityDatabase)
    (session : StoredApplicationSession) : Except Violation Unit :=
  if database.sessions.any (·.sessionId == session.sessionId) then
    .error (.unique (js "application_sessions_pkey"))
  else if database.sessions.any
      (·.sessionTokenHash == session.sessionTokenHash) then
    .error (.unique (js "application_sessions_session_token_hash_key"))
  else if session.rotatedFromSessionId.any fun parent =>
      parent ≠ session.sessionId ∧
        !database.sessions.any (·.sessionId == parent) then
    .error (.foreignKey
      (js "application_sessions_rotated_from_session_id_fkey"))
  else if !database.memberships.any fun membership =>
      membership.tenantId == session.tenantId &&
        membership.userId == session.userId then
    .error (.foreignKey (js "application_sessions_tenant_id_user_id_fkey"))
  else .ok ()

def createSession (session : StoredApplicationSession) :
    Statement ApplicationSession :=
  statement fun database => do
    enforceActiveIdentitySession database session
    checkSession session
    sessionReferences database session
    .ok (session.toApplicationSession,
      { database with sessions := database.sessions ++ [session] })

def getSessionByTokenHash (tokenHash : JsString) :
    Statement (Option ApplicationSession) :=
  query fun database => (database.sessions.find? fun session =>
    session.sessionTokenHash == tokenHash &&
      session.revokedAt.isNone).map (·.toApplicationSession)

/-- `update application_sessions set … where …`; the result counts the rows. -/
def updateSessions (selected : StoredApplicationSession → Bool)
    (set : StoredApplicationSession → StoredApplicationSession) :
    Statement Nat :=
  statement fun database => do
    (database.sessions.filter selected).forM fun session =>
      checkSession (set session)
    .ok ((database.sessions.filter selected).length,
      { database with
        sessions := database.sessions.map fun session =>
          if selected session then set session else session })

def isLive (sessionId : JsString) (session : StoredApplicationSession) :
    Bool :=
  session.sessionId == sessionId && session.revokedAt.isNone

def touchSession (sessionId : JsString)
    (lastSeenAt idleExpiresAt : TimeValue) : Statement Bool := do
  let count ← updateSessions (isLive sessionId) fun session =>
    { session with
      lastSeenAt := lastSeenAt
      idleExpiresAt :=
        if idleExpiresAt.milliseconds ≤ session.absoluteExpiresAt.milliseconds
        then idleExpiresAt
        else session.absoluteExpiresAt }
  return count == 1

def revokeSession (sessionId : JsString) (revokedAt : TimeValue) :
    Statement Bool := do
  let count ← updateSessions (isLive sessionId) fun session =>
    { session with revokedAt := some revokedAt }
  return count == 1

def revokeSessionsByProviderSession (providerSessionId : JsString)
    (revokedAt : TimeValue) : Statement Nat :=
  updateSessions
    (fun session => session.providerSessionId == some providerSessionId &&
      session.revokedAt.isNone)
    fun session => { session with revokedAt := some revokedAt }

/-! ## Login transactions -/

/-- The row that the callback of this token and state consumes. -/
def isConsumable (transactionTokenHash stateHash : JsString)
    (now : TimeValue) (transaction : StoredOAuthTransaction) : Bool :=
  transaction.transactionTokenHash == transactionTokenHash &&
    transaction.stateHash == stateHash && transaction.consumedAt.isNone &&
    now.milliseconds < transaction.expiresAt.milliseconds

def consumeOAuthTransaction (transactionTokenHash stateHash : JsString)
    (now : TimeValue) : Statement (Option StoredOAuthTransaction) :=
  statement fun database =>
    let selected := isConsumable transactionTokenHash stateHash now
    let consume := fun transaction : StoredOAuthTransaction =>
      { transaction with consumedAt := some now }
    .ok ((database.transactions.find? selected).map consume,
      { database with
        transactions := database.transactions.map fun transaction =>
          if selected transaction then consume transaction else transaction })

/-! ## Evidence -/

/-- JSONB does not keep the order of the keys. -/
def auditRow (event : IdentityAuditEvent) : IdentityAuditEvent :=
  { event with metadata := sortOn Prod.fst event.metadata }

def saveAuditEvent (event : IdentityAuditEvent) : Statement Unit :=
  statement fun database =>
    if database.auditEvents.any (·.eventId == event.eventId) then
      .ok ((), database)
    else if event.userId.any fun userId =>
        !database.identities.any (·.userId == userId) then
      .error (.foreignKey (js "identity_audit_events_user_id_fkey"))
    else if event.tenantId.any fun tenantId =>
        !database.tenants.contains tenantId then
      .error (.foreignKey (js "identity_audit_events_tenant_id_fkey"))
    else if event.sessionId.any fun sessionId =>
        !database.sessions.any (·.sessionId == sessionId) then
      .error (.foreignKey (js "identity_audit_events_session_id_fkey"))
    else
      .ok ((),
        { database with
          auditEvents := database.auditEvents ++ [auditRow event] })

def saveWebhookReceipt (webhook : VerifiedProviderWebhook)
    (payloadHash : JsString) (receivedAt : TimeValue) : Statement Bool :=
  statement fun database =>
    if database.webhookReceipts.any
        (·.providerEventId == webhook.eventId) then
      .ok (false, database)
    else
      .ok (true,
        { database with
          webhookReceipts := database.webhookReceipts ++
            [{ providerEventId := webhook.eventId
               eventType := webhook.eventType
               occurredAt := webhook.occurredAt
               receivedAt := receivedAt
               payloadHash := payloadHash }] })

def disableIdentityByProviderSubject (providerSubject : JsString)
    (now : TimeValue) : Statement (Option JsString) :=
  statement fun database =>
    match database.identities.find?
      (·.providerSubject == providerSubject) with
    | none => .ok (none, database)
    | some existing =>
        let row := { existing with status := .disabled, updatedAt := now }
        .ok (some existing.userId,
          revokeIdentitySessionsOnAccessChange row
            { database with
              identities := database.identities.map fun other =>
                if other.userId = existing.userId then row else other })

end BidayaxExecutive.Identity
