import BidayaxExecutive.Identity.Environment
import BidayaxExecutive.Identity.Repository
import BidayaxExecutive.Library.Scripts

/-!
# Application sessions

A session is issued with two limits computed from the same instant: one of
idleness, which every resolution moves forward, and an absolute one.  Instants
are the time values of ISO texts, since every caller lets `now` default to the
current time, and what the source draws at random is given from outside.
-/

namespace BidayaxExecutive.Identity

open BidayaxExecutive.Runtime JsString
open BidayaxExecutive.Library.Transactions
open BidayaxExecutive.Library.Scripts

/-! ## Services -/

structure ProviderCallbackInput where
  code : JsString
  codeVerifier : JsString
  expectedNonceHash : JsString
  returnedNonce : Option JsString
  ipAddress : Option JsString
  userAgent : Option JsString
  deriving DecidableEq

/-- A call of `provider.completeCallback`.  The id of the login transaction is
not sent: it records on whose behalf the call is made. -/
structure ProviderExchange where
  transactionId : JsString
  call : ProviderCallbackInput
  deriving DecidableEq

/-- The database, and what the provider has been asked so far. -/
structure World where
  database : IdentityDatabase
  exchanges : List ProviderExchange

abbrev Service := Script World IdentityFailure

/-- One statement, as one step. -/
def execute {α : Type} (operation : Statement α) : Service α :=
  Script.perform fun world =>
    ((operation world.database).1,
      { world with database := (operation world.database).2 })

/-- A computation that no other party can observe. -/
def compute {α : Type} (outcome : Except IdentityFailure α) : Service α :=
  .done outcome

/-- `begin`, the operation, and `commit` or `rollback`: the database forgets
what an operation did that throws, the provider does not. -/
def withIdentityTransaction {α : Type} (operation : Service α)
    (world : World) : Except IdentityFailure α × World :=
  match operation.run world with
  | (.ok value, final) => (.ok value, final)
  | (.error failure, final) =>
      (.error failure, { final with database := world.database })

/-! ## Issuing -/

/-- What `randomUrlToken` draws for a session. -/
structure DrawnTokens where
  sessionToken : JsString
  csrfToken : JsString
  sessionIdToken : JsString
  deriving DecidableEq

structure IssuedApplicationSession where
  csrfToken : JsString
  session : ApplicationSession
  sessionToken : JsString
  deriving DecidableEq

structure IssueInput where
  authenticationMethod : JsString
  environment : IdentityEnvironment
  now : TimeValue
  drawn : DrawnTokens
  providerSessionId : Option JsString
  rotatedFromSessionId : Option JsString
  tenantId : JsString
  userId : JsString

/-- `new Date(instant.getTime() + seconds * 1000).toISOString()`. -/
def secondsAfter (instant : TimeValue) (seconds : Nat) :
    Except IdentityFailure TimeValue :=
  match TimeValue.ofMilliseconds? (instant.milliseconds + seconds * 1000) with
  | some later => .ok later
  | none => .error .invalidTime

def newApplicationSession (input : IssueInput) :
    Except IdentityFailure StoredApplicationSession := do
  let idleExpiresAt ←
    secondsAfter input.now input.environment.idleTimeoutSeconds
  let absoluteExpiresAt ←
    secondsAfter input.now input.environment.absoluteTimeoutSeconds
  .ok
    { absoluteExpiresAt := absoluteExpiresAt
      authenticationMethod := input.authenticationMethod
      createdAt := input.now
      csrfTokenHash := sha256 input.drawn.csrfToken
      idleExpiresAt := idleExpiresAt
      lastSeenAt := input.now
      provider := js "workos"
      providerSessionId := input.providerSessionId
      revokedAt := none
      rotatedFromSessionId := input.rotatedFromSessionId
      sessionId := js "ses_" ++ input.drawn.sessionIdToken
      sessionTokenHash := sha256 input.drawn.sessionToken
      tenantId := input.tenantId
      userId := input.userId }

def issueApplicationSession (input : IssueInput) :
    Service IssuedApplicationSession := do
  let stored ← compute (newApplicationSession input)
  let session ← execute (createSession stored)
  return { csrfToken := input.drawn.csrfToken
           session := session
           sessionToken := input.drawn.sessionToken }

/-! ## Resolving -/

inductive SessionRefusal where
  | missingSession
  | invalidSession
  | expiredSession
  | disabledIdentity
  | revokedMembership
  | ambiguousMembership
  deriving DecidableEq, Repr

def SessionRefusal.reason : SessionRefusal → JsString
  | .missingSession => js "Application session is required."
  | .invalidSession => js "Application session is invalid."
  | .expiredSession => js "Application session expired."
  | .disabledIdentity =>
      js "Authenticated identity is unavailable or disabled."
  | .revokedMembership => js "An active tenant membership is required."
  | .ambiguousMembership => js "An active tenant membership is required."

inductive SessionResolution where
  | ok (context : TrustedSettingsAuthorizationContext)
      (session : ApplicationSession)
  | refused (code : SessionRefusal)
  deriving DecidableEq

/-- A session has a tenant, so the membership of this tenant is taken, unless
the tenant id is empty. -/
def selectMembership (memberships : List TenantMembershipRow)
    (tenantId : JsString) : Option TenantMembershipRow :=
  if tenantId ≠ [] then memberships.find? (·.tenantId == tenantId)
  else match memberships with
    | [membership] => some membership
    | _ => none

def isExpired (session : ApplicationSession) (now : TimeValue) : Bool :=
  session.idleExpiresAt.milliseconds ≤ now.milliseconds ||
    session.absoluteExpiresAt.milliseconds ≤ now.milliseconds

/-- `new Date(Math.min(timestamp + idleTimeout, absoluteExpiresAt))`. -/
def renewedIdleExpiry (environment : IdentityEnvironment)
    (session : ApplicationSession) (now : TimeValue) :
    Except IdentityFailure TimeValue :=
  let renewed :=
    now.milliseconds + environment.idleTimeoutSeconds * 1000
  if renewed < session.absoluteExpiresAt.milliseconds then
    secondsAfter now environment.idleTimeoutSeconds
  else .ok session.absoluteExpiresAt

section Host

variable (host : Host) (environment : IdentityEnvironment)

def resolvedContext (session : ApplicationSession)
    (grants : List CardAccessGrant) (identity : UserIdentityRow)
    (membership : TenantMembershipRow) :
    Except IdentityFailure TrustedSettingsAuthorizationContext :=
  (resolveTrustedSettingsAuthorizationContext host
    { authenticationMethod := session.authenticationMethod
      expiresAt := toISOString session.absoluteExpiresAt
      grants := grants
      identity := identity.toUserIdentity
      issuedAt := toISOString session.createdAt
      membership := membership.toTenantMembership
      provider := js "workos"
      sessionId := session.sessionId }).mapError .authorization

/-- The part of the resolution that follows the two expiry checks. -/
def admitSession (session : ApplicationSession) (now : TimeValue) :
    Service SessionResolution := do
  match ← execute (getIdentity session.userId) with
  | none => return .refused .disabledIdentity
  | some identity =>
      if identity.status ≠ .active then
        return .refused .disabledIdentity
      let memberships ← execute (listActiveMemberships identity.userId)
      match selectMembership memberships session.tenantId with
      | none =>
          return .refused
            (if 1 < memberships.length then .ambiguousMembership
              else .revokedMembership)
      | some membership =>
          let grants ← execute
            (listActiveCardGrants identity.userId membership.tenantId now)
          let idleExpiresAt ←
            compute (renewedIdleExpiry environment session now)
          let _ ← execute (touchSession session.sessionId now idleExpiresAt)
          let context ← compute
            (resolvedContext host session grants identity membership)
          return .ok context
            { session with
              idleExpiresAt := idleExpiresAt
              lastSeenAt := now }

def resolveApplicationSession (now : TimeValue)
    (sessionToken : Option JsString) : Service SessionResolution := do
  match sessionToken.filter (!·.isEmpty) with
  | none => return .refused .missingSession
  | some token =>
      match ← execute (getSessionByTokenHash (sha256 token)) with
      | none => return .refused .invalidSession
      | some session =>
          if isExpired session now then
            let _ ← execute (revokeSession session.sessionId now)
            return .refused .expiredSession
          admitSession host environment session now

end Host

end BidayaxExecutive.Identity
