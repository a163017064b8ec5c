import BidayaxExecutive.Identity.SessionTable
import BidayaxExecutive.Library.Runs

/-!
# Runs of session calls

Calls come one after the other, each at an instant, inside a transaction of its
own or without one, and leave a world behind whether they throw or not.
-/

namespace BidayaxExecutive.Identity

open BidayaxExecutive.Runtime JsString
open BidayaxExecutive.Library.Scripts

/-- A call at an instant, in a transaction of its own or without one. -/
structure Timed (Call : Type) where
  now : TimeValue
  transactional : Bool
  call : Call

def discard {α : Type} (service : Service α) : Service Unit := do
  let _ ← service
  return ()

/-- The world after a service, whether it throws or not. -/
def afterService (transactional : Bool) (service : Service Unit)
    (world : World) : World :=
  if transactional then (withIdentityTransaction service world).2
  else (service.run world).2

/-- No instant is before an earlier one. -/
def InOrder (instants : List TimeValue) : Prop :=
  instants.Pairwise fun earlier later =>
    earlier.milliseconds ≤ later.milliseconds

instance (instants : List TimeValue) : Decidable (InOrder instants) :=
  inferInstanceAs (Decidable (instants.Pairwise _))

inductive SessionCall where
  | resolve (sessionToken : Option JsString)
  | rotate (drawn : DrawnTokens) (session : SessionReference)
  | revoke (sessionId tenantId userId : JsString)

section Host

variable (host : Host) (environment : IdentityEnvironment)

def callService (now : TimeValue) : SessionCall → Service Unit
  | .resolve sessionToken =>
      discard (resolveApplicationSession host environment now sessionToken)
  | .rotate drawn session =>
      discard (rotateApplicationSession
        { environment := environment
          now := now
          drawn := drawn
          session := session })
  | .revoke sessionId tenantId userId =>
      revokeApplicationSession
        { now := now
          sessionId := sessionId
          tenantId := tenantId
          userId := userId }

def afterCall (world : World) (timed : Timed SessionCall) :
    Except IdentityFailure World :=
  .ok (afterService timed.transactional
    (callService host environment timed.now timed.call) world)

end Host

/-! ## What calls preserve -/

theorem preserves_discard {α : Type} {holds : World → Prop}
    {service : Service α} (preserves : Script.Preserves holds service) :
    Script.Preserves holds (discard service) :=
  Script.preserves_bind preserves fun _ => trivial

theorem preserves_callService {host : Host}
    {environment : IdentityEnvironment}
    {invariant : List StoredApplicationSession → Prop}
    (stable : Stable environment invariant) {now : TimeValue}
    (admits : ∀ drawn session, Admits invariant
      (rotatedIssue
        { environment := environment
          now := now
          drawn := drawn
          session := session }))
    (call : SessionCall) :
    Script.Preserves (OnSessions invariant)
      (callService host environment now call) := by
  cases call with
  | resolve sessionToken =>
      exact preserves_discard
        (preserves_resolveApplicationSession stable now sessionToken)
  | rotate drawn session =>
      exact preserves_discard
        (preserves_rotateApplicationSession stable (admits drawn session))
  | revoke sessionId tenantId userId =>
      exact preserves_revokeApplicationSession stable _

/-- Rolling back restores the session table, so it does no harm. -/
theorem afterService_invariant
    {invariant : List StoredApplicationSession → Prop}
    {transactional : Bool} {service : Service Unit} {world : World}
    (kept : invariant (service.run world).2.database.sessions)
    (holds : invariant world.database.sessions) :
    invariant
      (afterService transactional service world).database.sessions := by
  unfold afterService
  cases transactional with
  | false =>
      exact kept
  | true =>
      unfold withIdentityTransaction
      rcases ran : service.run world with ⟨outcome, final⟩
      rw [ran] at kept
      cases outcome with
      | ok value =>
          exact kept
      | error failure =>
          exact holds

/-! ## A member -/

/-- The number of seconds after the epoch. -/
def secondsIn (seconds : Nat) (early : seconds ≤ 8640000000000) : TimeValue :=
  ⟨seconds * 1000, by omega, by omega⟩

def hourEnvironment : IdentityEnvironment where
  applicationBaseUrl := js "https://dashboard.example.test"
  allowedAudience := js "client"
  allowedRedirectOrigins := [js "https://dashboard.example.test"]
  callbackUrl := js "https://dashboard.example.test/auth/callback"
  clockSkewSeconds := 30
  cookieDomain := none
  cookieSecure := true
  developmentMode := false
  idleTimeoutSeconds := 3600
  transactionEncryptionKey := js "encryption-key"
  absoluteTimeoutSeconds := 3600
  workosApiKey := js "redacted"
  workosClientId := js "client"
  workosIssuer := js "https://api.workos.com/"
  workosJwksUrl := js "https://example.test/jwks"
  workosWebhookSecret := js "redacted"

def plainPlatform : IdentityPlatform where
  lower := lowerCase
  decipher ciphertext _ := some ciphertext

def memberIdentity : ProviderIdentity where
  providerSubject := js "member"
  providerTenantId := none
  providerSessionId := some (js "session_p")
  email := js "member@example.test"
  emailVerified := true
  displayName := js "Member"
  avatarUrl := none
  authenticationMethod := js "Passkey"

/-- A member of one tenant with an open login transaction. -/
def memberDatabase : IdentityDatabase where
  now := .epoch
  tenants := [js "tenant"]
  identities :=
    [{ userId := js "usr_member"
       displayName := js "Member"
       status := .active
       providerSubject := js "member"
       email := js "member@example.test"
       normalizedEmail := js "member@example.test"
       emailVerified := true
       avatarUrl := none
       createdAt := .epoch
       updatedAt := .epoch
       lastAuthenticatedAt := .epoch }]
  providerAccounts := []
  tenantLinks := []
  memberships :=
    [{ tenantId := js "tenant"
       role := .tenantAdmin
       status := .active
       revokedAt := none
       membershipId := js "membership"
       userId := js "usr_member" }]
  grants := []
  sessions := []
  transactions :=
    [{ transactionId := js "transaction"
       transactionTokenHash := sha256 (js "token")
       stateHash := sha256 (js "state")
       nonceHash := js "nonce"
       codeVerifierCiphertext := js "verifier"
       returnTo := js "https://dashboard.example.test/"
       createdAt := .epoch
       expiresAt := secondsIn 600 (by decide)
       consumedAt := none }]
  auditEvents := []
  webhookReceipts := []

def memberWorld : World where
  database := memberDatabase
  exchanges := []

def memberLogin : LoginInput where
  code := js "code"
  environment := hourEnvironment
  ipAddress := none
  now := .epoch
  provider _ := .ok memberIdentity
  returnedNonce := none
  state := js "state"
  transactionToken := js "token"
  userAgent := none
  drawn := ⟨js "first token", js "first csrf", js "first"⟩

end BidayaxExecutive.Identity
