import BidayaxExecutive.Identity.Sessions

/-!
# Identity services

Login, refresh, logout and the webhook of the provider.  Each is a script of
statements: what the database keeps of a script that throws is decided by the
transaction it runs in.
-/

namespace BidayaxExecutive.Identity

open BidayaxExecutive.Runtime JsString
open BidayaxExecutive.Library.Scripts

def failWith {α : Type} (code : IdentityServiceErrorCode)
    (message : JsString) : Service α :=
  Script.fail (.service code message)

def saveAuditEvents : List IdentityAuditInput → Service Unit
  | [] => return ()
  | input :: rest => do
      execute (saveAuditEvent (createIdentityAuditEvent input))
      saveAuditEvents rest

/-! ## Login -/

def chooseMembership (memberships : List TenantMembershipRow)
    (linkedTenantId : Option JsString) :
    Except IdentityFailure TenantMembershipRow :=
  match linkedTenantId.filter (!·.isEmpty) with
  | some linkedTenantId =>
      match memberships.find? (·.tenantId == linkedTenantId) with
      | some linked => .ok linked
      | none => .error (.service .membershipMissing
          (js "No active internal membership matches the provider " ++
            js "organization."))
  | none =>
      match memberships with
      | [] => .error (.service .membershipMissing
          (js "An internal tenant membership is required."))
      | [membership] => .ok membership
      | _ => .error (.service .membershipAmbiguous
          (js "Tenant selection is required for users with multiple " ++
            js "memberships."))

def resolveProviderTenant (identity : ProviderIdentity) :
    Service (Option JsString) :=
  match identity.providerTenantId.filter (!·.isEmpty) with
  | some providerTenantId =>
      execute (getTenantIdForProviderTenant providerTenantId)
  | none => return none

def providerAccount (identity : ProviderIdentity) (userId : JsString)
    (now : TimeValue) : IdentityProviderAccount where
  createdAt := now
  providerAccountId := js "pacc_" ++
    (deterministicIdentityId
      [js "workos", identity.providerSubject]).take 32
  authenticationMethod := identity.authenticationMethod
  providerSubject := identity.providerSubject
  providerTenantId := identity.providerTenantId
  updatedAt := now
  userId := userId

/-- What the login takes from the platform: full case mapping and AES-256-GCM.
`decipher ciphertext key` is `none` where `unsealSecret` throws. -/
structure IdentityPlatform where
  lower : JsString → JsString
  decipher : JsString → JsString → Option JsString

section Platform

variable (platform : IdentityPlatform)

def persistProviderIdentity (identity : ProviderIdentity)
    (now : TimeValue) : Service UserIdentityRow := do
  if !identity.emailVerified then
    failWith .emailUnverified
      (js "Verified email is required for settings access.")
  else
    let user ← execute (upsertProviderIdentity platform.lower identity now)
    if user.status ≠ .active then
      failWith .identityDisabled (js "The internal identity is disabled.")
    else
      execute (saveProviderAccount
        (providerAccount identity user.userId now))
      return user

/-- The callback of the browser; `provider` is how the provider answers. -/
structure LoginInput where
  code : JsString
  environment : IdentityEnvironment
  ipAddress : Option JsString
  now : TimeValue
  provider : ProviderCallbackInput → Except JsString ProviderIdentity
  returnedNonce : Option JsString
  state : JsString
  transactionToken : JsString
  userAgent : Option JsString
  drawn : DrawnTokens

structure CompletedLogin where
  issued : IssuedApplicationSession
  returnTo : JsString

def completeCallback (provider :
      ProviderCallbackInput → Except JsString ProviderIdentity)
    (transactionId : JsString) (call : ProviderCallbackInput) :
    Service ProviderIdentity :=
  Script.perform fun world =>
    ((provider call).mapError .provider,
      { world with exchanges := world.exchanges ++ [⟨transactionId, call⟩] })

def readStoredCodeVerifier (transaction : StoredOAuthTransaction)
    (encryptionKey : JsString) : Except IdentityFailure JsString :=
  match platform.decipher transaction.codeVerifierCiphertext encryptionKey with
  | some codeVerifier => .ok codeVerifier
  | none => .error .unreadableSecret

def callbackInput (input : LoginInput) (transaction : StoredOAuthTransaction)
    (codeVerifier : JsString) : ProviderCallbackInput where
  code := input.code
  codeVerifier := codeVerifier
  expectedNonceHash := transaction.nonceHash
  ipAddress := input.ipAddress.filter (!·.isEmpty)
  returnedNonce := input.returnedNonce
  userAgent := input.userAgent.filter (!·.isEmpty)

/-- The part of the login that follows the answer of the provider. -/
def admitIdentity (input : LoginInput) (identity : ProviderIdentity) :
    Service IssuedApplicationSession := do
  let user ← persistProviderIdentity platform identity input.now
  let memberships ← execute (listActiveMemberships user.userId)
  let linkedTenantId ← resolveProviderTenant identity
  let membership ← compute (chooseMembership memberships linkedTenantId)
  let issued ← issueApplicationSession
    { authenticationMethod := identity.authenticationMethod
      environment := input.environment
      now := input.now
      drawn := input.drawn
      providerSessionId := identity.providerSessionId
      rotatedFromSessionId := none
      tenantId := membership.tenantId
      userId := user.userId }
  saveAuditEvents
    [{ eventType := .loginSucceeded
       occurredAt := toISOString input.now
       reasonCode := js "LOGIN_VERIFIED"
       result := .succeeded
       sessionId := some issued.session.sessionId
       tenantId := some membership.tenantId
       userId := some user.userId },
      { eventType := .sessionCreated
        occurredAt := toISOString input.now
        reasonCode := js "APPLICATION_SESSION_CREATED"
        result := .succeeded
        sessionId := some issued.session.sessionId
        tenantId := some membership.tenantId
        userId := some user.userId }]
  return issued

def completeIdentityLogin (input : LoginInput) : Service CompletedLogin := do
  match ← execute (consumeOAuthTransaction (sha256 input.transactionToken)
    (sha256 input.state) input.now) with
  | none =>
      failWith .callbackInvalid
        (js "Login transaction is missing, expired, mismatched, or " ++
          js "already consumed.")
  | some transaction =>
      let codeVerifier ← compute (readStoredCodeVerifier platform transaction
        input.environment.transactionEncryptionKey)
      let identity ← completeCallback input.provider
        transaction.transactionId
        (callbackInput input transaction codeVerifier)
      let issued ← admitIdentity platform input identity
      return { issued := issued, returnTo := transaction.returnTo }

end Platform

/-! ## Refresh and logout -/

/-- The session as the caller knows it. -/
structure SessionReference where
  authenticationMethod : JsString
  providerSessionId : Option JsString
  sessionId : JsString
  tenantId : JsString
  userId : JsString
  deriving DecidableEq

structure RotationInput where
  environment : IdentityEnvironment
  now : TimeValue
  drawn : DrawnTokens
  session : SessionReference

/-- The session that takes the place of the rotated one. -/
def rotatedIssue (input : RotationInput) : IssueInput where
  authenticationMethod := input.session.authenticationMethod
  environment := input.environment
  now := input.now
  drawn := input.drawn
  providerSessionId := input.session.providerSessionId
  rotatedFromSessionId := some input.session.sessionId
  tenantId := input.session.tenantId
  userId := input.session.userId

def rotationEvents (input : RotationInput) (session : ApplicationSession) :
    List IdentityAuditInput :=
  [{ eventType := .sessionRevoked
     occurredAt := toISOString input.now
     reasonCode := js "SESSION_ROTATED_OLD_SESSION_REVOKED"
     result := .succeeded
     sessionId := some input.session.sessionId
     tenantId := some input.session.tenantId
     userId := some input.session.userId },
    { eventType := .sessionRefreshed
      occurredAt := toISOString input.now
      reasonCode := js "SESSION_ROTATED"
      result := .succeeded
      sessionId := some session.sessionId
      tenantId := some session.tenantId
      userId := some session.userId }]

def rotateApplicationSession (input : RotationInput) :
    Service IssuedApplicationSession := do
  let revoked ← execute (revokeSession input.session.sessionId input.now)
  if !revoked then
    failWith .sessionRotationReplayed
      (js "Application session refresh was already consumed.")
  else
    let issued ← issueApplicationSession (rotatedIssue input)
    saveAuditEvents (rotationEvents input issued.session)
    return issued

structure RevocationInput where
  now : TimeValue
  sessionId : JsString
  tenantId : JsString
  userId : JsString

def revokeApplicationSession (input : RevocationInput) : Service Unit := do
  let revoked ← execute (revokeSession input.sessionId input.now)
  saveAuditEvents
    [{ eventType := .logout
       occurredAt := toISOString input.now
       reasonCode := js "USER_LOGOUT"
       result := .succeeded
       sessionId := some input.sessionId
       tenantId := some input.tenantId
       userId := some input.userId },
      { eventType := .sessionRevoked
        occurredAt := toISOString input.now
        reasonCode :=
          if revoked then js "USER_LOGOUT_SESSION_REVOKED"
          else js "USER_LOGOUT_SESSION_ALREADY_REVOKED"
        result := .succeeded
        sessionId := some input.sessionId
        tenantId := some input.tenantId
        userId := some input.userId }]

/-! ## Webhooks -/

def textField? (data : Json) (name : JsString) : Option JsString :=
  match data.field? name with
  | some (.string text) => some text
  | _ => none

def providerSubjectFromWebhook (data : Json) : Option JsString :=
  (textField? data (js "id")).or (textField? data (js "user_id"))

def providerSessionFromWebhook (data : Json) : Option JsString :=
  ((textField? data (js "id")).filter (js "session_").isPrefixOf).or
    (textField? data (js "session_id"))

/-- `event` is what `provider.verifyWebhook` makes of the payload. -/
structure WebhookInput where
  now : TimeValue
  payload : JsString
  event : Except JsString VerifiedProviderWebhook

structure WebhookOutcome where
  duplicate : Bool
  eventType : JsString
  deriving DecidableEq

def revokeProviderSession (event : VerifiedProviderWebhook)
    (now : TimeValue) : Service Unit :=
  match (providerSessionFromWebhook event.data).filter (!·.isEmpty) with
  | none => return ()
  | some providerSessionId => do
      let revokedCount ← execute
        (revokeSessionsByProviderSession providerSessionId now)
      saveAuditEvents
        [{ eventType := .sessionRevoked
           metadata :=
             [(js "providerEventId", .string event.eventId),
               (js "revokedSessionCount", .number (.integer revokedCount))]
           occurredAt := toISOString now
           reasonCode := js "PROVIDER_SESSION_REVOKED"
           result := .succeeded }]

def disableProviderUser (event : VerifiedProviderWebhook)
    (now : TimeValue) : Service Unit :=
  match (providerSubjectFromWebhook event.data).filter (!·.isEmpty) with
  | none => return ()
  | some subject => do
      match ← execute (disableIdentityByProviderSubject subject now) with
      | none => return ()
      | some userId =>
          if userId.isEmpty then return ()
          saveAuditEvents
            [{ eventType := .accountDisabled
               occurredAt := toISOString now
               reasonCode := js "PROVIDER_USER_DELETED"
               result := .succeeded
               userId := some userId }]

def processIdentityWebhook (input : WebhookInput) :
    Service WebhookOutcome := do
  let event ← compute (input.event.mapError .provider)
  let saved ← execute
    (saveWebhookReceipt event (sha256 input.payload) input.now)
  if !saved then
    return { duplicate := true, eventType := event.eventType }
  else
    if event.eventType = js "session.revoked" then
      revokeProviderSession event input.now
    if event.eventType = js "user.deleted" then
      disableProviderUser event input.now
    saveAuditEvents
      [{ eventType := .providerWebhookReceived
         metadata :=
           [(js "providerEventId", .string event.eventId),
             (js "providerEventType", .string event.eventType)]
         occurredAt := toISOString input.now
         reasonCode := js "WEBHOOK_VERIFIED"
         result := .succeeded }]
    return { duplicate := false, eventType := event.eventType }

end BidayaxExecutive.Identity
