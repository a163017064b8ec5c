import BidayaxExecutive.Identity.AllowedOrigins
import BidayaxExecutive.Identity.Cookies
import BidayaxExecutive.Identity.LoginTransaction
import BidayaxExecutive.Identity.SealedSecrets

/-!
# Requests of a login

A login starts with a redirect to the provider and a cookie, and ends with the
callback of the provider.  A deployment answers both on one database.
-/

namespace BidayaxExecutive.Identity

open BidayaxExecutive.Runtime JsString
open BidayaxExecutive.Library.Transactions
open BidayaxExecutive.Library.Guards
open BidayaxExecutive.Library.Scripts
open BidayaxExecutive.Library.Runs

/-! ## Starting a login -/

/-- What `startIdentityLogin` draws. -/
structure DrawnLogin where
  transactionId : RandomBytes 32
  state : RandomBytes 32
  nonce : RandomBytes 32
  codeVerifier : RandomBytes 48
  transactionToken : RandomBytes 40
  iv : RandomBytes 12

structure LoginStartInput where
  now : TimeValue
  returnTo : JsString
  drawn : DrawnLogin

structure OAuthTransaction where
  transactionId : JsString
  stateHash : JsString
  nonceHash : JsString
  codeVerifier : JsString
  returnTo : JsString
  createdAt : TimeValue
  expiresAt : TimeValue

/-- The search parameters stand for the authorization URL. -/
structure LoginStart where
  authorizationUrl : List (JsString × JsString)
  transaction : OAuthTransaction

structure StartedLogin where
  authorizationUrl : List (JsString × JsString)
  transactionToken : JsString

section Environment

variable (environment : IdentityEnvironment)

def authorizationUrl (drawn : DrawnLogin) : List (JsString × JsString) :=
  [(js "response_type", js "code"),
    (js "client_id", environment.workosClientId),
    (js "redirect_uri", environment.callbackUrl),
    (js "provider", js "authkit"),
    (js "state", randomUrlToken drawn.state),
    (js "code_challenge_method", js "S256"),
    (js "code_challenge", (createPkcePair drawn.codeVerifier).challenge)]

def startLogin (input : LoginStartInput) :
    Except IdentityFailure LoginStart := do
  let expiresAt ← secondsAfter input.now (10 * 60)
  .ok
    { authorizationUrl := authorizationUrl environment input.drawn
      transaction :=
        { codeVerifier := (createPkcePair input.drawn.codeVerifier).verifier
          createdAt := input.now
          expiresAt := expiresAt
          nonceHash := sha256 (randomUrlToken input.drawn.nonce)
          returnTo := input.returnTo
          stateHash := sha256 (randomUrlToken input.drawn.state)
          transactionId := randomUrlToken input.drawn.transactionId } }

def createStoredOAuthTransaction (transaction : OAuthTransaction)
    (drawn : DrawnLogin) : StoredOAuthTransaction where
  codeVerifierCiphertext := sealSecret drawn.iv transaction.codeVerifier
    environment.transactionEncryptionKey
  createdAt := transaction.createdAt
  expiresAt := transaction.expiresAt
  nonceHash := transaction.nonceHash
  returnTo := transaction.returnTo
  stateHash := transaction.stateHash
  transactionId := transaction.transactionId
  transactionTokenHash := sha256 (randomUrlToken drawn.transactionToken)
  consumedAt := none

/-- The keys and the CHECK constraint of `identity_oauth_transactions`. -/
def saveOAuthTransaction (transaction : StoredOAuthTransaction) :
    Statement Unit :=
  statement fun database =>
    if ¬transaction.createdAt.milliseconds <
        transaction.expiresAt.milliseconds then
      .error (.check (js "identity_oauth_transactions_check"))
    else if database.transactions.any
        (·.transactionId == transaction.transactionId) then
      .error (.unique (js "identity_oauth_transactions_pkey"))
    else if database.transactions.any
        (·.transactionTokenHash == transaction.transactionTokenHash) then
      .error (.unique
        (js "identity_oauth_transactions_transaction_token_hash_key"))
    else if database.transactions.any
        (·.stateHash == transaction.stateHash) then
      .error (.unique (js "identity_oauth_transactions_state_hash_key"))
    else
      .ok ((),
        { database with
          transactions := database.transactions ++ [transaction] })

def startIdentityLogin (input : LoginStartInput) : Service StartedLogin := do
  let login ← compute (startLogin environment input)
  execute (saveOAuthTransaction
    (createStoredOAuthTransaction environment login.transaction input.drawn))
  saveAuditEvents
    [{ eventType := .loginStarted
       occurredAt := toISOString input.now
       reasonCode := js "LOGIN_INITIATED"
       result := .succeeded }]
  return { authorizationUrl := login.authorizationUrl
           transactionToken := randomUrlToken input.drawn.transactionToken }

end Environment

/-! ## Requests -/

def identityTransactionCookieName : JsString :=
  js "bidayax_identity_transaction"

/-- The URL parser, with the texts it writes. -/
structure UrlResolver extends UrlParser where
  /-- `new URL(value, base).toString()`. -/
  href : JsString → JsString → Option JsString
  /-- What is written is read as it was. -/
  origin_href : ∀ value base text, href value base = some text →
    origin text = resolve value base

/-- What the dashboard runs with. -/
structure Deployment where
  host : Host
  lower : JsString → JsString
  resolver : UrlResolver
  environment : IdentityEnvironment

structure LoginStartRequest where
  now : TimeValue
  returnTo : Option JsString
  drawn : DrawnLogin

structure LoginRedirect where
  location : List (JsString × JsString)
  cookie : IdentityCookie

structure CallbackRequest where
  code : Option JsString
  state : Option JsString
  cookie : Option JsString
  forwardedFor : Option JsString
  userAgent : Option JsString
  now : TimeValue
  provider : ProviderCallbackInput → Except JsString ProviderIdentity
  drawn : DrawnTokens

inductive CallbackResponse where
  | thrown
  | failed
  | completed (login : CompletedLogin)

inductive IdentityRequest where
  | startLogin (request : LoginStartRequest)
  | callback (request : CallbackRequest)
  | webhook (input : WebhookInput)
  | session (timed : Timed SessionCall)

def requestIp (forwardedFor : Option JsString) : Option JsString :=
  (forwardedFor.bind fun header =>
    (header.splitOn 44).head?.map trim).filter (!·.isEmpty)

def callbackFailure (now : TimeValue) (stage reasonCode : JsString) :
    IdentityAuditInput where
  eventType := .loginFailed
  metadata := [(js "failureStage", .string stage)]
  occurredAt := toISOString now
  reasonCode := reasonCode
  result := .failed

namespace Deployment

variable (deployment : Deployment)

def platform : IdentityPlatform where
  lower := deployment.lower
  decipher := unsealSecret

def defaultReturnTo : JsString :=
  js "/settings/card-customization"

/-- `none` is an exception. -/
def loginReturnTo (requested : Option JsString) : Option JsString :=
  if isAllowedReturnTo deployment.resolver.toUrlParser deployment.environment
      requested then
    requested.bind fun value => deployment.resolver.href value
      deployment.environment.applicationBaseUrl
  else
    deployment.resolver.href defaultReturnTo
      deployment.environment.applicationBaseUrl

/-- The parameters of a request that gets as far as the transaction. -/
def loginStart (request : LoginStartRequest) : Option LoginStartInput := do
  let returnTo ← deployment.loginReturnTo request.returnTo
  return { now := request.now, returnTo := returnTo, drawn := request.drawn }

def transactionCookie (transactionToken : JsString) : IdentityCookie where
  domain := deployment.environment.cookieDomain
  httpOnly := true
  maxAge := .integer 600
  name := identityTransactionCookieName
  secure := deployment.environment.cookieSecure
  value := transactionToken

/-- `none` is an exception. -/
def startLoginResponse (request : LoginStartRequest) (world : World) :
    Option LoginRedirect × World :=
  match deployment.loginStart request with
  | none => (none, world)
  | some input =>
      match withIdentityTransaction
        (startIdentityLogin deployment.environment input) world with
      | (.ok started, next) =>
          (some
            { location := started.authorizationUrl
              cookie := deployment.transactionCookie started.transactionToken },
            next)
      | (.error _, next) => (none, next)

/-- What the callback hands to `completeIdentityLogin`, if it has all of it;
an exception is one of the cookie header. -/
def readCallback (request : CallbackRequest) :
    Except UriError (Option LoginInput) := do
  let token ← parseCookie request.cookie identityTransactionCookieName
  .ok do
    let code ← request.code.filter (!·.isEmpty)
    let state ← request.state.filter (!·.isEmpty)
    let transactionToken ← token.filter (!·.isEmpty)
    return { code := code
             environment := deployment.environment
             ipAddress := requestIp request.forwardedFor
             now := request.now
             provider := request.provider
             returnedNonce := none
             state := state
             transactionToken := transactionToken
             userAgent := request.userAgent
             drawn := request.drawn }

/-- `saveIdentityAuditEventSafely`. -/
def afterFailure (now : TimeValue) (stage reasonCode : JsString)
    (world : World) : World :=
  afterService true (saveAuditEvents [callbackFailure now stage reasonCode])
    world

def callbackResponse (request : CallbackRequest) (world : World) :
    CallbackResponse × World :=
  match deployment.readCallback request with
  | .error _ => (.thrown, world)
  | .ok none =>
      (.failed, afterFailure request.now (js "callback_required_values")
        (js "CALLBACK_MISSING_REQUIRED_VALUES") world)
  | .ok (some input) =>
      match withIdentityTransaction
        (completeIdentityLogin deployment.platform input) world with
      | (.ok completed, next) => (.completed completed, next)
      | (.error _, next) =>
          (.failed, afterFailure request.now (js "callback_completion")
            (js "LOGIN_CALLBACK_FAILED") next)

def afterRequest (world : World) : IdentityRequest → World
  | .startLogin request => (deployment.startLoginResponse request world).2
  | .callback request => (deployment.callbackResponse request world).2
  | .webhook input =>
      afterService true (discard (processIdentityWebhook input)) world
  | .session timed =>
      afterService timed.transactional
        (callService deployment.host deployment.environment timed.now
          timed.call) world

/-- No login has started, and the provider has not been asked. -/
def before (database : IdentityDatabase) : World where
  database := { database with transactions := [] }
  exchanges := []

def worldAfter (database : IdentityDatabase)
    (requests : List IdentityRequest) : World :=
  requests.foldl deployment.afterRequest (before database)

end Deployment

end BidayaxExecutive.Identity
