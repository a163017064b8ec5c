import BidayaxExecutive.Runtime.UriComponent

/-!
# Identity environment

The configuration of the identity package is read from environment variables.
It is accepted when no check fails; the two session timeouts are read apart
from each other and from every check, and fall back to their defaults.
-/

namespace BidayaxExecutive.Identity

open BidayaxExecutive.Runtime JsString

/-- `process.env`. -/
abbrev EnvironmentMap := JsString → Option JsString

structure IdentityEnvironment where
  applicationBaseUrl : JsString
  allowedAudience : JsString
  allowedRedirectOrigins : List JsString
  callbackUrl : JsString
  clockSkewSeconds : Nat
  cookieDomain : Option JsString
  cookieSecure : Bool
  developmentMode : Bool
  idleTimeoutSeconds : Nat
  transactionEncryptionKey : JsString
  absoluteTimeoutSeconds : Nat
  workosApiKey : JsString
  workosClientId : JsString
  workosIssuer : JsString
  workosJwksUrl : JsString
  workosWebhookSecret : JsString
  deriving DecidableEq

/-! ## Numbers -/

/-- The double nearest to a natural number, the even one of two; `none` is
infinity. -/
def nearestDouble (number : Nat) : Option Nat :=
  let shift := number.log2 - 52
  let quotient := number / 2 ^ shift
  let remainder := number % 2 ^ shift
  let up := 2 ^ shift < 2 * remainder ∨
    2 * remainder = 2 ^ shift ∧ quotient % 2 = 1
  let double := (if up then quotient + 1 else quotient) * 2 ^ shift
  if double.log2 < 1024 then some double else none

/-- The digits that `Number.parseInt(text, 10)` reads, none of a negative
number. -/
def leadingDigits (text : JsString) : JsString :=
  match text.dropWhile isSpace with
  | 43 :: rest => rest.takeWhile isDigit
  | 45 :: _ => []
  | unsigned => unsigned.takeWhile isDigit

/-- `Number.parseInt(text, 10)` where it is positive and finite. -/
def parsePositive (text : JsString) : Option Nat :=
  (nearestDouble (digitsValue 0 (leadingDigits text))).filter (0 < ·)

def positiveInteger (value : Option JsString) (fallback : Nat) : Nat :=
  (parsePositive (value.getD [])).getD fallback

/-! ## Origins and placeholders -/

section Url

-- `new URL(text).origin`; `none` is an exception.
variable (origin : JsString → Option JsString)

def safeOrigins (value : Option JsString) (applicationBaseUrl : JsString) :
    Option (List JsString) :=
  let configured := (((value.getD []).splitOn 44).map trim).filter
    fun entry => !entry.isEmpty
  if configured ≠ [] then some configured
  else (origin applicationBaseUrl).map fun origin => [origin]

def looksLikePlaceholder (value : JsString) : Bool :=
  let normalized := lowerCase (trim value)
  normalized.isEmpty || hasInfix (js "placeholder") normalized ||
    hasInfix (js "changeme") normalized ||
    hasInfix (js "change-me") normalized ||
    hasInfix (js "replace-me") normalized ||
    normalized == js "redacted" || normalized == js "test" ||
    normalized.contains 60 || normalized.contains 62

def validateAllowedOrigins (origins : List JsString) : List JsString :=
  origins.flatMap fun entry =>
    if entry.contains 42 then
      [js "IDENTITY_ALLOWED_REDIRECT_ORIGINS must not contain wildcards."]
    else
      match origin entry with
      | none =>
          [js "IDENTITY_ALLOWED_REDIRECT_ORIGINS entries must be valid " ++
            js "absolute origins."]
      | some parsed =>
          if parsed ≠ (if entry.getLast? = some 47 then entry.dropLast
            else entry) then
            [js "IDENTITY_ALLOWED_REDIRECT_ORIGINS entries must be exact " ++
              js "origins."]
          else []

/-! ## Reading -/

def requiredErrors (settings : List (JsString × JsString)) :
    List JsString :=
  settings.filterMap fun (name, value) =>
    if value.isEmpty then some (name ++ js " is required.") else none

def placeholderErrors (settings : List (JsString × JsString)) :
    List JsString :=
  settings.filterMap fun (name, value) =>
    if !value.isEmpty && looksLikePlaceholder value then
      some (name ++ js " must not use a placeholder value in production.")
    else none

def baseUrl (env : EnvironmentMap) : JsString :=
  ((env (js "DASHBOARD_BASE_URL")).or (env (js "APP_BASE_URL"))).getD []

def inProduction (env : EnvironmentMap) : Bool :=
  env (js "NODE_ENV") == some (js "production")

/-- What the reader finds wrong, in the order in which it looks. -/
def environmentErrors (env : EnvironmentMap) : List JsString :=
  let callbackUrl := (env (js "WORKOS_REDIRECT_URI")).getD []
  let transactionEncryptionKey :=
    (env (js "IDENTITY_TRANSACTION_ENCRYPTION_KEY")).getD []
  let secrets :=
    [(js "WORKOS_CLIENT_ID", (env (js "WORKOS_CLIENT_ID")).getD []),
      (js "WORKOS_API_KEY", (env (js "WORKOS_API_KEY")).getD []),
      (js "WORKOS_WEBHOOK_SECRET", (env (js "WORKOS_WEBHOOK_SECRET")).getD [])]
  let missing := requiredErrors <|
    (js "DASHBOARD_BASE_URL or APP_BASE_URL", baseUrl env) :: secrets ++
      [(js "WORKOS_REDIRECT_URI", callbackUrl),
        (js "IDENTITY_TRANSACTION_ENCRYPTION_KEY", transactionEncryptionKey)]
  let urls :=
    if [baseUrl env, callbackUrl].any fun url =>
        !url.isEmpty && (origin url).isNone then
      [js "Identity URLs must be valid absolute URLs."]
    else []
  let origins :=
    match safeOrigins origin (env (js "IDENTITY_ALLOWED_REDIRECT_ORIGINS"))
      (baseUrl env) with
    | some origins => validateAllowedOrigins origin origins
    | none =>
        [js "IDENTITY_ALLOWED_REDIRECT_ORIGINS could not be derived safely."]
  let shortKey :=
    if transactionEncryptionKey ≠ [] ∧
        transactionEncryptionKey.length < 32 then
      [js "IDENTITY_TRANSACTION_ENCRYPTION_KEY must be at least " ++
        js "32 characters."]
    else []
  let strict :=
    if inProduction env then
      placeholderErrors
        (secrets ++ [(js "IDENTITY_TRANSACTION_ENCRYPTION_KEY",
          transactionEncryptionKey)]) ++
        if env (js "IDENTITY_SECURE_COOKIES") ≠ some (js "true") then
          [js "IDENTITY_SECURE_COOKIES=true is required in production."]
        else []
    else []
  missing ++ urls ++ origins ++ shortKey ++ strict

def configuredEnvironment (env : EnvironmentMap) : IdentityEnvironment :=
  let workosClientId := (env (js "WORKOS_CLIENT_ID")).getD []
  { absoluteTimeoutSeconds :=
      positiveInteger (env (js "IDENTITY_SESSION_ABSOLUTE_SECONDS")) 28800
    allowedAudience :=
      (env (js "IDENTITY_ALLOWED_AUDIENCE")).getD workosClientId
    allowedRedirectOrigins :=
      (safeOrigins origin (env (js "IDENTITY_ALLOWED_REDIRECT_ORIGINS"))
        (baseUrl env)).getD []
    applicationBaseUrl := baseUrl env
    callbackUrl := (env (js "WORKOS_REDIRECT_URI")).getD []
    clockSkewSeconds :=
      positiveInteger (env (js "IDENTITY_CLOCK_SKEW_SECONDS")) 60
    cookieDomain :=
      (env (js "IDENTITY_COOKIE_DOMAIN")).filter fun domain =>
        !domain.isEmpty
    cookieSecure := inProduction env ||
      env (js "IDENTITY_SECURE_COOKIES") == some (js "true")
    developmentMode :=
      env (js "IDENTITY_DEVELOPMENT_MODE") == some (js "true") &&
        !inProduction env
    idleTimeoutSeconds :=
      positiveInteger (env (js "IDENTITY_SESSION_IDLE_SECONDS")) 1800
    transactionEncryptionKey :=
      (env (js "IDENTITY_TRANSACTION_ENCRYPTION_KEY")).getD []
    workosApiKey := (env (js "WORKOS_API_KEY")).getD []
    workosClientId := workosClientId
    workosIssuer :=
      (env (js "WORKOS_ISSUER")).getD (js "https://api.workos.com/")
    workosJwksUrl := (env (js "WORKOS_JWKS_URL")).getD
      (js "https://api.workos.com/sso/jwks/" ++
        encodeURIComponent workosClientId)
    workosWebhookSecret := (env (js "WORKOS_WEBHOOK_SECRET")).getD [] }

def readIdentityEnvironment (env : EnvironmentMap) :
    Except (List JsString) IdentityEnvironment :=
  if environmentErrors origin env ≠ [] then
    .error (environmentErrors origin env)
  else .ok (configuredEnvironment origin env)

end Url

/-! ## Positive timeouts -/

theorem parsePositive_pos {text : JsString} {number : Nat}
    (parsed : parsePositive text = some number) : 0 < number := by
  rcases Option.filter_eq_some_iff.mp parsed with ⟨_, positive⟩
  exact of_decide_eq_true positive

theorem positiveInteger_pos (value : Option JsString) {fallback : Nat}
    (positive : 0 < fallback) : 0 < positiveInteger value fallback := by
  unfold positiveInteger
  cases parsed : parsePositive (value.getD []) with
  | none =>
      exact positive
  | some number =>
      exact parsePositive_pos parsed

/-- An accepted environment has positive timeouts. -/
theorem timeouts_pos {origin : JsString → Option JsString}
    {env : EnvironmentMap} {environment : IdentityEnvironment}
    (accepted : readIdentityEnvironment origin env = .ok environment) :
    0 < environment.idleTimeoutSeconds ∧
      0 < environment.absoluteTimeoutSeconds := by
  unfold readIdentityEnvironment at accepted
  by_cases faulty : environmentErrors origin env ≠ []
  · rw [if_pos faulty] at accepted
    exact nomatch accepted
  · rw [if_neg faulty] at accepted
    rw [← Except.ok.inj accepted]
    exact ⟨positiveInteger_pos _ (by decide),
      positiveInteger_pos _ (by decide)⟩

end BidayaxExecutive.Identity
