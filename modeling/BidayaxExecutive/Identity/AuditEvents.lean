import BidayaxExecutive.Runtime.JsValue
import BidayaxExecutive.Runtime.Sha256
import BidayaxExecutive.Runtime.Utf8

/-!
# Identity audit events

An event records what happened, to whom, when and why.  Its id is a hash of
some of these, joined with a bar; absent ids are joined under a default text.
-/

namespace BidayaxExecutive.Identity

open BidayaxExecutive.Runtime JsString

/-! ## Digests -/

/-- `createHash("sha256").update(text).digest("hex")`. -/
def sha256 (text : JsString) : JsString :=
  sha256Hex (utf8 text)

/-- `parts.join("|")`. -/
def joinBars (parts : List JsString) : JsString :=
  [124].intercalate parts

def deterministicIdentityId (parts : List JsString) : JsString :=
  sha256 (joinBars parts)

/-! ## Metadata -/

inductive MetadataValue where
  | null
  | boolean (value : Bool)
  | number (value : JsNumber)
  | string (value : JsString)
  deriving DecidableEq

/-- `sensitiveKeyPattern.test(key)`. -/
def isSensitiveKey (key : JsString) : Bool :=
  [js "authorization", js "cookie", js "credential", js "password",
    js "secret", js "token", js "code", js "verifier", js "raw",
    js "payload"].any fun word => hasInfix word (lowerCase key)

def metadataValue? : JsValue → Option MetadataValue
  | .null => some .null
  | .boolean value => some (.boolean value)
  | .number value => some (.number value)
  | .string value => some (.string value)
  | _ => none

def sanitizeIdentityMetadata (metadata : List (JsString × JsValue)) :
    List (JsString × MetadataValue) :=
  (metadata.filter fun entry => !isSensitiveKey entry.1).filterMap
    fun entry => (metadataValue? entry.2).map fun value => (entry.1, value)

/-! ## Events -/

inductive IdentityAuditEventType where
  | loginStarted
  | loginSucceeded
  | loginFailed
  | logout
  | sessionCreated
  | sessionRefreshed
  | sessionRevoked
  | membershipDenied
  | cardAccessDenied
  | providerWebhookReceived
  | providerWebhookRejected
  | accountDisabled
  deriving DecidableEq, Repr

def IdentityAuditEventType.text : IdentityAuditEventType → JsString
  | .loginStarted => js "identity.login.started"
  | .loginSucceeded => js "identity.login.succeeded"
  | .loginFailed => js "identity.login.failed"
  | .logout => js "identity.logout"
  | .sessionCreated => js "identity.session.created"
  | .sessionRefreshed => js "identity.session.refreshed"
  | .sessionRevoked => js "identity.session.revoked"
  | .membershipDenied => js "identity.membership.denied"
  | .cardAccessDenied => js "identity.card_access.denied"
  | .providerWebhookReceived => js "identity.provider_webhook.received"
  | .providerWebhookRejected => js "identity.provider_webhook.rejected"
  | .accountDisabled => js "identity.account.disabled"

inductive IdentityAuditResult where
  | succeeded
  | failed
  | denied
  deriving DecidableEq, Repr

/-- An id that is null or left out is `none`. -/
structure IdentityAuditInput where
  eventType : IdentityAuditEventType
  metadata : List (JsString × JsValue) := []
  occurredAt : JsString
  reasonCode : JsString
  result : IdentityAuditResult
  sessionId : Option JsString := none
  tenantId : Option JsString := none
  userId : Option JsString := none

structure IdentityAuditEvent where
  eventId : JsString
  eventType : IdentityAuditEventType
  userId : Option JsString
  tenantId : Option JsString
  sessionId : Option JsString
  provider : JsString
  occurredAt : JsString
  result : IdentityAuditResult
  reasonCode : JsString
  metadata : List (JsString × MetadataValue)
  deriving DecidableEq

/-- The parts that the id is made of. -/
def identityParts (input : IdentityAuditInput) : List JsString :=
  [input.eventType.text, input.userId.getD (js "anonymous"),
    input.sessionId.getD (js "no-session"), input.occurredAt,
    input.reasonCode]

def createIdentityAuditEvent (input : IdentityAuditInput) :
    IdentityAuditEvent where
  eventId := deterministicIdentityId (identityParts input)
  eventType := input.eventType
  metadata := sanitizeIdentityMetadata input.metadata
  occurredAt := input.occurredAt
  provider := js "workos"
  reasonCode := input.reasonCode
  result := input.result
  sessionId := input.sessionId
  tenantId := input.tenantId
  userId := input.userId

end BidayaxExecutive.Identity
