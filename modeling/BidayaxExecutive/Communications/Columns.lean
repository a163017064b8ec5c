import Mathlib.Tactic.Common

/-!
# Column types of the communications schema

Text columns with a check on their values are enumerations here, with the text
of each value.  Instants are counted in microseconds.  A `jsonb` value is a
tree; `->>` reads the text of a field, and reads a missing field and the value
`null` alike as missing.
-/

namespace BidayaxExecutive.Communications

abbrev Text : Type :=
  String

abbrev Timestamptz : Type :=
  Int

/-- The largest `INTEGER`. -/
def maxInteger : Int := 2147483647

/-! ## Enumerations -/

inductive CommunicationChannel where
  | telephony
  | voice
  | messaging
  | scheduling
  | custom
  deriving DecidableEq, Repr

def CommunicationChannel.text : CommunicationChannel → Text
  | .telephony => "telephony"
  | .voice => "voice"
  | .messaging => "messaging"
  | .scheduling => "scheduling"
  | .custom => "custom"

inductive CommunicationDirection where
  | inbound
  | outbound
  | internal
  deriving DecidableEq, Repr

inductive CommunicationPurpose where
  | callback
  | scheduling
  | support
  | relationshipFollowUp
  | emergencyEscalation
  deriving DecidableEq, Repr

def CommunicationPurpose.text : CommunicationPurpose → Text
  | .callback => "callback"
  | .scheduling => "scheduling"
  | .support => "support"
  | .relationshipFollowUp => "relationship_follow_up"
  | .emergencyEscalation => "emergency_escalation"

inductive CommunicationLifecycleState where
  | requested
  | policyChecking
  | authorized
  | queued
  | dispatching
  | accepted
  | active
  | completed
  | blocked
  | cancelled
  | failed
  | expired
  | suppressed
  | terminated
  deriving DecidableEq, Repr

def CommunicationLifecycleState.text : CommunicationLifecycleState → Text
  | .requested => "requested"
  | .policyChecking => "policy_checking"
  | .authorized => "authorized"
  | .queued => "queued"
  | .dispatching => "dispatching"
  | .accepted => "accepted"
  | .active => "active"
  | .completed => "completed"
  | .blocked => "blocked"
  | .cancelled => "cancelled"
  | .failed => "failed"
  | .expired => "expired"
  | .suppressed => "suppressed"
  | .terminated => "terminated"

inductive ConsentStatus where
  | granted
  | denied
  | revoked
  | expired
  deriving DecidableEq, Repr

def ConsentStatus.text : ConsentStatus → Text
  | .granted => "granted"
  | .denied => "denied"
  | .revoked => "revoked"
  | .expired => "expired"

inductive ConsentSource where
  | visitor
  | tenantPolicy
  | systemDefault
  | manualReview
  deriving DecidableEq, Repr

def ConsentSource.text : ConsentSource → Text
  | .visitor => "visitor"
  | .tenantPolicy => "tenant_policy"
  | .systemDefault => "system_default"
  | .manualReview => "manual_review"

inductive SuppressionStatus where
  | active
  | released
  | expired
  deriving DecidableEq, Repr

inductive DispatchState where
  | queued
  | blocked
  | failed
  | cancelled
  deriving DecidableEq, Repr

inductive ActorType where
  | user
  | service
  | platform
  | system
  deriving DecidableEq, Repr

inductive ScopeType where
  | card
  | tenant
  | platform
  deriving DecidableEq, Repr

def ScopeType.text : ScopeType → Text
  | .card => "card"
  | .tenant => "tenant"
  | .platform => "platform"

inductive CommandOperation where
  | requestCallback
  | cancelCallback
  | scheduleCommunication
  | initiateCommunication
  | acceptInboundCommunicationEvent
  | escalateToHuman
  | suppressCommunication
  | releaseSuppression
  | evaluateConsent
  | evaluateBusinessHours
  | evaluateRouting
  | queryCommunicationStatus
  | terminateCommunication
  | applyTenantKillSwitch
  | applyPlatformKillSwitch
  deriving DecidableEq, Repr

def CommandOperation.text : CommandOperation → Text
  | .requestCallback => "request_callback"
  | .cancelCallback => "cancel_callback"
  | .scheduleCommunication => "schedule_communication"
  | .initiateCommunication => "initiate_communication"
  | .acceptInboundCommunicationEvent => "accept_inbound_communication_event"
  | .escalateToHuman => "escalate_to_human"
  | .suppressCommunication => "suppress_communication"
  | .releaseSuppression => "release_suppression"
  | .evaluateConsent => "evaluate_consent"
  | .evaluateBusinessHours => "evaluate_business_hours"
  | .evaluateRouting => "evaluate_routing"
  | .queryCommunicationStatus => "query_communication_status"
  | .terminateCommunication => "terminate_communication"
  | .applyTenantKillSwitch => "apply_tenant_kill_switch"
  | .applyPlatformKillSwitch => "apply_platform_kill_switch"

inductive CommandStatus where
  | reserved
  | completed
  | failed
  deriving DecidableEq, Repr

inductive AuditResult where
  | succeeded
  | failed
  | denied
  | blocked
  deriving DecidableEq, Repr

/-! ## `jsonb` -/

/-- A number is kept as its text, an object as its fields in the stored
order. -/
inductive Jsonb where
  | null
  | boolean (value : Bool)
  | number (text : Text)
  | string (text : Text)
  | array (items : List Jsonb)
  | object (fields : List (Text × Jsonb))

namespace Jsonb

/-- The escapes of `escape_json`. -/
def escapeCharacter (character : Char) : Text :=
  if character.toNat = 34 then "\\\""
  else if character.toNat = 92 then "\\\\"
  else if character.toNat = 8 then "\\b"
  else if character.toNat = 12 then "\\f"
  else if character.toNat = 10 then "\\n"
  else if character.toNat = 13 then "\\r"
  else if character.toNat = 9 then "\\t"
  else if character.toNat < 32 then
    let digits := Nat.toDigits 16 character.toNat
    String.ofList ("\\u".toList ++ List.replicate (4 - digits.length) '0' ++
      digits)
  else character.toString

def quote (text : Text) : Text :=
  "\"" ++ String.join (text.toList.map escapeCharacter) ++ "\""

mutual

/-- The output of the type. -/
def output : Jsonb → Text
  | .null => "null"
  | .boolean value => if value then "true" else "false"
  | .number text => text
  | .string text => quote text
  | .array items => "[" ++ ", ".intercalate (outputItems items) ++ "]"
  | .object fields => "\x7b" ++ ", ".intercalate (outputFields fields) ++ "\x7d"

def outputItems : List Jsonb → List Text
  | [] => []
  | item :: rest => output item :: outputItems rest

def outputFields : List (Text × Jsonb) → List Text
  | [] => []
  | (name, value) :: rest =>
      (quote name ++ ": " ++ output value) :: outputFields rest

end

/-- `value -> name`. -/
def field? (value : Jsonb) (name : Text) : Option Jsonb :=
  match value with
  | .object fields =>
      (fields.find? fun entry => entry.1 == name).map Prod.snd
  | _ => none

/-- `value ->> name`. -/
def text? (value : Jsonb) (name : Text) : Option Text :=
  match value.field? name with
  | some .null => none
  | some (.string text) => some text
  | some other => some other.output
  | none => none

/-- `value ? name`: a field, an element of an array or a string. -/
def hasKey (value : Jsonb) (name : Text) : Bool :=
  match value with
  | .object fields => fields.any fun entry => entry.1 == name
  | .array items => items.any fun item =>
      match item with
      | .string text => text == name
      | _ => false
  | .string text => text == name
  | _ => false

def isNull : Jsonb → Bool
  | .null => true
  | _ => false

end Jsonb

end BidayaxExecutive.Communications
