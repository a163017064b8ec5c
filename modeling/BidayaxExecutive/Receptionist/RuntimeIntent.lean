import BidayaxExecutive.Receptionist.RuntimeSafety

/-!
# Intents and tool plans

A transcript has the intent of the first rule that matches it.  The plan of an
intent names a tool, and some plans wait for the approval of a human.
-/

namespace BidayaxExecutive.Receptionist

open BidayaxExecutive.Runtime JsString
open BidayaxExecutive.Library.Backtracking

inductive RuntimeIntent where
  | scheduleMeeting
  | requestCallback
  | routeMessage
  | qualifyLead
  | supportRequest
  | partnershipRequest
  | generalInquiry
  | sensitiveRequest
  | emergency
  | promptInjection
  | unknown
  deriving DecidableEq, Repr

def RuntimeIntent.text : RuntimeIntent → JsString
  | scheduleMeeting => js "schedule_meeting"
  | requestCallback => js "request_callback"
  | routeMessage => js "route_message"
  | qualifyLead => js "qualify_lead"
  | supportRequest => js "support_request"
  | partnershipRequest => js "partnership_request"
  | generalInquiry => js "general_inquiry"
  | sensitiveRequest => js "sensitive_request"
  | emergency => js "emergency"
  | promptInjection => js "prompt_injection"
  | unknown => js "unknown"

structure RuntimeIntentClassification where
  intent : RuntimeIntent
  confidence : JsNumber
  reasonCodes : List JsString
  deriving DecidableEq

/-! ## Rules -/

structure IntentRule where
  intent : RuntimeIntent
  «match» : Regex UInt16

def promptInjectionRule : IntentRule where
  intent := .promptInjection
  «match» := wholeWord (js "ignore previous instructions")
    [js "system prompt", js "bypass policy", js "developer message"]

def emergencyRule : IntentRule where
  intent := .emergency
  «match» := wholeWord (js "emergency")
    [js "call 911", js "life threatening", js "self harm",
      js "immediate danger"]

def scheduleMeetingRule : IntentRule where
  intent := .scheduleMeeting
  «match» := wholeWord (js "meeting")
    [js "calendar", js "appointment", js "schedule", js "book"]

def requestCallbackRule : IntentRule where
  intent := .requestCallback
  «match» := wholeWord (js "call me")
    [js "callback", js "call back", js "return my call"]

def qualifyLeadRule : IntentRule where
  intent := .qualifyLead
  «match» := wholeWord (js "budget")
    [js "enterprise", js "proposal", js "buy", js "sales", js "pricing"]

def partnershipRequestRule : IntentRule where
  intent := .partnershipRequest
  «match» := wholeWord (js "partner")
    [js "partnership", js "alliance", js "investor"]

def supportRequestRule : IntentRule where
  intent := .supportRequest
  «match» := wholeWord (js "support") [js "issue", js "problem", js "help"]

def routeMessageRule : IntentRule where
  intent := .routeMessage
  «match» := wholeWord (js "message") [js "tell", js "forward", js "route"]

def sensitiveRequestRule : IntentRule where
  intent := .sensitiveRequest
  «match» := wholeWord (js "contract")
    [js "payment", js "legal advice", js "medical", js "guarantee",
      js "promise returns"]

def intentRules : List IntentRule :=
  [promptInjectionRule, emergencyRule, scheduleMeetingRule,
    requestCallbackRule, qualifyLeadRule, partnershipRequestRule,
    supportRequestRule, routeMessageRule, sensitiveRequestRule]

/-- `text.toUpperCase()` for the text of an intent. -/
def upperCase (text : JsString) : JsString :=
  text.map fun unit => if 97 ≤ unit && unit ≤ 122 then unit - 32 else unit

def matchConfidence (intent : RuntimeIntent) : JsNumber :=
  if [RuntimeIntent.sensitiveRequest, .promptInjection,
      .emergency].contains intent then
    .fraction (93 / 100) ⟨js "0.93", by decide⟩
  else .fraction (78 / 100) ⟨js "0.78", by decide⟩

def classifyRuntimeIntent (transcript : JsString) :
    RuntimeIntentClassification :=
  let normalized := trim transcript
  if normalized.isEmpty then
    { intent := .unknown
      confidence := .integer 0
      reasonCodes := [js "EMPTY_TRANSCRIPT"] }
  else
    match intentRules.find? fun rule => rule.match.found normalized with
    | none =>
        { intent := .generalInquiry
          confidence := .fraction (42 / 100) ⟨js "0.42", by decide⟩
          reasonCodes := [js "DEFAULT_GENERAL_INQUIRY"] }
    | some rule =>
        { intent := rule.intent
          confidence := matchConfidence rule.intent
          reasonCodes := [js "MATCHED_" ++ upperCase rule.intent.text] }

/-- The rule matches the trimmed transcript. -/
def IntentRule.takes (rule : IntentRule) (transcript : JsString) : Bool :=
  rule.match.found (trim transcript)

theorem sensitiveRequest_takes_of_found {transcript : JsString}
    (there : sensitiveRequestRule.match.found transcript = true) :
    sensitiveRequestRule.takes transcript = true :=
  found_trim_of_found (by decide) (by decide) there

/-- A text that has a word is not empty. -/
theorem trim_ne_nil_of_takes {transcript : JsString}
    (takes : sensitiveRequestRule.takes transcript = true) :
    (trim transcript).isEmpty = false := by
  rw [List.isEmpty_eq_false_iff]
  intro blank
  rw [IntentRule.takes, blank] at takes
  revert takes
  decide

theorem classify_intent {transcript : JsString}
    (written : (trim transcript).isEmpty = false) :
    (classifyRuntimeIntent transcript).intent =
      (((intentRules.find? fun rule => rule.takes transcript).map
        IntentRule.intent).getD .generalInquiry) := by
  simp only [classifyRuntimeIntent, written, Bool.false_eq_true, if_false,
    IntentRule.takes]
  cases intentRules.find? fun rule => rule.match.found (trim transcript) with
  | none => rfl
  | some rule => rfl

/-! ## Tool plans -/

inductive RuntimeToolName where
  | appointmentRequest
  | callbackRequest
  | messageCapture
  | leadQualification
  | supportIntake
  | humanApproval
  | emergencyEscalation
  | safeFallback
  deriving DecidableEq, Repr

def RuntimeToolName.text : RuntimeToolName → JsString
  | appointmentRequest => js "appointment_request"
  | callbackRequest => js "callback_request"
  | messageCapture => js "message_capture"
  | leadQualification => js "lead_qualification"
  | supportIntake => js "support_intake"
  | humanApproval => js "human_approval"
  | emergencyEscalation => js "emergency_escalation"
  | safeFallback => js "safe_fallback"

inductive VoiceRuntimeProviderStatus where
  | mockOnly
  | providerUnconfigured
  | blockedByPolicy
  | requiresHumanReview
  deriving DecidableEq, Repr

def VoiceRuntimeProviderStatus.text : VoiceRuntimeProviderStatus → JsString
  | mockOnly => js "mock_only"
  | providerUnconfigured => js "provider_unconfigured"
  | blockedByPolicy => js "blocked_by_policy"
  | requiresHumanReview => js "requires_human_review"

structure RuntimeToolPlan where
  providerStatus : VoiceRuntimeProviderStatus
  reasonCodes : List JsString
  requiresHumanApproval : Bool
  toolName : RuntimeToolName
  deriving DecidableEq

/-- The tools of the intents that have no plan of their own. -/
def mappedTool : RuntimeIntent → RuntimeToolName
  | .generalInquiry => .messageCapture
  | .partnershipRequest => .humanApproval
  | .qualifyLead => .leadQualification
  | .requestCallback => .callbackRequest
  | .routeMessage => .messageCapture
  | .scheduleMeeting => .appointmentRequest
  | .supportRequest => .supportIntake
  | _ => .safeFallback

def planRuntimeTool (intent : RuntimeIntentClassification) : RuntimeToolPlan :=
  match intent.intent with
  | .promptInjection =>
      { providerStatus := .blockedByPolicy
        reasonCodes := [js "PROMPT_INJECTION_BLOCKED"]
        requiresHumanApproval := false
        toolName := .safeFallback }
  | .emergency =>
      { providerStatus := .requiresHumanReview
        reasonCodes := [js "EMERGENCY_REQUIRES_HUMAN_ESCALATION"]
        requiresHumanApproval := true
        toolName := .emergencyEscalation }
  | .sensitiveRequest =>
      { providerStatus := .requiresHumanReview
        reasonCodes := [js "SENSITIVE_REQUEST_REQUIRES_HUMAN_APPROVAL"]
        requiresHumanApproval := true
        toolName := .humanApproval }
  | other =>
      let toolName := mappedTool other
      let requiresHumanApproval := toolName == .humanApproval
      { providerStatus :=
          if requiresHumanApproval then .requiresHumanReview
          else .providerUnconfigured
        reasonCodes :=
          if requiresHumanApproval then [js "HUMAN_APPROVAL_REQUIRED"]
          else [js "PROVIDER_NEUTRAL_TOOL_PLAN"]
        requiresHumanApproval
        toolName }

/-- The intents whose plans wait for a human. -/
def RuntimeIntent.needsApproval (intent : RuntimeIntent) : Bool :=
  [emergency, sensitiveRequest, partnershipRequest].contains intent

theorem requiresHumanApproval_iff (intent : RuntimeIntentClassification) :
    (planRuntimeTool intent).requiresHumanApproval =
      intent.intent.needsApproval := by
  obtain ⟨intent, _, _⟩ := intent
  cases intent <;> rfl

theorem blockedByPolicy_iff (intent : RuntimeIntentClassification) :
    (planRuntimeTool intent).providerStatus = .blockedByPolicy ↔
      intent.intent = .promptInjection := by
  obtain ⟨intent, _, _⟩ := intent
  cases intent <;> simp [planRuntimeTool, mappedTool]

/-- No rule whose plan is carried out comes before the rule of sensitive
requests, or before one that is reviewed as well. -/
def NotTakenBefore (transcript : JsString) : Prop :=
  scheduleMeetingRule.takes transcript = false ∧
    requestCallbackRule.takes transcript = false ∧
    qualifyLeadRule.takes transcript = false ∧
    (partnershipRequestRule.takes transcript = true ∨
      (supportRequestRule.takes transcript = false ∧
        routeMessageRule.takes transcript = false))

/-- The intent blocks the turn or waits for a human. -/
def RuntimeIntent.Reviewed (intent : RuntimeIntent) : Prop :=
  intent = .promptInjection ∨ intent.needsApproval = true

theorem classify_sensitive {transcript : JsString}
    (takes : sensitiveRequestRule.takes transcript = true) :
    (classifyRuntimeIntent transcript).intent.Reviewed ↔
      promptInjectionRule.takes transcript = true ∨
        emergencyRule.takes transcript = true ∨
        NotTakenBefore transcript := by
  rw [RuntimeIntent.Reviewed, NotTakenBefore]
  have isIntent := classify_intent (trim_ne_nil_of_takes takes)
  simp only [intentRules, List.find?_cons, takes] at isIntent
  cases injection : promptInjectionRule.takes transcript with
  | true =>
      rw [injection] at isIntent
      simp [isIntent, promptInjectionRule]
  | false =>
  rw [injection] at isIntent
  cases urgent : emergencyRule.takes transcript with
  | true =>
      rw [urgent] at isIntent
      simp [isIntent, emergencyRule, RuntimeIntent.needsApproval]
  | false =>
  rw [urgent] at isIntent
  cases schedule : scheduleMeetingRule.takes transcript with
  | true =>
      rw [schedule] at isIntent
      simp [isIntent, scheduleMeetingRule, RuntimeIntent.needsApproval]
  | false =>
  rw [schedule] at isIntent
  cases callback : requestCallbackRule.takes transcript with
  | true =>
      rw [callback] at isIntent
      simp [isIntent, requestCallbackRule, RuntimeIntent.needsApproval]
  | false =>
  rw [callback] at isIntent
  cases qualify : qualifyLeadRule.takes transcript with
  | true =>
      rw [qualify] at isIntent
      simp [isIntent, qualifyLeadRule, RuntimeIntent.needsApproval]
  | false =>
  rw [qualify] at isIntent
  cases partner : partnershipRequestRule.takes transcript with
  | true =>
      rw [partner] at isIntent
      simp [isIntent, partnershipRequestRule,
        RuntimeIntent.needsApproval]
  | false =>
  rw [partner] at isIntent
  cases support : supportRequestRule.takes transcript with
  | true =>
      rw [support] at isIntent
      simp [isIntent, supportRequestRule, RuntimeIntent.needsApproval]
  | false =>
  rw [support] at isIntent
  cases route : routeMessageRule.takes transcript with
  | true =>
      rw [route] at isIntent
      simp [isIntent, routeMessageRule, RuntimeIntent.needsApproval]
  | false =>
      rw [route] at isIntent
      simp [isIntent, sensitiveRequestRule,
        RuntimeIntent.needsApproval]

end BidayaxExecutive.Receptionist
