import BidayaxExecutive.Receptionist.RedactionPolicy
import BidayaxExecutive.Receptionist.RuntimeConsent

/-!
# Safety of a transcript

A transcript is blocked when it tries to override instructions, and escalated
when it speaks of an emergency.  Consent and retention are checked before the
text, and each of them blocks a turn on its own.
-/

namespace BidayaxExecutive.Receptionist

open BidayaxExecutive.Runtime JsString
open BidayaxExecutive.Library.Backtracking
open BidayaxExecutive.Library.Backtracking.Regex

/-- `(first|...)` under the flag `i`. -/
def oneOf (first : JsString) (others : List JsString) : Regex UInt16 :=
  choice (folded first) (others.map folded)

def promptInjectionPatterns : List (Regex UInt16) :=
  [sequence [folded (js "ignore "), optional (folded (js "all ")),
      oneOf (js "previous") [js "system", js "developer"],
      folded (js " instructions")],
    sequence [folded (js "reveal "), optional (folded (js "your ")),
      oneOf (js "system prompt")
        [js "developer message", js "internal instructions"]],
    sequence [folded (js "bypass "),
      oneOf (js "policy") [js "safety", js "guardrails"]],
    sequence [folded (js "act as "), optional (folded (js "an ")),
      folded (js "unrestricted")],
    sequence [folded (js "forget "), optional (folded (js "the ")),
      folded (js "rules")]]

def emergencyPatterns : List (Regex UInt16) :=
  [wholeWord (js "emergency")
      [js "life threatening", js "suicide", js "self harm", js "heart attack",
        js "stroke", js "fire", js "violence", js "weapon"],
    wholeWord (js "call 911") [js "urgent danger", js "immediate danger"]]

inductive SafetyDecision where
  | allow
  | escalate
  | block
  deriving DecidableEq, Repr

def SafetyDecision.text : SafetyDecision → JsString
  | allow => js "allow"
  | escalate => js "escalate"
  | block => js "block"

structure RuntimeSafetyAssessment where
  decision : SafetyDecision
  reasonCodes : List JsString
  sanitizedTranscriptPreview : JsString
  deriving DecidableEq

/-- `patterns.some((pattern) => pattern.test(text))`. -/
def someFound (patterns : List (Regex UInt16)) (text : JsString) : Bool :=
  patterns.any fun pattern => pattern.found text

def sanitizeRuntimeTranscriptPreview (normalize : JsString → JsString)
    (transcript : JsString) (policy : Option RuntimeRedactionPolicy) :
    JsString :=
  (redactRuntimeText normalize transcript policy).redactedText

def assessRuntimeSafety (normalize : JsString → JsString)
    (transcript : JsString) (redactionPolicy : Option RuntimeRedactionPolicy) :
    RuntimeSafetyAssessment :=
  let sanitizedTranscriptPreview :=
    sanitizeRuntimeTranscriptPreview normalize transcript redactionPolicy
  let reasonCodes :=
    codeIf (someFound promptInjectionPatterns transcript)
      (js "PROMPT_INJECTION_ATTEMPT") ++
    codeIf (someFound emergencyPatterns transcript)
      (js "EMERGENCY_LANGUAGE_DETECTED")
  if reasonCodes.contains (js "PROMPT_INJECTION_ATTEMPT") then
    { decision := .block, reasonCodes, sanitizedTranscriptPreview }
  else if reasonCodes.contains (js "EMERGENCY_LANGUAGE_DETECTED") then
    { decision := .escalate, reasonCodes, sanitizedTranscriptPreview }
  else
    { decision := .allow
      reasonCodes := [js "RUNTIME_SAFETY_ALLOWED"]
      sanitizedTranscriptPreview }

/-! ## Validation -/

structure ConversationSafetyValidationInput where
  consent : Option RuntimeConsentInput
  consentPolicy : Option RuntimeConsentPolicy
  mode : VoiceRuntimeMode
  redactionPolicy : Option RuntimeRedactionPolicy
  retentionPolicy : Option RuntimeRetentionPolicy
  requestedCapabilities : Option (List RuntimeConsentSensitiveCapability)
  transcript : JsString

structure ConversationSafetyValidationResult where
  consent : RuntimeConsentResult
  decision : SafetyDecision
  reasonCodes : List JsString
  redaction : RuntimeRedactionResult
  retention : RuntimeRetentionResolution
  safety : RuntimeSafetyAssessment
  deriving DecidableEq

def validateConversationSafety (normalize : JsString → JsString)
    (input : ConversationSafetyValidationInput) :
    ConversationSafetyValidationResult :=
  let redaction :=
    redactRuntimeText normalize input.transcript input.redactionPolicy
  let consent := evaluateRuntimeConsent input.consent input.mode
    input.consentPolicy input.requestedCapabilities
  let retention := resolveRuntimeRetentionPolicy input.retentionPolicy
  let safety :=
    assessRuntimeSafety normalize input.transcript input.redactionPolicy
  let reasonCodes := consent.reasonCodes ++ retention.reasonCodes ++
    redaction.applied ++ safety.reasonCodes
  let blockedFor (code : JsString) : ConversationSafetyValidationResult :=
    { consent
      decision := .block
      reasonCodes
      redaction
      retention
      safety :=
        { decision := .block
          reasonCodes := safety.reasonCodes ++ [code]
          sanitizedTranscriptPreview := redaction.redactedText } }
  if !consent.allowed then blockedFor (js "CONSENT_POLICY_BLOCK")
  else if !retention.allowed then blockedFor (js "RETENTION_POLICY_BLOCK")
  else
    { consent
      decision := safety.decision
      reasonCodes
      redaction
      retention
      safety :=
        { safety with sanitizedTranscriptPreview := redaction.redactedText } }

/-! ## Decisions -/

theorem assessRuntimeSafety_decision (normalize : JsString → JsString)
    (transcript : JsString)
    (redactionPolicy : Option RuntimeRedactionPolicy) :
    (assessRuntimeSafety normalize transcript redactionPolicy).decision =
      if someFound promptInjectionPatterns transcript then .block
      else if someFound emergencyPatterns transcript then .escalate
      else .allow := by
  simp only [assessRuntimeSafety]
  generalize someFound promptInjectionPatterns transcript = injection
  generalize someFound emergencyPatterns transcript = emergency
  cases injection <;> cases emergency <;> rfl

variable {normalize : JsString → JsString}
  {input : ConversationSafetyValidationInput}

@[simp]
theorem validateConversationSafety_consent :
    (validateConversationSafety normalize input).consent =
      evaluateRuntimeConsent input.consent input.mode input.consentPolicy
        input.requestedCapabilities := by
  simp only [validateConversationSafety]
  split_ifs <;> rfl

@[simp]
theorem validateConversationSafety_decision :
    (validateConversationSafety normalize input).safety.decision =
      if (evaluateRuntimeConsent input.consent input.mode input.consentPolicy
          input.requestedCapabilities).allowed = true ∧
        (resolveRuntimeRetentionPolicy input.retentionPolicy).allowed = true
      then (assessRuntimeSafety normalize input.transcript
        input.redactionPolicy).decision
      else .block := by
  simp only [validateConversationSafety]
  cases (evaluateRuntimeConsent input.consent input.mode input.consentPolicy
    input.requestedCapabilities).allowed with
  | false => rfl
  | true =>
      cases (resolveRuntimeRetentionPolicy input.retentionPolicy).allowed with
      | false => rfl
      | true => rfl

end BidayaxExecutive.Receptionist
