import BidayaxExecutive.Runtime.Decimal
import BidayaxExecutive.Settings.Types

/-!
# Validation of the receptionist settings

Every issue of the settings is reported with a code, a field path and a
message, in the order of the checks.
-/

namespace BidayaxExecutive.Settings

open BidayaxExecutive.Runtime JsString

/-! ## Approved values -/

def receptionistLanguages : List JsString :=
  [js "English", js "Spanish", js "Arabic", js "French", js "Mandarin",
    js "Urdu", js "Hindi"]

def receptionistPriorities : List JsString :=
  [js "low", js "medium", js "high", js "urgent"]

def receptionistRequestTypes : List JsString :=
  [js "schedule_meeting", js "route_message", js "request_callback",
    js "qualify_lead", js "general_inquiry", js "partnership_request",
    js "support_request"]

def receptionistVoiceProfiles : List JsString :=
  [js "executive", js "warm", js "energetic", js "calm", js "professional",
    js "luxury"]

def receptionistMoods : List JsString :=
  [js "confident", js "friendly", js "concise", js "formal",
    js "high_energy", js "calm"]

def receptionistGreetingModes : List JsString :=
  [js "standard", js "custom"]

def receptionistFallbackBehaviors : List JsString :=
  [js "queue_callback", js "take_message", js "route_to_email",
    js "human_review"]

def receptionistAfterHoursBehaviors : List JsString :=
  [js "queue_next_business_day", js "take_message",
    js "urgent_escalation_only", js "disabled"]

def receptionistRecordingPolicies : List JsString :=
  [js "disabled", js "disclose_and_record", js "transcript_only"]

/-! ## Checks of single values -/

structure ReceptionistSettingsValidationIssue where
  code : JsString
  field : JsString
  message : JsString
  deriving DecidableEq

structure ReceptionistSettingsValidationResult where
  valid : Bool
  issues : List ReceptionistSettingsValidationIssue
  deriving DecidableEq

def includesValue (values : List JsString) : Option Json → Bool
  | some (.string value) => values.contains value
  | _ => false

def isBoolean : Option Json → Bool
  | some (.boolean _) => true
  | _ => false

/-- `value === text`. -/
def isText (text : JsString) (value : Option Json) : Bool :=
  Json.sameField value (some (.string text))

/-- `[^\s@]+\.[^\s@]+` on a text without white space and `@`: a dot that is
neither the first nor the last unit. -/
def isMailDomain : JsString → Bool
  | [] => false
  | _ :: rest => (rest.dropLast).contains 46

/-- `/^[^\s@]+@[^\s@]+\.[^\s@]+$/`. -/
def isValidEmail : Option Json → Bool
  | some (.string text) =>
      !isBlank text && !text.any isSpace &&
        !(text.takeWhile (· != 64)).isEmpty &&
        match text.dropWhile (· != 64) with
        | [] => false
        | _ :: domain => !domain.contains 64 && isMailDomain domain
  | _ => false

/-- Seven to fifteen digits, whatever stands between them. -/
def isValidPhone : Option Json → Bool
  | some (.string text) =>
      !isBlank text && 7 ≤ (text.filter isDigit).length &&
        (text.filter isDigit).length ≤ 15
  | _ => false

/-- The issue, unless the check is passed. -/
def issueUnless (passed : Bool) (code field message : JsString) :
    List ReceptionistSettingsValidationIssue :=
  if passed then [] else [⟨code, field, message⟩]

/-! ## Rules and contacts -/

def routingRuleIssues (rule : Json) (field : JsString) :
    List ReceptionistSettingsValidationIssue :=
  match rule with
  | .object _ =>
      issueUnless (hasText (rule.field? (js "condition")))
          (js "routing_rule.condition.required") (field ++ js ".condition")
          (js "Routing condition is required.") ++
        issueUnless (hasText (rule.field? (js "destination")))
          (js "routing_rule.destination.required")
          (field ++ js ".destination")
          (js "Routing destination is required.") ++
        issueUnless
          (includesValue receptionistPriorities
            (rule.field? (js "priority")))
          (js "routing_rule.priority.invalid") (field ++ js ".priority")
          (js "Routing priority is not approved.") ++
        issueUnless
          (includesValue
            (receptionistRequestTypes ++ [js "urgent", js "unknown"])
            (rule.field? (js "intent")))
          (js "routing_rule.intent.invalid") (field ++ js ".intent")
          (js "Routing intent is not approved.") ++
        issueUnless (isBoolean (rule.field? (js "enabled")))
          (js "routing_rule.enabled.invalid") (field ++ js ".enabled")
          (js "Routing enabled state must be boolean.")
  | _ =>
      [⟨js "routing_rule.invalid", field,
        js "Routing rule must be an object."⟩]

def escalationContactIssues (contact : Json) (field : JsString) :
    List ReceptionistSettingsValidationIssue :=
  match contact with
  | .object _ =>
      issueUnless (hasText (contact.field? (js "label")))
          (js "escalation_contact.name.required") (field ++ js ".label")
          (js "Escalation contact name is required.") ++
        issueUnless
          (isValidEmail (contact.field? (js "email")) ||
            isValidPhone (contact.field? (js "phone")))
          (js "escalation_contact.method.invalid") field
          (js "Escalation contact requires a valid email address or " ++
            js "phone number.") ++
        issueUnless
          ((contact.field? (js "preferredContactMethod")).isNone ||
            isText (js "email")
              (contact.field? (js "preferredContactMethod")) ||
            isText (js "phone")
              (contact.field? (js "preferredContactMethod")))
          (js "escalation_contact.preferred_method.invalid")
          (field ++ js ".preferredContactMethod")
          (js "Preferred contact method must be email or phone.")
  | _ =>
      [⟨js "escalation_contact.invalid", field,
        js "Escalation contact must be an object."⟩]

/-- The issues of the elements of an array at a field. -/
def elementIssues (field code message : JsString)
    (issues : Json → JsString → List ReceptionistSettingsValidationIssue) :
    Option Json → List ReceptionistSettingsValidationIssue
  | some (.array elements) =>
      elements.zipIdx.flatMap fun (element, index) =>
        issues element (field ++ js "." ++ natText index)
  | _ => [⟨code, field, message⟩]

def validateRoutingRules (value : Option Json) :
    List ReceptionistSettingsValidationIssue :=
  elementIssues (js "callRoutingRules") (js "routing_rules.invalid")
    (js "Routing rules must be an array.") routingRuleIssues value

def validateEscalationContacts (value : Option Json) :
    List ReceptionistSettingsValidationIssue :=
  elementIssues (js "escalationContacts") (js "escalation_contacts.invalid")
    (js "Escalation contacts must be an array.") escalationContactIssues value

/-! ## The settings -/

def supportedLanguageIssues (supported language : Option Json) :
    List ReceptionistSettingsValidationIssue :=
  match supported with
  | some (.array (first :: rest)) =>
      issueUnless
          ((first :: rest).all fun item =>
            includesValue receptionistLanguages (some item))
          (js "supported_languages.invalid") (js "supportedLanguages")
          (js "Supported languages contain an unapproved value.") ++
        issueUnless
          (!hasText language ||
            (first :: rest).any fun item =>
              Json.sameField (some item) language)
          (js "default_language.not_supported") (js "supportedLanguages")
          (js "Supported languages must include the default language.")
  | _ =>
      [⟨js "supported_languages.required", js "supportedLanguages",
        js "At least one supported language is required."⟩]

def greetingIssues (input : Json) :
    List ReceptionistSettingsValidationIssue :=
  let mode := input.field? (js "greetingMode")
  if !includesValue receptionistGreetingModes mode then
    [⟨js "greeting_mode.invalid", js "greetingMode",
      js "Greeting mode must be standard or custom."⟩]
  else if isText (js "custom") mode &&
      !hasText (input.field? (js "customGreeting")) then
    [⟨js "custom_greeting.required", js "customGreeting",
      js "Custom greeting is required in custom greeting mode."⟩]
  else if isText (js "standard") mode &&
      !hasText (input.field? (js "standardGreeting")) then
    [⟨js "standard_greeting.required", js "standardGreeting",
      js "Standard greeting is required in standard greeting mode."⟩]
  else []

/-- `input.enabled === true`. -/
def isEnabled (input : Json) : Bool :=
  Json.sameField (input.field? (js "enabled")) (some (.boolean true))

def receptionistIssues (input : Json) :
    List ReceptionistSettingsValidationIssue :=
  issueUnless (isBoolean (input.field? (js "enabled"))) (js "enabled.invalid")
      (js "enabled") (js "Enabled must be boolean.") ++
    issueUnless
      (includesValue receptionistLanguages
        (input.field? (js "defaultLanguage")))
      (js "default_language.invalid") (js "defaultLanguage")
      (js "Default language is required and must be supported.") ++
    supportedLanguageIssues (input.field? (js "supportedLanguages"))
      (input.field? (js "defaultLanguage")) ++
    issueUnless
      (!isEnabled input ||
        includesValue receptionistVoiceProfiles
          (input.field? (js "voiceProfile")))
      (js "voice_profile.required") (js "voiceProfile")
      (js "An approved voice profile is required when the receptionist " ++
        js "is enabled.") ++
    issueUnless
      (includesValue receptionistMoods (input.field? (js "mood")))
      (js "mood.invalid") (js "mood") (js "Mood is not an approved value.") ++
    greetingIssues input ++
    issueUnless
      (includesValue receptionistRecordingPolicies
        (input.field? (js "recordingPolicy")))
      (js "recording_policy.invalid") (js "recordingPolicy")
      (js "Recording policy is not approved.") ++
    issueUnless
      (!(isEnabled input ||
          !isText (js "disabled") (input.field? (js "recordingPolicy"))) ||
        hasText (input.field? (js "consentDisclosure")))
      (js "consent_disclosure.required") (js "consentDisclosure")
      (js "Consent disclosure is required when automation or recording " ++
        js "is enabled.") ++
    issueUnless
      (includesValue receptionistFallbackBehaviors
        (input.field? (js "fallbackBehavior")))
      (js "fallback_behavior.invalid") (js "fallbackBehavior")
      (js "Fallback behavior is required and must be approved.") ++
    issueUnless
      (includesValue receptionistAfterHoursBehaviors
        (input.field? (js "afterHoursBehavior")))
      (js "after_hours_behavior.invalid") (js "afterHoursBehavior")
      (js "After-hours behavior is not approved.") ++
    validateRoutingRules (input.field? (js "callRoutingRules")) ++
    validateEscalationContacts (input.field? (js "escalationContacts"))

def validateReceptionistSettings (input : Json) :
    ReceptionistSettingsValidationResult :=
  match input with
  | .object _ =>
      ⟨(receptionistIssues input).isEmpty, receptionistIssues input⟩
  | _ =>
      ⟨false,
        [⟨js "receptionist_settings.invalid", js "receptionistSettings",
          js "Receptionist settings must be an object."⟩]⟩

end BidayaxExecutive.Settings
