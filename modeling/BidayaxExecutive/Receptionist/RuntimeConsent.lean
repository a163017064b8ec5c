import BidayaxExecutive.Runtime.JsMap
import BidayaxExecutive.Runtime.JsValue

/-!
# Consent and retention of the voice runtime

A turn asks for capabilities.  Without a consent it is allowed when it asks for
none that needs one; with a consent it is allowed when the consent is not
denied and gives what the policy demands.
-/

namespace BidayaxExecutive.Receptionist

open BidayaxExecutive.Runtime JsString

inductive VoiceRuntimeMode where
  | textChat
  | voiceChat
  | phoneSimulation
  deriving DecidableEq, Repr

def VoiceRuntimeMode.text : VoiceRuntimeMode → JsString
  | textChat => js "text_chat"
  | voiceChat => js "voice_chat"
  | phoneSimulation => js "phone_simulation"

inductive RuntimeConsentSensitiveCapability where
  | recording
  | transcription
  | sensitiveTool
  | liveVoice
  deriving DecidableEq, Repr

/-! ## Consent -/

structure RuntimeConsentInput where
  automationDisclosureAccepted : Option Bool
  consentDenied : Option Bool
  recordingConsentGranted : Option Bool
  recordingRequested : Option Bool
  transcriptRetentionAccepted : Option Bool
  deriving DecidableEq

structure RuntimeConsentPolicy where
  automationDisclosureRequired : Bool
  recordingConsentRequired : Bool
  transcriptRetentionNoticeRequired : Bool
  deriving DecidableEq

def defaultRuntimeConsentPolicy : RuntimeConsentPolicy where
  automationDisclosureRequired := true
  recordingConsentRequired := true
  transcriptRetentionNoticeRequired := true

inductive RuntimeConsentStatus where
  | notRequired
  | granted
  | missing
  | denied
  deriving DecidableEq, Repr

def RuntimeConsentStatus.text : RuntimeConsentStatus → JsString
  | notRequired => js "not_required"
  | granted => js "granted"
  | missing => js "missing"
  | denied => js "denied"

structure RuntimeConsentResult where
  allowed : Bool
  reasonCodes : List JsString
  status : RuntimeConsentStatus
  deriving DecidableEq

/-- An optional flag that is given and set. -/
def isSet (flag : Option Bool) : Bool :=
  flag.getD false

/-- The code, where there is a reason for it. -/
def codeIf (reason : Bool) (code : JsString) : List JsString :=
  if reason then [code] else []

/-- `voice_chat` or `phone_simulation`. -/
def VoiceRuntimeMode.isLive (mode : VoiceRuntimeMode) : Bool :=
  mode == voiceChat || mode == phoneSimulation

def consentRequirementCodes (mode : VoiceRuntimeMode)
    (requestedCapabilities : Option (List RuntimeConsentSensitiveCapability)) :
    List JsString :=
  let capabilities := requestedCapabilities.getD []
  (codeIf (mode.isLive || capabilities.contains .liveVoice)
      (js "LIVE_VOICE_CONSENT_CONTEXT_REQUIRED") ++
    codeIf (capabilities.contains .transcription)
      (js "TRANSCRIPTION_CONSENT_CONTEXT_REQUIRED") ++
    codeIf (capabilities.contains .recording)
      (js "RECORDING_CONSENT_CONTEXT_REQUIRED") ++
    codeIf (capabilities.contains .sensitiveTool)
      (js "SENSITIVE_TOOL_CONSENT_CONTEXT_REQUIRED")).eraseDups

/-- The reasons against a consent that is there. -/
def consentReasonCodes (consent : RuntimeConsentInput) (mode : VoiceRuntimeMode)
    (policy : RuntimeConsentPolicy)
    (requestedCapabilities : Option (List RuntimeConsentSensitiveCapability)) :
    List JsString :=
  let recordingRequested := isSet consent.recordingRequested ||
    (requestedCapabilities.getD []).contains .recording
  codeIf (policy.automationDisclosureRequired &&
      !isSet consent.automationDisclosureAccepted)
    (js "AUTOMATION_DISCLOSURE_REQUIRED") ++
  codeIf (policy.transcriptRetentionNoticeRequired &&
      !isSet consent.transcriptRetentionAccepted)
    (js "TRANSCRIPT_RETENTION_NOTICE_REQUIRED") ++
  codeIf ((recordingRequested || mode == .phoneSimulation) &&
      policy.recordingConsentRequired && !isSet consent.recordingConsentGranted)
    (js "RECORDING_CONSENT_REQUIRED") ++
  codeIf (isSet consent.consentDenied) (js "CONSENT_DENIED")

def evaluateRuntimeConsent (consent : Option RuntimeConsentInput)
    (mode : VoiceRuntimeMode) (policy : Option RuntimeConsentPolicy)
    (requestedCapabilities : Option (List RuntimeConsentSensitiveCapability)) :
    RuntimeConsentResult :=
  let requirementCodes := consentRequirementCodes mode requestedCapabilities
  match consent with
  | none =>
      if requirementCodes.length > 0 then
        { allowed := false
          reasonCodes := js "CONSENT_CONTEXT_REQUIRED" :: requirementCodes
          status := .missing }
      else
        { allowed := true
          reasonCodes := [js "CONSENT_NOT_REQUIRED_FOR_CONTEXT"]
          status := .notRequired }
  | some consent =>
      let reasonCodes := consentReasonCodes consent mode
        (policy.getD defaultRuntimeConsentPolicy) requestedCapabilities
      if reasonCodes.contains (js "CONSENT_DENIED") then
        { allowed := false
          reasonCodes := reasonCodes.eraseDups
          status := .denied }
      else if reasonCodes.length > 0 then
        { allowed := false
          reasonCodes := reasonCodes.eraseDups
          status := .missing }
      else
        { allowed := true
          reasonCodes := [js "CONSENT_VALIDATED"]
          status := .granted }

/-! ## What an allowed consent gives -/

/-- The consent is not denied and gives all that the policy demands for the
capabilities. -/
structure ConsentMet (consent : RuntimeConsentInput) (mode : VoiceRuntimeMode)
    (policy : RuntimeConsentPolicy)
    (capabilities : List RuntimeConsentSensitiveCapability) : Prop where
  notDenied : isSet consent.consentDenied = false
  disclosure : policy.automationDisclosureRequired = true →
    isSet consent.automationDisclosureAccepted = true
  retentionNotice : policy.transcriptRetentionNoticeRequired = true →
    isSet consent.transcriptRetentionAccepted = true
  recording : policy.recordingConsentRequired = true →
    isSet consent.recordingRequested = true ∨ .recording ∈ capabilities ∨
      mode = .phoneSimulation →
    isSet consent.recordingConsentGranted = true

theorem codeIf_eq_nil {reason : Bool} {code : JsString} :
    codeIf reason code = [] ↔ reason = false := by
  cases reason <;> simp [codeIf]

theorem consentMet_iff (consent : RuntimeConsentInput) (mode : VoiceRuntimeMode)
    (policy : RuntimeConsentPolicy)
    (capabilities : List RuntimeConsentSensitiveCapability) :
    consentReasonCodes consent mode policy (some capabilities) = [] ↔
      ConsentMet consent mode policy capabilities := by
  simp only [consentReasonCodes, List.append_eq_nil_iff, codeIf_eq_nil,
    Option.getD_some]
  constructor
  · rintro ⟨⟨⟨disclosure, notice⟩, recording⟩, denied⟩
    refine ⟨denied, ?_, ?_, ?_⟩
    · intro required
      simpa [required] using disclosure
    · intro required
      simpa [required] using notice
    · intro required asked
      have asks : (isSet consent.recordingRequested ||
          capabilities.contains .recording || mode == .phoneSimulation) =
            true := by
        simpa [or_assoc] using asked
      rw [asks, required] at recording
      simpa using recording
  · intro met
    refine ⟨⟨⟨?_, ?_⟩, ?_⟩, met.notDenied⟩
    · cases required : policy.automationDisclosureRequired with
      | false => rfl
      | true => simp [met.disclosure required]
    · cases required : policy.transcriptRetentionNoticeRequired with
      | false => rfl
      | true => simp [met.retentionNotice required]
    · cases required : policy.recordingConsentRequired with
      | false => simp
      | true =>
          cases asks : (isSet consent.recordingRequested ||
              capabilities.contains .recording || mode == .phoneSimulation) with
          | false => rfl
          | true =>
              rw [met.recording required (by simpa [or_assoc] using asks)]
              rfl

theorem eraseDups_eq_nil {codes : List JsString} :
    codes.eraseDups = [] ↔ codes = [] := by
  cases codes with
  | nil => exact ⟨fun _ => rfl, fun _ => rfl⟩
  | cons code codes => simp [List.eraseDups_cons]

theorem consentRequirementCodes_eq_nil {mode : VoiceRuntimeMode}
    {capabilities : List RuntimeConsentSensitiveCapability} :
    consentRequirementCodes mode (some capabilities) = [] ↔
      mode = .textChat ∧ capabilities = [] := by
  simp only [consentRequirementCodes, eraseDups_eq_nil, List.append_eq_nil_iff,
    codeIf_eq_nil, Option.getD_some, Bool.or_eq_false_iff]
  constructor
  · rintro ⟨⟨⟨⟨still, live⟩, transcription⟩, recording⟩, tool⟩
    refine ⟨?_, ?_⟩
    · cases mode with
      | textChat => rfl
      | voiceChat => cases still
      | phoneSimulation => cases still
    · rw [List.eq_nil_iff_forall_not_mem]
      intro capability member
      rw [← List.contains_iff_mem] at member
      cases capability with
      | recording => exact absurd member (Bool.eq_false_iff.mp recording)
      | transcription =>
          exact absurd member (Bool.eq_false_iff.mp transcription)
      | sensitiveTool => exact absurd member (Bool.eq_false_iff.mp tool)
      | liveVoice => exact absurd member (Bool.eq_false_iff.mp live)
  · rintro ⟨rfl, rfl⟩
    exact ⟨⟨⟨⟨rfl, rfl⟩, rfl⟩, rfl⟩, rfl⟩

theorem consent_allowed_iff {consent : Option RuntimeConsentInput}
    {mode : VoiceRuntimeMode} {policy : Option RuntimeConsentPolicy}
    {capabilities : List RuntimeConsentSensitiveCapability} :
    (evaluateRuntimeConsent consent mode policy (some capabilities)).allowed =
        true ↔
      (consent = none ∧ mode = .textChat ∧ capabilities = []) ∨
      ∃ given, consent = some given ∧ ConsentMet given mode
        (policy.getD defaultRuntimeConsentPolicy) capabilities := by
  cases consent with
  | none =>
      rw [← consentRequirementCodes_eq_nil]
      by_cases required :
          (consentRequirementCodes mode (some capabilities)).length > 0
      · simp [evaluateRuntimeConsent, required, List.length_pos_iff.mp required]
      · have free : consentRequirementCodes mode (some capabilities) = [] :=
          List.length_eq_zero_iff.mp (by omega)
        simp [evaluateRuntimeConsent, free]
  | some given =>
      have exact_ := consentMet_iff given mode
        (policy.getD defaultRuntimeConsentPolicy) capabilities
      simp only [reduceCtorEq, false_and, Option.some.injEq, exists_eq_left',
        false_or, ← exact_, evaluateRuntimeConsent]
      by_cases free : consentReasonCodes given mode
          (policy.getD defaultRuntimeConsentPolicy) (some capabilities) = []
      · simp [free]
      · have filled := List.length_pos_iff.mpr free
        split_ifs <;> simp [free]

/-! ## Retention -/

structure RuntimeRetentionPolicy where
  auditEventRetentionDays : JsNumber
  rawAudioRetentionAllowed : Bool
  recordingRetentionDays : JsNumber
  transcriptPreviewRetentionDays : JsNumber
  deriving DecidableEq

structure RuntimeRetentionResolution where
  allowed : Bool
  policy : RuntimeRetentionPolicy
  reasonCodes : List JsString
  deriving DecidableEq

def defaultRuntimeRetentionPolicy : RuntimeRetentionPolicy where
  auditEventRetentionDays := .integer 365
  rawAudioRetentionAllowed := false
  recordingRetentionDays := .integer 0
  transcriptPreviewRetentionDays := .integer 30

/-- `left > right`. -/
def exceeds (left right : JsNumber) : Bool :=
  left != .nan && right != .nan && !left.lessOrEqual right

def retentionReasonCodes (resolved : RuntimeRetentionPolicy) : List JsString :=
  codeIf resolved.rawAudioRetentionAllowed
    (js "RAW_AUDIO_RETENTION_BLOCKED_IN_PHASE_9") ++
  codeIf (exceeds resolved.recordingRetentionDays (.integer 0) &&
      !resolved.rawAudioRetentionAllowed)
    (js "RECORDING_RETENTION_METADATA_ONLY") ++
  codeIf (exceeds resolved.transcriptPreviewRetentionDays
      resolved.auditEventRetentionDays)
    (js "TRANSCRIPT_RETENTION_EXCEEDS_AUDIT_RETENTION")

def resolveRuntimeRetentionPolicy (policy : Option RuntimeRetentionPolicy) :
    RuntimeRetentionResolution :=
  let resolved := policy.getD defaultRuntimeRetentionPolicy
  let reasonCodes := retentionReasonCodes resolved
  { allowed :=
      !reasonCodes.contains (js "RAW_AUDIO_RETENTION_BLOCKED_IN_PHASE_9")
    policy := resolved
    reasonCodes :=
      if reasonCodes.length > 0 then reasonCodes
      else [js "RETENTION_POLICY_VALIDATED"] }

end BidayaxExecutive.Receptionist
