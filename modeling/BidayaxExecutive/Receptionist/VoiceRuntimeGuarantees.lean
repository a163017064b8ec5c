import BidayaxExecutive.Library.Guards
import BidayaxExecutive.Receptionist.VoiceRuntimeTurn

/-!
# What a turn of the voice runtime guarantees

A plan that waits for a human has a valid consent, because the two assessments
of a transcript come to one decision whenever the second one does not block.
A sensitive request is reviewed unless an earlier rule takes it.  A replay key
stays remembered when a provider fails after it.
-/

namespace BidayaxExecutive.Receptionist

open BidayaxExecutive.Runtime JsString
open BidayaxExecutive.Library
open BidayaxExecutive.Library.Transactions
open BidayaxExecutive.Library.RememberedKeys

variable {State : Type} {platform : RuntimePlatform}
  {services : VoiceRuntimeServices State} {input : VoiceRuntimeInput}

/-! ## What a turn returns -/

theorem mapError_eq_ok {outcome : Except JsString α} {value : α} :
    outcome.mapError VoiceRuntimeFailure.provider = .ok value ↔
      outcome = .ok value := by
  cases outcome with
  | error reason =>
      exact ⟨fun same => (nomatch same), fun same => (nomatch same)⟩
  | ok other =>
      exact ⟨fun same => congrArg Except.ok (Except.ok.inj same),
        fun same => congrArg Except.ok (Except.ok.inj same)⟩

theorem isoText_eq_ok {date : JsDate} {timestamp : JsString} :
    isoText date = .ok timestamp ↔
      ∃ time, date = some time ∧ toISOString time = timestamp := by
  cases date with
  | none => simp [isoText]
  | some time => simp [isoText]

/-- No step of a turn is an invalid transition. -/
theorem exists_plannedState (toolPlan : RuntimeToolPlan) :
    ∃ planned, plannedState toolPlan .processing = .ok planned ∧
      ∃ final, sentState planned = .ok final := by
  rw [plannedState]
  split_ifs with blocked approval
  · exact ⟨.blocked, rfl, .blocked, rfl⟩
  · exact ⟨.escalating, rfl, .escalating, rfl⟩
  · exact ⟨.responding, rfl, .completed, rfl⟩

theorem createConsentBlockedTurn_eq_ok {consent : RuntimeConsentResult}
    {now : JsDate} {capabilities : List RuntimeConsentSensitiveCapability} :
    (∃ turn, createConsentBlockedTurn services input consent now
        capabilities = .ok turn) ↔
      (∃ time, now = some time) ∧
        ∃ audio, services.synthesizer consentBlockedRequest = .ok audio := by
  rw [createConsentBlockedTurn]
  cases now with
  | none => simp [isoText, bind, Except.bind]
  | some time =>
      cases services.synthesizer consentBlockedRequest with
      | error reason => simp [isoText, bind, Except.bind, Except.mapError]
      | ok audio => simp [isoText, bind, Except.bind, Except.mapError]

/-- A turn that is blocked before the recognition. -/
theorem createConsentBlockedTurn_returns {consent : RuntimeConsentResult}
    {now : JsDate} {capabilities : List RuntimeConsentSensitiveCapability}
    {turn : VoiceRuntimeTurn}
    (returned : createConsentBlockedTurn services input consent now
      capabilities = .ok turn) :
    turn.conversationSafety.consent = consent ∧
      turn.toolPlan.providerStatus = .blockedByPolicy ∧
      turn.toolPlan.requiresHumanApproval = false ∧
      turn.toolPlan.toolName = .safeFallback := by
  rw [createConsentBlockedTurn] at returned
  obtain ⟨timestamp, _, spoken⟩ := Guards.bind_eq_ok.mp returned
  obtain ⟨audio, _, made⟩ := Guards.bind_eq_ok.mp spoken
  rw [← Except.ok.inj made]
  exact ⟨rfl, rfl, rfl, rfl⟩

theorem processConsentedTurn_eq_ok {now : JsDate} :
    (∃ turn, processConsentedTurn platform services input now = .ok turn) ↔
      (∃ time, now = some time) ∧
        ∃ recognition,
          services.recognizer (recognitionInput input) = .ok recognition ∧
          ∃ audio, services.synthesizer
            (spokenRequest (assessTurn platform input recognition)) =
              .ok audio := by
  constructor
  · rintro ⟨turn, returned⟩
    rw [processConsentedTurn] at returned
    obtain ⟨timestamp, dated, entered⟩ := Guards.bind_eq_ok.mp returned
    obtain ⟨_, _, greeted⟩ := Guards.bind_eq_ok.mp entered
    obtain ⟨_, _, heard⟩ := Guards.bind_eq_ok.mp greeted
    obtain ⟨_, _, asked⟩ := Guards.bind_eq_ok.mp heard
    obtain ⟨recognition, recognized, assessed⟩ := Guards.bind_eq_ok.mp asked
    obtain ⟨_, _, planned⟩ := Guards.bind_eq_ok.mp assessed
    obtain ⟨audio, synthesized, _⟩ := Guards.bind_eq_ok.mp planned
    obtain ⟨time, isTime, _⟩ := isoText_eq_ok.mp dated
    exact ⟨⟨time, isTime⟩, recognition, mapError_eq_ok.mp recognized, audio,
      mapError_eq_ok.mp synthesized⟩
  · rintro ⟨⟨time, rfl⟩, recognition, recognized, audio, synthesized⟩
    obtain ⟨planned, isPlanned, final, isFinal⟩ :=
      exists_plannedState (assessTurn platform input recognition).toolPlan
    rw [processConsentedTurn]
    exact ⟨_, Guards.bind_eq_ok.mpr ⟨toISOString time, rfl,
      Guards.bind_eq_ok.mpr ⟨.greeting, rfl,
      Guards.bind_eq_ok.mpr ⟨.listening, rfl,
      Guards.bind_eq_ok.mpr ⟨.processing, rfl,
      Guards.bind_eq_ok.mpr ⟨recognition, mapError_eq_ok.mpr recognized,
      Guards.bind_eq_ok.mpr ⟨planned, isPlanned,
      Guards.bind_eq_ok.mpr ⟨audio, mapError_eq_ok.mpr synthesized,
      Guards.bind_eq_ok.mpr ⟨final, isFinal, rfl⟩⟩⟩⟩⟩⟩⟩⟩⟩

theorem processConsentedTurn_returns {now : JsDate} {turn : VoiceRuntimeTurn}
    (returned : processConsentedTurn platform services input now =
      .ok turn) :
    ∃ recognition,
      services.recognizer (recognitionInput input) = .ok recognition ∧
      turn.transcript = recognition.transcript ∧
      turn.conversationSafety =
        (assessTurn platform input recognition).conversationSafety ∧
      turn.toolPlan = (assessTurn platform input recognition).toolPlan := by
  rw [processConsentedTurn] at returned
  obtain ⟨timestamp, _, entered⟩ := Guards.bind_eq_ok.mp returned
  obtain ⟨_, _, greeted⟩ := Guards.bind_eq_ok.mp entered
  obtain ⟨_, _, heard⟩ := Guards.bind_eq_ok.mp greeted
  obtain ⟨_, _, asked⟩ := Guards.bind_eq_ok.mp heard
  obtain ⟨recognition, recognized, assessed⟩ := Guards.bind_eq_ok.mp asked
  obtain ⟨_, _, planned⟩ := Guards.bind_eq_ok.mp assessed
  obtain ⟨audio, _, spoken⟩ := Guards.bind_eq_ok.mp planned
  obtain ⟨state, _, made⟩ := Guards.bind_eq_ok.mp spoken
  rw [← Except.ok.inj made]
  exact ⟨recognition, mapError_eq_ok.mp recognized, rfl, rfl, rfl⟩

/-- A turn that comes back was blocked before the recognition, or assessed its
transcript. -/
theorem processRememberedTurn_returns {turn : VoiceRuntimeTurn}
    (returned : processRememberedTurn platform services input = .ok turn) :
    ((preRecognitionConsent input).allowed = false ∧
      turn.conversationSafety.consent = preRecognitionConsent input ∧
      turn.toolPlan.providerStatus = .blockedByPolicy ∧
      turn.toolPlan.requiresHumanApproval = false ∧
      turn.toolPlan.toolName = .safeFallback) ∨
    ((preRecognitionConsent input).allowed = true ∧
      ∃ recognition,
        services.recognizer (recognitionInput input) = .ok recognition ∧
        turn.transcript = recognition.transcript ∧
        turn.conversationSafety =
          (assessTurn platform input recognition).conversationSafety ∧
        turn.toolPlan = (assessTurn platform input recognition).toolPlan) := by
  rw [processRememberedTurn] at returned
  cases consented : (preRecognitionConsent input).allowed with
  | false =>
      simp only [consented, Bool.not_false, if_true] at returned
      exact Or.inl ⟨rfl, createConsentBlockedTurn_returns returned⟩
  | true =>
      simp only [consented, Bool.not_true, Bool.false_eq_true,
        if_false] at returned
      exact Or.inr ⟨rfl, processConsentedTurn_returns returned⟩

theorem processVoiceRuntimeTurn_returns {state final : State}
    {turn : VoiceRuntimeTurn}
    (returned : processVoiceRuntimeTurn platform services input state =
      (.ok turn, final)) :
    processRememberedTurn platform services input = .ok turn := by
  obtain ⟨_, _, _, remembered⟩ := yields_bind.mp returned
  cases stored : services.replayStore with
  | none =>
      rw [stored] at remembered
      exact (yields_attempt.mp remembered).1
  | some store =>
      rw [stored] at remembered
      exact (once_eq_ok.mp remembered).2.1

/-! ## The two assessments -/

@[simp]
theorem overriddenIntent_intent (safety : RuntimeSafetyAssessment)
    (classified : RuntimeIntentClassification) :
    (overriddenIntent safety classified).intent =
      match safety.decision with
      | .block => .promptInjection
      | .escalate => .emergency
      | .allow => classified.intent := by
  rw [overriddenIntent]
  cases safety.decision with
  | block => rfl
  | escalate => rfl
  | allow => rfl

/-- What the transcript alone decides. -/
def transcriptDecision (transcript : JsString) : SafetyDecision :=
  if someFound promptInjectionPatterns transcript then .block
  else if someFound emergencyPatterns transcript then .escalate
  else .allow

/-- The consent for some capabilities. -/
def consentFor (input : VoiceRuntimeInput)
    (capabilities : List RuntimeConsentSensitiveCapability) :
    RuntimeConsentResult :=
  evaluateRuntimeConsent input.consent input.mode input.consentPolicy
    (some capabilities)

theorem turnSafety_decision
    {capabilities : List RuntimeConsentSensitiveCapability}
    {transcript : JsString} :
    (turnSafety platform input capabilities transcript).safety.decision =
      if (consentFor input capabilities).allowed = true ∧
        (resolveRuntimeRetentionPolicy input.retentionPolicy).allowed = true
      then transcriptDecision transcript else .block := by
  rw [turnSafety, validateConversationSafety_decision,
    assessRuntimeSafety_decision]
  rfl

theorem mem_deriveToolCapabilities
    {capabilities : List RuntimeConsentSensitiveCapability}
    {intent : RuntimeIntentClassification} {toolPlan : RuntimeToolPlan}
    {capability : RuntimeConsentSensitiveCapability} :
    capability ∈ deriveToolCapabilities capabilities intent toolPlan ↔
      capability ∈ capabilities ∨ capability = .sensitiveTool ∧
        (toolPlan.requiresHumanApproval = true ∨
          intent.intent = .sensitiveRequest ∨ intent.intent = .emergency) := by
  rw [deriveToolCapabilities, List.mem_eraseDups, List.mem_append]
  simp only [capabilitiesIf, List.mem_ite_nil_right, List.mem_singleton,
    Bool.or_eq_true, beq_iff_eq, or_assoc, and_comm]

/-- The intent that the transcript alone leaves. -/
def transcriptIntent (transcript : JsString) : RuntimeIntent :=
  match transcriptDecision transcript with
  | .block => .promptInjection
  | .escalate => .emergency
  | .allow => (classifyRuntimeIntent transcript).intent

/-- The intent of an assessment, for the capabilities it asks for. -/
theorem assessedIntent (platform : RuntimePlatform) (input : VoiceRuntimeInput)
    (capabilities : List RuntimeConsentSensitiveCapability)
    (transcript : JsString) :
    (overriddenIntent
        (turnSafety platform input capabilities transcript).safety
        (classifyRuntimeIntent transcript)).intent =
      if (consentFor input capabilities).allowed = true ∧
        (resolveRuntimeRetentionPolicy input.retentionPolicy).allowed = true
      then transcriptIntent transcript else .promptInjection := by
  rw [overriddenIntent_intent, turnSafety_decision]
  split_ifs <;> rfl

theorem requested_subset (input : VoiceRuntimeInput) :
    input.requestedCapabilities.getD [] ⊆
      derivePreRecognitionCapabilities input := by
  intro capability asked
  rw [derivePreRecognitionCapabilities, List.mem_eraseDups, List.append_assoc,
    List.append_assoc]
  exact List.mem_append_left _ asked

/-- With the consent for what comes before, and with the retention, the first
plan follows the transcript alone. -/
theorem mem_toolCapabilities {transcript : JsString}
    (consented : (preRecognitionConsent input).allowed = true)
    (retained :
      (resolveRuntimeRetentionPolicy input.retentionPolicy).allowed = true)
    {capability : RuntimeConsentSensitiveCapability} :
    capability ∈ toolCapabilities platform input transcript ↔
      capability ∈ derivePreRecognitionCapabilities input ∨
        capability = .sensitiveTool ∧
          (transcriptIntent transcript).needsApproval = true := by
  have first := assessedIntent platform input
    (derivePreRecognitionCapabilities input) transcript
  rw [if_pos ⟨consented, retained⟩] at first
  rw [toolCapabilities, mem_deriveToolCapabilities, requiresHumanApproval_iff,
    first]
  have covered : (transcriptIntent transcript).needsApproval = true ∨
      transcriptIntent transcript = .sensitiveRequest ∨
      transcriptIntent transcript = .emergency ↔
        (transcriptIntent transcript).needsApproval = true := by
    generalize transcriptIntent transcript = intent
    cases intent <;> decide
  rw [covered]

/-! ## Turns of texts -/

def asciiPlatform : RuntimePlatform where
  normalize := id
  toLowerCase := lowerCase
  newDate := some .epoch

def silentAudio : SpeechSynthesisResult where
  audioReference := []
  durationMs := .integer 0
  providerStatus := .mockOnly

def silentServices : VoiceRuntimeServices (List JsString) where
  replayStore := some createInMemoryVoiceRuntimeReplayStore
  speechRecognitionProvider := none
  speechSynthesisProvider := some fun _ => .ok silentAudio

def textTurn (text : JsString) (consent : Option RuntimeConsentInput) :
    VoiceRuntimeInput where
  sessionId := js "session-1"
  tenantId := js "tenant-1"
  cardId := js "card-1"
  mode := .textChat
  text := some text
  audioReference := none
  preferredLanguage := none
  now := none
  replayKey := some (js "replay-1")
  consent := consent
  consentPolicy := none
  redactionPolicy := none
  retentionPolicy := none
  requestedCapabilities := none

def fullConsent : RuntimeConsentInput where
  automationDisclosureAccepted := some true
  consentDenied := none
  recordingConsentGranted := none
  recordingRequested := none
  transcriptRetentionAccepted := some true

/-! ## Plans that wait for a human -/

theorem both_allowed_of_approval {recognition : SpeechRecognitionResult}
    (approval : (assessTurn platform input
      recognition).toolPlan.requiresHumanApproval = true) :
    ((consentFor input (toolCapabilities platform input
        recognition.transcript)).allowed = true ∧
      (resolveRuntimeRetentionPolicy input.retentionPolicy).allowed = true) ∧
    (transcriptIntent recognition.transcript).needsApproval = true := by
  rw [assessTurn, requiresHumanApproval_iff, assessedIntent] at approval
  split_ifs at approval with allowed
  · exact ⟨allowed, approval⟩
  · cases approval

/-- A plan that waits for a human has the consent it needs, and a turn without
its consent is blocked. -/
theorem approval_hasConsent {state final : State} {turn : VoiceRuntimeTurn}
    (returned : processVoiceRuntimeTurn platform services input state =
      (.ok turn, final)) :
    (turn.toolPlan.requiresHumanApproval = true →
      turn.conversationSafety.consent.allowed = true ∧
      input.requestedCapabilities.getD [] ⊆
        toolCapabilities platform input turn.transcript ∧
      ∃ consent, input.consent = some consent ∧
        ConsentMet consent input.mode
          (input.consentPolicy.getD defaultRuntimeConsentPolicy)
          (toolCapabilities platform input turn.transcript)) ∧
    (turn.conversationSafety.consent.allowed = false →
      turn.toolPlan.providerStatus = .blockedByPolicy ∧
        turn.toolPlan.toolName = .safeFallback) := by
  rcases processRememberedTurn_returns
    (processVoiceRuntimeTurn_returns returned) with
    ⟨refused, isConsent, blocked, noApproval, fallback⟩ |
      ⟨consented, recognition, _, isTranscript, isSafety, isPlan⟩
  · refine ⟨fun approval => ?_, fun _ => ⟨blocked, fallback⟩⟩
    rw [noApproval] at approval
    cases approval
  · have isConsent : turn.conversationSafety.consent = consentFor input
        (toolCapabilities platform input recognition.transcript) := by
      rw [isSafety, assessTurn, turnSafety, validateConversationSafety_consent]
      rfl
    refine ⟨fun approval => ?_, fun refused => ?_⟩
    · rw [isPlan] at approval
      obtain ⟨⟨allowed, retained⟩, needs⟩ := both_allowed_of_approval approval
      have sensitive : RuntimeConsentSensitiveCapability.sensitiveTool ∈
          toolCapabilities platform input recognition.transcript :=
        (mem_toolCapabilities consented retained).mpr (Or.inr ⟨rfl, needs⟩)
      rw [isConsent, isTranscript]
      refine ⟨allowed, fun capability asked => (mem_toolCapabilities consented
        retained).mpr (Or.inl (requested_subset input asked)), ?_⟩
      rcases consent_allowed_iff.mp allowed with
        ⟨_, _, none⟩ | ⟨consent, given, met⟩
      · rw [none] at sensitive
        cases sensitive
      · exact ⟨consent, given, met⟩
    · have blocked : (assessTurn platform input recognition).intent.intent =
          .promptInjection := by
        rw [isConsent] at refused
        rw [assessTurn, assessedIntent, if_neg]
        rintro ⟨allowed, _⟩
        rw [refused] at allowed
        cases allowed
      rw [isPlan]
      change (planRuntimeTool
          (assessTurn platform input recognition).intent).providerStatus = _ ∧
        (planRuntimeTool
          (assessTurn platform input recognition).intent).toolName = _
      rw [planRuntimeTool, blocked]
      exact ⟨rfl, rfl⟩

theorem contractTurn_hasConsent :
    ∃ turn final, processVoiceRuntimeTurn asciiPlatform silentServices
        (textTurn (js "the contract") (some fullConsent)) [] =
          (.ok turn, final) ∧
      turn.toolPlan.requiresHumanApproval = true ∧
      turn.conversationSafety.consent.allowed = true := by
  obtain ⟨turn, final, returned, approval⟩ : ∃ turn final,
      processVoiceRuntimeTurn asciiPlatform silentServices
        (textTurn (js "the contract") (some fullConsent)) [] =
          (.ok turn, final) ∧ turn.toolPlan.requiresHumanApproval = true :=
    ⟨_, _, rfl, rfl⟩
  exact ⟨turn, final, returned, approval,
    ((approval_hasConsent returned).1 approval).1⟩

/-! ## Sensitive requests -/

/-- Fewer capabilities need no more consent. -/
theorem consentFor_allowed_of_subset
    {fewer more : List RuntimeConsentSensitiveCapability}
    (subset : fewer ⊆ more)
    (allowed : (consentFor input more).allowed = true) :
    (consentFor input fewer).allowed = true := by
  rw [consentFor, consent_allowed_iff] at allowed ⊢
  rcases allowed with ⟨absent, still, rfl⟩ | ⟨consent, given, met⟩
  · exact Or.inl ⟨absent, still, List.subset_nil.mp subset⟩
  · refine Or.inr ⟨consent, given, met.notDenied, met.disclosure,
      met.retentionNotice, ?_⟩
    rintro required (asked | recording | phone)
    · exact met.recording required (Or.inl asked)
    · exact met.recording required (Or.inr (Or.inl (subset recording)))
    · exact met.recording required (Or.inr (Or.inr phone))

/-- The plan blocks the turn or waits for a human. -/
def RuntimeToolPlan.Reviewed (toolPlan : RuntimeToolPlan) : Prop :=
  toolPlan.providerStatus = .blockedByPolicy ∨
    toolPlan.requiresHumanApproval = true

theorem planned_reviewed_iff {intent : RuntimeIntentClassification} :
    (planRuntimeTool intent).Reviewed ↔ intent.intent.Reviewed := by
  rw [RuntimeToolPlan.Reviewed, RuntimeIntent.Reviewed, blockedByPolicy_iff,
    requiresHumanApproval_iff]

/-- An assessment reviews what the transcript alone calls for. -/
theorem assessed_reviewed_iff {recognition : SpeechRecognitionResult}
    (consented : (preRecognitionConsent input).allowed = true)
    (retained :
      (resolveRuntimeRetentionPolicy input.retentionPolicy).allowed = true) :
    (assessTurn platform input recognition).toolPlan.Reviewed ↔
      (transcriptIntent recognition.transcript).Reviewed := by
  rw [assessTurn, planned_reviewed_iff, assessedIntent]
  by_cases needs :
      (transcriptIntent recognition.transcript).needsApproval = true
  · have reviewed : (transcriptIntent recognition.transcript).Reviewed :=
      Or.inr needs
    split_ifs
    · exact Iff.rfl
    · exact ⟨fun _ => reviewed, fun _ => Or.inl rfl⟩
  · rw [if_pos]
    refine ⟨consentFor_allowed_of_subset ?_ consented, retained⟩
    intro capability member
    rcases (mem_toolCapabilities consented retained).mp member with
      before | ⟨_, needed⟩
    · exact before
    · exact absurd needed needs

/-- The turn has no consent or no retention, the safety patterns find
something, or no rule takes the transcript before one that is reviewed. -/
def ReviewCalledFor (input : VoiceRuntimeInput) (transcript : JsString) :
    Prop :=
  (preRecognitionConsent input).allowed = false ∨
    (resolveRuntimeRetentionPolicy input.retentionPolicy).allowed = false ∨
    someFound promptInjectionPatterns transcript = true ∨
    someFound emergencyPatterns transcript = true ∨
    promptInjectionRule.takes transcript = true ∨
    emergencyRule.takes transcript = true ∨
    NotTakenBefore transcript

theorem transcriptIntent_reviewed_iff {transcript : JsString}
    (sensitive : sensitiveRequestRule.match.found transcript = true) :
    (transcriptIntent transcript).Reviewed ↔
      someFound promptInjectionPatterns transcript = true ∨
        someFound emergencyPatterns transcript = true ∨
        promptInjectionRule.takes transcript = true ∨
        emergencyRule.takes transcript = true ∨
        NotTakenBefore transcript := by
  rw [transcriptIntent, transcriptDecision]
  cases injected : someFound promptInjectionPatterns transcript with
  | true =>
      simp [RuntimeIntent.Reviewed]
  | false =>
      cases urgent : someFound emergencyPatterns transcript with
      | true =>
          simp [RuntimeIntent.Reviewed, RuntimeIntent.needsApproval]
      | false =>
          simpa using
            classify_sensitive (sensitiveRequest_takes_of_found sensitive)

/-- A turn with a sensitive request is reviewed exactly when something calls
for it besides the request, or no other rule takes the transcript before. -/
theorem sensitiveRequest_reviewed_iff {state final : State}
    {turn : VoiceRuntimeTurn} {recognition : SpeechRecognitionResult}
    (returned : processVoiceRuntimeTurn platform services input state =
      (.ok turn, final))
    (recognized :
      services.recognizer (recognitionInput input) = .ok recognition)
    (sensitive :
      sensitiveRequestRule.match.found recognition.transcript = true) :
    (turn.toolPlan.providerStatus = .blockedByPolicy ∨
        turn.toolPlan.requiresHumanApproval = true) ↔
      ReviewCalledFor input recognition.transcript := by
  rw [ReviewCalledFor, ← transcriptIntent_reviewed_iff sensitive]
  rcases processRememberedTurn_returns
    (processVoiceRuntimeTurn_returns returned) with
    ⟨refused, _, blocked, _⟩ | ⟨consented, other, same, _, _, isPlan⟩
  · exact ⟨fun _ => Or.inl refused, fun _ => Or.inl blocked⟩
  · obtain rfl : other = recognition :=
      Except.ok.inj (same.symm.trans recognized)
    change turn.toolPlan.Reviewed ↔ _
    rw [isPlan, consented]
    cases retained : (resolveRuntimeRetentionPolicy
        input.retentionPolicy).allowed with
    | true =>
        rw [assessed_reviewed_iff consented retained]
        simp
    | false =>
        simp only [Bool.true_eq_false, false_or, true_or, iff_true]
        rw [assessTurn, planned_reviewed_iff, assessedIntent, retained]
        simp [RuntimeIntent.Reviewed]

theorem contractTurn_reviewed :
    ∃ turn final, processVoiceRuntimeTurn asciiPlatform silentServices
        (textTurn (js "the contract") none) [] = (.ok turn, final) ∧
      (turn.toolPlan.providerStatus = .blockedByPolicy ∨
        turn.toolPlan.requiresHumanApproval = true) := by
  obtain ⟨turn, final, returned⟩ : ∃ turn final,
      processVoiceRuntimeTurn asciiPlatform silentServices
        (textTurn (js "the contract") none) [] = (.ok turn, final) :=
    ⟨_, _, rfl⟩
  have free : NotTakenBefore (js "the contract") := by
    rw [NotTakenBefore]
    decide
  exact ⟨turn, final, returned,
    (sensitiveRequest_reviewed_iff returned rfl (by decide)).mpr <|
      Or.inr <| Or.inr <| Or.inr <| Or.inr <| Or.inr <| Or.inr free⟩

/-- The rule of meetings comes before that of sensitive requests. -/
theorem bookedContract_notReviewed :
    ¬ ∀ (services : VoiceRuntimeServices (List JsString))
      (input : VoiceRuntimeInput) (state final : List JsString)
      (turn : VoiceRuntimeTurn) (recognition : SpeechRecognitionResult),
      processVoiceRuntimeTurn asciiPlatform services input state =
        (.ok turn, final) →
      services.recognizer (recognitionInput input) = .ok recognition →
      sensitiveRequestRule.match.found recognition.transcript = true →
      turn.toolPlan.providerStatus = .blockedByPolicy ∨
        turn.toolPlan.requiresHumanApproval = true := by
  intro claim
  obtain ⟨turn, final, returned, unconfigured, noApproval⟩ : ∃ turn final,
      processVoiceRuntimeTurn asciiPlatform silentServices
        (textTurn (js "book a contract") (some fullConsent)) [] =
          (.ok turn, final) ∧
      turn.toolPlan.providerStatus = .providerUnconfigured ∧
      turn.toolPlan.requiresHumanApproval = false :=
    ⟨_, _, rfl, rfl, rfl⟩
  rcases claim silentServices _ _ final turn _ returned rfl (by decide) with
    blocked | approval
  · rw [unconfigured] at blocked
    cases blocked
  · rw [noApproval] at approval
    cases approval

/-! ## Replay keys of failed turns -/

/-- The date is valid, and the providers answer what the turn asks them. -/
def TurnCompletes (platform : RuntimePlatform)
    (services : VoiceRuntimeServices State) (input : VoiceRuntimeInput) :
    Prop :=
  (∃ time, input.now.getD platform.newDate = some time) ∧
    if (preRecognitionConsent input).allowed = true then
      ∃ recognition,
        services.recognizer (recognitionInput input) = .ok recognition ∧
        ∃ audio, services.synthesizer
          (spokenRequest (assessTurn platform input recognition)) = .ok audio
    else ∃ audio, services.synthesizer consentBlockedRequest = .ok audio

theorem processRememberedTurn_eq_ok :
    (∃ turn, processRememberedTurn platform services input = .ok turn) ↔
      TurnCompletes platform services input := by
  rw [processRememberedTurn, TurnCompletes]
  cases (preRecognitionConsent input).allowed with
  | false =>
      simp only [Bool.not_false, if_true, Bool.false_eq_true, if_false]
      exact createConsentBlockedTurn_eq_ok
  | true =>
      simp only [Bool.not_true, Bool.false_eq_true, if_false, if_true]
      exact processConsentedTurn_eq_ok

variable {store : KeyStore State JsString}

/-- Without its scope a turn throws before it reads the store. -/
theorem processVoiceRuntimeTurn_noScope {failure : VoiceRuntimeFailure}
    (missing : assertRuntimeScope input = .error failure) (state : State) :
    processVoiceRuntimeTurn platform services input state =
      (.error failure, state) := by
  rw [processVoiceRuntimeTurn, bind_apply, attempt, missing]

theorem processVoiceRuntimeTurn_inScope
    (stored : services.replayStore = some store)
    (inScope : assertRuntimeScope input = .ok ()) (state : State) :
    processVoiceRuntimeTurn platform services input state =
      once store (replayKeyOf input) replayDetected
        (processRememberedTurn platform services input) state := by
  rw [processVoiceRuntimeTurn, bind_apply, attempt, inScope, stored]

/-- A turn that fails leaves the store as it was, and a turn that comes back is
refused from then on, exactly when the turn fails before its key is remembered
or does not fail. -/
theorem failedTurn_retriable_iff (lawful : store.Lawful)
    (stored : services.replayStore = some store) (state : State) :
    ((∀ failure final,
        processVoiceRuntimeTurn platform services input state =
          (.error failure, final) → final = state) ∧
      ∀ turn final,
        processVoiceRuntimeTurn platform services input state =
          (.ok turn, final) →
        ∀ (others : List JsString) (laterPlatform : RuntimePlatform)
          (laterServices : VoiceRuntimeServices State),
          laterServices.replayStore = some store →
          processVoiceRuntimeTurn laterPlatform laterServices input
              (others.foldl store.remember final) =
            (.error replayDetected, others.foldl store.remember final)) ↔
      assertRuntimeScope input ≠ .ok () ∨
        store.has state (replayKeyOf input) = true ∨
        TurnCompletes platform services input := by
  cases scope : assertRuntimeScope input with
  | error failure =>
      simp only [processVoiceRuntimeTurn_noScope scope]
      simp
  | ok =>
      have inScope : assertRuntimeScope input = .ok () := scope
      simp only [processVoiceRuntimeTurn_inScope stored inScope, ne_eq,
        not_true_eq_false, false_or]
      rw [once_keeps_iff lawful, processRememberedTurn_eq_ok]
      refine and_iff_left_of_imp fun _ turn final done others laterPlatform
        laterServices laterStored => ?_
      rw [processVoiceRuntimeTurn_inScope laterStored inScope]
      exact once_refused_after lawful done others _

theorem quietTurn_retriable :
    ∃ turn final,
      processVoiceRuntimeTurn asciiPlatform silentServices
          (textTurn (js "hello") none) [] = (.ok turn, final) ∧
        processVoiceRuntimeTurn asciiPlatform silentServices
          (textTurn (js "hello") none) final =
            (.error replayDetected, final) := by
  have consented : (preRecognitionConsent
      (textTurn (js "hello") none)).allowed = true := by
    decide
  have completes : TurnCompletes asciiPlatform silentServices
      (textTurn (js "hello") none) := by
    rw [TurnCompletes, if_pos consented]
    exact ⟨⟨.epoch, rfl⟩, _, rfl, silentAudio, rfl⟩
  obtain ⟨turn, final, returned⟩ : ∃ turn final,
      processVoiceRuntimeTurn asciiPlatform silentServices
        (textTurn (js "hello") none) [] = (.ok turn, final) :=
    ⟨_, _, rfl⟩
  exact ⟨turn, final, returned,
    ((failedTurn_retriable_iff inMemoryReplayStore_lawful rfl []).mpr
      (Or.inr (Or.inr completes))).2 turn final returned [] asciiPlatform
        silentServices rfl⟩

def deafServices : VoiceRuntimeServices (List JsString) :=
  { silentServices with
    speechRecognitionProvider := some fun _ => .error (js "timeout") }

/-- The recognition fails, the key stays, and the turn is refused when it is
tried again. -/
theorem failedRecognition_notRetriable :
    (¬ ∀ (input : VoiceRuntimeInput) (state : List JsString) failure final,
      processVoiceRuntimeTurn asciiPlatform deafServices input state =
        (.error failure, final) → final = state) ∧
    processVoiceRuntimeTurn asciiPlatform silentServices
        (textTurn (js "hello") none)
        (processVoiceRuntimeTurn asciiPlatform deafServices
          (textTurn (js "hello") none) []).2 =
      (.error replayDetected, [js "replay-1"]) := by
  refine ⟨fun claim => ?_, rfl⟩
  have kept := claim (textTurn (js "hello") none) [] _ _ rfl
  cases kept

end BidayaxExecutive.Receptionist
