import BidayaxExecutive.Library.RememberedKeys
import BidayaxExecutive.Receptionist.RuntimeDialogue
import BidayaxExecutive.Runtime.Instant
import BidayaxExecutive.Runtime.Sha256
import BidayaxExecutive.Runtime.Utf8

/-!
# Turns of the voice runtime

A turn checks its scope and its replay key, then the consent for what it asks
for.  With the consent it recognizes the speech, assesses the transcript twice,
plans a tool, and synthesizes the answer.
-/

namespace BidayaxExecutive.Receptionist

open BidayaxExecutive.Runtime JsString
open BidayaxExecutive.Library.Transactions
open BidayaxExecutive.Library.RememberedKeys

/-! ## Conversation states -/

inductive ConversationSessionState where
  | initialized
  | greeting
  | listening
  | processing
  | waitingForTool
  | responding
  | escalating
  | completed
  | blocked
  | failed
  deriving DecidableEq, Repr

def ConversationSessionState.text : ConversationSessionState → JsString
  | initialized => js "initialized"
  | greeting => js "greeting"
  | listening => js "listening"
  | processing => js "processing"
  | waitingForTool => js "waiting_for_tool"
  | responding => js "responding"
  | escalating => js "escalating"
  | completed => js "completed"
  | blocked => js "blocked"
  | failed => js "failed"

inductive ConversationSessionEvent where
  | requestReceived
  | greetingReady
  | transcriptReady
  | toolRequired
  | toolComplete
  | responseReady
  | responseSent
  | safetyReviewRequired
  | escalate
  | block
  | complete
  | fail
  deriving DecidableEq, Repr

def transitions : ConversationSessionState → List ConversationSessionState
  | .blocked => []
  | .completed => []
  | .escalating => [.completed, .failed]
  | .failed => []
  | .greeting => [.listening, .blocked, .failed]
  | .initialized => [.greeting, .failed]
  | .listening => [.processing, .blocked, .failed]
  | .processing =>
      [.waitingForTool, .responding, .escalating, .blocked, .failed]
  | .responding => [.completed, .listening, .failed]
  | .waitingForTool => [.responding, .escalating, .blocked, .failed]

def eventTargets : ConversationSessionEvent → ConversationSessionState
  | .block => .blocked
  | .complete => .completed
  | .escalate => .escalating
  | .fail => .failed
  | .greetingReady => .listening
  | .requestReceived => .greeting
  | .responseReady => .responding
  | .responseSent => .completed
  | .safetyReviewRequired => .escalating
  | .toolComplete => .responding
  | .toolRequired => .waitingForTool
  | .transcriptReady => .processing

def canTransitionVoiceRuntime («from» «to» : ConversationSessionState) : Bool :=
  (transitions «from»).contains «to»

/-- What a turn throws: an `Error` with its message, or what a provider
rejects with. -/
inductive VoiceRuntimeFailure where
  | error (message : JsString)
  | provider (reason : JsString)
  deriving DecidableEq

def transitionVoiceRuntimeState (current : ConversationSessionState)
    (event : ConversationSessionEvent) :
    Except VoiceRuntimeFailure ConversationSessionState :=
  let next := eventTargets event
  if canTransitionVoiceRuntime current next then .ok next
  else .error (.error (js "Invalid voice runtime transition from " ++
    current.text ++ js " to " ++ next.text))

/-! ## Providers -/

structure SpeechRecognitionInput where
  audioReference : Option JsString
  text : Option JsString
  languageHint : Option JsString
  deriving DecidableEq

structure SpeechRecognitionResult where
  transcript : JsString
  language : JsString
  confidence : JsNumber
  providerStatus : VoiceRuntimeProviderStatus
  deriving DecidableEq

structure SpeechSynthesisInput where
  text : JsString
  language : JsString
  deriving DecidableEq

structure SpeechSynthesisResult where
  audioReference : JsString
  durationMs : JsNumber
  providerStatus : VoiceRuntimeProviderStatus
  deriving DecidableEq

abbrev SpeechRecognitionProvider : Type :=
  SpeechRecognitionInput → Except JsString SpeechRecognitionResult

abbrev SpeechSynthesisProvider : Type :=
  SpeechSynthesisInput → Except JsString SpeechSynthesisResult

/-- `text?.trim() || fallback`. -/
def trimmedOr (text : Option JsString) (fallback : JsString) : JsString :=
  let trimmed := trim (text.getD [])
  if trimmed.isEmpty then fallback else trimmed

def createMockSpeechRecognitionProvider : SpeechRecognitionProvider :=
  fun input => .ok
    { confidence :=
        if (trim (input.text.getD [])).isEmpty then
          .fraction (3 / 10) ⟨js "0.3", by decide⟩
        else .fraction (98 / 100) ⟨js "0.98", by decide⟩
      language := input.languageHint.getD (js "English")
      providerStatus := .mockOnly
      transcript := trimmedOr input.text
        (js "I need help reaching the executive team.") }

def createMockSpeechSynthesisProvider : SpeechSynthesisProvider :=
  fun input =>
    let digest :=
      (sha256Hex (utf8 (input.language ++ js ":" ++ input.text))).take 16
    .ok
      { audioReference := js "mock-audio://" ++ digest
        durationMs := .integer (max 600 (min 8000 (input.text.length * 45)))
        providerStatus := .mockOnly }

/-! ## Inputs and turns -/

/-- `none` is an invalid date. -/
abbrev JsDate : Type :=
  Option TimeValue

structure VoiceRuntimeInput where
  sessionId : JsString
  tenantId : JsString
  cardId : JsString
  mode : VoiceRuntimeMode
  text : Option JsString
  audioReference : Option JsString
  preferredLanguage : Option JsString
  now : Option JsDate
  replayKey : Option JsString
  consent : Option RuntimeConsentInput
  consentPolicy : Option RuntimeConsentPolicy
  redactionPolicy : Option RuntimeRedactionPolicy
  retentionPolicy : Option RuntimeRetentionPolicy
  requestedCapabilities : Option (List RuntimeConsentSensitiveCapability)

structure VoiceRuntimeSession where
  sessionId : JsString
  tenantId : JsString
  cardId : JsString
  mode : VoiceRuntimeMode
  state : ConversationSessionState
  providerStatus : VoiceRuntimeProviderStatus
  language : JsString
  turnCount : Nat
  startedAt : JsString
  updatedAt : JsString
  deriving DecidableEq

structure VoiceRuntimeAuditEvent where
  eventId : JsString
  eventType : JsString
  tenantId : JsString
  cardId : JsString
  sessionId : JsString
  occurredAt : JsString
  metadata : List (JsString × Json)

structure VoiceRuntimeTurn where
  session : VoiceRuntimeSession
  transcript : JsString
  language : RuntimeLanguageProfile
  intent : RuntimeIntentClassification
  conversationSafety : ConversationSafetyValidationResult
  safety : RuntimeSafetyAssessment
  toolPlan : RuntimeToolPlan
  response : RuntimeDialogueResponse
  synthesizedAudio : SpeechSynthesisResult
  auditEvents : List VoiceRuntimeAuditEvent

/-- What a turn uses of the platform: `String.prototype.normalize` with the
form `NFKC`, `String.prototype.toLowerCase`, and the date of now. -/
structure RuntimePlatform where
  normalize : JsString → JsString
  toLowerCase : JsString → JsString
  newDate : JsDate

/-- The store and the providers that come with an input; an absent provider is
the mock. -/
structure VoiceRuntimeServices (State : Type) where
  replayStore : Option (KeyStore State JsString)
  speechRecognitionProvider : Option SpeechRecognitionProvider
  speechSynthesisProvider : Option SpeechSynthesisProvider

namespace VoiceRuntimeServices

variable {State : Type}

def recognizer (services : VoiceRuntimeServices State) :
    SpeechRecognitionProvider :=
  services.speechRecognitionProvider.getD createMockSpeechRecognitionProvider

def synthesizer (services : VoiceRuntimeServices State) :
    SpeechSynthesisProvider :=
  services.speechSynthesisProvider.getD createMockSpeechSynthesisProvider

end VoiceRuntimeServices

/-! ## Scope and replay -/

def assertRuntimeScope (input : VoiceRuntimeInput) :
    Except VoiceRuntimeFailure Unit :=
  if (trim input.tenantId).isEmpty || (trim input.cardId).isEmpty ||
      (trim input.sessionId).isEmpty then
    .error (.error (js
      "Voice runtime requires tenantId, cardId, and sessionId."))
  else .ok ()

/-- An absent text is `null` in the payload. -/
def textOrNull (text : Option JsString) : Json :=
  text.elim .null .string

def createVoiceRuntimeReplayKey (input : VoiceRuntimeInput) : JsString :=
  sha256Hex <| utf8 <| jsonStringify <| .object
    [(js "audioReference", textOrNull input.audioReference),
      (js "cardId", .string input.cardId),
      (js "mode", .string input.mode.text),
      (js "sessionId", .string input.sessionId),
      (js "tenantId", .string input.tenantId),
      (js "text", textOrNull input.text)]

def replayDetected : VoiceRuntimeFailure :=
  .error (js "Voice runtime replay detected.")

/-- The keys of the set, in the order they were added. -/
def createInMemoryVoiceRuntimeReplayStore :
    KeyStore (List JsString) JsString where
  has := fun values key => values.contains key
  remember := fun values key =>
    if values.contains key then values else values ++ [key]

theorem inMemoryReplayStore_lawful :
    createInMemoryVoiceRuntimeReplayStore.Lawful where
  has_remember_self := by
    intro values key
    simp only [createInMemoryVoiceRuntimeReplayStore]
    by_cases there : values.contains key = true
    · rw [if_pos there]
      exact there
    · rw [if_neg there]
      simp
  has_remember_of_has := by
    intro values key other there
    simp only [createInMemoryVoiceRuntimeReplayStore] at there ⊢
    split_ifs with otherThere
    · exact there
    · simp only [List.contains_iff_mem] at there ⊢
      exact List.mem_append_left _ there

/-! ## Capabilities -/

/-- An optional text that is given and not empty. -/
def filled (text : Option JsString) : Option JsString :=
  text.filter fun given => !given.isEmpty

/-- The capabilities, where they are asked for. -/
def capabilitiesIf (asked : Bool)
    (capabilities : List RuntimeConsentSensitiveCapability) :
    List RuntimeConsentSensitiveCapability :=
  if asked then capabilities else []

def recordingAsked (consent : Option RuntimeConsentInput) : Bool :=
  consent.any fun given => isSet given.recordingRequested

def derivePreRecognitionCapabilities (input : VoiceRuntimeInput) :
    List RuntimeConsentSensitiveCapability :=
  (input.requestedCapabilities.getD [] ++
    capabilitiesIf input.mode.isLive [.liveVoice, .transcription] ++
    capabilitiesIf (filled input.audioReference).isSome [.transcription] ++
    capabilitiesIf (recordingAsked input.consent) [.recording]).eraseDups

def deriveToolCapabilities
    (baseCapabilities : List RuntimeConsentSensitiveCapability)
    (intent : RuntimeIntentClassification) (toolPlan : RuntimeToolPlan) :
    List RuntimeConsentSensitiveCapability :=
  let asked := toolPlan.requiresHumanApproval ||
    intent.intent == RuntimeIntent.sensitiveRequest ||
    intent.intent == RuntimeIntent.emergency
  (baseCapabilities ++ capabilitiesIf asked [.sensitiveTool]).eraseDups

/-! ## Steps of a turn -/

def createAuditEvent (eventType : JsString) (metadata : List (JsString × Json))
    (occurredAt : JsString) (session : VoiceRuntimeSession) :
    VoiceRuntimeAuditEvent where
  cardId := session.cardId
  eventId := eventType ++ js ":" ++ session.sessionId ++ js ":" ++ occurredAt
  eventType := eventType
  metadata := metadata
  occurredAt := occurredAt
  sessionId := session.sessionId
  tenantId := session.tenantId

/-- `date.toISOString()`. -/
def isoText : JsDate → Except VoiceRuntimeFailure JsString
  | some time => .ok (toISOString time)
  | none => .error (.error (js "Invalid time value"))

def count (length : Nat) : Json :=
  .number (.integer length)

def consentBlockedRequest : SpeechSynthesisInput where
  language := js "English"
  text := js ("Consent is required before I can continue this voice or " ++
    "recording-related interaction.")

def createConsentBlockedTurn {State : Type}
    (services : VoiceRuntimeServices State) (input : VoiceRuntimeInput)
    (consentResult : RuntimeConsentResult) (now : JsDate)
    (requestedCapabilities : List RuntimeConsentSensitiveCapability) :
    Except VoiceRuntimeFailure VoiceRuntimeTurn := do
  let timestamp ← isoText now
  let session : VoiceRuntimeSession :=
    { cardId := input.cardId
      language := js "English"
      mode := input.mode
      providerStatus := .blockedByPolicy
      sessionId := input.sessionId
      startedAt := timestamp
      state := .blocked
      tenantId := input.tenantId
      turnCount := 1
      updatedAt := timestamp }
  let synthesizedAudio ←
    (services.synthesizer consentBlockedRequest).mapError .provider
  let safety : RuntimeSafetyAssessment :=
    { decision := .block
      reasonCodes := consentResult.reasonCodes ++ [js "CONSENT_POLICY_BLOCK"]
      sanitizedTranscriptPreview := [] }
  let reasonCodes :=
    consentResult.reasonCodes ++ [js "PRE_RECOGNITION_CONSENT_BLOCK"]
  .ok
    { auditEvents :=
        [createAuditEvent (js "voice_runtime.turn.blocked_before_recognition")
            [(js "capabilityCount", count requestedCapabilities.length),
              (js "consentStatus", .string consentResult.status.text),
              (js "reasonCount", count consentResult.reasonCodes.length)]
            timestamp session,
          createAuditEvent (js "voice_runtime.safety.assessed")
            [(js "consentStatus", .string consentResult.status.text),
              (js "decision", .string (js "block")),
              (js "reasonCount", count reasonCodes.length),
              (js "redactionApplied", .string (js "NO_TRANSCRIPT_CAPTURED")),
              (js "retentionDays", count 0),
              (js "transcriptPreview", .string [])]
            timestamp session]
      conversationSafety :=
        { consent := consentResult
          decision := .block
          reasonCodes
          redaction :=
            { applied := [js "NO_TRANSCRIPT_CAPTURED"]
              policy := defaultRuntimeRedactionPolicy
              redactedText := [] }
          retention :=
            { allowed := true
              policy := defaultRuntimeRetentionPolicy
              reasonCodes := [js "RETENTION_POLICY_NOT_REACHED"] }
          safety }
      intent :=
        { confidence := .fraction (99 / 100) ⟨js "0.99", by decide⟩
          intent := .promptInjection
          reasonCodes := safety.reasonCodes }
      language :=
        { confidence := .integer 1
          dialect := none
          fallbackUsed := true
          language := js "English" }
      response :=
        { requiresHumanApproval := false
          shouldEndSession := true
          text := consentBlockedRequest.text }
      safety
      session
      synthesizedAudio
      toolPlan :=
        { providerStatus := .blockedByPolicy
          reasonCodes := [js "CONSENT_POLICY_BLOCK"]
          requiresHumanApproval := false
          toolName := .safeFallback }
      transcript := [] }

def recognitionInput (input : VoiceRuntimeInput) : SpeechRecognitionInput where
  audioReference := filled input.audioReference
  languageHint := filled input.preferredLanguage
  text := filled input.text

/-- The intent that a safety decision leaves. -/
def overriddenIntent (safety : RuntimeSafetyAssessment)
    (classifiedIntent : RuntimeIntentClassification) :
    RuntimeIntentClassification :=
  match safety.decision with
  | .block =>
      { confidence := .fraction (99 / 100) ⟨js "0.99", by decide⟩
        intent := .promptInjection
        reasonCodes := safety.reasonCodes }
  | .escalate =>
      { confidence := .fraction (99 / 100) ⟨js "0.99", by decide⟩
        intent := .emergency
        reasonCodes := safety.reasonCodes }
  | .allow => classifiedIntent

def turnSafety (platform : RuntimePlatform) (input : VoiceRuntimeInput)
    (requestedCapabilities : List RuntimeConsentSensitiveCapability)
    (transcript : JsString) : ConversationSafetyValidationResult :=
  validateConversationSafety platform.normalize
    { consent := input.consent
      consentPolicy := input.consentPolicy
      mode := input.mode
      redactionPolicy := input.redactionPolicy
      retentionPolicy := input.retentionPolicy
      requestedCapabilities := some requestedCapabilities
      transcript }

structure AssessedTurn where
  conversationSafety : ConversationSafetyValidationResult
  intent : RuntimeIntentClassification
  language : RuntimeLanguageProfile
  response : RuntimeDialogueResponse
  toolPlan : RuntimeToolPlan

/-- The capabilities with those that the first plan needs. -/
def toolCapabilities (platform : RuntimePlatform) (input : VoiceRuntimeInput)
    (transcript : JsString) : List RuntimeConsentSensitiveCapability :=
  let preRecognitionCapabilities := derivePreRecognitionCapabilities input
  let initialSafety :=
    turnSafety platform input preRecognitionCapabilities transcript
  let initialIntent :=
    overriddenIntent initialSafety.safety (classifyRuntimeIntent transcript)
  deriveToolCapabilities preRecognitionCapabilities initialIntent
    (planRuntimeTool initialIntent)

def assessTurn (platform : RuntimePlatform) (input : VoiceRuntimeInput)
    (recognition : SpeechRecognitionResult) : AssessedTurn :=
  let language := detectRuntimeLanguage platform.toLowerCase
    recognition.transcript
    (some (input.preferredLanguage.getD recognition.language))
  let conversationSafety := turnSafety platform input
    (toolCapabilities platform input recognition.transcript)
    recognition.transcript
  let intent := overriddenIntent conversationSafety.safety
    (classifyRuntimeIntent recognition.transcript)
  let toolPlan := planRuntimeTool intent
  { conversationSafety
    intent
    language
    response := createRuntimeDialogueResponse intent language toolPlan
    toolPlan }

def spokenRequest (assessed : AssessedTurn) : SpeechSynthesisInput where
  language := assessed.language.language
  text := assessed.response.text

/-- The state after the plan. -/
def plannedState (toolPlan : RuntimeToolPlan)
    (state : ConversationSessionState) :
    Except VoiceRuntimeFailure ConversationSessionState :=
  if toolPlan.providerStatus = .blockedByPolicy then
    transitionVoiceRuntimeState state .block
  else if toolPlan.requiresHumanApproval then
    transitionVoiceRuntimeState state .safetyReviewRequired
  else do
    let waiting ← transitionVoiceRuntimeState state .toolRequired
    transitionVoiceRuntimeState waiting .toolComplete

/-- The state once the answer is synthesized. -/
def sentState (state : ConversationSessionState) :
    Except VoiceRuntimeFailure ConversationSessionState :=
  if state = .responding then transitionVoiceRuntimeState state .responseSent
  else .ok state

def recognizedAuditEvents (input : VoiceRuntimeInput)
    (recognition : SpeechRecognitionResult) (assessed : AssessedTurn)
    (timestamp : JsString) (session : VoiceRuntimeSession) :
    List VoiceRuntimeAuditEvent :=
  let conversationSafety := assessed.conversationSafety
  let safety := conversationSafety.safety
  [createAuditEvent (js "voice_runtime.turn.received")
      [(js "mode", .string input.mode.text),
        (js "providerStatus", .string recognition.providerStatus.text)]
      timestamp session,
    createAuditEvent (js "voice_runtime.safety.assessed")
      [(js "consentStatus", .string conversationSafety.consent.status.text),
        (js "decision", .string safety.decision.text),
        (js "reasonCount", count conversationSafety.reasonCodes.length),
        (js "redactionApplied",
          .string ((js ",").intercalate conversationSafety.redaction.applied)),
        (js "retentionDays", .number
          conversationSafety.retention.policy.transcriptPreviewRetentionDays),
        (js "transcriptPreview", .string safety.sanitizedTranscriptPreview)]
      timestamp session,
    createAuditEvent (js "voice_runtime.intent.classified")
      [(js "confidence", .number assessed.intent.confidence),
        (js "intent", .string assessed.intent.intent.text)]
      timestamp session,
    createAuditEvent (js "voice_runtime.tool.planned")
      [(js "providerStatus", .string assessed.toolPlan.providerStatus.text),
        (js "requiresHumanApproval",
          .boolean assessed.toolPlan.requiresHumanApproval),
        (js "toolName", .string assessed.toolPlan.toolName.text)]
      timestamp session]

/-- A turn whose consent allows the recognition. -/
def processConsentedTurn {State : Type} (platform : RuntimePlatform)
    (services : VoiceRuntimeServices State) (input : VoiceRuntimeInput)
    (now : JsDate) : Except VoiceRuntimeFailure VoiceRuntimeTurn := do
  let timestamp ← isoText now
  let received ← transitionVoiceRuntimeState .initialized .requestReceived
  let greeted ← transitionVoiceRuntimeState received .greetingReady
  let heard ← transitionVoiceRuntimeState greeted .transcriptReady
  let recognition ←
    (services.recognizer (recognitionInput input)).mapError .provider
  let assessed := assessTurn platform input recognition
  let planned ← plannedState assessed.toolPlan heard
  let synthesizedAudio ←
    (services.synthesizer (spokenRequest assessed)).mapError .provider
  let state ← sentState planned
  let session : VoiceRuntimeSession :=
    { cardId := input.cardId
      language := assessed.language.language
      mode := input.mode
      providerStatus := assessed.toolPlan.providerStatus
      sessionId := input.sessionId
      startedAt := timestamp
      state
      tenantId := input.tenantId
      turnCount := 1
      updatedAt := timestamp }
  .ok
    { auditEvents :=
        recognizedAuditEvents input recognition assessed timestamp session
      conversationSafety := assessed.conversationSafety
      intent := assessed.intent
      language := assessed.language
      response := assessed.response
      safety := assessed.conversationSafety.safety
      session
      synthesizedAudio
      toolPlan := assessed.toolPlan
      transcript := recognition.transcript }

/-! ## The turn -/

def preRecognitionConsent (input : VoiceRuntimeInput) : RuntimeConsentResult :=
  evaluateRuntimeConsent input.consent input.mode input.consentPolicy
    (some (derivePreRecognitionCapabilities input))

/-- What a turn does once its replay key is remembered. -/
def processRememberedTurn {State : Type} (platform : RuntimePlatform)
    (services : VoiceRuntimeServices State) (input : VoiceRuntimeInput) :
    Except VoiceRuntimeFailure VoiceRuntimeTurn :=
  let now := input.now.getD platform.newDate
  let consent := preRecognitionConsent input
  if !consent.allowed then
    createConsentBlockedTurn services input consent now
      (derivePreRecognitionCapabilities input)
  else processConsentedTurn platform services input now

def replayKeyOf (input : VoiceRuntimeInput) : JsString :=
  input.replayKey.getD (createVoiceRuntimeReplayKey input)

def processVoiceRuntimeTurn {State : Type} (platform : RuntimePlatform)
    (services : VoiceRuntimeServices State) (input : VoiceRuntimeInput) :
    Transaction State VoiceRuntimeFailure VoiceRuntimeTurn := do
  attempt (assertRuntimeScope input)
  match services.replayStore with
  | none => attempt (processRememberedTurn platform services input)
  | some store =>
      once store (replayKeyOf input) replayDetected
        (processRememberedTurn platform services input)

end BidayaxExecutive.Receptionist
