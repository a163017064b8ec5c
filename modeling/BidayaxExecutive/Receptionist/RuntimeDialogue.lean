import BidayaxExecutive.Receptionist.RuntimeIntent

/-!
# Language and dialogue of a turn

The language of a turn is the preferred one, if it is supported, or the first
whose signal is in the transcript.  The answer of a turn follows its intent and
its tool plan.
-/

namespace BidayaxExecutive.Receptionist

open BidayaxExecutive.Runtime JsString
open BidayaxExecutive.Library.Backtracking
open BidayaxExecutive.Library.Backtracking.Regex

/-! ## Language -/

structure RuntimeLanguageProfile where
  language : JsString
  dialect : Option JsString
  confidence : JsNumber
  fallbackUsed : Bool
  deriving DecidableEq

def supportedRuntimeLanguages : List JsString :=
  [js "English", js "Spanish", js "Arabic", js "French", js "Mandarin",
    js "Urdu", js "Hindi"]

/-- A class `[least-greatest]`. -/
def unitsFrom (least greatest : UInt16) : Regex UInt16 :=
  one fun unit => least ≤ unit && unit ≤ greatest

/-- `.*`. -/
def restOfLine : Regex UInt16 :=
  star true (one fun unit =>
    !(unit == 10 || unit == 13 || unit == 0x2028 || unit == 0x2029))

def languageSignals : List (JsString × Regex UInt16) :=
  [(js "Spanish",
      wholeWord (js "hola") [js "gracias", js "reunion", js "llamada"]),
    (js "French", wholeWord (js "bonjour") [js "merci", js "rendez-vous"]),
    (js "Hindi", unitsFrom 0x0900 0x097F),
    (js "Mandarin", unitsFrom 0x4E00 0x9FFF),
    (js "Urdu", sequence [unitsFrom 0x0600 0x06FF, restOfLine,
      wholeWord (js "urdu") [js "pakistan"]]),
    (js "Arabic", unitsFrom 0x0600 0x06FF)]

def normalizeSupportedLanguage (toLowerCase : JsString → JsString)
    (language : Option JsString) : Option JsString :=
  supportedRuntimeLanguages.find? fun supported =>
    language.any fun given => toLowerCase supported == toLowerCase (trim given)

def detectRuntimeLanguage (toLowerCase : JsString → JsString)
    (transcript : JsString) (preferredLanguage : Option JsString) :
    RuntimeLanguageProfile :=
  match normalizeSupportedLanguage toLowerCase preferredLanguage with
  | some language =>
      { language
        dialect := none
        confidence := .fraction (92 / 100) ⟨js "0.92", by decide⟩
        fallbackUsed := false }
  | none =>
      match languageSignals.find? fun signal => signal.2.found transcript with
      | some signal =>
          { language := signal.1
            dialect := none
            confidence := .fraction (82 / 100) ⟨js "0.82", by decide⟩
            fallbackUsed := false }
      | none =>
          { language := js "English"
            dialect := none
            confidence := .fraction (55 / 100) ⟨js "0.55", by decide⟩
            fallbackUsed := true }

/-! ## Dialogue -/

structure RuntimeDialogueResponse where
  text : JsString
  shouldEndSession : Bool
  requiresHumanApproval : Bool
  deriving DecidableEq

def toolResponse : RuntimeToolName → JsString
  | .appointmentRequest =>
      js "I will prepare a meeting request and pass it to the executive workflow."
  | .callbackRequest =>
      js "I will queue a callback request with the details you provided."
  | .emergencyEscalation =>
      js ("I will route this for immediate human review without claiming " ++
        "emergency response.")
  | .humanApproval =>
      js "I will route this to a human for review before any action is taken."
  | .leadQualification =>
      js ("I will capture the opportunity details and route them for " ++
        "qualification.")
  | .messageCapture =>
      js ("I will capture your message and route it to the right executive " ++
        "contact.")
  | .safeFallback =>
      js "I will take a concise message and ask for human follow-up if needed."
  | .supportIntake =>
      js "I will capture the support request and route it for follow-up."

def createRuntimeDialogueResponse (intent : RuntimeIntentClassification)
    (language : RuntimeLanguageProfile) (toolPlan : RuntimeToolPlan) :
    RuntimeDialogueResponse :=
  if intent.intent = .promptInjection then
    { requiresHumanApproval := false
      shouldEndSession := true
      text := js ("I cannot follow instructions that try to override safety " ++
        "rules or reveal internal system details. I can still take a normal " ++
        "message for the executive team.") }
  else if intent.intent = .emergency then
    { requiresHumanApproval := true
      shouldEndSession := false
      text := js ("This sounds urgent. If there is immediate danger, contact " ++
        "local emergency services now. I will route this for human review " ++
        "without making emergency-response promises.") }
  else if toolPlan.requiresHumanApproval then
    { requiresHumanApproval := true
      shouldEndSession := false
      text := js ("I can take the details and route this for executive " ++
        "review. I cannot approve sensitive requests or make commitments.") }
  else
    let start :=
      if language.language = js "English" then js "I can help with that."
      else js ("I can help with that and will preserve the detected " ++
        "language context.")
    { requiresHumanApproval := false
      shouldEndSession := intent.intent != .unknown
      text := start ++ js " " ++ toolResponse toolPlan.toolName }

end BidayaxExecutive.Receptionist
