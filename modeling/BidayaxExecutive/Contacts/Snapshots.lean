import BidayaxExecutive.Contacts.Graph
import BidayaxExecutive.Library.DoubledSeparator

/-!
# Snapshots

A snapshot says what one visitor did in one session with the card of one
executive.  Its three identifiers are split off the key of its group.
-/

namespace BidayaxExecutive.Contacts

open BidayaxExecutive.Runtime JsString

/-! ## Summaries -/

def eventSummaryPhrases : InteractionEventType → JsString
  | .qrScan => js "opened the QR card route"
  | .cardView => js "viewed the card"
  | .vcardDownload => js "downloaded the vCard"
  | .callClick => js "clicked call"
  | .emailClick => js "clicked email"
  | .websiteClick => js "visited the website"
  | .shareClick => js "shared the card"
  | .qrTransferDetected => js "opened a QR transfer route"
  | .qrTransferSuccessFeedback =>
      js "received QR transfer confirmation feedback"
  | .qrTransferFailureFeedback => js "encountered QR transfer route feedback"
  | .qrTransferHapticsToggled => js "changed QR transfer haptics"
  | .qrTransferSoundToggled => js "changed QR transfer sound"
  | .qrTransferAnimationToggled => js "changed QR transfer animation"
  | .calendarView => js "opened the meeting calendar"
  | .calendarSlotSelected => js "selected a meeting slot"
  | .calendarRequestSubmitted => js "submitted a meeting request"
  | .calendarRequestFailed => js "encountered a meeting request issue"
  | .receptionistRequestStarted => js "started a receptionist request"
  | .receptionistRequestSubmitted => js "submitted a receptionist request"
  | .receptionistRequestFailed =>
      js "encountered a receptionist request issue"
  | .receptionistMeetingRequested => js "requested a meeting"
  | .receptionistCallbackRequested => js "requested a callback"
  | .receptionistLeadQualified => js "submitted a qualified lead request"

def joinPhrases : List JsString → JsString
  | [] => []
  | [phrase] => phrase
  | [first, second] => first ++ js " and " ++ second
  | phrases =>
      List.intercalate (js ", ") phrases.dropLast ++ js ", and " ++
        phrases.getLastD []

section Platform

variable (platform : ContactPlatform)

def executiveLabels (executiveSlug : JsString) : JsString :=
  if executiveSlug = js "ad-garner" then js "A.D Garner"
  else if executiveSlug = js "naimah-barnes" then js "Naimah J. Barnes"
  else if executiveSlug = js "sean-hall" then js "Sean Hall"
  else platform.unknownLabel executiveSlug

/-- `left - right <= 0`, or a difference that is `NaN`, which a sort takes for
zero. -/
def TimesLe (left right : Option Int) : Prop :=
  match left, right with
  | some leftTime, some rightTime => leftTime ≤ rightTime
  | _, _ => True

instance (left right : Option Int) : Decidable (TimesLe left right) := by
  unfold TimesLe
  cases left <;> cases right <;> infer_instance

def createEngagementSummary (events : List ContactGraphInteractionEvent)
    (executiveSlug : JsString) : JsString :=
  let executiveName := executiveLabels platform executiveSlug
  if events.isEmpty then
    js "Anonymous visitor has no recorded engagement for " ++
      executiveName ++ js "."
  else
    let orderedEvents := events.insertionSort fun left right =>
      TimesLe (platform.time left.createdAt) (platform.time right.createdAt)
    let uniquePhrases := (orderedEvents.map fun event =>
      eventSummaryPhrases event.eventType).eraseDups
    js "Anonymous visitor " ++ joinPhrases uniquePhrases ++ js " for " ++
      executiveName ++ js "."

/-! ## Activity -/

def toTimestamp (value : JsString) : Option Int :=
  if value.isEmpty then some 0 else platform.time value

def latestFirst (values : List JsString) : List JsString :=
  values.insertionSort fun left right =>
    TimesLe (toTimestamp platform right) (toTimestamp platform left)

def getLastActivityAt (events : List ContactGraphInteractionEvent)
    (score : Option ContactGraphIntentScore) : Option JsString :=
  let eventLastActivity :=
    (latestFirst platform (events.map fun event => event.createdAt)).head?
  let scoreLastActivity := score.bind fun score => score.lastEventAt
  let candidates := [eventLastActivity, scoreLastActivity].filterMap
    fun value => value.filter fun text => !text.isEmpty
  (latestFirst platform candidates).head?

/-! ## The snapshots of a build -/

/-- The order of the highest score first. -/
def HigherFirst (left right : ContactGraphIntentScore) : Prop :=
  right.score ≤ left.score

instance : DecidableRel HigherFirst := fun left right =>
  inferInstanceAs (Decidable (right.score ≤ left.score))

instance : Std.Total HigherFirst :=
  ⟨fun left right => Int.le_total right.score left.score⟩

instance : IsTrans ContactGraphIntentScore HigherFirst :=
  ⟨fun _ _ _ first second => Int.le_trans second first⟩

def highestScore (scores : List ContactGraphIntentScore) :
    Option ContactGraphIntentScore :=
  (scores.insertionSort HigherFirst).head?

def createGraphSnapshot
    (anonymousVisitorId sessionId executiveSlug : JsString)
    (events : List ContactGraphInteractionEvent)
    (scores : List ContactGraphIntentScore) : ContactGraphSnapshot where
  executiveSlug := executiveSlug
  anonymousVisitorId := anonymousVisitorId
  sessionId := sessionId
  totalEvents := events.length
  highestIntentScore := (highestScore scores).map fun score => score.score
  highestIntentTier := (highestScore scores).map fun score => score.tier
  engagementSummary := createEngagementSummary platform events executiveSlug
  lastActivityAt := getLastActivityAt platform events (highestScore scores)

/-- `key.split("::")`, with the defaults of the destructuring. -/
def splitKey (key : JsString) : JsString × JsString × JsString :=
  match Library.DoubledSeparator.split 58 key with
  | [] => ([], [], js "ad-garner")
  | [anonymousVisitorId] => (anonymousVisitorId, [], js "ad-garner")
  | [anonymousVisitorId, sessionId] =>
      (anonymousVisitorId, sessionId, js "ad-garner")
  | anonymousVisitorId :: sessionId :: executiveSlug :: _ =>
      (anonymousVisitorId, sessionId, executiveSlug)

def snapshotOfKey (state : GraphState) (key : JsString) :
    ContactGraphSnapshot :=
  createGraphSnapshot platform (splitKey key).1 (splitKey key).2.1
    (splitKey key).2.2 ((state.groupedEvents.get key).getD [])
    ((state.groupedScores.get key).getD [])

def snapshotKeys (state : GraphState) : List JsString :=
  (state.groupedEvents.keys ++ state.groupedScores.keys).dedup

structure ContactGraphBuildResult where
  nodes : List ContactGraphNode
  edges : List ContactGraphEdge
  snapshots : List ContactGraphSnapshot
  duplicateNodesSkipped : Nat
  duplicateEdgesSkipped : Nat

def buildGraphFromEvents (events : List ContactGraphInteractionEvent)
    (intentScores : List ContactGraphIntentScore) : ContactGraphBuildResult :=
  let state := collectGraph events intentScores
  { nodes := state.nodes.values.insertionSort fun left right =>
      platform.localeLe left.stableKey right.stableKey
    edges := state.edges.values.insertionSort fun left right =>
      platform.localeLe (edgeStableKey left) (edgeStableKey right)
    snapshots :=
      (sortOn id (snapshotKeys state)).map (snapshotOfKey platform state)
    duplicateNodesSkipped := state.duplicateNodesSkipped
    duplicateEdgesSkipped := state.duplicateEdgesSkipped }

end Platform

end BidayaxExecutive.Contacts
