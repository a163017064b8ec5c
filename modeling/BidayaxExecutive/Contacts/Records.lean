import BidayaxExecutive.Runtime.Instant
import BidayaxExecutive.Runtime.JsValue

/-!
# Contact records

The events and intent scores of anonymous visitors, and the nodes, edges and
snapshots a contact graph is made of.  Visitor and session identifiers are
texts that the client chooses.
-/

namespace BidayaxExecutive.Contacts

open BidayaxExecutive.Runtime JsString

inductive InteractionEventType where
  | qrScan
  | cardView
  | vcardDownload
  | callClick
  | emailClick
  | websiteClick
  | shareClick
  | qrTransferDetected
  | qrTransferSuccessFeedback
  | qrTransferFailureFeedback
  | qrTransferHapticsToggled
  | qrTransferSoundToggled
  | qrTransferAnimationToggled
  | calendarView
  | calendarSlotSelected
  | calendarRequestSubmitted
  | calendarRequestFailed
  | receptionistRequestStarted
  | receptionistRequestSubmitted
  | receptionistRequestFailed
  | receptionistMeetingRequested
  | receptionistCallbackRequested
  | receptionistLeadQualified
  deriving DecidableEq, Repr

def InteractionEventType.text : InteractionEventType → JsString
  | .qrScan => js "qr_scan"
  | .cardView => js "card_view"
  | .vcardDownload => js "vcard_download"
  | .callClick => js "call_click"
  | .emailClick => js "email_click"
  | .websiteClick => js "website_click"
  | .shareClick => js "share_click"
  | .qrTransferDetected => js "qr_transfer_detected"
  | .qrTransferSuccessFeedback => js "qr_transfer_success_feedback"
  | .qrTransferFailureFeedback => js "qr_transfer_failure_feedback"
  | .qrTransferHapticsToggled => js "qr_transfer_haptics_toggled"
  | .qrTransferSoundToggled => js "qr_transfer_sound_toggled"
  | .qrTransferAnimationToggled => js "qr_transfer_animation_toggled"
  | .calendarView => js "calendar_view"
  | .calendarSlotSelected => js "calendar_slot_selected"
  | .calendarRequestSubmitted => js "calendar_request_submitted"
  | .calendarRequestFailed => js "calendar_request_failed"
  | .receptionistRequestStarted => js "receptionist_request_started"
  | .receptionistRequestSubmitted => js "receptionist_request_submitted"
  | .receptionistRequestFailed => js "receptionist_request_failed"
  | .receptionistMeetingRequested => js "receptionist_meeting_requested"
  | .receptionistCallbackRequested => js "receptionist_callback_requested"
  | .receptionistLeadQualified => js "receptionist_lead_qualified"

inductive ExecutiveSlug where
  | adGarner
  | naimahBarnes
  | seanHall
  deriving DecidableEq, Repr

def ExecutiveSlug.text : ExecutiveSlug → JsString
  | .adGarner => js "ad-garner"
  | .naimahBarnes => js "naimah-barnes"
  | .seanHall => js "sean-hall"

inductive IntentTier where
  | coldSignal
  | warmSignal
  | qualifiedSignal
  | executivePriority
  | strategicOpportunity
  deriving DecidableEq, Repr

def IntentTier.text : IntentTier → JsString
  | .coldSignal => js "Cold Signal"
  | .warmSignal => js "Warm Signal"
  | .qualifiedSignal => js "Qualified Signal"
  | .executivePriority => js "Executive Priority"
  | .strategicOpportunity => js "Strategic Opportunity"

structure ContactGraphInteractionEvent where
  id : JsString
  eventType : InteractionEventType
  executiveSlug : ExecutiveSlug
  anonymousVisitorId : JsString
  sessionId : JsString
  sourceUrl : Option JsString
  createdAt : JsString
  deriving DecidableEq

/-- The scores and counts are integers, as their columns are. -/
structure ContactGraphIntentScore where
  id : JsString
  anonymousVisitorId : JsString
  sessionId : JsString
  executiveSlug : ExecutiveSlug
  score : Int
  tier : IntentTier
  reasonCodes : List JsString
  scoringVersion : JsString
  eventCount : Int
  lastEventAt : Option JsString
  deriving DecidableEq

/-! ## Nodes and edges -/

inductive ContactGraphNodeType where
  | visitor
  | session
  | executive
  | interactionEvent
  | intentScore
  deriving DecidableEq, Repr

structure ContactGraphNode where
  nodeType : ContactGraphNodeType
  stableKey : JsString
  label : JsString
  metadata : List (JsString × Json)

inductive ContactGraphEdgeType where
  | visitorHasSession
  | sessionViewedExecutive
  | sessionGeneratedEvent
  | eventTargetsExecutive
  | sessionHasIntentScore
  | visitorEngagedExecutive
  deriving DecidableEq, Repr

/-- `graphEdgeTypes`. -/
def ContactGraphEdgeType.text : ContactGraphEdgeType → JsString
  | .visitorHasSession => js "visitor_has_session"
  | .sessionViewedExecutive => js "session_viewed_executive"
  | .sessionGeneratedEvent => js "session_generated_event"
  | .eventTargetsExecutive => js "event_targets_executive"
  | .sessionHasIntentScore => js "session_has_intent_score"
  | .visitorEngagedExecutive => js "visitor_engaged_executive"

structure ContactGraphEdge where
  edgeType : ContactGraphEdgeType
  sourceStableKey : JsString
  targetStableKey : JsString
  weight : Int
  metadata : List (JsString × Json)

def visitorStableKey (anonymousVisitorId : JsString) : JsString :=
  js "visitor:" ++ anonymousVisitorId

def sessionStableKey (sessionId : JsString) : JsString :=
  js "session:" ++ sessionId

def executiveStableKey (executiveSlug : ExecutiveSlug) : JsString :=
  js "executive:" ++ executiveSlug.text

def interactionEventStableKey (eventId : JsString) : JsString :=
  js "interaction_event:" ++ eventId

def intentScoreStableKey (intentScoreId : JsString) : JsString :=
  js "intent_score:" ++ intentScoreId

def edgeStableKey (edge : ContactGraphEdge) : JsString :=
  edge.edgeType.text ++ js ":" ++ edge.sourceStableKey ++ js "->" ++
    edge.targetStableKey

/-! ## Snapshots -/

/-- The slug is what a key was split into, not always one of the three. -/
structure ContactGraphSnapshot where
  executiveSlug : JsString
  anonymousVisitorId : JsString
  sessionId : JsString
  totalEvents : Nat
  highestIntentScore : Option Int
  highestIntentTier : Option IntentTier
  engagementSummary : JsString
  lastActivityAt : Option JsString
  deriving DecidableEq

end BidayaxExecutive.Contacts
