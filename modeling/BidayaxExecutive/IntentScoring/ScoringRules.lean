import BidayaxExecutive.Contacts.Records

/-!
# Scoring rules

What an event of a type is worth, how deep the action behind it is, and the
bonuses and tiers of the intent score.
-/

namespace BidayaxExecutive.IntentScoring

open BidayaxExecutive.Runtime JsString
open BidayaxExecutive.Contacts (InteractionEventType IntentTier)

def eventTypeBaseScores : InteractionEventType → Int
  | .qrScan => 4
  | .cardView => 5
  | .websiteClick => 15
  | .shareClick => 18
  | .qrTransferDetected => 4
  | .qrTransferSuccessFeedback => 1
  | .qrTransferFailureFeedback => 0
  | .qrTransferHapticsToggled => 0
  | .qrTransferSoundToggled => 0
  | .qrTransferAnimationToggled => 0
  | .vcardDownload => 25
  | .emailClick => 35
  | .callClick => 45
  | .calendarView => 18
  | .calendarSlotSelected => 30
  | .calendarRequestSubmitted => 42
  | .calendarRequestFailed => 0
  | .receptionistRequestStarted => 20
  | .receptionistRequestSubmitted => 38
  | .receptionistRequestFailed => 0
  | .receptionistMeetingRequested => 42
  | .receptionistCallbackRequested => 44
  | .receptionistLeadQualified => 50

inductive IntentReasonCode where
  | noEvents
  | qrScanned
  | cardViewed
  | websiteVisited
  | cardShared
  | qrTransferDetected
  | qrTransferSuccessFeedback
  | qrTransferFailureFeedback
  | qrTransferHapticsToggled
  | qrTransferSoundToggled
  | qrTransferAnimationToggled
  | vcardDownloaded
  | emailClicked
  | callClicked
  | calendarViewed
  | calendarSlotSelected
  | calendarRequestSubmitted
  | calendarRequestFailed
  | receptionistRequestStarted
  | receptionistRequestSubmitted
  | receptionistRequestFailed
  | meetingRequested
  | callbackRequested
  | leadQualified
  | repeatEngagement
  | highActionDepth
  | recentActivity
  | multiActionSession
  | knownReferrer
  | deviceContextPresent
  deriving DecidableEq, Repr

def IntentReasonCode.text : IntentReasonCode → JsString
  | .noEvents => js "NO_EVENTS"
  | .qrScanned => js "QR_SCANNED"
  | .cardViewed => js "CARD_VIEWED"
  | .websiteVisited => js "WEBSITE_VISITED"
  | .cardShared => js "CARD_SHARED"
  | .qrTransferDetected => js "QR_TRANSFER_DETECTED"
  | .qrTransferSuccessFeedback => js "QR_TRANSFER_SUCCESS_FEEDBACK"
  | .qrTransferFailureFeedback => js "QR_TRANSFER_FAILURE_FEEDBACK"
  | .qrTransferHapticsToggled => js "QR_TRANSFER_HAPTICS_TOGGLED"
  | .qrTransferSoundToggled => js "QR_TRANSFER_SOUND_TOGGLED"
  | .qrTransferAnimationToggled => js "QR_TRANSFER_ANIMATION_TOGGLED"
  | .vcardDownloaded => js "VCARD_DOWNLOADED"
  | .emailClicked => js "EMAIL_CLICKED"
  | .callClicked => js "CALL_CLICKED"
  | .calendarViewed => js "CALENDAR_VIEWED"
  | .calendarSlotSelected => js "CALENDAR_SLOT_SELECTED"
  | .calendarRequestSubmitted => js "CALENDAR_REQUEST_SUBMITTED"
  | .calendarRequestFailed => js "CALENDAR_REQUEST_FAILED"
  | .receptionistRequestStarted => js "RECEPTIONIST_REQUEST_STARTED"
  | .receptionistRequestSubmitted => js "RECEPTIONIST_REQUEST_SUBMITTED"
  | .receptionistRequestFailed => js "RECEPTIONIST_REQUEST_FAILED"
  | .meetingRequested => js "MEETING_REQUESTED"
  | .callbackRequested => js "CALLBACK_REQUESTED"
  | .leadQualified => js "LEAD_QUALIFIED"
  | .repeatEngagement => js "REPEAT_ENGAGEMENT"
  | .highActionDepth => js "HIGH_ACTION_DEPTH"
  | .recentActivity => js "RECENT_ACTIVITY"
  | .multiActionSession => js "MULTI_ACTION_SESSION"
  | .knownReferrer => js "KNOWN_REFERRER"
  | .deviceContextPresent => js "DEVICE_CONTEXT_PRESENT"

def eventTypeReasonCodes : InteractionEventType → IntentReasonCode
  | .qrScan => .qrScanned
  | .cardView => .cardViewed
  | .websiteClick => .websiteVisited
  | .shareClick => .cardShared
  | .qrTransferDetected => .qrTransferDetected
  | .qrTransferSuccessFeedback => .qrTransferSuccessFeedback
  | .qrTransferFailureFeedback => .qrTransferFailureFeedback
  | .qrTransferHapticsToggled => .qrTransferHapticsToggled
  | .qrTransferSoundToggled => .qrTransferSoundToggled
  | .qrTransferAnimationToggled => .qrTransferAnimationToggled
  | .vcardDownload => .vcardDownloaded
  | .emailClick => .emailClicked
  | .callClick => .callClicked
  | .calendarView => .calendarViewed
  | .calendarSlotSelected => .calendarSlotSelected
  | .calendarRequestSubmitted => .calendarRequestSubmitted
  | .calendarRequestFailed => .calendarRequestFailed
  | .receptionistRequestStarted => .receptionistRequestStarted
  | .receptionistRequestSubmitted => .receptionistRequestSubmitted
  | .receptionistRequestFailed => .receptionistRequestFailed
  | .receptionistMeetingRequested => .meetingRequested
  | .receptionistCallbackRequested => .callbackRequested
  | .receptionistLeadQualified => .leadQualified

def actionDepthScores : InteractionEventType → Int
  | .qrScan => 0
  | .cardView => 0
  | .websiteClick => 8
  | .shareClick => 10
  | .qrTransferDetected => 0
  | .qrTransferSuccessFeedback => 0
  | .qrTransferFailureFeedback => 0
  | .qrTransferHapticsToggled => 0
  | .qrTransferSoundToggled => 0
  | .qrTransferAnimationToggled => 0
  | .vcardDownload => 12
  | .emailClick => 16
  | .callClick => 20
  | .calendarView => 8
  | .calendarSlotSelected => 14
  | .calendarRequestSubmitted => 20
  | .calendarRequestFailed => 0
  | .receptionistRequestStarted => 10
  | .receptionistRequestSubmitted => 16
  | .receptionistRequestFailed => 0
  | .receptionistMeetingRequested => 20
  | .receptionistCallbackRequested => 20
  | .receptionistLeadQualified => 24

structure ScoringRules where
  deviceContextBonus : Int
  knownReferrerBonus : Int
  maxRepeatEngagementBonus : Int
  multiActionSessionBonus : Int
  repeatEngagementStep : Int
  sameDayRecencyBonus : Int
  sevenDayRecencyBonus : Int
  thirtyDayRecencyBonus : Int
  strategicOpportunityCap : Int

def scoringRules : ScoringRules where
  deviceContextBonus := 2
  knownReferrerBonus := 4
  maxRepeatEngagementBonus := 18
  multiActionSessionBonus := 10
  repeatEngagementStep := 6
  sameDayRecencyBonus := 12
  sevenDayRecencyBonus := 6
  thirtyDayRecencyBonus := 2
  strategicOpportunityCap := 100

/-- The least score, the greatest score and the tier. -/
def intentTierRanges : List (Int × Int × IntentTier) :=
  [(0, 24, .coldSignal), (25, 49, .warmSignal), (50, 69, .qualifiedSignal),
    (70, 84, .executivePriority), (85, 100, .strategicOpportunity)]

def getIntentTier (score : Int) : IntentTier :=
  ((intentTierRanges.find? fun range =>
    range.1 ≤ score && score ≤ range.2.1).map (·.2.2)).getD
      .strategicOpportunity

theorem eventTypeBaseScores_nonneg (eventType : InteractionEventType) :
    0 ≤ eventTypeBaseScores eventType := by
  cases eventType <;> decide

theorem actionDepthScores_nonneg (eventType : InteractionEventType) :
    0 ≤ actionDepthScores eventType := by
  cases eventType <;> decide

def IntentReasonCode.all : List IntentReasonCode :=
  [.noEvents, .qrScanned, .cardViewed, .websiteVisited, .cardShared,
    .qrTransferDetected, .qrTransferSuccessFeedback,
    .qrTransferFailureFeedback, .qrTransferHapticsToggled,
    .qrTransferSoundToggled, .qrTransferAnimationToggled, .vcardDownloaded,
    .emailClicked, .callClicked, .calendarViewed, .calendarSlotSelected,
    .calendarRequestSubmitted, .calendarRequestFailed,
    .receptionistRequestStarted, .receptionistRequestSubmitted,
    .receptionistRequestFailed, .meetingRequested, .callbackRequested,
    .leadQualified, .repeatEngagement, .highActionDepth, .recentActivity,
    .multiActionSession, .knownReferrer, .deviceContextPresent]

theorem IntentReasonCode.text_injective :
    Function.Injective IntentReasonCode.text := by
  have distinct : (IntentReasonCode.all.map IntentReasonCode.text).Nodup := by
    decide +kernel
  have complete : ∀ code, code ∈ IntentReasonCode.all := by
    intro code
    cases code <;> decide
  intro left right same
  exact List.inj_on_of_nodup_map distinct (complete left) (complete right)
    same

end BidayaxExecutive.IntentScoring
