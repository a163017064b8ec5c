import BidayaxExecutive.IntentScoring.ScoringRules
import BidayaxExecutive.Contacts.Snapshots
import Mathlib.Data.Rat.Defs
import Mathlib.Algebra.Order.Field.Rat

/-!
# Scoring a group of events

The score of the events of one visitor in one session, its tier and the reasons
for it.  The line it writes to the console is left out.
-/

namespace BidayaxExecutive.IntentScoring

open BidayaxExecutive.Runtime JsString
open BidayaxExecutive.Contacts
  (InteractionEventType ExecutiveSlug IntentTier TimesLe)

/-- `time` reads a text as the milliseconds of a `Date`, which no text of no
characters is. -/
structure ScoringPlatform where
  time : JsString → Option Int
  time_nil : time [] = none

def intentScoringVersion : JsString := js "v1.0.0"

structure IntentScoringEvent where
  id : JsString
  eventType : InteractionEventType
  executiveSlug : ExecutiveSlug
  anonymousVisitorId : JsString
  sessionId : JsString
  sourceUrl : Option JsString
  referrer : Option JsString
  deviceType : Option JsString
  browser : Option JsString
  os : Option JsString
  createdAt : JsString

structure IntentScoreResult where
  anonymousVisitorId : JsString
  sessionId : JsString
  executiveSlug : ExecutiveSlug
  score : Int
  tier : IntentTier
  reasonCodes : List IntentReasonCode
  scoringVersion : JsString
  eventCount : Nat
  firstEventAt : Option JsString
  lastEventAt : Option JsString
  deriving DecidableEq

section Terms

variable (platform : ScoringPlatform)

/-- A difference with an unreadable time is `NaN`, and so is the age. -/
def getRecencyBonus (lastEventAt scoredAt : JsString) : Int :=
  match platform.time scoredAt, platform.time lastEventAt with
  | some scored, some last =>
      let ageInDays : ℚ := max 0 (((scored - last : Int) : ℚ) / 86400000)
      if ageInDays ≤ 1 then scoringRules.sameDayRecencyBonus
      else if ageInDays ≤ 7 then scoringRules.sevenDayRecencyBonus
      else if ageInDays ≤ 30 then scoringRules.thirtyDayRecencyBonus
      else 0
  | _, _ => 0

def hasCompleteDeviceContext (events : List IntentScoringEvent) : Bool :=
  events.any fun event =>
    [event.deviceType, event.browser, event.os].all fun value =>
      value.any fun text => !text.isEmpty && text != js "unknown"

def hasKnownReferrer (events : List IntentScoringEvent) : Bool :=
  events.any fun event =>
    (event.referrer.or event.sourceUrl).any fun text => !text.isEmpty

/-- `none` is `NaN`.  The source asks for the duration of three events or
more. -/
def getSessionDurationMinutes (events : List IntentScoringEvent) :
    Option ℚ :=
  let timestamps := events.map fun event => platform.time event.createdAt
  if timestamps.all Option.isSome then
    timestamps.reduceOption.min?.bind fun earliest =>
      timestamps.reduceOption.max?.map fun latest =>
        ((latest - earliest : Int) : ℚ) / 60000
  else none

def orderEvents (events : List IntentScoringEvent) :
    List IntentScoringEvent :=
  events.insertionSort fun left right =>
    TimesLe (platform.time left.createdAt) (platform.time right.createdAt)

/-! ## The terms of the score -/

def baseScore (events : List IntentScoringEvent) : Int :=
  (events.map fun event => eventTypeBaseScores event.eventType).sum

def repeatEngagementBonus (events : List IntentScoringEvent) : Int :=
  if 1 < events.length then
    min (((events.length : Int) - 1) * scoringRules.repeatEngagementStep)
      scoringRules.maxRepeatEngagementBonus
  else 0

def maxActionDepth (events : List IntentScoringEvent) : Int :=
  ((events.map fun event => actionDepthScores event.eventType).max?).getD 0

/-- The bonus for the last event, in the order of the events. -/
def recencyBonus (orderedEvents : List IntentScoringEvent)
    (scoredAt : JsString) : Int :=
  match orderedEvents.getLast? with
  | some last =>
      if last.createdAt.isEmpty then 0
      else getRecencyBonus platform last.createdAt scoredAt
  | none => 0

def sessionActionTypes (events : List IntentScoringEvent) :
    List InteractionEventType :=
  ((events.map fun event => event.eventType).filter fun eventType =>
    eventType != .cardView && eventType != .qrScan).eraseDups

def isMultiActionSession (events : List IntentScoringEvent) : Bool :=
  3 ≤ events.length && 2 ≤ (sessionActionTypes events).length &&
    (getSessionDurationMinutes platform events).any fun minutes =>
      minutes ≤ 30

def totalScore (orderedEvents : List IntentScoringEvent)
    (scoredAt : JsString) : Int :=
  baseScore orderedEvents + repeatEngagementBonus orderedEvents +
    (if 0 < maxActionDepth orderedEvents then maxActionDepth orderedEvents
      else 0) +
    (if 0 < recencyBonus platform orderedEvents scoredAt then
      recencyBonus platform orderedEvents scoredAt else 0) +
    (if isMultiActionSession platform orderedEvents then
      scoringRules.multiActionSessionBonus else 0) +
    (if hasKnownReferrer orderedEvents then scoringRules.knownReferrerBonus
      else 0) +
    (if hasCompleteDeviceContext orderedEvents then
      scoringRules.deviceContextBonus else 0)

/-- The reasons in the order of their addition to the set. -/
def addedReasons (orderedEvents : List IntentScoringEvent)
    (scoredAt : JsString) : List IntentReasonCode :=
  (orderedEvents.map fun event => eventTypeReasonCodes event.eventType) ++
    (if 1 < orderedEvents.length then [.repeatEngagement] else []) ++
    (if 0 < maxActionDepth orderedEvents then [.highActionDepth] else []) ++
    (if 0 < recencyBonus platform orderedEvents scoredAt then
      [.recentActivity] else []) ++
    (if isMultiActionSession platform orderedEvents then
      [.multiActionSession] else []) ++
    (if hasKnownReferrer orderedEvents then [.knownReferrer] else []) ++
    (if hasCompleteDeviceContext orderedEvents then [.deviceContextPresent]
      else [])

def sortReasons (reasons : List IntentReasonCode) : List IntentReasonCode :=
  reasons.eraseDups.insertionSort fun left right =>
    codeUnitLe left.text right.text = true

/-- The score is a sum of integers, which `Math.round` leaves as it is. -/
def scoreEventGroup (events : List IntentScoringEvent)
    (scoredAt : JsString) : IntentScoreResult :=
  let orderedEvents := orderEvents platform events
  let firstEvent := orderedEvents.head?
  let normalizedScore :=
    min (totalScore platform orderedEvents scoredAt)
      scoringRules.strategicOpportunityCap
  { anonymousVisitorId :=
      (firstEvent.map fun event => event.anonymousVisitorId).getD []
    sessionId := (firstEvent.map fun event => event.sessionId).getD []
    executiveSlug :=
      (firstEvent.map fun event => event.executiveSlug).getD .adGarner
    scoringVersion := intentScoringVersion
    eventCount := orderedEvents.length
    firstEventAt := firstEvent.map fun event => event.createdAt
    lastEventAt := orderedEvents.getLast?.map fun event => event.createdAt
    score := if orderedEvents.isEmpty then 0 else normalizedScore
    tier :=
      getIntentTier (if orderedEvents.isEmpty then 0 else normalizedScore)
    reasonCodes :=
      if orderedEvents.isEmpty then [.noEvents]
      else sortReasons (addedReasons platform orderedEvents scoredAt) }

end Terms

end BidayaxExecutive.IntentScoring
