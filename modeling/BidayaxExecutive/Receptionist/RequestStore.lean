import BidayaxExecutive.Contacts.Records
import BidayaxExecutive.Library.AutocommitQueries
import BidayaxExecutive.Runtime.JsMap

/-!
# Storing a receptionist request

A request is written as an interaction with its turn, task and workflow events,
and then to the ledger.  Every insert is a query on the pool.
-/

namespace BidayaxExecutive.Receptionist

open BidayaxExecutive.Runtime JsString
open BidayaxExecutive.Contacts (ExecutiveSlug)
open BidayaxExecutive.Library.AutocommitQueries

/-! ## Requests -/

inductive ReceptionistRequestType where
  | scheduleMeeting
  | routeMessage
  | requestCallback
  | qualifyLead
  | generalInquiry
  | partnershipRequest
  | supportRequest
  deriving DecidableEq, Repr

def ReceptionistRequestType.text : ReceptionistRequestType → JsString
  | .scheduleMeeting => js "schedule_meeting"
  | .routeMessage => js "route_message"
  | .requestCallback => js "request_callback"
  | .qualifyLead => js "qualify_lead"
  | .generalInquiry => js "general_inquiry"
  | .partnershipRequest => js "partnership_request"
  | .supportRequest => js "support_request"

inductive ReceptionistLanguage where
  | english
  | spanish
  | arabic
  | french
  | mandarin
  | urdu
  | hindi
  deriving DecidableEq, Repr

def ReceptionistLanguage.text : ReceptionistLanguage → JsString
  | .english => js "English"
  | .spanish => js "Spanish"
  | .arabic => js "Arabic"
  | .french => js "French"
  | .mandarin => js "Mandarin"
  | .urdu => js "Urdu"
  | .hindi => js "Hindi"

inductive ReceptionistStatus where
  | configured
  | queued
  | sent
  | failed
  | blockedByPolicy
  | requiresHumanReview
  | emailReady
  | providerUnconfigured
  | eventStoreUnavailable
  | invalid
  deriving DecidableEq, Repr

def ReceptionistStatus.text : ReceptionistStatus → JsString
  | .configured => js "configured"
  | .queued => js "queued"
  | .sent => js "sent"
  | .failed => js "failed"
  | .blockedByPolicy => js "blocked_by_policy"
  | .requiresHumanReview => js "requires_human_review"
  | .emailReady => js "email_ready"
  | .providerUnconfigured => js "provider_unconfigured"
  | .eventStoreUnavailable => js "event_store_unavailable"
  | .invalid => js "invalid"

inductive ReceptionistPriority where
  | low
  | medium
  | high
  | urgent
  deriving DecidableEq, Repr

def ReceptionistPriority.text : ReceptionistPriority → JsString
  | .low => js "low"
  | .medium => js "medium"
  | .high => js "high"
  | .urgent => js "urgent"

inductive ReceptionistWorkflowStage where
  | receiveRequest
  | validateConsent
  | classifyLanguage
  | classifyRequestType
  | scoreUrgency
  | routeToExecutive
  | createEventLedgerRecord
  | createCallbackOrMeetingRequest
  | prepareEmailNotification
  | submitCommunicationsCommand
  | dashboardVisibility
  | auditLog
  deriving DecidableEq, Repr

def ReceptionistWorkflowStage.text : ReceptionistWorkflowStage → JsString
  | .receiveRequest => js "receive_request"
  | .validateConsent => js "validate_consent"
  | .classifyLanguage => js "classify_language"
  | .classifyRequestType => js "classify_request_type"
  | .scoreUrgency => js "score_urgency"
  | .routeToExecutive => js "route_to_executive"
  | .createEventLedgerRecord => js "create_event_ledger_record"
  | .createCallbackOrMeetingRequest =>
      js "create_callback_or_meeting_request"
  | .prepareEmailNotification => js "prepare_email_notification"
  | .submitCommunicationsCommand => js "submit_communications_command"
  | .dashboardVisibility => js "dashboard_visibility"
  | .auditLog => js "audit_log"

structure ReceptionistRequest where
  name : JsString
  company : Option JsString := none
  preferredLanguage : ReceptionistLanguage
  dialect : Option JsString := none
  requestType : ReceptionistRequestType
  message : JsString

structure ReceptionistNotificationPayload where
  «to» : JsString
  subject : JsString

/-- The status of a step is one that a provider has. -/
structure ReceptionistRunStep where
  stage : ReceptionistWorkflowStage
  status : ReceptionistStatus
  summary : JsString
  metadata : List (JsString × Json)

structure ReceptionistRun where
  runId : JsString
  urgency : ReceptionistPriority
  steps : List ReceptionistRunStep

structure StoreReceptionistRequestInput where
  anonymousVisitorId : Option JsString
  executiveSlug : ExecutiveSlug
  notification : ReceptionistNotificationPayload
  providerStatus : ReceptionistStatus
  request : ReceptionistRequest
  sessionId : Option JsString
  workflowRun : Option ReceptionistRun := none

def requestTypeToInteractionType : ReceptionistRequestType → JsString
  | .generalInquiry => js "website_inquiry"
  | .partnershipRequest => js "website_inquiry"
  | .qualifyLead => js "website_inquiry"
  | .requestCallback => js "inbound_call"
  | .routeMessage => js "email"
  | .scheduleMeeting => js "scheduling_request"
  | .supportRequest => js "website_inquiry"

def requestTypeToTaskType : ReceptionistRequestType → JsString
  | .generalInquiry => js "send_email"
  | .partnershipRequest => js "escalate_to_executive"
  | .qualifyLead => js "qualify_lead"
  | .requestCallback => js "return_call"
  | .routeMessage => js "send_email"
  | .scheduleMeeting => js "schedule_meeting"
  | .supportRequest => js "create_follow_up"

def requestTypeToPriority (requestType : ReceptionistRequestType) :
    ReceptionistPriority :=
  if requestType = .partnershipRequest ∨ requestType = .qualifyLead then
    .high
  else .medium

def previewMessage (message : JsString) : JsString :=
  (trim message).take 240

/-! ## Rows -/

/-- A row of one of the five tables.  A payload is the JSON that the query
sends as a text. -/
inductive ReceptionistRow where
  | interaction (id interactionType language : JsString)
      (dialect : Option JsString) (callerOrSender : JsString)
      (executiveSlug : ExecutiveSlug)
      (anonymousVisitorId sessionId : Option JsString)
      (summary : JsString) (priority : ReceptionistPriority)
  | conversationTurn (interactionId language text : JsString)
      (sequenceNumber : Nat)
  | task (interactionId taskType : JsString)
      (priority : ReceptionistPriority) (description : JsString)
  | workflowEvent (interactionId eventType : JsString) (payload : Json)
  | interactionEvent (eventType : JsString) (executiveSlug : ExecutiveSlug)
      (sessionId anonymousVisitorId : JsString) (metadata : Json)

/-- The table of a row, and its type of event. -/
inductive RowKind where
  | interaction
  | conversationTurn
  | task
  | workflowEvent (eventType : JsString)
  | interactionEvent (eventType : JsString)
  deriving DecidableEq, Repr

def ReceptionistRow.kind : ReceptionistRow → RowKind
  | .interaction .. => .interaction
  | .conversationTurn .. => .conversationTurn
  | .task .. => .task
  | .workflowEvent _ eventType _ => .workflowEvent eventType
  | .interactionEvent eventType .. => .interactionEvent eventType

/-! ## Queries -/

abbrev StoreAction (Value : Type) : Type :=
  PoolAction ReceptionistRow Value

/-- The identifiers that the database and `randomUUID` give. -/
structure StorePlatform where
  databaseId : List ReceptionistRow → JsString
  uuid : Nat → JsString

section Platform

variable (platform : StorePlatform)

def randomUUID : StoreAction JsString :=
  draw platform.uuid

def serverId (given : Option JsString) : StoreAction JsString :=
  match given with
  | some id => pure id
  | none => do
      let id ← randomUUID platform
      pure (js "server-" ++ id)

def writeLedgerEvent (input : StoreReceptionistRequestInput)
    (eventType : JsString) : StoreAction Unit := do
  let sessionId ← serverId platform input.sessionId
  let anonymousVisitorId ← serverId platform input.anonymousVisitorId
  query
    [.interactionEvent eventType input.executiveSlug sessionId
      anonymousVisitorId
      (.object [(js "providerStatus", .string input.providerStatus.text),
        (js "requestType", .string input.request.requestType.text),
        (js "route", .string (js "/api/receptionist/request")),
        (js "surface", .string (js "executive_receptionist_card"))])]
    fun _ => ()

def orNull (value : Option JsString) : Json :=
  (value.map Json.string).getD .null

/-- `...metadata` and the fields after it. -/
def stepPayload (input : StoreReceptionistRequestInput)
    (run : ReceptionistRun) (workflowStep : ReceptionistRunStep) : Json :=
  .object (JsMap.ofEntries (workflowStep.metadata ++
    [(js "providerStatus", .string input.providerStatus.text),
      (js "runId", .string run.runId),
      (js "status", .string workflowStep.status.text),
      (js "summary", .string workflowStep.summary)])).entries

def writeWorkflowSteps (input : StoreReceptionistRequestInput)
    (requestId : JsString) (run : ReceptionistRun) :
    List ReceptionistRunStep → StoreAction Unit
  | [] => pure ()
  | workflowStep :: rest => do
      query
        [.workflowEvent requestId workflowStep.stage.text
          (stepPayload input run workflowStep)]
        fun _ => ()
      writeWorkflowSteps input requestId run rest

/-- `if (input.workflowRun)`. -/
def writeWorkflowRun (input : StoreReceptionistRequestInput)
    (requestId : JsString) : StoreAction Unit :=
  match input.workflowRun with
  | none => pure ()
  | some run => writeWorkflowSteps input requestId run run.steps

def taskDescription (request : ReceptionistRequest) : JsString :=
  request.name ++
    (match request.company.filter (!·.isEmpty) with
      | some company => js " at " ++ company
      | none => []) ++
    js ": " ++ previewMessage request.message

def workflowEventRows (input : StoreReceptionistRequestInput)
    (requestId : JsString) : List ReceptionistRow :=
  let priority := requestTypeToPriority input.request.requestType
  [.workflowEvent requestId (js "interaction_created")
      (.object [(js "providerStatus", .string input.providerStatus.text),
        (js "requestType", .string input.request.requestType.text),
        (js "workflowRunId",
          orNull (input.workflowRun.map fun run => run.runId))]),
    .workflowEvent requestId (js "intent_classified")
      (.object [(js "company", orNull input.request.company),
        (js "intent", .string input.request.requestType.text),
        (js "language", .string input.request.preferredLanguage.text),
        (js "urgency", .string
          ((input.workflowRun.map fun run => run.urgency).getD
            priority).text)]),
    .workflowEvent requestId (js "task_created")
      (.object [(js "notificationSubject",
          .string input.notification.subject),
        (js "notificationTo", .string input.notification.«to»),
        (js "providerStatus", .string input.providerStatus.text)])]

/-- The database gives the row it inserted an identifier, so `randomUUID()` is
never needed for one. -/
def insertInteraction (input : StoreReceptionistRequestInput) :
    StoreAction JsString := fun state =>
  let requestId := platform.databaseId state.rows
  query
    [.interaction requestId
      (requestTypeToInteractionType input.request.requestType)
      input.request.preferredLanguage.text input.request.dialect
      input.request.name input.executiveSlug input.anonymousVisitorId
      input.sessionId (previewMessage input.request.message)
      (requestTypeToPriority input.request.requestType)]
    (fun _ => requestId) state

def writeRequestRows (input : StoreReceptionistRequestInput) :
    StoreAction JsString := do
  let requestId ← insertInteraction platform input
  query
    [.conversationTurn requestId input.request.preferredLanguage.text
      input.request.message 1]
    fun _ => ()
  query
    [.task requestId (requestTypeToTaskType input.request.requestType)
      (requestTypeToPriority input.request.requestType)
      (taskDescription input.request)]
    fun _ => ()
  query (workflowEventRows input requestId) fun _ => ()
  writeWorkflowRun input requestId
  pure requestId

/-- The ledger has one event more for three types of request. -/
def requestLedgerEvent : ReceptionistRequestType → Option JsString
  | .scheduleMeeting => some (js "receptionist_meeting_requested")
  | .requestCallback => some (js "receptionist_callback_requested")
  | .qualifyLead => some (js "receptionist_lead_qualified")
  | _ => none

def writeRequestLedgerEvent (input : StoreReceptionistRequestInput) :
    StoreAction Unit :=
  match requestLedgerEvent input.request.requestType with
  | none => pure ()
  | some eventType => writeLedgerEvent platform input eventType

def storeRows (input : StoreReceptionistRequestInput) :
    StoreAction JsString := do
  let requestId ← writeRequestRows platform input
  writeLedgerEvent platform input (js "receptionist_request_submitted")
  writeRequestLedgerEvent platform input
  pure requestId

structure StoreReport where
  providerStatus : ReceptionistStatus
  requestId : JsString
  deriving DecidableEq

/-- The report and the rows after it.  `configured` says that there is a
connection string, and `fails` which queries of the call fail. -/
def storeReceptionistRequest (configured : Bool) (fails : Nat → Bool)
    (input : StoreReceptionistRequestInput) (rows : List ReceptionistRow) :
    StoreReport × List ReceptionistRow :=
  if !configured then
    ({ providerStatus := .eventStoreUnavailable
       requestId := platform.uuid 0 }, rows)
  else
    match storeRows platform input { rows := rows, fails := fails } with
    | (.ok requestId, final) =>
        ({ providerStatus := input.providerStatus
           requestId := requestId }, final.rows)
    | (.error _, final) =>
        ({ providerStatus := .eventStoreUnavailable
           requestId := platform.uuid final.drawn }, final.rows)

end Platform

end BidayaxExecutive.Receptionist
