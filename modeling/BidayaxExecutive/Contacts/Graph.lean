import BidayaxExecutive.Contacts.Records
import BidayaxExecutive.Runtime.Grouping

/-!
# The contact graph

`buildGraphFromEvents` walks the events and then the intent scores.  It keeps
the first node and the first edge of every key, groups events and scores by the
joined identifiers of the visitor, the session and the executive, and makes one
snapshot of every group, whose identifiers it splits off the key again.
-/

namespace BidayaxExecutive.Contacts

open BidayaxExecutive.Runtime JsString

/-- What the build takes from the platform: the order of `localeCompare`, the
time of a date text (`none` is `NaN`) and what a template prints for the label
of an unknown slug. -/
structure ContactPlatform where
  localeLe : JsString → JsString → Bool
  time : JsString → Option Int
  unknownLabel : JsString → JsString

/-! ## Groups -/

structure SnapshotGroup where
  anonymousVisitorId : JsString
  sessionId : JsString
  executiveSlug : ExecutiveSlug
  deriving DecidableEq

def groupKey (group : SnapshotGroup) : JsString :=
  List.intercalate (js "::")
    [group.anonymousVisitorId, group.sessionId, group.executiveSlug.text]

def ContactGraphInteractionEvent.group (event : ContactGraphInteractionEvent) :
    SnapshotGroup :=
  ⟨event.anonymousVisitorId, event.sessionId, event.executiveSlug⟩

def ContactGraphIntentScore.group (score : ContactGraphIntentScore) :
    SnapshotGroup :=
  ⟨score.anonymousVisitorId, score.sessionId, score.executiveSlug⟩

/-- The grouping of the intent scoring service. -/
def groupEvents (events : List ContactGraphInteractionEvent) :
    JsMap JsString (List ContactGraphInteractionEvent) :=
  groupBy (fun event => groupKey event.group) events

/-! ## Nodes and edges -/

structure GraphState where
  nodes : JsMap JsString ContactGraphNode
  edges : JsMap JsString ContactGraphEdge
  duplicateNodesSkipped : Nat
  duplicateEdgesSkipped : Nat
  groupedEvents : JsMap JsString (List ContactGraphInteractionEvent)
  groupedScores : JsMap JsString (List ContactGraphIntentScore)

def GraphState.initial : GraphState where
  nodes := JsMap.empty
  edges := JsMap.empty
  duplicateNodesSkipped := 0
  duplicateEdgesSkipped := 0
  groupedEvents := JsMap.empty
  groupedScores := JsMap.empty

def addNode (node : ContactGraphNode) (state : GraphState) : GraphState :=
  if state.nodes.has node.stableKey then
    { state with duplicateNodesSkipped := state.duplicateNodesSkipped + 1 }
  else { state with nodes := state.nodes.set node.stableKey node }

def addEdge (edge : ContactGraphEdge) (state : GraphState) : GraphState :=
  if state.edges.has (edgeStableKey edge) then
    { state with duplicateEdgesSkipped := state.duplicateEdgesSkipped + 1 }
  else { state with edges := state.edges.set (edgeStableKey edge) edge }

def addEdges (edges : List ContactGraphEdge) (state : GraphState) :
    GraphState :=
  edges.foldl (fun state edge => addEdge edge state) state

/-- The number of the next node of a type. -/
def nextIndex (nodeType : ContactGraphNodeType) (state : GraphState) : Nat :=
  (state.nodes.values.filter fun node => node.nodeType = nodeType).length + 1

def addVisitorNode (anonymousVisitorId : JsString) (state : GraphState) :
    GraphState :=
  addNode
    { nodeType := .visitor
      stableKey := visitorStableKey anonymousVisitorId
      label := js "Anonymous Visitor " ++ natText (nextIndex .visitor state)
      metadata := [(js "anonymousVisitorId", .string anonymousVisitorId)] }
    state

def addSessionNode (sessionId : JsString) (state : GraphState) : GraphState :=
  addNode
    { nodeType := .session
      stableKey := sessionStableKey sessionId
      label := js "Anonymous Session " ++ natText (nextIndex .session state)
      metadata := [(js "sessionId", .string sessionId)] }
    state

def addExecutiveNode (executiveSlug : ExecutiveSlug) (state : GraphState) :
    GraphState :=
  addNode
    { nodeType := .executive
      stableKey := executiveStableKey executiveSlug
      label := js "Executive " ++ executiveSlug.text
      metadata := [(js "executiveSlug", .string executiveSlug.text)] }
    state

def addCoreNodes (group : SnapshotGroup) (state : GraphState) : GraphState :=
  addExecutiveNode group.executiveSlug <|
    addSessionNode group.sessionId <|
      addVisitorNode group.anonymousVisitorId state

def coreEdges (group : SnapshotGroup) : List ContactGraphEdge :=
  let visitorKey := visitorStableKey group.anonymousVisitorId
  let sessionKey := sessionStableKey group.sessionId
  let executiveKey := executiveStableKey group.executiveSlug
  [{ edgeType := .visitorHasSession
     sourceStableKey := visitorKey
     targetStableKey := sessionKey
     weight := 1
     metadata := [] },
    { edgeType := .sessionViewedExecutive
      sourceStableKey := sessionKey
      targetStableKey := executiveKey
      weight := 1
      metadata := [] },
    { edgeType := .visitorEngagedExecutive
      sourceStableKey := visitorKey
      targetStableKey := executiveKey
      weight := 1
      metadata := [] }]

def eventNode (event : ContactGraphInteractionEvent) : ContactGraphNode where
  nodeType := .interactionEvent
  stableKey := interactionEventStableKey event.id
  label := js "Interaction " ++ event.eventType.text
  metadata :=
    [(js "eventId", .string event.id),
      (js "eventType", .string event.eventType.text),
      (js "sourceUrl", (event.sourceUrl.map Json.string).getD .null)]

def eventEdges (event : ContactGraphInteractionEvent) :
    List ContactGraphEdge :=
  let metadata := [(js "eventType", Json.string event.eventType.text)]
  [{ edgeType := .sessionGeneratedEvent
     sourceStableKey := sessionStableKey event.sessionId
     targetStableKey := interactionEventStableKey event.id
     weight := 1
     metadata := metadata },
    { edgeType := .eventTargetsExecutive
      sourceStableKey := interactionEventStableKey event.id
      targetStableKey := executiveStableKey event.executiveSlug
      weight := 1
      metadata := metadata }]

def scoreNode (score : ContactGraphIntentScore) : ContactGraphNode where
  nodeType := .intentScore
  stableKey := intentScoreStableKey score.id
  label := js "Intent score " ++ intText score.score
  metadata :=
    [(js "eventCount", .number (.integer score.eventCount)),
      (js "reasonCodes", .array (score.reasonCodes.map .string)),
      (js "score", .number (.integer score.score)),
      (js "scoringVersion", .string score.scoringVersion),
      (js "tier", .string score.tier.text)]

def scoreEdge (score : ContactGraphIntentScore) : ContactGraphEdge where
  edgeType := .sessionHasIntentScore
  sourceStableKey := sessionStableKey score.sessionId
  targetStableKey := intentScoreStableKey score.id
  weight := max 1 score.score
  metadata :=
    [(js "score", .number (.integer score.score)),
      (js "tier", .string score.tier.text)]

/-- The body of the loop over the events. -/
def addEvent (event : ContactGraphInteractionEvent) (state : GraphState) :
    GraphState :=
  let connected := addEdges (coreEdges event.group)
    (addCoreNodes event.group state)
  let added := addEdges (eventEdges event)
    (addNode (eventNode event) connected)
  { added with groupedEvents :=
      pushGroup (groupKey event.group) event added.groupedEvents }

/-- The body of the loop over the scores. -/
def addScore (score : ContactGraphIntentScore) (state : GraphState) :
    GraphState :=
  let connected := addEdges (coreEdges score.group)
    (addCoreNodes score.group state)
  let added := addEdge (scoreEdge score) (addNode (scoreNode score) connected)
  { added with groupedScores :=
      pushGroup (groupKey score.group) score added.groupedScores }

def collectGraph (events : List ContactGraphInteractionEvent)
    (intentScores : List ContactGraphIntentScore) : GraphState :=
  intentScores.foldl (fun state score => addScore score state) <|
    events.foldl (fun state event => addEvent event state) .initial

end BidayaxExecutive.Contacts
