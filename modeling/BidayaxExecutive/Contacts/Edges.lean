import BidayaxExecutive.Contacts.Graph
import BidayaxExecutive.Library.Runs

/-!
# The edges that a build adds

The events and scores imply edges between the visitors, sessions, executives,
events and scores they name.  The build adds each of them, keeps the first one
of every key, and never adds an edge before its two nodes.
-/

namespace BidayaxExecutive.Contacts

open BidayaxExecutive.Runtime JsString

/-! ## Edges by their ends -/

structure EdgeEnds where
  edgeType : ContactGraphEdgeType
  source : JsString
  target : JsString
  deriving DecidableEq

def ContactGraphEdge.ends (edge : ContactGraphEdge) : EdgeEnds :=
  ⟨edge.edgeType, edge.sourceStableKey, edge.targetStableKey⟩

def EdgeEnds.stableKey (ends : EdgeEnds) : JsString :=
  ends.edgeType.text ++ js ":" ++ ends.source ++ js "->" ++ ends.target

theorem edgeStableKey_eq (edge : ContactGraphEdge) :
    edgeStableKey edge = edge.ends.stableKey :=
  rfl

/-- What is in front of the identifiers at the two ends. -/
def endKeys : ContactGraphEdgeType → JsString × JsString
  | .visitorHasSession => (js "visitor:", js "session:")
  | .sessionViewedExecutive => (js "session:", js "executive:")
  | .sessionGeneratedEvent => (js "session:", js "interaction_event:")
  | .eventTargetsExecutive => (js "interaction_event:", js "executive:")
  | .sessionHasIntentScore => (js "session:", js "intent_score:")
  | .visitorEngagedExecutive => (js "visitor:", js "executive:")

/-- The edge between two identifiers. -/
def edgeBetween (edgeType : ContactGraphEdgeType)
    (ids : JsString × JsString) : EdgeEnds :=
  ⟨edgeType, (endKeys edgeType).1 ++ ids.1, (endKeys edgeType).2 ++ ids.2⟩

/-! ## The implied edges -/

section Input

variable (events : List ContactGraphInteractionEvent)
  (intentScores : List ContactGraphIntentScore)

/-- The triples of the events and of the scores. -/
def groups : List SnapshotGroup :=
  events.map (·.group) ++ intentScores.map (·.group)

/-- The identifiers that an edge of a type goes between. -/
def impliedIds : ContactGraphEdgeType → List (JsString × JsString)
  | .visitorHasSession =>
      (groups events intentScores).map fun group =>
        (group.anonymousVisitorId, group.sessionId)
  | .sessionViewedExecutive =>
      (groups events intentScores).map fun group =>
        (group.sessionId, group.executiveSlug.text)
  | .sessionGeneratedEvent =>
      events.map fun event => (event.sessionId, event.id)
  | .eventTargetsExecutive =>
      events.map fun event => (event.id, event.executiveSlug.text)
  | .sessionHasIntentScore =>
      intentScores.map fun score => (score.sessionId, score.id)
  | .visitorEngagedExecutive =>
      (groups events intentScores).map fun group =>
        (group.anonymousVisitorId, group.executiveSlug.text)

/-- The set of edges that the input implies. -/
def Implied (ends : EdgeEnds) : Prop :=
  ∃ ids ∈ impliedIds events intentScores ends.edgeType,
    ends = edgeBetween ends.edgeType ids

/-- The edges in the order in which the build adds them. -/
def addedEdges : List ContactGraphEdge :=
  (events.flatMap fun event => coreEdges event.group ++ eventEdges event) ++
    intentScores.flatMap fun score => coreEdges score.group ++ [scoreEdge score]

variable {events intentScores}

theorem implied_coreEdges {group : SnapshotGroup}
    (member : group ∈ groups events intentScores) :
    ∀ edge ∈ coreEdges group, Implied events intentScores edge.ends := by
  refine List.forall_mem_cons.mpr ⟨?_, List.forall_mem_cons.mpr ⟨?_,
    List.forall_mem_singleton.mpr ?_⟩⟩
  · exact ⟨_, List.mem_map_of_mem member, rfl⟩
  · exact ⟨_, List.mem_map_of_mem member, rfl⟩
  · exact ⟨_, List.mem_map_of_mem member, rfl⟩

theorem implied_eventEdges {event : ContactGraphInteractionEvent}
    (member : event ∈ events) :
    ∀ edge ∈ eventEdges event, Implied events intentScores edge.ends := by
  refine List.forall_mem_cons.mpr ⟨?_, List.forall_mem_singleton.mpr ?_⟩
  · exact ⟨_, List.mem_map_of_mem member, rfl⟩
  · exact ⟨_, List.mem_map_of_mem member, rfl⟩

theorem event_group_mem {event : ContactGraphInteractionEvent}
    (member : event ∈ events) : event.group ∈ groups events intentScores :=
  List.mem_append_left _ (List.mem_map_of_mem member)

theorem score_group_mem {score : ContactGraphIntentScore}
    (member : score ∈ intentScores) :
    score.group ∈ groups events intentScores :=
  List.mem_append_right _ (List.mem_map_of_mem member)

theorem implied_of_added {edge : ContactGraphEdge}
    (added : edge ∈ addedEdges events intentScores) :
    Implied events intentScores edge.ends := by
  cases List.mem_append.mp added with
  | inl ofEvent =>
      obtain ⟨event, member, isEdge⟩ := List.mem_flatMap.mp ofEvent
      cases List.mem_append.mp isEdge with
      | inl isCore =>
          exact implied_coreEdges (event_group_mem member) edge isCore
      | inr isOwn =>
          exact implied_eventEdges member edge isOwn
  | inr ofScore =>
      obtain ⟨score, member, isEdge⟩ := List.mem_flatMap.mp ofScore
      cases List.mem_append.mp isEdge with
      | inl isCore =>
          exact implied_coreEdges (score_group_mem member) edge isCore
      | inr isOwn =>
          rw [List.mem_singleton.mp isOwn]
          exact ⟨_, List.mem_map_of_mem member, rfl⟩

theorem added_of_group {group : SnapshotGroup}
    (member : group ∈ groups events intentScores) {edge : ContactGraphEdge}
    (isCore : edge ∈ coreEdges group) :
    edge ∈ addedEdges events intentScores := by
  cases List.mem_append.mp member with
  | inl ofEvent =>
      obtain ⟨event, isEvent, same⟩ := List.mem_map.mp ofEvent
      rw [← same] at isCore
      exact List.mem_append_left _ (List.mem_flatMap.mpr
        ⟨event, isEvent, List.mem_append_left _ isCore⟩)
  | inr ofScore =>
      obtain ⟨score, isScore, same⟩ := List.mem_map.mp ofScore
      rw [← same] at isCore
      exact List.mem_append_right _ (List.mem_flatMap.mpr
        ⟨score, isScore, List.mem_append_left _ isCore⟩)

theorem added_of_event {event : ContactGraphInteractionEvent}
    (member : event ∈ events) {edge : ContactGraphEdge}
    (isOwn : edge ∈ eventEdges event) :
    edge ∈ addedEdges events intentScores :=
  List.mem_append_left _ (List.mem_flatMap.mpr
    ⟨event, member, List.mem_append_right _ isOwn⟩)

/-- The build adds an edge for everything the input implies. -/
theorem exists_added_of_implied {ends : EdgeEnds}
    (implied : Implied events intentScores ends) :
    ∃ edge ∈ addedEdges events intentScores, edge.ends = ends := by
  obtain ⟨edgeType, source, target⟩ := ends
  obtain ⟨ids, member, same⟩ := implied
  rw [same]
  cases edgeType with
  | visitorHasSession =>
      obtain ⟨group, isGroup, rfl⟩ := List.mem_map.mp member
      exact ⟨_, added_of_group isGroup List.mem_cons_self, rfl⟩
  | sessionViewedExecutive =>
      obtain ⟨group, isGroup, rfl⟩ := List.mem_map.mp member
      exact ⟨_, added_of_group isGroup
        (List.mem_cons_of_mem _ List.mem_cons_self), rfl⟩
  | sessionGeneratedEvent =>
      obtain ⟨event, isEvent, rfl⟩ := List.mem_map.mp member
      exact ⟨_, added_of_event isEvent List.mem_cons_self, rfl⟩
  | eventTargetsExecutive =>
      obtain ⟨event, isEvent, rfl⟩ := List.mem_map.mp member
      exact ⟨_, added_of_event isEvent
        (List.mem_cons_of_mem _ List.mem_cons_self), rfl⟩
  | sessionHasIntentScore =>
      obtain ⟨score, isScore, rfl⟩ := List.mem_map.mp member
      exact ⟨scoreEdge score, List.mem_append_right _ (List.mem_flatMap.mpr
        ⟨score, isScore, List.mem_append_right _ List.mem_cons_self⟩), rfl⟩
  | visitorEngagedExecutive =>
      obtain ⟨group, isGroup, rfl⟩ := List.mem_map.mp member
      exact ⟨_, added_of_group isGroup
        (List.mem_cons_of_mem _ (List.mem_cons_of_mem _ List.mem_cons_self)),
        rfl⟩

end Input

/-! ## What the build keeps -/

/-- The nodes and edges stand under their keys, the edges are among those that
were added, none of these is missing without another one of its key, and the
ends of all are nodes. -/
structure Built (added : List ContactGraphEdge) (state : GraphState) : Prop where
  nodeKeys : ∀ key node, state.nodes.get key = some node →
    node.stableKey = key
  edgeKeys : ∀ key edge, state.edges.get key = some edge →
    edgeStableKey edge = key ∧ edge ∈ added
  kept : ∀ edge ∈ added, state.edges.has (edgeStableKey edge) = true
  ends : ∀ edge ∈ added,
    state.nodes.has edge.sourceStableKey = true ∧
      state.nodes.has edge.targetStableKey = true

section Steps

variable {added : List ContactGraphEdge} {state : GraphState}

theorem built_initial : Built [] .initial where
  nodeKeys _ _ found := nomatch found
  edgeKeys _ _ found := nomatch found
  kept _ member := nomatch member
  ends _ member := nomatch member

theorem nodes_addNode (node : ContactGraphNode) (state : GraphState) :
    (addNode node state).nodes =
      if state.nodes.has node.stableKey = true then state.nodes
      else state.nodes.set node.stableKey node := by
  unfold addNode
  split_ifs <;> rfl

theorem edges_addNode (node : ContactGraphNode) (state : GraphState) :
    (addNode node state).edges = state.edges := by
  unfold addNode
  split_ifs <;> rfl

theorem nodes_addEdge (edge : ContactGraphEdge) (state : GraphState) :
    (addEdge edge state).nodes = state.nodes := by
  unfold addEdge
  split_ifs <;> rfl

theorem edges_addEdge (edge : ContactGraphEdge) (state : GraphState) :
    (addEdge edge state).edges =
      if state.edges.has (edgeStableKey edge) = true then state.edges
      else state.edges.set (edgeStableKey edge) edge := by
  unfold addEdge
  split_ifs <;> rfl

theorem has_addNode_iff (node : ContactGraphNode) (state : GraphState)
    (key : JsString) :
    (addNode node state).nodes.has key = true ↔
      key = node.stableKey ∨ state.nodes.has key = true := by
  rw [nodes_addNode, JsMap.has_ite_set_iff]

theorem built_addNode (built : Built added state) (node : ContactGraphNode) :
    Built added (addNode node state) where
  nodeKeys := by
    intro key stored found
    rw [nodes_addNode] at found
    cases JsMap.get_ite_set_cases found with
    | inl new =>
        rw [new.1, new.2]
    | inr old =>
        exact built.nodeKeys key stored old
  edgeKeys := by
    rw [edges_addNode]
    exact built.edgeKeys
  kept := by
    rw [edges_addNode]
    exact built.kept
  ends := by
    intro edge member
    rw [has_addNode_iff, has_addNode_iff]
    have old := built.ends edge member
    exact ⟨.inr old.1, .inr old.2⟩

theorem built_addEdge (built : Built added state) {edge : ContactGraphEdge}
    (source : state.nodes.has edge.sourceStableKey = true)
    (target : state.nodes.has edge.targetStableKey = true) :
    Built (added ++ [edge]) (addEdge edge state) where
  nodeKeys := by
    rw [nodes_addEdge]
    exact built.nodeKeys
  edgeKeys := by
    intro key stored found
    rw [edges_addEdge] at found
    cases JsMap.get_ite_set_cases found with
    | inl new =>
        rw [new.1, new.2]
        exact ⟨rfl, List.mem_append_right _ List.mem_cons_self⟩
    | inr old =>
        have before := built.edgeKeys key stored old
        exact ⟨before.1, List.mem_append_left _ before.2⟩
  kept := by
    intro other member
    rw [edges_addEdge, JsMap.has_ite_set_iff]
    cases List.mem_append.mp member with
    | inl old =>
        exact .inr (built.kept other old)
    | inr new =>
        exact .inl (by rw [List.mem_singleton.mp new])
  ends := by
    intro other member
    rw [nodes_addEdge]
    cases List.mem_append.mp member with
    | inl old =>
        exact built.ends other old
    | inr new =>
        rw [List.mem_singleton.mp new]
        exact ⟨source, target⟩

theorem nodes_addEdges (edges : List ContactGraphEdge) (state : GraphState) :
    (addEdges edges state).nodes = state.nodes :=
  Library.Runs.foldl_keeps GraphState.nodes
    (fun state edge => nodes_addEdge edge state) edges state

theorem built_addEdges {more : List ContactGraphEdge}
    (built : Built added state)
    (ends : ∀ edge ∈ more,
      state.nodes.has edge.sourceStableKey = true ∧
        state.nodes.has edge.targetStableKey = true) :
    Built (added ++ more) (addEdges more state) := by
  unfold addEdges
  induction more generalizing added state with
  | nil =>
      rw [List.append_nil]
      exact built
  | cons edge rest inductionHypothesis =>
      obtain ⟨own, later⟩ := List.forall_mem_cons.mp ends
      have step := built_addEdge built own.1 own.2
      have run := inductionHypothesis step (by
        rw [nodes_addEdge]
        exact later)
      rw [List.append_assoc] at run
      exact run

theorem built_addCoreNodes (built : Built added state)
    (group : SnapshotGroup) : Built added (addCoreNodes group state) :=
  built_addNode (built_addNode (built_addNode built _) _) _

theorem has_addCoreNodes_iff (group : SnapshotGroup) (state : GraphState)
    (key : JsString) :
    (addCoreNodes group state).nodes.has key = true ↔
      key = executiveStableKey group.executiveSlug ∨
        key = sessionStableKey group.sessionId ∨
          key = visitorStableKey group.anonymousVisitorId ∨
            state.nodes.has key = true := by
  unfold addCoreNodes addExecutiveNode addSessionNode addVisitorNode
  rw [has_addNode_iff, has_addNode_iff, has_addNode_iff]

/-- The three nodes and the three edges between them. -/
theorem built_core (built : Built added state) (group : SnapshotGroup) :
    Built (added ++ coreEdges group)
      (addEdges (coreEdges group) (addCoreNodes group state)) := by
  apply built_addEdges (built_addCoreNodes built group)
  refine List.forall_mem_cons.mpr ⟨?_, List.forall_mem_cons.mpr ⟨?_,
    List.forall_mem_singleton.mpr ?_⟩⟩
  · rw [has_addCoreNodes_iff, has_addCoreNodes_iff]
    exact ⟨.inr (.inr (.inl rfl)), .inr (.inl rfl)⟩
  · rw [has_addCoreNodes_iff, has_addCoreNodes_iff]
    exact ⟨.inr (.inl rfl), .inl rfl⟩
  · rw [has_addCoreNodes_iff, has_addCoreNodes_iff]
    exact ⟨.inr (.inr (.inl rfl)), .inl rfl⟩

theorem has_core_iff (group : SnapshotGroup) (state : GraphState)
    (key : JsString) :
    (addEdges (coreEdges group) (addCoreNodes group state)).nodes.has
        key = true ↔
      key = executiveStableKey group.executiveSlug ∨
        key = sessionStableKey group.sessionId ∨
          key = visitorStableKey group.anonymousVisitorId ∨
            state.nodes.has key = true := by
  rw [nodes_addEdges, has_addCoreNodes_iff]

theorem built_groupedEvents (built : Built added state)
    (grouped : JsMap JsString (List ContactGraphInteractionEvent)) :
    Built added { state with groupedEvents := grouped } :=
  ⟨built.nodeKeys, built.edgeKeys, built.kept, built.ends⟩

theorem built_groupedScores (built : Built added state)
    (grouped : JsMap JsString (List ContactGraphIntentScore)) :
    Built added { state with groupedScores := grouped } :=
  ⟨built.nodeKeys, built.edgeKeys, built.kept, built.ends⟩

theorem built_addEvent (built : Built added state)
    (event : ContactGraphInteractionEvent) :
    Built (added ++ (coreEdges event.group ++ eventEdges event))
      (addEvent event state) := by
  have core := built_addNode (built_core built event.group) (eventNode event)
  have ends : ∀ edge ∈ eventEdges event,
      (addNode (eventNode event) (addEdges (coreEdges event.group)
        (addCoreNodes event.group state))).nodes.has
          edge.sourceStableKey = true ∧
      (addNode (eventNode event) (addEdges (coreEdges event.group)
        (addCoreNodes event.group state))).nodes.has
          edge.targetStableKey = true := by
    refine List.forall_mem_cons.mpr ⟨?_, List.forall_mem_singleton.mpr ?_⟩
    · rw [has_addNode_iff, has_addNode_iff, has_core_iff]
      exact ⟨.inr (.inr (.inl rfl)), .inl rfl⟩
    · rw [has_addNode_iff, has_addNode_iff, has_core_iff, has_core_iff]
      exact ⟨.inl rfl, .inr (.inl rfl)⟩
  have whole := built_addEdges core ends
  rw [List.append_assoc] at whole
  exact built_groupedEvents whole _

theorem built_addScore (built : Built added state)
    (score : ContactGraphIntentScore) :
    Built (added ++ (coreEdges score.group ++ [scoreEdge score]))
      (addScore score state) := by
  have core := built_addNode (built_core built score.group) (scoreNode score)
  have source : (addNode (scoreNode score) (addEdges (coreEdges score.group)
      (addCoreNodes score.group state))).nodes.has
        (scoreEdge score).sourceStableKey = true := by
    rw [has_addNode_iff, has_core_iff]
    exact .inr (.inr (.inl rfl))
  have target : (addNode (scoreNode score) (addEdges (coreEdges score.group)
      (addCoreNodes score.group state))).nodes.has
        (scoreEdge score).targetStableKey = true := by
    rw [has_addNode_iff]
    exact .inl rfl
  have whole := built_addEdge core source target
  rw [List.append_assoc] at whole
  exact built_groupedScores whole _

theorem built_events (built : Built added state)
    (events : List ContactGraphInteractionEvent) :
    Built (added ++ events.flatMap fun event =>
        coreEdges event.group ++ eventEdges event)
      (events.foldl (fun state event => addEvent event state) state) := by
  induction events generalizing added state with
  | nil =>
      rw [List.flatMap_nil, List.append_nil]
      exact built
  | cons event rest inductionHypothesis =>
      rw [List.flatMap_cons, List.foldl_cons,
        ← List.append_assoc added (coreEdges event.group ++ eventEdges event)]
      exact inductionHypothesis (built_addEvent built event)

theorem built_scores (built : Built added state)
    (intentScores : List ContactGraphIntentScore) :
    Built (added ++ intentScores.flatMap fun score =>
        coreEdges score.group ++ [scoreEdge score])
      (intentScores.foldl (fun state score => addScore score state) state) := by
  induction intentScores generalizing added state with
  | nil =>
      rw [List.flatMap_nil, List.append_nil]
      exact built
  | cons score rest inductionHypothesis =>
      rw [List.flatMap_cons, List.foldl_cons,
        ← List.append_assoc added (coreEdges score.group ++ [scoreEdge score])]
      exact inductionHypothesis (built_addScore built score)

end Steps

theorem built_collectGraph (events : List ContactGraphInteractionEvent)
    (intentScores : List ContactGraphIntentScore) :
    Built (addedEdges events intentScores)
      (collectGraph events intentScores) :=
  built_scores (built_events built_initial events) intentScores

end BidayaxExecutive.Contacts
