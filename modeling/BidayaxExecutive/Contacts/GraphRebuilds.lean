import BidayaxExecutive.Contacts.EdgeExactness
import BidayaxExecutive.Contacts.GraphViews

/-!
# Rebuilds of the contact graph

A rebuild that completes leaves the nodes, edges and snapshots of its graph
under their keys, whatever rebuilds ran before or stopped on their way.  Those
leave a trace only under keys that the last one does not have.
-/

namespace BidayaxExecutive.Contacts

open BidayaxExecutive.Library.Schedules
open BidayaxExecutive.Library.Scripts Script
open BidayaxExecutive.Library.Transactions
open BidayaxExecutive.Library.Upserts
open BidayaxExecutive.Runtime JsString

/-! ## What a graph writes -/

namespace ContactGraphBuildResult

variable (graph : ContactGraphBuildResult)

def nodeWrites : List (JsString × ContactGraphNode) :=
  graph.nodes.map fun node => (node.stableKey, node)

def edgeWrites : List (EdgeEnds × Int × List (JsString × Json)) :=
  graph.edges.map fun edge => (edge.ends, edge.weight, edge.metadata)

def snapshotWrites :
    List ((JsString × JsString × JsString) × ContactGraphSnapshot) :=
  graph.snapshots.map fun snapshot => (snapshot.key, snapshot)

end ContactGraphBuildResult

/-- What the tables hold, whatever the identifiers of the nodes. -/
structure GraphView where
  nodes : JsString → Option ContactGraphNode
  edges : EdgeEnds → Option (Int × List (JsString × Json))
  snapshots : JsString × JsString × JsString → Option ContactGraphSnapshot

def StoredGraph.view (store : StoredGraph) : GraphView where
  nodes := nodeView store.nodes
  edges := edgeView store.nodes store.edges
  snapshots := snapshotView store.snapshots

/-- The graph over what is there. -/
def ContactGraphBuildResult.writeTo (graph : ContactGraphBuildResult)
    (view : GraphView) : GraphView where
  nodes := overlay graph.nodeWrites view.nodes
  edges := overlay graph.edgeWrites view.edges
  snapshots := overlay graph.snapshotWrites view.snapshots

/-- The graph has every key of the other one. -/
structure Covers (graph other : ContactGraphBuildResult) : Prop where
  nodes : other.nodeWrites.map Prod.fst ⊆ graph.nodeWrites.map Prod.fst
  edges : other.edgeWrites.map Prod.fst ⊆ graph.edgeWrites.map Prod.fst
  snapshots :
    other.snapshotWrites.map Prod.fst ⊆ graph.snapshotWrites.map Prod.fst

/-! ## Steps of rebuilds -/

/-- What steps of rebuilds of graphs with some keys lead to. -/
structure Leads (nodeKeys : Set JsString) (edgeKeys : Set EdgeEnds)
    (snapshotKeys : Set (JsString × JsString × JsString))
    (before after : StoredGraph) : Prop where
  known : before.Consistent
  consistent : after.Consistent
  ids : ∀ stableKey id, idAt before.nodes stableKey = some id →
    idAt after.nodes stableKey = some id
  nodes : ∀ key ∉ nodeKeys, after.view.nodes key = before.view.nodes key
  edges : ∀ key ∉ edgeKeys, after.view.edges key = before.view.edges key
  snapshots : ∀ key ∉ snapshotKeys,
    after.view.snapshots key = before.view.snapshots key

section Leading

variable {nodeKeys : Set JsString} {edgeKeys : Set EdgeEnds}
  {snapshotKeys : Set (JsString × JsString × JsString)}
  {store before middle after : StoredGraph}

theorem Leads.refl (consistent : store.Consistent) :
    Leads nodeKeys edgeKeys snapshotKeys store store :=
  ⟨consistent, consistent, fun _ _ found => found, fun _ _ => rfl,
    fun _ _ => rfl, fun _ _ => rfl⟩

theorem Leads.trans (before middle after : StoredGraph)
    (first : Leads nodeKeys edgeKeys snapshotKeys before middle)
    (second : Leads nodeKeys edgeKeys snapshotKeys middle after) :
    Leads nodeKeys edgeKeys snapshotKeys before after where
  known := first.known
  consistent := second.consistent
  ids stableKey id found := second.ids stableKey id (first.ids _ _ found)
  nodes key other := (second.nodes key other).trans (first.nodes key other)
  edges key other := (second.edges key other).trans (first.edges key other)
  snapshots key other :=
    (second.snapshots key other).trans (first.snapshots key other)

theorem Leads.reached (before after : StoredGraph)
    (leads : Leads nodeKeys edgeKeys snapshotKeys before after) :
    Leads nodeKeys edgeKeys snapshotKeys after after :=
  .refl leads.consistent

variable {columns : GraphColumns} {node : ContactGraphNode} {id : Uuid}
  {edge : ContactGraphEdge} {sourceNodeId targetNodeId : Uuid}
  {snapshot : ContactGraphSnapshot}

theorem view_withNode (consistent : store.Consistent)
    (assigned : Assigned store node.stableKey id) :
    StoredGraph.view { store with nodes := withNode node id store.nodes } =
      { store.view with
        nodes := Function.update store.view.nodes node.stableKey
          (some node) } := by
  change GraphView.mk (nodeView (withNode node id store.nodes))
    (edgeView (withNode node id store.nodes) store.edges) _ = _
  rw [nodeView_withNode, funext (edgeView_withNode consistent assigned)]
  rfl

theorem leads_withNode (consistent : store.Consistent)
    (assigned : Assigned store node.stableKey id)
    (isKey : node.stableKey ∈ nodeKeys) :
    Leads nodeKeys edgeKeys snapshotKeys store
      { store with nodes := withNode node id store.nodes } where
  known := consistent
  consistent := consistent_withNode consistent assigned
  ids := by
    intro stableKey known found
    change idAt (withNode node id store.nodes) stableKey = some known
    rw [idAt_withNode_of_assigned assigned]
    by_cases isNode : stableKey = node.stableKey
    · rw [isNode, Function.update_self]
      rw [isNode] at found
      rcases assigned with same | ⟨absent, _⟩
      · rw [← same, found]
      · rw [absent] at found
        exact nomatch found
    · rw [Function.update_of_ne isNode, found]
  nodes := by
    intro key other
    change nodeView (withNode node id store.nodes) key = _
    rw [nodeView_withNode]
    refine Function.update_of_ne ?_ _ _
    rintro rfl
    exact other isKey
  edges key _ := edgeView_withNode consistent assigned key
  snapshots _ _ := rfl

theorem leads_withEdge (consistent : store.Consistent)
    (source : idAt store.nodes edge.sourceStableKey = some sourceNodeId)
    (target : idAt store.nodes edge.targetStableKey = some targetNodeId)
    (isKey : edge.ends ∈ edgeKeys) :
    Leads nodeKeys edgeKeys snapshotKeys store
      { store with
        edges := withEdge sourceNodeId targetNodeId edge store.edges } where
  known := consistent
  consistent := consistent_withEdge consistent
    (isNode_iff.mpr (mem_ids_of_idAt source))
    (isNode_iff.mpr (mem_ids_of_idAt target))
  ids _ _ found := found
  nodes _ _ := rfl
  edges := by
    intro key other
    change edgeView store.nodes
      (withEdge sourceNodeId targetNodeId edge store.edges) key = _
    rw [edgeView_withEdge consistent.ids source target]
    refine Function.update_of_ne ?_ _ _
    rintro rfl
    exact other isKey
  snapshots _ _ := rfl

theorem leads_withSnapshot (consistent : store.Consistent)
    (isKey : snapshot.key ∈ snapshotKeys) :
    Leads nodeKeys edgeKeys snapshotKeys store
      { store with snapshots := withSnapshot snapshot store.snapshots } where
  known := consistent
  consistent := consistent_withSnapshot consistent snapshot
  ids _ _ found := found
  nodes _ _ := rfl
  edges _ _ := rfl
  snapshots := by
    intro key other
    change snapshotView (withSnapshot snapshot store.snapshots) key = _
    rw [snapshotView_withSnapshot]
    refine Function.update_of_ne ?_ _ _
    rintro rfl
    exact other isKey

end Leading

/-- Every identifier that a rebuild holds is that of the node. -/
def Accurate (nodeIdsByStableKey : JsMap JsString Uuid)
    (store : StoredGraph) : Prop :=
  ∀ stableKey id, nodeIdsByStableKey.get stableKey = some id →
    idAt store.nodes stableKey = some id

theorem accurate_empty (store : StoredGraph) : Accurate .empty store :=
  fun _ _ found => nomatch found

theorem Accurate.set {nodeIdsByStableKey : JsMap JsString Uuid}
    {store : StoredGraph} {stableKey : JsString} {id : Uuid}
    (accurate : Accurate nodeIdsByStableKey store)
    (found : idAt store.nodes stableKey = some id) :
    Accurate (nodeIdsByStableKey.set stableKey id) store := by
  intro other otherId stored
  rw [JsMap.get_set] at stored
  split_ifs at stored with same
  · rw [same, found, stored]
  · exact accurate other otherId stored

theorem Accurate.later {nodeIdsByStableKey : JsMap JsString Uuid}
    {nodeKeys : Set JsString} {edgeKeys : Set EdgeEnds}
    {snapshotKeys : Set (JsString × JsString × JsString)}
    {before after : StoredGraph}
    (accurate : Accurate nodeIdsByStableKey before)
    (leads : Leads nodeKeys edgeKeys snapshotKeys before after) :
    Accurate nodeIdsByStableKey after :=
  fun stableKey id stored => leads.ids stableKey id (accurate _ _ stored)

/-! ## Rebuilds in any interleaving -/

section Proceeding

variable {nodeKeys : Set JsString} {edgeKeys : Set EdgeEnds}
  {snapshotKeys : Set (JsString × JsString × JsString)}
  {columns : GraphColumns} {known : StoredGraph}

theorem proceeds_upsertNode {nodeIdsByStableKey : JsMap JsString Uuid}
    {node : ContactGraphNode} {genRandomUuid : Uuid}
    (accurate : Accurate nodeIdsByStableKey known)
    (isKey : node.stableKey ∈ nodeKeys) :
    Proceeds (Leads nodeKeys edgeKeys snapshotKeys)
      (fun now id => Accurate (nodeIdsByStableKey.set node.stableKey id) now)
      known (perform (upsertNode columns genRandomUuid node)) := by
  have leads : ∀ state, Leads nodeKeys edgeKeys snapshotKeys known state →
      Leads nodeKeys edgeKeys snapshotKeys state
        (upsertNode columns genRandomUuid node state).2 := by
    intro state later
    rcases upsertNode_cases columns genRandomUuid node state with
      failed | ⟨id, assigned, wrote⟩
    · rw [failed]
      exact .refl later.consistent
    · rw [wrote]
      exact leads_withNode later.consistent assigned isKey
  refine proceeds_perform leads ?_
  intro state value later answer
  have now := (accurate.later later).later (leads state later)
  rcases upsertNode_cases columns genRandomUuid node state with
    failed | ⟨id, assigned, wrote⟩
  · rw [failed] at answer
    exact nomatch answer
  · rw [wrote] at answer now ⊢
    rw [← Except.ok.inj answer]
    refine now.set ?_
    change idAt (withNode node id state.nodes) node.stableKey = some id
    rw [idAt_withNode_of_assigned assigned, Function.update_self]

theorem proceeds_saveNodes {nodes : List ContactGraphNode}
    {nodeIdsByStableKey : JsMap JsString Uuid}
    {genRandomUuid : ContactGraphNode → Uuid}
    (accurate : Accurate nodeIdsByStableKey known)
    (isKey : ∀ node ∈ nodes, node.stableKey ∈ nodeKeys) :
    Proceeds (Leads nodeKeys edgeKeys snapshotKeys)
      (fun now ids => Accurate ids now) known
      (saveNodes columns genRandomUuid nodes nodeIdsByStableKey) := by
  induction nodes generalizing nodeIdsByStableKey known with
  | nil =>
      exact accurate
  | cons node rest inductionHypothesis =>
      rcases List.forall_mem_cons.mp isKey with ⟨own, others⟩
      exact proceeds_bind (proceeds_upsertNode accurate own)
        fun _ _ holds => inductionHypothesis holds others

theorem proceeds_saveEdges {edges : List ContactGraphEdge}
    {nodeIdsByStableKey : JsMap JsString Uuid}
    (accurate : Accurate nodeIdsByStableKey known)
    (isKey : ∀ edge ∈ edges, edge.ends ∈ edgeKeys) :
    Proceeds (Leads nodeKeys edgeKeys snapshotKeys) (fun _ _ => True) known
      (saveEdges columns nodeIdsByStableKey edges) := by
  induction edges generalizing known with
  | nil =>
      exact trivial
  | cons edge rest inductionHypothesis =>
      rcases List.forall_mem_cons.mp isKey with ⟨own, others⟩
      unfold saveEdges
      split
      · rename_i sourceNodeId targetNodeId source target
        have leads : ∀ state, Leads nodeKeys edgeKeys snapshotKeys known state →
            Leads nodeKeys edgeKeys snapshotKeys state
              (upsertEdge columns sourceNodeId targetNodeId edge state).2 := by
          intro state later
          have now := accurate.later later
          rcases upsertEdge_cases columns sourceNodeId targetNodeId edge
            state with failed | ⟨_, _, wrote⟩
          · rw [failed]
            exact .refl later.consistent
          · rw [wrote]
            exact leads_withEdge later.consistent (now _ _ source)
              (now _ _ target) own
        have performs : Proceeds (Leads nodeKeys edgeKeys snapshotKeys)
            (fun now _ => Accurate nodeIdsByStableKey now) known
            (perform (upsertEdge columns sourceNodeId targetNodeId edge)) :=
          proceeds_perform leads fun state _ later _ =>
            (accurate.later later).later (leads state later)
        exact proceeds_bind performs
          fun _ _ holds => inductionHypothesis holds others
      · exact inductionHypothesis accurate others

theorem proceeds_saveSnapshots {snapshots : List ContactGraphSnapshot}
    (isKey : ∀ snapshot ∈ snapshots, snapshot.key ∈ snapshotKeys) :
    Proceeds (Leads nodeKeys edgeKeys snapshotKeys) (fun _ _ => True) known
      (saveSnapshots columns snapshots) := by
  induction snapshots generalizing known with
  | nil =>
      exact trivial
  | cons snapshot rest inductionHypothesis =>
      rcases List.forall_mem_cons.mp isKey with ⟨own, others⟩
      have performs : Proceeds (Leads nodeKeys edgeKeys snapshotKeys)
          (fun _ _ => True) known
          (perform (upsertSnapshot columns snapshot)) := by
        refine proceeds_perform ?_ fun _ _ _ _ => trivial
        intro state later
        rcases upsertSnapshot_cases columns snapshot state with
          failed | wrote
        · rw [failed]
          exact .refl later.consistent
        · rw [wrote]
          exact leads_withSnapshot later.consistent own
      exact proceeds_bind performs fun _ _ _ => inductionHypothesis others

theorem proceeds_rebuildContactGraph {platform : ContactPlatform}
    {input : GraphInput}
    (nodes : ∀ node ∈ (input.graph platform).nodes,
      node.stableKey ∈ nodeKeys)
    (edges : ∀ edge ∈ (input.graph platform).edges, edge.ends ∈ edgeKeys)
    (snapshots : ∀ snapshot ∈ (input.graph platform).snapshots,
      snapshot.key ∈ snapshotKeys) :
    Proceeds (Leads nodeKeys edgeKeys snapshotKeys) (fun _ _ => True) known
      (rebuildContactGraph columns platform input) :=
  proceeds_bind (proceeds_saveNodes (accurate_empty known) nodes)
    fun _ _ accurate =>
      proceeds_bind (proceeds_saveEdges accurate edges)
        fun _ _ _ => proceeds_saveSnapshots snapshots

end Proceeding

/-! ## A rebuild that completes -/

section Completing

variable {columns : GraphColumns} {store final : StoredGraph}

theorem view_saveNodes {nodes : List ContactGraphNode}
    {genRandomUuid : ContactGraphNode → Uuid}
    {nodeIdsByStableKey result : JsMap JsString Uuid}
    (consistent : store.Consistent)
    (yields : Yields (saveNodes columns genRandomUuid nodes
      nodeIdsByStableKey).run store result final) :
    final.view =
        { store.view with
          nodes := overlay (nodes.map fun node => (node.stableKey, node))
            store.view.nodes } ∧
      ∀ key, nodeIdsByStableKey.has key = true ∨
        key ∈ nodes.map (·.stableKey) → result.has key = true := by
  induction nodes generalizing nodeIdsByStableKey store with
  | nil =>
      rcases yields_run_pure.mp yields with ⟨rfl, rfl⟩
      refine ⟨rfl, fun key known => ?_⟩
      rcases known with known | member
      · exact known
      · exact absurd member List.not_mem_nil
  | cons node rest inductionHypothesis =>
      rcases yields_run_bind.mp yields with ⟨id, middle, wrote, later⟩
      rcases upsertNode_cases columns (genRandomUuid node) node store with
        failed | ⟨assignedId, assigned, completed⟩
      · exact nomatch (congrArg Prod.fst failed).symm.trans
          (congrArg Prod.fst wrote)
      · rcases Prod.mk.inj (completed.symm.trans wrote) with ⟨same, rfl⟩
        cases same
        have ended := inductionHypothesis
          (consistent_withNode consistent assigned) later
        refine ⟨ended.1.trans ?_, ?_⟩
        · rw [view_withNode consistent assigned]
          rfl
        · intro key known
          refine ended.2 key ?_
          rw [JsMap.has_set, Bool.or_eq_true, decide_eq_true_iff]
          rw [List.map_cons, List.mem_cons] at known
          rcases known with known | isNode | member
          · exact .inl (.inr known)
          · exact .inl (.inl isNode)
          · exact .inr member

theorem view_saveEdges {edges : List ContactGraphEdge}
    {nodeIdsByStableKey : JsMap JsString Uuid}
    (consistent : store.Consistent)
    (accurate : Accurate nodeIdsByStableKey store)
    (ends : ∀ edge ∈ edges,
      nodeIdsByStableKey.has edge.sourceStableKey = true ∧
        nodeIdsByStableKey.has edge.targetStableKey = true)
    (yields : Yields (saveEdges columns nodeIdsByStableKey edges).run store
      () final) :
    final.view =
      { store.view with
        edges := overlay
          (edges.map fun edge => (edge.ends, edge.weight, edge.metadata))
          store.view.edges } := by
  induction edges generalizing store with
  | nil =>
      rcases yields_run_pure.mp yields with ⟨_, rfl⟩
      rfl
  | cons edge rest inductionHypothesis =>
      rcases List.forall_mem_cons.mp ends with ⟨own, others⟩
      rcases Option.isSome_iff_exists.mp own.1 with ⟨sourceNodeId, source⟩
      rcases Option.isSome_iff_exists.mp own.2 with ⟨targetNodeId, target⟩
      unfold saveEdges at yields
      simp only [source, target] at yields
      rcases yields_run_bind.mp yields with ⟨_, middle, wrote, later⟩
      rcases upsertEdge_cases columns sourceNodeId targetNodeId edge store
        with failed | ⟨isSource, isTarget, completed⟩
      · exact nomatch (congrArg Prod.fst failed).symm.trans
          (congrArg Prod.fst wrote)
      · rcases Prod.mk.inj (completed.symm.trans wrote) with ⟨_, rfl⟩
        have ended := inductionHypothesis
          (consistent_withEdge consistent isSource isTarget) accurate others
          later
        refine ended.trans ?_
        unfold StoredGraph.view
        rw [edgeView_withEdge consistent.ids (accurate _ _ source)
          (accurate _ _ target)]
        rfl

theorem view_saveSnapshots {snapshots : List ContactGraphSnapshot}
    (yields : Yields (saveSnapshots columns snapshots).run store () final) :
    final.view =
      { store.view with
        snapshots := overlay
          (snapshots.map fun snapshot => (snapshot.key, snapshot))
          store.view.snapshots } := by
  induction snapshots generalizing store with
  | nil =>
      rcases yields_run_pure.mp yields with ⟨_, rfl⟩
      rfl
  | cons snapshot rest inductionHypothesis =>
      rcases yields_run_bind.mp yields with ⟨_, middle, wrote, later⟩
      rcases upsertSnapshot_cases columns snapshot store with
        failed | completed
      · exact nomatch (congrArg Prod.fst failed).symm.trans
          (congrArg Prod.fst wrote)
      · rcases Prod.mk.inj (completed.symm.trans wrote) with ⟨_, rfl⟩
        refine (inductionHypothesis later).trans ?_
        unfold StoredGraph.view
        rw [snapshotView_withSnapshot]
        rfl

end Completing

section Graphs

variable (platform : ContactPlatform) (input : GraphInput)

/-- The keys of the nodes are those of the map. -/
theorem nodeWrites_nodup :
    ((input.graph platform).nodeWrites.map Prod.fst).Nodup := by
  have built := built_collectGraph input.events input.intentScores
  let nodes := (collectGraph input.events input.intentScores).nodes
  have ofMap : nodes.values.map ContactGraphNode.stableKey = nodes.keys := by
    unfold JsMap.values JsMap.keys
    rw [List.map_map]
    refine List.map_congr_left fun entry member => ?_
    exact built.nodeKeys entry.1 entry.2 (JsMap.get_eq_some.mpr member)
  have sameKeys := (List.perm_insertionSort
    (fun left right : ContactGraphNode =>
      platform.localeLe left.stableKey right.stableKey)
    nodes.values).map ContactGraphNode.stableKey
  rw [ofMap] at sameKeys
  rw [ContactGraphBuildResult.nodeWrites, List.map_map]
  exact sameKeys.nodup_iff.mpr nodes.distinct

/-- The key of an edge is made of its ends. -/
theorem edgeWrites_nodup :
    ((input.graph platform).edgeWrites.map Prod.fst).Nodup := by
  have keys : ((input.graph platform).edges.map edgeStableKey).Nodup :=
    edge_keys_nodup
  rw [ContactGraphBuildResult.edgeWrites, List.map_map]
  refine List.Nodup.of_map EdgeEnds.stableKey ?_
  rw [List.map_map]
  exact keys

variable {platform input}

theorem known_of_edge {edge : ContactGraphEdge}
    (member : edge ∈ (input.graph platform).edges) :
    edge.sourceStableKey ∈ (input.graph platform).nodes.map (·.stableKey) ∧
      edge.targetStableKey ∈
        (input.graph platform).nodes.map (·.stableKey) := by
  have ends := (built_collectGraph input.events input.intentScores).ends edge
    (added_of_mem_edges member)
  exact ⟨mem_nodeKeys_of_has ends.1, mem_nodeKeys_of_has ends.2⟩

variable {columns : GraphColumns} {store middle final : StoredGraph}

theorem view_of_yields (consistent : middle.Consistent)
    (completed : Yields (rebuildContactGraph columns platform input).run
      middle () final) :
    final.view = (input.graph platform).writeTo middle.view := by
  rcases yields_run_bind.mp completed with
    ⟨nodeIdsByStableKey, withNodes, savedNodes, rest⟩
  rcases yields_run_bind.mp rest with ⟨_, withEdges, savedEdges, last⟩
  have saved := view_saveNodes consistent savedNodes
  have proceeds : Proceeds (Leads Set.univ Set.univ Set.univ)
      (fun now ids => Accurate ids now) middle
      (saveNodes columns input.genRandomUuid (input.graph platform).nodes
        .empty) :=
    proceeds_saveNodes (accurate_empty middle) fun _ _ => Set.mem_univ _
  have led := proceeds.yields Leads.trans Leads.reached (.refl consistent)
    savedNodes
  have connected := view_saveEdges led.1.consistent led.2
    (fun edge member =>
      ⟨saved.2 _ (.inr (known_of_edge member).1),
        saved.2 _ (.inr (known_of_edge member).2)⟩) savedEdges
  rw [view_saveSnapshots last, connected, saved.1]
  rfl

/-- A graph over the traces of graphs whose keys it has. -/
theorem writeTo_of_leads {nodeKeys : Set JsString} {edgeKeys : Set EdgeEnds}
    {snapshotKeys : Set (JsString × JsString × JsString)}
    {graph : ContactGraphBuildResult}
    (leads : Leads nodeKeys edgeKeys snapshotKeys store middle)
    (nodes : ∀ key ∈ nodeKeys, key ∈ graph.nodeWrites.map Prod.fst)
    (edges : ∀ key ∈ edgeKeys, key ∈ graph.edgeWrites.map Prod.fst)
    (snapshots : ∀ key ∈ snapshotKeys,
      key ∈ graph.snapshotWrites.map Prod.fst) :
    graph.writeTo middle.view = graph.writeTo store.view := by
  unfold ContactGraphBuildResult.writeTo
  rw [overlay_congr fun key absent =>
      leads.nodes key fun isKey => absent (nodes key isKey),
    overlay_congr fun key absent =>
      leads.edges key fun isKey => absent (edges key isKey),
    overlay_congr fun key absent =>
      leads.snapshots key fun isKey => absent (snapshots key isKey)]

/-- After any steps of any rebuilds, one that completes alone stores its whole
graph, with every edge and under the identifiers that nodes had before; where
it has the keys of all the others, nothing else of them is left. -/
theorem rebuilds_converge {inputs : List GraphInput} {picks : List Nat}
    {scripts : List (GraphScript Unit)} (consistent : store.Consistent)
    (picked : pickSteps picks
      (inputs.map (rebuildContactGraph columns platform)) store =
        some (scripts, middle))
    (completed : Yields (rebuildContactGraph columns platform input).run
      middle () final) :
    final.Consistent ∧
      (∀ stableKey id, idAt store.nodes stableKey = some id →
        idAt final.nodes stableKey = some id) ∧
      (∀ node ∈ (input.graph platform).nodes,
        final.view.nodes node.stableKey = some node) ∧
      (∀ edge ∈ (input.graph platform).edges,
        final.view.edges edge.ends = some (edge.weight, edge.metadata)) ∧
      final.view = (input.graph platform).writeTo middle.view ∧
      ((∀ earlier ∈ inputs,
          Covers (input.graph platform) (earlier.graph platform)) →
        final.view = (input.graph platform).writeTo store.view) := by
  let Written {Key Value : Type}
      (writes : ContactGraphBuildResult → List (Key × Value)) : Set Key :=
    { key | ∃ earlier ∈ inputs,
      key ∈ (writes (earlier.graph platform)).map Prod.fst }
  have proceeds : ∀ script ∈
      inputs.map (rebuildContactGraph columns platform),
      script.Proceeds (Leads (Written (·.nodeWrites)) (Written (·.edgeWrites))
        (Written (·.snapshotWrites))) (fun _ _ => True) store := by
    intro script isScript
    rcases List.mem_map.mp isScript with ⟨earlier, isInput, rfl⟩
    refine proceeds_rebuildContactGraph ?_ ?_ ?_
    · intro node member
      exact ⟨earlier, isInput, List.mem_map_of_mem
        (List.mem_map_of_mem member)⟩
    · intro edge member
      exact ⟨earlier, isInput, List.mem_map_of_mem
        (List.mem_map_of_mem member)⟩
    · intro snapshot member
      exact ⟨earlier, isInput, List.mem_map_of_mem
        (List.mem_map_of_mem member)⟩
  have before := pickSteps_proceeds Leads.trans Leads.reached
    (.refl consistent) proceeds picked
  have alone : Proceeds (Leads Set.univ Set.univ Set.univ)
      (fun _ _ => True) middle
      (rebuildContactGraph columns platform input) :=
    proceeds_rebuildContactGraph (fun _ _ => Set.mem_univ _)
      (fun _ _ => Set.mem_univ _) (fun _ _ => Set.mem_univ _)
  have led := (alone.yields Leads.trans Leads.reached (.refl before.consistent)
    completed).1
  have views := view_of_yields before.consistent completed
  refine ⟨led.consistent, ?_, ?_, ?_, views, ?_⟩
  · intro stableKey id found
    exact led.ids _ _ (before.ids _ _ found)
  · intro node member
    rw [views]
    exact overlay_of_mem (nodeWrites_nodup platform input)
      (List.mem_map_of_mem member)
  · intro edge member
    rw [views]
    exact overlay_of_mem (edgeWrites_nodup platform input)
      (List.mem_map_of_mem member)
  · intro covers
    rw [views]
    refine writeTo_of_leads before ?_ ?_ ?_
    · rintro key ⟨earlier, isInput, member⟩
      exact (covers earlier isInput).nodes member
    · rintro key ⟨earlier, isInput, member⟩
      exact (covers earlier isInput).edges member
    · rintro key ⟨earlier, isInput, member⟩
      exact (covers earlier isInput).snapshots member

end Graphs

/-- One visit, as a rebuild with identifiers of its own reads it. -/
def visitInput (mark : JsString) : GraphInput where
  events := [cardView (js "aaaaaaaa") (js "cccccccc")]
  intentScores := []
  genRandomUuid node :=
    ⟨(mark ++ node.stableKey ++ List.replicate 36 48).take 36, by
      simp only [List.length_take, List.length_append, List.length_replicate]
      omega⟩

def rebuildVisit (mark : JsString) : GraphScript Unit :=
  rebuildContactGraph ⟨fun _ => true, fun _ => true, fun _ => true⟩
    visitPlatform (visitInput mark)

def emptyGraph : StoredGraph :=
  ⟨[], [], []⟩

theorem consistent_emptyGraph : emptyGraph.Consistent where
  stableKeys := List.nodup_nil
  ids := List.nodup_nil
  ends _ member := nomatch member
  edgeKeys := List.nodup_nil
  snapshotKeys := List.nodup_nil

/-- Two rebuilds that race for the first nodes, and then a third one. -/
theorem rebuilds_converge_raced :
    ∃ scripts middle final,
      pickSteps [0, 1, 1, 0, 0, 1]
          [rebuildVisit (js "1"), rebuildVisit (js "2")] emptyGraph =
        some (scripts, middle) ∧
      Yields (rebuildVisit (js "3")).run middle () final ∧
      final.view = ((visitInput (js "3")).graph visitPlatform).writeTo
        emptyGraph.view := by
  have completes : ((pickSteps [0, 1, 1, 0, 0, 1]
      [rebuildVisit (js "1"), rebuildVisit (js "2")] emptyGraph).any
        fun reached => ((rebuildVisit (js "3")).run reached.2).1.isOk) =
          true := by
    decide +kernel
  cases picked : pickSteps [0, 1, 1, 0, 0, 1]
      [rebuildVisit (js "1"), rebuildVisit (js "2")] emptyGraph with
  | none =>
      rw [picked] at completes
      exact nomatch completes
  | some reached =>
      rcases reached with ⟨scripts, middle⟩
      rw [picked] at completes
      rcases ended : (rebuildVisit (js "3")).run middle with ⟨outcome, final⟩
      change ((rebuildVisit (js "3")).run middle).1.isOk = true at completes
      rw [ended] at completes
      cases outcome with
      | error failure =>
          exact nomatch completes
      | ok value =>
          have raced : pickSteps [0, 1, 1, 0, 0, 1]
              ([visitInput (js "1"), visitInput (js "2")].map
                (rebuildContactGraph
                  ⟨fun _ => true, fun _ => true, fun _ => true⟩
                  visitPlatform)) emptyGraph = some (scripts, middle) :=
            picked
          refine ⟨scripts, middle, final, rfl, ended,
            (rebuilds_converge consistent_emptyGraph raced
              ended).2.2.2.2.2 ?_⟩
          intro earlier isInput
          have sameGraph : earlier.graph visitPlatform =
              (visitInput (js "3")).graph visitPlatform := by
            rcases List.mem_pair.mp isInput with rfl | rfl
            · rfl
            · rfl
          rw [sameGraph]
          exact ⟨List.Subset.refl _, List.Subset.refl _,
            List.Subset.refl _⟩

end BidayaxExecutive.Contacts
