import BidayaxExecutive.Contacts.Edges
import BidayaxExecutive.Contacts.StoredGraph

/-!
# The stored graph by its keys

Nodes have stable keys, edges the keys of the nodes that they join, snapshots
the three identifiers of their group.  Every query of a rebuild changes what
stands under one key, and no identifier of a node ever changes.
-/

namespace BidayaxExecutive.Contacts

open BidayaxExecutive.Library.Upserts
open BidayaxExecutive.Runtime

/-! ## The graph by its keys -/

section Views

variable (nodes : List GraphNodeRow)

def idAt (stableKey : JsString) : Option Uuid :=
  (rowAt GraphNodeRow.key stableKey nodes).map GraphNodeRow.id

def nodeView (stableKey : JsString) : Option ContactGraphNode :=
  (rowAt GraphNodeRow.key stableKey nodes).map
    GraphNodeRow.toContactGraphNode

/-- The weight and the metadata of the edge between two nodes. -/
def edgeView (edges : List GraphEdgeRow) (ends : EdgeEnds) :
    Option (Int × List (JsString × Json)) :=
  (idAt nodes ends.source).bind fun sourceNodeId =>
    (idAt nodes ends.target).bind fun targetNodeId =>
      (rowAt GraphEdgeRow.key (ends.edgeType, sourceNodeId, targetNodeId)
        edges).map fun row => (row.weight, row.metadata)

end Views

def snapshotView (snapshots : List ContactGraphSnapshot)
    (key : JsString × JsString × JsString) : Option ContactGraphSnapshot :=
  rowAt ContactGraphSnapshot.key key snapshots

/-- What the keys and references of the tables ensure. -/
structure StoredGraph.Consistent (store : StoredGraph) : Prop where
  stableKeys : (store.nodes.map GraphNodeRow.key).Nodup
  ids : (store.nodes.map GraphNodeRow.id).Nodup
  ends : ∀ row ∈ store.edges, isNode store row.sourceNodeId = true ∧
    isNode store row.targetNodeId = true
  edgeKeys : (store.edges.map GraphEdgeRow.key).Nodup
  snapshotKeys : (store.snapshots.map ContactGraphSnapshot.key).Nodup

theorem isNode_iff {store : StoredGraph} {id : Uuid} :
    isNode store id = true ↔ id ∈ store.nodes.map GraphNodeRow.id := by
  simp [isNode]

theorem mem_ids_of_idAt {nodes : List GraphNodeRow} {stableKey : JsString}
    {id : Uuid} (found : idAt nodes stableKey = some id) :
    id ∈ nodes.map GraphNodeRow.id := by
  rcases Option.map_eq_some_iff.mp found with ⟨row, isRow, same⟩
  exact List.mem_map.mpr ⟨row, (rowAt_eq_some isRow).1, same⟩

/-- Two nodes have two identifiers. -/
theorem idAt_injective {nodes : List GraphNodeRow}
    (distinct : (nodes.map GraphNodeRow.id).Nodup)
    {stableKey other : JsString} {id : Uuid}
    (found : idAt nodes stableKey = some id)
    (otherFound : idAt nodes other = some id) : stableKey = other := by
  rcases Option.map_eq_some_iff.mp found with ⟨row, isRow, same⟩
  rcases Option.map_eq_some_iff.mp otherFound with
    ⟨otherRow, isOther, otherSame⟩
  have sameRow : row = otherRow :=
    List.inj_on_of_nodup_map distinct (rowAt_eq_some isRow).1
      (rowAt_eq_some isOther).1 (same.trans otherSame.symm)
  rw [← (rowAt_eq_some isRow).2, ← (rowAt_eq_some isOther).2, sameRow]

/-! ## The queries -/

section Queries

variable {columns : GraphColumns} {node : ContactGraphNode}
  {genRandomUuid id : Uuid} {nodes : List GraphNodeRow}
  {store before after : StoredGraph}

/-- The rows with a node under its key. -/
def withNode (node : ContactGraphNode) (id : Uuid)
    (nodes : List GraphNodeRow) : List GraphNodeRow :=
  upsert GraphNodeRow.key ⟨node, id⟩ (fun old => ⟨node, old.id⟩) nodes

theorem rowAt_withNode (stableKey : JsString) :
    rowAt GraphNodeRow.key stableKey (withNode node id nodes) =
      if stableKey = node.stableKey then
        some ⟨node, (idAt nodes node.stableKey).getD id⟩
      else rowAt GraphNodeRow.key stableKey nodes := by
  have merged : rowAt GraphNodeRow.key stableKey (withNode node id nodes) =
      if stableKey = node.stableKey then
        some (((rowAt GraphNodeRow.key node.stableKey nodes).map fun old =>
          (⟨node, old.id⟩ : GraphNodeRow)).getD ⟨node, id⟩)
      else rowAt GraphNodeRow.key stableKey nodes :=
    rowAt_upsert fun _ _ => rfl
  rw [merged]
  by_cases isNode : stableKey = node.stableKey
  · rw [if_pos isNode, if_pos isNode]
    unfold idAt
    cases rowAt GraphNodeRow.key node.stableKey nodes with
    | none =>
        rfl
    | some row =>
        rfl
  · rw [if_neg isNode, if_neg isNode]

theorem idAt_withNode :
    idAt (withNode node id nodes) = Function.update (idAt nodes)
      node.stableKey (some ((idAt nodes node.stableKey).getD id)) := by
  funext stableKey
  by_cases isNode : stableKey = node.stableKey
  · rw [isNode, Function.update_self, idAt, rowAt_withNode, if_pos rfl]
    rfl
  · rw [Function.update_of_ne isNode, idAt, rowAt_withNode, if_neg isNode]
    rfl

theorem nodeView_withNode :
    nodeView (withNode node id nodes) =
      Function.update (nodeView nodes) node.stableKey (some node) := by
  funext stableKey
  by_cases isNode : stableKey = node.stableKey
  · rw [isNode, Function.update_self, nodeView, rowAt_withNode, if_pos rfl]
    rfl
  · rw [Function.update_of_ne isNode, nodeView, rowAt_withNode,
      if_neg isNode]
    rfl

theorem map_id_withNode :
    (withNode node id nodes).map GraphNodeRow.id =
      if (idAt nodes node.stableKey).isSome then
        nodes.map GraphNodeRow.id
      else nodes.map GraphNodeRow.id ++ [id] := by
  rw [idAt, Option.isSome_map]
  exact map_upsert GraphNodeRow.id fun _ _ => rfl

/-- The identifier under which a node is stored. -/
def Assigned (store : StoredGraph) (stableKey : JsString) (id : Uuid) :
    Prop :=
  idAt store.nodes stableKey = some id ∨
    idAt store.nodes stableKey = none ∧ isNode store id = false

theorem upsertNode_cases (columns : GraphColumns) (genRandomUuid : Uuid)
    (node : ContactGraphNode) (store : StoredGraph) :
    upsertNode columns genRandomUuid node store = (.error (), store) ∨
      ∃ id, Assigned store node.stableKey id ∧
        upsertNode columns genRandomUuid node store =
          (.ok id, { store with nodes := withNode node id store.nodes }) := by
  unfold upsertNode Assigned idAt
  cases columns.storesNode node with
  | false =>
      exact .inl rfl
  | true =>
      cases found : rowAt GraphNodeRow.key node.stableKey store.nodes with
      | some row =>
          exact .inr ⟨row.id, .inl rfl, rfl⟩
      | none =>
          by_cases taken : store.nodes.any fun row => row.id = genRandomUuid
          · simp only [taken, if_true]
            exact .inl rfl
          · refine .inr ⟨genRandomUuid, .inr ⟨rfl, ?_⟩, ?_⟩
            · exact Bool.eq_false_of_not_eq_true taken
            · simp only [if_neg taken]
              rfl

/-- Nothing that was stored goes under another identifier. -/
theorem idAt_withNode_of_assigned
    (assigned : Assigned store node.stableKey id) :
    idAt (withNode node id store.nodes) =
      Function.update (idAt store.nodes) node.stableKey (some id) := by
  rw [idAt_withNode]
  rcases assigned with found | ⟨absent, _⟩
  · rw [found]
    rfl
  · rw [absent]
    rfl

theorem consistent_withNode (consistent : store.Consistent)
    (assigned : Assigned store node.stableKey id) :
    StoredGraph.Consistent
      { store with nodes := withNode node id store.nodes } := by
  have ids : (withNode node id store.nodes).map GraphNodeRow.id =
      if (idAt store.nodes node.stableKey).isSome then
        store.nodes.map GraphNodeRow.id
      else store.nodes.map GraphNodeRow.id ++ [id] :=
    map_id_withNode
  refine ⟨?_, ?_, ?_, consistent.edgeKeys, consistent.snapshotKeys⟩
  · exact nodup_keys_upsert consistent.stableKeys fun _ _ => rfl
  · change ((withNode node id store.nodes).map GraphNodeRow.id).Nodup
    rw [ids]
    rcases assigned with found | ⟨absent, unused⟩
    · rw [found]
      exact consistent.ids
    · rw [absent, Option.isSome_none, if_neg Bool.false_ne_true,
        List.nodup_append]
      refine ⟨consistent.ids, List.nodup_singleton _, ?_⟩
      rintro old member _ isNew rfl
      rw [List.mem_singleton.mp isNew] at member
      rw [isNode_iff.mpr member] at unused
      exact nomatch unused
  · intro row member
    have kept : ∀ known, isNode store known = true →
        isNode { store with nodes := withNode node id store.nodes } known =
          true := by
      intro known isKnown
      rw [isNode_iff] at isKnown ⊢
      change known ∈ (withNode node id store.nodes).map GraphNodeRow.id
      rw [ids]
      split_ifs
      · exact isKnown
      · exact List.mem_append_left _ isKnown
    have ends := consistent.ends row member
    exact ⟨kept _ ends.1, kept _ ends.2⟩

/-- A node that is new has no edges. -/
theorem edgeView_withNode (consistent : store.Consistent)
    (assigned : Assigned store node.stableKey id) (ends : EdgeEnds) :
    edgeView (withNode node id store.nodes) store.edges ends =
      edgeView store.nodes store.edges ends := by
  unfold edgeView
  rw [idAt_withNode_of_assigned assigned]
  rcases assigned with found | ⟨absent, unused⟩
  · rw [Function.update_eq_self_iff.mpr found.symm]
  · have unconnected : ∀ key : ContactGraphEdgeType × Uuid × Uuid,
        key.2.1 = id ∨ key.2.2 = id →
          rowAt GraphEdgeRow.key key store.edges = none := by
      intro key isEnd
      refine rowAt_eq_none.mpr fun row member same => ?_
      have known := consistent.ends row member
      rcases isEnd with isSource | isTarget
      · rw [← same] at isSource
        rw [← isSource, known.1] at unused
        exact nomatch unused
      · rw [← same] at isTarget
        rw [← isTarget, known.2] at unused
        exact nomatch unused
    by_cases isSource : ends.source = node.stableKey
    · rw [isSource, Function.update_self, absent]
      simp [unconnected]
    · rw [Function.update_of_ne isSource]
      by_cases isTarget : ends.target = node.stableKey
      · rw [isTarget, Function.update_self, absent]
        simp [unconnected]
      · rw [Function.update_of_ne isTarget]

/-- The rows with an edge between two nodes. -/
def withEdge (sourceNodeId targetNodeId : Uuid) (edge : ContactGraphEdge)
    (edges : List GraphEdgeRow) : List GraphEdgeRow :=
  upsert GraphEdgeRow.key
    { edgeType := edge.edgeType
      sourceNodeId := sourceNodeId
      targetNodeId := targetNodeId
      weight := edge.weight
      metadata := edge.metadata }
    (fun old => { old with weight := edge.weight, metadata := edge.metadata })
    edges

variable {edge : ContactGraphEdge} {edges : List GraphEdgeRow}
  {sourceNodeId targetNodeId : Uuid}

theorem upsertEdge_cases (columns : GraphColumns)
    (sourceNodeId targetNodeId : Uuid) (edge : ContactGraphEdge)
    (store : StoredGraph) :
    upsertEdge columns sourceNodeId targetNodeId edge store =
        (.error (), store) ∨
      isNode store sourceNodeId = true ∧ isNode store targetNodeId = true ∧
        upsertEdge columns sourceNodeId targetNodeId edge store =
          (.ok (), { store with
            edges := withEdge sourceNodeId targetNodeId edge store.edges }) := by
  unfold upsertEdge
  split_ifs with refused
  · exact .inl rfl
  · simp only [Bool.not_eq_true', Bool.not_eq_false, Bool.and_eq_true]
      at refused
    exact .inr ⟨refused.1.2, refused.2, rfl⟩

theorem consistent_withEdge (consistent : store.Consistent)
    (source : isNode store sourceNodeId = true)
    (target : isNode store targetNodeId = true) :
    StoredGraph.Consistent { store with
      edges := withEdge sourceNodeId targetNodeId edge store.edges } := by
  refine ⟨consistent.stableKeys, consistent.ids, ?_, ?_,
    consistent.snapshotKeys⟩
  · intro row member
    rcases mem_upsert member with rfl | wasThere | ⟨old, wasThere, rfl⟩
    · exact ⟨source, target⟩
    · exact consistent.ends row wasThere
    · exact consistent.ends old wasThere
  · exact nodup_keys_upsert consistent.edgeKeys fun _ same => same

theorem edgeView_withEdge (distinct : (nodes.map GraphNodeRow.id).Nodup)
    (source : idAt nodes edge.sourceStableKey = some sourceNodeId)
    (target : idAt nodes edge.targetStableKey = some targetNodeId) :
    edgeView nodes (withEdge sourceNodeId targetNodeId edge edges) =
      Function.update (edgeView nodes edges) edge.ends
        (some (edge.weight, edge.metadata)) := by
  have merged : ∀ key, rowAt GraphEdgeRow.key key
      (withEdge sourceNodeId targetNodeId edge edges) =
        if key = (edge.edgeType, sourceNodeId, targetNodeId) then
          some (((rowAt GraphEdgeRow.key
            (edge.edgeType, sourceNodeId, targetNodeId) edges).map fun old =>
              ({ old with
                weight := edge.weight, metadata := edge.metadata } :
                GraphEdgeRow)).getD
            ⟨edge.edgeType, sourceNodeId, targetNodeId, edge.weight,
              edge.metadata⟩)
        else rowAt GraphEdgeRow.key key edges :=
    fun key => rowAt_upsert fun _ same => same
  funext ends
  by_cases isEdge : ends = edge.ends
  · rw [isEdge, Function.update_self, edgeView]
    change (idAt nodes edge.sourceStableKey).bind _ = _
    rw [source, Option.bind_some]
    change (idAt nodes edge.targetStableKey).bind _ = _
    rw [target, Option.bind_some, merged]
    change Option.map _ (if (edge.edgeType, sourceNodeId, targetNodeId) =
      (edge.edgeType, sourceNodeId, targetNodeId) then _ else _) = _
    rw [if_pos rfl]
    cases rowAt GraphEdgeRow.key
      (edge.edgeType, sourceNodeId, targetNodeId) edges with
    | none =>
        rfl
    | some old =>
        rfl
  · rw [Function.update_of_ne isEdge, edgeView, edgeView]
    cases otherSource : idAt nodes ends.source with
    | none =>
        rfl
    | some otherSourceId =>
        cases otherTarget : idAt nodes ends.target with
        | none =>
            rfl
        | some otherTargetId =>
            rw [Option.bind_some, Option.bind_some, Option.bind_some,
              Option.bind_some, merged, if_neg]
            intro same
            rcases Prod.mk.inj same with ⟨sameType, sameIds⟩
            rcases Prod.mk.inj sameIds with ⟨sameSource, sameTarget⟩
            rw [sameSource] at otherSource
            rw [sameTarget] at otherTarget
            refine isEdge ?_
            rw [ContactGraphEdge.ends, ← sameType,
              idAt_injective distinct source otherSource,
              idAt_injective distinct target otherTarget]

/-- The rows with a snapshot under its key. -/
def withSnapshot (snapshot : ContactGraphSnapshot)
    (snapshots : List ContactGraphSnapshot) : List ContactGraphSnapshot :=
  upsert ContactGraphSnapshot.key snapshot
    (fun old =>
      { old with
        totalEvents := snapshot.totalEvents
        highestIntentScore := snapshot.highestIntentScore
        highestIntentTier := snapshot.highestIntentTier
        engagementSummary := snapshot.engagementSummary
        lastActivityAt := snapshot.lastActivityAt })
    snapshots

theorem upsertSnapshot_cases (columns : GraphColumns)
    (snapshot : ContactGraphSnapshot) (store : StoredGraph) :
    upsertSnapshot columns snapshot store = (.error (), store) ∨
      upsertSnapshot columns snapshot store =
        (.ok (), { store with
          snapshots := withSnapshot snapshot store.snapshots }) := by
  unfold upsertSnapshot
  split_ifs
  · exact .inl rfl
  · exact .inr rfl

theorem consistent_withSnapshot (consistent : store.Consistent)
    (snapshot : ContactGraphSnapshot) :
    StoredGraph.Consistent
      { store with snapshots := withSnapshot snapshot store.snapshots } :=
  ⟨consistent.stableKeys, consistent.ids, consistent.ends,
    consistent.edgeKeys,
    nodup_keys_upsert consistent.snapshotKeys fun _ same => same⟩

theorem snapshotView_withSnapshot (snapshot : ContactGraphSnapshot)
    (snapshots : List ContactGraphSnapshot) :
    snapshotView (withSnapshot snapshot snapshots) =
      Function.update (snapshotView snapshots) snapshot.key
        (some snapshot) := by
  funext key
  have merged : rowAt ContactGraphSnapshot.key key
      (withSnapshot snapshot snapshots) =
        if key = snapshot.key then
          some (((rowAt ContactGraphSnapshot.key snapshot.key
            snapshots).map fun old =>
              { old with
                totalEvents := snapshot.totalEvents
                highestIntentScore := snapshot.highestIntentScore
                highestIntentTier := snapshot.highestIntentTier
                engagementSummary := snapshot.engagementSummary
                lastActivityAt := snapshot.lastActivityAt }).getD snapshot)
        else rowAt ContactGraphSnapshot.key key snapshots :=
    rowAt_upsert fun _ same => same
  unfold snapshotView
  rw [merged]
  by_cases isSnapshot : key = snapshot.key
  · rw [if_pos isSnapshot, isSnapshot, Function.update_self]
    cases found : rowAt ContactGraphSnapshot.key snapshot.key snapshots with
    | none =>
        rfl
    | some old =>
        rcases Prod.mk.inj (rowAt_eq_some found).2 with ⟨slug, ids⟩
        rcases Prod.mk.inj ids with ⟨visitor, session⟩
        rw [Option.map_some, Option.getD_some, slug, visitor, session]
  · rw [if_neg isSnapshot, Function.update_of_ne isSnapshot]

end Queries

end BidayaxExecutive.Contacts
