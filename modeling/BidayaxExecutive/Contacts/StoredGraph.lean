import BidayaxExecutive.Contacts.Snapshots
import BidayaxExecutive.Library.Schedules
import BidayaxExecutive.Library.Upserts

/-!
# The stored contact graph

A rebuild writes the graph of the events and scores it has read: first the
nodes, whose identifiers the database returns, then the edges between these
identifiers, then the snapshots.  Every write is a query of its own that merges
into the row that is there, and a rebuild stops at the first query that fails.
-/

namespace BidayaxExecutive.Contacts

open BidayaxExecutive.Library.Scripts Script
open BidayaxExecutive.Library.Transactions
open BidayaxExecutive.Library.Upserts
open BidayaxExecutive.Runtime JsString

/-! ## Tables -/

/-- The text of a `uuid`. -/
def Uuid : Type :=
  { text : JsString // text.length = 36 }
  deriving DecidableEq

/-- A row of `contact_graph_nodes`. -/
structure GraphNodeRow extends ContactGraphNode where
  id : Uuid

abbrev GraphNodeRow.key (row : GraphNodeRow) : JsString :=
  row.stableKey

/-- A row of `contact_graph_edges`. -/
structure GraphEdgeRow where
  edgeType : ContactGraphEdgeType
  sourceNodeId : Uuid
  targetNodeId : Uuid
  weight : Int
  metadata : List (JsString × Json)

abbrev GraphEdgeRow.key (row : GraphEdgeRow) :
    ContactGraphEdgeType × Uuid × Uuid :=
  (row.edgeType, row.sourceNodeId, row.targetNodeId)

/-- The key of a row of `contact_graph_snapshots`. -/
abbrev ContactGraphSnapshot.key (snapshot : ContactGraphSnapshot) :
    JsString × JsString × JsString :=
  (snapshot.executiveSlug, snapshot.anonymousVisitorId, snapshot.sessionId)

structure StoredGraph where
  nodes : List GraphNodeRow
  edges : List GraphEdgeRow
  snapshots : List ContactGraphSnapshot

/-- Whether the text, number, JSON and time columns take the values of a row.
The time of a snapshot is stored as the text it came as. -/
structure GraphColumns where
  storesNode : ContactGraphNode → Bool
  storesEdge : ContactGraphEdge → Bool
  storesSnapshot : ContactGraphSnapshot → Bool

/-! ## Queries -/

abbrev GraphQuery : Type → Type :=
  Transaction StoredGraph Unit

abbrev GraphScript : Type → Type :=
  Script StoredGraph Unit

section Queries

variable (columns : GraphColumns)

/-- `gen_random_uuid()` is what the default of a new row would be. -/
def upsertNode (genRandomUuid : Uuid) (node : ContactGraphNode) :
    GraphQuery Uuid := fun store =>
  if !columns.storesNode node then (.error (), store)
  else
    match rowAt GraphNodeRow.key node.stableKey store.nodes with
    | some row =>
        (.ok row.id,
          { store with
            nodes := upsert GraphNodeRow.key ⟨node, row.id⟩
              (fun old => ⟨node, old.id⟩) store.nodes })
    | none =>
        if store.nodes.any fun row => row.id = genRandomUuid then
          (.error (), store)
        else
          (.ok genRandomUuid,
            { store with
              nodes := upsert GraphNodeRow.key ⟨node, genRandomUuid⟩
                (fun old => ⟨node, old.id⟩) store.nodes })

def isNode (store : StoredGraph) (id : Uuid) : Bool :=
  store.nodes.any fun row => row.id = id

def upsertEdge (sourceNodeId targetNodeId : Uuid) (edge : ContactGraphEdge) :
    GraphQuery Unit := fun store =>
  if !(columns.storesEdge edge && decide (0 < edge.weight) &&
      isNode store sourceNodeId && isNode store targetNodeId) then
    (.error (), store)
  else
    (.ok (),
      { store with
        edges := upsert GraphEdgeRow.key
          { edgeType := edge.edgeType
            sourceNodeId := sourceNodeId
            targetNodeId := targetNodeId
            weight := edge.weight
            metadata := edge.metadata }
          (fun old =>
            { old with weight := edge.weight, metadata := edge.metadata })
          store.edges })

def upsertSnapshot (snapshot : ContactGraphSnapshot) : GraphQuery Unit :=
  fun store =>
    if !columns.storesSnapshot snapshot then (.error (), store)
    else
      (.ok (),
        { store with
          snapshots := upsert ContactGraphSnapshot.key snapshot
            (fun old =>
              { old with
                totalEvents := snapshot.totalEvents
                highestIntentScore := snapshot.highestIntentScore
                highestIntentTier := snapshot.highestIntentTier
                engagementSummary := snapshot.engagementSummary
                lastActivityAt := snapshot.lastActivityAt })
            store.snapshots })

/-! ## A rebuild -/

def saveNodes (genRandomUuid : ContactGraphNode → Uuid) :
    List ContactGraphNode → JsMap JsString Uuid →
      GraphScript (JsMap JsString Uuid)
  | [], nodeIdsByStableKey => pure nodeIdsByStableKey
  | node :: rest, nodeIdsByStableKey => do
      let id ← perform (upsertNode columns (genRandomUuid node) node)
      saveNodes genRandomUuid rest (nodeIdsByStableKey.set node.stableKey id)

/-- An edge without a node at one of its ends is passed over. -/
def saveEdges (nodeIdsByStableKey : JsMap JsString Uuid) :
    List ContactGraphEdge → GraphScript Unit
  | [] => pure ()
  | edge :: rest =>
      match nodeIdsByStableKey.get edge.sourceStableKey,
        nodeIdsByStableKey.get edge.targetStableKey with
      | some sourceNodeId, some targetNodeId => do
          perform (upsertEdge columns sourceNodeId targetNodeId edge)
          saveEdges nodeIdsByStableKey rest
      | _, _ => saveEdges nodeIdsByStableKey rest

def saveSnapshots : List ContactGraphSnapshot → GraphScript Unit
  | [] => pure ()
  | snapshot :: rest => do
      perform (upsertSnapshot columns snapshot)
      saveSnapshots rest

/-- The rows of the two tables, as far as they are events and scores. -/
structure GraphInput where
  events : List ContactGraphInteractionEvent
  intentScores : List ContactGraphIntentScore
  genRandomUuid : ContactGraphNode → Uuid

def GraphInput.graph (platform : ContactPlatform) (input : GraphInput) :
    ContactGraphBuildResult :=
  buildGraphFromEvents platform input.events input.intentScores

def rebuildContactGraph (platform : ContactPlatform) (input : GraphInput) :
    GraphScript Unit := do
  let graph := input.graph platform
  let nodeIdsByStableKey ←
    saveNodes columns input.genRandomUuid graph.nodes .empty
  saveEdges columns nodeIdsByStableKey graph.edges
  saveSnapshots columns graph.snapshots

end Queries

end BidayaxExecutive.Contacts
