import BidayaxExecutive.Contacts.Edges
import BidayaxExecutive.Contacts.Grouping
import BidayaxExecutive.Library.Separator

/-!
# Which edges a graph has

Every edge of the result is implied by the input and its ends are nodes.  The
first edge of a key is kept, so an implied edge is missing exactly when another
one has its key: when an identifier holds the arrow together with the kind of
the node at the other end.
-/

namespace BidayaxExecutive.Contacts

open BidayaxExecutive.Runtime JsString
open BidayaxExecutive.Library

/-! ## The nodes and edges of a result -/

section Result

variable {platform : ContactPlatform}
  {events : List ContactGraphInteractionEvent}
  {intentScores : List ContactGraphIntentScore}

theorem mem_nodes {node : ContactGraphNode} :
    node ∈ (buildGraphFromEvents platform events intentScores).nodes ↔
      ∃ key, (collectGraph events intentScores).nodes.get key = some node := by
  rw [← JsMap.mem_values]
  exact (List.perm_insertionSort _ _).mem_iff

theorem mem_edges {edge : ContactGraphEdge} :
    edge ∈ (buildGraphFromEvents platform events intentScores).edges ↔
      ∃ key, (collectGraph events intentScores).edges.get key = some edge := by
  rw [← JsMap.mem_values]
  exact (List.perm_insertionSort _ _).mem_iff

theorem mem_nodeKeys_of_has {key : JsString}
    (present : (collectGraph events intentScores).nodes.has key = true) :
    key ∈ (buildGraphFromEvents platform events intentScores).nodes.map
      (·.stableKey) := by
  obtain ⟨node, found⟩ := Option.isSome_iff_exists.mp present
  have sameKey :=
    (built_collectGraph events intentScores).nodeKeys key node found
  exact List.mem_map.mpr ⟨node, mem_nodes.mpr ⟨key, found⟩, sameKey⟩

theorem added_of_mem_edges {edge : ContactGraphEdge}
    (member :
      edge ∈ (buildGraphFromEvents platform events intentScores).edges) :
    edge ∈ addedEdges events intentScores := by
  obtain ⟨key, found⟩ := mem_edges.mp member
  exact ((built_collectGraph events intentScores).edgeKeys key edge found).2

/-- There is one edge of a key. -/
theorem eq_of_stableKey_eq {edge other : ContactGraphEdge}
    (member :
      edge ∈ (buildGraphFromEvents platform events intentScores).edges)
    (otherMember :
      other ∈ (buildGraphFromEvents platform events intentScores).edges)
    (same : edgeStableKey edge = edgeStableKey other) : edge = other := by
  have built := built_collectGraph events intentScores
  obtain ⟨key, found⟩ := mem_edges.mp member
  obtain ⟨otherKey, otherFound⟩ := mem_edges.mp otherMember
  have sameKeys : key = otherKey := by
    rw [← (built.edgeKeys key edge found).1, same,
      (built.edgeKeys otherKey other otherFound).1]
  rw [sameKeys, otherFound] at found
  exact (Option.some.inj found).symm

/-- The keys of the edges are those of the map. -/
theorem edge_keys_nodup :
    ((buildGraphFromEvents platform events intentScores).edges.map
      edgeStableKey).Nodup := by
  have built := built_collectGraph events intentScores
  have ofMap : ((collectGraph events intentScores).edges.values.map
      edgeStableKey) = (collectGraph events intentScores).edges.keys := by
    unfold JsMap.values JsMap.keys
    rw [List.map_map]
    apply List.map_congr_left
    intro entry member
    exact (built.edgeKeys entry.1 entry.2 (JsMap.get_eq_some.mpr member)).1
  have sameKeys := (List.perm_insertionSort
    (fun left right => platform.localeLe (edgeStableKey left)
      (edgeStableKey right))
    (collectGraph events intentScores).edges.values).map edgeStableKey
  rw [ofMap] at sameKeys
  exact sameKeys.nodup_iff.mpr (collectGraph events intentScores).edges.distinct

variable (platform) in
/-- An implied edge has an edge of its key in the result. -/
theorem exists_of_implied {ends : EdgeEnds}
    (implied : Implied events intentScores ends) :
    ∃ edge ∈ (buildGraphFromEvents platform events intentScores).edges,
      edge.ends.stableKey = ends.stableKey := by
  have built := built_collectGraph events intentScores
  obtain ⟨added, isAdded, sameEnds⟩ := exists_added_of_implied implied
  obtain ⟨kept, found⟩ :=
    Option.isSome_iff_exists.mp (built.kept added isAdded)
  refine ⟨kept, mem_edges.mpr ⟨_, found⟩, ?_⟩
  rw [← sameEnds]
  exact (built.edgeKeys _ kept found).1

end Result

/-! ## Keys -/

theorem plain_edgeType (edgeType : ContactGraphEdgeType) :
    58 ∉ edgeType.text := by
  cases edgeType <;> decide

theorem ContactGraphEdgeType.text_injective :
    Function.Injective ContactGraphEdgeType.text := by
  intro left right same
  cases left <;> cases right <;> first | rfl | exact nomatch same

/-- The arrow and the kind of the node it points to. -/
def arrowTo (edgeType : ContactGraphEdgeType) : JsString :=
  js "->" ++ (endKeys edgeType).2

theorem edgeBetween_stableKey (edgeType : ContactGraphEdgeType)
    (ids : JsString × JsString) :
    (edgeBetween edgeType ids).stableKey =
      edgeType.text ++ 58 :: ((endKeys edgeType).1 ++
        (ids.1 ++ (arrowTo edgeType ++ ids.2))) := by
  unfold EdgeEnds.stableKey edgeBetween arrowTo
  simp only [List.append_assoc]
  rfl

theorem edgeBetween_injective {edgeType : ContactGraphEdgeType}
    {ids others : JsString × JsString}
    (same : edgeBetween edgeType ids = edgeBetween edgeType others) :
    ids = others := by
  unfold edgeBetween at same
  injection same with _ sameSource sameTarget
  exact Prod.ext (List.append_cancel_left sameSource)
    (List.append_cancel_left sameTarget)

/-- Keys are equal when the types and the joined identifiers are. -/
theorem stableKey_eq_iff {edgeType otherType : ContactGraphEdgeType}
    {ids others : JsString × JsString} :
    (edgeBetween edgeType ids).stableKey =
        (edgeBetween otherType others).stableKey ↔
      edgeType = otherType ∧
        ids.1 ++ (arrowTo edgeType ++ ids.2) =
          others.1 ++ (arrowTo otherType ++ others.2) := by
  rw [edgeBetween_stableKey, edgeBetween_stableKey]
  constructor
  · intro same
    obtain ⟨sameText, sameRest⟩ := Separator.split_eq
      (plain_edgeType edgeType) (plain_edgeType otherType) same
    have sameType := ContactGraphEdgeType.text_injective sameText
    rw [sameType] at sameRest
    exact ⟨sameType, by
      rw [sameType]
      exact List.append_cancel_left sameRest⟩
  · intro same
    rw [same.2, same.1]

/-- Joining distinguishes the identifiers of a type unless they are
ambiguous. -/
theorem joined_injOn_arrowTo_iff (edgeType : ContactGraphEdgeType)
    (pairs : List (JsString × JsString)) :
    (∀ first ∈ pairs, ∀ second ∈ pairs,
      first.1 ++ (arrowTo edgeType ++ first.2) =
          second.1 ++ (arrowTo edgeType ++ second.2) →
        first = second) ↔
      ¬Separator.Ambiguous (arrowTo edgeType) pairs := by
  have plain : (45 : UInt16) ∉ (arrowTo edgeType).tail := by
    cases edgeType <;> decide
  have marked : arrowTo edgeType = 45 :: (arrowTo edgeType).tail := rfl
  rw [marked]
  exact Separator.joined_injOn_iff plain

/-! ## Exactness -/

/-- Different implied edges have different keys. -/
def KeysDistinguish (events : List ContactGraphInteractionEvent)
    (intentScores : List ContactGraphIntentScore) : Prop :=
  ∀ first second, Implied events intentScores first →
    Implied events intentScores second →
      first.stableKey = second.stableKey → first = second

/-- The edges are the implied ones, each of them once, between nodes of the
result. -/
structure EdgesExact (platform : ContactPlatform)
    (events : List ContactGraphInteractionEvent)
    (intentScores : List ContactGraphIntentScore) : Prop where
  distinct : ((buildGraphFromEvents platform events intentScores).edges.map
    (·.ends)).Nodup
  implied : ∀ ends,
    ends ∈ (buildGraphFromEvents platform events intentScores).edges.map
        (·.ends) ↔
      Implied events intentScores ends
  connected : ∀ edge ∈
      (buildGraphFromEvents platform events intentScores).edges,
    edge.sourceStableKey ∈
        (buildGraphFromEvents platform events intentScores).nodes.map
          (·.stableKey) ∧
      edge.targetStableKey ∈
        (buildGraphFromEvents platform events intentScores).nodes.map
          (·.stableKey)

section Exactness

variable {platform : ContactPlatform}
  {events : List ContactGraphInteractionEvent}
  {intentScores : List ContactGraphIntentScore}

theorem keysDistinguish_of_exact
    (edgesExact : EdgesExact platform events intentScores) :
    KeysDistinguish events intentScores := by
  intro first second firstImplied secondImplied same
  obtain ⟨edge, member, sameFirst⟩ :=
    List.mem_map.mp ((edgesExact.implied first).mpr firstImplied)
  obtain ⟨other, otherMember, sameSecond⟩ :=
    List.mem_map.mp ((edgesExact.implied second).mpr secondImplied)
  have sameKeys : edgeStableKey edge = edgeStableKey other := by
    rw [edgeStableKey_eq, edgeStableKey_eq, sameFirst, sameSecond, same]
  rw [← sameFirst, ← sameSecond,
    eq_of_stableKey_eq member otherMember sameKeys]

theorem exact_of_keysDistinguish
    (distinguish : KeysDistinguish events intentScores) :
    EdgesExact platform events intentScores where
  distinct := by
    have keys : ((buildGraphFromEvents platform events
        intentScores).edges.map edgeStableKey).Nodup := edge_keys_nodup
    have byEnds := List.map_map (f := ContactGraphEdge.ends)
      (g := EdgeEnds.stableKey)
      (l := (buildGraphFromEvents platform events intentScores).edges)
    exact List.Nodup.of_map EdgeEnds.stableKey (byEnds ▸ keys)
  implied := by
    intro ends
    constructor
    · intro member
      obtain ⟨edge, isEdge, sameEnds⟩ := List.mem_map.mp member
      rw [← sameEnds]
      exact implied_of_added (added_of_mem_edges isEdge)
    · intro isImplied
      obtain ⟨edge, member, sameKey⟩ := exists_of_implied platform isImplied
      have sameEnds := distinguish edge.ends ends
        (implied_of_added (added_of_mem_edges member)) isImplied sameKey
      exact List.mem_map.mpr ⟨edge, member, sameEnds⟩
  connected := by
    intro edge member
    have ends := (built_collectGraph events intentScores).ends edge
      (added_of_mem_edges member)
    exact ⟨mem_nodeKeys_of_has ends.1, mem_nodeKeys_of_has ends.2⟩

/-- Edges of one type collide when the identifiers are ambiguous, and edges of
two types never do. -/
theorem keysDistinguish_iff :
    KeysDistinguish events intentScores ↔ ∀ edgeType,
      ¬Separator.Ambiguous (arrowTo edgeType)
        (impliedIds events intentScores edgeType) := by
  constructor
  · intro distinguish edgeType
    rw [← joined_injOn_arrowTo_iff]
    intro first firstMember second secondMember same
    exact edgeBetween_injective (distinguish (edgeBetween edgeType first)
      (edgeBetween edgeType second) ⟨first, firstMember, rfl⟩
      ⟨second, secondMember, rfl⟩ (stableKey_eq_iff.mpr ⟨rfl, same⟩))
  · intro distinct first second firstImplied secondImplied same
    obtain ⟨firstIds, firstMember, isFirst⟩ := firstImplied
    obtain ⟨secondIds, secondMember, isSecond⟩ := secondImplied
    rw [isFirst, isSecond, stableKey_eq_iff] at same
    obtain ⟨sameType, sameJoined⟩ := same
    rw [← sameType] at secondMember sameJoined
    have sameIds := (joined_injOn_arrowTo_iff _ _).mpr
      (distinct first.edgeType) firstIds firstMember secondIds secondMember
      sameJoined
    rw [isFirst, isSecond, sameType, sameIds]

/-- No slug holds an arrow. -/
theorem executives_not_ambiguous {edgeType : ContactGraphEdgeType}
    (toExecutive : (endKeys edgeType).2 = js "executive:") :
    ¬Separator.Ambiguous (arrowTo edgeType)
      (impliedIds events intentScores edgeType) := by
  have marks : (62 : UInt16) ∈ arrowTo edgeType := by
    unfold arrowTo
    exact List.mem_append_left _ (by decide)
  have plain : ∀ slug : ExecutiveSlug, 62 ∉ slug.text := by
    intro slug
    cases slug <;> decide
  apply Separator.not_ambiguous_of_plain marks
  cases edgeType with
  | sessionViewedExecutive | visitorEngagedExecutive =>
      intro ids member
      obtain ⟨group, _, rfl⟩ := List.mem_map.mp member
      exact plain group.executiveSlug
  | eventTargetsExecutive =>
      intro ids member
      obtain ⟨event, _, rfl⟩ := List.mem_map.mp member
      exact plain event.executiveSlug
  | visitorHasSession | sessionGeneratedEvent | sessionHasIntentScore =>
      exact absurd toExecutive (by decide)

end Exactness

/-- The edges are exact unless the identifiers of two visitor edges, of two
event edges or of two score edges join to one text, because one of them holds
the arrow and the start of a key. -/
theorem edgesExact_iff (platform : ContactPlatform)
    (events : List ContactGraphInteractionEvent)
    (intentScores : List ContactGraphIntentScore) :
    EdgesExact platform events intentScores ↔
      ¬Separator.Ambiguous (js "->session:")
          (impliedIds events intentScores .visitorHasSession) ∧
        ¬Separator.Ambiguous (js "->interaction_event:")
            (impliedIds events intentScores .sessionGeneratedEvent) ∧
          ¬Separator.Ambiguous (js "->intent_score:")
            (impliedIds events intentScores .sessionHasIntentScore) := by
  constructor
  · intro edgesExact
    have distinct :=
      keysDistinguish_iff.mp (keysDistinguish_of_exact edgesExact)
    exact ⟨distinct .visitorHasSession, distinct .sessionGeneratedEvent,
      distinct .sessionHasIntentScore⟩
  · intro distinct
    obtain ⟨ofVisitors, ofEvents, ofScores⟩ := distinct
    apply exact_of_keysDistinguish
    rw [keysDistinguish_iff]
    intro edgeType
    cases edgeType with
    | visitorHasSession =>
        exact ofVisitors
    | sessionGeneratedEvent =>
        exact ofEvents
    | sessionHasIntentScore =>
        exact ofScores
    | sessionViewedExecutive =>
        exact executives_not_ambiguous rfl
    | eventTargetsExecutive =>
        exact executives_not_ambiguous rfl
    | visitorEngagedExecutive =>
        exact executives_not_ambiguous rfl

/-- Two sessions of two visitors with one edge key. -/
def collidingSessions : List ContactGraphInteractionEvent :=
  [{ cardView (js "aaaaaaaa->session:bbbbbbbb") (js "cccccccc") with
      id := js "event-1" },
    { cardView (js "aaaaaaaa") (js "bbbbbbbb->session:cccccccc") with
      id := js "event-2" }]

theorem collidingSessions_not_exact :
    ¬∀ (platform : ContactPlatform)
        (events : List ContactGraphInteractionEvent)
        (intentScores : List ContactGraphIntentScore),
      EdgesExact platform events intentScores := by
  intro claim
  have distinct := keysDistinguish_iff.mp <|
    keysDistinguish_of_exact (claim visitPlatform collidingSessions [])
  apply distinct .visitorHasSession
  exact ⟨(js "aaaaaaaa->session:bbbbbbbb", js "cccccccc"), by decide,
    (js "aaaaaaaa", js "bbbbbbbb->session:cccccccc"), by decide,
    js "bbbbbbbb", by decide, by decide⟩

end BidayaxExecutive.Contacts
