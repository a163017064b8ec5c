import BidayaxExecutive.Contacts.Snapshots
import BidayaxExecutive.Library.Runs
import BidayaxExecutive.Runtime.Instant

/-!
# Which groups are exact

A group key says which visitor, session and executive it was joined from
exactly when no identifier holds the joining colons or ends with a colon.  Then
there is one snapshot of every triple in the input, with what belongs to it;
otherwise triples are merged or come back changed.
-/

namespace BidayaxExecutive.Contacts

open BidayaxExecutive.Runtime JsString
open BidayaxExecutive.Library.DoubledSeparator
open BidayaxExecutive.Library.Runs (foldl_keeps)

/-! ## Keys -/

theorem groupKey_eq (group : SnapshotGroup) :
    groupKey group =
      group.anonymousVisitorId ++ 58 :: 58 ::
        (group.sessionId ++ 58 :: 58 :: group.executiveSlug.text) := by
  unfold groupKey
  rw [List.intercalate_cons_cons, List.intercalate_cons_cons,
    List.intercalate_singleton, List.append_assoc, List.append_assoc]
  rfl

/-- The identifiers as a key is split into them. -/
def SnapshotGroup.parts (group : SnapshotGroup) :
    JsString × JsString × JsString :=
  (group.anonymousVisitorId, group.sessionId, group.executiveSlug.text)

theorem ExecutiveSlug.text_injective :
    Function.Injective ExecutiveSlug.text := by
  intro left right same
  cases left <;> cases right <;> first | rfl | exact nomatch same

theorem SnapshotGroup.parts_injective :
    Function.Injective SnapshotGroup.parts := by
  intro left right same
  cases left
  cases right
  simp only [SnapshotGroup.parts, Prod.mk.injEq] at same
  obtain ⟨sameVisitor, sameSession, sameSlug⟩ := same
  rw [sameVisitor, sameSession, ExecutiveSlug.text_injective sameSlug]

/-- Neither identifier holds two colons in a row or ends with a colon. -/
def SnapshotGroup.Separable (group : SnapshotGroup) : Prop :=
  Clean 58 group.anonymousVisitorId ∧ Clean 58 group.sessionId

instance (group : SnapshotGroup) : Decidable group.Separable :=
  inferInstanceAs (Decidable (_ ∧ _))

theorem plain_slug (slug : ExecutiveSlug) : Plain 58 slug.text := by
  cases slug <;> decide

theorem splitKey_of_separable {group : SnapshotGroup}
    (separable : group.Separable) :
    splitKey (groupKey group) = group.parts := by
  rw [splitKey, groupKey_eq,
    split_three_of_clean separable.1 separable.2 (plain_slug _)]
  rfl

theorem SnapshotGroup.eq_of_groupKey_eq {left right : SnapshotGroup}
    (leftSeparable : left.Separable) (rightSeparable : right.Separable)
    (same : groupKey left = groupKey right) : left = right := by
  apply SnapshotGroup.parts_injective
  rw [← splitKey_of_separable leftSeparable,
    ← splitKey_of_separable rightSeparable, same]

/-- What is split off a key could be joined and split again. -/
theorem splitKey_clean (group : SnapshotGroup) :
    Clean 58 (splitKey (groupKey group)).1 ∧
      Clean 58 (splitKey (groupKey group)).2.1 := by
  obtain ⟨a, b, c, others, parts, aClean, bClean, _⟩ := split_three 58
    group.anonymousVisitorId group.sessionId group.executiveSlug.text
  rw [splitKey, groupKey_eq, parts]
  exact ⟨aClean, bClean⟩

/-! ## The groups of a build -/

section Frames

variable (state : GraphState)

@[simp]
theorem groupedEvents_addNode (node : ContactGraphNode) :
    (addNode node state).groupedEvents = state.groupedEvents := by
  unfold addNode
  split_ifs <;> rfl

@[simp]
theorem groupedScores_addNode (node : ContactGraphNode) :
    (addNode node state).groupedScores = state.groupedScores := by
  unfold addNode
  split_ifs <;> rfl

@[simp]
theorem groupedEvents_addEdge (edge : ContactGraphEdge) :
    (addEdge edge state).groupedEvents = state.groupedEvents := by
  unfold addEdge
  split_ifs <;> rfl

@[simp]
theorem groupedScores_addEdge (edge : ContactGraphEdge) :
    (addEdge edge state).groupedScores = state.groupedScores := by
  unfold addEdge
  split_ifs <;> rfl

@[simp]
theorem groupedEvents_addCoreNodes (group : SnapshotGroup) :
    (addCoreNodes group state).groupedEvents = state.groupedEvents := by
  simp [addCoreNodes, addVisitorNode, addSessionNode, addExecutiveNode]

@[simp]
theorem groupedScores_addCoreNodes (group : SnapshotGroup) :
    (addCoreNodes group state).groupedScores = state.groupedScores := by
  simp [addCoreNodes, addVisitorNode, addSessionNode, addExecutiveNode]

@[simp]
theorem groupedEvents_addEdges (edges : List ContactGraphEdge) :
    (addEdges edges state).groupedEvents = state.groupedEvents :=
  foldl_keeps GraphState.groupedEvents groupedEvents_addEdge edges state

@[simp]
theorem groupedScores_addEdges (edges : List ContactGraphEdge) :
    (addEdges edges state).groupedScores = state.groupedScores :=
  foldl_keeps GraphState.groupedScores groupedScores_addEdge edges state

theorem groupedEvents_addEvent (event : ContactGraphInteractionEvent) :
    (addEvent event state).groupedEvents =
      pushGroup (groupKey event.group) event state.groupedEvents := by
  simp [addEvent]

theorem groupedScores_addEvent (event : ContactGraphInteractionEvent) :
    (addEvent event state).groupedScores = state.groupedScores := by
  simp [addEvent]

theorem groupedEvents_addScore (score : ContactGraphIntentScore) :
    (addScore score state).groupedEvents = state.groupedEvents := by
  simp [addScore]

theorem groupedScores_addScore (score : ContactGraphIntentScore) :
    (addScore score state).groupedScores =
      pushGroup (groupKey score.group) score state.groupedScores := by
  simp [addScore]

end Frames

variable (events : List ContactGraphInteractionEvent)
  (intentScores : List ContactGraphIntentScore)

/-- The walk groups the events as the intent scoring service does. -/
theorem groupedEvents_collectGraph :
    (collectGraph events intentScores).groupedEvents =
      groupEvents events := by
  rw [collectGraph,
    foldl_keeps GraphState.groupedEvents groupedEvents_addScore]
  exact (List.foldl_hom GraphState.groupedEvents fun state event =>
    (groupedEvents_addEvent state event).symm).symm

theorem groupedScores_collectGraph :
    (collectGraph events intentScores).groupedScores =
      groupBy (fun score => groupKey score.group) intentScores := by
  have grouped := foldl_keeps GraphState.groupedScores groupedScores_addEvent
    events .initial
  unfold collectGraph groupBy
  rw [show JsMap.empty = _ from grouped.symm]
  exact (List.foldl_hom GraphState.groupedScores fun state score =>
    (groupedScores_addScore state score).symm).symm

/-! ## Exactness -/

/-- The distinct triples of the input. -/
def inputGroups : List SnapshotGroup :=
  (events.map (·.group) ++ intentScores.map (·.group)).dedup

/-- The snapshot of a triple and of what belongs to exactly this triple. -/
def snapshotOfGroup (platform : ContactPlatform) (group : SnapshotGroup) :
    ContactGraphSnapshot :=
  createGraphSnapshot platform group.anonymousVisitorId group.sessionId
    group.executiveSlug.text
    (events.filter fun event => event.group = group)
    (intentScores.filter fun score => score.group = group)

/-- One snapshot of every distinct triple, and no scoring group of two. -/
structure GroupingExact (platform : ContactPlatform) : Prop where
  snapshots : (buildGraphFromEvents platform events
    intentScores).snapshots.Perm
      ((inputGroups events intentScores).map
        (snapshotOfGroup events intentScores platform))
  scoring : ∀ group ∈ (groupEvents events).values, ∃ triple,
    ∀ event ∈ group, event.group = triple

variable {events intentScores}

theorem mem_inputGroups_of_event {event : ContactGraphInteractionEvent}
    (member : event ∈ events) :
    event.group ∈ inputGroups events intentScores :=
  List.mem_dedup.mpr (List.mem_append_left _ (List.mem_map_of_mem member))

theorem mem_inputGroups_of_score {score : ContactGraphIntentScore}
    (member : score ∈ intentScores) :
    score.group ∈ inputGroups events intentScores :=
  List.mem_dedup.mpr (List.mem_append_right _ (List.mem_map_of_mem member))

theorem mem_snapshotKeys {key : JsString} :
    key ∈ snapshotKeys (collectGraph events intentScores) ↔
      ∃ group ∈ inputGroups events intentScores, groupKey group = key := by
  rw [snapshotKeys, List.mem_dedup, List.mem_append,
    groupedEvents_collectGraph, groupedScores_collectGraph, groupEvents,
    mem_keys_groupBy, mem_keys_groupBy, List.mem_map, List.mem_map]
  constructor
  · intro found
    cases found with
    | inl ofEvent =>
        obtain ⟨event, member, same⟩ := ofEvent
        exact ⟨event.group, mem_inputGroups_of_event member, same⟩
    | inr ofScore =>
        obtain ⟨score, member, same⟩ := ofScore
        exact ⟨score.group, mem_inputGroups_of_score member, same⟩
  · intro found
    obtain ⟨group, member, same⟩ := found
    cases List.mem_append.mp (List.mem_dedup.mp member) with
    | inl ofEvent =>
        obtain ⟨event, isEvent, sameGroup⟩ := List.mem_map.mp ofEvent
        exact .inl ⟨event, isEvent, by rw [sameGroup, same]⟩
    | inr ofScore =>
        obtain ⟨score, isScore, sameGroup⟩ := List.mem_map.mp ofScore
        exact .inr ⟨score, isScore, by rw [sameGroup, same]⟩

theorem separable_of_exact {platform : ContactPlatform}
    (groupingExact : GroupingExact events intentScores platform) :
    ∀ group ∈ inputGroups events intentScores, group.Separable := by
  intro group member
  have own := groupingExact.snapshots.mem_iff.mpr
    (List.mem_map_of_mem member)
  obtain ⟨key, isKey, same⟩ := List.mem_map.mp own
  obtain ⟨other, _, sameKey⟩ :=
    mem_snapshotKeys.mp ((mem_sortOn id).mp isKey)
  have sameVisitor : (splitKey key).1 = group.anonymousVisitorId :=
    congrArg ContactGraphSnapshot.anonymousVisitorId same
  have sameSession : (splitKey key).2.1 = group.sessionId :=
    congrArg ContactGraphSnapshot.sessionId same
  have clean := splitKey_clean other
  rw [sameKey, sameVisitor, sameSession] at clean
  exact clean

section Separable

variable (separable : ∀ group ∈ inputGroups events intentScores,
  group.Separable)

include separable

theorem groupKey_injOn {left right : SnapshotGroup}
    (leftMember : left ∈ inputGroups events intentScores)
    (rightMember : right ∈ inputGroups events intentScores)
    (same : groupKey left = groupKey right) : left = right :=
  SnapshotGroup.eq_of_groupKey_eq (separable left leftMember)
    (separable right rightMember) same

/-- What has the key of a triple belongs to the triple. -/
theorem filter_groupKey_eq {Item : Type} (items : List Item)
    (groupOf : Item → SnapshotGroup)
    (inInput : ∀ item ∈ items, groupOf item ∈ inputGroups events intentScores)
    {group : SnapshotGroup}
    (member : group ∈ inputGroups events intentScores) :
    (items.filter fun item => groupKey (groupOf item) = groupKey group) =
      items.filter fun item => groupOf item = group := by
  apply List.filter_congr
  intro item isItem
  apply decide_eq_decide.mpr
  constructor
  · exact groupKey_injOn separable (inInput item isItem) member
  · exact congrArg groupKey

theorem snapshotOfKey_groupKey (platform : ContactPlatform)
    {group : SnapshotGroup}
    (member : group ∈ inputGroups events intentScores) :
    snapshotOfKey platform (collectGraph events intentScores)
        (groupKey group) =
      snapshotOfGroup events intentScores platform group := by
  have sameEvents := filter_groupKey_eq separable events (·.group)
    (fun _ => mem_inputGroups_of_event) member
  have sameScores := filter_groupKey_eq separable intentScores (·.group)
    (fun _ => mem_inputGroups_of_score) member
  rw [snapshotOfKey, splitKey_of_separable (separable group member),
    groupedEvents_collectGraph, groupedScores_collectGraph, groupEvents,
    getD_groupBy, getD_groupBy, sameEvents, sameScores]
  rfl

theorem snapshots_perm (platform : ContactPlatform) :
    (buildGraphFromEvents platform events intentScores).snapshots.Perm
      ((inputGroups events intentScores).map
        (snapshotOfGroup events intentScores platform)) := by
  have distinct :
      ((inputGroups events intentScores).map groupKey).Nodup := by
    apply List.Nodup.map_on _ (List.nodup_dedup _)
    intro left leftMember right rightMember same
    exact groupKey_injOn separable leftMember rightMember same
  have keysDistinct :
      (snapshotKeys (collectGraph events intentScores)).Nodup :=
    List.nodup_dedup _
  have sameKeys : (snapshotKeys (collectGraph events intentScores)).Perm
      ((inputGroups events intentScores).map groupKey) := by
    apply (List.perm_ext_iff_of_nodup keysDistinct distinct).mpr
    intro key
    rw [mem_snapshotKeys, List.mem_map]
  have mapped := ((sortOn_perm id _).trans sameKeys).map
    (snapshotOfKey platform (collectGraph events intentScores))
  have sameSnapshots := List.map_congr_left fun group member =>
    snapshotOfKey_groupKey separable platform member
  rw [List.map_map] at mapped
  rw [← sameSnapshots]
  exact mapped

theorem scoring_single :
    ∀ group ∈ (groupEvents events).values, ∃ triple,
      ∀ event ∈ group, event.group = triple := by
  intro group isGroup
  obtain ⟨key, found⟩ := JsMap.mem_values.mp isGroup
  rw [groupEvents, get_groupBy] at found
  by_cases member : key ∈ events.map fun event => groupKey event.group
  · rw [if_pos member] at found
    obtain ⟨first, isFirst, sameKey⟩ := List.mem_map.mp member
    refine ⟨first.group, ?_⟩
    intro event isEvent
    rw [← Option.some.inj found] at isEvent
    obtain ⟨inInput, ownKey⟩ := List.mem_filter.mp isEvent
    apply groupKey_injOn separable (mem_inputGroups_of_event inInput)
      (mem_inputGroups_of_event isFirst)
    rw [sameKey]
    exact of_decide_eq_true ownKey
  · rw [if_neg member] at found
    exact nomatch found

end Separable

/-- `z.string().trim().min(8).max(128)`. -/
def Admissible (id : JsString) : Prop :=
  trim id = id ∧ 8 ≤ id.length ∧ id.length ≤ 128

instance (id : JsString) : Decidable (Admissible id) :=
  inferInstanceAs (Decidable (_ ∧ _))

def cardView (anonymousVisitorId sessionId : JsString) :
    ContactGraphInteractionEvent where
  id := js "event"
  eventType := .cardView
  executiveSlug := .adGarner
  anonymousVisitorId := anonymousVisitorId
  sessionId := sessionId
  sourceUrl := none
  createdAt := js "2026-06-26T11:00:00.000Z"

def visitPlatform : ContactPlatform where
  localeLe := codeUnitLe
  time text := (isoParse text).map TimeValue.milliseconds
  unknownLabel := id

/-- Two visitors with one key. -/
def mergedVisitors : List ContactGraphInteractionEvent :=
  [cardView (js "aaaaaaaa::bbbbbbbb") (js "cccccccc"),
    cardView (js "aaaaaaaa") (js "bbbbbbbb::cccccccc")]

end BidayaxExecutive.Contacts
