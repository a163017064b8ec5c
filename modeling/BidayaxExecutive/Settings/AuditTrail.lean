import Mathlib.Data.List.Sort
import BidayaxExecutive.Runtime.JsMap
import BidayaxExecutive.Settings.AuditEvents

/-!
# The settings audit trail

A trail holds the events of one tenant and card, one for each event id, sorted
by time and id.  Of two events with one id the later one in the list replaces
the earlier one.  A trail therefore keeps what it is given exactly when no two
different events share an id; then nothing depends on how the events arrive.
-/

namespace BidayaxExecutive.Settings

open BidayaxExecutive.Runtime JsString

structure SettingsAuditTrail where
  cardId : JsString
  events : List SettingsAuditEvent
  latestSnapshotHash : Option JsString
  tenantId : JsString

structure CreateSettingsAuditTrailInput where
  cardId : JsString
  events : List SettingsAuditEvent := []
  tenantId : JsString

/-- The values of `new Map(events.map((event) => [event.eventId, event]))`. -/
def uniqueEvents (events : List SettingsAuditEvent) :
    List SettingsAuditEvent :=
  (JsMap.ofEntries (events.map fun event => (event.eventId, event))).values

section Trail

variable (platform : Platform)

/-- The comparison of two events is at most zero: their times come first, and
where these compare equal, their ids. -/
def eventLe (left right : SettingsAuditEvent) : Bool :=
  if platform.localeLe left.occurredAt right.occurredAt &&
      platform.localeLe right.occurredAt left.occurredAt then
    platform.localeLe left.eventId right.eventId
  else platform.localeLe left.occurredAt right.occurredAt

def sortEvents (events : List SettingsAuditEvent) : List SettingsAuditEvent :=
  events.insertionSort fun left right => eventLe platform left right = true

def normalizeEvents (tenantId cardId : JsString)
    (events : List SettingsAuditEvent) :
    Except JsString (List SettingsAuditEvent) :=
  if events.any fun event =>
      event.tenantId != tenantId || event.cardId != cardId then
    .error (js "Audit trail events must belong to one tenant and card.")
  else .ok (sortEvents platform (uniqueEvents events))

/-- The last event with a snapshot hash gives the latest one. -/
def latestSnapshotHashOf (events : List SettingsAuditEvent) :
    Option JsString :=
  (events.reverse.find? fun event => event.snapshotHash.isSome).bind
    (·.snapshotHash)

def createSettingsAuditTrail (input : CreateSettingsAuditTrailInput) :
    Except JsString SettingsAuditTrail := do
  let events ← normalizeEvents platform input.tenantId input.cardId input.events
  return {
    cardId := input.cardId
    events
    latestSnapshotHash := latestSnapshotHashOf events
    tenantId := input.tenantId }

def appendSettingsAuditEvents (trail : SettingsAuditTrail)
    (events : List SettingsAuditEvent) : Except JsString SettingsAuditTrail :=
  createSettingsAuditTrail platform
    { cardId := trail.cardId
      events := trail.events ++ events
      tenantId := trail.tenantId }

/-- One append after the other. -/
def appendBatches (trail : SettingsAuditTrail)
    (batches : List (List SettingsAuditEvent)) :
    Except JsString SettingsAuditTrail :=
  batches.foldlM (appendSettingsAuditEvents platform) trail

end Trail

/-! ## One event for each id -/

/-- Events with one id are the same event. -/
def Consistent (events : List SettingsAuditEvent) : Prop :=
  ∀ left ∈ events, ∀ right ∈ events,
    left.eventId = right.eventId → left = right

theorem Consistent.mono {few many : List SettingsAuditEvent}
    (consistent : Consistent many) (subset : ∀ event ∈ few, event ∈ many) :
    Consistent few := by
  intro left leftMember right rightMember
  exact consistent left (subset left leftMember) right
    (subset right rightMember)

theorem consistent_of_nodup {events : List SettingsAuditEvent}
    (distinct : (events.map (·.eventId)).Nodup) : Consistent events := by
  intro left leftMember right rightMember same
  exact List.inj_on_of_nodup_map distinct leftMember rightMember same

section Unique

variable {events : List SettingsAuditEvent} {event : SettingsAuditEvent}

/-- What the map holds under an id is an event of that id. -/
theorem entry_of_mem {eventId : JsString}
    (member : (eventId, event) ∈ (JsMap.ofEntries
      (events.map fun event => (event.eventId, event))).entries) :
    event.eventId = eventId ∧ event ∈ events := by
  rw [← JsMap.get_eq_some, JsMap.get_ofEntries] at member
  obtain ⟨found, foundMember, same⟩ :=
    List.mem_map.mp (JsMap.lastWith_eq_some member)
  obtain ⟨rfl, rfl⟩ := Prod.mk.inj same
  exact ⟨rfl, foundMember⟩

theorem mem_of_mem_uniqueEvents (member : event ∈ uniqueEvents events) :
    event ∈ events := by
  obtain ⟨entry, entryMember, rfl⟩ := List.mem_map.mp member
  exact (entry_of_mem entryMember).2

theorem nodup_uniqueEvents (events : List SettingsAuditEvent) :
    ((uniqueEvents events).map (·.eventId)).Nodup := by
  have keys : (uniqueEvents events).map (·.eventId) =
      (JsMap.ofEntries
        (events.map fun event => (event.eventId, event))).keys := by
    rw [uniqueEvents, JsMap.values, List.map_map, JsMap.keys]
    refine List.map_congr_left fun entry member => ?_
    exact (entry_of_mem member).1
  rw [keys]
  exact JsMap.distinct _

theorem mem_uniqueEvents (consistent : Consistent events) :
    event ∈ uniqueEvents events ↔ event ∈ events := by
  refine ⟨mem_of_mem_uniqueEvents, fun member => ?_⟩
  have listed : (event.eventId, event) ∈
      events.map fun event => (event.eventId, event) :=
    List.mem_map_of_mem member
  obtain ⟨last, isLast⟩ := JsMap.exists_lastWith listed
  have entry := JsMap.get_eq_some.mp ((JsMap.get_ofEntries _ _).trans isLast)
  obtain ⟨sameId, lastMember⟩ := entry_of_mem entry
  have same : last = event :=
    consistent last lastMember event member sameId
  rw [← same]
  exact List.mem_map.mpr ⟨_, entry, rfl⟩

end Unique

/-! ## The order of the events -/

/-- `localeCompare` as a total order on strings. -/
structure LocaleOrder (platform : Platform) : Prop where
  total : ∀ left right, platform.localeLe left right = true ∨
    platform.localeLe right left = true
  trans : ∀ {first second third}, platform.localeLe first second = true →
    platform.localeLe second third = true →
    platform.localeLe first third = true
  antisymm : ∀ {left right}, platform.localeLe left right = true →
    platform.localeLe right left = true → left = right

section Order

variable {platform : Platform} (order : LocaleOrder platform)

include order

theorem eventLe_iff {left right : SettingsAuditEvent} :
    eventLe platform left right = true ↔
      platform.localeLe left.occurredAt right.occurredAt = true ∧
        (left.occurredAt = right.occurredAt →
          platform.localeLe left.eventId right.eventId = true) := by
  by_cases same : left.occurredAt = right.occurredAt
  · have here : platform.localeLe right.occurredAt right.occurredAt = true :=
      (order.total _ _).elim id id
    simp [eventLe, same, here]
  · have apart : ¬(platform.localeLe left.occurredAt right.occurredAt &&
        platform.localeLe right.occurredAt left.occurredAt) = true := by
      rw [Bool.and_eq_true]
      rintro ⟨below, above⟩
      exact same (order.antisymm below above)
    rw [eventLe, if_neg apart]
    simp [same]

theorem eventLe_total (left right : SettingsAuditEvent) :
    eventLe platform left right = true ∨
      eventLe platform right left = true := by
  rw [eventLe_iff order, eventLe_iff order]
  by_cases same : left.occurredAt = right.occurredAt
  · have here : platform.localeLe right.occurredAt right.occurredAt = true :=
      (order.total _ _).elim id id
    rcases order.total left.eventId right.eventId with below | above
    · exact Or.inl ⟨by rw [same]; exact here, fun _ => below⟩
    · exact Or.inr ⟨by rw [same]; exact here, fun _ => above⟩
  · rcases order.total left.occurredAt right.occurredAt with below | above
    · exact Or.inl ⟨below, fun equal => absurd equal same⟩
    · exact Or.inr ⟨above, fun equal => absurd equal.symm same⟩

theorem eventLe_trans {first second third : SettingsAuditEvent}
    (below : eventLe platform first second = true)
    (above : eventLe platform second third = true) :
    eventLe platform first third = true := by
  rw [eventLe_iff order] at below above ⊢
  refine ⟨order.trans below.1 above.1, fun same => ?_⟩
  have firstSecond : first.occurredAt = second.occurredAt := by
    refine order.antisymm below.1 ?_
    rw [same]
    exact above.1
  have secondThird : second.occurredAt = third.occurredAt :=
    firstSecond.symm.trans same
  exact order.trans (below.2 firstSecond) (above.2 secondThird)

theorem eventId_eq_of_eventLe {left right : SettingsAuditEvent}
    (below : eventLe platform left right = true)
    (above : eventLe platform right left = true) :
    left.eventId = right.eventId := by
  rw [eventLe_iff order] at below above
  have sameTime := order.antisymm below.1 above.1
  exact order.antisymm (below.2 sameTime) (above.2 sameTime.symm)

theorem sortEvents_pairwise (events : List SettingsAuditEvent) :
    (sortEvents platform events).Pairwise fun left right =>
      eventLe platform left right = true := by
  have : Std.Total fun left right : SettingsAuditEvent =>
      eventLe platform left right = true :=
    ⟨eventLe_total order⟩
  have : IsTrans SettingsAuditEvent fun left right =>
      eventLe platform left right = true :=
    ⟨fun _ _ _ below above => eventLe_trans order below above⟩
  exact List.pairwise_insertionSort _ events

/-- The sorted events are determined by what they are when their ids are
distinct. -/
theorem eq_of_sorted {left right : List SettingsAuditEvent}
    (leftSorted : left.Pairwise fun first second =>
      eventLe platform first second = true)
    (rightSorted : right.Pairwise fun first second =>
      eventLe platform first second = true)
    (leftDistinct : (left.map (·.eventId)).Nodup)
    (rightDistinct : (right.map (·.eventId)).Nodup)
    (same : ∀ event, event ∈ left ↔ event ∈ right) :
    left = right := by
  have permutation : left.Perm right :=
    (List.perm_ext_iff_of_nodup leftDistinct.of_map rightDistinct.of_map).mpr
      same
  refine List.Perm.eq_of_pairwise ?_ leftSorted rightSorted permutation
  intro first second firstMember secondMember below above
  have consistent := consistent_of_nodup leftDistinct
  exact consistent first firstMember second ((same second).mpr secondMember)
    (eventId_eq_of_eventLe order below above)

end Order

/-! ## The events of a trail -/

/-- The events a trail makes of a list. -/
def arranged (platform : Platform) (events : List SettingsAuditEvent) :
    List SettingsAuditEvent :=
  sortEvents platform (uniqueEvents events)

section Arranged

variable {platform : Platform} {events : List SettingsAuditEvent}

theorem mem_arranged_iff_unique {event : SettingsAuditEvent} :
    event ∈ arranged platform events ↔ event ∈ uniqueEvents events :=
  (List.perm_insertionSort _ _).mem_iff

theorem nodup_arranged (platform : Platform)
    (events : List SettingsAuditEvent) :
    ((arranged platform events).map (·.eventId)).Nodup :=
  ((List.perm_insertionSort _ _).map _).nodup_iff.mpr
    (nodup_uniqueEvents events)

theorem mem_arranged (consistent : Consistent events)
    {event : SettingsAuditEvent} :
    event ∈ arranged platform events ↔ event ∈ events :=
  mem_arranged_iff_unique.trans (mem_uniqueEvents consistent)

theorem mem_of_mem_arranged {event : SettingsAuditEvent}
    (member : event ∈ arranged platform events) : event ∈ events :=
  mem_of_mem_uniqueEvents (mem_arranged_iff_unique.mp member)

/-- The same events in any order make the same trail. -/
theorem arranged_congr (order : LocaleOrder platform)
    {others : List SettingsAuditEvent} (consistent : Consistent events)
    (same : ∀ event, event ∈ events ↔ event ∈ others) :
    arranged platform events = arranged platform others := by
  have others_consistent : Consistent others :=
    consistent.mono fun event member => (same event).mpr member
  refine eq_of_sorted order (sortEvents_pairwise order _)
    (sortEvents_pairwise order _) (nodup_arranged platform _)
    (nodup_arranged platform _) fun event => ?_
  rw [mem_arranged consistent, mem_arranged others_consistent]
  exact same event

theorem arranged_arranged (order : LocaleOrder platform)
    (events : List SettingsAuditEvent) :
    arranged platform (arranged platform events) =
      arranged platform events := by
  refine eq_of_sorted order (sortEvents_pairwise order _)
    (sortEvents_pairwise order _) (nodup_arranged platform _)
    (nodup_arranged platform _) fun event => ?_
  exact mem_arranged (consistent_of_nodup (nodup_arranged platform events))

end Arranged

/-! ## Ids of 32 bits -/

theorem codeUnitPlatform_order : LocaleOrder codeUnitPlatform where
  total := codeUnitLe_total
  trans := codeUnitLe_trans
  antisymm := codeUnitLe_antisymm

/-- The audit event of a draft. -/
def draftCreated (versionId : JsString) : SettingsAuditEvent :=
  createSettingsAuditEventFromVersionEvent codeUnitPlatform
    { eventId := js "event-1"
      eventName := .settingsDraftCreated
      tenantId := js "tenant-1"
      cardId := js "card-1"
      versionId := some versionId
      actorId := js "user-1"
      createdAt := js "2026-07-08T18:00:00.000Z"
      metadata := [] }
    { actor := none
      actorId := js "user-1"
      previousSnapshotHash := none
      snapshotHash := none }

/-- The events of two drafts whose hashes meet. -/
theorem eventId_draftCreated :
    (draftCreated (js "version-176938")).eventId =
      (draftCreated (js "version-2298980")).eventId := by
  decide +kernel

/-! ## Building and extending trails -/

/-- All events are of the tenant and the card. -/
def BelongTo (tenantId cardId : JsString) (events : List SettingsAuditEvent) :
    Prop :=
  ∀ event ∈ events, event.tenantId = tenantId ∧ event.cardId = cardId

section Trails

variable {platform : Platform} {trail : SettingsAuditTrail}
  {events : List SettingsAuditEvent}

/-- The trail of a list of events. -/
def trailOf (platform : Platform) (tenantId cardId : JsString)
    (events : List SettingsAuditEvent) : SettingsAuditTrail where
  cardId := cardId
  events := arranged platform events
  latestSnapshotHash := latestSnapshotHashOf (arranged platform events)
  tenantId := tenantId

theorem createSettingsAuditTrail_eq_ok {input : CreateSettingsAuditTrailInput} :
    createSettingsAuditTrail platform input = .ok trail ↔
      BelongTo input.tenantId input.cardId input.events ∧
        trail = trailOf platform input.tenantId input.cardId input.events := by
  have belongs : (input.events.any fun event =>
      event.tenantId != input.tenantId || event.cardId != input.cardId) =
        false ↔ BelongTo input.tenantId input.cardId input.events := by
    rw [List.any_eq_false]
    simp [BelongTo]
  rw [createSettingsAuditTrail, normalizeEvents]
  by_cases foreign : (input.events.any fun event =>
      event.tenantId != input.tenantId || event.cardId != input.cardId) = true
  · rw [if_pos foreign, ← belongs, foreign]
    exact iff_of_false nofun nofun
  · rw [if_neg foreign, ← belongs]
    have mine : (input.events.any fun event =>
        event.tenantId != input.tenantId || event.cardId != input.cardId) =
        false := by
      simpa using foreign
    constructor
    · intro created
      exact ⟨mine, (Except.ok.inj created).symm⟩
    · rintro ⟨_, rfl⟩
      rfl

theorem appendSettingsAuditEvents_eq_ok {appended : SettingsAuditTrail} :
    appendSettingsAuditEvents platform trail events = .ok appended ↔
      BelongTo trail.tenantId trail.cardId (trail.events ++ events) ∧
        appended = trailOf platform trail.tenantId trail.cardId
          (trail.events ++ events) :=
  createSettingsAuditTrail_eq_ok

/-- Batches that hold the new events, in whatever order, make the same trail. -/
theorem appendBatches_eq_ok (order : LocaleOrder platform)
    {tenantId cardId : JsString} {present : List SettingsAuditEvent}
    {batches : List (List SettingsAuditEvent)}
    (belong : BelongTo tenantId cardId (present ++ batches.flatten))
    (consistent : Consistent (present ++ batches.flatten)) :
    appendBatches platform (trailOf platform tenantId cardId present) batches =
      .ok (trailOf platform tenantId cardId (present ++ batches.flatten)) := by
  induction batches generalizing present with
  | nil =>
      rw [List.flatten_nil, List.append_nil]
      rfl
  | cons batch rest inductionHypothesis =>
      rw [List.flatten_cons, ← List.append_assoc] at belong consistent ⊢
      have consistentHere : Consistent (present ++ batch) :=
        consistent.mono fun event member => List.mem_append_left _ member
      have consistentBefore : Consistent present :=
        consistentHere.mono fun event member => List.mem_append_left _ member
      have sameMembers : ∀ event,
          event ∈ arranged platform present ++ batch ↔
            event ∈ present ++ batch := by
        intro event
        rw [List.mem_append, List.mem_append, mem_arranged consistentBefore]
      have rearranged : arranged platform (arranged platform present ++ batch) =
          arranged platform (present ++ batch) :=
        (arranged_congr order consistentHere fun event =>
          (sameMembers event).symm).symm
      have appended : appendSettingsAuditEvents platform
          (trailOf platform tenantId cardId present) batch =
          .ok (trailOf platform tenantId cardId (present ++ batch)) := by
        refine appendSettingsAuditEvents_eq_ok.mpr ⟨?_, ?_⟩
        · intro event member
          exact belong event
            (List.mem_append_left _ ((sameMembers event).mp member))
        · simp only [trailOf, rearranged]
      calc
        appendBatches platform (trailOf platform tenantId cardId present)
            (batch :: rest)
          = appendBatches platform
              (trailOf platform tenantId cardId (present ++ batch)) rest := by
            rw [appendBatches, List.foldlM_cons, appended]
            rfl
        _ = .ok (trailOf platform tenantId cardId
              (present ++ batch ++ rest.flatten)) :=
            inductionHypothesis belong consistent

/-- The trail with the event of one draft. -/
def draftTrail (versionId : JsString) : SettingsAuditTrail :=
  trailOf codeUnitPlatform (js "tenant-1") (js "card-1")
    [draftCreated versionId]

theorem draftCreated_belongs (versionId : JsString) :
    BelongTo (js "tenant-1") (js "card-1") [draftCreated versionId] :=
  List.forall_mem_singleton.mpr ⟨rfl, rfl⟩

theorem createSettingsAuditTrail_draft (versionId : JsString) :
    createSettingsAuditTrail codeUnitPlatform
        { cardId := js "card-1"
          events := [draftCreated versionId]
          tenantId := js "tenant-1" } =
      .ok (draftTrail versionId) :=
  createSettingsAuditTrail_eq_ok.mpr ⟨draftCreated_belongs versionId, rfl⟩

/-- What a trail owes to the events it is given. -/
structure Appends (platform : Platform) (trail : SettingsAuditTrail)
    (events : List SettingsAuditEvent) (appended : SettingsAuditTrail) :
    Prop where
  appends : appendSettingsAuditEvents platform trail events = .ok appended
  keeps : ∀ event ∈ trail.events, event ∈ appended.events
  contains : ∀ event ∈ events, event ∈ appended.events
  eachOnce : (appended.events.map (·.eventId)).Nodup
  sorted : appended.events.Pairwise fun left right =>
    eventLe platform left right = true
  anyOrder : ∀ batches : List (List SettingsAuditEvent),
    batches.flatten.Perm events →
    appendBatches platform trail batches = .ok appended

/-- A trail is append-only, whatever the order and the batches, exactly when no
two different events share an id. -/
theorem exists_appends_iff (order : LocaleOrder platform)
    {input : CreateSettingsAuditTrailInput}
    (created : createSettingsAuditTrail platform input = .ok trail)
    (belong : BelongTo trail.tenantId trail.cardId events) :
    (∃ appended, Appends platform trail events appended) ↔
      Consistent (trail.events ++ events) := by
  obtain ⟨inputBelongs, isTrail⟩ := createSettingsAuditTrail_eq_ok.mp created
  constructor
  · rintro ⟨appended, appends⟩
    refine (consistent_of_nodup appends.eachOnce).mono fun event member => ?_
    rcases List.mem_append.mp member with present | new
    · exact appends.keeps event present
    · exact appends.contains event new
  · intro consistent
    -- The trail is the trail of its own events.
    have again : trail =
        trailOf platform trail.tenantId trail.cardId trail.events := by
      rw [isTrail]
      simp only [trailOf, arranged_arranged order]
    have allBelong : BelongTo trail.tenantId trail.cardId
        (trail.events ++ events) := by
      intro event member
      rcases List.mem_append.mp member with present | new
      · rw [isTrail] at present ⊢
        exact inputBelongs event (mem_of_mem_arranged present)
      · exact belong event new
    refine ⟨trailOf platform trail.tenantId trail.cardId
      (trail.events ++ events), ?_, ?_, ?_, ?_, ?_, ?_⟩
    · exact appendSettingsAuditEvents_eq_ok.mpr ⟨allBelong, rfl⟩
    · intro event present
      exact (mem_arranged consistent).mpr (List.mem_append_left _ present)
    · intro event new
      exact (mem_arranged consistent).mpr (List.mem_append_right _ new)
    · exact nodup_arranged platform _
    · exact sortEvents_pairwise order _
    · intro batches permutation
      have sameMembers : ∀ event, event ∈ trail.events ++ events ↔
          event ∈ trail.events ++ batches.flatten := by
        intro event
        rw [List.mem_append, List.mem_append, permutation.mem_iff]
      have batchesBelong : BelongTo trail.tenantId trail.cardId
          (trail.events ++ batches.flatten) :=
        fun event member => allBelong event ((sameMembers event).mpr member)
      have batchesConsistent :
          Consistent (trail.events ++ batches.flatten) :=
        consistent.mono fun event member => (sameMembers event).mpr member
      have appended := appendBatches_eq_ok order batchesBelong batchesConsistent
      rw [← again] at appended
      rw [appended]
      simp only [trailOf, arranged_congr order consistent sameMembers]

end Trails

theorem exists_appends_two_drafts :
    ∃ appended, Appends codeUnitPlatform (draftTrail (js "version-1"))
      [draftCreated (js "version-2")] appended :=
  (exists_appends_iff codeUnitPlatform_order
    (createSettingsAuditTrail_draft (js "version-1"))
    (draftCreated_belongs (js "version-2"))).mpr <|
      consistent_of_nodup (by decide +kernel)

/-- A trail loses the event of a draft to that of another draft. -/
theorem not_exists_appends_of_collision :
    createSettingsAuditTrail codeUnitPlatform
        { cardId := js "card-1"
          events := [draftCreated (js "version-176938")]
          tenantId := js "tenant-1" } =
      .ok (draftTrail (js "version-176938")) ∧
    BelongTo (js "tenant-1") (js "card-1")
      [draftCreated (js "version-2298980")] ∧
    ¬∃ appended, Appends codeUnitPlatform
      (draftTrail (js "version-176938"))
      [draftCreated (js "version-2298980")] appended := by
  refine ⟨createSettingsAuditTrail_draft _, draftCreated_belongs _, ?_⟩
  rintro ⟨appended, appends⟩
  have alone : Consistent [draftCreated (js "version-176938")] :=
    consistent_of_nodup (List.nodup_singleton _)
  have present : draftCreated (js "version-176938") ∈
      arranged codeUnitPlatform [draftCreated (js "version-176938")] :=
    (mem_arranged alone).mpr List.mem_cons_self
  have kept := appends.keeps _ present
  have added := appends.contains _ List.mem_cons_self
  have same := consistent_of_nodup appends.eachOnce _ kept _ added
    eventId_draftCreated
  have sameVersion := congrArg (fun event =>
    event.metadata.map fun entry => entry.2.map jsonStringify) same
  exact absurd sameVersion (by decide +kernel)

end BidayaxExecutive.Settings
