import BidayaxExecutive.Contacts.Grouping
import BidayaxExecutive.IntentScoring.ScoringLaws
import BidayaxExecutive.Library.Schedules
import BidayaxExecutive.Library.Upserts

/-!
# Recalculating the intent scores

A recalculation scores every group of the events it has read and writes each
score with a query of its own, into the row of the group where there is one.
One that runs alone completes and leaves its scores under their groups,
whatever recalculations ran before or stopped on their way.
-/

namespace BidayaxExecutive.IntentScoring

open BidayaxExecutive.Contacts
  (InteractionEventType ExecutiveSlug SnapshotGroup)
open BidayaxExecutive.Library.Schedules
open BidayaxExecutive.Library.Scripts Script
open BidayaxExecutive.Library.Transactions
open BidayaxExecutive.Library.Upserts
open BidayaxExecutive.Runtime JsString

/-! ## Reading -/

/-- A row of `interaction_events`, its time as `toISOString` gives it. -/
structure InteractionEventRow where
  id : JsString
  eventType : JsString
  executiveSlug : JsString
  anonymousVisitorId : JsString
  sessionId : JsString
  sourceUrl : Option JsString
  referrer : Option JsString
  deviceType : Option JsString
  browser : Option JsString
  os : Option JsString
  createdAt : JsString

def interactionEventTypes : List InteractionEventType :=
  [.qrScan, .cardView, .vcardDownload, .callClick, .emailClick, .websiteClick,
    .shareClick, .qrTransferDetected, .qrTransferSuccessFeedback,
    .qrTransferFailureFeedback, .qrTransferHapticsToggled,
    .qrTransferSoundToggled, .qrTransferAnimationToggled, .calendarView,
    .calendarSlotSelected, .calendarRequestSubmitted, .calendarRequestFailed,
    .receptionistRequestStarted, .receptionistRequestSubmitted,
    .receptionistRequestFailed, .receptionistMeetingRequested,
    .receptionistCallbackRequested, .receptionistLeadQualified]

def executiveSlugs : List ExecutiveSlug :=
  [.adGarner, .naimahBarnes, .seanHall]

/-- A row of another type or executive is passed over. -/
def toScoringEvent (row : InteractionEventRow) :
    Option IntentScoringEvent := do
  let eventType ← interactionEventTypes.find? fun eventType =>
    eventType.text = row.eventType
  let executiveSlug ← executiveSlugs.find? fun slug =>
    slug.text = row.executiveSlug
  return {
    id := row.id
    eventType := eventType
    executiveSlug := executiveSlug
    anonymousVisitorId := row.anonymousVisitorId
    sessionId := row.sessionId
    sourceUrl := row.sourceUrl
    referrer := row.referrer
    deviceType := row.deviceType
    browser := row.browser
    os := row.os
    createdAt := row.createdAt }

def IntentScoringEvent.group (event : IntentScoringEvent) :
    SnapshotGroup where
  anonymousVisitorId := event.anonymousVisitorId
  sessionId := event.sessionId
  executiveSlug := event.executiveSlug

def groupKey (event : IntentScoringEvent) : JsString :=
  Contacts.groupKey event.group

def groupEvents (events : List IntentScoringEvent) :
    JsMap JsString (List IntentScoringEvent) :=
  groupBy groupKey events

/-! ## Writing -/

/-- The key of a row of `intent_scores`, which is unique. -/
def IntentScoreResult.group (score : IntentScoreResult) :
    SnapshotGroup where
  anonymousVisitorId := score.anonymousVisitorId
  sessionId := score.sessionId
  executiveSlug := score.executiveSlug

/-- Whether the columns of identifiers and of times take a text.  A time is
stored as the text it came as. -/
structure ScoreColumns where
  storesIdentifier : JsString → Bool
  storesTime : JsString → Bool

section Writing

variable (columns : ScoreColumns)

def ScoreColumns.storesScore (score : IntentScoreResult) : Bool :=
  columns.storesIdentifier score.anonymousVisitorId &&
    columns.storesIdentifier score.sessionId &&
    score.firstEventAt.all columns.storesTime &&
    score.lastEventAt.all columns.storesTime &&
    decide (0 ≤ score.score ∧ score.score ≤ 100) &&
    !score.reasonCodes.isEmpty && decide (score.eventCount ≤ 2147483647)

/-- `on conflict … do update` leaves the key as it is. -/
def overwrite (score old : IntentScoreResult) : IntentScoreResult :=
  { old with
    score := score.score
    tier := score.tier
    reasonCodes := score.reasonCodes
    scoringVersion := score.scoringVersion
    eventCount := score.eventCount
    firstEventAt := score.firstEventAt
    lastEventAt := score.lastEventAt }

def withScore (score : IntentScoreResult) (scores : List IntentScoreResult) :
    List IntentScoreResult :=
  upsert IntentScoreResult.group score (overwrite score) scores

abbrev ScoreScript : Type → Type :=
  Script (List IntentScoreResult) Unit

def upsertScore (score : IntentScoreResult) :
    Transaction (List IntentScoreResult) Unit Unit := fun scores =>
  if columns.storesScore score then (.ok (), withScore score scores)
  else (.error (), scores)

def saveScores : List IntentScoreResult → Nat → ScoreScript Nat
  | [], scoresWritten => pure scoresWritten
  | score :: rest, scoresWritten => do
      perform (upsertScore columns score)
      saveScores rest (scoresWritten + 1)

/-- The rows of the events table, and the time of the scores. -/
structure ScoreInput where
  rows : List InteractionEventRow
  scoredAt : JsString

def ScoreInput.events (input : ScoreInput) : List IntentScoringEvent :=
  input.rows.filterMap toScoringEvent

def ScoreInput.scores (platform : ScoringPlatform) (input : ScoreInput) :
    List IntentScoreResult :=
  (groupEvents input.events).values.map fun groupedEvents =>
    scoreEventGroup platform groupedEvents input.scoredAt

structure RecalculateIntentScoresResult where
  groupsRead : Nat
  scoresWritten : Nat

def recalculateIntentScores (platform : ScoringPlatform)
    (input : ScoreInput) : ScoreScript RecalculateIntentScoresResult := do
  let scoresWritten ← saveScores columns (input.scores platform) 0
  return {
    groupsRead := (groupEvents input.events).keys.length
    scoresWritten := scoresWritten }

end Writing

/-! ## A write -/

/-- What the table holds, by group. -/
def scoreView (scores : List IntentScoreResult) (group : SnapshotGroup) :
    Option IntentScoreResult :=
  rowAt IntentScoreResult.group group scores

theorem scoreView_withScore (score : IntentScoreResult)
    (scores : List IntentScoreResult) :
    scoreView (withScore score scores) =
      Function.update (scoreView scores) score.group (some score) := by
  funext group
  have merged : rowAt IntentScoreResult.group group (withScore score scores) =
      if group = score.group then
        some (((rowAt IntentScoreResult.group score.group scores).map
          (overwrite score)).getD score)
      else rowAt IntentScoreResult.group group scores :=
    rowAt_upsert fun _ same => same
  refine merged.trans ?_
  by_cases isScore : group = score.group
  · rw [if_pos isScore, isScore, Function.update_self]
    cases found : rowAt IntentScoreResult.group score.group scores with
    | none =>
        rfl
    | some old =>
        have same := (rowAt_eq_some found).2
        obtain ⟨sameVisitor, sameSession, sameSlug⟩ :=
          SnapshotGroup.mk.inj same
        rw [Option.map_some, Option.getD_some, overwrite, sameVisitor,
          sameSession, sameSlug]
  · rw [if_neg isScore, Function.update_of_ne isScore]
    rfl

/-- Groups are stored once, and no row but those of some groups is other than
before. -/
structure Rescores (groups : Set SnapshotGroup)
    (before after : List IntentScoreResult) : Prop where
  distinct : (after.map IntentScoreResult.group).Nodup
  others : ∀ group ∉ groups, scoreView after group = scoreView before group

theorem Rescores.withScore {groups : Set SnapshotGroup}
    {before after : List IntentScoreResult} {score : IntentScoreResult}
    (rescores : Rescores groups before after) (isGroup : score.group ∈ groups) :
    Rescores groups before (withScore score after) where
  distinct := nodup_keys_upsert rescores.distinct fun _ same => same
  others := by
    intro group other
    rw [scoreView_withScore, Function.update_of_ne, rescores.others group other]
    rintro rfl
    exact other isGroup

section Saving

variable {columns : ScoreColumns} {groups : Set SnapshotGroup}
  {before : List IntentScoreResult}

theorem preserves_saveScores {scores : List IntentScoreResult}
    (isGroup : ∀ score ∈ scores, score.group ∈ groups) (scoresWritten : Nat) :
    Preserves (Rescores groups before)
      (saveScores columns scores scoresWritten) := by
  induction scores generalizing scoresWritten with
  | nil =>
      exact trivial
  | cons score rest inductionHypothesis =>
      rcases List.forall_mem_cons.mp isGroup with ⟨own, others⟩
      refine preserves_bind (preserves_perform fun now rescores => ?_)
        fun _ => inductionHypothesis others (scoresWritten + 1)
      unfold upsertScore
      split_ifs
      · exact rescores.withScore own
      · exact rescores

theorem yields_saveScores {scores : List IntentScoreResult}
    (stored : ∀ score ∈ scores, columns.storesScore score = true)
    (scoresWritten : Nat) (now : List IntentScoreResult) :
    ∃ final, Yields (saveScores columns scores scoresWritten).run now
        (scoresWritten + scores.length) final ∧
      scoreView final =
        overlay (scores.map fun score => (score.group, score))
          (scoreView now) := by
  induction scores generalizing scoresWritten now with
  | nil =>
      exact ⟨now, rfl, rfl⟩
  | cons score rest inductionHypothesis =>
      rcases List.forall_mem_cons.mp stored with ⟨own, others⟩
      rcases inductionHypothesis others (scoresWritten + 1)
        (withScore score now) with ⟨final, saved, view⟩
      have wrote : upsertScore columns score now =
          (.ok (), withScore score now) :=
        if_pos own
      refine ⟨final, yields_run_bind.mpr ⟨(), _, wrote, ?_⟩, ?_⟩
      · rw [List.length_cons, Nat.add_comm rest.length, ← Nat.add_assoc]
        exact saved
      · rw [view, scoreView_withScore]
        rfl

end Saving

/-! ## The scores of a recalculation -/

section Scores

variable {platform : ScoringPlatform} {input : ScoreInput}

theorem mem_groupEvents {events groupedEvents : List IntentScoringEvent}
    {key : JsString}
    (found : (groupEvents events).get key = some groupedEvents) :
    groupedEvents ≠ [] ∧
      groupedEvents = events.filter fun event => groupKey event = key := by
  unfold groupEvents at found
  rw [get_groupBy] at found
  split_ifs at found with isKey
  rcases List.mem_map.mp isKey with ⟨event, isEvent, same⟩
  have whole := (Option.some.inj found).symm
  refine ⟨?_, whole⟩
  rw [whole]
  exact List.ne_nil_of_mem
    (List.mem_filter.mpr ⟨isEvent, decide_eq_true same⟩)

/-- A score is that of the group of one of its events. -/
theorem exists_group_scoreEventGroup (platform : ScoringPlatform)
    {events : List IntentScoringEvent} (filled : events ≠ [])
    (scoredAt : JsString) :
    ∃ event ∈ events,
      (scoreEventGroup platform events scoredAt).group = event.group := by
  have permuted := orderEvents_perm platform events
  cases ordered : orderEvents platform events with
  | nil =>
      rw [ordered] at permuted
      exact absurd permuted.symm.eq_nil filled
  | cons event rest =>
      refine ⟨event, ?_, ?_⟩
      · rw [← permuted.mem_iff, ordered]
        exact List.mem_cons_self
      · unfold IntentScoreResult.group scoreEventGroup
        rw [ordered]
        rfl

theorem groupKey_of_entry {groupedEvents : List IntentScoringEvent}
    {key : JsString}
    (found : (groupEvents input.events).get key = some groupedEvents) :
    Contacts.groupKey
        (scoreEventGroup platform groupedEvents input.scoredAt).group =
      key := by
  rcases mem_groupEvents found with ⟨filled, whole⟩
  rcases exists_group_scoreEventGroup platform filled input.scoredAt with
    ⟨event, isEvent, same⟩
  rw [whole] at isEvent
  rw [same]
  exact of_decide_eq_true (List.mem_filter.mp isEvent).2

theorem nodup_groups_scores :
    ((input.scores platform).map IntentScoreResult.group).Nodup := by
  let groups := groupEvents input.events
  have keys : ((input.scores platform).map IntentScoreResult.group).map
      Contacts.groupKey = groups.keys := by
    unfold ScoreInput.scores JsMap.values JsMap.keys
    rw [List.map_map, List.map_map, List.map_map]
    refine List.map_congr_left fun entry member => ?_
    exact groupKey_of_entry (JsMap.get_eq_some.mpr member)
  refine List.Nodup.of_map Contacts.groupKey ?_
  rw [keys]
  exact groups.distinct

theorem length_scores :
    (input.scores platform).length =
      (groupEvents input.events).keys.length := by
  unfold ScoreInput.scores JsMap.values JsMap.keys
  rw [List.length_map, List.length_map, List.length_map]

/-! ## What the columns take -/

variable {columns : ScoreColumns}

def ScoreColumns.storesEvent (columns : ScoreColumns)
    (event : IntentScoringEvent) : Bool :=
  columns.storesIdentifier event.anonymousVisitorId &&
    columns.storesIdentifier event.sessionId &&
    columns.storesTime event.createdAt

theorem reasonCodes_ne_nil (platform : ScoringPlatform)
    (events : List IntentScoringEvent) (scoredAt : JsString) :
    (scoreEventGroup platform events scoredAt).reasonCodes ≠ [] := by
  unfold scoreEventGroup
  cases orderEvents platform events with
  | nil =>
      exact List.cons_ne_nil _ _
  | cons event rest =>
      refine List.ne_nil_of_mem
        (a := eventTypeReasonCodes event.eventType) ?_
      change _ ∈ sortReasons _
      unfold sortReasons
      rw [(List.perm_insertionSort _ _).mem_iff, List.mem_eraseDups]
      simp [addedReasons]

theorem storesScore_scoreEventGroup {events : List IntentScoringEvent}
    (filled : events ≠ [])
    (stored : ∀ event ∈ events, columns.storesEvent event = true)
    (valid : ValidTimes platform events) (few : events.length ≤ 2147483647)
    (scoredAt : JsString) :
    columns.storesScore (scoreEventGroup platform events scoredAt) = true := by
  have permuted := orderEvents_perm platform events
  have parts : ∀ event ∈ orderEvents platform events,
      columns.storesIdentifier event.anonymousVisitorId = true ∧
        columns.storesIdentifier event.sessionId = true ∧
        columns.storesTime event.createdAt = true := by
    intro event isEvent
    have stores := stored event (permuted.mem_iff.mp isEvent)
    unfold ScoreColumns.storesEvent at stores
    rw [Bool.and_eq_true, Bool.and_eq_true] at stores
    exact ⟨stores.1.1, stores.1.2, stores.2⟩
  have bounds := score_bounds platform valid scoredAt
  have reasons := reasonCodes_ne_nil platform events scoredAt
  have count : (scoreEventGroup platform events scoredAt).eventCount ≤
      2147483647 :=
    permuted.length_eq.trans_le few
  have last : (scoreEventGroup platform events scoredAt).lastEventAt.all
      columns.storesTime = true := by
    change ((orderEvents platform events).getLast?.map _).all _ = true
    cases isLast : (orderEvents platform events).getLast? with
    | none =>
        rfl
    | some event =>
        exact (parts event (List.mem_of_getLast? isLast)).2.2
  unfold ScoreColumns.storesScore
  simp only [Bool.and_eq_true, decide_eq_true_eq, Bool.not_eq_true',
    List.isEmpty_eq_false_iff]
  have first : ∃ event ∈ orderEvents platform events,
      (orderEvents platform events).head? = some event := by
    cases ordered : orderEvents platform events with
    | nil =>
        rw [ordered] at permuted
        exact absurd permuted.symm.eq_nil filled
    | cons event rest =>
        exact ⟨event, List.mem_cons_self, rfl⟩
  rcases first with ⟨event, isEvent, isFirst⟩
  rcases parts event isEvent with ⟨visitor, session, time⟩
  refine ⟨⟨⟨⟨⟨⟨?_, ?_⟩, ?_⟩, last⟩, bounds⟩, reasons⟩, count⟩
  · simpa only [scoreEventGroup, isFirst, Option.map_some, Option.getD_some]
      using visitor
  · simpa only [scoreEventGroup, isFirst, Option.map_some, Option.getD_some]
      using session
  · simpa only [scoreEventGroup, isFirst, Option.map_some, Option.all_some]
      using time

/-! ## A recalculation that runs alone -/

/-- The rows that a recalculation writes, under their groups. -/
def ScoreInput.scoreWrites (platform : ScoringPlatform)
    (input : ScoreInput) : List (SnapshotGroup × IntentScoreResult) :=
  (input.scores platform).map fun score => (score.group, score)

theorem yields_recalculateIntentScores
    (stored : ∀ event ∈ input.events, columns.storesEvent event = true)
    (valid : ValidTimes platform input.events)
    (few : input.events.length ≤ 2147483647)
    (now : List IntentScoreResult) :
    ∃ final,
      Yields (recalculateIntentScores columns platform input).run now
        ⟨(groupEvents input.events).keys.length,
          (groupEvents input.events).keys.length⟩ final ∧
      scoreView final =
        overlay (input.scoreWrites platform) (scoreView now) := by
  have takes : ∀ score ∈ input.scores platform,
      columns.storesScore score = true := by
    intro score member
    rcases List.mem_map.mp member with ⟨groupedEvents, isValue, rfl⟩
    rcases JsMap.mem_values.mp isValue with ⟨key, found⟩
    rcases mem_groupEvents found with ⟨filled, whole⟩
    have within : groupedEvents.Sublist input.events := by
      rw [whole]
      exact List.filter_sublist
    exact storesScore_scoreEventGroup filled
      (fun event isEvent => stored event (within.subset isEvent))
      (fun event isEvent => valid event (within.subset isEvent))
      (within.length_le.trans few) input.scoredAt
  rcases yields_saveScores takes 0 now with ⟨final, saved, view⟩
  refine ⟨final, yields_run_bind.mpr ⟨_, _, saved,
    yields_run_pure.mpr ⟨?_, rfl⟩⟩, view⟩
  rw [Nat.zero_add, length_scores]

theorem preserves_recalculateIntentScores {groups : Set SnapshotGroup}
    {before : List IntentScoreResult}
    (isGroup : ∀ score ∈ input.scores platform, score.group ∈ groups) :
    Preserves (Rescores groups before)
      (recalculateIntentScores columns platform input) :=
  preserves_bind (preserves_saveScores isGroup 0) fun _ => trivial

/-- The score of the events of a group. -/
def ScoreInput.groupScore (platform : ScoringPlatform) (input : ScoreInput)
    (group : SnapshotGroup) : IntentScoreResult :=
  scoreEventGroup platform
    (input.events.filter fun event => event.group = group) input.scoredAt

/-- Groups are not confused where their keys can be split again. -/
theorem groupScore_mem_scores
    (separable : ∀ event ∈ input.events, event.group.Separable)
    {event : IntentScoringEvent} (member : event ∈ input.events) :
    input.groupScore platform event.group ∈ input.scores platform ∧
      (input.groupScore platform event.group).group = event.group := by
  have sameEvents :
      (input.events.filter fun other => groupKey other = groupKey event) =
        input.events.filter fun other => other.group = event.group := by
    refine List.filter_congr fun other isEvent =>
      decide_eq_decide.mpr ⟨fun same => ?_, congrArg Contacts.groupKey⟩
    exact SnapshotGroup.eq_of_groupKey_eq (separable other isEvent)
      (separable event member) same
  have found : (groupEvents input.events).get (groupKey event) =
      some (input.events.filter fun other => other.group = event.group) := by
    unfold groupEvents
    rw [get_groupBy, if_pos (List.mem_map_of_mem member), sameEvents]
  refine ⟨List.mem_map_of_mem (JsMap.mem_values.mpr ⟨_, found⟩), ?_⟩
  rcases exists_group_scoreEventGroup platform (mem_groupEvents found).1
    input.scoredAt with ⟨other, isOther, same⟩
  exact same.trans (of_decide_eq_true (List.mem_filter.mp isOther).2)

/-! ## Recalculations in any interleaving -/

/-- After any steps of any recalculations, one that runs alone over events that
the columns take completes, and stores one score for each of its groups; where
it has the groups of all the others, nothing else of them is left. -/
theorem recalculations_converge {inputs : List ScoreInput} {picks : List Nat}
    {scripts : List (ScoreScript RecalculateIntentScoresResult)}
    {store middle : List IntentScoreResult}
    (distinct : (store.map IntentScoreResult.group).Nodup)
    (picked : pickSteps picks
      (inputs.map (recalculateIntentScores columns platform)) store =
        some (scripts, middle))
    (stored : ∀ event ∈ input.events, columns.storesEvent event = true)
    (valid : ValidTimes platform input.events)
    (few : input.events.length ≤ 2147483647) :
    ∃ final,
      Yields (recalculateIntentScores columns platform input).run middle
        ⟨(groupEvents input.events).keys.length,
          (groupEvents input.events).keys.length⟩ final ∧
      (final.map IntentScoreResult.group).Nodup ∧
      (∀ score ∈ input.scores platform,
        scoreView final score.group = some score) ∧
      ((∀ event ∈ input.events, event.group.Separable) →
        ∀ event ∈ input.events, scoreView final event.group =
          some (input.groupScore platform event.group)) ∧
      scoreView final =
        overlay (input.scoreWrites platform) (scoreView middle) ∧
      ((∀ earlier ∈ inputs,
          (earlier.scoreWrites platform).map Prod.fst ⊆
            (input.scoreWrites platform).map Prod.fst) →
        scoreView final =
          overlay (input.scoreWrites platform) (scoreView store)) := by
  let groups : Set SnapshotGroup :=
    { group | ∃ earlier ∈ inputs,
      group ∈ (earlier.scoreWrites platform).map Prod.fst }
  have preserves : ∀ script ∈
      inputs.map (recalculateIntentScores columns platform),
      script.Preserves (Rescores groups store) := by
    intro script isScript
    rcases List.mem_map.mp isScript with ⟨earlier, isInput, rfl⟩
    refine preserves_recalculateIntentScores fun score member => ?_
    exact ⟨earlier, isInput,
      List.mem_map_of_mem (List.mem_map_of_mem member)⟩
  have before := pickSteps_preserves preserves
    ⟨distinct, fun _ _ => rfl⟩ picked
  rcases yields_recalculateIntentScores stored valid few middle with
    ⟨final, completed, view⟩
  have alone : Preserves (Rescores Set.univ middle)
      (recalculateIntentScores columns platform input) :=
    preserves_recalculateIntentScores fun _ _ => Set.mem_univ _
  have after := alone.yields completed ⟨before.distinct, fun _ _ => rfl⟩
  have writesNodup : ((input.scoreWrites platform).map Prod.fst).Nodup := by
    unfold ScoreInput.scoreWrites
    rw [List.map_map]
    exact nodup_groups_scores
  have own : ∀ score ∈ input.scores platform,
      scoreView final score.group = some score := by
    intro score member
    rw [view]
    exact overlay_of_mem writesNodup (List.mem_map_of_mem member)
  refine ⟨final, completed, after.distinct, own, ?_, view, ?_⟩
  · intro separable event member
    rcases groupScore_mem_scores separable member with ⟨isScore, same⟩
    have found := own _ isScore
    rw [same] at found
    exact found
  · intro covers
    rw [view]
    refine overlay_congr fun group absent => before.others group ?_
    rintro ⟨earlier, isInput, member⟩
    exact absent (covers earlier isInput member)

end Scores

def visitColumns : ScoreColumns where
  storesIdentifier text := 8 ≤ text.length && text.length ≤ 128
  storesTime text := (isoParse text).isSome

def visitGroup : SnapshotGroup :=
  ⟨js "bxv_test", js "bxs_test", .adGarner⟩

def visitScores : ScoreInput where
  rows := [{
    id := js "1"
    eventType := js "card_view"
    executiveSlug := js "ad-garner"
    anonymousVisitorId := js "bxv_test"
    sessionId := js "bxs_test"
    sourceUrl := none
    referrer := none
    deviceType := some (js "desktop")
    browser := some (js "chrome")
    os := some (js "windows")
    createdAt := js "2026-06-26T11:40:00.000Z" }]
  scoredAt := js "2026-06-26T12:00:00.000Z"

/-- Two recalculations that race for the row of a group, and then a third
one. -/
theorem recalculations_converge_raced :
    ∃ scripts middle final,
      pickSteps [1, 0] ([visitScores, visitScores].map
        (recalculateIntentScores visitColumns isoPlatform)) [] =
          some (scripts, middle) ∧
      Yields (recalculateIntentScores visitColumns isoPlatform
        visitScores).run middle ⟨1, 1⟩ final ∧
      scoreView final visitGroup =
        some (visitScores.groupScore isoPlatform visitGroup) := by
  have valid : ∀ event ∈ visitScores.events,
      (isoPlatform.time event.createdAt).isSome = true := by
    decide +kernel
  have stored : ∀ event ∈ visitScores.events,
      visitColumns.storesEvent event = true := by
    decide +kernel
  have few : visitScores.events.length ≤ 2147483647 := by
    decide +kernel
  have separable : ∀ event ∈ visitScores.events, event.group.Separable := by
    decide +kernel
  have first : visitScores.events.head?.map (·.group) = some visitGroup := by
    decide +kernel
  have groupsRead : (groupEvents visitScores.events).keys.length = 1 := by
    decide +kernel
  have steps : (pickSteps [1, 0] ([visitScores, visitScores].map
      (recalculateIntentScores visitColumns isoPlatform)) []).isSome =
        true := by
    decide +kernel
  rcases Option.isSome_iff_exists.mp steps with ⟨⟨scripts, middle⟩, picked⟩
  have distinct : (([] : List IntentScoreResult).map
      IntentScoreResult.group).Nodup :=
    List.nodup_nil
  rcases recalculations_converge distinct picked stored valid few with
    ⟨final, completed, _, _, own, _⟩
  rcases Option.map_eq_some_iff.mp first with ⟨event, isFirst, same⟩
  have stands := own separable event (List.mem_of_head? isFirst)
  rw [same] at stands
  rw [groupsRead] at completed
  exact ⟨scripts, middle, final, picked, completed, stands⟩

end BidayaxExecutive.IntentScoring
