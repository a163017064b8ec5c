import BidayaxExecutive.IntentScoring.ScoreEventGroup
import Mathlib.Algebra.BigOperators.Group.List.Basic
import Mathlib.Data.List.Perm.Subperm
import Mathlib.Data.List.ReduceOption
import Mathlib.Tactic.Linarith
import Mathlib.Tactic.GCongr
import Mathlib.Tactic.NormNum

/-!
# Laws of the intent score

The order of the events is forgotten by every term of the score, and no term
falls when an event is added within the session.
-/

namespace BidayaxExecutive.IntentScoring

open BidayaxExecutive.Runtime JsString
open BidayaxExecutive.Contacts
  (InteractionEventType ExecutiveSlug IntentTier TimesLe)

/-! ## Sets of reasons and types -/

/-- A set is sorted into one list, however it was filled. -/
theorem sortReasons_eq_of_mem {reasons others : List IntentReasonCode}
    (same : ∀ reason, reason ∈ reasons ↔ reason ∈ others) :
    sortReasons reasons = sortReasons others := by
  have total : Std.Total fun left right : IntentReasonCode =>
      codeUnitLe left.text right.text = true :=
    ⟨fun left right => codeUnitLe_total left.text right.text⟩
  have trans : IsTrans IntentReasonCode fun left right =>
      codeUnitLe left.text right.text = true :=
    ⟨fun _ _ _ below above => codeUnitLe_trans below above⟩
  refine List.Perm.eq_of_pairwise ?_ (List.pairwise_insertionSort _ _)
    (List.pairwise_insertionSort _ _)
    ((List.perm_insertionSort _ _).trans
      ((eraseDups_perm same).trans (List.perm_insertionSort _ _).symm))
  intro left right _ _ below above
  exact IntentReasonCode.text_injective (codeUnitLe_antisymm below above)

/-! ## Terms that count events and types -/

theorem baseScore_perm {events permuted : List IntentScoringEvent}
    (same : permuted.Perm events) :
    baseScore permuted = baseScore events :=
  (same.map _).sum_eq

theorem baseScore_le_cons (event : IntentScoringEvent)
    (events : List IntentScoringEvent) :
    baseScore events ≤ baseScore (event :: events) := by
  have worth := eventTypeBaseScores_nonneg event.eventType
  simp only [baseScore, List.map_cons, List.sum_cons]
  omega

theorem baseScore_nonneg (events : List IntentScoringEvent) :
    0 ≤ baseScore events := by
  induction events with
  | nil =>
      simp [baseScore]
  | cons event rest ih =>
      exact Int.le_trans ih (baseScore_le_cons event rest)

theorem repeatEngagementBonus_perm
    {events permuted : List IntentScoringEvent}
    (same : permuted.Perm events) :
    repeatEngagementBonus permuted = repeatEngagementBonus events := by
  simp only [repeatEngagementBonus, same.length_eq]

theorem repeatEngagementBonus_nonneg (events : List IntentScoringEvent) :
    0 ≤ repeatEngagementBonus events := by
  simp only [repeatEngagementBonus, scoringRules]
  split <;> omega

theorem repeatEngagementBonus_le_cons (event : IntentScoringEvent)
    (events : List IntentScoringEvent) :
    repeatEngagementBonus events ≤ repeatEngagementBonus (event :: events) := by
  simp only [repeatEngagementBonus, scoringRules, List.length_cons]
  split <;> split <;> omega

theorem maxActionDepth_eq_foldr (events : List IntentScoringEvent) :
    maxActionDepth events =
      (events.map fun event => actionDepthScores event.eventType).foldr
        max 0 := by
  induction events with
  | nil =>
      rfl
  | cons event rest ih =>
      have deep := actionDepthScores_nonneg event.eventType
      simp only [List.map_cons, List.foldr_cons, ← ih]
      simp only [maxActionDepth, List.map_cons, List.max?_cons]
      cases (rest.map fun event => actionDepthScores event.eventType).max? with
      | none =>
          simp [Option.elim, deep]
      | some depth =>
          simp [Option.elim]

theorem maxActionDepth_perm {events permuted : List IntentScoringEvent}
    (same : permuted.Perm events) :
    maxActionDepth permuted = maxActionDepth events := by
  rw [maxActionDepth_eq_foldr, maxActionDepth_eq_foldr]
  exact (same.map _).foldr_eq 0

theorem maxActionDepth_le_cons (event : IntentScoringEvent)
    (events : List IntentScoringEvent) :
    maxActionDepth events ≤ maxActionDepth (event :: events) := by
  rw [maxActionDepth_eq_foldr, maxActionDepth_eq_foldr, List.map_cons,
    List.foldr_cons]
  exact le_max_right _ _

theorem hasKnownReferrer_perm {events permuted : List IntentScoringEvent}
    (same : permuted.Perm events) :
    hasKnownReferrer permuted = hasKnownReferrer events :=
  same.any_eq

theorem hasCompleteDeviceContext_perm
    {events permuted : List IntentScoringEvent}
    (same : permuted.Perm events) :
    hasCompleteDeviceContext permuted = hasCompleteDeviceContext events :=
  same.any_eq

/-! ## Recency -/

section Platform

variable (platform : ScoringPlatform)

def ValidTimes (events : List IntentScoringEvent) : Prop :=
  ∀ event ∈ events, (platform.time event.createdAt).isSome = true

theorem ValidTimes.of_perm {platform : ScoringPlatform}
    {events permuted : List IntentScoringEvent}
    (valid : ValidTimes platform events) (same : permuted.Perm events) :
    ValidTimes platform permuted :=
  fun event member => valid event (same.mem_iff.mp member)

theorem orderEvents_perm (events : List IntentScoringEvent) :
    (orderEvents platform events).Perm events :=
  List.perm_insertionSort _ events

def IsLatest (events : List IntentScoringEvent) (latest : Int) : Prop :=
  (∃ event ∈ events, platform.time event.createdAt = some latest) ∧
    ∀ event ∈ events, ∀ time,
      platform.time event.createdAt = some time → time ≤ latest

theorem IsLatest.unique {platform : ScoringPlatform}
    {events : List IntentScoringEvent} {latest other : Int}
    (first : IsLatest platform events latest)
    (second : IsLatest platform events other) : latest = other := by
  obtain ⟨⟨last, lastMember, lastTime⟩, above⟩ := first
  obtain ⟨⟨otherLast, otherMember, otherTime⟩, otherAbove⟩ := second
  exact Int.le_antisymm (otherAbove last lastMember latest lastTime)
    (above otherLast otherMember other otherTime)

theorem getLast_orderEvents {events : List IntentScoringEvent}
    {last : IntentScoringEvent} (valid : ValidTimes platform events)
    (isLast : (orderEvents platform events).getLast? = some last) :
    ∃ latest, platform.time last.createdAt = some latest ∧
      IsLatest platform events latest := by
  have sameMembers := fun event =>
    (orderEvents_perm platform events).mem_iff (a := event)
  obtain ⟨earlier, shape⟩ := List.getLast?_eq_some_iff.mp isLast
  have lastMember : last ∈ events := by
    rw [← sameMembers, shape]
    exact List.mem_append_right earlier List.mem_cons_self
  obtain ⟨latest, latestTime⟩ :=
    Option.isSome_iff_exists.mp (valid last lastMember)
  -- Sorting the events by time sorts their times.
  have sortedTimes : (orderEvents platform events).map
        (fun event => (platform.time event.createdAt).getD 0) =
      (events.map fun event =>
        (platform.time event.createdAt).getD 0).insertionSort (· ≤ ·) := by
    unfold orderEvents
    apply List.map_insertionSort
    intro left leftMember right rightMember
    obtain ⟨leftTime, leftReads⟩ :=
      Option.isSome_iff_exists.mp (valid left leftMember)
    obtain ⟨rightTime, rightReads⟩ :=
      Option.isSome_iff_exists.mp (valid right rightMember)
    simp only [TimesLe, leftReads, rightReads, Option.getD_some]
  have ordered := List.pairwise_insertionSort (· ≤ ·)
    (events.map fun event => (platform.time event.createdAt).getD 0)
  rw [← sortedTimes, shape, List.map_append, List.pairwise_append] at ordered
  refine ⟨latest, latestTime, ⟨last, lastMember, latestTime⟩, ?_⟩
  intro event member time timeReads
  rw [← sameMembers, shape, List.mem_append, List.mem_singleton] at member
  cases member with
  | inl before =>
      have below := ordered.2.2 _ (List.mem_map_of_mem before) _
        (List.mem_map_of_mem (List.mem_singleton_self last))
      simpa only [timeReads, latestTime, Option.getD_some] using below
  | inr same =>
      rw [same, latestTime] at timeReads
      exact Int.le_of_eq (Option.some.inj timeReads).symm

/-- What the bonus for an event of a time is. -/
def recencyOf (scored : Option Int) (latest : Int) : Int :=
  match scored with
  | some scored =>
      let ageInDays : ℚ :=
        max 0 (((scored - latest : Int) : ℚ) / 86400000)
      if ageInDays ≤ 1 then scoringRules.sameDayRecencyBonus
      else if ageInDays ≤ 7 then scoringRules.sevenDayRecencyBonus
      else if ageInDays ≤ 30 then scoringRules.thirtyDayRecencyBonus
      else 0
  | none => 0

theorem recencyBonus_orderEvents {events : List IntentScoringEvent}
    {latest : Int} (valid : ValidTimes platform events)
    (isLatest : IsLatest platform events latest) (scoredAt : JsString) :
    recencyBonus platform (orderEvents platform events) scoredAt =
      recencyOf (platform.time scoredAt) latest := by
  cases isLast : (orderEvents platform events).getLast? with
  | none =>
      obtain ⟨event, member, _⟩ := isLatest.1
      rw [List.getLast?_eq_none_iff] at isLast
      rw [← (orderEvents_perm platform events).mem_iff, isLast] at member
      cases member
  | some last =>
      obtain ⟨lastTime, lastReads, lastLatest⟩ :=
        getLast_orderEvents platform valid isLast
      have same := lastLatest.unique isLatest
      subst same
      have readable : last.createdAt.isEmpty = false := by
        cases shape : last.createdAt with
        | nil =>
            rw [shape, platform.time_nil] at lastReads
            cases lastReads
        | cons first rest =>
            rfl
      simp only [recencyBonus, isLast, readable, Bool.false_eq_true, if_false,
        getRecencyBonus, lastReads, recencyOf]
      cases platform.time scoredAt <;> rfl

theorem recencyOf_nonneg (scored : Option Int) (latest : Int) :
    0 ≤ recencyOf scored latest := by
  cases scored with
  | none =>
      exact Int.le_refl 0
  | some scored =>
      simp only [recencyOf, scoringRules]
      split_ifs <;> decide

theorem recencyOf_antitone {scored later : Int} (latest : Int)
    (order : scored ≤ later) :
    recencyOf (some later) latest ≤ recencyOf (some scored) latest := by
  have ages : max 0 (((scored - latest : Int) : ℚ) / 86400000) ≤
      max 0 (((later - latest : Int) : ℚ) / 86400000) := by
    have difference : ((scored - latest : Int) : ℚ) ≤
        ((later - latest : Int) : ℚ) := by
      exact_mod_cast Int.sub_le_sub_right order latest
    gcongr
  simp only [recencyOf, scoringRules]
  split_ifs <;> first | decide | linarith

/-! ## The session -/

theorem getSessionDurationMinutes_any_iff {events : List IntentScoringEvent}
    (valid : ValidTimes platform events) :
    ((getSessionDurationMinutes platform events).any fun minutes =>
        minutes ≤ 30) = true ↔
      events ≠ [] ∧
      ∀ first ∈ events, ∀ last ∈ events, ∀ start stop,
        platform.time first.createdAt = some start →
        platform.time last.createdAt = some stop → stop - start ≤ 1800000 := by
  have allRead : (events.map fun event =>
      platform.time event.createdAt).all Option.isSome = true := by
    rw [List.all_map, List.all_eq_true]
    exact valid
  have memberTimes : ∀ time,
      time ∈ (events.map fun event =>
          platform.time event.createdAt).reduceOption ↔
        ∃ event ∈ events, platform.time event.createdAt = some time := by
    intro time
    rw [List.reduceOption_mem_iff, List.mem_map]
  simp only [getSessionDurationMinutes, allRead, if_true]
  generalize (events.map fun event =>
    platform.time event.createdAt).reduceOption = times at memberTimes
  cases events with
  | nil =>
      have empty : times = [] := by
        rw [List.eq_nil_iff_forall_not_mem]
        intro time member
        obtain ⟨event, absent, _⟩ := (memberTimes time).mp member
        cases absent
      simp [empty]
  | cons event rest =>
      obtain ⟨someTime, someReads⟩ :=
        Option.isSome_iff_exists.mp (valid event List.mem_cons_self)
      have present : someTime ∈ times :=
        (memberTimes someTime).mpr ⟨event, List.mem_cons_self, someReads⟩
      have nonempty : times ≠ [] := List.ne_nil_of_mem present
      obtain ⟨earliest, isMin⟩ := Option.isSome_iff_exists.mp
        (List.isSome_min?_of_mem present)
      obtain ⟨latest, isMax⟩ := Option.isSome_iff_exists.mp
        (List.isSome_max?_of_mem present)
      rw [isMin, isMax]
      rw [List.min?_eq_some_iff] at isMin
      rw [List.max?_eq_some_iff] at isMax
      have inMinutes : ((latest - earliest : Int) : ℚ) / 60000 ≤ 30 ↔
          latest - earliest ≤ 1800000 := by
        rw [div_le_iff₀ (by norm_num)]
        norm_num
        exact_mod_cast Iff.rfl
      simp only [Option.bind_some, Option.map_some, Option.any_some,
        decide_eq_true_eq, inMinutes, ne_eq, reduceCtorEq, not_false_eq_true,
        true_and]
      constructor
      · intro short first firstMember last lastMember start stop startReads
          stopReads
        have above := isMin.2 start
          ((memberTimes start).mpr ⟨first, firstMember, startReads⟩)
        have below := isMax.2 stop
          ((memberTimes stop).mpr ⟨last, lastMember, stopReads⟩)
        omega
      · intro short
        obtain ⟨first, firstMember, startReads⟩ :=
          (memberTimes earliest).mp isMin.1
        obtain ⟨last, lastMember, stopReads⟩ :=
          (memberTimes latest).mp isMax.1
        exact short first firstMember last lastMember earliest latest
          startReads stopReads

theorem mem_sessionActionTypes {events : List IntentScoringEvent}
    {eventType : InteractionEventType} :
    eventType ∈ sessionActionTypes events ↔
      (∃ event ∈ events, event.eventType = eventType) ∧
        eventType ≠ .cardView ∧ eventType ≠ .qrScan := by
  simp only [sessionActionTypes, List.mem_eraseDups, List.mem_filter,
    List.mem_map, Bool.and_eq_true, bne_iff_ne]

theorem sessionActionTypes_length_mono
    {events longer : List IntentScoringEvent} (within : events ⊆ longer) :
    (sessionActionTypes events).length ≤
      (sessionActionTypes longer).length := by
  have distinct : (sessionActionTypes events).Nodup := nodup_eraseDups _
  refine (distinct.subperm ?_).length_le
  intro eventType member
  rw [mem_sessionActionTypes] at member ⊢
  obtain ⟨⟨event, inside, same⟩, acts⟩ := member
  exact ⟨⟨event, within inside, same⟩, acts⟩

theorem isMultiActionSession_iff {events : List IntentScoringEvent}
    (valid : ValidTimes platform events) :
    isMultiActionSession platform events = true ↔
      3 ≤ events.length ∧ 2 ≤ (sessionActionTypes events).length ∧
      ∀ first ∈ events, ∀ last ∈ events, ∀ start stop,
        platform.time first.createdAt = some start →
        platform.time last.createdAt = some stop → stop - start ≤ 1800000 := by
  simp only [isMultiActionSession, Bool.and_eq_true, decide_eq_true_eq,
    getSessionDurationMinutes_any_iff platform valid]
  constructor
  · rintro ⟨⟨many, types⟩, _, short⟩
    exact ⟨many, types, short⟩
  · rintro ⟨many, types, short⟩
    refine ⟨⟨many, types⟩, ?_, short⟩
    intro empty
    rw [empty] at many
    exact absurd many (by decide)

theorem isMultiActionSession_mono
    {events longer : List IntentScoringEvent}
    (valid : ValidTimes platform longer) (within : events ⊆ longer)
    (count : events.length ≤ longer.length)
    (spanned : ∀ event ∈ longer, ∀ time,
      platform.time event.createdAt = some time →
      ∃ first ∈ events, ∃ last ∈ events, ∃ start stop,
        platform.time first.createdAt = some start ∧
        platform.time last.createdAt = some stop ∧
        start ≤ time ∧ time ≤ stop)
    (multiple : isMultiActionSession platform events = true) :
    isMultiActionSession platform longer = true := by
  have validEvents : ValidTimes platform events :=
    fun event member => valid event (within member)
  rw [isMultiActionSession_iff platform validEvents] at multiple
  obtain ⟨many, types, short⟩ := multiple
  rw [isMultiActionSession_iff platform valid]
  refine ⟨Nat.le_trans many count,
    Nat.le_trans types (sessionActionTypes_length_mono within), ?_⟩
  intro first firstMember last lastMember start stop startReads stopReads
  obtain ⟨early, earlyMember, _, _, earlyTime, _, earlyReads, _, above, _⟩ :=
    spanned first firstMember start startReads
  obtain ⟨_, _, late, lateMember, _, lateTime, _, lateReads, _, below⟩ :=
    spanned last lastMember stop stopReads
  have duration := short early earlyMember late lateMember earlyTime lateTime
    earlyReads lateReads
  omega

theorem isMultiActionSession_perm
    {events permuted : List IntentScoringEvent}
    (valid : ValidTimes platform events) (same : permuted.Perm events) :
    isMultiActionSession platform permuted =
      isMultiActionSession platform events := by
  have spanned : ∀ {some other : List IntentScoringEvent}, other ⊆ some →
      ∀ event ∈ other, ∀ time,
        platform.time event.createdAt = Option.some time →
        ∃ first ∈ some, ∃ last ∈ some, ∃ start stop,
          platform.time first.createdAt = Option.some start ∧
          platform.time last.createdAt = Option.some stop ∧
          start ≤ time ∧ time ≤ stop := by
    intro some other within event member time reads
    exact ⟨event, within member, event, within member, time, time, reads,
      reads, Int.le_refl time, Int.le_refl time⟩
  rw [Bool.eq_iff_iff]
  constructor
  · exact isMultiActionSession_mono platform valid same.subset
      (Nat.le_of_eq same.length_eq) (spanned same.symm.subset)
  · exact isMultiActionSession_mono platform (valid.of_perm same)
      same.symm.subset (Nat.le_of_eq same.length_eq.symm)
      (spanned same.subset)

/-! ## The whole score -/

/-- The score of the events for a latest time. -/
def scoreOf (events : List IntentScoringEvent) (recency : Int) : Int :=
  baseScore events + repeatEngagementBonus events + maxActionDepth events +
    recency +
    (if isMultiActionSession platform events then
      scoringRules.multiActionSessionBonus else 0) +
    (if hasKnownReferrer events then scoringRules.knownReferrerBonus
      else 0) +
    (if hasCompleteDeviceContext events then
      scoringRules.deviceContextBonus else 0)

theorem maxActionDepth_nonneg (events : List IntentScoringEvent) :
    0 ≤ maxActionDepth events := by
  induction events with
  | nil =>
      decide
  | cons event rest ih =>
      exact Int.le_trans ih (maxActionDepth_le_cons event rest)

theorem exists_isLatest {events : List IntentScoringEvent}
    (valid : ValidTimes platform events) (nonempty : events ≠ []) :
    ∃ latest, IsLatest platform events latest := by
  cases isLast : (orderEvents platform events).getLast? with
  | none =>
      rw [List.getLast?_eq_none_iff] at isLast
      have same := orderEvents_perm platform events
      rw [isLast] at same
      exact absurd same.nil_eq.symm nonempty
  | some last =>
      obtain ⟨latest, _, isLatest⟩ :=
        getLast_orderEvents platform valid isLast
      exact ⟨latest, isLatest⟩

theorem totalScore_orderEvents {events : List IntentScoringEvent}
    {latest : Int} (valid : ValidTimes platform events)
    (isLatest : IsLatest platform events latest) (scoredAt : JsString) :
    totalScore platform (orderEvents platform events) scoredAt =
      scoreOf platform events
        (recencyOf (platform.time scoredAt) latest) := by
  have same := orderEvents_perm platform events
  have positive : ∀ points : Int, 0 ≤ points →
      (if 0 < points then points else 0) = points := by
    intro points nonneg
    split <;> omega
  simp only [totalScore, scoreOf,
    recencyBonus_orderEvents platform valid isLatest, baseScore_perm same,
    repeatEngagementBonus_perm same, maxActionDepth_perm same,
    isMultiActionSession_perm platform valid same, hasKnownReferrer_perm same,
    hasCompleteDeviceContext_perm same, positive _ (recencyOf_nonneg _ _),
    positive _ (maxActionDepth_nonneg _)]

theorem score_scoreEventGroup {events : List IntentScoringEvent}
    {latest : Int} (valid : ValidTimes platform events)
    (isLatest : IsLatest platform events latest) (scoredAt : JsString) :
    (scoreEventGroup platform events scoredAt).score =
      min (scoreOf platform events
        (recencyOf (platform.time scoredAt) latest)) 100 := by
  have filled : (orderEvents platform events).isEmpty = false := by
    obtain ⟨event, member, _⟩ := isLatest.1
    rw [List.isEmpty_eq_false_iff]
    exact List.ne_nil_of_mem
      ((orderEvents_perm platform events).mem_iff.mpr member)
  simp only [scoreEventGroup, filled, Bool.false_eq_true, if_false,
    totalScore_orderEvents platform valid isLatest, scoringRules]

theorem scoreOf_nonneg (events : List IntentScoringEvent) {recency : Int}
    (nonneg : 0 ≤ recency) : 0 ≤ scoreOf platform events recency := by
  have base := baseScore_nonneg events
  have repeated := repeatEngagementBonus_nonneg events
  have depth := maxActionDepth_nonneg events
  simp only [scoreOf, scoringRules]
  split_ifs <;> omega

theorem scoreOf_perm {events permuted : List IntentScoringEvent}
    (valid : ValidTimes platform events) (same : permuted.Perm events)
    (recency : Int) :
    scoreOf platform permuted recency = scoreOf platform events recency := by
  simp only [scoreOf, baseScore_perm same, repeatEngagementBonus_perm same,
    maxActionDepth_perm same, isMultiActionSession_perm platform valid same,
    hasKnownReferrer_perm same, hasCompleteDeviceContext_perm same]

theorem scoreOf_le_cons {event : IntentScoringEvent}
    {events : List IntentScoringEvent} (recency : Int)
    (multiple : isMultiActionSession platform events = true →
      isMultiActionSession platform (event :: events) = true) :
    scoreOf platform events recency ≤
      scoreOf platform (event :: events) recency := by
  have base := baseScore_le_cons event events
  have repeated := repeatEngagementBonus_le_cons event events
  have depth := maxActionDepth_le_cons event events
  have bonus_le : ∀ (before after : Bool) (points : Int), 0 ≤ points →
      (before = true → after = true) →
      (if before then points else 0) ≤ if after then points else 0 := by
    intro before after points nonneg kept
    cases before with
    | false =>
        simp only [Bool.false_eq_true, if_false]
        split <;> omega
    | true =>
        simp only [kept rfl, if_true, Int.le_refl]
  have session := bonus_le _ _ scoringRules.multiActionSessionBonus
    (by decide) multiple
  have referrer := bonus_le (hasKnownReferrer events)
    (hasKnownReferrer (event :: events)) scoringRules.knownReferrerBonus
    (by decide) (fun known => by
      simp only [hasKnownReferrer, List.any_cons, Bool.or_eq_true] at known ⊢
      exact Or.inr known)
  have device := bonus_le (hasCompleteDeviceContext events)
    (hasCompleteDeviceContext (event :: events))
    scoringRules.deviceContextBonus (by decide) (fun complete => by
      simp only [hasCompleteDeviceContext, List.any_cons, Bool.or_eq_true]
        at complete ⊢
      exact Or.inr complete)
  unfold scoreOf
  linarith

/-! ## The group -/

theorem scoreEventGroup_perm {events permuted : List IntentScoringEvent}
    (valid : ValidTimes platform events) (same : permuted.Perm events)
    (scoredAt : JsString) :
    (scoreEventGroup platform permuted scoredAt).score =
        (scoreEventGroup platform events scoredAt).score ∧
      (scoreEventGroup platform permuted scoredAt).reasonCodes =
        (scoreEventGroup platform events scoredAt).reasonCodes := by
  have ordered : (orderEvents platform permuted).Perm
      (orderEvents platform events) :=
    (orderEvents_perm platform permuted).trans
      (same.trans (orderEvents_perm platform events).symm)
  by_cases empty : events = []
  · have alsoEmpty : permuted = [] := by
      rw [empty] at same
      exact same.eq_nil
    rw [empty, alsoEmpty]
    exact ⟨rfl, rfl⟩
  · obtain ⟨latest, isLatest⟩ := exists_isLatest platform valid empty
    have validPermuted := valid.of_perm same
    have stillLatest : IsLatest platform permuted latest := by
      obtain ⟨⟨last, member, reads⟩, above⟩ := isLatest
      exact ⟨⟨last, same.mem_iff.mpr member, reads⟩,
        fun event member => above event (same.mem_iff.mp member)⟩
    constructor
    · rw [score_scoreEventGroup platform valid isLatest,
        score_scoreEventGroup platform validPermuted stillLatest,
        scoreOf_perm platform valid same]
    · have sameEmpty := ordered.isEmpty_eq
      have sameReasons : ∀ reason,
          reason ∈ addedReasons platform (orderEvents platform permuted)
            scoredAt ↔
          reason ∈ addedReasons platform (orderEvents platform events)
            scoredAt := by
        intro reason
        have types := (ordered.map fun event =>
          eventTypeReasonCodes event.eventType).mem_iff (a := reason)
        simp only [addedReasons, List.mem_append, types, ordered.length_eq,
          maxActionDepth_perm ordered,
          recencyBonus_orderEvents platform valid isLatest,
          recencyBonus_orderEvents platform validPermuted stillLatest,
          isMultiActionSession_perm platform
            (valid.of_perm (orderEvents_perm platform events)) ordered,
          hasKnownReferrer_perm ordered,
          hasCompleteDeviceContext_perm ordered]
      simp only [scoreEventGroup, sameEmpty,
        sortReasons_eq_of_mem sameReasons]

theorem score_nil (scoredAt : JsString) :
    (scoreEventGroup platform [] scoredAt).score = 0 :=
  rfl

theorem tier_scoreEventGroup (events : List IntentScoringEvent)
    (scoredAt : JsString) :
    (scoreEventGroup platform events scoredAt).tier =
      getIntentTier (scoreEventGroup platform events scoredAt).score :=
  rfl

theorem score_bounds {events : List IntentScoringEvent}
    (valid : ValidTimes platform events) (scoredAt : JsString) :
    0 ≤ (scoreEventGroup platform events scoredAt).score ∧
      (scoreEventGroup platform events scoredAt).score ≤ 100 := by
  by_cases empty : events = []
  · rw [empty, score_nil]
    decide
  · obtain ⟨latest, isLatest⟩ := exists_isLatest platform valid empty
    have nonneg := scoreOf_nonneg platform events
      (recencyOf_nonneg (platform.time scoredAt) latest)
    rw [score_scoreEventGroup platform valid isLatest]
    omega

theorem score_antitone {events : List IntentScoringEvent}
    (valid : ValidTimes platform events) {scoredAt laterAt : JsString}
    {scored later : Int} (scoredReads : platform.time scoredAt = some scored)
    (laterReads : platform.time laterAt = some later)
    (order : scored ≤ later) :
    (scoreEventGroup platform events laterAt).score ≤
      (scoreEventGroup platform events scoredAt).score := by
  by_cases empty : events = []
  · rw [empty, score_nil, score_nil]
  · obtain ⟨latest, isLatest⟩ := exists_isLatest platform valid empty
    have aged := recencyOf_antitone latest order
    rw [score_scoreEventGroup platform valid isLatest,
      score_scoreEventGroup platform valid isLatest, scoredReads, laterReads]
    unfold scoreOf
    omega

theorem score_le_of_added {events longer : List IntentScoringEvent}
    (valid : ValidTimes platform events) {event first last : IntentScoringEvent}
    (firstMember : first ∈ events) (lastMember : last ∈ events)
    {start time stop : Int}
    (startReads : platform.time first.createdAt = some start)
    (timeReads : platform.time event.createdAt = some time)
    (stopReads : platform.time last.createdAt = some stop)
    (afterStart : start ≤ time) (beforeStop : time ≤ stop)
    (added : longer.Perm (event :: events)) (scoredAt : JsString) :
    (scoreEventGroup platform events scoredAt).score ≤
      (scoreEventGroup platform longer scoredAt).score := by
  have validCons : ValidTimes platform (event :: events) := by
    intro each member
    cases List.mem_cons.mp member with
    | inl same =>
        rw [same, timeReads]
        rfl
    | inr inside =>
        exact valid each inside
  rw [(scoreEventGroup_perm platform validCons added scoredAt).1]
  obtain ⟨latest, isLatest⟩ :=
    exists_isLatest platform valid (List.ne_nil_of_mem firstMember)
  have stillLatest : IsLatest platform (event :: events) latest := by
    obtain ⟨⟨latestEvent, member, reads⟩, above⟩ := isLatest
    refine ⟨⟨latestEvent, List.mem_cons_of_mem event member, reads⟩, ?_⟩
    intro each eachMember eachTime eachReads
    cases List.mem_cons.mp eachMember with
    | inl same =>
        have reached := above last lastMember stop stopReads
        rw [same, timeReads] at eachReads
        have sameTime := Option.some.inj eachReads
        omega
    | inr inside =>
        exact above each inside eachTime eachReads
  have multiple : isMultiActionSession platform events = true →
      isMultiActionSession platform (event :: events) = true := by
    apply isMultiActionSession_mono platform validCons
      (List.subset_cons_self event events)
      (Nat.le_succ events.length)
    intro each eachMember eachTime eachReads
    cases List.mem_cons.mp eachMember with
    | inl same =>
        rw [same, timeReads] at eachReads
        have sameTime := Option.some.inj eachReads
        exact ⟨first, firstMember, last, lastMember, start, stop, startReads,
          stopReads, by omega, by omega⟩
    | inr inside =>
        exact ⟨each, inside, each, inside, eachTime, eachTime, eachReads,
          eachReads, Int.le_refl eachTime, Int.le_refl eachTime⟩
  have grown := scoreOf_le_cons platform
    (recencyOf (platform.time scoredAt) latest) multiple
  rw [score_scoreEventGroup platform valid isLatest,
    score_scoreEventGroup platform validCons stillLatest]
  omega

end Platform

/-- Scoring forgets the order of the events, stays between 0 and 100, does not
rise with age and does not fall when an event is added within the session. -/
theorem scoreEventGroup_lawful (platform : ScoringPlatform)
    (events : List IntentScoringEvent) (valid : ValidTimes platform events)
    (scoredAt : JsString) :
    (∀ permuted : List IntentScoringEvent, permuted.Perm events →
      (scoreEventGroup platform permuted scoredAt).score =
          (scoreEventGroup platform events scoredAt).score ∧
        (scoreEventGroup platform permuted scoredAt).tier =
          (scoreEventGroup platform events scoredAt).tier ∧
        (scoreEventGroup platform permuted scoredAt).reasonCodes =
          (scoreEventGroup platform events scoredAt).reasonCodes) ∧
    (0 ≤ (scoreEventGroup platform events scoredAt).score ∧
      (scoreEventGroup platform events scoredAt).score ≤ 100) ∧
    (∀ (laterAt : JsString) (scored later : Int),
      platform.time scoredAt = some scored →
      platform.time laterAt = some later → scored ≤ later →
      (scoreEventGroup platform events laterAt).score ≤
        (scoreEventGroup platform events scoredAt).score) ∧
    (∀ (event : IntentScoringEvent), ∀ first ∈ events, ∀ last ∈ events,
      ∀ start time stop : Int,
      platform.time first.createdAt = some start →
      platform.time event.createdAt = some time →
      platform.time last.createdAt = some stop → start ≤ time → time ≤ stop →
      ∀ longer : List IntentScoringEvent, longer.Perm (event :: events) →
      (scoreEventGroup platform events scoredAt).score ≤
        (scoreEventGroup platform longer scoredAt).score) := by
  refine ⟨?_, score_bounds platform valid scoredAt, ?_, ?_⟩
  · intro permuted same
    obtain ⟨score, reasons⟩ :=
      scoreEventGroup_perm platform valid same scoredAt
    refine ⟨score, ?_, reasons⟩
    rw [tier_scoreEventGroup, tier_scoreEventGroup, score]
  · intro laterAt scored later scoredReads laterReads order
    exact score_antitone platform valid scoredReads laterReads order
  · intro event first firstMember last lastMember start time stop startReads
      timeReads stopReads afterStart beforeStop longer added
    exact score_le_of_added platform valid firstMember lastMember startReads
      timeReads stopReads afterStart beforeStop added scoredAt

def isoPlatform : ScoringPlatform where
  time := fun text => (isoParse text).map fun time => time.milliseconds
  time_nil := milliseconds_isoParse_nil

def desktopEvent (eventType : InteractionEventType) (createdAt : JsString) :
    IntentScoringEvent where
  id := eventType.text ++ js "-" ++ createdAt
  eventType := eventType
  executiveSlug := .adGarner
  anonymousVisitorId := js "bxv_test"
  sessionId := js "bxs_test"
  sourceUrl := some (js "https://bidayax.com/card/ad-garner")
  referrer := some (js "https://example.com")
  deviceType := some (js "desktop")
  browser := some (js "chrome")
  os := some (js "windows")
  createdAt := createdAt

theorem scoreEventGroup_lawful_viewThenVisit :
    (scoreEventGroup isoPlatform
        [desktopEvent .websiteClick (js "2026-06-26T11:45:00.000Z"),
          desktopEvent .cardView (js "2026-06-26T11:40:00.000Z")]
        (js "2026-06-26T12:00:00.000Z")).score =
      (scoreEventGroup isoPlatform
        [desktopEvent .cardView (js "2026-06-26T11:40:00.000Z"),
          desktopEvent .websiteClick (js "2026-06-26T11:45:00.000Z")]
        (js "2026-06-26T12:00:00.000Z")).score ∧
      (scoreEventGroup isoPlatform
        [desktopEvent .cardView (js "2026-06-26T11:40:00.000Z"),
          desktopEvent .websiteClick (js "2026-06-26T11:45:00.000Z")]
        (js "2026-06-26T12:00:00.000Z")).score = 52 := by
  have valid : ValidTimes isoPlatform
      [desktopEvent .cardView (js "2026-06-26T11:40:00.000Z"),
        desktopEvent .websiteClick (js "2026-06-26T11:45:00.000Z")] := by
    intro event member
    simp only [List.mem_cons, List.not_mem_nil, or_false] at member
    cases member with
    | inl view =>
        rw [view]
        decide +kernel
    | inr visit =>
        rw [visit]
        decide +kernel
  obtain ⟨permuted, _⟩ := scoreEventGroup_lawful isoPlatform _ valid
    (js "2026-06-26T12:00:00.000Z")
  exact ⟨(permuted _ (List.Perm.swap _ _ [])).1, by decide +kernel⟩

end BidayaxExecutive.IntentScoring
