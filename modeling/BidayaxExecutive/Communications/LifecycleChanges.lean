import BidayaxExecutive.Communications.Lifecycle
import BidayaxExecutive.Library.Tables

/-!
# What an accepted statement does to a communication and its transitions

There are five changes: nothing happens to the two tables, a communication is
added, replaced or removed, or a transition is added and moves the
communication it names.  Every property of runs is shown change by change.
-/

namespace BidayaxExecutive.Communications

open BidayaxExecutive.Library.Guards
open BidayaxExecutive.Library.Runs
open BidayaxExecutive.Library.Tables
open BidayaxExecutive.Library.ThreeValued

variable {database next : CommunicationsDatabase}

def LifecycleTransition.belongsTo (transition : LifecycleTransition)
    (communication : Communication) : Bool :=
  communication.tenantId == transition.tenantId &&
    communication.communicationId == transition.communicationId

/-- The transitions of a communication, in the order they were inserted. -/
def transitionsOf (database : CommunicationsDatabase)
    (communication : Communication) : List LifecycleTransition :=
  database.transitions.filter fun transition =>
    transition.belongsTo communication

/-- The communication after the transition. -/
def Communication.moved (communication : Communication)
    (transition : LifecycleTransition) : Communication :=
  { communication with
    currentState := transition.toState
    stateVersion := transition.sequenceNumber
    updatedAt := transition.occurredAt }

/-- What an update keeps, and what it leaves free. -/
structure Communication.Replaces (new old : Communication) : Prop where
  tenantId : new.tenantId = old.tenantId
  currentState : new.currentState = old.currentState
  stateVersion : new.stateVersion = old.stateVersion
  createdAt : new.createdAt = old.createdAt
  updatedAt : new.createdAt ≤ new.updatedAt

/-- What a transition has that is inserted. -/
structure LifecycleTransition.Continues (transition : LifecycleTransition)
    (communication : Communication) : Prop where
  belongs : transition.belongsTo communication = true
  fromState : transition.fromState = communication.currentState
  sequenceNumber :
    transition.sequenceNumber = communication.stateVersion + 1
  occurredAt : communication.updatedAt ≤ transition.occurredAt
  allowed : isLifecycleTransition transition.fromState transition.toState =
    true

inductive Change (database next : CommunicationsDatabase) :
    LifecycleStatement → Prop
  | none {statement : LifecycleStatement} :
      next.communications = database.communications →
      next.transitions = database.transitions → Change database next statement
  | inserted {new : Communication} :
      (∀ old ∈ database.communications,
        old.communicationId ≠ new.communicationId) →
      new.currentState = .requested → new.stateVersion = 0 →
      new.createdAt ≤ new.updatedAt →
      next.communications = database.communications ++ [new] →
      next.transitions = database.transitions →
      Change database next (.insertCommunication new)
  | updated {old : Communication} {revise : Communication → Communication} :
      old ∈ database.communications → (revise old).Replaces old →
      ((revise old).communicationId ≠ old.communicationId →
        transitionsOf database old = [] ∧
          ∀ other ∈ database.communications,
            other.communicationId ≠ (revise old).communicationId) →
      next.communications = database.communications.map
        (fun communication =>
          if communication.communicationId = old.communicationId then
            revise old
          else communication) →
      next.transitions = database.transitions →
      Change database next (.updateCommunication old.communicationId revise)
  | deleted {old : Communication} :
      old ∈ database.communications → transitionsOf database old = [] →
      next.communications = database.communications.filter
        (fun communication =>
          communication.communicationId ≠ old.communicationId) →
      next.transitions = database.transitions →
      Change database next (.deleteCommunication old.communicationId)
  | advanced {current : Communication} {new : LifecycleTransition} :
      current ∈ database.communications → new.Continues current →
      next.communications = database.communications.map
        (fun communication =>
          if new.belongsTo communication then communication.moved new
          else communication) →
      next.transitions = database.transitions ++ [new] →
      Change database next (.insertTransition new)

/-! ## The triggers -/

theorem enforceBoundary_insert {setting : Option Text} {depth : Nat}
    {new : Communication} {result : PUnit}
    (passed : enforceCommunicationAggregateStateBoundary setting depth .insert
      new = .ok result) :
    new.currentState = .requested ∧ new.stateVersion = 0 := by
  unfold enforceCommunicationAggregateStateBoundary at passed
  by_cases wrong : new.currentState ≠ .requested ∨ new.stateVersion ≠ 0
  · simp [wrong] at passed
  · rw [not_or, not_not, not_not] at wrong
    exact wrong

theorem reviseCommunication_eq_ok {setting : Option Text} {depth : Nat}
    {old new result : Communication}
    (revised : reviseCommunication setting depth old new = .ok result) :
    result = new := by
  unfold reviseCommunication at revised
  rcases bind_eq_ok.mp revised with ⟨_, _, checked⟩
  rw [guard_eq_ok] at checked
  exact (Except.ok.inj checked.2).symm

/-- A statement of a client replaces a communication without moving it,
whatever the setting says. -/
theorem replaces_of_reviseCommunication {setting : Option Text}
    {old new result : Communication}
    (revised : reviseCommunication setting 1 old new = .ok result) :
    new.Replaces old := by
  unfold reviseCommunication at revised
  rcases bind_eq_ok.mp revised with ⟨_, passed, checked⟩
  unfold enforceCommunicationAggregateStateBoundary at passed
  simp only [guard_eq_ok, lastGuard_eq_ok, gt_iff_lt, Nat.lt_irrefl,
    decide_false, Truth.both_false] at passed checked
  have still := passed.1
  have kept := passed.2
  have chronology := checked.1
  simp only [Truth.holds_both, Truth.holds_some, Truth.negate,
    Option.map_some, Bool.not_false, and_true, Bool.or_eq_true,
    decide_eq_true_eq, not_or, not_not] at still
  simp only [not_or, not_not, not_lt] at kept chronology
  exact ⟨kept.1, still.1, still.2, kept.2.2.2.2, chronology.2⟩

theorem checkLifecycleTransition_eq_ok {current : Communication}
    {new : LifecycleTransition} {result : PUnit}
    (checked : checkLifecycleTransition database current new = .ok result) :
    new.cardId = current.cardId ∧ new.fromState = current.currentState ∧
      new.sequenceNumber = current.stateVersion + 1 ∧
      current.updatedAt ≤ new.occurredAt ∧
      (∃ decision, lifecycleDecision? database new = some decision ∧
        ¬(fieldsDiffer decision.metadata (lifecycleFields new)).Holds) ∧
      isLifecycleTransition new.fromState new.toState = true := by
  unfold checkLifecycleTransition at checked
  simp only [guard_eq_ok, not_not, not_lt] at checked
  rcases checked with ⟨card, fromState, _, number, chronology, decided⟩
  cases found : lifecycleDecision? database new with
  | none =>
      simp [found] at decided
  | some decision =>
      simp only [found, guard_eq_ok, lastGuard_eq_ok, not_not] at decided
      exact ⟨card, fromState, number, chronology,
        ⟨decision, rfl, decided.1⟩, decided.2⟩

/-- The decision an inserted transition cites. -/
def LifecycleTransition.Decided (new : LifecycleTransition)
    (database : CommunicationsDatabase) : Prop :=
  ∃ decision, lifecycleDecision? database new = some decision ∧
    ¬(fieldsDiffer decision.metadata (lifecycleFields new)).Holds

theorem enforceCommunicationLifecycleTransition_eq_ok
    {new : LifecycleTransition}
    (enforced : enforceCommunicationLifecycleTransition database new =
      .ok next) :
    (∃ current ∈ database.communications, new.Continues current) ∧
      new.Decided database ∧
      next = { database with
        communications := database.communications.map fun communication =>
          if new.belongsTo communication then communication.moved new
          else communication
        lifecycleTransitionSetting := some "false" } := by
  unfold enforceCommunicationLifecycleTransition at enforced
  cases found : database.communications.find? fun communication =>
      communication.tenantId == new.tenantId &&
        communication.communicationId == new.communicationId with
  | none =>
      simp [found] at enforced
  | some current =>
      simp only [found] at enforced
      rcases bind_eq_ok.mp enforced with ⟨_, checked, enforcedRest⟩
      rcases bind_eq_ok.mp enforcedRest with ⟨moved, areMoved, isNext⟩
      have facts := checkLifecycleTransition_eq_ok checked
      have movedRows : moved = database.communications.map
          fun communication =>
            if new.belongsTo communication then communication.moved new
            else communication := by
        refine eq_map_of_mapM ?_ areMoved
        intro old result replaced
        by_cases belongs : new.belongsTo old = true
        · rw [if_pos belongs]
          rw [LifecycleTransition.belongsTo] at belongs
          rw [if_pos belongs] at replaced
          exact reviseCommunication_eq_ok replaced
        · rw [if_neg belongs]
          rw [LifecycleTransition.belongsTo] at belongs
          rw [if_neg belongs] at replaced
          exact (Except.ok.inj replaced).symm
      refine ⟨⟨current, List.mem_of_find?_eq_some found, ?_⟩,
        facts.2.2.2.2.1, ?_⟩
      · exact ⟨List.find?_some found, facts.2.1, facts.2.2.1,
          facts.2.2.2.1, facts.2.2.2.2.2⟩
      · rw [← movedRows]
        exact (Except.ok.inj isNext).symm

/-! ## The statements -/

theorem transitionsOf_of_unreferenced {communication : Communication}
    (unreferenced : ¬isReferenced database communication = true) :
    transitionsOf database communication = [] := by
  simp only [isReferenced, Bool.or_eq_true, not_or, List.any_eq_true,
    not_exists, not_and] at unreferenced
  refine List.filter_eq_nil_iff.mpr fun transition member belongs => ?_
  have refers := unreferenced.1.1.1.1.1 transition member
  simp only [LifecycleTransition.belongsTo, Bool.and_eq_true,
    beq_iff_eq] at belongs refers
  exact refers ⟨belongs.1.symm, belongs.2.symm⟩

theorem change_insertCommunication {new : Communication}
    (inserted : insertCommunication database new = .ok next) :
    Change database next (.insertCommunication new) := by
  unfold insertCommunication at inserted
  rcases bind_eq_ok.mp inserted with ⟨_, passed, checked⟩
  simp only [guard_eq_ok, not_lt, List.any_eq_true, not_exists, not_and,
    beq_iff_eq] at checked
  have starts := enforceBoundary_insert passed
  have isNext := Except.ok.inj checked.2.2.2
  refine .inserted checked.2.1 starts.1 starts.2 checked.1 ?_ ?_
  · rw [← isNext]
  · rw [← isNext]

theorem change_updateCommunication {communicationId : Text}
    {revise : Communication → Communication}
    (updated : updateCommunication database communicationId revise =
      .ok next) :
    Change database next (.updateCommunication communicationId revise) := by
  unfold updateCommunication at updated
  cases found : database.communications.find? fun communication =>
      communication.communicationId == communicationId with
  | none =>
      simp only [found] at updated
      rw [← Except.ok.inj updated]
      exact .none rfl rfl
  | some old =>
      simp only [found] at updated
      have isOld : old.communicationId = communicationId := by
        simpa using List.find?_some found
      rcases bind_eq_ok.mp updated with ⟨new, revised, keyed⟩
      have isNew := reviseCommunication_eq_ok revised
      have replaces := replaces_of_reviseCommunication revised
      subst isNew isOld
      have member := List.mem_of_find?_eq_some found
      by_cases renamed :
          (revise old).communicationId ≠ old.communicationId
      · simp only [renamed, if_true, guard_eq_ok, List.any_eq_true,
          not_exists, not_and, beq_iff_eq, ne_eq, not_false_eq_true] at keyed
        have isNext := Except.ok.inj keyed.2.2
        refine .updated member replaces (fun _ => ?_) ?_ ?_
        · exact ⟨transitionsOf_of_unreferenced keyed.2.1, keyed.1⟩
        · rw [← isNext]
        · rw [← isNext]
      · simp only [renamed, if_false] at keyed
        have isNext := Except.ok.inj keyed
        refine .updated member replaces
          (fun isRenamed => absurd isRenamed renamed) ?_ ?_
        · rw [← isNext]
        · rw [← isNext]

theorem change_deleteCommunication {communicationId : Text}
    (deleted : deleteCommunication database communicationId = .ok next) :
    Change database next (.deleteCommunication communicationId) := by
  unfold deleteCommunication at deleted
  cases found : database.communications.find? fun communication =>
      communication.communicationId == communicationId with
  | none =>
      simp only [found] at deleted
      rw [← Except.ok.inj deleted]
      exact .none rfl rfl
  | some old =>
      simp only [found, guard_eq_ok] at deleted
      have isOld : old.communicationId = communicationId := by
        simpa using List.find?_some found
      subst isOld
      have isNext := Except.ok.inj deleted.2
      refine .deleted (List.mem_of_find?_eq_some found)
        (transitionsOf_of_unreferenced deleted.1) ?_ ?_
      · rw [← isNext]
      · rw [← isNext]

theorem insertTransition_eq_ok {new : LifecycleTransition}
    (inserted : insertTransition database new = .ok next) :
    Change database next (.insertTransition new) ∧
      new.Decided database := by
  unfold insertTransition at inserted
  rcases bind_eq_ok.mp inserted with ⟨_, _, enforcedRest⟩
  rcases bind_eq_ok.mp enforcedRest with ⟨moved, enforced, checked⟩
  simp only [guard_eq_ok] at checked
  rcases enforceCommunicationLifecycleTransition_eq_ok enforced with
    ⟨⟨current, member, continues⟩, decided, isMoved⟩
  have isNext := Except.ok.inj checked.2.2.2
  refine ⟨.advanced member continues ?_ ?_, decided⟩
  · rw [← isNext, isMoved]
  · rw [← isNext, isMoved]

theorem change_mutateTransition {transitionId : Text}
    {statement : LifecycleStatement}
    (mutated : mutateTransition database transitionId = .ok next) :
    Change database next statement := by
  unfold mutateTransition at mutated
  by_cases present : (database.transitions.any fun transition =>
      transition.transitionId == transitionId) = true
  · rw [if_pos present] at mutated
    exact absurd mutated throw_ne_ok
  · rw [if_neg present] at mutated
    rw [← Except.ok.inj mutated]
    exact .none rfl rfl

theorem execute_change {statement : LifecycleStatement}
    (executed : execute database statement = .ok next) :
    Change database next statement := by
  cases statement with
  | insertCommunication new =>
      exact change_insertCommunication executed
  | updateCommunication communicationId revise =>
      exact change_updateCommunication executed
  | deleteCommunication communicationId =>
      exact change_deleteCommunication executed
  | insertTransition new =>
      exact (insertTransition_eq_ok executed).1
  | updateTransition transitionId revise =>
      exact change_mutateTransition executed
  | deleteTransition transitionId =>
      exact change_mutateTransition executed
  | elsewhere other =>
      rw [← Except.ok.inj executed]
      exact .none rfl rfl

/-! ## Keys of the two tables -/

structure Consistent (database : CommunicationsDatabase) : Prop where
  keys : (database.communications.map Communication.communicationId).Nodup
  owned : ∀ transition ∈ database.transitions,
    ∃ communication ∈ database.communications,
      transition.belongsTo communication = true

theorem belongsTo_iff {transition : LifecycleTransition}
    {communication : Communication} :
    transition.belongsTo communication = true ↔
      communication.tenantId = transition.tenantId ∧
        communication.communicationId = transition.communicationId := by
  rw [LifecycleTransition.belongsTo, Bool.and_eq_true, beq_iff_eq, beq_iff_eq]

theorem transitionsOf_congr {first second : Communication}
    (same : next.transitions = database.transitions)
    (tenant : first.tenantId = second.tenantId)
    (identifier : first.communicationId = second.communicationId) :
    transitionsOf next first = transitionsOf database second := by
  unfold transitionsOf LifecycleTransition.belongsTo
  rw [same, tenant, identifier]

/-- No transition names an identifier that is not in use. -/
theorem transitionsOf_of_unused (consistent : Consistent database)
    {communication : Communication}
    (unused : ∀ other ∈ database.communications,
      other.communicationId ≠ communication.communicationId) :
    transitionsOf database communication = [] := by
  refine List.filter_eq_nil_iff.mpr fun transition member belongs => ?_
  rcases consistent.owned transition member with ⟨owner, isOwner, owns⟩
  have named := (belongsTo_iff.mp belongs).2
  have ownerNamed := (belongsTo_iff.mp owns).2
  exact unused owner isOwner (ownerNamed.trans named.symm)

theorem eq_of_key (consistent : Consistent database)
    {first second : Communication}
    (isFirst : first ∈ database.communications)
    (isSecond : second ∈ database.communications)
    (same : first.communicationId = second.communicationId) :
    first = second :=
  List.inj_on_of_nodup_map consistent.keys isFirst isSecond same

theorem consistent_of_same (consistent : Consistent database)
    (communications : next.communications = database.communications)
    (transitions : next.transitions = database.transitions) :
    Consistent next := by
  constructor
  · rw [communications]
    exact consistent.keys
  · rw [communications, transitions]
    exact consistent.owned

theorem consistent_insert (consistent : Consistent database)
    {new : Communication}
    (unused : ∀ old ∈ database.communications,
      old.communicationId ≠ new.communicationId)
    (communications : next.communications = database.communications ++ [new])
    (transitions : next.transitions = database.transitions) :
    Consistent next := by
  constructor
  · rw [communications]
    exact nodup_map_insert _ consistent.keys unused
  · intro transition member
    rw [transitions] at member
    rcases consistent.owned transition member with ⟨owner, isOwner, owns⟩
    refine ⟨owner, ?_, owns⟩
    rw [communications]
    exact List.mem_append_left _ isOwner

theorem nodup_rename {Key : Type} [DecidableEq Key] {keys : List Key}
    {old new : Key} (distinct : keys.Nodup)
    (unused : new ≠ old → new ∉ keys) :
    (keys.map fun key => if key = old then new else key).Nodup := by
  refine distinct.map_on ?_
  intro first isFirst second isSecond same
  by_cases firstOld : first = old
  · by_cases secondOld : second = old
    · exact firstOld.trans secondOld.symm
    · rw [if_pos firstOld, if_neg secondOld] at same
      by_cases renamed : new = old
      · exact firstOld.trans (renamed.symm.trans same)
      · rw [← same] at isSecond
        exact absurd isSecond (unused renamed)
  · by_cases secondOld : second = old
    · rw [if_neg firstOld, if_pos secondOld] at same
      by_cases renamed : new = old
      · exact same.trans (renamed.trans secondOld.symm)
      · rw [same] at isFirst
        exact absurd isFirst (unused renamed)
    · rw [if_neg firstOld, if_neg secondOld] at same
      exact same

theorem consistent_update (consistent : Consistent database)
    {old new : Communication} (isOld : old ∈ database.communications)
    (replaces : new.Replaces old)
    (renamed : new.communicationId ≠ old.communicationId →
      transitionsOf database old = [] ∧
        ∀ other ∈ database.communications,
          other.communicationId ≠ new.communicationId)
    (communications : next.communications = database.communications.map
      fun communication =>
        if communication.communicationId = old.communicationId then new
        else communication)
    (transitions : next.transitions = database.transitions) :
    Consistent next := by
  have identifiers : next.communications.map Communication.communicationId =
      (database.communications.map Communication.communicationId).map
        fun identifier =>
          if identifier = old.communicationId then new.communicationId
          else identifier := by
    rw [communications, List.map_map, List.map_map]
    refine List.map_congr_left fun communication _ => ?_
    exact apply_ite Communication.communicationId _ _ _
  constructor
  · rw [identifiers]
    refine nodup_rename consistent.keys fun isRenamed isUsed => ?_
    rcases List.mem_map.mp isUsed with ⟨other, member, named⟩
    exact (renamed isRenamed).2 other member named
  · intro transition member
    rw [transitions] at member
    rcases consistent.owned transition member with ⟨owner, isOwner, owns⟩
    rw [communications]
    by_cases isUpdated : owner.communicationId = old.communicationId
    · have isSame := eq_of_key consistent isOwner isOld isUpdated
      subst isSame
      refine ⟨new, List.mem_map.mpr ⟨owner, isOwner, if_pos rfl⟩, ?_⟩
      have inLog : transition ∈ transitionsOf database owner :=
        List.mem_filter.mpr ⟨member, owns⟩
      have kept : new.communicationId = owner.communicationId := by
        by_contra isRenamed
        rw [(renamed isRenamed).1] at inLog
        exact nomatch inLog
      have names := belongsTo_iff.mp owns
      exact belongsTo_iff.mpr
        ⟨replaces.tenantId.trans names.1, kept.trans names.2⟩
    · exact ⟨owner, List.mem_map.mpr ⟨owner, isOwner, if_neg isUpdated⟩,
        owns⟩

theorem consistent_delete (consistent : Consistent database)
    {old : Communication} (isOld : old ∈ database.communications)
    (noneYet : transitionsOf database old = [])
    (communications : next.communications = database.communications.filter
      fun communication =>
        communication.communicationId ≠ old.communicationId)
    (transitions : next.transitions = database.transitions) :
    Consistent next := by
  constructor
  · rw [communications]
    exact consistent.keys.sublist (List.filter_sublist.map _)
  · intro transition member
    rw [transitions] at member
    rcases consistent.owned transition member with ⟨owner, isOwner, owns⟩
    refine ⟨owner, ?_, owns⟩
    rw [communications]
    refine List.mem_filter.mpr ⟨isOwner, ?_⟩
    rw [decide_eq_true_eq]
    intro isDeleted
    have isSame := eq_of_key consistent isOwner isOld isDeleted
    have inLog : transition ∈ transitionsOf database old := by
      rw [← isSame]
      exact List.mem_filter.mpr ⟨member, owns⟩
    rw [noneYet] at inLog
    exact nomatch inLog

theorem belongsTo_moved {transition new : LifecycleTransition}
    {communication : Communication} :
    transition.belongsTo (communication.moved new) =
      transition.belongsTo communication :=
  rfl

theorem consistent_advance (consistent : Consistent database)
    {current : Communication} {new : LifecycleTransition}
    (isCurrent : current ∈ database.communications)
    (continues : new.Continues current)
    (communications : next.communications = database.communications.map
      fun communication =>
        if new.belongsTo communication then communication.moved new
        else communication)
    (transitions : next.transitions = database.transitions ++ [new]) :
    Consistent next := by
  constructor
  · rw [communications, List.map_map]
    have kept : (Communication.communicationId ∘ fun communication =>
        if new.belongsTo communication then communication.moved new
        else communication) = Communication.communicationId := by
      funext communication
      by_cases belongs : new.belongsTo communication = true
      · rw [Function.comp_apply, if_pos belongs]
        rfl
      · rw [Function.comp_apply, if_neg belongs]
    rw [kept]
    exact consistent.keys
  · intro transition member
    rw [transitions] at member
    have owned : ∃ owner ∈ database.communications,
        transition.belongsTo owner = true := by
      cases List.mem_append.mp member with
      | inl earlier =>
          exact consistent.owned transition earlier
      | inr last =>
          rw [List.mem_singleton.mp last]
          exact ⟨current, isCurrent, continues.belongs⟩
    rcases owned with ⟨owner, isOwner, owns⟩
    rw [communications]
    refine ⟨_, List.mem_map.mpr ⟨owner, isOwner, rfl⟩, ?_⟩
    by_cases belongs : new.belongsTo owner = true
    · rw [if_pos belongs, belongsTo_moved]
      exact owns
    · rw [if_neg belongs]
      exact owns

theorem Consistent.change (consistent : Consistent database)
    {statement : LifecycleStatement}
    (change : Change database next statement) : Consistent next := by
  cases change with
  | none communications transitions =>
      exact consistent_of_same consistent communications transitions
  | inserted unused _ _ _ communications transitions =>
      exact consistent_insert consistent unused communications transitions
  | updated isOld replaces renamed communications transitions =>
      exact consistent_update consistent isOld replaces renamed
        communications transitions
  | deleted isOld noneYet communications transitions =>
      exact consistent_delete consistent isOld noneYet communications
        transitions
  | advanced isCurrent continues communications transitions =>
      exact consistent_advance consistent isCurrent continues
        communications transitions

theorem consistent_of_isNew (isNew : IsNew database) :
    Consistent database := by
  constructor
  · rw [isNew.1]
    exact List.nodup_nil
  · rw [isNew.2]
    exact fun _ member => nomatch member

/-! ## Properties of each communication with its transitions -/

section Each

variable (property : Communication → List LifecycleTransition → Prop)
  (allowed : Communication → List LifecycleTransition → Communication → Prop)

/-- `allowed` is asked of the updates that clients make. -/
structure KeptByChanges : Prop where
  inserted : ∀ {new : Communication}, new.currentState = .requested →
    new.stateVersion = 0 → new.createdAt ≤ new.updatedAt → property new []
  updated : ∀ {old new : Communication}
    {transitions : List LifecycleTransition}, property old transitions →
    new.Replaces old → allowed old transitions new →
    property new transitions
  advanced : ∀ {current : Communication}
    {transitions : List LifecycleTransition}
    {transition : LifecycleTransition}, property current transitions →
    transition.Continues current →
    property (current.moved transition) (transitions ++ [transition])

def Each (database : CommunicationsDatabase) : Prop :=
  ∀ communication ∈ database.communications,
    property communication (transitionsOf database communication)

def AllowedUpdate (database : CommunicationsDatabase) :
    LifecycleStatement → Prop
  | .updateCommunication communicationId revise =>
      ∀ old ∈ database.communications,
        old.communicationId = communicationId →
        allowed old (transitionsOf database old) (revise old)
  | _ => True

variable {property allowed}

theorem transitionsOf_append {communication : Communication}
    {new : LifecycleTransition}
    (transitions : next.transitions = database.transitions ++ [new]) :
    transitionsOf next communication =
      transitionsOf database communication ++
        if new.belongsTo communication then [new] else [] := by
  unfold transitionsOf
  rw [transitions, List.filter_append, List.filter_singleton,
    Bool.cond_eq_ite]

/-- A communication that is replaced keeps its transitions. -/
theorem transitionsOf_replaced (consistent : Consistent database)
    {old new : Communication} (replaces : new.Replaces old)
    (renamed : new.communicationId ≠ old.communicationId →
      transitionsOf database old = [] ∧
        ∀ other ∈ database.communications,
          other.communicationId ≠ new.communicationId)
    (transitions : next.transitions = database.transitions) :
    transitionsOf next new = transitionsOf database old := by
  by_cases isRenamed : new.communicationId = old.communicationId
  · exact transitionsOf_congr transitions replaces.tenantId isRenamed
  · have free := renamed isRenamed
    rw [free.1, ← transitionsOf_of_unused consistent free.2]
    exact transitionsOf_congr transitions rfl rfl

theorem Each.change (kept : KeptByChanges property allowed)
    (consistent : Consistent database) (each : Each property database)
    {statement : LifecycleStatement}
    (isAllowed : AllowedUpdate allowed database statement)
    (change : Change database next statement) : Each property next := by
  intro communication member
  cases change with
  | none communications transitions =>
      rw [communications] at member
      rw [transitionsOf_congr transitions rfl rfl]
      exact each communication member
  | @inserted new unused starts version ordered communications transitions =>
      rw [communications] at member
      rw [transitionsOf_congr transitions rfl rfl]
      cases List.mem_append.mp member with
      | inl isOld =>
          exact each communication isOld
      | inr isNew =>
          rw [List.mem_singleton.mp isNew,
            transitionsOf_of_unused consistent unused]
          exact kept.inserted starts version ordered
  | @updated old revise isOld replaces renamed communications transitions =>
      rw [communications] at member
      rcases List.mem_map.mp member with ⟨before, isBefore, isAfter⟩
      by_cases isUpdated : before.communicationId = old.communicationId
      · rw [if_pos isUpdated] at isAfter
        rw [← isAfter,
          transitionsOf_replaced consistent replaces renamed transitions]
        exact kept.updated (each old isOld) replaces
          (isAllowed old isOld rfl)
      · rw [if_neg isUpdated] at isAfter
        rw [← isAfter, transitionsOf_congr transitions rfl rfl]
        exact each before isBefore
  | deleted isOld noneYet communications transitions =>
      rw [communications] at member
      rw [transitionsOf_congr transitions rfl rfl]
      exact each communication (List.mem_filter.mp member).1
  | @advanced current new isCurrent continues communications transitions =>
      rw [communications] at member
      rcases List.mem_map.mp member with ⟨before, isBefore, isAfter⟩
      rw [transitionsOf_append transitions]
      by_cases belongs : new.belongsTo before = true
      · rw [if_pos belongs] at isAfter
        have sameKey := (belongsTo_iff.mp belongs).2.trans
          (belongsTo_iff.mp continues.belongs).2.symm
        have isSame := eq_of_key consistent isBefore isCurrent sameKey
        subst isSame
        rw [← isAfter, belongsTo_moved, if_pos belongs]
        exact kept.advanced (each before isBefore) continues
      · rw [if_neg belongs] at isAfter
        rw [← isAfter, if_neg belongs, List.append_nil]
        exact each before isBefore

/-- What the changes keep holds of every communication in every run. -/
theorem each_of_run (kept : KeptByChanges property allowed)
    {statements : List LifecycleStatement}
    (consistent : Consistent database) (each : Each property database)
    (conditions : Along execute (AllowedUpdate allowed) database statements)
    (ran : run execute database statements = .ok next) :
    Consistent next ∧ Each property next := by
  refine run_invariant execute
    (fun state => Consistent state ∧ Each property state) ?_
    ⟨consistent, each⟩ conditions ran
  intro state statement after holds isAllowed executed
  have change := execute_change executed
  exact ⟨holds.1.change change,
    holds.2.change kept holds.1 isAllowed change⟩

theorem each_of_isNew (isNew : IsNew database) : Each property database := by
  unfold Each
  rw [isNew.1]
  exact fun _ member => nomatch member

end Each

end BidayaxExecutive.Communications
