import BidayaxExecutive.Communications.DispatchRace
import BidayaxExecutive.Library.KeyedRows

/-!
# Runs of statements on the suppressions

Over every run of statements a suppression keeps its place, its scope and what
is recorded of its creation, and it is released once at most.  A release was
checked against an event that a member with the role reported, and no event
releases two suppressions of a tenant.
-/

namespace BidayaxExecutive.Communications

open BidayaxExecutive.Library.Guards
open BidayaxExecutive.Library.KeyedRows
open BidayaxExecutive.Library.Runs
open BidayaxExecutive.Library.Tables

variable {database next : CommunicationsDatabase} {old new : Suppression}

/-! ## Releases -/

/-- A release may give the row another identifier. -/
structure SuppressionReleased (old new : Suppression) : Prop where
  wasActive : old.status = .active
  isReleased : new.status = .released
  tenantId : new.tenantId = old.tenantId
  cardId : new.cardId = old.cardId
  participantId : new.participantId = old.participantId
  channel : new.channel = old.channel
  purpose : new.purpose = old.purpose
  reasonCode : new.reasonCode = old.reasonCode
  createdByActorId : new.createdByActorId = old.createdByActorId
  createdAt : new.createdAt = old.createdAt
  expiresAt : new.expiresAt = old.expiresAt
  releasedAt : ∃ releasedAt ∈ new.releasedAt, old.createdAt ≤ releasedAt

def SuppressionFollows (old new : Suppression) : Prop :=
  new = old ∨ SuppressionReleased old new

theorem SuppressionFollows.trans {first second third : Suppression}
    (follows : SuppressionFollows first second)
    (later : SuppressionFollows second third) :
    SuppressionFollows first third := by
  rcases follows with rfl | released
  · exact later
  · rcases later with rfl | again
    · exact .inr released
    · have active := again.wasActive
      rw [released.isReleased] at active
      cases active

theorem SuppressionFollows.eq_of_active
    (follows : SuppressionFollows old new) (active : new.status = .active) :
    new = old := by
  rcases follows with same | released
  · exact same
  · rw [released.isReleased] at active
    cases active

theorem Suppression.Valid.releasedAt_of_active {row : Suppression}
    (valid : row.Valid) (active : row.status = .active) :
    row.releasedAt = none := by
  rcases valid.status with unended | expired | released
  · exact unended.2.1
  · exact expired.2.1
  · rw [active] at released
    cases released.1

/-- The member and the event that a released row names. -/
structure ReleaseVouched (database : CommunicationsDatabase)
    (row : Suppression) : Prop where
  releaser : ∃ membership ∈ database.memberships,
    membership.tenantId = row.tenantId ∧
      some membership.userId = row.releasedByActorId ∧
      membership.status = .active ∧
      (membership.role = .tenantOwner ∨ membership.role = .tenantAdmin ∨
        membership.role = .receptionistManager)
  event : ∃ event ∈ database.auditEvents,
    event.tenantId = row.tenantId ∧
      some event.auditEventId = row.auditEventId ∧
      event.eventType = "communication.suppression_released" ∧
      event.result = .succeeded ∧ event.cardId = row.cardId ∧
      event.actorUserId = row.releasedByActorId ∧
      ¬(fieldsDiffer event.metadata (releaseFields row event)).Holds ∧
      row.createdAt ≤ event.occurredAt ∧
      ∀ releasedAt ∈ row.releasedAt, event.occurredAt ≤ releasedAt

/-- The key of the unique index on the events of releases. -/
def Suppression.releaseKey? (suppression : Suppression) :
    Option (Text × Text) :=
  suppression.auditEventId.map (suppression.tenantId, ·)

structure SuppressionsKeyed (rows : List Suppression) : Prop where
  ids : (rows.map (·.suppressionId)).Nodup
  events : (rows.filterMap (·.releaseKey?)).Nodup

theorem apart_of_sameKey (apart : new.sameKey old = false) :
    new.suppressionId ≠ old.suppressionId ∧
      ∀ key, new.releaseKey? = some key → old.releaseKey? ≠ some key := by
  simp only [Suppression.sameKey, Bool.or_eq_false_iff, beq_eq_false_iff_ne]
    at apart
  refine ⟨apart.1, fun key ofNew ofOld => ?_⟩
  obtain ⟨event, isEvent, rfl⟩ := Option.map_eq_some_iff.mp ofNew
  obtain ⟨other, isOther, same⟩ := Option.map_eq_some_iff.mp ofOld
  obtain ⟨sameTenant, rfl⟩ := Prod.mk.inj same
  simp [isEvent, isOther, sameTenant] at apart

theorem checkSuppressionRelease_eq_ok {result : PUnit}
    (checked : checkSuppressionRelease database new = .ok result) :
    ReleaseVouched database new := by
  unfold checkSuppressionRelease at checked
  simp only [guard_eq_ok, not_not, Option.any_eq_true] at checked
  obtain ⟨⟨membership, found, role⟩, releasing⟩ := checked
  cases isEvent : releaseEvent? database new with
  | none =>
      simp [isEvent] at releasing
  | some event =>
      simp only [isEvent, guard_eq_ok, lastGuard_eq_ok, not_or, not_lt,
        not_exists, not_and] at releasing
      have holds := List.find?_some isEvent
      have isMember := List.find?_some found
      simp only [Bool.and_eq_true, Bool.or_eq_true, beq_iff_eq]
        at holds isMember role
      exact
        { releaser := ⟨membership, List.mem_of_find?_eq_some found,
            isMember.1.1, isMember.1.2, isMember.2, or_assoc.mp role⟩
          event := ⟨event, List.mem_of_find?_eq_some isEvent,
            holds.1.1.1.1.1.1.1, holds.1.1.1.1.1.1.2, holds.1.1.1.1.1.2,
            holds.1.1.1.1.2, holds.1.1.1.2, holds.2, releasing.1,
            releasing.2.1,
            fun releasedAt isSet => by
              simpa using releasing.2.2 releasedAt isSet⟩ }

theorem released_of_transition {result : PUnit}
    (moved : enforceCommunicationSuppressionTransition old new = .ok result) :
    SuppressionReleased old new := by
  unfold enforceCommunicationSuppressionTransition at moved
  simp only [guard_eq_ok, lastGuard_eq_ok, not_or, not_not] at moved
  obtain ⟨⟨tenantId, cardId, participantId, channel, purpose, reasonCode,
    createdByActorId, createdAt, expiresAt⟩, ⟨wasActive, isReleased⟩,
    dated, _⟩ := moved
  refine
    { wasActive, isReleased, tenantId, cardId, participantId, channel,
      purpose, reasonCode, createdByActorId, createdAt, expiresAt,
      releasedAt := ?_ }
  cases isSet : new.releasedAt with
  | none =>
      simp [isSet] at dated
  | some releasedAt =>
      refine ⟨releasedAt, rfl, ?_⟩
      simpa [isSet] using dated

/-! ## Statements -/

/-- What a statement does to the suppressions. -/
inductive SuppressionsChange (database next : CommunicationsDatabase) : Prop
  | unchanged (same : next.suppressions = database.suppressions)
  | inserted (new : Suppression) (isActive : new.status = .active)
      (unreleased : new.auditEventId = none)
      (free : ∀ other ∈ database.suppressions, new.sameKey other = false)
      (rows : next.suppressions = database.suppressions ++ [new])
  | released (before after : List Suppression) (old new : Suppression)
      (wereRows : database.suppressions = before ++ old :: after)
      (rows : next.suppressions = before ++ new :: after)
      (free : ∀ other ∈ before ++ after, new.sameKey other = false)
      (releases : SuppressionReleased old new)
      (vouched : ReleaseVouched database new)

theorem change_insertSuppression
    (inserted : insertSuppression database new = .ok next) :
    SuppressionsChange database next := by
  unfold insertSuppression at inserted
  rcases bind_eq_ok.mp inserted with ⟨_, evidenced, carded⟩
  rcases bind_eq_ok.mp carded with ⟨_, _, guarded⟩
  simp only [guard_eq_ok, not_not, Bool.not_eq_true, List.any_eq_false]
    at guarded
  unfold enforceCommunicationSuppressionActorEvidence at evidenced
  simp only [guard_eq_ok, not_not] at evidenced
  have isActive : new.status = .active := evidenced.2.1
  have unreleased : new.auditEventId = none := by
    rcases guarded.1.status with active | expired | released
    · exact active.2.2.2.2
    · rw [isActive] at expired
      cases expired.1
    · rw [isActive] at released
      cases released.1
  refine .inserted new isActive unreleased (by simpa using guarded.2.1) ?_
  rw [← Except.ok.inj guarded.2.2.2]

/-- The other rows have other identifiers. -/
theorem others_of_split {before after : List Suppression}
    (ids : (database.suppressions.map (·.suppressionId)).Nodup)
    (rows : database.suppressions = before ++ old :: after) :
    ∀ other ∈ before ++ after, other.suppressionId ≠ old.suppressionId := by
  rw [rows, List.map_append, List.map_cons, List.nodup_middle,
    List.nodup_cons, ← List.map_append] at ids
  intro other member same
  exact ids.1 (List.mem_map.mpr ⟨other, member, same⟩)

theorem change_updateSuppression {suppressionId : Text}
    {revise : Suppression → Suppression}
    (ids : (database.suppressions.map (·.suppressionId)).Nodup)
    (updated : updateSuppression database suppressionId revise = .ok next) :
    SuppressionsChange database next := by
  unfold updateSuppression at updated
  cases found : database.suppressions.find? fun suppression =>
      suppression.suppressionId == suppressionId with
  | none =>
      simp only [found] at updated
      refine .unchanged ?_
      rw [← Except.ok.inj updated]
  | some old =>
      simp only [found] at updated
      rcases bind_eq_ok.mp updated with ⟨_, evidenced, carded⟩
      rcases bind_eq_ok.mp carded with ⟨_, _, moved⟩
      rcases bind_eq_ok.mp moved with ⟨_, transition, guarded⟩
      simp only [guard_eq_ok, Bool.not_eq_true, List.any_eq_false]
        at guarded
      have releases := released_of_transition transition
      unfold enforceCommunicationSuppressionActorEvidence at evidenced
      simp only [guard_eq_ok, releases.isReleased, if_true] at evidenced
      obtain ⟨isOld, before, after, rows, _⟩ :=
        List.find?_eq_some_iff_append.mp found
      have sameId : old.suppressionId = suppressionId := by
        simpa using isOld
      have others := others_of_split ids rows
      rw [sameId] at others
      have kept : ∀ part : List Suppression,
          (∀ other ∈ part, other.suppressionId ≠ suppressionId) →
            part.map (fun suppression =>
              if suppression.suppressionId = suppressionId then revise old
              else suppression) = part := by
        intro part apart
        rw [List.map_congr_left fun other member =>
          if_neg (apart other member)]
        exact List.map_id _
      refine .released before after old (revise old) rows ?_ ?_ releases
        (checkSuppressionRelease_eq_ok evidenced.2)
      · rw [← Except.ok.inj guarded.2.2.2.2]
        change database.suppressions.map _ = _
        rw [rows, List.map_append, List.map_cons, if_pos sameId,
          kept before fun other member =>
            others other (List.mem_append_left _ member),
          kept after fun other member =>
            others other (List.mem_append_right _ member)]
      · intro other member
        have isRow : other ∈ database.suppressions := by
          rw [rows, List.mem_append, List.mem_cons]
          rcases List.mem_append.mp member with left | right
          · exact .inl left
          · exact .inr (.inr right)
        have free := guarded.2.1 other isRow
        simpa [others other member] using free

theorem suppressions_insertConsentReceipt
    {readTimestamptz : Text → Option Timestamptz} {new : ConsentReceipt}
    (inserted : insertConsentReceipt database readTimestamptz new =
      .ok next) : next.suppressions = database.suppressions := by
  unfold insertConsentReceipt at inserted
  rcases bind_eq_ok.mp inserted with ⟨_, _, inScope⟩
  rcases bind_eq_ok.mp inScope with ⟨_, _, carded⟩
  rcases bind_eq_ok.mp carded with ⟨_, _, guarded⟩
  simp only [guard_eq_ok] at guarded
  rw [← Except.ok.inj guarded.2.2.2]

theorem suppressions_insertDispatchAttempt {now : Timestamptz}
    {new : DispatchAttempt}
    (inserted : insertDispatchAttempt database now new = .ok next) :
    next.suppressions = database.suppressions := by
  unfold insertDispatchAttempt at inserted
  rcases bind_eq_ok.mp inserted with ⟨_, _, isNext⟩
  rw [← Except.ok.inj isNext]

theorem suppressions_updateDispatchAttempt {now : Timestamptz}
    {attemptId : Text} {revise : DispatchAttempt → DispatchAttempt}
    (updated : updateDispatchAttempt database now attemptId revise =
      .ok next) : next.suppressions = database.suppressions := by
  unfold updateDispatchAttempt at updated
  cases found : findDispatchAttempt database attemptId with
  | none =>
      simp only [found] at updated
      rw [← Except.ok.inj updated]
  | some old =>
      simp only [found] at updated
      rcases bind_eq_ok.mp updated with ⟨_, _, isNext⟩
      rw [← Except.ok.inj isNext]

theorem change_executeConsent
    {readTimestamptz : Text → Option Timestamptz}
    {statement : ConsentStatement}
    (ids : (database.suppressions.map (·.suppressionId)).Nodup)
    (executed : executeConsent readTimestamptz database statement =
      .ok next) : SuppressionsChange database next := by
  cases statement with
  | insertPolicy new =>
      simp only [executeConsent, insertConsentPolicy, guard_eq_ok] at executed
      refine .unchanged ?_
      rw [← Except.ok.inj executed.2.2.2]
  | mutatePolicy consentPolicyId =>
      exact .unchanged (by rw [refuseMutation_eq_ok executed])
  | insertReceipt new =>
      exact .unchanged (suppressions_insertConsentReceipt executed)
  | mutateReceipt consentReceiptId =>
      exact .unchanged (by rw [refuseMutation_eq_ok executed])
  | insertSuppression new =>
      exact change_insertSuppression executed
  | updateSuppression suppressionId revise =>
      exact change_updateSuppression ids executed
  | deleteSuppression suppressionId =>
      exact .unchanged (by rw [refuseMutation_eq_ok executed])
  | insertDispatch now new =>
      exact .unchanged (suppressions_insertDispatchAttempt executed)
  | updateDispatch now attemptId revise =>
      exact .unchanged (suppressions_updateDispatchAttempt executed)
  | deleteDispatch attemptId =>
      refine .unchanged ?_
      rw [← Except.ok.inj executed]
  | elsewhere other =>
      refine .unchanged ?_
      rw [← Except.ok.inj executed]

/-! ## What a statement keeps -/

/-- Every row is still in its place, or its release is. -/
def SuppressionsKept (rows later : List Suppression) : Prop :=
  ∀ (place : Nat) (old : Suppression), rows[place]? = some old →
    ∃ new, later[place]? = some new ∧ SuppressionFollows old new

theorem suppressionsKept_refl (rows : List Suppression) :
    SuppressionsKept rows rows :=
  fun _ old found => ⟨old, found, .inl rfl⟩

theorem SuppressionsKept.trans {first second third : List Suppression}
    (kept : SuppressionsKept first second)
    (later : SuppressionsKept second third) :
    SuppressionsKept first third := by
  intro place old found
  obtain ⟨middle, foundMiddle, follows⟩ := kept place old found
  obtain ⟨new, foundNew, followsMiddle⟩ := later place middle foundMiddle
  exact ⟨new, foundNew, follows.trans followsMiddle⟩

theorem SuppressionsChange.kept (change : SuppressionsChange database next) :
    SuppressionsKept database.suppressions next.suppressions := by
  cases change with
  | unchanged same =>
      rw [same]
      exact suppressionsKept_refl _
  | inserted new _ _ _ rows =>
      intro place row found
      have isPlace := (List.getElem?_eq_some_iff.mp found).1
      refine ⟨row, ?_, .inl rfl⟩
      rw [rows, List.getElem?_append_left isPlace]
      exact found
  | released before after old new wereRows rows _ releases _ =>
      intro place row found
      rw [wereRows] at found
      rw [rows]
      rcases Nat.lt_trichotomy place before.length with ahead | here | behind
      · rw [List.getElem?_append_left ahead] at found
        rw [List.getElem?_append_left ahead]
        exact ⟨row, found, .inl rfl⟩
      · subst here
        rw [List.getElem?_append_right le_rfl, Nat.sub_self,
          List.getElem?_cons_zero] at found
        rw [List.getElem?_append_right le_rfl, Nat.sub_self,
          List.getElem?_cons_zero, ← Option.some.inj found]
        exact ⟨new, rfl, .inr releases⟩
      · obtain ⟨gap, rfl⟩ := Nat.exists_eq_add_of_lt behind
        have isGap : before.length + gap + 1 - before.length = gap + 1 := by
          omega
        rw [List.getElem?_append_right behind.le, isGap,
          List.getElem?_cons_succ] at found
        rw [List.getElem?_append_right behind.le, isGap,
          List.getElem?_cons_succ]
        exact ⟨row, found, .inl rfl⟩

theorem SuppressionsChange.keyed (change : SuppressionsChange database next)
    (keyed : SuppressionsKeyed database.suppressions) :
    SuppressionsKeyed next.suppressions := by
  cases change with
  | unchanged same =>
      rw [same]
      exact keyed
  | inserted new _ unreleased free rows =>
      rw [rows]
      constructor
      · exact nodup_map_insert _ keyed.ids fun other member same =>
          (apart_of_sameKey (free other member)).1 same.symm
      · have noKey : new.releaseKey? = none := by
          rw [Suppression.releaseKey?, unreleased]
          rfl
        rw [List.filterMap_append, List.filterMap_cons_none noKey,
          List.filterMap_nil, List.append_nil]
        exact keyed.events
  | released before after old new wereRows rows free _ _ =>
      have ids := keyed.ids
      have events := keyed.events
      rw [wereRows] at ids events
      rw [rows]
      constructor
      · rw [← List.filterMap_eq_map] at ids
        rw [← List.filterMap_eq_map]
        apply nodup_filterMap_replace ids
        intro other member key isKey sameKey
        exact (apart_of_sameKey (free other member)).1
          (Option.some.inj (isKey.trans sameKey.symm))
      · apply nodup_filterMap_replace events
        intro other member
        exact (apart_of_sameKey (free other member)).2

/-- The change released an active row, for an event that was there. -/
structure ReleasedBy (database next : CommunicationsDatabase)
    (row : Suppression) : Prop where
  unreleased : row ∉ database.suppressions
  releases : ∃ (place : Nat) (old : Suppression),
    database.suppressions[place]? = some old ∧
      next.suppressions[place]? = some row ∧ SuppressionReleased old row
  vouched : ReleaseVouched database row

/-- A released row was there, or the change released it. -/
theorem SuppressionsChange.mem_or_releasedBy
    (change : SuppressionsChange database next) {row : Suppression}
    (member : row ∈ next.suppressions) (released : row.status = .released) :
    row ∈ database.suppressions ∨ ReleasedBy database next row := by
  cases change with
  | unchanged same =>
      rw [same] at member
      exact .inl member
  | inserted new isActive _ _ rows =>
      rw [rows] at member
      rcases List.mem_append.mp member with old | isNew
      · exact .inl old
      · rw [List.mem_singleton.mp isNew, isActive] at released
        cases released
  | released before after old new wereRows rows free releases vouched =>
      rw [rows, List.mem_append, List.mem_cons] at member
      rcases member with ahead | rfl | behind
      · rw [wereRows]
        exact .inl (List.mem_append_left _ ahead)
      · refine .inr ⟨fun there => ?_, ⟨before.length, old, ?_, ?_, releases⟩,
          vouched⟩
        · -- its identifier was free, and the row it replaces was active
          rw [wereRows, List.mem_append, List.mem_cons] at there
          have elsewhere : row ∉ before ++ after := fun other =>
            (apart_of_sameKey (free row other)).1 rfl
          rcases there with ahead | rfl | behind
          · exact elsewhere (List.mem_append_left _ ahead)
          · exact absurd (releases.wasActive.symm.trans released) (by decide)
          · exact elsewhere (List.mem_append_right _ behind)
        · rw [wereRows, List.getElem?_append_right le_rfl, Nat.sub_self,
            List.getElem?_cons_zero]
        · rw [rows, List.getElem?_append_right le_rfl, Nat.sub_self,
            List.getElem?_cons_zero]
      · rw [wereRows]
        exact .inl (List.mem_append_right _ (List.mem_cons_of_mem _ behind))

/-! ## Runs -/

/-- A statement of the run released the row, which was not released before,
and the event of the release was there. -/
def ReleasedAlong (readTimestamptz : Text → Option Timestamptz)
    (initial : CommunicationsDatabase) (statements : List ConsentStatement)
    (row : Suppression) : Prop :=
  ∃ earlier statement later middle next,
    statements = earlier ++ statement :: later ∧
      run (executeConsent readTimestamptz) initial earlier = .ok middle ∧
      executeConsent readTimestamptz middle statement = .ok next ∧
      ReleasedBy middle next row

section Runs

variable {readTimestamptz : Text → Option Timestamptz}
  {initial final : CommunicationsDatabase}
  {statements : List ConsentStatement}

theorem kept_run (keyed : SuppressionsKeyed initial.suppressions)
    (ran : run (executeConsent readTimestamptz) initial statements =
      .ok final) :
    SuppressionsKept initial.suppressions final.suppressions := by
  have always : Along (executeConsent readTimestamptz) (fun _ _ => True)
      initial statements :=
    along_of_forall _ (fun _ _ _ => trivial) initial
  refine run_relates _ (fun state => SuppressionsKeyed state.suppressions)
    (fun state later =>
      SuppressionsKept state.suppressions later.suppressions)
    (fun state => suppressionsKept_refl _) SuppressionsKept.trans ?_ keyed
    always ran
  intro _ _ _ keyed _ executed
  have change := change_executeConsent keyed.ids executed
  exact ⟨change.keyed keyed, change.kept⟩

theorem keyed_run (keyed : SuppressionsKeyed initial.suppressions)
    (ran : run (executeConsent readTimestamptz) initial statements =
      .ok final) : SuppressionsKeyed final.suppressions := by
  refine run_preserves _ (fun state => SuppressionsKeyed state.suppressions)
    ?_ keyed ran
  intro _ _ _ keyed executed
  exact (change_executeConsent keyed.ids executed).keyed keyed

/-- By induction on the statements: the first one is part of every run that
the rest come through. -/
theorem releasedAlong_run (keyed : SuppressionsKeyed initial.suppressions)
    (ran : run (executeConsent readTimestamptz) initial statements =
      .ok final) {row : Suppression} (member : row ∈ final.suppressions)
    (released : row.status = .released) :
    row ∈ initial.suppressions ∨
      ReleasedAlong readTimestamptz initial statements row := by
  induction statements generalizing initial with
  | nil =>
      rw [← Except.ok.inj ran] at member
      exact .inl member
  | cons statement rest inductionHypothesis =>
      obtain ⟨next, executed, ranRest⟩ := (run_cons_eq_ok _).mp ran
      have change := change_executeConsent keyed.ids executed
      rcases inductionHypothesis (change.keyed keyed) ranRest with
        there | ⟨earlier, releasing, later, middle, after, rfl, reached, last⟩
      · rcases change.mem_or_releasedBy there released with old | releasedBy
        · exact .inl old
        · exact .inr ⟨[], statement, rest, initial, next, rfl, rfl, executed,
            releasedBy⟩
      · exact .inr ⟨statement :: earlier, releasing, later, middle, after,
          rfl, (run_cons_eq_ok _).mpr ⟨next, executed, reached⟩, last⟩

/-- No suppression is lost, none is released twice or for an event that
released another, and a release had its event when it was made. -/
theorem suppressions_stand (keyed : SuppressionsKeyed initial.suppressions)
    (ran : run (executeConsent readTimestamptz) initial statements =
      .ok final) :
    SuppressionsKept initial.suppressions final.suppressions ∧
      SuppressionsKeyed final.suppressions ∧
        ∀ row ∈ final.suppressions, row.status = .released →
          row ∈ initial.suppressions ∨
            ReleasedAlong readTimestamptz initial statements row :=
  ⟨kept_run keyed ran, keyed_run keyed ran,
    fun _ member released => releasedAlong_run keyed ran member released⟩

/-- While a suppression is not released, what it covers is only queued before
it was created or after it expires. -/
theorem suppression_bars (keyed : SuppressionsKeyed initial.suppressions)
    (ran : run (executeConsent readTimestamptz) initial statements =
      .ok final) {place : Nat} {row last : Suppression}
    (isRow : initial.suppressions[place]? = some row) (valid : row.Valid)
    (isLast : final.suppressions[place]? = some last)
    (stillActive : last.status = .active)
    {earlier later : List ConsentStatement} {statement : ConsentStatement}
    {middle : CommunicationsDatabase}
    (parts : statements = earlier ++ statement :: later)
    (reached : run (executeConsent readTimestamptz) initial earlier =
      .ok middle) {attempt : DispatchAttempt} {time : Timestamptz}
    (queues : Queues middle attempt time statement)
    (covers : row.covers attempt = true) :
    isEffective row.createdAt row.expiresAt time = false := by
  subst parts
  obtain ⟨state, toState, rest⟩ := (run_append_eq_ok _).mp ran
  rw [reached] at toState
  cases toState
  obtain ⟨next, executed, _⟩ := (run_cons_eq_ok _).mp rest
  obtain ⟨there, isThere, follows⟩ := kept_run keyed reached place row isRow
  obtain ⟨other, isOther, followsThere⟩ :=
    kept_run (keyed_run keyed reached) rest place there isThere
  rw [isLast] at isOther
  rw [← Option.some.inj isOther] at followsThere
  have same := followsThere.eq_of_active stillActive
  rw [same] at stillActive
  have sameRow := follows.eq_of_active stillActive
  rw [sameRow] at isThere stillActive
  have unreleased := valid.releasedAt_of_active stillActive
  have counted := counted_of_queues queues executed
  rw [← Bool.not_eq_true]
  intro effective
  have blocking : row ∈ activeSuppressions middle attempt time := by
    refine List.mem_filter.mpr ⟨List.mem_of_getElem? isThere, ?_⟩
    simp [covers, stillActive, effective, unreleased]
  rw [counted.suppressions] at blocking
  exact List.not_mem_nil blocking

end Runs

/-! ## A suppression that is released -/

def visitorRelease : AuditEvent where
  auditEventId := "release"
  tenantId := "tenant"
  cardId := some "card"
  communicationId := none
  eventType := "communication.suppression_released"
  actorType := .user
  actorUserId := some "owner"
  actorServiceId := none
  actorPlatformId := none
  authorizationDecisionId := "decision"
  permissionVersion := "communications-permissions-v1"
  policyVersion := "communications-policy-v1"
  result := .succeeded
  occurredAt := seconds 40
  metadata := .object
    [("suppressionId", .string "suppression"),
      ("releaseReason", .string "asked again"),
      ("requiredPermission", .string "communications:release_suppression"),
      ("decisionId", .string "decision")]

def releaseSuppression (suppression : Suppression) : Suppression :=
  { suppression with
    status := .released
    releasedByActorId := some "owner"
    releasedAt := some (seconds 40)
    releaseReason := some "asked again"
    auditEventId := some "release" }

/-- The desk, with the event of the release recorded. -/
def releaseDesk : CommunicationsDatabase :=
  { callbackDesk with auditEvents := [visitorRelease] }

/-- Another suppression of the visitor, for messages only. -/
def messageSuppression : Suppression :=
  { visitorSuppression with
    suppressionId := "messages"
    channel := some .messaging }

def suppressAndRelease : List ConsentStatement :=
  [.insertSuppression visitorSuppression,
    .insertSuppression messageSuppression,
    .updateSuppression "suppression" releaseSuppression,
    .updateSuppression "unknown" releaseSuppression]

theorem suppressions_stand_released :
    ∃ final, run (executeConsent readInstant) releaseDesk
        suppressAndRelease = .ok final ∧
      final.suppressions.map (·.status) = [.released, .active] ∧
      SuppressionsKeyed final.suppressions ∧
      ∀ row ∈ final.suppressions, row.status = .released →
        ReleasedAlong readInstant releaseDesk suppressAndRelease row := by
  refine ⟨_, rfl, rfl, ?_⟩
  have ran : run (executeConsent readInstant) releaseDesk
      suppressAndRelease = .ok _ := rfl
  have nothing : SuppressionsKeyed releaseDesk.suppressions :=
    ⟨List.nodup_nil, List.nodup_nil⟩
  obtain ⟨_, keyed, vouched⟩ := suppressions_stand nothing ran
  exact ⟨keyed, fun row member released =>
    (vouched row member released).resolve_left List.not_mem_nil⟩

/-! ## A suppression that expires -/

def brieflySuppressed : Suppression :=
  { visitorSuppression with
    suppressionId := "briefly"
    expiresAt := some (seconds 25) }

/-- The visitor has consented and is suppressed for five seconds. -/
def briefDesk : CommunicationsDatabase :=
  { callbackWorld.store with
    auditEvents := [visitorRelease]
    suppressions := [brieflySuppressed] }

/-- The callback is queued between two statements on another suppression. -/
def queueAfterExpiry : List ConsentStatement :=
  [.insertSuppression { messageSuppression with
      suppressionId := "suppression" },
    .insertDispatch (seconds 30) callbackAttempt,
    .updateSuppression "suppression" releaseSuppression]

theorem suppression_bars_expired :
    ∃ final, run (executeConsent readInstant) briefDesk queueAfterExpiry =
        .ok final ∧
      final.suppressions.map (·.status) = [.active, .released] ∧
      final.dispatchAttempts = [callbackAttempt] ∧
      isEffective brieflySuppressed.createdAt brieflySuppressed.expiresAt
        (seconds 30) = false := by
  refine ⟨_, rfl, rfl, rfl, ?_⟩
  have ran : run (executeConsent readInstant) briefDesk queueAfterExpiry =
      .ok _ := rfl
  have keyed : SuppressionsKeyed [brieflySuppressed] :=
    ⟨List.nodup_singleton _, List.nodup_nil⟩
  have queues : ∀ database, Queues database callbackAttempt (seconds 30)
      (.insertDispatch (seconds 30) callbackAttempt) :=
    fun _ => ⟨rfl, rfl, rfl⟩
  have isRow : briefDesk.suppressions[0]? = some brieflySuppressed := rfl
  have parts : queueAfterExpiry =
      [.insertSuppression { messageSuppression with
        suppressionId := "suppression" }] ++
        .insertDispatch (seconds 30) callbackAttempt ::
          [.updateSuppression "suppression" releaseSuppression] := rfl
  exact suppression_bars keyed ran isRow (by decide) rfl rfl parts rfl
    (queues _) rfl

end BidayaxExecutive.Communications
