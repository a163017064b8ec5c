import BidayaxExecutive.Communications.LifecycleLog

/-!
# The chronology of a communication

A transition is compared with the instant the communication was last updated
at, and an update may take that instant back as far as the creation.  As long
as none takes it back before the last transition, the transitions are in
chronological order.
-/

namespace BidayaxExecutive.Communications

open BidayaxExecutive.Library.Guards
open BidayaxExecutive.Library.Runs

variable {database : CommunicationsDatabase}

/-- No transition is before the creation. -/
structure AfterCreation (communication : Communication)
    (transitions : List LifecycleTransition) : Prop where
  updatedAt : communication.createdAt ≤ communication.updatedAt
  occurredAt : ∀ transition ∈ transitions,
    communication.createdAt ≤ transition.occurredAt

/-- The transitions are in order, and the last update is after them. -/
structure Chronological (communication : Communication)
    (transitions : List LifecycleTransition) : Prop where
  ordered : transitions.Pairwise fun earlier later =>
    earlier.occurredAt ≤ later.occurredAt
  updatedAt : ∀ transition ∈ transitions,
    transition.occurredAt ≤ communication.updatedAt

/-- The update does not go back before the last transition. -/
def KeepsChronology (_ : Communication)
    (transitions : List LifecycleTransition) (new : Communication) : Prop :=
  ∀ last ∈ transitions.getLast?, last.occurredAt ≤ new.updatedAt

theorem keptByChanges_afterCreation :
    KeptByChanges AfterCreation fun _ _ _ => True where
  inserted _ _ ordered := ⟨ordered, fun _ member => nomatch member⟩
  updated := by
    intro old new transitions holds replaces _
    refine ⟨replaces.updatedAt, fun transition member => ?_⟩
    rw [replaces.createdAt]
    exact holds.occurredAt transition member
  advanced := by
    intro current transitions transition holds continues
    have later : current.createdAt ≤ transition.occurredAt :=
      holds.updatedAt.trans continues.occurredAt
    refine ⟨later, fun member isMember => ?_⟩
    cases List.mem_append.mp isMember with
    | inl earlier =>
        exact holds.occurredAt member earlier
    | inr last =>
        rw [List.mem_singleton.mp last]
        exact later

theorem le_of_getLast? {transitions : List LifecycleTransition}
    {instant : Timestamptz}
    (ordered : transitions.Pairwise fun earlier later =>
      earlier.occurredAt ≤ later.occurredAt)
    (afterLast : ∀ last ∈ transitions.getLast?, last.occurredAt ≤ instant) :
    ∀ transition ∈ transitions, transition.occurredAt ≤ instant := by
  intro transition member
  induction transitions using List.reverseRecOn with
  | nil =>
      exact nomatch member
  | append_singleton earlier last _ =>
      have lastBefore := afterLast last List.getLast?_concat
      cases List.mem_append.mp member with
      | inl isEarlier =>
          have inOrder := (List.pairwise_append.mp ordered).2.2
          exact (inOrder transition isEarlier last
            List.mem_cons_self).trans lastBefore
      | inr isLast =>
          rw [List.mem_singleton.mp isLast]
          exact lastBefore

theorem keptByChanges_chronological :
    KeptByChanges Chronological KeepsChronology where
  inserted _ _ _ :=
    ⟨List.Pairwise.nil, fun _ member => nomatch member⟩
  updated holds _ keeps := ⟨holds.ordered, le_of_getLast? holds.ordered keeps⟩
  advanced := by
    intro current transitions transition holds continues
    have before : ∀ earlier ∈ transitions,
        earlier.occurredAt ≤ transition.occurredAt := fun earlier member =>
      (holds.updatedAt earlier member).trans continues.occurredAt
    constructor
    · refine List.pairwise_append.mpr
        ⟨holds.ordered, List.pairwise_singleton _ _, ?_⟩
      intro earlier isEarlier last isLast
      rw [List.mem_singleton.mp isLast]
      exact before earlier isEarlier
    · intro member isMember
      cases List.mem_append.mp isMember with
      | inl earlier =>
          exact before member earlier
      | inr last =>
          rw [List.mem_singleton.mp last]
          exact le_rfl

theorem lifecycle_chronological {initial : CommunicationsDatabase}
    {statements : List LifecycleStatement} (isNew : IsNew initial)
    (keeps : Along execute (AllowedUpdate KeepsChronology) initial statements)
    (ran : run execute initial statements = .ok database) :
    ∀ communication ∈ database.communications,
      (transitionsOf database communication).Pairwise
        (fun earlier later => earlier.occurredAt ≤ later.occurredAt) ∧
      ∀ transition ∈ transitionsOf database communication,
        communication.createdAt ≤ transition.occurredAt := by
  have allowed : Along execute (AllowedUpdate fun _ _ _ => True) initial
      statements :=
    along_of_forall execute
      (fun _ statement _ => allowedUpdate_always statement) initial
  have consistent := consistent_of_isNew isNew
  have created := each_of_run keptByChanges_afterCreation consistent
    (each_of_isNew isNew) allowed ran
  have ordered := each_of_run keptByChanges_chronological consistent
    (each_of_isNew isNew) keeps ran
  intro communication member
  exact ⟨(ordered.2 communication member).ordered,
    (created.2 communication member).occurredAt⟩

theorem blockedCall_chronological :
    ∃ database, run execute callCenter blockedCall = .ok database ∧
      ∀ communication ∈ database.communications,
        (transitionsOf database communication).length = 3 ∧
        (transitionsOf database communication).Pairwise
          (fun earlier later => earlier.occurredAt ≤ later.occurredAt) ∧
        ∀ transition ∈ transitionsOf database communication,
          communication.createdAt ≤ transition.occurredAt := by
  have keeps : Along execute (AllowedUpdate KeepsChronology) callCenter
      blockedCall := by
    refine along_cons_of_eq_ok execute rfl trivial ?_
    refine along_cons_of_eq_ok execute rfl trivial ?_
    refine along_cons_of_eq_ok execute rfl trivial ?_
    refine along_cons_of_eq_ok execute rfl ?_ ?_
    · -- the update at 7 comes after the transition at 5
      intro old member _ last isLast
      rw [List.mem_singleton.mp member] at isLast ⊢
      rw [← Option.mem_some.mp isLast]
      decide
    · refine along_of_forall execute (fun state statement member => ?_) _
      rcases List.mem_pair.mp member with rfl | rfl <;> trivial
  refine ⟨_, rfl, fun communication member => ?_⟩
  refine ⟨?_, lifecycle_chronological ⟨rfl, rfl⟩ keeps rfl communication
    member⟩
  rw [List.mem_singleton.mp member]
  rfl

/-- The call is updated back to the instant 50 after a transition at 100, and
then moved at 60. -/
def backdatedCall : List LifecycleStatement :=
  [.insertCommunication call,
    .elsewhere { callCenter with
      auditEvents := [callDecision .requested .policyChecking,
        callDecision .policyChecking .authorized] },
    .insertTransition (callTransition 1 .requested .policyChecking 100),
    .updateCommunication "call" fun old => { old with updatedAt := 50 },
    .insertTransition (callTransition 2 .policyChecking .authorized 60)]

theorem backdatedCall_not_chronological :
    ∃ database, run execute callCenter backdatedCall = .ok database ∧
      ¬∀ communication ∈ database.communications,
        (transitionsOf database communication).Pairwise
          (fun earlier later => earlier.occurredAt ≤ later.occurredAt) ∧
        ∀ transition ∈ transitionsOf database communication,
          communication.createdAt ≤ transition.occurredAt := by
  refine ⟨_, rfl, fun chronological => ?_⟩
  have ordered := (chronological _ List.mem_cons_self).1
  revert ordered
  decide

end BidayaxExecutive.Communications
