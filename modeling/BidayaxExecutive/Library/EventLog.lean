import Mathlib.Data.List.Chain
import Mathlib.Data.List.Range
import Mathlib.Tactic.Common

/-!
# Event logs

The events of an object say which state they leave, which one they enter and
which number they have.  Replaying a log enters the states one after the other
and fails where an event does not continue from the state reached.  A log that
replays numbers its events from one, each event leaves the state the one before
it enters, and the state and the version of the object are those of the last
event.  No event follows on a state that none may leave.
-/

namespace BidayaxExecutive.Library.EventLog

variable {State : Type*}

structure Event (State : Type*) where
  number : Int
  source : State
  target : State

structure Head (State : Type*) where
  state : State
  version : Int

section Replay

variable [DecidableEq State] (allowed : State → State → Bool)

def advance (head : Head State) (event : Event State) :
    Option (Head State) :=
  if event.source = head.state ∧ event.number = head.version + 1 ∧
      allowed event.source event.target = true then
    some ⟨event.target, event.number⟩
  else none

def replay (start : State) (events : List (Event State)) :
    Option (Head State) :=
  events.foldlM (advance allowed) ⟨start, 0⟩

/-- What a log says that replays. -/
structure WellOrdered (start : State) (events : List (Event State))
    (head : Head State) : Prop where
  numbers : events.map Event.number =
    (List.range' 1 events.length).map Int.ofNat
  starts : ∀ first ∈ events.head?, first.source = start
  linked : events.IsChain fun earlier later => later.source = earlier.target
  allowed : ∀ event ∈ events, allowed event.source event.target = true
  state : head.state = (events.getLast?.map Event.target).getD start
  version : head.version = events.length

variable {allowed} {start : State} {events : List (Event State)}
  {event : Event State} {head next : Head State}

theorem advance_eq_some :
    advance allowed head event = some next ↔
      (event.source = head.state ∧ event.number = head.version + 1 ∧
        allowed event.source event.target = true) ∧
      next = ⟨event.target, event.number⟩ := by
  unfold advance
  by_cases continues : event.source = head.state ∧
      event.number = head.version + 1 ∧
      allowed event.source event.target = true
  · rw [if_pos continues, Option.some.injEq]
    constructor
    · intro same
      exact ⟨continues, same.symm⟩
    · intro both
      exact both.2.symm
  · rw [if_neg continues]
    constructor
    · intro absurdity
      exact nomatch absurdity
    · intro both
      exact absurd both.1 continues

theorem replay_append_singleton :
    replay allowed start (events ++ [event]) =
      (replay allowed start events).bind fun head =>
        advance allowed head event := by
  unfold replay
  rw [List.foldlM_append]
  cases events.foldlM (advance allowed) ⟨start, 0⟩ with
  | none =>
      rfl
  | some head =>
      change (advance allowed head event).bind some = advance allowed head event
      exact Option.bind_fun_some _

theorem WellOrdered.append_singleton
    (ordered : WellOrdered allowed start events head)
    (advanced : advance allowed head event = some next) :
    WellOrdered allowed start (events ++ [event]) next := by
  have continues := (advance_eq_some.mp advanced).1
  have reached := (advance_eq_some.mp advanced).2
  have numbered : event.number = (events.length : Int) + 1 := by
    rw [continues.2.1, ordered.version]
  constructor
  · rw [List.map_append, ordered.numbers, List.length_append,
      List.length_singleton, List.range'_concat, List.map_append]
    congr 1
    simp only [List.map_cons, List.map_nil, numbered]
    congr 1
    simp only [Int.ofNat_eq_natCast]
    omega
  · intro first isFirst
    cases events with
    | nil =>
        have same : event = first := by simpa using isFirst
        rw [← same, continues.1, ordered.state]
        rfl
    | cons earliest rest =>
        exact ordered.starts first (by simpa using isFirst)
  · refine List.isChain_append.mpr
      ⟨ordered.linked, List.isChain_singleton _, ?_⟩
    intro last isLast first isFirst
    have same : event = first := by simpa using isFirst
    have isTarget := ordered.state
    rw [Option.mem_def.mp isLast, Option.map_some, Option.getD_some] at isTarget
    rw [← same, continues.1, isTarget]
  · intro member isMember
    cases List.mem_append.mp isMember with
    | inl earlier =>
        exact ordered.allowed member earlier
    | inr last =>
        rw [List.mem_singleton.mp last]
        exact continues.2.2
  · rw [reached, List.getLast?_append, List.getLast?_singleton]
    rfl
  · rw [reached, List.length_append, List.length_singleton]
    push_cast
    exact numbered

theorem wellOrdered_of_replay
    (replays : replay allowed start events = some head) :
    WellOrdered allowed start events head := by
  induction events using List.reverseRecOn generalizing head with
  | nil =>
      rw [← Option.some.inj replays]
      exact ⟨rfl, fun _ isFirst => (nomatch isFirst), List.isChain_nil,
        fun _ isMember => (nomatch isMember), rfl, rfl⟩
  | append_singleton earlier last inductionHypothesis =>
      rw [replay_append_singleton, Option.bind_eq_some_iff] at replays
      rcases replays with ⟨before, replaysEarlier, advanced⟩
      exact (inductionHypothesis replaysEarlier).append_singleton advanced

/-- No event leaves a terminal state. -/
theorem not_advance_of_terminal
    (terminal : ∀ target, allowed head.state target = false) :
    advance allowed head event = none := by
  refine if_neg fun continues => ?_
  have forbidden := terminal event.target
  rw [← continues.1, continues.2.2] at forbidden
  exact nomatch forbidden

end Replay

end BidayaxExecutive.Library.EventLog
