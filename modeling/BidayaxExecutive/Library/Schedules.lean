import Mathlib.Data.List.Forall2
import BidayaxExecutive.Library.Scripts

/-!
# Schedules of many scripts

Any number of scripts share a state; a scheduler picks one of them for each
step, until all are done.  A condition on the picks may be imposed: it sees the
scripts as they stand and the position that is picked.
-/

namespace BidayaxExecutive.Library.Schedules

open BidayaxExecutive.Library.Scripts

section Schedules

variable {State Failure Value : Type}

def isDone : Script State Failure Value → Bool
  | .done _ => true
  | .step _ _ => false

/-- The scripts run from one state to another, all of them to the end. -/
inductive Schedule
    (allowed : List (Script State Failure Value) → Nat → Prop) :
    List (Script State Failure Value) → State → State → Prop
  | done {scripts : List (Script State Failure Value)} {state : State} :
      (∀ script ∈ scripts, isDone script = true) →
      Schedule allowed scripts state state
  | step {scripts : List (Script State Failure Value)} {position : Nat}
      {write : State → State} {next : State → Script State Failure Value}
      {state final : State} :
      scripts[position]? = some (.step write next) →
      allowed scripts position →
      Schedule allowed (scripts.set position (next state)) (write state)
        final →
      Schedule allowed scripts state final

/-- What every allowed step preserves holds in the end, of scripts that are
done. -/
theorem Schedule.invariant
    {allowed : List (Script State Failure Value) → Nat → Prop}
    {holds : List (Script State Failure Value) → State → Prop}
    (preserved : ∀ {scripts position write next state},
      holds scripts state → scripts[position]? = some (.step write next) →
      allowed scripts position →
      holds (scripts.set position (next state)) (write state))
    {scripts : List (Script State Failure Value)} {state final : State}
    (initially : holds scripts state)
    (schedule : Schedule allowed scripts state final) :
    ∃ ended, holds ended final ∧
      ended.length = scripts.length ∧
        ∀ script ∈ ended, isDone script = true := by
  induction schedule with
  | done finished =>
      exact ⟨_, initially, rfl, finished⟩
  | step found pick _ inductionHypothesis =>
      have ended := inductionHypothesis (preserved initially found pick)
      rw [List.length_set] at ended
      exact ended

/-! ## Chosen schedules -/

/-- The picks one after the other. -/
def pickSteps : List Nat → List (Script State Failure Value) → State →
    Option (List (Script State Failure Value) × State)
  | [], scripts, state => some (scripts, state)
  | position :: rest, scripts, state =>
      match scripts[position]? with
      | some (.step write next) =>
          pickSteps rest (scripts.set position (next state)) (write state)
      | _ => none

/-- Every pick is allowed when it is made. -/
def PicksAllowed (allowed : List (Script State Failure Value) → Nat → Prop) :
    List Nat → List (Script State Failure Value) → State → Prop
  | [], _, _ => True
  | position :: rest, scripts, state =>
      allowed scripts position ∧ ∀ write next,
        scripts[position]? = some (.step write next) →
        PicksAllowed allowed rest (scripts.set position (next state))
          (write state)

theorem picksAllowed_of_forall
    {allowed : List (Script State Failure Value) → Nat → Prop}
    (all : ∀ scripts position, allowed scripts position) (picks : List Nat)
    (scripts : List (Script State Failure Value)) (state : State) :
    PicksAllowed allowed picks scripts state := by
  induction picks generalizing scripts state with
  | nil =>
      exact trivial
  | cons position rest inductionHypothesis =>
      exact ⟨all scripts position, fun _ _ _ => inductionHypothesis _ _⟩

theorem schedule_of_pickSteps
    {allowed : List (Script State Failure Value) → Nat → Prop}
    {picks : List Nat} {scripts ended : List (Script State Failure Value)}
    {state final : State}
    (conditions : PicksAllowed allowed picks scripts state)
    (picked : pickSteps picks scripts state = some (ended, final))
    (finished : ended.all isDone = true) :
    Schedule allowed scripts state final := by
  induction picks generalizing scripts state with
  | nil =>
      have same := Prod.mk.inj (Option.some.inj picked)
      rw [same.1, same.2]
      exact .done (List.all_eq_true.mp finished)
  | cons position rest inductionHypothesis =>
      unfold pickSteps at picked
      split at picked
      · rename_i write next found
        exact .step found conditions.1
          (inductionHypothesis (conditions.2 write next found) picked)
      · exact nomatch picked

/-! ## Runs that are not over -/

/-- What every step preserves holds after any picks, whether or not the scripts
are done. -/
theorem pickSteps_invariant
    (holds : List (Script State Failure Value) → State → Prop)
    (preserved : ∀ {scripts position write next state},
      holds scripts state → scripts[position]? = some (.step write next) →
      holds (scripts.set position (next state)) (write state))
    {picks : List Nat} {scripts ended : List (Script State Failure Value)}
    {state final : State} (initially : holds scripts state)
    (picked : pickSteps picks scripts state = some (ended, final)) :
    holds ended final := by
  induction picks generalizing scripts state with
  | nil =>
      have same := Prod.mk.inj (Option.some.inj picked)
      rw [← same.1, ← same.2]
      exact initially
  | cons position rest inductionHypothesis =>
      unfold pickSteps at picked
      split at picked
      · rename_i write next found
        exact inductionHypothesis (preserved initially found) picked
      · exact nomatch picked

/-- What every script preserves holds after any picks. -/
theorem pickSteps_preserves {invariant : State → Prop} {picks : List Nat}
    {scripts ended : List (Script State Failure Value)} {state final : State}
    (preserves : ∀ script ∈ scripts, script.Preserves invariant)
    (initially : invariant state)
    (picked : pickSteps picks scripts state = some (ended, final)) :
    invariant final := by
  refine (pickSteps_invariant (fun scripts state =>
    (∀ script ∈ scripts, script.Preserves invariant) ∧ invariant state) ?_
    ⟨preserves, initially⟩ picked).2
  intro scripts position write next state holds found
  have step := holds.1 _ (List.mem_of_getElem? found) state holds.2
  refine ⟨?_, step.1⟩
  intro script member
  rcases List.mem_or_eq_of_mem_set member with other | isNext
  · exact holds.1 script other
  · rw [isNext]
    exact step.2

/-- Scripts that all lead on from a state lead on from it together. -/
theorem pickSteps_proceeds {Later : State → State → Prop}
    (transitive : ∀ first second third, Later first second →
      Later second third → Later first third)
    (reached : ∀ first second, Later first second → Later second second)
    {picks : List Nat} {scripts ended : List (Script State Failure Value)}
    {state final : State} (initially : Later state state)
    (proceeds : ∀ script ∈ scripts,
      script.Proceeds Later (fun _ _ => True) state)
    (picked : pickSteps picks scripts state = some (ended, final)) :
    Later state final := by
  refine (pickSteps_invariant (fun scripts now =>
    Later state now ∧ ∀ script ∈ scripts,
      script.Proceeds Later (fun _ _ => True) now) ?_
    ⟨initially, proceeds⟩ picked).1
  intro scripts position write next now holds found
  have step := holds.2 _ (List.mem_of_getElem? found) now
    (reached _ _ holds.1)
  refine ⟨transitive _ _ _ holds.1 step.1, ?_⟩
  intro script member
  rcases List.mem_or_eq_of_mem_set member with other | isNext
  · exact (holds.2 script other).mono transitive
      (fun _ _ _ _ _ => trivial) step.1
  · rw [isNext]
    exact step.2

/-- What every step preserves of scripts and the labels that a proof gives
them holds after any picks, with some labels. -/
theorem pickSteps_labelled {Label : Type*}
    (stands : Label → Script State Failure Value → Prop)
    (holds : List Label → State → Prop)
    (preserved : ∀ {labels position label write next state},
      labels[position]? = some label → stands label (.step write next) →
      holds labels state →
      ∃ new, stands new (next state) ∧
        holds (labels.set position new) (write state))
    {picks : List Nat} {labels : List Label}
    {scripts ended : List (Script State Failure Value)} {state final : State}
    (standing : List.Forall₂ stands labels scripts)
    (initially : holds labels state)
    (picked : pickSteps picks scripts state = some (ended, final)) :
    ∃ last, List.Forall₂ stands last ended ∧ holds last final := by
  refine pickSteps_invariant (fun scripts state =>
    ∃ labels, List.Forall₂ stands labels scripts ∧ holds labels state) ?_
    ⟨labels, standing, initially⟩ picked
  intro scripts position write next state holding found
  obtain ⟨labels, standing, now⟩ := holding
  have pairs := List.forall₂_iff_get.mp standing
  obtain ⟨inScripts, isStep⟩ := List.getElem?_eq_some_iff.mp found
  have inLabels : position < labels.length := by
    rw [pairs.1]
    exact inScripts
  have stood := pairs.2 position inLabels inScripts
  rw [List.get_eq_getElem, List.get_eq_getElem, isStep] at stood
  obtain ⟨new, standsNext, later⟩ :=
    preserved (List.getElem?_eq_getElem inLabels) stood now
  refine ⟨labels.set position new, ?_, later⟩
  refine List.forall₂_iff_get.mpr ⟨?_, ?_⟩
  · rw [List.length_set, List.length_set, pairs.1]
  · intro index inNew inOld
    rw [List.get_eq_getElem, List.get_eq_getElem, List.getElem_set,
      List.getElem_set]
    by_cases isPosition : position = index
    · rw [if_pos isPosition, if_pos isPosition]
      exact standsNext
    · rw [if_neg isPosition, if_neg isPosition]
      rw [List.length_set] at inNew inOld
      exact pairs.2 index inNew inOld

end Schedules

end BidayaxExecutive.Library.Schedules
