import Mathlib.Data.List.Induction
import BidayaxExecutive.Library.Guards

/-!
# Runs of a fallible step

A run performs the actions of a list one after the other and stops at the first
step that throws.  What every step preserves, the run preserves; what relates
the two ends of every step relates the two ends of the run, when the relation
is reflexive and transitive.  A condition on the single steps may be assumed in
both rules: it is asked only of the states the run comes through.
-/

namespace BidayaxExecutive.Library.Runs

open BidayaxExecutive.Library.Guards

section Steps

variable {State Action Failure : Type*}
  (step : State → Action → Except Failure State)

def run : State → List Action → Except Failure State
  | state, [] => .ok state
  | state, action :: rest => do
      let next ← step state action
      run next rest

/-- The condition holds of every step the run takes. -/
def Along (condition : State → Action → Prop) : State → List Action → Prop
  | _, [] => True
  | state, action :: rest =>
      condition state action ∧
        ∀ next, step state action = .ok next → Along condition next rest

theorem run_cons_eq_ok {state last : State} {action : Action}
    {rest : List Action} :
    run step state (action :: rest) = .ok last ↔
      ∃ next, step state action = .ok next ∧ run step next rest = .ok last :=
  bind_eq_ok

theorem run_append_eq_ok {state last : State} {earlier later : List Action} :
    run step state (earlier ++ later) = .ok last ↔
      ∃ middle, run step state earlier = .ok middle ∧
        run step middle later = .ok last := by
  induction earlier generalizing state with
  | nil =>
      constructor
      · exact fun ran => ⟨state, rfl, ran⟩
      · rintro ⟨middle, same, ran⟩
        rw [Except.ok.inj same]
        exact ran
  | cons action rest inductionHypothesis =>
      rw [List.cons_append, run_cons_eq_ok]
      constructor
      · rintro ⟨next, stepped, ran⟩
        obtain ⟨middle, reached, ranLater⟩ := inductionHypothesis.mp ran
        exact ⟨middle, (run_cons_eq_ok step).mpr ⟨next, stepped, reached⟩,
          ranLater⟩
      · rintro ⟨middle, reached, ranLater⟩
        obtain ⟨next, stepped, reachedRest⟩ :=
          (run_cons_eq_ok step).mp reached
        exact ⟨next, stepped, inductionHypothesis.mpr
          ⟨middle, reachedRest, ranLater⟩⟩

theorem along_cons_of_eq_ok {condition : State → Action → Prop}
    {state next : State} {action : Action} {rest : List Action}
    (stepped : step state action = .ok next) (holds : condition state action)
    (later : Along step condition next rest) :
    Along step condition state (action :: rest) := by
  refine ⟨holds, fun other steppedOther => ?_⟩
  rw [← Except.ok.inj (stepped.symm.trans steppedOther)]
  exact later

theorem along_of_forall {condition : State → Action → Prop}
    {actions : List Action}
    (all : ∀ state, ∀ action ∈ actions, condition state action) :
    ∀ state, Along step condition state actions := by
  induction actions with
  | nil =>
      exact fun _ => trivial
  | cons action rest inductionHypothesis =>
      intro state
      refine ⟨all state action List.mem_cons_self, fun next _ => ?_⟩
      exact inductionHypothesis
        (fun state later member =>
          all state later (List.mem_cons_of_mem _ member)) next

variable {condition : State → Action → Prop}

theorem run_invariant (invariant : State → Prop)
    (preserved : ∀ {state action next}, invariant state →
      condition state action → step state action = .ok next →
      invariant next)
    {state last : State} {actions : List Action}
    (holds : invariant state)
    (conditions : Along step condition state actions)
    (ran : run step state actions = .ok last) :
    invariant last := by
  induction actions generalizing state with
  | nil =>
      rw [← Except.ok.inj ran]
      exact holds
  | cons action rest inductionHypothesis =>
      rcases (run_cons_eq_ok step).mp ran with ⟨next, stepped, ranRest⟩
      exact inductionHypothesis (preserved holds conditions.1 stepped)
        (conditions.2 next stepped) ranRest

/-- What every step preserves, whatever the action. -/
theorem run_preserves (invariant : State → Prop)
    (preserved : ∀ {state action next}, invariant state →
      step state action = .ok next → invariant next)
    {state last : State} {actions : List Action}
    (holds : invariant state) (ran : run step state actions = .ok last) :
    invariant last := by
  have always : Along step (fun _ _ => True) state actions :=
    along_of_forall step (fun _ _ _ => trivial) state
  refine run_invariant step invariant ?_ holds always ran
  intro _ _ _ before _ stepped
  exact preserved before stepped

theorem run_relates (invariant : State → Prop)
    (relation : State → State → Prop)
    (refl : ∀ state, relation state state)
    (trans : ∀ {first second third}, relation first second →
      relation second third → relation first third)
    (preserved : ∀ {state action next}, invariant state →
      condition state action → step state action = .ok next →
      invariant next ∧ relation state next)
    {state last : State} {actions : List Action}
    (holds : invariant state)
    (conditions : Along step condition state actions)
    (ran : run step state actions = .ok last) :
    relation state last := by
  induction actions generalizing state with
  | nil =>
      rw [← Except.ok.inj ran]
      exact refl state
  | cons action rest inductionHypothesis =>
      rcases (run_cons_eq_ok step).mp ran with ⟨next, stepped, ranRest⟩
      have first := preserved holds conditions.1 stepped
      exact trans first.2 <|
        inductionHypothesis first.1 (conditions.2 next stepped) ranRest

end Steps

/-! ## Steps that cannot fail -/

/-- What no step changes, a loop leaves. -/
theorem foldl_keeps {State Item Value : Type*} {step : State → Item → State}
    (read : State → Value)
    (keeps : ∀ state item, read (step state item) = read state)
    (items : List Item) (state : State) :
    read (items.foldl step state) = read state := by
  induction items generalizing state with
  | nil =>
      rfl
  | cons item rest inductionHypothesis =>
      rw [List.foldl_cons, inductionHypothesis, keeps]

/-- What every step carries over from the items so far to the next item holds
of all of them in the end. -/
theorem foldl_history {State Item : Type*} {step : State → Item → State}
    (holds : List Item → State → Prop) {state : State}
    (start : holds [] state)
    (advance : ∀ past state item, holds past state →
      holds (past ++ [item]) (step state item))
    (items : List Item) : holds items (items.foldl step state) := by
  induction items using List.reverseRecOn with
  | nil =>
      exact start
  | append_singleton past item inductionHypothesis =>
      rw [List.foldl_append]
      exact advance past _ item inductionHypothesis

end BidayaxExecutive.Library.Runs
