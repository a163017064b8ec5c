import Mathlib.Tactic.Common

/-!
# Transactions

An operation inside a transaction reads and writes a state and may throw; what
it wrote before it threw is still there.  The transaction keeps the state of an
operation that completes and restores the state before one that throws.  So a
property that completed operations preserve is an invariant of any sequence of
transactions, whichever of them fail.
-/

namespace BidayaxExecutive.Library.Transactions

def Transaction (State Failure Value : Type) :=
  State → Except Failure Value × State

section Operations

variable {State Failure Value Result : Type}

instance : Monad (Transaction State Failure) where
  pure value := fun state => (.ok value, state)
  bind first next := fun state =>
    match first state with
    | (.ok value, middle) => next value middle
    | (.error failure, middle) => (.error failure, middle)

instance : MonadExceptOf Failure (Transaction State Failure) where
  throw failure := fun state => (.error failure, state)
  tryCatch operation handler := fun state =>
    match operation state with
    | (.ok value, final) => (.ok value, final)
    | (.error failure, final) => handler failure final

/-- A computation that does not touch the state. -/
def attempt (outcome : Except Failure Value) :
    Transaction State Failure Value :=
  fun state => (outcome, state)

/-- The operation completes with the value and leaves the state. -/
def Yields (operation : Transaction State Failure Value) (state : State)
    (value : Value) (final : State) : Prop :=
  operation state = (.ok value, final)

def transaction (operation : Transaction State Failure Value)
    (state : State) : Except Failure Value × State :=
  match operation state with
  | (.ok value, final) => (.ok value, final)
  | (.error failure, _) => (.error failure, state)

theorem bind_apply (first : Transaction State Failure Value)
    (next : Value → Transaction State Failure Result) (state : State) :
    (first >>= next) state =
      match first state with
      | (.ok value, middle) => next value middle
      | (.error failure, middle) => (.error failure, middle) :=
  rfl

theorem yields_pure {value result : Value} {state final : State} :
    Yields (pure value : Transaction State Failure Value) state result final ↔
      value = result ∧ state = final := by
  simp [Yields, pure]

theorem yields_attempt {outcome : Except Failure Value} {value : Value}
    {state final : State} :
    Yields (attempt outcome) state value final ↔
      outcome = .ok value ∧ state = final := by
  simp [Yields, attempt]

theorem yields_bind {first : Transaction State Failure Value}
    {next : Value → Transaction State Failure Result} {result : Result}
    {state final : State} :
    Yields (first >>= next) state result final ↔
      ∃ value middle, Yields first state value middle ∧
        Yields (next value) middle result final := by
  simp only [Yields, bind]
  rcases first state with ⟨outcome, middle⟩
  cases outcome with
  | error failure =>
      simp
  | ok value =>
      simp

theorem not_yields_throw {failure : Failure} {value : Value}
    {state final : State} :
    ¬Yields (throw failure : Transaction State Failure Value) state value
      final := by
  simp [Yields, throw, throwThe, MonadExceptOf.throw]

/-- `if failing then throw failure`, and then the rest. -/
theorem yields_guard {failing : Prop} [Decidable failing] {failure : Failure}
    {next : PUnit → Transaction State Failure Value} {value : Value}
    {state final : State} :
    Yields (if failing then
        (throw failure : Transaction State Failure PUnit) >>= next
      else next ⟨⟩) state value final ↔
      ¬failing ∧ Yields (next ⟨⟩) state value final := by
  by_cases holds : failing
  · simp only [holds, if_true, not_true_eq_false, false_and, iff_false]
    intro yields
    rcases yields_bind.mp yields with ⟨_, _, thrown, _⟩
    exact not_yields_throw thrown
  · simp [holds]

/-! ## Whole transactions -/

theorem transaction_eq_ok {operation : Transaction State Failure Value}
    {value : Value} {state final : State} :
    transaction operation state = (.ok value, final) ↔
      Yields operation state value final := by
  unfold transaction Yields
  rcases operation state with ⟨outcome, middle⟩
  cases outcome with
  | error failure =>
      simp
  | ok value =>
      simp

/-- A transaction that throws changes nothing. -/
theorem transaction_eq_error {operation : Transaction State Failure Value}
    {failure : Failure} {state final : State}
    (threw : transaction operation state = (.error failure, final)) :
    final = state := by
  unfold transaction at threw
  rcases ended : operation state with ⟨outcome, middle⟩
  rw [ended] at threw
  cases outcome with
  | error failure =>
      exact (Prod.mk.inj threw).2.symm
  | ok value =>
      simp at threw

/-- The state after transactions one after the other. -/
def afterTransactions (state : State)
    (operations : List (Transaction State Failure Value)) : State :=
  operations.foldl (fun state operation =>
    (transaction operation state).2) state

theorem afterTransactions_invariant (invariant : State → Prop)
    {operations : List (Transaction State Failure Value)}
    (preserved : ∀ operation ∈ operations, ∀ {state value final},
      invariant state → Yields operation state value final → invariant final)
    {state : State} (holds : invariant state) :
    invariant (afterTransactions state operations) := by
  induction operations generalizing state with
  | nil =>
      exact holds
  | cons operation rest inductionHypothesis =>
      have next : invariant (transaction operation state).2 := by
        rcases outcome : transaction operation state with ⟨result, final⟩
        cases result with
        | error failure =>
            rw [transaction_eq_error outcome]
            exact holds
        | ok value =>
            exact preserved operation List.mem_cons_self holds
              (transaction_eq_ok.mp outcome)
      exact inductionHypothesis
        (fun later member =>
          preserved later (List.mem_cons_of_mem _ member)) next

end Operations

end BidayaxExecutive.Library.Transactions
