import BidayaxExecutive.Library.Transactions

/-!
# Scripts of atomic operations

A script performs atomic operations on a state, one after the other, and ends
with a value or a failure.  Run alone it is a transaction.  Two scripts that
share a state run in any interleaving of their operations.
-/

namespace BidayaxExecutive.Library.Scripts

open BidayaxExecutive.Library.Transactions

/-- An operation writes the state, and what follows depends on the state that
it found. -/
inductive Script (State Failure Value : Type) where
  | done (outcome : Except Failure Value)
  | step (write : State → State)
      (next : State → Script State Failure Value)

section Scripts

variable {State Failure Value Result : Type}

namespace Script

def bind (first : Script State Failure Value)
    (next : Value → Script State Failure Result) :
    Script State Failure Result :=
  match first with
  | .done (.ok value) => next value
  | .done (.error failure) => .done (.error failure)
  | .step write rest => .step write fun state => (rest state).bind next

instance : Monad (Script State Failure) where
  pure value := .done (.ok value)
  bind := bind

def fail (failure : Failure) : Script State Failure Value :=
  .done (.error failure)

/-- The operation, as one step. -/
def perform (operation : Transaction State Failure Value) :
    Script State Failure Value :=
  .step (fun state => (operation state).2)
    fun state => .done (operation state).1

/-- The script without anything in between. -/
def run : Script State Failure Value → Transaction State Failure Value
  | .done outcome, state => (outcome, state)
  | .step write next, state => (next state).run (write state)

theorem run_perform (operation : Transaction State Failure Value) :
    (perform operation).run = operation :=
  rfl

theorem run_bind (first : Script State Failure Value)
    (next : Value → Script State Failure Result) :
    (first >>= next).run = first.run >>= fun value => (next value).run := by
  funext state
  induction first generalizing state with
  | done outcome =>
      cases outcome with
      | error failure =>
          rfl
      | ok value =>
          rfl
  | step write rest inductionHypothesis =>
      exact inductionHypothesis state (write state)

/-! ## What a script leaves alone -/

/-- The script never changes what is read. -/
def Keeps {Part : Type} (read : State → Part)
    (script : Script State Failure Value) : Prop :=
  ∀ state, read (script.run state).2 = read state

section Keeping

variable {Part : Type} {read : State → Part}

theorem keeps_done (outcome : Except Failure Value) :
    Keeps read (.done outcome : Script State Failure Value) :=
  fun _ => rfl

theorem keeps_bind {first : Script State Failure Value}
    {next : Value → Script State Failure Result} (keeps : Keeps read first)
    (rest : ∀ value, Keeps read (next value)) :
    Keeps read (first >>= next) := by
  intro state
  have keepsFirst := keeps state
  rw [run_bind, bind_apply]
  rcases ran : first.run state with ⟨outcome, middle⟩
  rw [ran] at keepsFirst
  cases outcome with
  | error failure =>
      exact keepsFirst
  | ok value =>
      exact (rest value middle).trans keepsFirst

end Keeping

/-- No step of the script changes what is read, in whatever state the step is
taken. -/
def Leaves {Part : Type} (read : State → Part) :
    Script State Failure Value → Prop
  | .done _ => True
  | .step write next =>
      ∀ state, read (write state) = read state ∧ Leaves read (next state)

section Leaving

variable {Part : Type} {read : State → Part}

theorem leaves_perform {operation : Transaction State Failure Value}
    (leaves : ∀ state, read (operation state).2 = read state) :
    Leaves read (perform operation) :=
  fun state => ⟨leaves state, trivial⟩

theorem leaves_bind {first : Script State Failure Value}
    {next : Value → Script State Failure Result} (leaves : Leaves read first)
    (rest : ∀ value, Leaves read (next value)) :
    Leaves read (first >>= next) := by
  induction first with
  | done outcome =>
      cases outcome with
      | error failure =>
          exact trivial
      | ok value =>
          exact rest value
  | step write later inductionHypothesis =>
      intro state
      exact ⟨(leaves state).1, inductionHypothesis state (leaves state).2⟩

end Leaving

/-! ## What every step does -/

/-- Every step of the script relates the state to the next one, in whatever
state the step is taken. -/
def Steps (relation : State → State → Prop) :
    Script State Failure Value → Prop
  | .done _ => True
  | .step write next =>
      ∀ state, relation state (write state) ∧ Steps relation (next state)

section Stepping

variable {relation : State → State → Prop}

theorem steps_perform {operation : Transaction State Failure Value}
    (related : ∀ state, relation state (operation state).2) :
    Steps relation (perform operation) :=
  fun state => ⟨related state, trivial⟩

theorem steps_bind {first : Script State Failure Value}
    {next : Value → Script State Failure Result}
    (steps : Steps relation first)
    (rest : ∀ value, Steps relation (next value)) :
    Steps relation (first >>= next) := by
  induction first with
  | done outcome =>
      cases outcome with
      | error failure =>
          exact trivial
      | ok value =>
          exact rest value
  | step write later inductionHypothesis =>
      intro state
      exact ⟨(steps state).1, inductionHypothesis state (steps state).2⟩

end Stepping

/-! ## What a script preserves -/

/-- Every step of the script preserves the invariant, in whatever state that
satisfies it the step is taken. -/
def Preserves (invariant : State → Prop) :
    Script State Failure Value → Prop
  | .done _ => True
  | .step write next =>
      ∀ state, invariant state →
        invariant (write state) ∧ Preserves invariant (next state)

section Preserving

variable {invariant : State → Prop}

theorem preserves_perform {operation : Transaction State Failure Value}
    (preserved : ∀ state, invariant state → invariant (operation state).2) :
    Preserves invariant (perform operation) :=
  fun state holds => ⟨preserved state holds, trivial⟩

theorem preserves_bind {first : Script State Failure Value}
    {next : Value → Script State Failure Result}
    (preserves : Preserves invariant first)
    (rest : ∀ value, Preserves invariant (next value)) :
    Preserves invariant (first >>= next) := by
  induction first with
  | done outcome =>
      cases outcome with
      | error failure =>
          exact trivial
      | ok value =>
          exact rest value
  | step write later inductionHypothesis =>
      intro state holds
      exact ⟨(preserves state holds).1,
        inductionHypothesis state (preserves state holds).2⟩

/-- What the steps of a script keep, the script preserves. -/
theorem Steps.preserves {relation : State → State → Prop}
    {script : Script State Failure Value} (steps : Steps relation script)
    (kept : ∀ state next, relation state next → invariant state →
      invariant next) :
    Preserves invariant script := by
  induction script with
  | done outcome =>
      exact trivial
  | step write later inductionHypothesis =>
      intro state holds
      exact ⟨kept _ _ (steps state).1 holds,
        inductionHypothesis state (steps state).2⟩

theorem Preserves.run {script : Script State Failure Value}
    (preserves : Preserves invariant script) {state : State}
    (holds : invariant state) : invariant (script.run state).2 := by
  induction script generalizing state with
  | done outcome =>
      exact holds
  | step write next inductionHypothesis =>
      exact inductionHypothesis state (preserves state holds).2
        (preserves state holds).1

theorem Preserves.yields {script : Script State Failure Value}
    (preserves : Preserves invariant script) {value : Value}
    {state final : State} (yields : Yields script.run state value final)
    (holds : invariant state) : invariant final := by
  have kept := preserves.run holds
  unfold Yields at yields
  rw [yields] at kept
  exact kept

end Preserving

/-! ## Where a script leads -/

/-- Whatever steps of others led on from the known state, every step of the
script leads on as well, and a value it ends with is right for the state it
knows last. -/
def Proceeds (Later : State → State → Prop) (right : State → Value → Prop) :
    State → Script State Failure Value → Prop
  | known, .done (.ok value) => right known value
  | _, .done (.error _) => True
  | known, .step write next =>
      ∀ state, Later known state →
        Later state (write state) ∧
          Proceeds Later right (write state) (next state)

section Proceeding

variable {Later : State → State → Prop} {right : State → Value → Prop}
  {known : State}

theorem Proceeds.mono
    (transitive : ∀ first second third, Later first second →
      Later second third → Later first third)
    (stable : ∀ first second value, Later first second →
      right first value → right second value)
    {script : Script State Failure Value} {now : State}
    (proceeds : Proceeds Later right known script) (later : Later known now) :
    Proceeds Later right now script := by
  cases script with
  | done outcome =>
      cases outcome with
      | error failure =>
          exact trivial
      | ok value =>
          exact stable _ _ value later proceeds
  | step write next =>
      exact fun state after =>
        proceeds state (transitive _ _ _ later after)

theorem proceeds_perform {operation : Transaction State Failure Value}
    (leads : ∀ state, Later known state → Later state (operation state).2)
    (answers : ∀ state value, Later known state →
      (operation state).1 = .ok value → right (operation state).2 value) :
    Proceeds Later right known (perform operation) := by
  intro state later
  refine ⟨leads state later, ?_⟩
  change Proceeds Later right (operation state).2
    (.done (operation state).1)
  cases answer : (operation state).1 with
  | error failure =>
      exact trivial
  | ok value =>
      exact answers state value later answer

theorem proceeds_bind {given : State → Result → Prop}
    {first : Script State Failure Value}
    {next : Value → Script State Failure Result}
    (proceeds : Proceeds Later right known first)
    (rest : ∀ now value, right now value →
      Proceeds Later given now (next value)) :
    Proceeds Later given known (first >>= next) := by
  induction first generalizing known with
  | done outcome =>
      cases outcome with
      | error failure =>
          exact trivial
      | ok value =>
          exact rest known value proceeds
  | step write later inductionHypothesis =>
      intro state after
      have led := proceeds state after
      exact ⟨led.1, inductionHypothesis state led.2⟩

/-- A script that runs alone and yields a value has led on to the last
state. -/
theorem Proceeds.yields
    (transitive : ∀ first second third, Later first second →
      Later second third → Later first third)
    (reached : ∀ first second, Later first second → Later second second)
    {script : Script State Failure Value} {value : Value} {final : State}
    (proceeds : Proceeds Later right known script)
    (initially : Later known known)
    (yields : Yields script.run known value final) :
    Later known final ∧ right final value := by
  induction script generalizing known with
  | done outcome =>
      rcases Prod.mk.inj yields with ⟨rfl, rfl⟩
      exact ⟨initially, proceeds⟩
  | step write next inductionHypothesis =>
      have led := proceeds known initially
      have rest := inductionHypothesis known led.2 (reached _ _ led.1) yields
      exact ⟨transitive _ _ _ led.1 rest.1, rest.2⟩

end Proceeding

theorem Keeps.yields {Part : Type} {read : State → Part}
    {script : Script State Failure Value} (keeps : Keeps read script)
    {value : Value} {state final : State}
    (yields : Yields script.run state value final) :
    read final = read state := by
  have kept := keeps state
  unfold Yields at yields
  rw [yields] at kept
  exact kept

/-! ## What a script yields -/

theorem yields_run_done {outcome : Except Failure Value} {value : Value}
    {state final : State} :
    Yields (.done outcome : Script State Failure Value).run state value
        final ↔
      outcome = .ok value ∧ state = final :=
  yields_attempt

theorem yields_run_pure {value result : Value} {state final : State} :
    Yields (pure value : Script State Failure Value).run state result
        final ↔
      value = result ∧ state = final :=
  yields_pure

theorem not_yields_run_fail {failure : Failure} {value : Value}
    {state final : State} :
    ¬Yields (fail failure : Script State Failure Value).run state value
      final :=
  not_yields_throw

theorem yields_run_bind {first : Script State Failure Value}
    {next : Value → Script State Failure Result} {result : Result}
    {state final : State} :
    Yields (first >>= next).run state result final ↔
      ∃ value middle, Yields first.run state value middle ∧
        Yields (next value).run middle result final := by
  rw [run_bind]
  exact yields_bind

/-! ## Two scripts at once -/

/-- The outcomes of two scripts and the last state, in some interleaving. -/
inductive Interleaves {Left Right : Type} :
    Script State Failure Left → Script State Failure Right → State →
      Except Failure Left → Except Failure Right → State → Prop
  | done {left : Except Failure Left} {right : Except Failure Right}
      {state : State} :
      Interleaves (.done left) (.done right) state left right state
  | left {write : State → State} {next : State → Script State Failure Left}
      {right : Script State Failure Right} {state final : State}
      {leftOutcome : Except Failure Left}
      {rightOutcome : Except Failure Right} :
      Interleaves (next state) right (write state) leftOutcome rightOutcome
        final →
      Interleaves (.step write next) right state leftOutcome rightOutcome final
  | right {left : Script State Failure Left} {write : State → State}
      {next : State → Script State Failure Right} {state final : State}
      {leftOutcome : Except Failure Left}
      {rightOutcome : Except Failure Right} :
      Interleaves left (next state) (write state) leftOutcome rightOutcome
        final →
      Interleaves left (.step write next) state leftOutcome rightOutcome final

variable {Left Right : Type} {left : Script State Failure Left}
  {right : Script State Failure Right} {state final : State}
  {leftOutcome : Except Failure Left} {rightOutcome : Except Failure Right}

theorem Interleaves.symm
    (interleaves : Interleaves left right state leftOutcome rightOutcome
      final) :
    Interleaves right left state rightOutcome leftOutcome final := by
  induction interleaves with
  | done =>
      exact .done
  | left _ inductionHypothesis =>
      exact .right inductionHypothesis
  | right _ inductionHypothesis =>
      exact .left inductionHypothesis

theorem interleaves_run_right (outcome : Except Failure Left)
    (right : Script State Failure Right) (state : State) :
    Interleaves (.done outcome) right state outcome (right.run state).1
      (right.run state).2 := by
  induction right generalizing state with
  | done rightOutcome =>
      exact .done
  | step write next inductionHypothesis =>
      exact .right (inductionHypothesis state (write state))

theorem interleaves_done_left {outcome : Except Failure Left} :
    Interleaves (.done outcome) right state leftOutcome rightOutcome final ↔
      leftOutcome = outcome ∧ right.run state = (rightOutcome, final) := by
  constructor
  · intro interleaves
    generalize isDone : Script.done outcome = left at interleaves
    induction interleaves with
    | done =>
        exact ⟨(Script.done.inj isDone).symm, rfl⟩
    | left =>
        exact nomatch isDone
    | right _ inductionHypothesis =>
        exact inductionHypothesis isDone
  · rintro ⟨same, ran⟩
    have interleaves := interleaves_run_right outcome right state
    rw [ran] at interleaves
    rw [same]
    exact interleaves

/-- One after the other is an interleaving. -/
theorem interleaves_run (left : Script State Failure Left)
    (right : Script State Failure Right) (state : State) :
    Interleaves left right state (left.run state).1
      (right.run (left.run state).2).1 (right.run (left.run state).2).2 := by
  induction left generalizing state with
  | done outcome =>
      exact interleaves_run_right outcome right state
  | step write next inductionHypothesis =>
      exact .left (inductionHypothesis state (write state))

end Script

end Scripts

end BidayaxExecutive.Library.Scripts
