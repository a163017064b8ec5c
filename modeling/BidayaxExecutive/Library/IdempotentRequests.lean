import BidayaxExecutive.Library.Scripts

/-!
# Idempotent requests

A request looks for the record of an earlier one and reuses it; when there is
none it performs a script and saves a record.  Two requests that both find no
record perform the script twice, in some interleaving.  This does no harm when
every operation of the script, once it has succeeded, finds its work done and
answers the same in all later states: then the requests keep to one course of
the script, and what lies behind on it is repeated without effect.
-/

namespace BidayaxExecutive.Library.IdempotentRequests

open BidayaxExecutive.Library.Transactions
open BidayaxExecutive.Library.Scripts Script

section Requests

variable {State Failure Value Result Record : Type}

/-- A relation of states to the later ones of a run. -/
structure Growth (Later : State → State → Prop) : Prop where
  refl : ∀ state, Later state state
  trans : ∀ {first second third}, Later first second → Later second third →
    Later first third

variable (Later : State → State → Prop) (lookup : State → Option Record)

/-! ## Scripts that can be repeated -/

/-- An operation that has succeeded succeeds again in all later states, with
the same answer and without effect, and never saves a record. -/
structure Settling (operation : Transaction State Failure Value) : Prop where
  settles : ∀ {state value final}, Yields operation state value final →
    Later state final ∧
      ∀ later, Later final later → Yields operation later value later
  keeps : ∀ state, lookup (operation state).2 = lookup state

/-- Every step that is followed by success finds itself done later. -/
inductive Repeatable : Script State Failure Value → Prop
  | done {outcome : Except Failure Value} : Repeatable (.done outcome)
  | step {write : State → State} {next : State → Script State Failure Value}
      (settles : ∀ {state value final},
        Yields (Script.step write next).run state value final →
          Later state (write state) ∧
            ∀ later, Later (write state) later →
              write later = later ∧ next later = next state)
      (keeps : ∀ state, lookup (write state) = lookup state)
      (rest : ∀ state, Repeatable (next state)) :
      Repeatable (.step write next)

variable {Later lookup}

theorem repeatable_perform {operation : Transaction State Failure Value}
    (settling : Settling Later lookup operation) :
    Repeatable Later lookup (perform operation) := by
  refine .step ?_ settling.keeps fun state => .done
  intro state value final yields
  have answered := settling.settles yields
  have written : (operation state).2 = final := congrArg Prod.snd yields
  have answer : (operation state).1 = .ok value := congrArg Prod.fst yields
  rw [written]
  refine ⟨answered.1, fun later grown => ?_⟩
  have again := answered.2 later grown
  exact ⟨congrArg Prod.snd again,
    congrArg Script.done ((congrArg Prod.fst again).trans answer.symm)⟩

theorem repeatable_bind {first : Script State Failure Value}
    {next : Value → Script State Failure Result}
    (repeatable : Repeatable Later lookup first)
    (rest : ∀ value, Repeatable Later lookup (next value)) :
    Repeatable Later lookup (first >>= next) := by
  induction repeatable with
  | @done outcome =>
      cases outcome with
      | error failure =>
          exact .done
      | ok value =>
          exact rest value
  | @step write after settles keeps _ inductionHypothesis =>
      refine .step ?_ keeps inductionHypothesis
      intro state result final yields
      change Yields ((Script.step write after >>= next).run) state result final
        at yields
      rw [run_bind] at yields
      rcases yields_bind.mp yields with ⟨value, middle, yieldsFirst, _⟩
      have settled := settles yieldsFirst
      exact ⟨settled.1, fun later grown => ⟨(settled.2 later grown).1,
        congrArg (Script.bind · next) (settled.2 later grown).2⟩⟩

/-! ## Being behind -/

variable (Later) in
/-- What the script still has to do before it comes to the other is done. -/
inductive Behind (state : State) :
    Script State Failure Value → Script State Failure Value → Prop
  | same {script : Script State Failure Value} : Behind state script script
  | settled {write : State → State}
      {next : State → Script State Failure Value}
      {rest ahead : Script State Failure Value}
      (settled : ∀ later, Later state later →
        write later = later ∧ next later = rest)
      (behind : Behind state rest ahead) :
      Behind state (.step write next) ahead

theorem Behind.mono (growth : Growth Later) {state later : State}
    (grown : Later state later) {script ahead : Script State Failure Value}
    (behind : Behind Later state script ahead) :
    Behind Later later script ahead := by
  induction behind with
  | same =>
      exact .same
  | settled settled _ inductionHypothesis =>
      exact .settled (fun last grownAgain =>
        settled last (growth.trans grown grownAgain)) inductionHypothesis

/-- The script ahead takes a step. -/
theorem Behind.advance (growth : Growth Later) {state : State}
    {script ahead rest : Script State Failure Value} {write : State → State}
    (behind : Behind Later state script ahead)
    (grown : Later state (write state))
    {next : State → Script State Failure Value}
    (isAhead : ahead = .step write next)
    (settled : ∀ later, Later (write state) later →
      write later = later ∧ next later = rest) :
    Behind Later (write state) script rest := by
  induction behind with
  | same =>
      rw [isAhead]
      exact .settled settled .same
  | settled earlier _ inductionHypothesis =>
      exact .settled (fun last grownAgain =>
        earlier last (growth.trans grown grownAgain))
        (inductionHypothesis isAhead)

theorem Behind.run_eq (growth : Growth Later) {state : State}
    {script ahead : Script State Failure Value}
    (behind : Behind Later state script ahead) :
    script.run state = ahead.run state := by
  induction behind with
  | same =>
      rfl
  | @settled write next rest ahead settled _ inductionHypothesis =>
      have now := settled state (growth.refl state)
      calc
        (Script.step write next).run state
          = (next state).run (write state) := rfl
        _ = rest.run state := by rw [now.1, now.2]
        _ = ahead.run state := inductionHypothesis

/-! ## Requests -/

/-- How a request saves its record and what it answers. -/
structure Request (State Failure Value Record Result : Type) where
  save : Transaction State Failure Record
  finish : Value → Record → Result
  reuse : Record → Except Failure Result

variable (request other : Request State Failure Value Record Result)

/-- The rest of a request that has not found a record. -/
def Request.finishing (rest : Script State Failure Value) :
    Script State Failure Result := do
  let value ← rest
  let record ← perform request.save
  pure (request.finish value record)

variable (lookup) in
def Request.call (script : Script State Failure Value) :
    Script State Failure Result :=
  .step id fun state =>
    match lookup state with
    | some record => .done (request.reuse record)
    | none => request.finishing script

theorem Request.run_call_of_found {script : Script State Failure Value}
    {state : State} {record : Record} (found : lookup state = some record) :
    (request.call lookup script).run state = (request.reuse record, state) := by
  simp only [Request.call, Script.run, found, id_eq]

theorem Request.run_call_of_absent {script : Script State Failure Value}
    {state : State} (absent : lookup state = none) :
    (request.call lookup script).run state =
      (request.finishing script).run state := by
  simp only [Request.call, Script.run, absent, id_eq]

theorem Request.yields_finishing {rest : Script State Failure Value}
    {state final : State} {result : Result} :
    Yields (request.finishing rest).run state result final ↔
      ∃ value middle record, Yields rest.run state value middle ∧
        Yields request.save middle record final ∧
        request.finish value record = result := by
  simp only [Request.finishing, run_bind, yields_bind, run_perform]
  constructor
  · rintro ⟨value, middle, yields, record, last, saved, finished⟩
    rcases yields_pure.mp finished with ⟨same, sameState⟩
    exact ⟨value, middle, record, yields, sameState ▸ saved, same⟩
  · rintro ⟨value, middle, record, yields, saved, same⟩
    exact ⟨value, middle, yields, record, final, saved,
      yields_pure.mpr ⟨same, rfl⟩⟩

/-! ## Two requests before a record is saved -/

variable (Later lookup) in
/-- The course of the script from here on: no record is saved yet, and the
script ahead yields the value. -/
structure Ahead (state : State) (ahead : Script State Failure Value)
    (value : Value) (middle : State) : Prop where
  absent : lookup state = none
  repeatable : Repeatable Later lookup ahead
  yields : Yields ahead.run state value middle

variable (Later lookup) in
/-- The request has not looked yet, or it is behind in its script. -/
def Request.Trails (script : Script State Failure Value) (state : State)
    (ahead : Script State Failure Value)
    (current : Script State Failure Result) : Prop :=
  (current = request.call lookup script ∧ Behind Later state script ahead) ∨
    ∃ rest, current = request.finishing rest ∧ Behind Later state rest ahead

variable (Later lookup) in
/-- What the two requests owe to each other when the first one saves. -/
structure Request.Saves (middle : State) (record : Record) (final : State) :
    Prop where
  saves : Yields request.save middle record final
  grows : Later middle final
  found : lookup final = some record
  again : Yields other.save final record final

variable {request other} {script ahead : Script State Failure Value}
  {state middle final : State} {value : Value} {record : Record}

theorem Request.Trails.advance (growth : Growth Later)
    {current : Script State Failure Result} {write : State → State}
    {next : State → Script State Failure Value}
    (trails : request.Trails Later lookup script state (.step write next)
      current)
    (grown : Later state (write state))
    (settled : ∀ later, Later (write state) later →
      write later = later ∧ next later = next state) :
    request.Trails Later lookup script (write state) (next state) current := by
  rcases trails with ⟨isCall, behind⟩ | ⟨rest, isRest, behind⟩
  · exact Or.inl ⟨isCall, behind.advance growth grown rfl settled⟩
  · exact Or.inr ⟨rest, isRest, behind.advance growth grown rfl settled⟩

theorem Request.Trails.mono (growth : Growth Later)
    {current : Script State Failure Result} {later : State}
    (trails : request.Trails Later lookup script state ahead current)
    (grown : Later state later) :
    request.Trails Later lookup script later ahead current := by
  rcases trails with ⟨isCall, behind⟩ | ⟨rest, isRest, behind⟩
  · exact Or.inl ⟨isCall, behind.mono growth grown⟩
  · exact Or.inr ⟨rest, isRest, behind.mono growth grown⟩

/-- A request that has not saved goes on. -/
theorem Request.Trails.not_done (course : Ahead Later lookup state ahead value
    middle) {outcome : Except Failure Result} :
    ¬request.Trails Later lookup script state ahead (.done outcome) := by
  rintro (⟨isCall, _⟩ | ⟨rest, isRest, behind⟩)
  · exact nomatch isCall
  · cases rest with
    | step write next =>
        exact nomatch isRest
    | done restOutcome =>
        cases restOutcome with
        | ok found =>
            exact nomatch isRest
        | error failure =>
            cases behind
            exact nomatch congrArg Prod.fst course.yields

/-- A step of one request: it goes on in the script, or it saves its record
and the other is still behind. -/
theorem Request.Trails.step (growth : Growth Later)
    (course : Ahead Later lookup state ahead value middle)
    {write : State → State} {next : State → Script State Failure Result}
    {current : Script State Failure Result}
    (trails : request.Trails Later lookup script state ahead
      (.step write next))
    (otherTrails : other.Trails Later lookup script state ahead current)
    (saves : request.Saves Later lookup other middle record final) :
    (∃ further, Ahead Later lookup (write state) further value middle ∧
        request.Trails Later lookup script (write state) further (next state) ∧
        other.Trails Later lookup script (write state) further current) ∨
      write state = final ∧
        next state = .done (.ok (request.finish value record)) ∧
        other.Trails Later lookup script final (.done (.ok value)) current := by
  rcases trails with ⟨isCall, behind⟩ | ⟨rest, isRest, behind⟩
  · -- The request looks for a record and finds none.
    injection isCall with isId isNext
    refine Or.inl ⟨ahead, ?_, Or.inr ⟨script, ?_, ?_⟩, ?_⟩
    · rw [isId]
      exact course
    · simp only [isNext, course.absent]
    · rw [isId]
      exact behind
    · rw [isId]
      exact otherTrails
  · cases rest with
    | done outcome =>
        cases outcome with
        | error failure =>
            exact nomatch isRest
        | ok found =>
            cases behind
            injection isRest with isWrite isNext
            have yields := Prod.mk.inj course.yields
            have same : found = value := Except.ok.inj yields.1
            have sameState : state = middle := yields.2
            subst same sameState
            have written : (request.save state).2 = final :=
              congrArg Prod.snd saves.saves
            have answer : (request.save state).1 = .ok record :=
              congrArg Prod.fst saves.saves
            refine Or.inr ⟨?_, ?_, otherTrails.mono growth saves.grows⟩
            · rw [isWrite]
              exact written
            · rw [isNext]
              change (Script.done (request.save state).1).bind _ = _
              rw [answer]
              rfl
    | step scriptWrite scriptNext =>
        injection isRest with isWrite isNext
        rw [isWrite, isNext]
        cases behind with
        | same =>
            cases course.repeatable with
            | step settles keeps rest =>
                have settled := settles course.yields
                refine Or.inl ⟨scriptNext state,
                  ⟨(keeps state).trans course.absent, rest state,
                    course.yields⟩,
                  Or.inr ⟨_, rfl, .same⟩, ?_⟩
                exact otherTrails.advance growth settled.1 settled.2
        | settled settled behind =>
            have now := settled state (growth.refl state)
            rw [now.1]
            exact Or.inl ⟨ahead, course,
              Or.inr ⟨_, congrArg request.finishing now.2, behind⟩,
              otherTrails⟩

/-! ## Two requests after a record is saved -/

/-- The request saved the record, and the other one answers with it too. -/
def Request.Served (request other : Request State Failure Value Record Result)
    (value : Value) (record : Record)
    (outcome otherOutcome : Except Failure Result) : Prop :=
  outcome = .ok (request.finish value record) ∧
    (otherOutcome = .ok (other.finish value record) ∨
      otherOutcome = other.reuse record)

theorem Request.Trails.run_eq (growth : Growth Later)
    {current : Script State Failure Result}
    (trails : other.Trails Later lookup script final (.done (.ok value))
      current)
    (found : lookup final = some record)
    (again : Yields other.save final record final) :
    (current.run final).2 = final ∧
      ((current.run final).1 = .ok (other.finish value record) ∨
        (current.run final).1 = other.reuse record) := by
  rcases trails with ⟨isCall, _⟩ | ⟨rest, isRest, behind⟩
  · rw [isCall, other.run_call_of_found found]
    exact ⟨rfl, Or.inr rfl⟩
  · have yields : Yields current.run final (other.finish value record)
        final := by
      rw [isRest]
      exact other.yields_finishing.mpr
        ⟨value, final, record, behind.run_eq growth, again, rfl⟩
    exact ⟨congrArg Prod.snd yields, Or.inl (congrArg Prod.fst yields)⟩

/-! ## Interleavings -/

variable {first second : Request State Failure Value Record Result}
  {firstRecord secondRecord : Record} {firstFinal secondFinal last : State}
  {left right : Script State Failure Result}
  {leftOutcome rightOutcome : Except Failure Result}

theorem interleaves_trailing (growth : Growth Later)
    (firstSaves : first.Saves Later lookup second middle firstRecord
      firstFinal)
    (secondSaves : second.Saves Later lookup first middle secondRecord
      secondFinal)
    (interleaves : Interleaves left right state leftOutcome rightOutcome last)
    (course : Ahead Later lookup state ahead value middle)
    (firstTrails : first.Trails Later lookup script state ahead left)
    (secondTrails : second.Trails Later lookup script state ahead right) :
    (last = firstFinal ∧
        first.Served second value firstRecord leftOutcome rightOutcome) ∨
      last = secondFinal ∧
        second.Served first value secondRecord rightOutcome leftOutcome := by
  induction interleaves generalizing ahead with
  | done =>
      exact absurd firstTrails (Request.Trails.not_done course)
  | left interleaves inductionHypothesis =>
      rcases firstTrails.step growth course secondTrails firstSaves with
        ⟨further, course, firstTrails, secondTrails⟩ |
          ⟨saved, isDone, secondTrails⟩
      · exact inductionHypothesis course firstTrails secondTrails
      · rw [saved, isDone] at interleaves
        rcases interleaves_done_left.mp interleaves with ⟨answer, ran⟩
        have settled := secondTrails.run_eq growth firstSaves.found
          firstSaves.again
        rw [ran] at settled
        exact Or.inl ⟨settled.1, answer, settled.2⟩
  | right interleaves inductionHypothesis =>
      rcases secondTrails.step growth course firstTrails secondSaves with
        ⟨further, course, secondTrails, firstTrails⟩ |
          ⟨saved, isDone, firstTrails⟩
      · exact inductionHypothesis course firstTrails secondTrails
      · rw [saved, isDone] at interleaves
        rcases interleaves_done_left.mp interleaves.symm with ⟨answer, ran⟩
        have settled := firstTrails.run_eq growth secondSaves.found
          secondSaves.again
        rw [ran] at settled
        exact Or.inr ⟨settled.1, answer, settled.2⟩

/-- Two requests that find no record: one of them saves its record, and both
answer with it. -/
theorem interleaves_calls (growth : Growth Later)
    (repeatable : Repeatable Later lookup script)
    (absent : lookup state = none)
    (yields : Yields script.run state value middle)
    (firstSaves : first.Saves Later lookup second middle firstRecord
      firstFinal)
    (secondSaves : second.Saves Later lookup first middle secondRecord
      secondFinal)
    (interleaves : Interleaves (first.call lookup script)
      (second.call lookup script) state leftOutcome rightOutcome last) :
    (last = firstFinal ∧
        first.Served second value firstRecord leftOutcome rightOutcome) ∨
      last = secondFinal ∧
        second.Served first value secondRecord rightOutcome leftOutcome :=
  interleaves_trailing growth firstSaves secondSaves interleaves
    ⟨absent, repeatable, yields⟩ (Or.inl ⟨rfl, .same⟩) (Or.inl ⟨rfl, .same⟩)

/-- Two requests that find a record reuse it. -/
theorem interleaves_calls_of_found (found : lookup state = some record)
    (interleaves : Interleaves (first.call lookup script)
      (second.call lookup script) state leftOutcome rightOutcome last) :
    last = state ∧ leftOutcome = first.reuse record ∧
      rightOutcome = second.reuse record := by
  cases interleaves with
  | left interleaves =>
      simp only [found, id_eq] at interleaves
      rcases interleaves_done_left.mp interleaves with ⟨answer, ran⟩
      rw [second.run_call_of_found found] at ran
      exact ⟨(congrArg Prod.snd ran).symm, answer, (congrArg Prod.fst ran).symm⟩
  | right interleaves =>
      simp only [found, id_eq] at interleaves
      rcases interleaves_done_left.mp interleaves.symm with ⟨answer, ran⟩
      rw [first.run_call_of_found found] at ran
      exact ⟨(congrArg Prod.snd ran).symm, (congrArg Prod.fst ran).symm, answer⟩

/-- Both requests look before either of them goes on. -/
theorem interleaves_of_absent (absent : lookup state = none) :
    Interleaves (first.call lookup script) (second.call lookup script) state
      ((first.finishing script).run state).1
      ((second.finishing script).run ((first.finishing script).run state).2).1
      ((second.finishing script).run
        ((first.finishing script).run state).2).2 := by
  refine .left (.right ?_)
  simp only [absent, id_eq]
  exact interleaves_run _ _ state

end Requests

end BidayaxExecutive.Library.IdempotentRequests
