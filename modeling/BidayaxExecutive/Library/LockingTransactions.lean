import BidayaxExecutive.Library.Runs
import Mathlib.Logic.Function.Basic
import Mathlib.Order.Lattice

/-!
# Transactions that lock what they touch

Transactions run concurrently on one store.  A transaction begins at an instant
of the clock and submits statements one at a time.  A statement waits for its
resources one after the other, is then performed on the committed store with
the writes of its own transaction, and adds to these writes or aborts the
transaction.  Resources are held until the transaction ends; a commit makes its
writes part of the store.  No two transactions hold the same resource.
-/

namespace BidayaxExecutive.Library.LockingTransactions

open BidayaxExecutive.Library.Runs

variable {Instant Store Statement Writes Resource Failure : Type}

/-- `perform` is given the instant the transaction began at.  A statement
without `resources` finds nothing to do. -/
structure System (Instant Store Statement Writes Resource Failure : Type) where
  resources : Store → Statement → Option (List Resource)
  perform : Instant → Store → Statement → Writes → Except Failure Writes
  noWrites : Writes
  apply : Writes → Store → Store

/-- `waiting` is the statement under way and what it still has to acquire. -/
structure Transaction (Instant Statement Writes Resource : Type) where
  start : Instant
  writes : Writes
  acquired : List Resource
  waiting : Option (Statement × List Resource)

structure World (Instant Store Statement Writes Resource : Type) where
  clock : Instant
  store : Store
  holders : Resource → Option Nat
  transactions : Nat → Option (Transaction Instant Statement Writes Resource)

inductive Action (Instant Statement : Type) where
  | tick (instant : Instant)
  | start (session : Nat)
  | submit (session : Nat) (statement : Statement)
  | acquire (session : Nat)
  | finish (session : Nat)
  | commit (session : Nat)
  | rollback (session : Nat)

/-- The session that acts; time passes by itself. -/
def Action.session? : Action Instant Statement → Option Nat
  | .tick _ => none
  | .start session => some session
  | .submit session _ => some session
  | .acquire session => some session
  | .finish session => some session
  | .commit session => some session
  | .rollback session => some session

/-- The action is not possible now. -/
inductive Disabled where
  | disabled

namespace World

variable (world : World Instant Store Statement Writes Resource)

def put (session : Nat)
    (transaction : Transaction Instant Statement Writes Resource) :
    World Instant Store Statement Writes Resource :=
  { world with
    transactions := Function.update world.transactions session
      (some transaction) }

/-- The transaction ends and gives back what it holds. -/
def remove (session : Nat) :
    World Instant Store Statement Writes Resource :=
  { world with
    holders := fun resource =>
      if world.holders resource = some session then none
      else world.holders resource
    transactions := Function.update world.transactions session none }

variable {world} {session : Nat}
  {transaction : Transaction Instant Statement Writes Resource}

theorem put_transactions (other : Nat) :
    (world.put session transaction).transactions other =
      if other = session then some transaction
      else world.transactions other :=
  Function.update_apply _ _ _ _

theorem remove_transactions (other : Nat) :
    (world.remove session).transactions other =
      if other = session then none else world.transactions other :=
  Function.update_apply _ _ _ _

end World

/-! ## What holds of a world -/

section Worlds

variable {world : World Instant Store Statement Writes Resource}
  {session : Nat}
  {transaction : Transaction Instant Statement Writes Resource}

/-- No transaction is under way and nothing is held. -/
def IsIdle (world : World Instant Store Statement Writes Resource) : Prop :=
  (∀ session, world.transactions session = none) ∧
    ∀ resource, world.holders resource = none

def EachTransaction
    (property : Transaction Instant Statement Writes Resource → Prop)
    (world : World Instant Store Statement Writes Resource) : Prop :=
  ∀ session transaction, world.transactions session = some transaction →
    property transaction

/-- Everything a transaction has acquired is held by its session. -/
def Held (world : World Instant Store Statement Writes Resource) : Prop :=
  ∀ session transaction, world.transactions session = some transaction →
    ∀ resource ∈ transaction.acquired,
      world.holders resource = some session

theorem eachTransaction_of_isIdle
    {property : Transaction Instant Statement Writes Resource → Prop}
    (idle : IsIdle world) : EachTransaction property world := by
  intro session transaction found
  rw [idle.1 session] at found
  exact nomatch found

theorem held_of_isIdle (idle : IsIdle world) : Held world := by
  intro session transaction found
  rw [idle.1 session] at found
  exact nomatch found

theorem EachTransaction.put
    {property : Transaction Instant Statement Writes Resource → Prop}
    (each : EachTransaction property world)
    (holds : property transaction) :
    EachTransaction property (world.put session transaction) := by
  intro other otherTransaction found
  rw [World.put_transactions] at found
  by_cases same : other = session
  · rw [if_pos same] at found
    rw [← Option.some.inj found]
    exact holds
  · rw [if_neg same] at found
    exact each other otherTransaction found

theorem EachTransaction.remove
    {property : Transaction Instant Statement Writes Resource → Prop}
    (each : EachTransaction property world) :
    EachTransaction property (world.remove session) := by
  intro other otherTransaction found
  rw [World.remove_transactions] at found
  by_cases same : other = session
  · rw [if_pos same] at found
    exact nomatch found
  · rw [if_neg same] at found
    exact each other otherTransaction found

theorem Held.put (held : Held world)
    (acquired : ∀ resource ∈ transaction.acquired,
      world.holders resource = some session) :
    Held (world.put session transaction) := by
  intro other otherTransaction found
  rw [World.put_transactions] at found
  by_cases same : other = session
  · rw [if_pos same] at found
    rw [← Option.some.inj found, same]
    exact acquired
  · rw [if_neg same] at found
    exact held other otherTransaction found

theorem Held.remove (held : Held world) : Held (world.remove session) := by
  intro other otherTransaction found resource member
  rw [World.remove_transactions] at found
  by_cases same : other = session
  · rw [if_pos same] at found
    exact nomatch found
  · rw [if_neg same] at found
    have isHeld := held other otherTransaction found resource member
    have different : world.holders resource ≠ some session := by
      rw [isHeld]
      exact fun equal => same (Option.some.inj equal)
    exact (if_neg different).trans isHeld

theorem Held.acquire [DecidableEq Resource] (held : Held world)
    {resource : Resource}
    (free : world.holders resource = none ∨
      world.holders resource = some session) :
    Held { world with
      holders := Function.update world.holders resource (some session) } := by
  intro other otherTransaction found taken member
  have isHeld := held other otherTransaction found taken member
  by_cases same : taken = resource
  · subst same
    rw [isHeld] at free
    cases free with
    | inl absurdity =>
        exact nomatch absurdity
    | inr mine =>
        exact (Function.update_self _ _ _).trans mine.symm
  · exact (Function.update_of_ne same _ _).trans isHeld

/-- No two sessions have acquired the same resource. -/
theorem Held.exclusive (held : Held world) {other : Nat}
    {otherTransaction : Transaction Instant Statement Writes Resource}
    (isActive : world.transactions session = some transaction)
    (otherActive : world.transactions other = some otherTransaction)
    {resource : Resource} (acquired : resource ∈ transaction.acquired)
    (otherAcquired : resource ∈ otherTransaction.acquired) :
    other = session := by
  have mine := held session transaction isActive resource acquired
  have theirs := held other otherTransaction otherActive resource
    otherAcquired
  exact Option.some.inj (theirs.symm.trans mine)

section Properties

variable (system : System Instant Store Statement Writes Resource Failure)

structure KeptBySteps
    (property : Transaction Instant Statement Writes Resource → Prop) :
    Prop where
  started : ∀ instant, property ⟨instant, system.noWrites, [], none⟩
  submitted : ∀ {transaction} store statement resources,
    property transaction → transaction.waiting = none →
    system.resources store statement = some resources →
    property { transaction with waiting := some (statement, resources) }
  acquired : ∀ {transaction} statement resource rest,
    property transaction →
    transaction.waiting = some (statement, resource :: rest) →
    property { transaction with
      acquired := resource :: transaction.acquired
      waiting := some (statement, rest) }
  finished : ∀ {transaction} store statement after, property transaction →
    transaction.waiting = some (statement, []) →
    system.perform transaction.start store statement transaction.writes =
      .ok after →
    property { transaction with writes := after, waiting := none }

/-- A statement has acquired the resources it does not wait for. -/
def Locking (transaction : Transaction Instant Statement Writes Resource) :
    Prop :=
  ∀ statement rest, transaction.waiting = some (statement, rest) →
    ∃ store resources, system.resources store statement = some resources ∧
      ∀ resource ∈ resources,
        resource ∈ transaction.acquired ∨ resource ∈ rest

/-- A transaction that writes to the part of the store has acquired the
resource. -/
def Guards {Part : Type} (resource : Resource) (part : Store → Part)
    (transaction : Transaction Instant Statement Writes Resource) : Prop :=
  resource ∈ transaction.acquired ∨
    ∀ store, part (system.apply transaction.writes store) = part store

variable {system}

theorem keptBySteps_locking : KeptBySteps system (Locking system) where
  started _ := fun _ _ absurdity => nomatch absurdity
  submitted store statement resources _ _ needs := by
    intro submitted rest isWaiting
    rcases Prod.mk.inj (Option.some.inj isWaiting) with ⟨same, remaining⟩
    rw [← same, ← remaining]
    exact ⟨store, resources, needs, fun _ member => .inr member⟩
  acquired statement resource rest locking waiting := by
    intro waitingFor remaining isWaiting
    rcases Prod.mk.inj (Option.some.inj isWaiting) with ⟨same, others⟩
    rw [← same, ← others]
    rcases locking statement _ waiting with
      ⟨store, resources, needs, covered⟩
    refine ⟨store, resources, needs, fun needed member => ?_⟩
    cases covered needed member with
    | inl earlier =>
        exact .inl (List.mem_cons_of_mem _ earlier)
    | inr awaited =>
        cases List.mem_cons.mp awaited with
        | inl now =>
            rw [now]
            exact .inl List.mem_cons_self
        | inr later =>
            exact .inr later
  finished _ _ _ _ _ _ := fun _ _ absurdity => nomatch absurdity

end Properties

/-- What the steps keep of worlds and of transactions. -/
structure Orderly [LE Instant]
    (property : Transaction Instant Statement Writes Resource → Prop)
    (world : World Instant Store Statement Writes Resource) : Prop where
  held : Held world
  past : EachTransaction (fun moving => moving.start ≤ world.clock) world
  each : EachTransaction property world

theorem orderly_of_isIdle [LE Instant]
    {property : Transaction Instant Statement Writes Resource → Prop}
    (idle : IsIdle world) : Orderly property world :=
  ⟨held_of_isIdle idle, eachTransaction_of_isIdle idle,
    eachTransaction_of_isIdle idle⟩

end Worlds

section Steps

variable [LinearOrder Instant] [DecidableEq Resource]
  (system : System Instant Store Statement Writes Resource Failure)

/-- What a transaction sees: what is committed, and its own writes. -/
def view (world : World Instant Store Statement Writes Resource)
    (transaction : Transaction Instant Statement Writes Resource) : Store :=
  system.apply transaction.writes world.store

def step (world : World Instant Store Statement Writes Resource) :
    Action Instant Statement →
      Except Disabled (World Instant Store Statement Writes Resource)
  | .tick instant =>
      if instant < world.clock then throw .disabled
      else pure { world with clock := instant }
  | .start session =>
      match world.transactions session with
      | none =>
          pure (world.put session ⟨world.clock, system.noWrites, [], none⟩)
      | some _ => throw .disabled
  | .submit session statement =>
      match world.transactions session with
      | some ⟨start, writes, acquired, none⟩ =>
          match system.resources (system.apply writes world.store)
              statement with
          | none => pure world
          | some resources =>
              pure (world.put session ⟨start, writes, acquired,
                some (statement, resources)⟩)
      | _ => throw .disabled
  | .acquire session =>
      match world.transactions session with
      | some ⟨start, writes, acquired, some (statement, resource :: rest)⟩ =>
          if world.holders resource = none ∨
              world.holders resource = some session then
            pure { world.put session
                ⟨start, writes, resource :: acquired, some (statement, rest)⟩
              with
              holders := Function.update world.holders resource
                (some session) }
          else throw .disabled
      | _ => throw .disabled
  | .finish session =>
      match world.transactions session with
      | some ⟨start, writes, acquired, some (statement, [])⟩ =>
          match system.perform start (system.apply writes world.store)
              statement writes with
          | .ok after => pure (world.put session ⟨start, after, acquired, none⟩)
          | .error _ => pure (world.remove session)
      | _ => throw .disabled
  | .commit session =>
      match world.transactions session with
      | some ⟨_, writes, _, none⟩ =>
          pure ({ world with
            store := system.apply writes world.store }.remove session)
      | _ => throw .disabled
  | .rollback session =>
      match world.transactions session with
      | some _ => pure (world.remove session)
      | none => throw .disabled

/-! ## What an action does -/

/-- Nothing but the session that acts moves. -/
inductive Moves (world next : World Instant Store Statement Writes Resource) :
    Option Nat → Prop
  | ticked (instant : Instant) :
      world.clock ≤ instant → next = { world with clock := instant } →
      Moves world next none
  | started (session : Nat) :
      world.transactions session = none →
      next = world.put session ⟨world.clock, system.noWrites, [], none⟩ →
      Moves world next (some session)
  | passed (session : Nat) :
      next = world → Moves world next (some session)
  | submitted (session : Nat)
      (transaction : Transaction Instant Statement Writes Resource)
      (statement : Statement) (resources : List Resource) :
      world.transactions session = some transaction →
      transaction.waiting = none →
      system.resources (view system world transaction) statement =
        some resources →
      next = world.put session { transaction with
        waiting := some (statement, resources) } →
      Moves world next (some session)
  | acquired (session : Nat)
      (transaction : Transaction Instant Statement Writes Resource)
      (statement : Statement) (resource : Resource) (rest : List Resource) :
      world.transactions session = some transaction →
      transaction.waiting = some (statement, resource :: rest) →
      (world.holders resource = none ∨
        world.holders resource = some session) →
      next = { world.put session { transaction with
          acquired := resource :: transaction.acquired
          waiting := some (statement, rest) } with
        holders := Function.update world.holders resource (some session) } →
      Moves world next (some session)
  | finished (session : Nat)
      (transaction : Transaction Instant Statement Writes Resource)
      (statement : Statement) (after : Writes) :
      world.transactions session = some transaction →
      transaction.waiting = some (statement, []) →
      system.perform transaction.start (view system world transaction)
        statement transaction.writes = .ok after →
      next = world.put session { transaction with
        writes := after
        waiting := none } →
      Moves world next (some session)
  | committed (session : Nat)
      (transaction : Transaction Instant Statement Writes Resource) :
      world.transactions session = some transaction →
      next = { world with
        store := view system world transaction }.remove session →
      Moves world next (some session)
  | removed (session : Nat)
      (transaction : Transaction Instant Statement Writes Resource) :
      world.transactions session = some transaction →
      next = world.remove session →
      Moves world next (some session)

variable {system}
  {world next : World Instant Store Statement Writes Resource}
  {actor : Option Nat} {session : Nat}
  {transaction : Transaction Instant Statement Writes Resource}

theorem moves_of_step {action : Action Instant Statement}
    (stepped : step system world action = .ok next) :
    Moves system world next action.session? := by
  cases action with
  | tick instant =>
      simp only [step] at stepped
      by_cases past : instant < world.clock
      · rw [if_pos past] at stepped
        exact nomatch stepped
      · rw [if_neg past] at stepped
        exact .ticked instant (not_lt.mp past) (Except.ok.inj stepped).symm
  | start session =>
      simp only [step] at stepped
      cases found : world.transactions session with
      | none =>
          simp only [found] at stepped
          exact .started session found (Except.ok.inj stepped).symm
      | some transaction =>
          simp only [found] at stepped
          exact nomatch stepped
  | submit session statement =>
      simp only [step] at stepped
      split at stepped
      · rename_i start writes acquired found
        split at stepped
        · exact .passed session (Except.ok.inj stepped).symm
        · rename_i resources needs
          exact .submitted session _ statement resources found rfl needs
            (Except.ok.inj stepped).symm
      · exact nomatch stepped
  | acquire session =>
      simp only [step] at stepped
      split at stepped
      · rename_i start writes acquired statement resource rest found
        by_cases free : world.holders resource = none ∨
            world.holders resource = some session
        · rw [if_pos free] at stepped
          exact .acquired session _ statement resource rest found rfl free
            (Except.ok.inj stepped).symm
        · rw [if_neg free] at stepped
          exact nomatch stepped
      · exact nomatch stepped
  | finish session =>
      simp only [step] at stepped
      split at stepped
      · rename_i start writes acquired statement found
        split at stepped
        · rename_i after performed
          exact .finished session _ statement after found rfl performed
            (Except.ok.inj stepped).symm
        · exact .removed session _ found (Except.ok.inj stepped).symm
      · exact nomatch stepped
  | commit session =>
      simp only [step] at stepped
      split at stepped
      · rename_i start writes acquired found
        exact .committed session _ found (Except.ok.inj stepped).symm
      · exact nomatch stepped
  | rollback session =>
      simp only [step] at stepped
      split at stepped
      · rename_i transaction found
        exact .removed session transaction found (Except.ok.inj stepped).symm
      · exact nomatch stepped

/-- A statement that fails aborts its transaction. -/
theorem step_finish_of_error {statement : Statement} {failure : Failure}
    (isActive : world.transactions session = some transaction)
    (ready : transaction.waiting = some (statement, []))
    (failed : system.perform transaction.start
      (view system world transaction) statement transaction.writes =
        .error failure) :
    step system world (.finish session) = .ok (world.remove session) := by
  rcases transaction with ⟨start, writes, acquired, waiting⟩
  subst ready
  simp only [view] at failed
  simp only [step, isActive, failed]
  rfl

theorem Moves.transactions_eq (moves : Moves system world next actor) :
    next.transactions = world.transactions ∨
      ∃ acting changed, actor = some acting ∧
        next.transactions =
          Function.update world.transactions acting changed := by
  cases moves with
  | ticked instant _ isNext =>
      rw [isNext]
      exact .inl rfl
  | started acting _ isNext =>
      exact .inr ⟨acting, _, rfl, congrArg World.transactions isNext⟩
  | passed acting isNext =>
      exact .inl (congrArg World.transactions isNext)
  | submitted acting _ _ _ _ _ _ isNext =>
      exact .inr ⟨acting, _, rfl, congrArg World.transactions isNext⟩
  | acquired acting _ _ _ _ _ _ _ isNext =>
      exact .inr ⟨acting, _, rfl, congrArg World.transactions isNext⟩
  | finished acting _ _ _ _ _ _ isNext =>
      exact .inr ⟨acting, _, rfl, congrArg World.transactions isNext⟩
  | committed acting _ _ isNext =>
      exact .inr ⟨acting, _, rfl, congrArg World.transactions isNext⟩
  | removed acting _ _ isNext =>
      exact .inr ⟨acting, _, rfl, congrArg World.transactions isNext⟩

/-- A session that does not act keeps its transaction. -/
theorem Moves.transactions_other (moves : Moves system world next actor)
    (other : actor ≠ some session) :
    next.transactions session = world.transactions session := by
  cases moves.transactions_eq with
  | inl same =>
      rw [same]
  | inr changes =>
      rcases changes with ⟨acting, changed, acts, isNext⟩
      have different : session ≠ acting := by
        intro same
        rw [acts, same] at other
        exact other rfl
      rw [isNext, Function.update_of_ne different]

/-! ## Properties of each transaction -/

theorem EachTransaction.moves
    {property : Transaction Instant Statement Writes Resource → Prop}
    (kept : KeptBySteps system property)
    (each : EachTransaction property world)
    (moves : Moves system world next actor) :
    EachTransaction property next := by
  cases moves with
  | ticked instant _ isNext =>
      rw [isNext]
      exact each
  | started acting _ isNext =>
      rw [isNext]
      exact each.put (kept.started world.clock)
  | passed _ isNext =>
      rw [isNext]
      exact each
  | submitted acting moving statement resources isActive waiting needs
      isNext =>
      rw [isNext]
      exact each.put
        (kept.submitted _ statement resources (each _ _ isActive) waiting
          needs)
  | acquired acting moving statement resource rest isActive waiting _
      isNext =>
      rw [isNext]
      exact each.put
        (kept.acquired statement resource rest (each _ _ isActive) waiting)
  | finished acting moving statement after isActive waiting performed
      isNext =>
      rw [isNext]
      exact each.put
        (kept.finished _ statement after (each _ _ isActive) waiting
          performed)
  | committed acting moving _ isNext =>
      rw [isNext]
      exact EachTransaction.remove each
  | removed acting moving _ isNext =>
      rw [isNext]
      exact each.remove

/-! ## What is held -/

theorem Held.moves (held : Held world)
    (moves : Moves system world next actor) : Held next := by
  cases moves with
  | ticked instant _ isNext =>
      rw [isNext]
      exact held
  | started acting _ isNext =>
      rw [isNext]
      exact held.put fun _ member => nomatch member
  | passed _ isNext =>
      rw [isNext]
      exact held
  | submitted acting moving _ _ isActive _ _ isNext =>
      rw [isNext]
      exact held.put (held acting moving isActive)
  | acquired acting moving statement resource rest isActive _ free isNext =>
      rw [isNext]
      refine Held.put (held.acquire free) fun taken member => ?_
      cases List.mem_cons.mp member with
      | inl same =>
          rw [same]
          exact Function.update_self _ _ _
      | inr earlier =>
          exact held.acquire free acting moving isActive taken earlier
  | finished acting moving statement after isActive _ _ isNext =>
      rw [isNext]
      exact held.put (held acting moving isActive)
  | committed acting moving _ isNext =>
      rw [isNext]
      exact Held.remove held
  | removed acting moving _ isNext =>
      rw [isNext]
      exact held.remove

theorem startsPast_moves
    (past : EachTransaction (fun moving => moving.start ≤ world.clock) world)
    (moves : Moves system world next actor) :
    EachTransaction (fun moving => moving.start ≤ next.clock) next := by
  cases moves with
  | ticked instant later isNext =>
      rw [isNext]
      exact fun other moving isActive =>
        le_trans (past other moving isActive) later
  | started acting _ isNext =>
      rw [isNext]
      exact past.put le_rfl
  | passed _ isNext =>
      rw [isNext]
      exact past
  | submitted acting moving _ _ isActive _ _ isNext =>
      rw [isNext]
      exact past.put (past acting moving isActive)
  | acquired acting moving statement resource rest isActive _ _ isNext =>
      rw [isNext]
      exact past.put (past acting moving isActive)
  | finished acting moving statement after isActive _ _ isNext =>
      rw [isNext]
      exact past.put (past acting moving isActive)
  | committed acting moving _ isNext =>
      rw [isNext]
      exact EachTransaction.remove past
  | removed acting moving _ isNext =>
      rw [isNext]
      exact past.remove

/-! ## Runs -/

variable {property : Transaction Instant Statement Writes Resource → Prop}
  {actions : List (Action Instant Statement)}

theorem Orderly.moves (kept : KeptBySteps system property)
    (orderly : Orderly property world)
    (moves : Moves system world next actor) : Orderly property next :=
  ⟨orderly.held.moves moves, startsPast_moves orderly.past moves,
    orderly.each.moves kept moves⟩

theorem Orderly.run (kept : KeptBySteps system property)
    (orderly : Orderly property world)
    (ran : run (step system) world actions = .ok next) :
    Orderly property next := by
  refine run_preserves _ (Orderly property) ?_ orderly ran
  intro state action after holds stepped
  exact holds.moves kept (moves_of_step stepped)

/-- Only a commit changes the store. -/
theorem part_of_moves {Part : Type} {part : Store → Part}
    {resource : Resource} (orderly : Orderly property world)
    (guards : ∀ moving, property moving →
      Guards system resource part moving)
    (moves : Moves system world next actor)
    (isActive : world.transactions session = some transaction)
    (guarded : resource ∈ transaction.acquired)
    (other : actor ≠ some session) : part next.store = part world.store := by
  cases moves with
  | committed acting moving isMoving isNext =>
      rw [isNext]
      cases guards moving (orderly.each acting moving isMoving) with
      | inl acquired =>
          have same := orderly.held.exclusive isActive isMoving guarded
            acquired
          rw [same] at other
          exact absurd rfl other
      | inr untouched =>
          exact untouched world.store
  | ticked _ _ isNext =>
      rw [isNext]
  | started _ _ isNext =>
      rw [isNext]
      rfl
  | passed _ isNext =>
      rw [isNext]
  | submitted _ _ _ _ _ _ _ isNext =>
      rw [isNext]
      rfl
  | acquired _ _ _ _ _ _ _ _ isNext =>
      rw [isNext]
      rfl
  | finished _ _ _ _ _ _ _ isNext =>
      rw [isNext]
      rfl
  | removed _ _ _ isNext =>
      rw [isNext]
      rfl

/-- While a session that holds a resource does not act, it keeps its
transaction, and what the resource guards does not change. -/
theorem guarded_unchanged {Part : Type} {part : Store → Part}
    {resource : Resource}
    (kept : KeptBySteps system property)
    (orderly : Orderly property world)
    (guards : ∀ moving, property moving →
      Guards system resource part moving)
    (isActive : world.transactions session = some transaction)
    (guarded : resource ∈ transaction.acquired)
    (others : ∀ action ∈ actions, action.session? ≠ some session)
    (ran : run (step system) world actions = .ok next) :
    next.transactions session = some transaction ∧
      part next.store = part world.store := by
  have conditions : Along (step system)
      (fun _ action => action.session? ≠ some session) world actions :=
    along_of_forall _ (fun _ => others) world
  refine run_invariant _
    (fun state => Orderly property state ∧
      state.transactions session = some transaction ∧
        part state.store = part world.store) ?_ ⟨orderly, isActive, rfl⟩
    conditions ran |>.2
  intro state action after holds other stepped
  have moves := moves_of_step stepped
  refine ⟨holds.1.moves kept moves, ?_, ?_⟩
  · exact (moves.transactions_other other).trans holds.2.1
  · exact (part_of_moves holds.1 guards moves holds.2.1 guarded other).trans
      holds.2.2

end Steps

end BidayaxExecutive.Library.LockingTransactions
