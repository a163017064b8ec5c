import BidayaxExecutive.Library.LockingTransactions
import Mathlib.Data.List.Infix

/-!
# Logs that a lock serializes

Transactions append to a log of the store and hold its lock from the first
entry they append until they end.  So while a transaction has appended and not
committed, nobody else commits to the log, and what a statement was shown of
the log is still a part of it when the statement appends.  What every append
preserves of the log as it is seen holds of the committed log in every world
that is reached, whichever of the transactions commit.
-/

namespace BidayaxExecutive.Library.SerializedLogs

open BidayaxExecutive.Library.Runs
open BidayaxExecutive.Library.LockingTransactions

variable {Instant Store Statement Writes Resource Failure Entry : Type}

/-- A part of the store that transactions only append to. -/
structure Log (system : System Instant Store Statement Writes Resource Failure)
    (Entry : Type) where
  committed : Store → List Entry
  appended : Writes → List Entry
  appended_noWrites : appended system.noWrites = []
  committed_apply : ∀ writes store,
    committed (system.apply writes store) =
      committed store ++ appended writes

section Logs

variable {system : System Instant Store Statement Writes Resource Failure}
  (log : Log system Entry)

/-- The log as a transaction with these writes sees it. -/
def Log.seen (store : Store) (writes : Writes) : List Entry :=
  log.committed store ++ log.appended writes

/-- What a statement does to the log, when what it sees of the rest of the
store is as `given`.  `knows` is what a transaction has learned of the log; it
stays true when others append. -/
structure Serialized (lock : Resource) (given : Store → Prop)
    (sound : List Entry → Prop) (knows : List Entry → Writes → Prop) :
    Prop where
  knows_nothing : ∀ entries, knows entries system.noWrites
  knows_more : ∀ {entries more writes}, log.appended writes = [] →
    knows entries writes → knows (entries ++ more) writes
  performs : ∀ {instant store before statement resources writes after},
    system.resources before statement = some resources →
    system.perform instant (system.apply writes store) statement writes =
      .ok after →
    given (system.apply writes store) →
    sound (log.seen store writes) → knows (log.seen store writes) writes →
    ∃ more, log.appended after = log.appended writes ++ more ∧
      (lock ∈ resources ∨ more = []) ∧
      sound (log.seen store writes ++ more) ∧
      knows (log.seen store writes ++ more) after

/-- What holds of a transaction, given the committed store. -/
structure SoundFor (lock : Resource) (sound : List Entry → Prop)
    (knows : List Entry → Writes → Prop) (store : Store)
    (transaction : Transaction Instant Statement Writes Resource) : Prop where
  locked : lock ∈ transaction.acquired ∨
    log.appended transaction.writes = []
  sound : sound (log.seen store transaction.writes)
  knows : knows (log.seen store transaction.writes) transaction.writes

structure SoundWorld [LE Instant] (lock : Resource)
    (sound : List Entry → Prop) (knows : List Entry → Writes → Prop)
    (world : World Instant Store Statement Writes Resource) : Prop where
  orderly : Orderly (Locking system) world
  committed : sound (log.committed world.store)
  each : EachTransaction (SoundFor log lock sound knows world.store) world

variable {log} {lock : Resource} {given : Store → Prop}
  {sound : List Entry → Prop}
  {knows : List Entry → Writes → Prop}

theorem Log.seen_noWrites (store : Store) :
    log.seen store system.noWrites = log.committed store := by
  rw [Log.seen, log.appended_noWrites, List.append_nil]

/-- For a system whose statements append one entry at most, and that under the
lock. -/
theorem Serialized.of_entries
    (knows_nothing : ∀ entries, knows entries system.noWrites)
    (knows_more : ∀ {entries more writes}, log.appended writes = [] →
      knows entries writes → knows (entries ++ more) writes)
    (performs : ∀ {instant store before statement resources writes after},
      system.resources before statement = some resources →
      system.perform instant (system.apply writes store) statement writes =
        .ok after →
      given (system.apply writes store) →
      sound (log.seen store writes) → knows (log.seen store writes) writes →
      log.appended after = log.appended writes ∧
          knows (log.seen store writes) after ∨
        ∃ entry, log.appended after = log.appended writes ++ [entry] ∧
          lock ∈ resources ∧ sound (log.seen store writes ++ [entry]) ∧
          knows (log.seen store writes ++ [entry]) after) :
    Serialized log lock given sound knows where
  knows_nothing := knows_nothing
  knows_more := knows_more
  performs := by
    intro _ store _ _ _ writes _ needs performed holds isSound isKnown
    rcases performs needs performed holds isSound isKnown with
      ⟨same, stillKnown⟩ | ⟨entry, appends, locked, stillSound, stillKnown⟩
    · refine ⟨[], ?_, .inr rfl, ?_, ?_⟩
      · rw [List.append_nil, same]
      · rw [List.append_nil]
        exact isSound
      · rw [List.append_nil]
        exact stillKnown
    · exact ⟨[entry], appends, .inl locked, stillSound, stillKnown⟩

theorem soundWorld_of_isIdle [LE Instant]
    {world : World Instant Store Statement Writes Resource}
    (idle : IsIdle world) (holds : sound (log.committed world.store)) :
    SoundWorld log lock sound knows world :=
  ⟨orderly_of_isIdle idle, holds, eachTransaction_of_isIdle idle⟩

/-! ## Steps -/

section Steps

variable [LinearOrder Instant]
  {world next : World Instant Store Statement Writes Resource}
  {session : Nat} {actor : Option Nat}
  {transaction : Transaction Instant Statement Writes Resource}

/-- A transaction that has appended holds the lock, so the others have not
appended. -/
theorem SoundFor.commit {other : Nat}
    {otherTransaction : Transaction Instant Statement Writes Resource}
    (serialized : Serialized log lock given sound knows)
    (holds : SoundWorld log lock sound knows world)
    (isActive : world.transactions session = some transaction)
    (otherActive : world.transactions other = some otherTransaction)
    (different : other ≠ session) :
    SoundFor log lock sound knows (view system world transaction)
      otherTransaction := by
  have mine := holds.each session transaction isActive
  have theirs := holds.each other otherTransaction otherActive
  have committed : log.committed (view system world transaction) =
      log.committed world.store ++ log.appended transaction.writes :=
    log.committed_apply transaction.writes world.store
  by_cases appends : log.appended transaction.writes = []
  · have same : log.seen (view system world transaction)
        otherTransaction.writes =
          log.seen world.store otherTransaction.writes := by
      rw [Log.seen, committed, appends, List.append_nil]
      rfl
    exact ⟨theirs.locked, same ▸ theirs.sound, same ▸ theirs.knows⟩
  · have untouched : log.appended otherTransaction.writes = [] := by
      refine theirs.locked.resolve_left fun acquired => ?_
      exact different (holds.orderly.held.exclusive isActive otherActive
        (mine.locked.resolve_right appends) acquired)
    have seenThen : log.seen world.store otherTransaction.writes =
        log.committed world.store := by
      rw [Log.seen, untouched, List.append_nil]
    have seenNow : log.seen (view system world transaction)
        otherTransaction.writes = log.seen world.store transaction.writes := by
      rw [Log.seen, untouched, List.append_nil, committed]
      rfl
    refine ⟨.inr untouched, ?_, ?_⟩
    · rw [seenNow]
      exact mine.sound
    · have known := theirs.knows
      rw [seenThen] at known
      rw [seenNow]
      exact serialized.knows_more untouched known

/-- A statement that is performed has the resources it needs. -/
theorem SoundFor.perform (serialized : Serialized log lock given sound knows)
    (holds : SoundWorld log lock sound knows world)
    (isActive : world.transactions session = some transaction)
    {statement : Statement} {after : Writes}
    (ready : transaction.waiting = some (statement, []))
    (performed : system.perform transaction.start
      (view system world transaction) statement transaction.writes =
        .ok after)
    (background : given (view system world transaction)) :
    SoundFor log lock sound knows world.store
      { transaction with writes := after, waiting := none } := by
  have mine := holds.each session transaction isActive
  rcases holds.orderly.each session transaction isActive statement [] ready
    with ⟨before, resources, needs, covered⟩
  rcases serialized.performs needs performed background mine.sound
      mine.knows with
    ⟨more, isAfter, guarded, stillSound, stillKnows⟩
  have seen : log.seen world.store after =
      log.seen world.store transaction.writes ++ more := by
    rw [Log.seen, isAfter, ← List.append_assoc]
    rfl
  refine ⟨?_, seen ▸ stillSound, seen ▸ stillKnows⟩
  rcases guarded with needed | nothing
  · cases covered lock needed with
    | inl acquired =>
        exact .inl acquired
    | inr awaited =>
        exact nomatch awaited
  · rw [nothing, List.append_nil] at isAfter
    cases mine.locked with
    | inl acquired =>
        exact .inl acquired
    | inr untouched =>
        exact .inr (isAfter.trans untouched)

variable [DecidableEq Resource]

theorem SoundWorld.moves (serialized : Serialized log lock given sound knows)
    (background : EachTransaction
      (fun moving => given (view system world moving)) world)
    (holds : SoundWorld log lock sound knows world)
    (moves : Moves system world next actor) :
    SoundWorld log lock sound knows next := by
  have orderly := holds.orderly.moves keptBySteps_locking moves
  cases moves with
  | ticked instant _ isNext =>
      rw [isNext] at orderly ⊢
      exact ⟨orderly, holds.committed, holds.each⟩
  | started acting _ isNext =>
      rw [isNext] at orderly ⊢
      refine ⟨orderly, holds.committed, holds.each.put ?_⟩
      exact
        { locked := .inr log.appended_noWrites
          sound := (log.seen_noWrites world.store).symm ▸ holds.committed
          knows := serialized.knows_nothing _ }
  | passed _ isNext =>
      rw [isNext]
      exact holds
  | submitted acting moving _ _ isActive _ _ isNext =>
      rw [isNext] at orderly ⊢
      refine ⟨orderly, holds.committed, holds.each.put ?_⟩
      have mine := holds.each acting moving isActive
      exact ⟨mine.locked, mine.sound, mine.knows⟩
  | acquired acting moving _ resource _ isActive _ _ isNext =>
      rw [isNext] at orderly ⊢
      refine ⟨orderly, holds.committed, ?_⟩
      have mine := holds.each acting moving isActive
      exact EachTransaction.put holds.each
        ⟨mine.locked.imp_left (List.mem_cons_of_mem _), mine.sound,
          mine.knows⟩
  | finished acting moving statement after isActive waiting performed
      isNext =>
      rw [isNext] at orderly ⊢
      exact ⟨orderly, holds.committed,
        holds.each.put (SoundFor.perform serialized holds isActive waiting
          performed (background acting moving isActive))⟩
  | committed acting moving isActive isNext =>
      rw [isNext] at orderly ⊢
      refine ⟨orderly, ?_, ?_⟩
      · have committed : log.committed (view system world moving) =
            log.seen world.store moving.writes :=
          log.committed_apply moving.writes world.store
        exact committed ▸ (holds.each acting moving isActive).sound
      · intro other otherTransaction found
        rw [World.remove_transactions] at found
        by_cases same : other = acting
        · rw [if_pos same] at found
          exact nomatch found
        · rw [if_neg same] at found
          exact SoundFor.commit serialized holds isActive found same
  | removed acting moving isActive isNext =>
      rw [isNext] at orderly ⊢
      exact ⟨orderly, holds.committed, holds.each.remove⟩

/-- The committed log only grows. -/
theorem committed_prefix_of_moves
    (moves : Moves system world next actor) :
    log.committed world.store <+: log.committed next.store := by
  cases moves with
  | committed acting moving _ isNext =>
      rw [isNext]
      have committed : log.committed (view system world moving) =
          log.committed world.store ++ log.appended moving.writes :=
        log.committed_apply moving.writes world.store
      exact committed ▸ List.prefix_append _ _
  | ticked _ _ isNext =>
      rw [isNext]
  | started _ _ isNext =>
      rw [isNext]
      exact List.prefix_rfl
  | passed _ isNext =>
      rw [isNext]
  | submitted _ _ _ _ _ _ _ isNext =>
      rw [isNext]
      exact List.prefix_rfl
  | acquired _ _ _ _ _ _ _ _ isNext =>
      rw [isNext]
      exact List.prefix_rfl
  | finished _ _ _ _ _ _ _ isNext =>
      rw [isNext]
      exact List.prefix_rfl
  | removed _ _ _ isNext =>
      rw [isNext]
      exact List.prefix_rfl

/-! ## Runs -/

variable {actions : List (Action Instant Statement)}

/-- Nothing is asked of the rest of the store. -/
theorem SoundWorld.run_alone
    (serialized : Serialized log lock (fun _ => True) sound knows)
    (holds : SoundWorld log lock sound knows world)
    (ran : run (step system) world actions = .ok next) :
    SoundWorld log lock sound knows next := by
  refine run_preserves (step system) (SoundWorld log lock sound knows) ?_
    holds ran
  intro state action after before stepped
  exact before.moves serialized (fun _ _ _ => trivial)
    (moves_of_step stepped)

/-- What the statements are given is a consequence of another invariant. -/
theorem SoundWorld.run
    {invariant : World Instant Store Statement Writes Resource → Prop}
    (serialized : Serialized log lock given sound knows)
    (kept : ∀ {state after moved}, invariant state →
      Moves system state after moved → invariant after)
    (background : ∀ {state}, invariant state →
      EachTransaction (fun moving => given (view system state moving)) state)
    (initially : invariant world)
    (holds : SoundWorld log lock sound knows world)
    (ran : run (step system) world actions = .ok next) :
    SoundWorld log lock sound knows next := by
  refine (run_preserves (step system) (fun state =>
    invariant state ∧ SoundWorld log lock sound knows state) ?_
    ⟨initially, holds⟩ ran).2
  intro state action after before stepped
  have moves := moves_of_step stepped
  exact ⟨kept before.1 moves,
    before.2.moves serialized (background before.1) moves⟩

theorem committed_prefix_of_run
    (ran : run (step system) world actions = .ok next) :
    log.committed world.store <+: log.committed next.store := by
  refine run_preserves (step system)
    (fun state => log.committed world.store <+: log.committed state.store)
    ?_ List.prefix_rfl ran
  intro state action after before stepped
  exact before.trans (committed_prefix_of_moves (moves_of_step stepped))

end Steps

end Logs

/-! ## References between logs -/

section References

variable {Item Support : Type}
  {system : System Instant Store Statement Writes Resource Failure}
  (items : Log system Item) (supports : Log system Support)
  (supporting : Support → Item → Prop)

/-- Each item of a log has its support in another one, as both are seen. -/
def Supported (store : Store) (writes : Writes) : Prop :=
  ∀ item ∈ items.seen store writes,
    ∃ support ∈ supports.seen store writes, supporting support item

structure SupportedWorld
    (world : World Instant Store Statement Writes Resource) : Prop where
  committed : ∀ item ∈ items.committed world.store,
    ∃ support ∈ supports.committed world.store, supporting support item
  each : EachTransaction (fun moving =>
    Supported items supports supporting world.store moving.writes) world

variable {items supports supporting}

theorem supported_noWrites {store : Store} :
    Supported items supports supporting store system.noWrites ↔
      ∀ item ∈ items.committed store,
        ∃ support ∈ supports.committed store, supporting support item := by
  rw [Supported, Log.seen_noWrites, Log.seen_noWrites]

theorem supportedWorld_of_isIdle
    {world : World Instant Store Statement Writes Resource}
    (idle : IsIdle world)
    (holds : ∀ item ∈ items.committed world.store,
      ∃ support ∈ supports.committed world.store,
        supporting support item) :
    SupportedWorld items supports supporting world :=
  ⟨holds, eachTransaction_of_isIdle idle⟩

/-- What two transactions have appended is supported by what both see. -/
theorem Supported.commit {store : Store} {writes others : Writes}
    (mine : Supported items supports supporting store writes)
    (theirs : Supported items supports supporting store others) :
    Supported items supports supporting (system.apply writes store)
      others := by
  intro item member
  rw [Log.seen, items.committed_apply, List.append_assoc,
    List.mem_append, List.mem_append] at member
  have wider : ∀ support, support ∈ supports.seen store writes ∨
      support ∈ supports.seen store others →
        support ∈ supports.seen (system.apply writes store) others := by
    intro support seen
    rw [Log.seen, supports.committed_apply]
    simp only [Log.seen, List.mem_append] at seen ⊢
    tauto
  rcases member with committed | appended | other
  · rcases mine item (List.mem_append_left _ committed) with
      ⟨support, seen, supported⟩
    exact ⟨support, wider support (.inl seen), supported⟩
  · rcases mine item (List.mem_append_right _ appended) with
      ⟨support, seen, supported⟩
    exact ⟨support, wider support (.inl seen), supported⟩
  · rcases theirs item (List.mem_append_right _ other) with
      ⟨support, seen, supported⟩
    exact ⟨support, wider support (.inr seen), supported⟩

variable [LinearOrder Instant] [DecidableEq Resource]
  {world next : World Instant Store Statement Writes Resource}
  {actor : Option Nat}
  {property : Transaction Instant Statement Writes Resource → Prop}

/-- Statements that append an item see its support or append it too. -/
theorem SupportedWorld.moves
    (performs : ∀ {transaction} store statement after, property transaction →
      system.perform transaction.start
        (system.apply transaction.writes store) statement
          transaction.writes = .ok after →
      Supported items supports supporting store transaction.writes →
      Supported items supports supporting store after)
    (each : EachTransaction property world)
    (holds : SupportedWorld items supports supporting world)
    (moves : Moves system world next actor) :
    SupportedWorld items supports supporting next := by
  cases moves with
  | ticked instant _ isNext =>
      rw [isNext]
      exact ⟨holds.committed, holds.each⟩
  | started acting _ isNext =>
      rw [isNext]
      exact ⟨holds.committed,
        holds.each.put (supported_noWrites.mpr holds.committed)⟩
  | passed _ isNext =>
      rw [isNext]
      exact holds
  | submitted acting moving _ _ isActive _ _ isNext =>
      rw [isNext]
      exact ⟨holds.committed,
        EachTransaction.put holds.each (holds.each acting moving isActive)⟩
  | acquired acting moving _ _ _ isActive _ _ isNext =>
      rw [isNext]
      exact ⟨holds.committed,
        EachTransaction.put holds.each (holds.each acting moving isActive)⟩
  | finished acting moving statement after isActive _ performed isNext =>
      rw [isNext]
      exact ⟨holds.committed, EachTransaction.put holds.each
        (performs _ statement after (each acting moving isActive) performed
          (holds.each acting moving isActive))⟩
  | committed acting moving isActive isNext =>
      rw [isNext]
      have mine := holds.each acting moving isActive
      have alone : Supported items supports supporting
          (system.apply moving.writes world.store) system.noWrites :=
        mine.commit (supported_noWrites.mpr holds.committed)
      refine ⟨supported_noWrites.mp alone, ?_⟩
      intro other otherTransaction found
      rw [World.remove_transactions] at found
      by_cases same : other = acting
      · rw [if_pos same] at found
        exact nomatch found
      · rw [if_neg same] at found
        exact mine.commit (holds.each other otherTransaction found)
  | removed acting moving _ isNext =>
      rw [isNext]
      exact ⟨holds.committed, holds.each.remove⟩

end References

end BidayaxExecutive.Library.SerializedLogs
