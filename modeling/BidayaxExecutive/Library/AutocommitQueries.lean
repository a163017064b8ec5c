import BidayaxExecutive.Library.Transactions
import Mathlib.Order.Nat

/-!
# Queries that commit one by one

Queries on a pool commit by themselves, so the rows of the queries before a
failure stay.  A sequence of queries that all add rows is stored entirely or
not at all exactly when none of them fails or the first one does.
-/

namespace BidayaxExecutive.Library.AutocommitQueries

open BidayaxExecutive.Library.Transactions

/-- The rows, the number of queries issued and of values drawn, and the queries
that fail. -/
structure PoolState (Row : Type) where
  rows : List Row
  issued : Nat := 0
  drawn : Nat := 0
  fails : Nat → Bool

abbrev PoolAction (Row Value : Type) : Type :=
  Transaction (PoolState Row) Unit Value

section Queries

variable {Row Kind Value Result : Type}

/-- An insert, whose answer may depend on the rows there are. -/
def query (rows : List Row) (answer : List Row → Value) :
    PoolAction Row Value := fun state =>
  if state.fails state.issued then
    (.error (), { state with issued := state.issued + 1 })
  else
    (.ok (answer state.rows),
      { state with
        rows := state.rows ++ rows
        issued := state.issued + 1 })

/-- A value that is drawn without a query. -/
def draw (value : Nat → Value) : PoolAction Row Value := fun state =>
  (.ok (value state.drawn), { state with drawn := state.drawn + 1 })

variable (kind : Row → Kind)

/-- The action issues a query for each batch and adds rows of the kinds of the
batches, as far as no query fails. -/
structure Writes (action : PoolAction Row Value)
    (batches : List (List Kind)) : Prop where
  all : ∀ state : PoolState Row,
    (∀ position < batches.length,
      state.fails (state.issued + position) = false) →
    ∃ value added drawn,
      action state = (.ok value,
        { state with
          rows := state.rows ++ added
          issued := state.issued + batches.length
          drawn := drawn }) ∧
      added.map kind = batches.flatten
  some : ∀ (state : PoolState Row) (position : Nat),
    position < batches.length →
    state.fails (state.issued + position) = true →
    (∀ earlier < position,
      state.fails (state.issued + earlier) = false) →
    ∃ added final, action state = (.error (), final) ∧
      final.rows = state.rows ++ added ∧
      added.map kind = (batches.take position).flatten

variable {kind}

theorem writes_pure (value : Value) :
    Writes kind (pure value : PoolAction Row Value) [] where
  all := fun state _ =>
    ⟨value, [], state.drawn, by simp [pure], rfl⟩
  some := fun _ position below => absurd below (Nat.not_lt_zero position)

theorem writes_draw (value : Nat → Value) :
    Writes kind (draw value : PoolAction Row Value) [] where
  all := fun state _ =>
    ⟨value state.drawn, [], state.drawn + 1, by simp [draw], rfl⟩
  some := fun _ position below => absurd below (Nat.not_lt_zero position)

theorem writes_query (rows : List Row) (answer : List Row → Value) :
    Writes kind (query rows answer) [rows.map kind] where
  all := by
    intro state works
    have first := works 0 Nat.one_pos
    rw [Nat.add_zero] at first
    refine ⟨answer state.rows, rows, state.drawn, ?_, by simp⟩
    simp [query, first]
  some := by
    intro state position below fails _
    have isFirst : position = 0 := by
      simpa using below
    rw [isFirst, Nat.add_zero] at fails
    refine ⟨[], { state with issued := state.issued + 1 }, ?_, by simp, ?_⟩
    · simp [query, fails]
    · rw [isFirst]
      rfl

theorem writes_bind {first : PoolAction Row Value}
    {next : Value → PoolAction Row Result}
    {batches others : List (List Kind)} (writesFirst : Writes kind first batches)
    (writesNext : ∀ value, Writes kind (next value) others) :
    Writes kind (first >>= next) (batches ++ others) where
  all := by
    intro state works
    rw [List.length_append] at works
    obtain ⟨value, added, drawn, ran, kinds⟩ := writesFirst.all state
      fun position below => works position (by omega)
    obtain ⟨result, more, drawnMore, ranNext, kindsNext⟩ :=
      (writesNext value).all
        { state with
          rows := state.rows ++ added
          issued := state.issued + batches.length
          drawn := drawn }
        fun position below => by
          have works := works (batches.length + position) (by omega)
          rwa [← Nat.add_assoc] at works
    refine ⟨result, added ++ more, drawnMore, ?_, ?_⟩
    · rw [bind_apply, ran]
      simp only [ranNext, List.append_assoc, List.length_append,
        Nat.add_assoc]
    · rw [List.map_append, kinds, kindsNext, List.flatten_append]
  some := by
    intro state position below fails earlier
    rw [List.length_append] at below
    by_cases inFirst : position < batches.length
    · obtain ⟨added, final, ran, rows, kinds⟩ :=
        writesFirst.some state position inFirst fails earlier
      refine ⟨added, final, ?_, rows, ?_⟩
      · rw [bind_apply, ran]
      · rw [kinds, List.take_append_of_le_length (by omega)]
    · obtain ⟨value, added, drawn, ran, kinds⟩ := writesFirst.all state
        fun earlierPosition before => earlier earlierPosition (by omega)
      have whole : batches.take position = batches :=
        List.take_of_length_le (by omega)
      have split : position = batches.length + (position - batches.length) := by
        omega
      rw [split, ← Nat.add_assoc] at fails
      obtain ⟨more, final, ranNext, rows, kindsNext⟩ :=
        (writesNext value).some
          { state with
            rows := state.rows ++ added
            issued := state.issued + batches.length
            drawn := drawn }
          (position - batches.length) (by omega) fails
          fun earlierPosition before => by
            have works :=
              earlier (batches.length + earlierPosition) (by omega)
            rwa [← Nat.add_assoc] at works
      refine ⟨added ++ more, final, ?_, ?_, ?_⟩
      · rw [bind_apply, ran]
        exact ranNext
      · rw [rows, List.append_assoc]
      · rw [List.map_append, kinds, kindsNext, List.take_append, whole,
          List.flatten_append]

theorem writes_cons {first : PoolAction Row Value}
    {next : Value → PoolAction Row Result} {batch : List Kind}
    {others : List (List Kind)} (writesFirst : Writes kind first [batch])
    (writesNext : ∀ value, Writes kind (next value) others) :
    Writes kind (first >>= next) (batch :: others) :=
  writes_bind writesFirst writesNext

/-! ## All or nothing -/

theorem exists_first_failure {fails : Nat → Bool} {start count : Nat}
    (failing : ¬∀ position < count, fails (start + position) = false) :
    ∃ position < count, fails (start + position) = true ∧
      ∀ earlier < position, fails (start + earlier) = false := by
  push Not at failing
  have exists_failure : ∃ position, position < count ∧
      fails (start + position) = true := by
    obtain ⟨position, below, fault⟩ := failing
    exact ⟨position, below, by simpa using fault⟩
  obtain ⟨below, fault⟩ := Nat.find_spec exists_failure
  refine ⟨Nat.find exists_failure, below, fault, ?_⟩
  intro earlier before
  have works := Nat.find_min exists_failure before
  simpa [show earlier < count by omega] using works

/-- A failure leaves no rows exactly when it is the first query that fails. -/
theorem rows_eq_of_error_iff {action : PoolAction Row Value}
    {batches : List (List Kind)} (writes : Writes kind action batches)
    (filled : ∀ batch ∈ batches, batch ≠ []) (state : PoolState Row) :
    ((action state).1 = .error () → (action state).2.rows = state.rows) ↔
      (∀ position < batches.length,
        state.fails (state.issued + position) = false) ∨
      state.fails state.issued = true := by
  by_cases works : ∀ position < batches.length,
      state.fails (state.issued + position) = false
  · obtain ⟨value, added, drawn, ran, _⟩ := writes.all state works
    have completed : (action state).1 ≠ .error () := by
      rw [ran]
      exact fun same => nomatch same
    exact ⟨fun _ => Or.inl works, fun _ failed => absurd failed completed⟩
  obtain ⟨position, below, fault, earlier⟩ := exists_first_failure works
  obtain ⟨added, final, ran, rows, kinds⟩ :=
    writes.some state position below fault earlier
  have restored : ((action state).1 = .error () →
      (action state).2.rows = state.rows) ↔ added = [] := by
    rw [ran, rows]
    simp
  rw [restored]
  cases position with
  | zero =>
      have nothing : added = [] := by
        simpa using kinds
      exact ⟨fun _ => Or.inr fault, fun _ => nothing⟩
  | succ position =>
      obtain ⟨batch, rest, shape⟩ :=
        List.exists_cons_of_length_pos (Nat.zero_lt_of_lt below)
      have firstFilled := filled batch (by
        rw [shape]
        exact List.mem_cons_self)
      have firstWorks := earlier 0 (Nat.succ_pos position)
      rw [Nat.add_zero] at firstWorks
      rw [shape, List.take_succ_cons, List.flatten_cons] at kinds
      constructor
      · intro nothing
        rw [nothing, List.map_nil] at kinds
        exact absurd (List.append_eq_nil_iff.mp kinds.symm).1 firstFilled
      · intro harmless
        cases harmless with
        | inl allWork =>
            exact absurd allWork works
        | inr firstFails =>
            rw [firstWorks] at firstFails
            cases firstFails

end Queries

end BidayaxExecutive.Library.AutocommitQueries
