import Mathlib.Tactic.Common

/-!
# Guarded computations

A computation in `Except` that checks its input throws at the first check that
fails.  It succeeds exactly when no check fails and the rest succeeds, for
every type of errors.
-/

namespace BidayaxExecutive.Library.Guards

theorem bind_eq_ok {ε α β : Type _} {first : Except ε α}
    {next : α → Except ε β} {result : β} :
    (first >>= next) = .ok result ↔
      ∃ value, first = .ok value ∧ next value = .ok result := by
  cases first with
  | error failure =>
      simp [bind, Except.bind]
  | ok value =>
      simp [bind, Except.bind]

/-- `if failing then throw failure`, and then the rest. -/
@[simp]
theorem guard_eq_ok {ε : Type _} {α : Type} {failing : Prop}
    [Decidable failing] {failure : ε} {next : PUnit → Except ε α}
    {result : α} :
    (if failing then (throw failure : Except ε PUnit) >>= next
      else next ⟨⟩) = .ok result ↔
      ¬failing ∧ next ⟨⟩ = .ok result := by
  by_cases holds : failing
  · simp [holds, throw, throwThe, MonadExceptOf.throw, bind, Except.bind]
  · simp [holds]

/-- A check with nothing after it. -/
@[simp]
theorem lastGuard_eq_ok {ε : Type _} {failing : Prop} [Decidable failing]
    {failure : ε} {result : PUnit} :
    (if failing then (throw failure : Except ε PUnit)
      else pure ⟨⟩) = .ok result ↔ ¬failing := by
  by_cases holds : failing
  · simp [holds, throw, throwThe, MonadExceptOf.throw]
  · simp [holds, pure, Except.pure]

@[simp]
theorem throw_ne_ok {ε α : Type _} {failure : ε} {result : α} :
    (throw failure : Except ε α) ≠ .ok result := by
  simp [throw, throwThe, MonadExceptOf.throw]

theorem toOption_eq_some {ε α : Type _} {outcome : Except ε α} {result : α} :
    outcome.toOption = some result ↔ outcome = .ok result := by
  cases outcome <;> simp [Except.toOption]

theorem isOk_iff {ε α : Type _} {outcome : Except ε α} :
    outcome.isOk = true ↔ ∃ result, outcome = .ok result := by
  cases outcome with
  | error failure =>
      simp [Except.isOk, Except.toBool]
  | ok result =>
      simp [Except.isOk, Except.toBool]

/-- A loop of checks succeeds when every check does. -/
theorem forM_eq_ok {ε α : Type _} {check : α → Except ε PUnit}
    {items : List α} :
    items.forM check = .ok ⟨⟩ ↔ ∀ item ∈ items, check item = .ok ⟨⟩ := by
  induction items with
  | nil =>
      simp [pure, Except.pure]
  | cons item rest inductionHypothesis =>
      change (check item >>= fun _ => rest.forM check) = .ok ⟨⟩ ↔ _
      rw [bind_eq_ok, List.forall_mem_cons, ← inductionHypothesis]
      constructor
      · intro checked
        rcases checked with ⟨_, first, others⟩
        exact ⟨first, others⟩
      · intro checked
        exact ⟨⟨⟩, checked⟩

/-- Items that are each replaced by a known one. -/
theorem eq_map_of_mapM {ε α β : Type _} {replace : α → Except ε β}
    {known : α → β} {items : List α} {results : List β}
    (replaced : ∀ item result, replace item = .ok result →
      result = known item)
    (mapped : items.mapM replace = .ok results) :
    results = items.map known := by
  induction items generalizing results with
  | nil =>
      rw [List.mapM_nil] at mapped
      exact (Except.ok.inj mapped).symm
  | cons item rest inductionHypothesis =>
      rw [List.mapM_cons] at mapped
      rcases bind_eq_ok.mp mapped with ⟨first, isFirst, mappedRest⟩
      rcases bind_eq_ok.mp mappedRest with ⟨others, areOthers, same⟩
      rw [← Except.ok.inj same, List.map_cons, replaced item first isFirst,
        inductionHypothesis areOthers]

end BidayaxExecutive.Library.Guards
