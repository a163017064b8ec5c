import Mathlib.Algebra.BigOperators.Group.List.Basic
import Mathlib.Algebra.Order.Archimedean.Basic
import Mathlib.Algebra.Order.BigOperators.Group.List
import Mathlib.Algebra.Order.Field.Basic
import Mathlib.Tactic.FieldSimp
import Mathlib.Tactic.Linarith
import Mathlib.Tactic.Ring

/-!
# Averages of lists with repetitions

An average lies strictly between the least and the greatest of the values
unless they are all equal, and repeating one of the values moves it past every
point in between.
-/

namespace BidayaxExecutive.Library

section Averages

variable {K : Type} [Field K] [LinearOrder K] [IsStrictOrderedRing K]

def average (values : List K) : K :=
  values.sum / values.length

/-- Strictly between two of the values, or equal to all of them. -/
def Amid (values : List K) (point : K) : Prop :=
  ((∃ value ∈ values, value < point) ∧ ∃ value ∈ values, point < value) ∨
    ∀ value ∈ values, value = point

omit [Field K] [IsStrictOrderedRing K] in
theorem Amid.of_mem {values others : List K} {point : K}
    (amid : Amid values point)
    (same : ∀ value, value ∈ values ↔ value ∈ others) :
    Amid others point := by
  simpa only [Amid, same] using amid

theorem length_pos_of_ne_nil {values : List K} (filled : values ≠ []) :
    (0 : K) < values.length := by
  exact_mod_cast List.length_pos_iff.mpr filled

theorem le_average {values : List K} {least : K} (filled : values ≠ [])
    (below : ∀ value ∈ values, least ≤ value) : least ≤ average values := by
  have total := List.card_nsmul_le_sum values least below
  rw [average, le_div_iff₀ (length_pos_of_ne_nil filled), mul_comm]
  rwa [nsmul_eq_mul] at total

theorem average_le {values : List K} {greatest : K} (filled : values ≠ [])
    (above : ∀ value ∈ values, value ≤ greatest) :
    average values ≤ greatest := by
  have total := List.sum_le_card_nsmul values greatest above
  rw [average, div_le_iff₀ (length_pos_of_ne_nil filled), mul_comm]
  rwa [nsmul_eq_mul] at total

theorem lt_average {values : List K} {least : K}
    (below : ∀ value ∈ values, least ≤ value)
    (above : ∃ value ∈ values, least < value) : least < average values := by
  have filled : values ≠ [] := by
    obtain ⟨value, member, _⟩ := above
    exact List.ne_nil_of_mem member
  have total := List.sum_lt_sum (fun _ => least) id below above
  rw [List.map_id, List.map_const', List.sum_replicate, nsmul_eq_mul] at total
  rwa [average, lt_div_iff₀ (length_pos_of_ne_nil filled), mul_comm]

theorem average_lt {values : List K} {greatest : K}
    (above : ∀ value ∈ values, value ≤ greatest)
    (below : ∃ value ∈ values, value < greatest) :
    average values < greatest := by
  have filled : values ≠ [] := by
    obtain ⟨value, member, _⟩ := below
    exact List.ne_nil_of_mem member
  have total := List.sum_lt_sum id (fun _ => greatest) above below
  rw [List.map_id, List.map_const', List.sum_replicate, nsmul_eq_mul] at total
  rwa [average, div_lt_iff₀ (length_pos_of_ne_nil filled), mul_comm]

theorem amid_average (values : List K) :
    Amid values (average values) := by
  by_cases same : ∀ value ∈ values, value = average values
  · exact Or.inr same
  · push Not at same
    obtain ⟨value, member, different⟩ := same
    left
    constructor
    · by_contra noneBelow
      push Not at noneBelow
      have strict := lt_average noneBelow
        ⟨value, member, lt_of_le_of_ne (noneBelow value member)
          different.symm⟩
      exact lt_irrefl _ strict
    · by_contra noneAbove
      push Not at noneAbove
      have strict := average_lt noneAbove
        ⟨value, member, lt_of_le_of_ne (noneAbove value member) different⟩
      exact lt_irrefl _ strict

/-! ## Repetition -/

omit [LinearOrder K] [IsStrictOrderedRing K] in
theorem average_append_replicate (values : List K) (value : K)
    (times : Nat) :
    average (values ++ List.replicate times value) =
      (values.sum + times * value) / (values.length + times) := by
  rw [average, List.sum_append, List.sum_replicate, nsmul_eq_mul,
    List.length_append, List.length_replicate, Nat.cast_add]

variable [Archimedean K]

theorem exists_average_le {values : List K} {point : K} (filled : values ≠ [])
    (amid : Amid values point) :
    ∃ value ∈ values, ∃ times : Nat,
      average (values ++ List.replicate times value) ≤ point := by
  cases amid with
  | inl between =>
      obtain ⟨⟨value, member, below⟩, _⟩ := between
      obtain ⟨times, enough⟩ := exists_nat_ge
        ((values.sum - point * values.length) / (point - value))
      refine ⟨value, member, times, ?_⟩
      rw [div_le_iff₀ (sub_pos.mpr below)] at enough
      have size := length_pos_of_ne_nil filled
      rw [average_append_replicate, div_le_iff₀ (by positivity)]
      linarith
  | inr same =>
      obtain ⟨value, member⟩ := List.exists_mem_of_ne_nil values filled
      refine ⟨value, member, 0, ?_⟩
      rw [List.replicate_zero, List.append_nil]
      exact average_le filled fun other inside => (same other inside).le

theorem exists_le_average {values : List K} {point : K} (filled : values ≠ [])
    (amid : Amid values point) :
    ∃ value ∈ values, ∃ times : Nat,
      point ≤ average (values ++ List.replicate times value) := by
  cases amid with
  | inl between =>
      obtain ⟨_, value, member, above⟩ := between
      obtain ⟨times, enough⟩ := exists_nat_ge
        ((point * values.length - values.sum) / (value - point))
      refine ⟨value, member, times, ?_⟩
      rw [div_le_iff₀ (sub_pos.mpr above)] at enough
      have size := length_pos_of_ne_nil filled
      rw [average_append_replicate, le_div_iff₀ (by positivity)]
      linarith
  | inr same =>
      obtain ⟨value, member⟩ := List.exists_mem_of_ne_nil values filled
      refine ⟨value, member, 0, ?_⟩
      rw [List.replicate_zero, List.append_nil]
      exact le_average filled fun other inside => (same other inside).ge

end Averages

end BidayaxExecutive.Library
