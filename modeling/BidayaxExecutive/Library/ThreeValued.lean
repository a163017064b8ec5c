import Mathlib.Tactic.Common

/-!
# Three-valued logic

A condition on values that may be missing is true, false or unknown, and only a
true one is acted upon.  So a check that rejects what differs accepts what is
missing: for a list of comparisons that the check does not reject, all values
agree exactly when none of them is missing.
-/

namespace BidayaxExecutive.Library.ThreeValued

/-- `none` is unknown. -/
abbrev Truth : Type :=
  Option Bool

namespace Truth

/-- What a condition needs to be acted upon. -/
def Holds (truth : Truth) : Prop :=
  truth = some true

instance (truth : Truth) : Decidable truth.Holds :=
  inferInstanceAs (Decidable (truth = some true))

def either : Truth → Truth → Truth
  | some true, _ => some true
  | _, some true => some true
  | some false, some false => some false
  | _, _ => none

def both : Truth → Truth → Truth
  | some false, _ => some false
  | _, some false => some false
  | some true, some true => some true
  | _, _ => none

def negate (truth : Truth) : Truth :=
  truth.map Bool.not

theorem holds_some {value : Bool} :
    Holds (some value) ↔ value = true := by
  simp [Holds]

@[simp]
theorem both_false (truth : Truth) :
    both truth (some false) = some false := by
  cases truth with
  | none =>
      rfl
  | some value =>
      cases value <;> rfl

@[simp]
theorem holds_both {left right : Truth} :
    (both left right).Holds ↔ left.Holds ∧ right.Holds := by
  unfold Holds
  cases left with
  | none =>
      cases right with
      | none =>
          decide
      | some second =>
          cases second <;> decide
  | some first =>
      cases right with
      | none =>
          cases first <;> decide
      | some second =>
          cases first <;> cases second <;> decide

@[simp]
theorem holds_either {left right : Truth} :
    (either left right).Holds ↔ left.Holds ∨ right.Holds := by
  unfold Holds
  cases left with
  | none =>
      cases right with
      | none =>
          decide
      | some second =>
          cases second <;> decide
  | some first =>
      cases right with
      | none =>
          cases first <;> decide
      | some second =>
          cases first <;> cases second <;> decide

end Truth

section Comparisons

variable {Value : Type*} [DecidableEq Value]

/-- `left <> right`. -/
def differs : Option Value → Option Value → Truth
  | some left, some right => some (left != right)
  | _, _ => none

/-- `left = right`. -/
def agrees : Option Value → Option Value → Truth
  | some left, some right => some (left == right)
  | _, _ => none

/-- The disjunction of the differences. -/
def anyDiffers : List (Option Value × Option Value) → Truth
  | [] => some false
  | (left, right) :: rest => (differs left right).either (anyDiffers rest)

variable {left right : Option Value} {value : Value}
  {pairs : List (Option Value × Option Value)}

theorem holds_agrees :
    (agrees left right).Holds ↔ ∃ value, left = some value ∧
      right = some value := by
  unfold Truth.Holds
  cases left with
  | none =>
      simp [agrees]
  | some first =>
      cases right with
      | none =>
          simp [agrees]
      | some second =>
          simp only [agrees, Option.some.injEq, beq_iff_eq]
          constructor
          · intro same
            exact ⟨first, rfl, same.symm⟩
          · intro common
            rcases common with ⟨value, isFirst, isSecond⟩
            rw [isFirst, isSecond]

@[simp]
theorem holds_agrees_some :
    (agrees left (some value)).Holds ↔ left = some value := by
  rw [holds_agrees]
  simp

/-- A difference that is not found: a side is missing, or both agree. -/
theorem not_holds_differs :
    ¬(differs left right).Holds ↔
      (left.isSome = true → right.isSome = true → left = right) := by
  unfold Truth.Holds
  cases left with
  | none =>
      simp [differs]
  | some first =>
      cases right with
      | none =>
          simp [differs]
      | some second =>
          simp [differs]

theorem not_holds_anyDiffers :
    ¬(anyDiffers pairs).Holds ↔
      ∀ pair ∈ pairs, ¬(differs pair.1 pair.2).Holds := by
  induction pairs with
  | nil =>
      simp [anyDiffers, Truth.Holds]
  | cons pair rest inductionHypothesis =>
      rw [List.forall_mem_cons, ← inductionHypothesis, anyDiffers,
        Truth.holds_either, not_or]

/-- Where no difference is found and one side is there, both agree exactly when
the other side is there too. -/
theorem agree_iff_present (accepted : ¬(anyDiffers pairs).Holds)
    (known : ∀ pair ∈ pairs, pair.2.isSome = true) :
    (∀ pair ∈ pairs, pair.1 = pair.2) ↔
      ∀ pair ∈ pairs, pair.1.isSome = true := by
  constructor
  · intro agree pair member
    rw [agree pair member]
    exact known pair member
  · intro present pair member
    have unrejected := not_holds_anyDiffers.mp accepted pair member
    exact not_holds_differs.mp unrejected (present pair member)
      (known pair member)

end Comparisons

end BidayaxExecutive.Library.ThreeValued
