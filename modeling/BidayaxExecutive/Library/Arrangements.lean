import Mathlib.Data.List.Basic
import Mathlib.Data.List.Perm.Basic
import Mathlib.Logic.Nontrivial.Basic

/-!
# Names spelled with their values

Every name is followed by its value, with nothing in between.  For all values
the text of an arrangement of names tells the arrangement.  For given values it
does when no name comes before a shorter one that it starts with.
-/

namespace BidayaxExecutive.Library.Arrangements

variable {α : Type*}

def spell (value : List α → List α) (names : List (List α)) : List α :=
  names.flatMap fun name => name ++ value name

/-- No name comes before one that it starts with. -/
def ShorterFirst (names : List (List α)) : Prop :=
  names.Pairwise fun earlier later => ¬later <+: earlier

variable {left right : List (List α)}

theorem isPrefix_or_isPrefix_of_append_eq
    {first second rest others : List α}
    (same : first ++ rest = second ++ others) :
    first <+: second ∨ second <+: first := by
  cases List.append_eq_append_iff.mp same with
  | inl longer =>
      obtain ⟨between, sameSecond, _⟩ := longer
      exact .inl ⟨between, sameSecond.symm⟩
  | inr shorter =>
      obtain ⟨between, sameFirst, _⟩ := shorter
      exact .inr ⟨between, sameFirst.symm⟩

/-- A longer name cannot go on like every value of a shorter one. -/
theorem eq_of_isPrefix_of_forall_mark [Nontrivial α] {name longer : List α}
    (starts : name <+: longer)
    (same : ∀ mark, ∃ rest others,
      name ++ mark :: rest = longer ++ others) : name = longer := by
  obtain ⟨between, whole⟩ := starts
  cases between with
  | nil =>
      rw [← whole, List.append_nil]
  | cons unit later =>
      obtain ⟨mark, differs⟩ := exists_ne unit
      obtain ⟨rest, others, sameText⟩ := same mark
      rw [← whole, List.append_assoc] at sameText
      have sameUnit := (List.cons.inj (List.append_cancel_left sameText)).1
      exact absurd sameUnit differs

theorem eq_of_forall_mark [Nontrivial α] {name other : List α}
    (same : ∀ mark, ∃ rest others,
      name ++ mark :: rest = other ++ mark :: others) : name = other := by
  obtain ⟨unit, _, _⟩ := exists_pair_ne α
  obtain ⟨rest, others, sameText⟩ := same unit
  cases isPrefix_or_isPrefix_of_append_eq sameText with
  | inl nameStarts =>
      apply eq_of_isPrefix_of_forall_mark nameStarts
      intro mark
      obtain ⟨rest, others, sameText⟩ := same mark
      exact ⟨rest, mark :: others, sameText⟩
  | inr otherStarts =>
      apply Eq.symm
      apply eq_of_isPrefix_of_forall_mark otherStarts
      intro mark
      obtain ⟨rest, others, sameText⟩ := same mark
      exact ⟨others, mark :: rest, sameText.symm⟩

/-- Different arrangements are told apart by some values, by the ones that are
a single unit even. -/
theorem eq_of_forall_spell_eq [Nontrivial α]
    (same : ∀ mark, spell (fun _ => [mark]) left =
      spell (fun _ => [mark]) right) : left = right := by
  induction left generalizing right with
  | nil =>
      cases right with
      | nil =>
          rfl
      | cons other rightRest =>
          obtain ⟨unit, _, _⟩ := exists_pair_ne α
          have length := congrArg List.length (same unit)
          simp [spell] at length
  | cons name leftRest inductionHypothesis =>
      cases right with
      | nil =>
          obtain ⟨unit, _, _⟩ := exists_pair_ne α
          have length := congrArg List.length (same unit)
          simp [spell] at length
      | cons other rightRest =>
          have sameText : ∀ mark,
              name ++ mark :: spell (fun _ => [mark]) leftRest =
                other ++ mark :: spell (fun _ => [mark]) rightRest := by
            intro mark
            have whole := same mark
            unfold spell at whole
            rw [List.flatMap_cons, List.flatMap_cons, List.append_assoc,
              List.append_assoc] at whole
            exact whole
          have sameName : name = other :=
            eq_of_forall_mark fun mark => ⟨_, _, sameText mark⟩
          have sameRest : leftRest = rightRest := by
            apply inductionHypothesis
            intro mark
            have afterName := sameText mark
            rw [sameName] at afterName
            exact (List.cons.inj (List.append_cancel_left afterName)).2
          rw [sameName, sameRest]

/-- Arrangements of the same names with the shorter ones first are told apart
by all values. -/
theorem eq_of_spell_eq (value : List α → List α)
    (permutation : left.Perm right) (leftFirst : ShorterFirst left)
    (rightFirst : ShorterFirst right)
    (same : spell value left = spell value right) : left = right := by
  induction left generalizing right with
  | nil =>
      exact permutation.nil_eq
  | cons name leftRest inductionHypothesis =>
      cases right with
      | nil =>
          exact absurd permutation.length_eq (by simp)
      | cons other rightRest =>
          obtain ⟨nameFirst, leftLater⟩ := List.pairwise_cons.mp leftFirst
          obtain ⟨otherFirst, rightLater⟩ := List.pairwise_cons.mp rightFirst
          unfold spell at same
          rw [List.flatMap_cons, List.flatMap_cons] at same
          by_cases sameName : name = other
          · rw [sameName] at permutation same
            have sameRest := List.append_cancel_left same
            rw [sameName, inductionHypothesis permutation.cons_inv leftLater
              rightLater sameRest]
          · have otherLater : other ∈ leftRest :=
              List.mem_of_ne_of_mem (Ne.symm sameName)
                (permutation.mem_iff.mpr List.mem_cons_self)
            have nameLater : name ∈ rightRest :=
              List.mem_of_ne_of_mem sameName
                (permutation.mem_iff.mp List.mem_cons_self)
            rw [List.append_assoc, List.append_assoc] at same
            cases isPrefix_or_isPrefix_of_append_eq same with
            | inl nameStarts =>
                exact absurd nameStarts (otherFirst name nameLater)
            | inr otherStarts =>
                exact absurd otherStarts (nameFirst other otherLater)

end BidayaxExecutive.Library.Arrangements
