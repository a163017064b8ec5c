import Mathlib.Data.List.Basic
import Mathlib.Data.List.TakeWhile

/-!
# Texts joined with a separator

Parts joined with a separator can be read back from the left as long as the
parts before the separator do not contain it, and from the right as long as
the parts behind it do not.
-/

namespace BidayaxExecutive.Library.Separator

variable {α : Type*} {separator : α} {left right rest others : List α}

/-- The first separator ends the first part. -/
theorem split_eq (leftPlain : separator ∉ left)
    (rightPlain : separator ∉ right)
    (same : left ++ separator :: rest = right ++ separator :: others) :
    left = right ∧ rest = others := by
  induction left generalizing right with
  | nil =>
      cases right with
      | nil =>
          exact ⟨rfl, (List.cons.inj same).2⟩
      | cons unit right =>
          have head : separator = unit := (List.cons.inj same).1
          exact absurd (head ▸ List.mem_cons_self) rightPlain
  | cons first left inductionHypothesis =>
      cases right with
      | nil =>
          have head : first = separator := (List.cons.inj same).1
          exact absurd (head ▸ List.mem_cons_self) leftPlain
      | cons unit right =>
          rcases List.cons.inj same with ⟨head, tail⟩
          rcases inductionHypothesis
              (fun member => leftPlain (List.mem_cons_of_mem _ member))
              (fun member => rightPlain (List.mem_cons_of_mem _ member)) tail
            with ⟨sameParts, sameRest⟩
          exact ⟨by rw [head, sameParts], sameRest⟩

/-- The last separator starts the last part. -/
theorem split_last_eq (restPlain : separator ∉ rest)
    (othersPlain : separator ∉ others)
    (same : left ++ separator :: rest = right ++ separator :: others) :
    left = right ∧ rest = others := by
  have reversed := congrArg List.reverse same
  simp only [List.reverse_append, List.reverse_cons, List.append_assoc,
    List.singleton_append] at reversed
  rcases split_eq (fun member => restPlain (List.mem_reverse.mp member))
      (fun member => othersPlain (List.mem_reverse.mp member)) reversed
    with ⟨sameLast, sameFirst⟩
  exact ⟨List.reverse_injective sameFirst, List.reverse_injective sameLast⟩

/-- The test under which a part without separators is taken up to the next
one. -/
theorem forall_bne_of_not_mem [BEq α] [LawfulBEq α]
    (plain : separator ∉ left) : ∀ unit ∈ left, (unit != separator) = true := by
  intro unit member
  rw [bne_iff_ne]
  intro same
  exact plain (same ▸ member)

theorem split_of_isPrefix (leftPlain : separator ∉ left)
    (rightPlain : separator ∉ right)
    (starts : left ++ separator :: rest <+: right ++ separator :: others) :
    left = right ∧ rest <+: others := by
  rcases starts with ⟨remainder, whole⟩
  rw [List.append_assoc, List.cons_append] at whole
  rcases split_eq leftPlain rightPlain whole with ⟨sameParts, sameRest⟩
  exact ⟨sameParts, remainder, sameRest⟩

/-- A run of units of a class ends where a unit of another class starts. -/
theorem run_eq {test : α → Bool} (leftRun : ∀ unit ∈ left, test unit = true)
    (rightRun : ∀ unit ∈ right, test unit = true)
    (restEnds : ∀ unit later, rest = unit :: later → test unit = false)
    (othersEnd : ∀ unit later, others = unit :: later → test unit = false)
    (same : left ++ rest = right ++ others) : left = right ∧ rest = others := by
  induction left generalizing right with
  | nil =>
      cases right with
      | nil =>
          exact ⟨rfl, same⟩
      | cons unit right =>
          have ends := restEnds unit (right ++ others) same
          rw [rightRun unit List.mem_cons_self] at ends
          exact nomatch ends
  | cons first left inductionHypothesis =>
      cases right with
      | nil =>
          have ends := othersEnd first (left ++ rest) same.symm
          rw [leftRun first List.mem_cons_self] at ends
          exact nomatch ends
      | cons unit right =>
          obtain ⟨head, tail⟩ := List.cons.inj same
          obtain ⟨sameRun, sameRest⟩ := inductionHypothesis
            (fun unit member => leftRun unit (List.mem_cons_of_mem _ member))
            (fun unit member => rightRun unit (List.mem_cons_of_mem _ member))
            tail
          exact ⟨by rw [head, sameRun], sameRest⟩

/-! ## Separators of several units -/

section Marked

variable {tail : List α} {pairs : List (List α × List α)}

/-- A separator that has its first unit nowhere else cannot overlap itself, so
two joined pairs are the same text only if one of the left parts holds a
separator of the other text. -/
theorem joined_eq_cases (plain : separator ∉ tail)
    (same : left ++ (separator :: tail ++ rest) =
      right ++ (separator :: tail ++ others)) :
    (left = right ∧ rest = others) ∨
      (∃ between, left = right ++ (separator :: tail ++ between) ∧
        others = between ++ (separator :: tail ++ rest)) ∨
      ∃ between, right = left ++ (separator :: tail ++ between) ∧
        rest = between ++ (separator :: tail ++ others) := by
  have inside : ∀ {gap front behind : List α},
      separator :: tail ++ front = gap ++ (separator :: tail ++ behind) →
        (gap = [] ∧ front = behind) ∨ ∃ between,
          gap = separator :: tail ++ between ∧
            front = between ++ (separator :: tail ++ behind) := by
    intro gap front behind overlap
    cases gap with
    | nil =>
        exact .inl ⟨rfl, List.append_cancel_left overlap⟩
    | cons unit gap =>
        cases List.append_eq_append_iff.mp overlap with
        | inl longer =>
            obtain ⟨between, sameGap, sameFront⟩ := longer
            exact .inr ⟨between, sameGap, sameFront⟩
        | inr shorter =>
            obtain ⟨cut, sameSeparator, sameBehind⟩ := shorter
            cases cut with
            | nil =>
                rw [List.append_nil] at sameSeparator
                rw [List.nil_append] at sameBehind
                exact .inr ⟨[], by rw [sameSeparator, List.append_nil],
                  sameBehind.symm⟩
            | cons first cut =>
                have isSeparator : separator = first :=
                  (List.cons.inj sameBehind).1
                have inTail : first ∈ tail := by
                  rw [(List.cons.inj sameSeparator).2]
                  exact List.mem_append_right _ List.mem_cons_self
                exact absurd (isSeparator ▸ inTail) plain
  cases List.append_eq_append_iff.mp same with
  | inl rightLonger =>
      obtain ⟨gap, sameRight, overlap⟩ := rightLonger
      cases inside overlap with
      | inl empty =>
          exact .inl ⟨by rw [sameRight, empty.1, List.append_nil], empty.2⟩
      | inr apart =>
          obtain ⟨between, sameGap, sameRest⟩ := apart
          exact .inr (.inr ⟨between, by rw [sameRight, sameGap], sameRest⟩)
  | inr leftLonger =>
      obtain ⟨gap, sameLeft, overlap⟩ := leftLonger
      cases inside overlap with
      | inl empty =>
          exact .inl ⟨by rw [sameLeft, empty.1, List.append_nil],
            empty.2.symm⟩
      | inr apart =>
          obtain ⟨between, sameGap, sameOthers⟩ := apart
          exact .inr (.inl ⟨between, by rw [sameLeft, sameGap], sameOthers⟩)

/-- One left part goes on with the separator and a text that the right part of
the other pair starts with, up to the separator. -/
def Ambiguous (separators : List α) (pairs : List (List α × List α)) : Prop :=
  ∃ outer ∈ pairs, ∃ inner ∈ pairs, ∃ between,
    outer.1 = inner.1 ++ (separators ++ between) ∧
      inner.2 = between ++ (separators ++ outer.2)

/-- Joining distinguishes the pairs exactly when they are not ambiguous. -/
theorem joined_injOn_iff (plain : separator ∉ tail) :
    (∀ first ∈ pairs, ∀ second ∈ pairs,
      first.1 ++ (separator :: tail ++ first.2) =
          second.1 ++ (separator :: tail ++ second.2) →
        first = second) ↔
      ¬Ambiguous (separator :: tail) pairs := by
  constructor
  · intro injective ambiguous
    obtain ⟨outer, outerMember, inner, innerMember, between, sameLeft,
      sameRight⟩ := ambiguous
    have same := injective outer outerMember inner innerMember
      (by rw [sameLeft, sameRight, List.append_assoc, List.append_assoc])
    rw [same] at sameLeft
    have length := congrArg List.length sameLeft
    simp at length
  · intro distinct first firstMember second secondMember same
    cases joined_eq_cases plain same with
    | inl equal =>
        exact Prod.ext equal.1 equal.2
    | inr apart =>
        cases apart with
        | inl firstOuter =>
            obtain ⟨between, sameLeft, sameRight⟩ := firstOuter
            exact absurd ⟨first, firstMember, second, secondMember, between,
              sameLeft, sameRight⟩ distinct
        | inr secondOuter =>
            obtain ⟨between, sameLeft, sameRight⟩ := secondOuter
            exact absurd ⟨second, secondMember, first, firstMember, between,
              sameLeft, sameRight⟩ distinct

theorem not_ambiguous_of_plain {unit : α} {separators : List α}
    (marks : unit ∈ separators) (plain : ∀ pair ∈ pairs, unit ∉ pair.2) :
    ¬Ambiguous separators pairs := by
  intro ambiguous
  obtain ⟨outer, _, inner, innerMember, between, _, sameRight⟩ := ambiguous
  apply plain inner innerMember
  rw [sameRight]
  exact List.mem_append_right _ (List.mem_append_left _ marks)

end Marked

section Split

variable [BEq α] [LawfulBEq α]

/-- A split text is the part before the first separator and what the part
behind it is split into. -/
theorem splitOn_eq_cons (separator : α) (text : List α) :
    ∃ parts, text.splitOn separator =
        (text.takeWhile (· != separator)) :: parts ∧
      [separator].intercalate parts =
        (text.dropWhile (· != separator)).drop 1 := by
  have whole : text.takeWhile (· != separator) ++
      text.dropWhile (· != separator) = text :=
    List.takeWhile_append_dropWhile
  have plain : separator ∉ text.takeWhile (· != separator) := by
    intro member
    have differs := List.mem_takeWhile_imp member
    rw [bne_self_eq_false] at differs
    exact nomatch differs
  cases behind : text.dropWhile (· != separator) with
  | nil =>
      rw [behind, List.append_nil] at whole
      rw [whole] at plain ⊢
      exact ⟨[], List.splitOn_eq_singleton plain, rfl⟩
  | cons first later =>
      have isSeparator : first = separator := by
        have stops := List.head?_dropWhile_not (· != separator) text
        rw [behind] at stops
        simpa using stops
      rw [behind, isSeparator] at whole
      refine ⟨later.splitOn separator, ?_, List.intercalate_splitOn separator⟩
      rw [← whole, List.splitOn_append_cons_self_of_not_mem plain, whole]

end Split

end BidayaxExecutive.Library.Separator
