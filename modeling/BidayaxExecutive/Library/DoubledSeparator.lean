import Mathlib.Data.List.Infix
import Mathlib.Tactic.Common

/-!
# Texts joined with a doubled separator

A text is split at the leftmost occurrences of two separators in a row.  A part
in front of a doubled separator is read back as it was joined exactly when it
holds no doubled separator and does not end with a single one.
-/

namespace BidayaxExecutive.Library.DoubledSeparator

variable {α : Type*} (separator : α)

/-- No doubled separator. -/
def Plain (part : List α) : Prop :=
  ¬[separator, separator] <:+: part

/-- No doubled separator, not even with one more separator behind. -/
def Clean (part : List α) : Prop :=
  Plain separator (part ++ [separator])

variable {separator} {first second : α} {part rest : List α}

theorem Clean.plain (clean : Clean separator part) : Plain separator part := by
  intro doubled
  exact clean (doubled.trans (List.prefix_append part [separator]).isInfix)

theorem plain_cons_iff :
    Plain separator (first :: second :: rest) ↔
      ¬(first = separator ∧ second = separator) ∧
        Plain separator (second :: rest) := by
  unfold Plain
  rw [List.infix_cons_iff, not_or]
  apply and_congr_left'
  rw [List.cons_prefix_cons, List.cons_prefix_cons]
  constructor
  · intro notDoubled both
    exact notDoubled ⟨both.1.symm, both.2.symm, List.nil_prefix⟩
  · intro notBoth doubled
    exact notBoth ⟨doubled.1.symm, doubled.2.1.symm⟩

theorem plain_singleton : Plain separator [first] := by
  intro doubled
  have length := doubled.length_le
  simp at length

variable [DecidableEq α]

instance (separator : α) (part : List α) : Decidable (Plain separator part) :=
  inferInstanceAs (Decidable (¬_))

instance (separator : α) (part : List α) : Decidable (Clean separator part) :=
  inferInstanceAs (Decidable (Plain separator (part ++ [separator])))

def split (separator : α) : List α → List (List α)
  | [] => [[]]
  | [unit] => [[unit]]
  | first :: second :: rest =>
      if first = separator ∧ second = separator then
        [] :: split separator rest
      else (split separator (second :: rest)).modifyHead (first :: ·)

/-! ## Splitting what was joined -/

theorem split_of_not_doubled
    (single : ¬(first = separator ∧ second = separator)) :
    split separator (first :: second :: rest) =
      (split separator (second :: rest)).modifyHead (first :: ·) := by
  rw [split, if_neg single]

theorem split_append (clean : Clean separator part) :
    split separator (part ++ separator :: separator :: rest) =
      part :: split separator rest := by
  induction part with
  | nil =>
      rw [List.nil_append, split, if_pos ⟨rfl, rfl⟩]
  | cons first tail inductionHypothesis =>
      cases tail with
      | nil =>
          have single := (plain_cons_iff.mp clean).1
          have later := inductionHypothesis plain_singleton
          rw [List.nil_append] at later
          rw [List.singleton_append, split_of_not_doubled single, later]
          rfl
      | cons second tail =>
          obtain ⟨single, tailClean⟩ := plain_cons_iff.mp clean
          have later := inductionHypothesis tailClean
          rw [List.cons_append] at later
          rw [List.cons_append, List.cons_append,
            split_of_not_doubled single, later]
          rfl

theorem split_of_plain (plain : Plain separator part) :
    split separator part = [part] := by
  induction part with
  | nil =>
      rfl
  | cons first tail inductionHypothesis =>
      cases tail with
      | nil =>
          rfl
      | cons second tail =>
          obtain ⟨single, tailPlain⟩ := plain_cons_iff.mp plain
          rw [split_of_not_doubled single, inductionHypothesis tailPlain]
          rfl

/-! ## The parts -/

theorem split_head {head : List α} {others : List (List α)}
    (parts : split separator (second :: rest) = head :: others) :
    (head = [] ∧ second = separator) ∨ ∃ tail, head = second :: tail := by
  cases rest with
  | nil =>
      exact .inr ⟨[], (List.cons.inj parts).1.symm⟩
  | cons third rest =>
      by_cases doubled : second = separator ∧ third = separator
      · rw [split, if_pos doubled] at parts
        exact .inl ⟨(List.cons.inj parts).1.symm, doubled.1⟩
      · rw [split_of_not_doubled doubled] at parts
        cases inner : split separator (third :: rest) with
        | nil =>
            rw [inner] at parts
            exact nomatch parts
        | cons innerHead innerOthers =>
            rw [inner] at parts
            exact .inr ⟨innerHead, (List.cons.inj parts).1.symm⟩

/-- A unit in front of the head of what it is not doubled with. -/
theorem plain_cons_of_split {head behind : List α} {others : List (List α)}
    (single : ¬(first = separator ∧ second = separator))
    (parts : split separator (second :: rest) = head :: others)
    (plain : Plain separator (head ++ behind))
    (starts : behind = [] ∨ behind = [separator]) :
    Plain separator ((first :: head) ++ behind) := by
  cases split_head parts with
  | inl empty =>
      obtain ⟨noHead, isSeparator⟩ := empty
      rw [noHead]
      cases starts with
      | inl nothing =>
          rw [nothing]
          exact plain_singleton
      | inr one =>
          rw [one]
          apply plain_cons_iff.mpr
          refine ⟨?_, plain_singleton⟩
          intro both
          exact single ⟨both.1, isSeparator⟩
  | inr longer =>
      obtain ⟨tail, same⟩ := longer
      rw [same] at plain ⊢
      exact plain_cons_iff.mpr ⟨single, plain⟩

/-- The parts in front of a doubled separator are clean, the last is plain. -/
theorem split_parts (separator : α) (text : List α) :
    ∃ init last, split separator text = init ++ [last] ∧
      (∀ part ∈ init, Clean separator part) ∧ Plain separator last := by
  induction text using split.induct separator with
  | case1 =>
      exact ⟨[], [], rfl, nofun, by
        intro doubled
        have length := doubled.length_le
        simp at length⟩
  | case2 unit =>
      exact ⟨[], [unit], rfl, nofun, plain_singleton⟩
  | case3 first second rest doubled inductionHypothesis =>
      obtain ⟨init, last, parts, clean, plain⟩ := inductionHypothesis
      refine ⟨[] :: init, last, ?_, ?_, plain⟩
      · rw [split, if_pos doubled, parts]
        rfl
      · exact List.forall_mem_cons.mpr ⟨plain_singleton, clean⟩
  | case4 first second rest single inductionHypothesis =>
      obtain ⟨init, last, parts, clean, plain⟩ := inductionHypothesis
      rw [split_of_not_doubled single, parts]
      cases init with
      | nil =>
          rw [List.nil_append] at parts
          have grown := plain_cons_of_split single parts
            (by rw [List.append_nil]; exact plain) (.inl rfl)
          rw [List.append_nil] at grown
          exact ⟨[], first :: last, rfl, nofun, grown⟩
      | cons head init =>
          obtain ⟨headClean, initClean⟩ := List.forall_mem_cons.mp clean
          have grown := plain_cons_of_split single parts headClean (.inr rfl)
          exact ⟨(first :: head) :: init, last, rfl,
            List.forall_mem_cons.mpr ⟨grown, initClean⟩, plain⟩

/-! ## The number of parts -/

theorem length_split_cons (text : List α) :
    ∀ first, (split separator text).length ≤
        (split separator (first :: text)).length ∧
      (split separator (first :: text)).length ≤
        (split separator text).length + 1 := by
  induction text with
  | nil =>
      intro first
      exact ⟨le_rfl, Nat.le_succ 1⟩
  | cons second rest inductionHypothesis =>
      intro first
      have bounds := inductionHypothesis second
      by_cases doubled : first = separator ∧ second = separator
      · rw [split, if_pos doubled, List.length_cons]
        omega
      · rw [split_of_not_doubled doubled, List.length_modifyHead]
        omega

/-- A doubled separator in front of a text makes one more part, at least. -/
theorem length_split_append (separator : α) (front text : List α) :
    (split separator text).length + 1 ≤
      (split separator (front ++ separator :: separator :: text)).length := by
  induction front using split.induct separator with
  | case1 =>
      rw [List.nil_append, split, if_pos ⟨rfl, rfl⟩]
      exact le_rfl
  | case2 unit =>
      have doubled : split separator (separator :: separator :: text) =
          [] :: split separator text := by
        rw [split, if_pos ⟨rfl, rfl⟩]
      calc (split separator text).length + 1
          = (split separator (separator :: separator :: text)).length := by
            rw [doubled, List.length_cons]
        _ ≤ (split separator (unit :: separator :: separator :: text)).length :=
            (length_split_cons _ unit).1
  | case3 first second rest doubled inductionHypothesis =>
      rw [List.cons_append, List.cons_append, split, if_pos doubled,
        List.length_cons]
      omega
  | case4 first second rest single inductionHypothesis =>
      rw [List.cons_append, List.cons_append, split_of_not_doubled single,
        List.length_modifyHead]
      exact inductionHypothesis

/-! ## Three parts -/

variable {left middle right : List α}

theorem split_three_of_clean (leftClean : Clean separator left)
    (middleClean : Clean separator middle) (rightPlain : Plain separator right) :
    split separator (left ++ separator :: separator ::
        (middle ++ separator :: separator :: right)) =
      [left, middle, right] := by
  rw [split_append leftClean, split_append middleClean,
    split_of_plain rightPlain]

/-- Three joined parts are split into three at least, and the first three could
be joined and split again. -/
theorem split_three (separator : α) (left middle right : List α) :
    ∃ a b c others,
      split separator (left ++ separator :: separator ::
          (middle ++ separator :: separator :: right)) =
        a :: b :: c :: others ∧
      Clean separator a ∧ Clean separator b ∧ Plain separator c := by
  have outer := length_split_append separator left
    (middle ++ separator :: separator :: right)
  have inner := length_split_append separator middle right
  obtain ⟨rightInit, rightLast, rightParts, _⟩ := split_parts separator right
  obtain ⟨init, last, parts, clean, plain⟩ := split_parts separator
    (left ++ separator :: separator ::
      (middle ++ separator :: separator :: right))
  have long : 2 ≤ init.length := by
    rw [parts, List.length_append, List.length_singleton] at outer
    rw [rightParts, List.length_append, List.length_singleton] at inner
    omega
  match init with
  | [] =>
      simp at long
  | [_] =>
      simp at long
  | [a, b] =>
      exact ⟨a, b, last, [], parts, clean a List.mem_cons_self,
        clean b (List.mem_cons_of_mem _ List.mem_cons_self), plain⟩
  | a :: b :: c :: more =>
      have third : c ∈ a :: b :: c :: more :=
        List.mem_cons_of_mem _ (List.mem_cons_of_mem _ List.mem_cons_self)
      exact ⟨a, b, c, more ++ [last], parts, clean a List.mem_cons_self,
        clean b (List.mem_cons_of_mem _ List.mem_cons_self),
        (clean c third).plain⟩

end BidayaxExecutive.Library.DoubledSeparator
