import Mathlib.Computability.Language
import Mathlib.Tactic.Common

/-!
# Patterns

Regular patterns over classes of symbols, of the kind that regular expressions
for a search are built from: a symbol of a class, a run of symbols of a class,
sequences and alternatives.  A pattern is found in a text when a word of its
language stands somewhere in it.  The search is computed from the remainders of
the text after a match and decides this.
-/

namespace BidayaxExecutive.Library.Patterns

inductive Pattern (α : Type*) where
  | nothing
  /-- One symbol of a class. -/
  | one (test : α → Bool)
  /-- Any number of symbols of a class. -/
  | many (test : α → Bool)
  | seq (first next : Pattern α)
  | either (left right : Pattern α)

namespace Pattern

variable {α : Type*}

/-! ## Languages -/

def language : Pattern α → Language α
  | nothing => 1
  | one test => ({word | ∃ symbol, test symbol = true ∧ word = [symbol]} :
      Set (List α))
  | many test => ({word | ∀ symbol ∈ word, test symbol = true} : Set (List α))
  | seq first next => first.language * next.language
  | either left right => left.language + right.language

variable {test : α → Bool} {word : List α} {first next left right : Pattern α}

theorem mem_nothing : word ∈ (nothing : Pattern α).language ↔ word = [] :=
  Iff.rfl

theorem mem_seq :
    word ∈ (seq first next).language ↔
      ∃ start ∈ first.language, ∃ rest ∈ next.language, start ++ rest = word :=
  Language.mem_mul

theorem mem_either :
    word ∈ (either left right).language ↔
      word ∈ left.language ∨ word ∈ right.language :=
  Iff.rfl

/-! ## Searching -/

/-- What can be left of a text after a run of symbols of a class. -/
def remaindersOfRun (test : α → Bool) : List α → List (List α)
  | [] => [[]]
  | symbol :: rest =>
      (symbol :: rest) ::
        if test symbol then remaindersOfRun test rest else []

/-- What can be left of a text after a match at its start. -/
def remainders : Pattern α → List α → List (List α)
  | nothing, text => [text]
  | one _, [] => []
  | one test, symbol :: rest => if test symbol then [rest] else []
  | many test, text => remaindersOfRun test text
  | seq first next, text => (first.remainders text).flatMap next.remainders
  | either left right, text => left.remainders text ++ right.remainders text

def found (pattern : Pattern α) (text : List α) : Bool :=
  text.tails.any fun rest => !(pattern.remainders rest).isEmpty

theorem mem_remaindersOfRun {text rest : List α} :
    rest ∈ remaindersOfRun test text ↔
      ∃ word, (∀ symbol ∈ word, test symbol = true) ∧ text = word ++ rest := by
  induction text with
  | nil =>
      rw [remaindersOfRun, List.mem_singleton]
      constructor
      · rintro rfl
        exact ⟨[], nofun, rfl⟩
      · rintro ⟨word, _, splits⟩
        exact (List.append_eq_nil_iff.mp splits.symm).2
  | cons symbol tail inductionHypothesis =>
      rw [remaindersOfRun, List.mem_cons]
      constructor
      · rintro (rfl | onward)
        · exact ⟨[], nofun, rfl⟩
        · by_cases passes : test symbol = true
          · rw [if_pos passes] at onward
            obtain ⟨word, allPass, rfl⟩ := inductionHypothesis.mp onward
            exact ⟨symbol :: word, List.forall_mem_cons.mpr ⟨passes, allPass⟩,
              rfl⟩
          · rw [if_neg passes] at onward
            exact nomatch onward
      · rintro ⟨word, allPass, splits⟩
        cases word with
        | nil =>
            exact Or.inl splits.symm
        | cons head word =>
            obtain ⟨rfl, rfl⟩ := List.cons.inj splits
            obtain ⟨passes, allPass⟩ := List.forall_mem_cons.mp allPass
            rw [if_pos passes]
            exact Or.inr (inductionHypothesis.mpr ⟨word, allPass, rfl⟩)

theorem mem_remainders {pattern : Pattern α} {text rest : List α} :
    rest ∈ pattern.remainders text ↔
      ∃ word ∈ pattern.language, text = word ++ rest := by
  induction pattern generalizing text rest with
  | nothing =>
      rw [remainders, List.mem_singleton]
      constructor
      · rintro rfl
        exact ⟨[], rfl, rfl⟩
      · rintro ⟨word, isNil, rfl⟩
        rw [mem_nothing.mp isNil]
        rfl
  | one test =>
      cases text with
      | nil =>
          rw [remainders]
          refine iff_of_false nofun ?_
          rintro ⟨word, ⟨symbol, _, rfl⟩, splits⟩
          exact nomatch splits
      | cons symbol tail =>
          rw [remainders]
          constructor
          · intro member
            by_cases passes : test symbol = true
            · rw [if_pos passes, List.mem_singleton] at member
              exact ⟨[symbol], ⟨symbol, passes, rfl⟩, by rw [member]; rfl⟩
            · rw [if_neg passes] at member
              exact nomatch member
          · rintro ⟨word, ⟨matched, passes, rfl⟩, splits⟩
            obtain ⟨rfl, rfl⟩ := List.cons.inj splits
            rw [if_pos passes]
            exact List.mem_singleton.mpr rfl
  | many test =>
      exact mem_remaindersOfRun
  | seq first next firstHypothesis nextHypothesis =>
      rw [remainders, List.mem_flatMap]
      constructor
      · rintro ⟨middle, firstMember, nextMember⟩
        obtain ⟨start, startMember, rfl⟩ := firstHypothesis.mp firstMember
        obtain ⟨word, wordMember, rfl⟩ := nextHypothesis.mp nextMember
        exact ⟨start ++ word,
          mem_seq.mpr ⟨start, startMember, word, wordMember, rfl⟩,
          (List.append_assoc _ _ _).symm⟩
      · rintro ⟨_, member, rfl⟩
        obtain ⟨start, startMember, word, wordMember, rfl⟩ := mem_seq.mp member
        exact ⟨word ++ rest,
          firstHypothesis.mpr ⟨start, startMember, List.append_assoc _ _ _⟩,
          nextHypothesis.mpr ⟨word, wordMember, rfl⟩⟩
  | either left right leftHypothesis rightHypothesis =>
      rw [remainders, List.mem_append, leftHypothesis, rightHypothesis]
      constructor
      · rintro (⟨word, member, splits⟩ | ⟨word, member, splits⟩)
        · exact ⟨word, Or.inl member, splits⟩
        · exact ⟨word, Or.inr member, splits⟩
      · rintro ⟨word, member | member, splits⟩
        · exact Or.inl ⟨word, member, splits⟩
        · exact Or.inr ⟨word, member, splits⟩

/-- The search decides whether a word of the language stands in the text. -/
theorem found_iff {pattern : Pattern α} {text : List α} :
    pattern.found text = true ↔
      ∃ word ∈ pattern.language, word <:+: text := by
  rw [found, List.any_eq_true]
  constructor
  · rintro ⟨tail, isTail, matched⟩
    have some : pattern.remainders tail ≠ [] := by
      simpa using matched
    obtain ⟨rest, member⟩ := List.exists_mem_of_ne_nil _ some
    obtain ⟨word, wordMember, rfl⟩ := mem_remainders.mp member
    obtain ⟨before, rfl⟩ := (List.mem_tails _ _).mp isTail
    exact ⟨word, wordMember, before, rest, List.append_assoc _ _ _⟩
  · rintro ⟨word, member, before, rest, rfl⟩
    refine ⟨word ++ rest, (List.mem_tails _ _).mpr
      ⟨before, (List.append_assoc _ _ _).symm⟩, ?_⟩
    have matched : rest ∈ pattern.remainders (word ++ rest) :=
      mem_remainders.mpr ⟨word, member, rfl⟩
    simpa using List.ne_nil_of_mem matched

/-! ## Building patterns -/

def optional (pattern : Pattern α) : Pattern α :=
  either pattern nothing

def sequence : List (Pattern α) → Pattern α
  | [] => nothing
  | first :: rest => seq first (sequence rest)

/-- At least so many symbols of a class. -/
def atLeast (test : α → Bool) : Nat → Pattern α
  | 0 => many test
  | count + 1 => seq (one test) (atLeast test count)

/-- So many symbols of a class. -/
def exactly (test : α → Bool) : Nat → Pattern α
  | 0 => nothing
  | count + 1 => seq (one test) (exactly test count)

def anyOf : List (Pattern α) → Pattern α
  | [] => one fun _ => false
  | first :: rest => either first (anyOf rest)

theorem mem_anyOf {patterns : List (Pattern α)} :
    word ∈ (anyOf patterns).language ↔
      ∃ pattern ∈ patterns, word ∈ pattern.language := by
  induction patterns with
  | nil =>
      refine iff_of_false ?_ nofun
      rintro ⟨_, impossible, _⟩
      exact nomatch impossible
  | cons first rest inductionHypothesis =>
      rw [anyOf, mem_either, inductionHypothesis, List.exists_mem_cons_iff]

/-- Some alternative is found. -/
theorem found_anyOf {patterns : List (Pattern α)} {text : List α} :
    (anyOf patterns).found text = true ↔
      ∃ pattern ∈ patterns, pattern.found text = true := by
  rw [found_iff]
  constructor
  · rintro ⟨word, member, inside⟩
    obtain ⟨pattern, patternMember, wordMember⟩ := mem_anyOf.mp member
    exact ⟨pattern, patternMember, found_iff.mpr ⟨word, wordMember, inside⟩⟩
  · rintro ⟨pattern, patternMember, matched⟩
    obtain ⟨word, wordMember, inside⟩ := found_iff.mp matched
    exact ⟨word, mem_anyOf.mpr ⟨pattern, patternMember, wordMember⟩, inside⟩

theorem found_anyOf_append {patterns others : List (Pattern α)}
    {text : List α} :
    (anyOf (patterns ++ others)).found text = true ↔
      (anyOf patterns).found text = true ∨
        (anyOf others).found text = true := by
  rw [found_anyOf, found_anyOf, found_anyOf]
  constructor
  · rintro ⟨pattern, member, matched⟩
    rcases List.mem_append.mp member with left | right
    · exact Or.inl ⟨pattern, left, matched⟩
    · exact Or.inr ⟨pattern, right, matched⟩
  · rintro (⟨pattern, member, matched⟩ | ⟨pattern, member, matched⟩)
    · exact ⟨pattern, List.mem_append_left _ member, matched⟩
    · exact ⟨pattern, List.mem_append_right _ member, matched⟩

/-- The order of the alternatives does not matter. -/
theorem found_anyOf_perm {patterns others : List (Pattern α)} {text : List α}
    (reordered : patterns.Perm others) :
    (anyOf patterns).found text = (anyOf others).found text := by
  rw [Bool.eq_iff_iff, found_anyOf, found_anyOf]
  constructor
  · rintro ⟨pattern, member, matched⟩
    exact ⟨pattern, reordered.mem_iff.mp member, matched⟩
  · rintro ⟨pattern, member, matched⟩
    exact ⟨pattern, reordered.mem_iff.mpr member, matched⟩

end Pattern

end BidayaxExecutive.Library.Patterns
