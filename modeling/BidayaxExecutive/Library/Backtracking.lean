import Mathlib.Computability.Language
import Mathlib.Tactic.Common

/-!
# Regular expressions that backtrack

A regular expression that is tried at a place of a text has several places
where a match can end, and prefers them in the order of backtracking: the left
alternative before the right, and a greedy repetition the longer way first.  A
match consumes a word of the language of the expression; without edges every
word that stands at a place is consumed by some match.
-/

namespace BidayaxExecutive.Library.Backtracking

inductive Regex (α : Type) where
  | nothing
  /-- One symbol of a class. -/
  | one (test : α → Bool)
  /-- A place with a symbol of the class on one side only. -/
  | edge (word : α → Bool)
  | seq (first next : Regex α)
  | either (left right : Regex α)
  | star (greedy : Bool) (body : Regex α)

variable {α : Type}

/-- The symbols that are passed, the last one first, and those that follow. -/
abbrev Place (α : Type) : Type :=
  List α × List α

/-- A repetition that consumes nothing is not tried. -/
def repeats (step : Place α → List (Place α)) (greedy : Bool) :
    Nat → Place α → List (Place α)
  | 0, place => [place]
  | count + 1, place =>
      let onward := ((step place).filter fun next =>
        next.2.length < place.2.length).flatMap (repeats step greedy count)
      if greedy then onward ++ [place] else place :: onward

namespace Regex

/-- Where a match from a place can end, in the order of preference. -/
def ends : Regex α → Place α → List (Place α)
  | nothing, place => [place]
  | one _, (_, []) => []
  | one test, (passed, symbol :: rest) =>
      if test symbol then [(symbol :: passed, rest)] else []
  | edge word, place =>
      if place.1.head?.any word != place.2.head?.any word then [place] else []
  | seq first next, place => (first.ends place).flatMap next.ends
  | either left right, place => left.ends place ++ right.ends place
  | star greedy body, place => repeats body.ends greedy place.2.length place

/-- The words that matches consume, if edges are forgotten. -/
def language : Regex α → Language α
  | nothing => 1
  | one test => ({word | ∃ symbol, test symbol = true ∧ word = [symbol]} :
      Set (List α))
  | edge _ => 1
  | seq first next => first.language * next.language
  | either left right => left.language + right.language
  | star _ body => KStar.kstar body.language

def EdgeFree : Regex α → Prop
  | nothing => True
  | one _ => True
  | edge _ => False
  | seq first next => first.EdgeFree ∧ next.EdgeFree
  | either left right => left.EdgeFree ∧ right.EdgeFree
  | star _ body => body.EdgeFree

instance decidableEdgeFree : (regex : Regex α) → Decidable regex.EdgeFree
  | nothing => isTrue trivial
  | one _ => isTrue trivial
  | edge _ => isFalse id
  | seq first next =>
      have := decidableEdgeFree first
      have := decidableEdgeFree next
      inferInstanceAs (Decidable (first.EdgeFree ∧ next.EdgeFree))
  | either left right =>
      have := decidableEdgeFree left
      have := decidableEdgeFree right
      inferInstanceAs (Decidable (left.EdgeFree ∧ right.EdgeFree))
  | star _ body => decidableEdgeFree body

variable {test : α → Bool} {word : List α} {first next left right : Regex α}

theorem mem_nothing : word ∈ (nothing : Regex α).language ↔ word = [] :=
  Iff.rfl

theorem mem_one :
    word ∈ (one test).language ↔
      ∃ symbol, test symbol = true ∧ word = [symbol] :=
  Iff.rfl

theorem mem_seq :
    word ∈ (seq first next).language ↔
      ∃ start ∈ first.language, ∃ rest ∈ next.language, start ++ rest = word :=
  Language.mem_mul

theorem mem_either :
    word ∈ (either left right).language ↔
      word ∈ left.language ∨ word ∈ right.language :=
  Iff.rfl

theorem nil_mem_star {greedy : Bool} {body : Regex α} :
    [] ∈ (star greedy body).language :=
  Language.nil_mem_kstar body.language

theorem append_mem_star {greedy : Bool} {body : Regex α} {rest : List α}
    (start : word ∈ body.language)
    (onward : rest ∈ (star greedy body).language) :
    word ++ rest ∈ (star greedy body).language := by
  obtain ⟨words, shape, members⟩ := Language.mem_kstar.mp onward
  refine Language.mem_kstar.mpr ⟨word :: words, ?_, ?_⟩
  · rw [List.flatten_cons, shape]
  · exact List.forall_mem_cons.mpr ⟨start, members⟩

theorem mem_star_one {greedy : Bool} :
    word ∈ (star greedy (one test)).language ↔
      ∀ symbol ∈ word, test symbol = true := by
  constructor
  · intro member symbol inside
    obtain ⟨words, rfl, members⟩ := Language.mem_kstar.mp member
    obtain ⟨part, partMember, within⟩ := List.mem_flatten.mp inside
    obtain ⟨only, passes, rfl⟩ := members part partMember
    rw [List.mem_singleton.mp within]
    exact passes
  · intro allPass
    induction word with
    | nil =>
        exact nil_mem_star
    | cons symbol word ih =>
        obtain ⟨passes, others⟩ := List.forall_mem_cons.mp allPass
        exact append_mem_star (mem_one.mpr ⟨symbol, passes, rfl⟩) (ih others)

/-! ## Matches and words -/

/-- A match consumes the word. -/
def Consumes (place ended : Place α) (word : List α) : Prop :=
  place.2 = word ++ ended.2 ∧ ended.1 = word.reverse ++ place.1

theorem Consumes.append {place middle ended : Place α} {word more : List α}
    (first : Consumes place middle word) (second : Consumes middle ended more) :
    Consumes place ended (word ++ more) := by
  refine ⟨?_, ?_⟩
  · rw [first.1, second.1, List.append_assoc]
  · rw [second.2, first.2, List.reverse_append, List.append_assoc]

theorem consumes_nil (place : Place α) : Consumes place place [] :=
  ⟨rfl, rfl⟩

theorem mem_repeats_succ {step : Place α → List (Place α)} {greedy : Bool}
    {count : Nat} {place ended : Place α} :
    ended ∈ repeats step greedy (count + 1) place ↔
      ended = place ∨ ∃ middle ∈ step place,
        middle.2.length < place.2.length ∧
          ended ∈ repeats step greedy count middle := by
  rw [repeats]
  cases greedy with
  | true =>
      simp only [if_true, List.mem_append, List.mem_flatMap, List.mem_filter,
        List.mem_singleton, decide_eq_true_eq, and_assoc]
      exact or_comm
  | false =>
      simp only [Bool.false_eq_true, if_false, List.mem_cons, List.mem_flatMap,
        List.mem_filter, decide_eq_true_eq, and_assoc]

theorem exists_word_of_mem_repeats {greedy : Bool} {body : Regex α}
    (sound : ∀ place, ∀ ended ∈ body.ends place,
      ∃ word ∈ body.language, Consumes place ended word)
    (count : Nat) (place : Place α) :
    ∀ ended ∈ repeats body.ends greedy count place,
      ∃ word ∈ (star greedy body).language, Consumes place ended word := by
  induction count generalizing place with
  | zero =>
      intro ended member
      rw [repeats, List.mem_singleton] at member
      exact ⟨[], nil_mem_star, member ▸ consumes_nil place⟩
  | succ count ih =>
      intro ended member
      cases mem_repeats_succ.mp member with
      | inl same =>
          exact ⟨[], nil_mem_star, same ▸ consumes_nil place⟩
      | inr stepping =>
          obtain ⟨middle, stepped, _, onward⟩ := stepping
          obtain ⟨word, wordMember, first⟩ := sound place middle stepped
          obtain ⟨more, moreMember, second⟩ := ih middle ended onward
          exact ⟨word ++ more, append_mem_star wordMember moreMember,
            first.append second⟩

/-- A match consumes a word of the language. -/
theorem exists_word_of_mem_ends (regex : Regex α) (place : Place α) :
    ∀ ended ∈ regex.ends place,
      ∃ word ∈ regex.language, Consumes place ended word := by
  induction regex generalizing place with
  | nothing =>
      intro ended member
      rw [ends, List.mem_singleton] at member
      exact ⟨[], rfl, member ▸ consumes_nil place⟩
  | one test =>
      obtain ⟨passed, rest⟩ := place
      cases rest with
      | nil =>
          exact fun ended member => nomatch member
      | cons symbol rest =>
          intro ended member
          rw [ends] at member
          by_cases passes : test symbol = true
          · rw [if_pos passes, List.mem_singleton] at member
            rw [member]
            exact ⟨[symbol], ⟨symbol, passes, rfl⟩, rfl, rfl⟩
          · rw [if_neg passes] at member
            cases member
  | edge test =>
      intro ended member
      rw [ends] at member
      by_cases there : (place.1.head?.any test != place.2.head?.any test) = true
      · rw [if_pos there, List.mem_singleton] at member
        exact ⟨[], rfl, member ▸ consumes_nil place⟩
      · rw [if_neg there] at member
        cases member
  | seq first next firstSound nextSound =>
      intro ended member
      rw [ends, List.mem_flatMap] at member
      obtain ⟨middle, firstMember, nextMember⟩ := member
      obtain ⟨word, wordMember, consumed⟩ := firstSound place middle firstMember
      obtain ⟨more, moreMember, onward⟩ := nextSound middle ended nextMember
      exact ⟨word ++ more,
        mem_seq.mpr ⟨word, wordMember, more, moreMember, rfl⟩,
        consumed.append onward⟩
  | either left right leftSound rightSound =>
      intro ended member
      rw [ends, List.mem_append] at member
      cases member with
      | inl onLeft =>
          obtain ⟨word, wordMember, consumed⟩ := leftSound place ended onLeft
          exact ⟨word, Or.inl wordMember, consumed⟩
      | inr onRight =>
          obtain ⟨word, wordMember, consumed⟩ :=
            rightSound place ended onRight
          exact ⟨word, Or.inr wordMember, consumed⟩
  | star greedy body bodySound =>
      exact exists_word_of_mem_repeats bodySound place.2.length place

theorem self_mem_repeats (step : Place α → List (Place α)) (greedy : Bool)
    (count : Nat) (place : Place α) :
    place ∈ repeats step greedy count place := by
  cases count with
  | zero =>
      exact List.mem_singleton_self place
  | succ count =>
      exact mem_repeats_succ.mpr (Or.inl rfl)

/-- The place after a word. -/
def after (passed word rest : List α) : Place α :=
  (word.reverse ++ passed, rest)

theorem after_append (passed word more rest : List α) :
    after (word.reverse ++ passed) more rest =
      after passed (word ++ more) rest := by
  rw [after, after, List.reverse_append, List.append_assoc]

theorem mem_repeats_of_words {greedy : Bool} {body : Regex α}
    (complete : ∀ word ∈ body.language, ∀ passed rest,
      after passed word rest ∈ body.ends (passed, word ++ rest))
    {words : List (List α)}
    (members : ∀ word ∈ words, word ∈ body.language ∧ word ≠ [])
    (count : Nat) (passed rest : List α)
    (enough : words.flatten.length ≤ count) :
    after passed words.flatten rest ∈
      repeats body.ends greedy count (passed, words.flatten ++ rest) := by
  induction words generalizing count passed with
  | nil =>
      exact self_mem_repeats _ _ _ _
  | cons word words ih =>
      obtain ⟨⟨wordMember, filled⟩, others⟩ := List.forall_mem_cons.mp members
      have consumed := List.length_pos_iff.mpr filled
      rw [List.flatten_cons, List.length_append] at enough
      obtain ⟨less, rfl⟩ : ∃ less, count = less + 1 :=
        ⟨count - 1, by omega⟩
      rw [mem_repeats_succ]
      right
      rw [List.flatten_cons, List.append_assoc]
      refine ⟨after passed word (words.flatten ++ rest),
        complete word wordMember passed _, ?_, ?_⟩
      · simp only [after, List.length_append]
        omega
      · rw [← after_append]
        exact ih others less (word.reverse ++ passed) (by omega)

/-- Without edges, every word that stands at a place is consumed by some
match. -/
theorem after_mem_ends {regex : Regex α} (free : regex.EdgeFree) :
    ∀ word ∈ regex.language, ∀ passed rest,
      after passed word rest ∈ regex.ends (passed, word ++ rest) := by
  induction regex with
  | nothing =>
      rintro _ rfl passed rest
      exact List.mem_singleton_self _
  | one test =>
      rintro _ ⟨symbol, passes, rfl⟩ passed rest
      change _ ∈ (if test symbol = true then [_] else [])
      rw [if_pos passes]
      exact List.mem_singleton_self _
  | edge test =>
      exact absurd free id
  | seq first next firstComplete nextComplete =>
      intro word member passed rest
      obtain ⟨start, startMember, more, moreMember, rfl⟩ := mem_seq.mp member
      rw [ends, List.mem_flatMap, List.append_assoc, ← after_append]
      exact ⟨after passed start (more ++ rest),
        firstComplete free.1 start startMember passed _,
        nextComplete free.2 more moreMember _ _⟩
  | either left right leftComplete rightComplete =>
      intro word member passed rest
      rw [ends, List.mem_append]
      cases member with
      | inl onLeft =>
          exact Or.inl (leftComplete free.1 word onLeft passed rest)
      | inr onRight =>
          exact Or.inr (rightComplete free.2 word onRight passed rest)
  | star greedy body bodyComplete =>
      intro word member passed rest
      obtain ⟨words, rfl, members⟩ :=
        Language.mem_kstar_iff_exists_nonempty.mp member
      rw [ends]
      exact mem_repeats_of_words (bodyComplete free) members _ passed rest
        (by simp only [List.length_append]; omega)

/-! ## Searching -/

/-- A match at the place or at a later one. -/
def foundFrom (regex : Regex α) : List α → List α → Bool
  | passed, [] => !(regex.ends (passed, [])).isEmpty
  | passed, symbol :: rest =>
      !(regex.ends (passed, symbol :: rest)).isEmpty ||
        regex.foundFrom (symbol :: passed) rest

/-- `regex.test(text)`. -/
def found (regex : Regex α) (text : List α) : Bool :=
  regex.foundFrom [] text

theorem foundFrom_iff {regex : Regex α} {passed text : List α} :
    regex.foundFrom passed text = true ↔
      ∃ before rest, text = before ++ rest ∧
        regex.ends (before.reverse ++ passed, rest) ≠ [] := by
  induction text generalizing passed with
  | nil =>
      rw [foundFrom, Bool.not_eq_true', List.isEmpty_eq_false_iff]
      constructor
      · intro matched
        exact ⟨[], [], rfl, matched⟩
      · rintro ⟨before, rest, splits, matched⟩
        obtain ⟨rfl, rfl⟩ := List.append_eq_nil_iff.mp splits.symm
        exact matched
  | cons symbol text ih =>
      rw [foundFrom, Bool.or_eq_true, Bool.not_eq_true',
        List.isEmpty_eq_false_iff, ih]
      constructor
      · rintro (matched | ⟨before, rest, rfl, matched⟩)
        · exact ⟨[], symbol :: text, rfl, matched⟩
        · refine ⟨symbol :: before, rest, rfl, ?_⟩
          rwa [List.reverse_cons, List.append_assoc]
      · rintro ⟨before, rest, splits, matched⟩
        cases before with
        | nil =>
            rw [List.nil_append] at splits
            exact Or.inl (splits ▸ matched)
        | cons head before =>
            obtain ⟨rfl, rfl⟩ := List.cons.inj splits
            refine Or.inr ⟨before, rest, rfl, ?_⟩
            rwa [List.reverse_cons, List.append_assoc] at matched

theorem exists_infix_of_found {regex : Regex α} {text : List α}
    (matched : regex.found text = true) :
    ∃ word ∈ regex.language, word <:+: text := by
  obtain ⟨before, rest, rfl, some⟩ := foundFrom_iff.mp matched
  obtain ⟨ended, member⟩ := List.exists_mem_of_ne_nil _ some
  obtain ⟨word, wordMember, consumed⟩ :=
    exists_word_of_mem_ends regex _ ended member
  refine ⟨word, wordMember, before, ended.2, ?_⟩
  rw [List.append_assoc, ← consumed.1]

theorem found_of_infix {regex : Regex α} (free : regex.EdgeFree)
    {text word : List α} (member : word ∈ regex.language)
    (inside : word <:+: text) : regex.found text = true := by
  obtain ⟨before, rest, rfl⟩ := inside
  refine foundFrom_iff.mpr ⟨before, word ++ rest, List.append_assoc _ _ _, ?_⟩
  exact List.ne_nil_of_mem (after_mem_ends free word member _ rest)

/-- Between two edges stands a word of the body. -/
theorem found_between_edges {body : Regex α} (free : body.EdgeFree)
    {text : List α} :
    (seq (edge test) (seq body (edge test))).found text = true ↔
      ∃ before word rest, text = before ++ (word ++ rest) ∧
        word ∈ body.language ∧
        (before.reverse.head?.any test != (word ++ rest).head?.any test) =
          true ∧
        ((word.reverse ++ before.reverse).head?.any test !=
          rest.head?.any test) = true := by
  rw [found, foundFrom_iff]
  constructor
  · rintro ⟨before, onward, splits, some⟩
    obtain ⟨ended, member⟩ := List.exists_mem_of_ne_nil _ some
    simp only [ends, List.append_nil, List.mem_flatMap] at member
    obtain ⟨start, atStart, middle, matched, atEnd⟩ := member
    rw [List.mem_ite_nil_right, List.mem_singleton] at atStart
    obtain ⟨first, rfl⟩ := atStart
    obtain ⟨word, wordMember, consumed⟩ :=
      exists_word_of_mem_ends body _ middle matched
    rw [List.mem_ite_nil_right] at atEnd
    refine ⟨before, word, middle.2, ?_, wordMember, ?_, ?_⟩
    · rw [splits, ← consumed.1]
    · rw [← consumed.1]
      exact first
    · rw [← consumed.2]
      exact atEnd.1
  · rintro ⟨before, word, rest, splits, wordMember, first, last⟩
    refine ⟨before, word ++ rest, splits, ?_⟩
    apply List.ne_nil_of_mem (a := after before.reverse word rest)
    simp only [ends, List.append_nil, List.mem_flatMap]
    refine ⟨(before.reverse, word ++ rest), ?_,
      after before.reverse word rest,
      after_mem_ends free word wordMember _ rest, ?_⟩
    · rw [List.mem_ite_nil_right]
      exact ⟨first, List.mem_singleton_self _⟩
    · rw [List.mem_ite_nil_right]
      exact ⟨last, List.mem_singleton_self _⟩

/-! ## Building expressions -/

def optional (regex : Regex α) : Regex α :=
  either regex nothing

def sequence : List (Regex α) → Regex α
  | [] => nothing
  | [only] => only
  | regex :: rest => seq regex (sequence rest)

/-- The first alternative, or one of the others. -/
def choice (first : Regex α) : List (Regex α) → Regex α
  | [] => first
  | next :: rest => either first (choice next rest)

/-- One time or more, the longer way first. -/
def plus (regex : Regex α) : Regex α :=
  seq regex (star true regex)

/-- So many times, and then as the rest says. -/
def times : Nat → Regex α → Regex α → Regex α
  | 0, _, rest => rest
  | count + 1, regex, rest => seq regex (times count regex rest)

theorem mem_sequence_cons {regex : Regex α} {others : List (Regex α)}
    {word : List α} :
    word ∈ (sequence (regex :: others)).language ↔
      ∃ start ∈ regex.language, ∃ rest ∈ (sequence others).language,
        start ++ rest = word := by
  cases others with
  | nil =>
      simp [sequence, mem_nothing]
  | cons next others =>
      exact mem_seq

theorem mem_choice {first : Regex α} {others : List (Regex α)}
    {word : List α} :
    word ∈ (choice first others).language ↔
      word ∈ first.language ∨ ∃ other ∈ others, word ∈ other.language := by
  induction others generalizing first with
  | nil =>
      simp [choice]
  | cons next others ih =>
      rw [choice, mem_either, ih, List.exists_mem_cons_iff]

theorem mem_plus_one {test : α → Bool} {word : List α} (filled : word ≠ [])
    (allPass : ∀ symbol ∈ word, test symbol = true) :
    word ∈ (plus (one test)).language := by
  obtain ⟨symbol, word, rfl⟩ := List.exists_cons_of_ne_nil filled
  obtain ⟨passes, others⟩ := List.forall_mem_cons.mp allPass
  exact mem_seq.mpr
    ⟨[symbol], mem_one.mpr ⟨symbol, passes, rfl⟩, word,
      mem_star_one.mpr others, rfl⟩

/-! ## Symbols of words -/

/-- The symbol is in no class of the expression. -/
def avoids (symbol : α) : Regex α → Bool
  | nothing => true
  | one test => !test symbol
  | edge _ => true
  | seq first next => first.avoids symbol && next.avoids symbol
  | either left right => left.avoids symbol && right.avoids symbol
  | star _ body => body.avoids symbol

theorem not_mem_of_avoids {symbol : α} {regex : Regex α}
    (avoided : regex.avoids symbol = true) :
    ∀ word ∈ regex.language, symbol ∉ word := by
  induction regex with
  | nothing =>
      rintro _ rfl
      exact List.not_mem_nil
  | one test =>
      rintro _ ⟨other, passes, rfl⟩ member
      rw [List.mem_singleton.mp member] at avoided
      simp [avoids, passes] at avoided
  | edge test =>
      rintro _ rfl
      exact List.not_mem_nil
  | seq first next firstAvoids nextAvoids =>
      simp only [avoids, Bool.and_eq_true] at avoided
      intro word member
      obtain ⟨start, startMember, rest, restMember, rfl⟩ := mem_seq.mp member
      rw [List.mem_append, not_or]
      exact ⟨firstAvoids avoided.1 start startMember,
        nextAvoids avoided.2 rest restMember⟩
  | either left right leftAvoids rightAvoids =>
      simp only [avoids, Bool.and_eq_true] at avoided
      intro word member
      cases member with
      | inl onLeft =>
          exact leftAvoids avoided.1 word onLeft
      | inr onRight =>
          exact rightAvoids avoided.2 word onRight
  | star greedy body bodyAvoids =>
      intro word member
      obtain ⟨words, rfl, members⟩ := Language.mem_kstar.mp member
      rw [List.mem_flatten]
      rintro ⟨part, partMember, inside⟩
      exact bodyAvoids avoided part (members part partMember) inside

end Regex

end BidayaxExecutive.Library.Backtracking
