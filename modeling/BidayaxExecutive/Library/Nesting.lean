import Mathlib.Data.List.Basic
import Mathlib.Tactic.Common

/-!
# Nested lists

Texts with quotes and parentheses, and their parts between separators.  A text
is balanced when it is built from plain symbols, quotations and balanced texts
in parentheses; a scan that counts the open parentheses and remembers the open
quote decides this.  The scan returns to its state behind a balanced text, so
splitting at the separators outside undoes joining.
-/

namespace BidayaxExecutive.Library.Nesting

variable {α : Type}

structure Marks (α : Type) where
  opening : α
  closing : α
  separator : α
  isQuote : α → Bool
  opening_ne_closing : opening ≠ closing
  separator_ne_opening : separator ≠ opening
  separator_ne_closing : separator ≠ closing
  opening_unquoted : isQuote opening = false
  closing_unquoted : isQuote closing = false
  separator_unquoted : isQuote separator = false

/-- A symbol that neither quotes nor nests. -/
def Marks.Plain (marks : Marks α) (symbol : α) : Prop :=
  marks.isQuote symbol = false ∧ symbol ≠ marks.opening ∧
    symbol ≠ marks.closing

/-- A separator may stand inside parentheses only. -/
inductive Balanced (marks : Marks α) : Bool → List α → Prop
  | nil (inside : Bool) : Balanced marks inside []
  | symbol {inside : Bool} {symbol : α} (plain : marks.Plain symbol)
      (separates : symbol = marks.separator → inside = true) :
      Balanced marks inside [symbol]
  | quoted {inside : Bool} {quote : α} {content : List α}
      (isQuote : marks.isQuote quote = true) (unquoted : quote ∉ content) :
      Balanced marks inside (quote :: (content ++ [quote]))
  | nested {inside : Bool} {inner : List α}
      (balanced : Balanced marks true inner) :
      Balanced marks inside (marks.opening :: (inner ++ [marks.closing]))
  | append {inside : Bool} {first second : List α}
      (left : Balanced marks inside first)
      (right : Balanced marks inside second) :
      Balanced marks inside (first ++ second)

/-- What is balanced outside parentheses is balanced inside. -/
theorem Balanced.inParens {marks : Marks α} {inside : Bool} {text : List α}
    (balanced : Balanced marks inside text) : Balanced marks true text := by
  induction balanced with
  | nil => exact Balanced.nil true
  | symbol plain _ => exact Balanced.symbol plain fun _ => rfl
  | quoted isQuote unquoted => exact Balanced.quoted isQuote unquoted
  | nested balanced _ => exact Balanced.nested balanced
  | append _ _ left right => exact left.append right

theorem balanced_of_forall {marks : Marks α} {inside : Bool} {text : List α}
    (neutral : ∀ symbol ∈ text,
      marks.Plain symbol ∧ symbol ≠ marks.separator) :
    Balanced marks inside text := by
  induction text with
  | nil =>
      exact Balanced.nil inside
  | cons symbol text ih =>
      obtain ⟨here, others⟩ := List.forall_mem_cons.mp neutral
      have first : Balanced marks inside [symbol] :=
        Balanced.symbol here.1 fun separates => absurd separates here.2
      exact first.append (ih others)

theorem ne_of_isQuote {marks : Marks α} {quote other : α}
    (isQuote : marks.isQuote quote = true)
    (unquoted : marks.isQuote other = false) : quote ≠ other := by
  intro same
  rw [same, unquoted] at isQuote
  cases isQuote

/-- Balanced texts with closing parentheses between them. -/
def Pending (marks : Marks α) : Nat → List α → Prop
  | 0, text => Balanced marks false text
  | depth + 1, text =>
      ∃ inner rest, text = inner ++ marks.closing :: rest ∧
        Balanced marks true inner ∧ Pending marks depth rest

theorem Pending.prepend {marks : Marks α} {depth : Nat}
    {piece text : List α}
    (balanced : Balanced marks (depth != 0) piece)
    (pending : Pending marks depth text) :
    Pending marks depth (piece ++ text) := by
  cases depth with
  | zero =>
      exact balanced.append pending
  | succ depth =>
      obtain ⟨inner, rest, rfl, innerBalanced, onward⟩ := pending
      exact ⟨piece ++ inner, rest, (List.append_assoc _ _ _).symm,
        balanced.inParens.append innerBalanced, onward⟩

/-! ## Scanning -/

/-- The open parentheses and the open quote. -/
structure Scan (α : Type) where
  depth : Nat
  quote : Option α

def Scan.outside (depth : Nat) : Scan α :=
  ⟨depth, none⟩

variable [DecidableEq α] (marks : Marks α)

namespace Marks

def step (state : Scan α) (symbol : α) : Scan α :=
  match state.quote with
  | some quote =>
      if symbol = quote then ⟨state.depth, none⟩ else state
  | none =>
      if marks.isQuote symbol then ⟨state.depth, some symbol⟩
      else if symbol = marks.opening then ⟨state.depth + 1, none⟩
      else if symbol = marks.closing then ⟨state.depth - 1, none⟩
      else state

def separates (state : Scan α) (symbol : α) : Bool :=
  state.quote.isNone && symbol = marks.separator && state.depth == 0

/-- A parenthesis closes that is not open. -/
def exceeds (state : Scan α) (symbol : α) : Bool :=
  state.quote.isNone && symbol = marks.closing && state.depth == 0

/-- The parts between the separators outside. -/
def splitFrom : Scan α → List α → List α → List (List α)
  | _, current, [] => [current]
  | state, current, symbol :: rest =>
      if marks.separates state symbol then
        current :: splitFrom state [] rest
      else splitFrom (marks.step state symbol) (current ++ [symbol]) rest

def split (text : List α) : List (List α) :=
  marks.splitFrom (.outside 0) [] text

/-- The state behind a text that neither separates nor closes too much. -/
def walk : Scan α → List α → Option (Scan α)
  | state, [] => some state
  | state, symbol :: rest =>
      if marks.separates state symbol || marks.exceeds state symbol then none
      else walk (marks.step state symbol) rest

def closes (text : List α) : Bool :=
  (marks.walk (.outside 0) text).any fun state =>
    state.quote.isNone && state.depth == 0

variable {marks} {state next : Scan α} {symbol : α} {text first second : List α}

theorem walk_append (state : Scan α) (first second : List α) :
    marks.walk state (first ++ second) =
      (marks.walk state first).bind fun next => marks.walk next second := by
  induction first generalizing state with
  | nil =>
      rfl
  | cons symbol first ih =>
      rw [List.cons_append, walk, walk, ih]
      split <;> rfl

/-- A text that is walked through stays in its part. -/
theorem splitFrom_of_walk (walked : marks.walk state text = some next)
    (current rest : List α) :
    marks.splitFrom state current (text ++ rest) =
      marks.splitFrom next (current ++ text) rest := by
  induction text generalizing state current with
  | nil =>
      rw [Option.some.inj walked, List.nil_append, List.append_nil]
  | cons symbol text ih =>
      rw [walk] at walked
      by_cases stops :
          (marks.separates state symbol || marks.exceeds state symbol) = true
      · rw [if_pos stops] at walked
        cases walked
      · rw [if_neg stops] at walked
        have whole : ¬(marks.separates state symbol = true) := fun separates =>
          stops (by rw [separates, Bool.true_or])
        rw [List.cons_append, splitFrom, if_neg whole, ih walked,
          List.append_assoc, List.singleton_append]

theorem walk_quoted {depth : Nat} {quote : α} {content : List α}
    (unquoted : quote ∉ content) (rest : List α) :
    marks.walk ⟨depth, some quote⟩ (content ++ quote :: rest) =
      marks.walk (.outside depth) rest := by
  induction content with
  | nil =>
      simp [walk, step, separates, exceeds, Scan.outside]
  | cons symbol content ih =>
      rw [List.mem_cons, not_or] at unquoted
      have other : symbol ≠ quote := fun same => unquoted.1 same.symm
      have stays : marks.step ⟨depth, some quote⟩ symbol =
          ⟨depth, some quote⟩ := if_neg other
      rw [List.cons_append, walk, stays, ih unquoted.2]
      rfl

end Marks

open Marks

variable {marks}

theorem walk_symbol {depth : Nat} {symbol : α} {next : Scan α}
    (whole : symbol = marks.separator → depth ≠ 0)
    (fits : symbol = marks.closing → depth ≠ 0)
    (stepped : marks.step (.outside depth) symbol = next) (rest : List α) :
    marks.walk (.outside depth) (symbol :: rest) = marks.walk next rest := by
  have stays : ¬((marks.separates (.outside depth) symbol ||
      marks.exceeds (.outside depth) symbol) = true) := by
    simp only [separates, exceeds, Bool.or_eq_true, Bool.and_eq_true,
      decide_eq_true_eq, beq_iff_eq]
    intro stops
    cases stops with
    | inl splits => exact whole splits.1.2 splits.2
    | inr closes => exact fits closes.1.2 closes.2
  rw [walk, if_neg stays, stepped]

theorem step_plain {symbol : α} (plain : marks.Plain symbol) (depth : Nat) :
    marks.step (.outside depth) symbol = .outside depth := by
  simp [step, Scan.outside, plain.1, plain.2.1, plain.2.2]

theorem step_quote {quote : α} (isQuote : marks.isQuote quote = true)
    (depth : Nat) :
    marks.step (.outside depth) quote = ⟨depth, some quote⟩ := by
  simp [step, Scan.outside, isQuote]

theorem step_opening (depth : Nat) :
    marks.step (.outside depth) marks.opening = .outside (depth + 1) := by
  simp [step, Scan.outside, marks.opening_unquoted]

theorem step_closing (depth : Nat) :
    marks.step (.outside (depth + 1)) marks.closing = .outside depth := by
  simp [step, Scan.outside, marks.closing_unquoted,
    marks.opening_ne_closing.symm]

/-- The scan returns behind a balanced text. -/
theorem Balanced.walk {inside : Bool} {text : List α}
    (balanced : Balanced marks inside text) (depth : Nat)
    (deep : inside = true → depth ≠ 0) :
    marks.walk (.outside depth) text = some (.outside depth) := by
  induction balanced generalizing depth with
  | nil =>
      rfl
  | symbol plain separates =>
      exact walk_symbol (fun same => deep (separates same))
        (fun same => absurd same plain.2.2) (step_plain plain depth) []
  | quoted isQuote unquoted =>
      rw [walk_symbol
        (fun same =>
          absurd same (ne_of_isQuote isQuote marks.separator_unquoted))
        (fun same => absurd same (ne_of_isQuote isQuote marks.closing_unquoted))
        (step_quote isQuote depth), walk_quoted unquoted]
      rfl
  | nested _ ih =>
      rw [walk_symbol
        (fun same => absurd same marks.separator_ne_opening.symm)
        (fun same => absurd same marks.opening_ne_closing)
        (step_opening depth), walk_append,
        ih (depth + 1) fun _ => Nat.succ_ne_zero depth]
      exact walk_symbol
        (fun same => absurd same marks.separator_ne_closing.symm)
        (fun _ => Nat.succ_ne_zero depth) (step_closing depth) []
  | append _ _ left right =>
      rw [walk_append, left depth deep]
      exact right depth deep

/-! ## What the scan accepts -/

theorem exists_quote_of_walk {depth : Nat} {quote : α} {text : List α}
    (walked : marks.walk ⟨depth, some quote⟩ text = some (.outside 0)) :
    ∃ content rest, text = content ++ quote :: rest ∧ quote ∉ content ∧
      marks.walk (.outside depth) rest = some (.outside 0) := by
  induction text with
  | nil =>
      cases walked
  | cons symbol text ih =>
      have unstopped : marks.walk ⟨depth, some quote⟩ (symbol :: text) =
          marks.walk (marks.step ⟨depth, some quote⟩ symbol) text := rfl
      rw [unstopped] at walked
      by_cases closes : symbol = quote
      · have stepped : marks.step ⟨depth, some quote⟩ symbol =
            .outside depth := if_pos closes
        rw [stepped] at walked
        exact ⟨[], text, by rw [closes]; rfl, List.not_mem_nil, walked⟩
      · have stepped : marks.step ⟨depth, some quote⟩ symbol =
            ⟨depth, some quote⟩ := if_neg closes
        rw [stepped] at walked
        obtain ⟨content, rest, rfl, unquoted, onward⟩ := ih walked
        refine ⟨symbol :: content, rest, rfl, ?_, onward⟩
        rw [List.mem_cons, not_or]
        exact ⟨fun same => closes same.symm, unquoted⟩

theorem pending_of_walk (length : Nat) {depth : Nat} {text : List α}
    (bounded : text.length ≤ length)
    (walked : marks.walk (.outside depth) text = some (.outside 0)) :
    Pending marks depth text := by
  induction length generalizing depth text with
  | zero =>
      obtain rfl := List.length_eq_zero_iff.mp (Nat.le_zero.mp bounded)
      obtain rfl : depth = 0 := congrArg Scan.depth (Option.some.inj walked)
      exact Balanced.nil false
  | succ length ih =>
      cases text with
      | nil =>
          obtain rfl : depth = 0 := congrArg Scan.depth (Option.some.inj walked)
          exact Balanced.nil false
      | cons symbol text =>
          have shorter : text.length ≤ length := Nat.le_of_succ_le_succ bounded
          by_cases isQuote : marks.isQuote symbol = true
          · rw [walk_symbol
              (fun same =>
                absurd same (ne_of_isQuote isQuote marks.separator_unquoted))
              (fun same =>
                absurd same (ne_of_isQuote isQuote marks.closing_unquoted))
              (step_quote isQuote depth)] at walked
            obtain ⟨content, rest, rfl, unquoted, onward⟩ :=
              exists_quote_of_walk walked
            have fewer : rest.length ≤ length := by
              rw [List.length_append, List.length_cons] at shorter
              omega
            have prepended := (ih fewer onward).prepend
              (Balanced.quoted isQuote unquoted)
            simpa using prepended
          · by_cases opens : symbol = marks.opening
            · subst opens
              rw [walk_symbol
                (fun same => absurd same marks.separator_ne_opening.symm)
                (fun same => absurd same marks.opening_ne_closing)
                (step_opening depth)] at walked
              obtain ⟨inner, rest, rfl, balanced, onward⟩ := ih shorter walked
              have prepended := onward.prepend (Balanced.nested balanced)
              simpa using prepended
            · by_cases closes : symbol = marks.closing
              · subst closes
                cases depth with
                | zero =>
                    have stops : (marks.separates (.outside 0) marks.closing ||
                        marks.exceeds (.outside 0) marks.closing) = true := by
                      simp [exceeds, Scan.outside]
                    rw [Marks.walk, if_pos stops] at walked
                    cases walked
                | succ depth =>
                    rw [walk_symbol
                      (fun same =>
                        absurd same marks.separator_ne_closing.symm)
                      (fun _ => Nat.succ_ne_zero depth)
                      (step_closing depth)] at walked
                    exact ⟨[], text, rfl, Balanced.nil true, ih shorter walked⟩
              · have plain : marks.Plain symbol :=
                  ⟨Bool.eq_false_iff.mpr isQuote, opens, closes⟩
                have whole : symbol = marks.separator → depth ≠ 0 := by
                  rintro rfl rfl
                  have stops : (marks.separates (.outside 0) marks.separator ||
                      marks.exceeds (.outside 0) marks.separator) = true := by
                    simp [separates, Scan.outside]
                  rw [Marks.walk, if_pos stops] at walked
                  cases walked
                rw [walk_symbol whole (fun same => absurd same closes)
                  (step_plain plain depth)] at walked
                exact (ih shorter walked).prepend <| Balanced.symbol plain
                  fun separates => bne_iff_ne.mpr (whole separates)

/-- The scan decides balance. -/
theorem balanced_iff_closes {text : List α} :
    Balanced marks false text ↔ marks.closes text = true := by
  constructor
  · intro balanced
    rw [closes, balanced.walk 0 nofun]
    rfl
  · intro accepted
    rw [closes, Option.any_eq_true] at accepted
    obtain ⟨⟨depth, quote⟩, walked, returned⟩ := accepted
    rw [Bool.and_eq_true, Option.isNone_iff_eq_none, beq_iff_eq] at returned
    obtain ⟨rfl, rfl⟩ := returned
    exact pending_of_walk text.length (Nat.le_refl _) walked

instance (text : List α) : Decidable (Balanced marks false text) :=
  decidable_of_iff _ balanced_iff_closes.symm

/-! ## Joining -/

theorem splitFrom_separator (current rest : List α) :
    marks.splitFrom (.outside 0) current (marks.separator :: rest) =
      current :: marks.splitFrom (.outside 0) [] rest := by
  have separated : marks.separates (.outside 0) marks.separator = true := by
    simp [separates, Scan.outside]
  rw [splitFrom, if_pos separated]

/-- Splitting undoes joining. -/
theorem split_joined {first : List α} {others : List (List α)}
    (each : ∀ part ∈ first :: others, Balanced marks false part) :
    marks.split ([marks.separator].intercalate (first :: others)) =
      first :: others := by
  induction others generalizing first with
  | nil =>
      have walked := (each first List.mem_cons_self).walk 0 nofun
      have stays := splitFrom_of_walk walked [] []
      rw [List.append_nil, List.nil_append] at stays
      have only : [marks.separator].intercalate [first] = first := by
        simp [List.intercalate]
      rw [only, Marks.split, stays]
      rfl
  | cons next others ih =>
      obtain ⟨here, rest⟩ := List.forall_mem_cons.mp each
      have walked := here.walk 0 nofun
      have onward := ih rest
      have joined : [marks.separator].intercalate (first :: next :: others) =
          first ++ marks.separator ::
            [marks.separator].intercalate (next :: others) := by
        simp [List.intercalate, List.intersperse]
      rw [joined, Marks.split, splitFrom_of_walk walked, List.nil_append,
        splitFrom_separator]
      rw [Marks.split] at onward
      rw [onward]

end BidayaxExecutive.Library.Nesting
