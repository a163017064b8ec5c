import BidayaxExecutive.Library.Nesting
import BidayaxExecutive.Reconciliation.MigrationParser

/-!
# Entries between the outer commas

`splitTopLevelCsv` keeps a depth and a flag for either kind of quote.  The two
flags are one open quote, so the function splits a nested list at its outer
commas and then trims the parts.
-/

namespace BidayaxExecutive.Reconciliation.MigrationParser

open BidayaxExecutive.Runtime JsString
open BidayaxExecutive.Library.Nesting

/-- Parentheses, commas and the two kinds of quotes. -/
def csvMarks : Marks UInt16 where
  opening := 40
  closing := 41
  separator := 44
  isQuote := fun unit => unit == 39 || unit == 34
  opening_ne_closing := by decide
  separator_ne_opening := by decide
  separator_ne_closing := by decide
  opening_unquoted := rfl
  closing_unquoted := rfl
  separator_unquoted := rfl

/-! ## The flags -/

namespace CsvState

/-- At most one quote is open. -/
def OneQuote (state : CsvState) : Prop :=
  ¬(state.inSingleQuote = true ∧ state.inDoubleQuote = true)

def scan (state : CsvState) : Scan UInt16 :=
  ⟨state.depth,
    if state.inSingleQuote then some 39
    else if state.inDoubleQuote then some 34
    else none⟩

theorem step_oneQuote {state : CsvState} (oneQuote : state.OneQuote)
    (character : UInt16) : (state.step character).OneQuote := by
  rw [step]
  by_cases single : character = 39 ∧ state.inDoubleQuote = false
  · rw [if_pos single]
    intro both
    exact Bool.false_ne_true (single.2.symm.trans both.2)
  · by_cases double : character = 34 ∧ state.inSingleQuote = false
    · rw [if_neg single, if_pos double]
      intro both
      exact Bool.false_ne_true (double.2.symm.trans both.1)
    · rw [if_neg single, if_neg double]
      split_ifs
      all_goals exact oneQuote

theorem scan_step {state : CsvState} (oneQuote : state.OneQuote)
    (character : UInt16) :
    (state.step character).scan = csvMarks.step state.scan character := by
  obtain ⟨depth, inSingleQuote, inDoubleQuote⟩ := state
  cases inSingleQuote with
  | true =>
      cases inDoubleQuote with
      | true =>
          exact absurd ⟨rfl, rfl⟩ oneQuote
      | false =>
          by_cases closes : character = 39
          · simp [step, scan, Marks.step, closes]
          · simp [step, scan, Marks.step, closes, isQuoted]
  | false =>
      cases inDoubleQuote with
      | true =>
          by_cases closes : character = 34
          · simp [step, scan, Marks.step, closes]
          · simp [step, scan, Marks.step, closes, isQuoted]
      | false =>
          by_cases single : character = 39
          · simp [step, scan, Marks.step, csvMarks, single]
          · by_cases double : character = 34
            · simp [step, scan, Marks.step, csvMarks, double]
            · by_cases opens : character = 40
              · simp [step, scan, Marks.step, csvMarks, opens, isQuoted]
              · by_cases closes : character = 41
                · simp [step, scan, Marks.step, csvMarks, closes, isQuoted]
                · simp [step, scan, Marks.step, csvMarks, single, double,
                    opens, closes, isQuoted]

theorem splitsAt_eq (state : CsvState) (character : UInt16) :
    state.splitsAt character = csvMarks.separates state.scan character := by
  obtain ⟨depth, inSingleQuote, inDoubleQuote⟩ := state
  cases inSingleQuote <;> cases inDoubleQuote <;> rfl

end CsvState

/-- The parts are trimmed, and blank ones are left out. -/
theorem splitTopLevelCsvFrom_eq {state : CsvState}
    (oneQuote : state.OneQuote) (current text : JsString) :
    splitTopLevelCsvFrom state current text =
      (csvMarks.splitFrom state.scan current text).flatMap keptPart := by
  induction text generalizing state current with
  | nil =>
      rw [splitTopLevelCsvFrom, Marks.splitFrom, List.flatMap_singleton]
  | cons character text ih =>
      rw [splitTopLevelCsvFrom, Marks.splitFrom, CsvState.splitsAt_eq]
      by_cases splits : csvMarks.separates state.scan character = true
      · rw [if_pos splits, if_pos splits, List.flatMap_cons, ih oneQuote]
      · rw [if_neg splits, if_neg splits,
          ih (CsvState.step_oneQuote oneQuote character),
          CsvState.scan_step oneQuote]

theorem splitTopLevelCsv_eq (value : JsString) :
    splitTopLevelCsv value = (csvMarks.split value).flatMap keptPart :=
  splitTopLevelCsvFrom_eq (fun both => Bool.false_ne_true both.1) [] value

/-! ## Joining -/

theorem balanced_blank {inside : Bool} {text : JsString}
    (blank : ∀ unit ∈ text, isSpace unit = true) :
    Balanced csvMarks inside text := by
  refine balanced_of_forall fun unit member => ?_
  have isBlank := blank unit member
  simp only [isSpace, Bool.or_eq_true, Bool.and_eq_true, decide_eq_true_eq,
    beq_iff_eq, UInt16.le_iff_toNat_le, ← UInt16.toNat_inj,
    UInt16.reduceToNat] at isBlank
  simp only [Marks.Plain, csvMarks, Bool.or_eq_false_iff, beq_eq_false_iff_ne,
    ne_eq, ← UInt16.toNat_inj, UInt16.reduceToNat]
  omega

theorem keptPart_of_trim {current entry : JsString} (filled : entry ≠ [])
    (trimmed : trim current = entry) : keptPart current = [entry] := by
  rw [keptPart, trimmed, if_neg]
  rwa [List.isEmpty_iff]

theorem trim_cons_blank {unit : UInt16} (blank : isSpace unit = true)
    (text : JsString) : trim (unit :: text) = trim text := by
  rw [trim, List.dropWhile_cons_of_pos blank, trim]

/-- A comma and a blank join what a comma joins, a blank in front of each
entry but the first. -/
theorem intercalate_commaBlank (first : JsString) (others : List JsString) :
    (js ", ").intercalate (first :: others) =
      [44].intercalate (first :: others.map (32 :: ·)) := by
  induction others generalizing first with
  | nil =>
      simp [List.intercalate]
  | cons next others ih =>
      have separator : js ", " = [44, 32] := by decide
      have onward := ih next
      rw [separator] at onward ⊢
      have joined :
          ([44, 32] : JsString).intercalate (first :: next :: others) =
            first ++ 44 :: 32 :: ([44, 32] : JsString).intercalate
              (next :: others) := by
        simp [List.intercalate]
      have blankFirst (rest : List JsString) :
          ([44] : JsString).intercalate ((32 :: next) :: rest) =
            32 :: ([44] : JsString).intercalate (next :: rest) := by
        cases rest <;> simp [List.intercalate]
      rw [joined, onward, ← blankFirst]
      simp [List.intercalate]

/-- Splitting undoes joining with a comma and a blank. -/
theorem splitTopLevelCsv_joined {entries : List JsString}
    (each : ∀ entry ∈ entries,
      entry ≠ [] ∧ trim entry = entry ∧ Balanced csvMarks false entry) :
    splitTopLevelCsv ((js ", ").intercalate entries) = entries := by
  cases entries with
  | nil =>
      rfl
  | cons first others =>
      obtain ⟨here, rest⟩ := List.forall_mem_cons.mp each
      have blank : Balanced csvMarks false [32] :=
        balanced_blank (List.forall_mem_singleton.mpr rfl)
      have balanced : ∀ part ∈ first :: others.map (32 :: ·),
          Balanced csvMarks false part := by
        refine List.forall_mem_cons.mpr ⟨here.2.2, ?_⟩
        intro part member
        obtain ⟨entry, isEntry, rfl⟩ := List.mem_map.mp member
        exact blank.append (rest entry isEntry).2.2
      have kept : ∀ entry ∈ others, keptPart (32 :: entry) = [entry] := by
        intro entry isEntry
        obtain ⟨filled, trimmed, _⟩ := rest entry isEntry
        exact keptPart_of_trim filled
          ((trim_cons_blank rfl entry).trans trimmed)
      have split := split_joined balanced
      rw [splitTopLevelCsv_eq, intercalate_commaBlank]
      rw [show csvMarks.separator = 44 from rfl] at split
      rw [split, List.flatMap_cons, keptPart_of_trim here.1 here.2.1,
        List.flatMap_map, List.flatMap_congr kept]
      simp

theorem splitTopLevelCsv_joined_columns :
    splitTopLevelCsv ((js ", ").intercalate
        [js "id uuid", js "name text DEFAULT f(1, 'it''s (')",
          js "\"a,b\" text"]) =
      [js "id uuid", js "name text DEFAULT f(1, 'it''s (')",
        js "\"a,b\" text"] :=
  splitTopLevelCsv_joined (by decide)

end BidayaxExecutive.Reconciliation.MigrationParser
