import BidayaxExecutive.Library.Backtracking
import BidayaxExecutive.Runtime.JsString
import Mathlib.Tactic.SplitIfs

/-!
# Regular expressions over code units

Classes and words for the regular expressions of the source.  With the flag `u`
a text is read by code points, which makes no difference here: every class
that is written out has code units below the surrogates, and a class that is a
complement takes both halves of a pair.
-/

namespace BidayaxExecutive.Runtime

open JsString
open BidayaxExecutive.Library.Backtracking
open BidayaxExecutive.Library.Backtracking.Regex

/-- A letter in lower case for each unit that the flags `iu` take for it; the
long s and the Kelvin sign fold to letters of ASCII. -/
def foldUnit (unit : UInt16) : UInt16 :=
  if 65 ≤ unit && unit ≤ 90 then unit + 32
  else if unit == 0x017F then 115
  else if unit == 0x212A then 107
  else unit

/-- `\d`. -/
def isDigitUnit (unit : UInt16) : Bool :=
  48 ≤ unit && unit ≤ 57

/-- `[A-Z]` under the flag `i`. -/
def isLetterUnit (unit : UInt16) : Bool :=
  97 ≤ foldUnit unit && foldUnit unit ≤ 122

/-- `\w`, and under the flags `iu` what folds to it. -/
def isWordUnit (unit : UInt16) : Bool :=
  isLetterUnit unit || isDigitUnit unit || unit == 95

/-- `\w` without the flag `i`. -/
def isAsciiWordUnit (unit : UInt16) : Bool :=
  (65 ≤ unit && unit ≤ 90) || (97 ≤ unit && unit ≤ 122) ||
    isDigitUnit unit || unit == 95

theorem isLetterUnit_eq_false_of_isSpace {unit : UInt16}
    (blank : isSpace unit = true) : isLetterUnit unit = false := by
  simp only [isSpace, Bool.or_eq_true, Bool.and_eq_true, decide_eq_true_eq,
    beq_iff_eq, UInt16.le_iff_toNat_le, ← UInt16.toNat_inj,
    UInt16.reduceToNat] at blank
  simp only [isLetterUnit, foldUnit]
  split_ifs with capital longS kelvin
  · simp only [Bool.and_eq_true, decide_eq_true_eq, UInt16.le_iff_toNat_le,
      UInt16.reduceToNat] at capital
    omega
  · rw [beq_iff_eq.mp longS] at blank
    revert blank
    decide
  · rw [beq_iff_eq.mp kelvin] at blank
    revert blank
    decide
  · simp only [Bool.and_eq_false_iff, decide_eq_false_iff_not,
      UInt16.le_iff_toNat_le, UInt16.reduceToNat]
    omega

def anyOf (units : JsString) (unit : UInt16) : Bool :=
  units.contains unit

def literal (text : JsString) : Regex UInt16 :=
  sequence (text.map fun unit => one (· == unit))

/-- A text in lower case under the flag `i`. -/
def folded (text : JsString) : Regex UInt16 :=
  sequence (text.map fun unit => one fun other => foldUnit other == unit)

/-- A letter of ASCII in lower case, as the flag `i` alone takes it. -/
def lowerUnit (unit : UInt16) : UInt16 :=
  if 65 ≤ unit && unit ≤ 90 then unit + 32 else unit

/-- A text in lower case under the flag `i` without the flag `u`. -/
def caseless (text : JsString) : Regex UInt16 :=
  sequence (text.map fun unit => one fun other => lowerUnit other == unit)

/-- `\s*`. -/
def spaces : Regex UInt16 :=
  star true (one isSpace)

/-- `\s+`. -/
def someSpaces : Regex UInt16 :=
  plus (one isSpace)

/-- `\S+`. -/
def someText : Regex UInt16 :=
  plus (one fun unit => !isSpace unit)

/-- `\b(first|...)\b` under the flags `iu`. -/
def wholeWord (first : JsString) (others : List JsString) : Regex UInt16 :=
  seq (edge isWordUnit)
    (seq (choice (folded first) (others.map folded)) (edge isWordUnit))

/-! ## Words of literals -/

theorem mem_literal {text word : JsString} :
    word ∈ (literal text).language ↔ word = text := by
  induction text generalizing word with
  | nil =>
      exact mem_nothing
  | cons unit text ih =>
      rw [literal, List.map_cons, mem_sequence_cons]
      constructor
      · rintro ⟨_, ⟨symbol, same, rfl⟩, rest, restMember, rfl⟩
        rw [beq_iff_eq.mp same, ih.mp restMember]
        rfl
      · rintro rfl
        exact ⟨[unit], ⟨unit, beq_self_eq_true unit, rfl⟩, text, ih.mpr rfl,
          rfl⟩

theorem mem_folded {text word : JsString} :
    word ∈ (folded text).language ↔ word.map foldUnit = text := by
  induction text generalizing word with
  | nil =>
      rw [List.map_eq_nil_iff]
      exact mem_nothing
  | cons unit text ih =>
      rw [folded, List.map_cons, mem_sequence_cons]
      constructor
      · rintro ⟨_, ⟨symbol, same, rfl⟩, rest, restMember, rfl⟩
        rw [List.singleton_append, List.map_cons, beq_iff_eq.mp same,
          ih.mp restMember]
      · intro same
        obtain ⟨symbol, rest, rfl, foldsTo, others⟩ :=
          List.map_eq_cons_iff.mp same
        exact ⟨[symbol], ⟨symbol, beq_iff_eq.mpr foldsTo, rfl⟩, rest,
          ih.mpr others, rfl⟩

theorem mem_caseless {text word : JsString} :
    word ∈ (caseless text).language ↔ lowerCase word = text := by
  induction text generalizing word with
  | nil =>
      rw [lowerCase, List.map_eq_nil_iff]
      exact mem_nothing
  | cons unit text ih =>
      rw [caseless, List.map_cons, mem_sequence_cons]
      constructor
      · rintro ⟨_, ⟨symbol, same, rfl⟩, rest, restMember, rfl⟩
        rw [← ih.mp restMember, ← beq_iff_eq.mp same]
        rfl
      · intro same
        obtain ⟨symbol, rest, rfl, lowersTo, others⟩ :=
          List.map_eq_cons_iff.mp same
        exact ⟨[symbol], ⟨symbol, beq_iff_eq.mpr lowersTo, rfl⟩, rest,
          ih.mpr others, rfl⟩

theorem ends_sequence_cons {regex : Regex UInt16}
    {others : List (Regex UInt16)} (place : Place UInt16) :
    (sequence (regex :: others)).ends place =
      (regex.ends place).flatMap (sequence others).ends := by
  cases others with
  | nil =>
      exact (List.flatMap_singleton' _).symm
  | cons next others =>
      rfl

/-- A word has one end. -/
theorem ends_units {test : UInt16 → UInt16 → Bool} (image : UInt16 → UInt16)
    {word : JsString}
    (each : ∀ symbol ∈ word, test (image symbol) symbol = true)
    (passed rest : JsString) :
    (sequence ((word.map image).map fun unit => one (test unit))).ends
      (passed, word ++ rest) = [after passed word rest] := by
  induction word generalizing passed with
  | nil =>
      rfl
  | cons symbol word ih =>
      obtain ⟨here, others⟩ := List.forall_mem_cons.mp each
      have matched : (one (test (image symbol))).ends
          (passed, symbol :: (word ++ rest)) =
            [(symbol :: passed, word ++ rest)] :=
        if_pos here
      rw [List.map_cons, List.map_cons, ends_sequence_cons, List.cons_append,
        matched, List.flatMap_singleton, ih others]
      rw [after, after, List.reverse_cons, List.append_assoc]
      rfl

theorem ends_literal (word passed rest : JsString) :
    (literal word).ends (passed, word ++ rest) = [after passed word rest] := by
  have onWord : (literal (word.map id)).ends (passed, word ++ rest) =
      [after passed word rest] :=
    @ends_units (fun unit other => other == unit) id word
      (fun symbol _ => beq_self_eq_true symbol) passed rest
  rwa [List.map_id] at onWord

theorem ends_caseless {text word : JsString} (reads : lowerCase word = text)
    (passed rest : JsString) :
    (caseless text).ends (passed, word ++ rest) = [after passed word rest] := by
  rw [← reads]
  exact ends_units lowerUnit (fun symbol _ => beq_self_eq_true _) passed rest

/-! ## Words in a trimmed text -/

theorem isWordUnit_eq_false_of_isSpace {unit : UInt16}
    (blank : isSpace unit = true) : isWordUnit unit = false := by
  simp only [isWordUnit, isLetterUnit_eq_false_of_isSpace blank,
    Bool.false_or, isDigitUnit]
  simp only [isSpace, Bool.or_eq_true, Bool.and_eq_true, decide_eq_true_eq,
    beq_iff_eq, UInt16.le_iff_toNat_le, ← UInt16.toNat_inj,
    UInt16.reduceToNat] at blank
  simp only [Bool.or_eq_false_iff, Bool.and_eq_false_iff,
    decide_eq_false_iff_not, beq_eq_false_iff_ne, ne_eq,
    UInt16.le_iff_toNat_le, ← UInt16.toNat_inj, UInt16.reduceToNat]
  omega

/-- The text between the white space at its start and that at its end. -/
theorem exists_trim_splits (text : JsString) :
    ∃ lead trail, text = lead ++ (trim text ++ trail) ∧
      (∀ unit ∈ lead, isSpace unit = true) ∧
      ∀ unit ∈ trail, isSpace unit = true := by
  refine ⟨text.takeWhile isSpace,
    ((text.dropWhile isSpace).reverse.takeWhile isSpace).reverse, ?_, ?_, ?_⟩
  · rw [trim, ← List.reverse_append, List.takeWhile_append_dropWhile,
      List.reverse_reverse, List.takeWhile_append_dropWhile]
  · exact List.all_eq_true.mp List.all_takeWhile
  · intro unit member
    exact List.all_eq_true.mp List.all_takeWhile unit
      (List.mem_reverse.mp member)

/-- A word that starts and ends with letters. -/
structure Lettered (word : JsString) : Prop where
  first : ∃ unit rest, word = unit :: rest ∧ isLetterUnit unit = true
  last : ∃ front unit, word = front ++ [unit] ∧ isLetterUnit unit = true

/-- `[a-z]`. -/
def isLowerUnit (unit : UInt16) : Bool :=
  97 ≤ unit && unit ≤ 122

/-- A text in lower case that starts and ends with letters. -/
def startsAndEndsLettered (text : JsString) : Bool :=
  text.head?.any isLowerUnit && text.reverse.head?.any isLowerUnit

theorem lettered_of_mem_folded {text word : JsString}
    (ends : startsAndEndsLettered text = true)
    (member : word ∈ (folded text).language) : Lettered word := by
  rw [mem_folded] at member
  rw [startsAndEndsLettered, ← member, ← List.map_reverse,
    Bool.and_eq_true] at ends
  refine ⟨?_, ?_⟩
  · cases word with
    | nil => cases ends.1
    | cons unit rest => exact ⟨unit, rest, rfl, ends.1⟩
  · rcases List.eq_nil_or_concat word with rfl | ⟨front, unit, rfl⟩
    · cases ends.2
    · rw [List.concat_eq_append, List.reverse_append] at ends
      exact ⟨front, unit, List.concat_eq_append, ends.2⟩

theorem lettered_of_mem_choice {first : JsString} {others : List JsString}
    (ends : (first :: others).all startsAndEndsLettered = true)
    {word : JsString} (member :
      word ∈ (choice (folded first) (others.map folded)).language) :
    Lettered word := by
  rw [List.all_eq_true, List.forall_mem_cons] at ends
  rw [mem_choice] at member
  rcases member with isFirst | ⟨regex, listed, inRegex⟩
  · exact lettered_of_mem_folded ends.1 isFirst
  · obtain ⟨text, textListed, rfl⟩ := List.mem_map.mp listed
    exact lettered_of_mem_folded (ends.2 text textListed) inRegex

theorem Lettered.prefix_of_blank {word lead before rest after : JsString}
    (lettered : Lettered word) (blank : ∀ unit ∈ lead, isSpace unit = true)
    (same : lead ++ after = before ++ (word ++ rest)) :
    ∃ inner, before = lead ++ inner := by
  obtain ⟨unit, others, rfl, letter⟩ := lettered.first
  rcases List.append_eq_append_iff.mp same with
    ⟨inner, splits, _⟩ | ⟨inner, splits, onward⟩
  · exact ⟨inner, splits⟩
  · cases inner with
    | nil =>
        exact ⟨[], by simpa using splits.symm⟩
    | cons head inner =>
        rw [List.cons_append] at onward
        obtain ⟨rfl, _⟩ := List.cons.inj onward
        have isBlank := blank unit (by rw [splits]; simp)
        rw [isLetterUnit_eq_false_of_isSpace isBlank] at letter
        cases letter

theorem Lettered.suffix_of_blank {word trail before rest front : JsString}
    (lettered : Lettered word) (blank : ∀ unit ∈ trail, isSpace unit = true)
    (same : front ++ trail = (before ++ word) ++ rest) :
    ∃ inner, rest = inner ++ trail := by
  obtain ⟨others, unit, rfl, letter⟩ := lettered.last
  rcases List.append_eq_append_iff.mp same with
    ⟨inner, splits, onward⟩ | ⟨inner, splits, onward⟩
  · rcases List.eq_nil_or_concat inner with rfl | ⟨start, last, rfl⟩
    · exact ⟨[], by simpa using onward.symm⟩
    · rw [List.concat_eq_append, ← List.append_assoc,
        ← List.append_assoc] at splits
      obtain ⟨_, ends⟩ := List.append_inj' splits rfl
      have isBlank := blank unit (by rw [onward]; simp_all)
      rw [isLetterUnit_eq_false_of_isSpace isBlank] at letter
      cases letter
  · exact ⟨inner, onward⟩

/-- A word unit next to a blank, or to nothing, is at an edge. -/
theorem any_head_append_of_blank {lead inner : JsString}
    (blank : ∀ unit ∈ lead, isSpace unit = true) :
    (inner ++ lead).head?.any isWordUnit = inner.head?.any isWordUnit := by
  cases inner with
  | cons unit inner => rfl
  | nil =>
      cases lead with
      | nil => rfl
      | cons unit lead =>
          exact isWordUnit_eq_false_of_isSpace
            (blank unit List.mem_cons_self)

/-- Trimming a text removes no whole word of it that is lettered. -/
theorem found_trim_of_found {first : JsString} {others : List JsString}
    (edgeFree : (choice (folded first) (others.map folded)).EdgeFree)
    (ends : (first :: others).all startsAndEndsLettered = true)
    {text : JsString}
    (there : (wholeWord first others).found text = true) :
    (wholeWord first others).found (trim text) = true := by
  rw [wholeWord, found_between_edges edgeFree] at there ⊢
  obtain ⟨before, word, rest, splits, member, atStart, atEnd⟩ := there
  obtain ⟨lead, trail, trims, leadBlank, trailBlank⟩ := exists_trim_splits text
  have isLettered := lettered_of_mem_choice ends member
  obtain ⟨inner, rfl⟩ := isLettered.prefix_of_blank leadBlank
    (trims.symm.trans splits)
  have ending : (lead ++ trim text) ++ trail =
      ((lead ++ inner) ++ word) ++ rest := by
    rw [List.append_assoc, ← trims, splits]
    simp only [List.append_assoc]
  obtain ⟨onward, rfl⟩ := isLettered.suffix_of_blank trailBlank ending
  have leadBlanks : ∀ unit ∈ lead.reverse, isSpace unit = true :=
    fun unit inside => leadBlank unit (List.mem_reverse.mp inside)
  refine ⟨inner, word, onward, ?_, member, ?_, ?_⟩
  · have whole : lead ++ (trim text ++ trail) =
        lead ++ ((inner ++ (word ++ onward)) ++ trail) := by
      rw [← trims, splits]
      simp only [List.append_assoc]
    exact List.append_cancel_right (List.append_cancel_left whole)
  · rwa [List.reverse_append, any_head_append_of_blank leadBlanks,
      ← List.append_assoc, any_head_append_of_blank trailBlank] at atStart
  · rwa [List.reverse_append, ← List.append_assoc,
      any_head_append_of_blank leadBlanks,
      any_head_append_of_blank trailBlank] at atEnd

end BidayaxExecutive.Runtime
