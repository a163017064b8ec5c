import BidayaxExecutive.Runtime.JsString

/-!
# Text of the reconciliation package

White space, identifiers and replacements of the kind that regular expressions
describe.  A replacement walks over the text once; a match is looked for at
every position behind the last one.
-/

namespace BidayaxExecutive.Reconciliation

open BidayaxExecutive.Runtime JsString

/-! ## White space -/

/-- `text.replace(/\r\n/g, "\n")`. -/
def replaceLineEnds : JsString → JsString
  | 13 :: 10 :: rest => 10 :: replaceLineEnds rest
  | unit :: rest => unit :: replaceLineEnds rest
  | [] => []

theorem replaceLineEnds_of_not_mem {text : JsString} (plain : 13 ∉ text) :
    replaceLineEnds text = text := by
  induction text with
  | nil => rfl
  | cons unit rest inductionHypothesis =>
      rw [List.mem_cons, not_or] at plain
      rw [replaceLineEnds, inductionHypothesis plain.2]
      intro next same _
      exact plain.1 same.symm

/-- Every run of units of a class becomes one unit. -/
def collapseRuns (test : UInt16 → Bool) (single : UInt16) :
    Bool → JsString → JsString
  | _, [] => []
  | inRun, unit :: rest =>
      if test unit then
        if inRun then collapseRuns test single true rest
        else single :: collapseRuns test single true rest
      else unit :: collapseRuns test single false rest

def collapseWhitespace (value : JsString) : JsString :=
  trim <| collapseRuns (fun unit => unit == 10) 10 false <|
    collapseRuns (fun unit => unit == 32 || unit == 9) 32 false <|
      replaceLineEnds value

def trimEnd (text : JsString) : JsString :=
  (text.reverse.dropWhile isSpace).reverse

/-! ## Words -/

/-- `\w`. -/
def isWordUnit (unit : UInt16) : Bool :=
  isDigit unit || (65 ≤ unit && unit ≤ 90) || (97 ≤ unit && unit ≤ 122) ||
    unit == 95

/-- `\b` between a unit and a text. -/
def atBoundary (before : Option UInt16) (text : JsString) : Bool :=
  before.any isWordUnit != text.head?.any isWordUnit

/-- A word in either case at the start of a text. -/
def dropWord? (word text : JsString) : Option JsString :=
  if lowerCase (text.take word.length) = word then
    some (text.drop word.length)
  else none

def dropAnyWord? (words : List JsString) (text : JsString) :
    Option JsString :=
  words.findSome? fun word => dropWord? word text

/-- `[a-z_][a-z0-9_]*` in either case. -/
def takeIdentifier? (text : JsString) : Option (JsString × JsString) :=
  match text with
  | [] => none
  | unit :: _ =>
      if isWordUnit unit && !isDigit unit then
        some (text.takeWhile isWordUnit, text.dropWhile isWordUnit)
      else none

/-- `[0-9]+(?:\.[0-9]+)?`. -/
def takeNumber? (text : JsString) : Option (JsString × JsString) :=
  let whole := text.takeWhile isDigit
  if whole.isEmpty then none
  else
    match text.dropWhile isDigit with
    | 46 :: unit :: rest =>
        if isDigit unit then
          some (whole ++ 46 :: (unit :: rest).takeWhile isDigit,
            (unit :: rest).dropWhile isDigit)
        else some (whole, 46 :: unit :: rest)
    | rest => some (whole, rest)

/-- `\s+`. -/
def dropSpaces? (text : JsString) : Option JsString :=
  if text.head?.any isSpace then some (text.dropWhile isSpace) else none

/-! ## Replacements -/

/-- A pattern at the start of a text, with the unit in front of it: what a
match becomes and what is left behind it. -/
abbrev Matcher := Option UInt16 → JsString → Option (JsString × JsString)

/-- `skipped` units of the last match are still to be passed over. -/
def replaceFrom (pattern : Matcher) : Nat → Option UInt16 → JsString → JsString
  | _, _, [] => []
  | skipped + 1, _, unit :: rest => replaceFrom pattern skipped (some unit) rest
  | 0, before, unit :: rest =>
      match pattern before (unit :: rest) with
      | some (replacement, left) =>
          replacement ++
            replaceFrom pattern (rest.length - left.length) (some unit) rest
      | none => unit :: replaceFrom pattern 0 (some unit) rest

/-- `text.replace(pattern, replacement)` with the flag `g`. -/
def replaceAll (pattern : Matcher) (text : JsString) : JsString :=
  replaceFrom pattern 0 none text

end BidayaxExecutive.Reconciliation
