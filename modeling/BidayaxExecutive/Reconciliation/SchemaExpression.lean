import BidayaxExecutive.Reconciliation.Text

/-!
# Normal forms of SQL expressions

The text of a check, a predicate or a generated column is rewritten before two
definitions are compared: letters, white space and parentheses, some casts, and
the two spellings of ranges and of membership in a list.
-/

namespace BidayaxExecutive.Reconciliation

open BidayaxExecutive.Runtime JsString

/-- What the package takes from the platform: whether `localeCompare` of two
texts is at most zero, and the case of letters. -/
structure SchemaPlatform where
  localeLe : JsString → JsString → Bool
  toLowerCase : JsString → JsString
  toUpperCase : JsString → JsString

/-! ## Outer parentheses -/

def outerParensFrom : Option UInt16 → Int → Bool → JsString → Bool
  | _, depth, _, [] => depth == 0
  | previous, depth, inSingleQuote, unit :: rest =>
      if unit = 39 ∧ previous ≠ some 92 then
        outerParensFrom (some unit) depth (!inSingleQuote) rest
      else if inSingleQuote then
        outerParensFrom (some unit) depth inSingleQuote rest
      else if unit = 40 then
        outerParensFrom (some unit) (depth + 1) inSingleQuote rest
      else if unit = 41 then
        if depth - 1 = 0 ∧ rest ≠ [] then false
        else outerParensFrom (some unit) (depth - 1) inSingleQuote rest
      else outerParensFrom (some unit) depth inSingleQuote rest

def hasSingleOuterParenPair (value : JsString) : Bool :=
  value.head? == some 40 && value.getLast? == some 41 &&
    outerParensFrom none 0 false value

/-- `value.slice(1, -1)`. -/
def withoutEnds (value : JsString) : JsString :=
  (value.drop 1).dropLast

/-- Every turn of the loop shortens the text, so its length bounds them. -/
def unwrapTurns : Nat → JsString → JsString
  | 0, value => value
  | turns + 1, value =>
      if hasSingleOuterParenPair value then
        unwrapTurns turns (trim (withoutEnds value))
      else value

def unwrapOuterParens (value : JsString) : JsString :=
  unwrapTurns value.length (trim value)

/-! ## Lists and casts -/

def splitFrom (parts : List JsString) (current : JsString)
    (inSingleQuote : Bool) (previous : Option UInt16) :
    JsString → List JsString
  | [] =>
      if (trim current).isEmpty then parts else parts ++ [trim current]
  | unit :: rest =>
      if unit = 39 ∧ previous ≠ some 92 then
        splitFrom parts (current ++ [unit]) (!inSingleQuote) (some unit) rest
      else if unit = 44 ∧ inSingleQuote = false then
        splitFrom
          (if (trim current).isEmpty then parts else parts ++ [trim current])
          [] inSingleQuote (some unit) rest
      else splitFrom parts (current ++ [unit]) inSingleQuote (some unit) rest

def splitExpressionList (value : JsString) : List JsString :=
  splitFrom [] [] false none value

def textTypes : List JsString :=
  [js "text", js "varchar", js "character varying"]

def numberTypes : List JsString :=
  [js "integer", js "bigint", js "numeric", js "double precision", js "real"]

/-- `::` and one of the types. -/
def dropCast? (types : List JsString) (text : JsString) : Option JsString :=
  (dropWord? (js "::") text).bind (dropAnyWord? types)

/-- `/'([^']*)'::(?:text|varchar|character varying)/`. -/
def literalCast : Matcher := fun _ text =>
  match text with
  | 39 :: quoted =>
      let literal := quoted.takeWhile (· != 39)
      match quoted.dropWhile (· != 39) with
      | 39 :: after =>
          (dropCast? textTypes after).map fun left =>
            (39 :: (literal ++ [39]), left)
      | _ => none
  | _ => none

/-- `/\b(true|false)\b::boolean/`. -/
def truthCast : Matcher := fun before text =>
  if atBoundary before text then
    [js "true", js "false"].findSome? fun word =>
      (dropWord? word text).bind fun after =>
        if atBoundary (text.take word.length).getLast? after then
          (dropCast? [js "boolean"] after).map fun left =>
            (text.take word.length, left)
        else none
  else none

/-- `/\b([0-9]+(?:\.[0-9]+)?)::(?:integer|bigint|numeric|double
precision|real)/`. -/
def numberCast : Matcher := fun before text =>
  if atBoundary before text then
    (takeNumber? text).bind fun (number, after) =>
      (dropCast? numberTypes after).map fun left => (number, left)
  else none

/-- `/\(([a-z_][a-z0-9_]*)\)::(?:text|varchar|character varying)/`. -/
def identifierCast : Matcher := fun _ text =>
  match text with
  | 40 :: inner =>
      match takeIdentifier? inner with
      | some (identifier, 41 :: after) =>
          (dropCast? textTypes after).map fun left => (identifier, left)
      | _ => none
  | _ => none

/-- `/\)::(?:text|varchar|character varying)\[\]/`. -/
def arrayCast : Matcher := fun _ text =>
  match text with
  | 41 :: after =>
      (dropWord? (js "::") after).bind fun named =>
        textTypes.findSome? fun type =>
          ((dropWord? type named).bind (dropWord? (js "[]"))).map fun left =>
            ([41], left)
  | _ => none

def stripSafeLiteralCasts (value : JsString) : JsString :=
  replaceAll arrayCast <| replaceAll identifierCast <|
    replaceAll numberCast <| replaceAll truthCast <|
      replaceAll literalCast value

/-! ## White space, case and punctuation -/

/-- A blank in front of the next unit if one is pending. -/
def withPending (result : JsString) (pendingWhitespace : Bool) : JsString :=
  if pendingWhitespace && !result.isEmpty then result ++ [32] else result

def whitespaceAndCaseFrom (platform : SchemaPlatform) :
    JsString → Bool → Bool → JsString → JsString
  | result, _, _, [] => trim result
  | result, pendingWhitespace, inSingleQuote, 39 :: 39 :: rest =>
      if inSingleQuote then
        whitespaceAndCaseFrom platform (result ++ [39, 39]) pendingWhitespace
          true rest
      else
        whitespaceAndCaseFrom platform
          (withPending result pendingWhitespace ++ [39]) false true (39 :: rest)
  | result, pendingWhitespace, inSingleQuote, unit :: rest =>
      if unit = 39 then
        whitespaceAndCaseFrom platform
          (withPending result pendingWhitespace ++ [39]) false
          (!inSingleQuote) rest
      else if inSingleQuote = false ∧ isSpace unit = true then
        whitespaceAndCaseFrom platform result true inSingleQuote rest
      else
        whitespaceAndCaseFrom platform
          (withPending result pendingWhitespace ++
            if inSingleQuote then [unit] else platform.toLowerCase [unit])
          false inSingleQuote rest

def normalizeExpressionWhitespaceAndCase (platform : SchemaPlatform)
    (value : JsString) : JsString :=
  whitespaceAndCaseFrom platform [] false false (replaceLineEnds value)

/-- `skipping` passes over the blanks behind an opening parenthesis or a
comma. -/
def punctuationFrom : JsString → Bool → Bool → JsString → JsString
  | result, _, _, [] => trim result
  | result, inSingleQuote, _, 39 :: 39 :: rest =>
      if inSingleQuote then
        punctuationFrom (result ++ [39, 39]) true false rest
      else punctuationFrom (result ++ [39]) true false (39 :: rest)
  | result, inSingleQuote, skipping, unit :: rest =>
      if skipping = true ∧ unit = 32 then
        punctuationFrom result inSingleQuote true rest
      else if unit = 39 then
        punctuationFrom (result ++ [39]) (!inSingleQuote) false rest
      else if inSingleQuote then
        punctuationFrom (result ++ [unit]) inSingleQuote false rest
      else if unit = 40 then
        punctuationFrom (result ++ [40]) inSingleQuote true rest
      else if unit = 41 then
        punctuationFrom (trimEnd result ++ [41]) inSingleQuote false rest
      else if unit = 44 then
        punctuationFrom (trimEnd result ++ [44, 32]) inSingleQuote true rest
      else punctuationFrom (result ++ [unit]) inSingleQuote false rest

def normalizeExpressionPunctuation (value : JsString) : JsString :=
  punctuationFrom [] false false value

/-! ## Ranges and membership -/

/-- `/\b([a-z_][a-z0-9_]*)\s+between\s+(number)\s+and\s+(number)/`. -/
def betweenRange : Matcher := fun before text =>
  if atBoundary before text then do
    let (identifier, text) ← takeIdentifier? text
    let text ← dropSpaces? text
    let text ← dropWord? (js "between") text
    let text ← dropSpaces? text
    let (lower, text) ← takeNumber? text
    let text ← dropSpaces? text
    let text ← dropWord? (js "and") text
    let text ← dropSpaces? text
    let (upper, left) ← takeNumber? text
    some (identifier ++ js " >= " ++ lower ++ js " and " ++ identifier ++
      js " <= " ++ upper, left)
  else none

def normalizeBetweenExpression (value : JsString) : JsString :=
  replaceAll betweenRange value

/-- `/([a-z_][a-z0-9_]*)\s*OPERATOR\s*WORD\s*\(\s*array\[([^\]]+)\]\s*\)/`. -/
def arrayMembership (operator word membership : JsString) : Matcher :=
    fun _ text => do
  let (identifier, text) ← takeIdentifier? text
  let text ← dropWord? operator (text.dropWhile isSpace)
  let text ← dropWord? word (text.dropWhile isSpace)
  let text ← dropWord? (js "(") (text.dropWhile isSpace)
  let text ← dropWord? (js "array[") (text.dropWhile isSpace)
  let entries := text.takeWhile (· != 93)
  let text ← dropWord? (js "]") (text.dropWhile (· != 93))
  let left ← dropWord? (js ")") (text.dropWhile isSpace)
  if entries.isEmpty then none
  else
    let normalizedEntries := (splitExpressionList entries).map fun entry =>
      collapseWhitespace (stripSafeLiteralCasts entry)
    some (identifier ++ js " " ++ membership ++ js " (" ++
      (js ", ").intercalate normalizedEntries ++ js ")", left)

def normalizeMembershipExpression (value : JsString) : JsString :=
  replaceAll (arrayMembership (js "<>") (js "all") (js "not in")) <|
    replaceAll (arrayMembership (js "=") (js "any") (js "in")) value

/-! ## Inner parentheses -/

/-- `/\bor\b/` somewhere in a text. -/
def hasOrFrom : Option UInt16 → JsString → Bool
  | _, [] => false
  | before, unit :: rest =>
      ((dropWord? (js "or") (unit :: rest)).any fun after =>
        atBoundary before (unit :: rest) &&
          atBoundary ((unit :: rest).take 2).getLast? after) ||
        hasOrFrom (some unit) rest

def isParen (unit : UInt16) : Bool :=
  unit == 40 || unit == 41

/-- `/\(([^()]+)\)/`; what holds an `or` keeps its parentheses. -/
def atomicParens : Matcher := fun _ text =>
  match text with
  | 40 :: after =>
      let inner := after.takeWhile fun unit => !isParen unit
      match after.dropWhile fun unit => !isParen unit with
      | 41 :: left =>
          if inner.isEmpty then none
          else if hasOrFrom none inner then
            some (40 :: (inner ++ [41]), left)
          else some (trim inner, left)
      | _ => none
  | _ => none

/-- A turn that changes the text shortens it. -/
def stripTurns : Nat → JsString → JsString
  | 0, value => value
  | turns + 1, value =>
      if replaceAll atomicParens value = value then value
      else stripTurns turns (replaceAll atomicParens value)

def stripAtomicParens (value : JsString) : JsString :=
  stripTurns value.length value

def normalizeSchemaExpression (platform : SchemaPlatform) (value : JsString) :
    JsString :=
  let collapsed := normalizeExpressionWhitespaceAndCase platform
    (unwrapOuterParens value)
  let normalized := stripAtomicParens <| normalizeBetweenExpression <|
    normalizeMembershipExpression <| stripSafeLiteralCasts collapsed
  normalizeExpressionPunctuation <|
    normalizeExpressionWhitespaceAndCase platform <|
      unwrapOuterParens normalized

end BidayaxExecutive.Reconciliation
