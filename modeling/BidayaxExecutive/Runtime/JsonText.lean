import BidayaxExecutive.Runtime.JsValue

/-!
# `JSON.stringify`

The printer follows `SerializeJSONProperty` and `QuoteJSONString` without
indentation: the seven short escapes, `\uXXXX` in lower case for the other
control characters and for lone surrogates, and every remaining code unit as
it is.  A surrogate pair is one code point and is printed unescaped.  The text
is therefore always well-formed UTF-16, whatever the strings of the value are.
-/

namespace BidayaxExecutive.Runtime

open JsString

/-! ## Surrogates -/

def isHighSurrogate (unit : UInt16) : Bool :=
  0xD800 ≤ unit && unit ≤ 0xDBFF

def isLowSurrogate (unit : UInt16) : Bool :=
  0xDC00 ≤ unit && unit ≤ 0xDFFF

def isSurrogate (unit : UInt16) : Bool :=
  isHighSurrogate unit || isLowSurrogate unit

/-- Well-formed UTF-16: surrogates come in high-low pairs. -/
inductive Paired : JsString → Prop
  | nil : Paired []
  | scalar {unit : UInt16} {rest : JsString} :
      isSurrogate unit = false → Paired rest → Paired (unit :: rest)
  | pair {high low : UInt16} {rest : JsString} :
      isHighSurrogate high = true → isLowSurrogate low = true →
      Paired rest → Paired (high :: low :: rest)

theorem Paired.append {left right : JsString}
    (leftPaired : Paired left) (rightPaired : Paired right) :
    Paired (left ++ right) := by
  induction leftPaired with
  | nil =>
      exact rightPaired
  | scalar plain _ inductionHypothesis =>
      exact Paired.scalar plain inductionHypothesis
  | pair high low _ inductionHypothesis =>
      exact Paired.pair high low inductionHypothesis

theorem isSurrogate_of_lt {unit : UInt16} (small : unit < 0xD800) :
    isSurrogate unit = false := by
  simp only [isSurrogate, isHighSurrogate, isLowSurrogate,
    UInt16.le_iff_toNat_le, UInt16.lt_iff_toNat_lt, Bool.or_eq_false_iff,
    Bool.and_eq_false_iff, decide_eq_false_iff_not] at small ⊢
  exact ⟨Or.inl (by omega), Or.inl (by
    have : (0xD800 : UInt16).toNat < (0xDC00 : UInt16).toNat := by decide
    omega)⟩

theorem Paired.of_small {text : JsString}
    (small : ∀ unit ∈ text, unit < 0xD800) :
    Paired text := by
  induction text with
  | nil =>
      exact Paired.nil
  | cons unit rest inductionHypothesis =>
      have headSmall : unit < 0xD800 := small unit List.mem_cons_self
      have restPaired : Paired rest := inductionHypothesis fun other member =>
        small other (List.mem_cons_of_mem unit member)
      exact Paired.scalar (isSurrogate_of_lt headSmall) restPaired

theorem Paired.of_isAscii {text : JsString}
    (ascii : isAscii text = true) :
    Paired text := by
  apply Paired.of_small
  intro unit member
  have unitAscii := List.all_eq_true.mp ascii unit member
  simp only [decide_eq_true_eq, UInt16.lt_iff_toNat_lt] at unitAscii ⊢
  have : (128 : UInt16).toNat < (0xD800 : UInt16).toNat := by decide
  omega

/-! ## Strings -/

def hexUnit (digit : Nat) : UInt16 :=
  if digit < 10 then (48 + digit).toUInt16 else (87 + digit).toUInt16

/-- `\uXXXX`, in lower case. -/
def unicodeEscape (unit : UInt16) : JsString :=
  [92, 117, hexUnit (unit.toNat / 4096), hexUnit (unit.toNat / 256 % 16),
    hexUnit (unit.toNat / 16 % 16), hexUnit (unit.toNat % 16)]

/-- The letter of the two-character escapes of `QuoteJSONString`. -/
def shortEscape? (unit : UInt16) : Option UInt16 :=
  if unit = 8 then some 98
  else if unit = 9 then some 116
  else if unit = 10 then some 110
  else if unit = 12 then some 102
  else if unit = 13 then some 114
  else if unit = 34 then some 34
  else if unit = 92 then some 92
  else none

/-- One code unit that is not half of a surrogate pair. -/
def escapeUnit (unit : UInt16) : JsString :=
  match shortEscape? unit with
  | some letter => [92, letter]
  | none =>
      if unit < 32 || isSurrogate unit then unicodeEscape unit else [unit]

def escapeText : JsString → JsString
  | [] => []
  | [unit] => escapeUnit unit
  | first :: second :: rest =>
      if isHighSurrogate first && isLowSurrogate second then
        first :: second :: escapeText rest
      else escapeUnit first ++ escapeText (second :: rest)

/-- `QuoteJSONString`. -/
def quote (text : JsString) : JsString :=
  34 :: (escapeText text ++ [34])

theorem hexUnit_lt :
    ∀ digit : Nat, digit < 16 → hexUnit digit < 128 := by
  decide

private theorem shortEscape?_lt {unit letter : UInt16}
    (escape : shortEscape? unit = some letter) :
    letter < 128 := by
  unfold shortEscape? at escape
  split_ifs at escape <;>
    (simp only [Option.some.injEq] at escape; subst escape; decide)

theorem escapeUnit_paired (unit : UInt16) :
    Paired (escapeUnit unit) := by
  unfold escapeUnit
  cases escape : shortEscape? unit with
  | some letter =>
      apply Paired.of_isAscii
      simpa [isAscii] using shortEscape?_lt escape
  | none =>
      by_cases hidden : (unit < 32 || isSurrogate unit) = true
      · simp only [hidden, if_true]
        apply Paired.of_isAscii
        have bound := unit.toNat_lt
        have first := hexUnit_lt (unit.toNat / 4096) (by omega)
        have second :=
          hexUnit_lt (unit.toNat / 256 % 16) (by omega)
        have third := hexUnit_lt (unit.toNat / 16 % 16) (by omega)
        have fourth := hexUnit_lt (unit.toNat % 16) (by omega)
        simp [isAscii, unicodeEscape, first, second, third, fourth]
      · simp only [hidden]
        have plain : isSurrogate unit = false := by
          simp only [Bool.not_eq_true, Bool.or_eq_false_iff] at hidden
          exact hidden.2
        exact Paired.scalar plain Paired.nil

theorem escapeText_paired : ∀ text : JsString, Paired (escapeText text)
  | [] => Paired.nil
  | [unit] => escapeUnit_paired unit
  | first :: second :: rest => by
      rw [escapeText]
      split_ifs with isPair
      · have halves := Bool.and_eq_true_iff.mp isPair
        exact Paired.pair halves.1 halves.2 (escapeText_paired rest)
      · exact (escapeUnit_paired first).append
          (escapeText_paired (second :: rest))

private theorem paired_singleton_of_lt {unit : UInt16}
    (small : unit < 0xD800) :
    Paired [unit] :=
  Paired.scalar (isSurrogate_of_lt small) Paired.nil

theorem quote_paired (text : JsString) : Paired (quote text) :=
  (paired_singleton_of_lt (by decide : (34 : UInt16) < 0xD800)).append <|
    (escapeText_paired text).append
      (paired_singleton_of_lt (by decide))

/-- A code unit printed as itself. -/
def isVerbatim (unit : UInt16) : Bool :=
  32 ≤ unit && unit < 0xD800 && unit != 34 && unit != 92

theorem escapeUnit_of_isVerbatim {unit : UInt16}
    (verbatim : isVerbatim unit = true) :
    escapeUnit unit = [unit] := by
  simp only [isVerbatim, Bool.and_eq_true, decide_eq_true_eq,
    bne_iff_ne] at verbatim
  obtain ⟨⟨⟨printable, small⟩, notQuote⟩, notBackslash⟩ := verbatim
  have plain := isSurrogate_of_lt small
  have notControl : ¬ unit < 32 := by
    simpa [UInt16.not_lt] using printable
  have noEscape : shortEscape? unit = none := by
    unfold shortEscape?
    rw [UInt16.le_iff_toNat_le] at printable
    have differs : ∀ other : UInt16, other.toNat < 32 → unit ≠ other := by
      intro other otherSmall equal
      subst equal
      have : (32 : UInt16).toNat = 32 := rfl
      omega
    simp [notQuote, notBackslash, differs 8 (by decide),
      differs 9 (by decide), differs 10 (by decide), differs 12 (by decide),
      differs 13 (by decide)]
  simp [escapeUnit, noEscape, notControl, plain]

theorem isHighSurrogate_of_isVerbatim {unit : UInt16}
    (verbatim : isVerbatim unit = true) :
    isHighSurrogate unit = false := by
  simp only [isVerbatim, Bool.and_eq_true, decide_eq_true_eq] at verbatim
  have plain := isSurrogate_of_lt verbatim.1.1.2
  exact (Bool.or_eq_false_iff.mp plain).1

/-- Text without quotes, backslashes, control characters and surrogates is
printed as it is. -/
theorem escapeText_of_isVerbatim : ∀ {text : JsString},
    (∀ unit ∈ text, isVerbatim unit = true) → escapeText text = text
  | [], _ => rfl
  | [unit], verbatim =>
      escapeUnit_of_isVerbatim (verbatim unit List.mem_cons_self)
  | first :: second :: rest, verbatim => by
      have firstVerbatim := verbatim first List.mem_cons_self
      have restVerbatim : ∀ unit ∈ second :: rest, isVerbatim unit = true :=
        fun unit member => verbatim unit (List.mem_cons_of_mem first member)
      rw [escapeText, isHighSurrogate_of_isVerbatim firstVerbatim]
      simp only [Bool.false_and, Bool.false_eq_true, if_false]
      rw [escapeUnit_of_isVerbatim firstVerbatim,
        escapeText_of_isVerbatim restVerbatim]
      rfl

/-! ## Values -/

/-- `NaN` and the infinities print as `null`. -/
def numberJson : JsNumber → JsString
  | .nan => js "null"
  | .infinity _ => js "null"
  | number => number.text

mutual

def jsonStringify : Json → JsString
  | .null => js "null"
  | .boolean true => js "true"
  | .boolean false => js "false"
  | .number value => numberJson value
  | .string value => quote value
  | .array [] => [91, 93]
  | .array (element :: rest) =>
      91 :: (jsonStringify element ++ elementsText rest)
  | .object [] => [123, 125]
  | .object ((key, value) :: rest) =>
      123 :: (quote key ++ 58 :: (jsonStringify value ++ fieldsText rest))

/-- The elements after the first, and the closing bracket. -/
def elementsText : List Json → JsString
  | [] => [93]
  | element :: rest => 44 :: (jsonStringify element ++ elementsText rest)

/-- The fields after the first, and the closing brace. -/
def fieldsText : List (JsString × Json) → JsString
  | [] => [125]
  | (key, value) :: rest =>
      44 :: (quote key ++ 58 :: (jsonStringify value ++ fieldsText rest))

end

/-! ## Stored values -/

mutual

/-- What an object that `JSON.parse` built looks like, at every depth: integers
up to `2^53`, and objects with distinct keys in enumeration order. -/
def Json.Stored : Json → Prop
  | .null => True
  | .boolean _ => True
  | .number value =>
      ∃ integral : Int, integral.natAbs ≤ 9007199254740992 ∧
        value = .integer integral
  | .string _ => True
  | .array elements => Json.StoredElements elements
  | .object fields =>
      (fields.map Prod.fst).Nodup ∧ ownPropertyOrder fields = fields ∧
        Json.StoredFields fields

def Json.StoredElements : List Json → Prop
  | [] => True
  | element :: rest => element.Stored ∧ Json.StoredElements rest

def Json.StoredFields : List (JsString × Json) → Prop
  | [] => True
  | (_, value) :: rest => value.Stored ∧ Json.StoredFields rest

end

theorem Json.storedFields_iff {fields : List (JsString × Json)} :
    Json.StoredFields fields ↔ ∀ field ∈ fields, field.2.Stored := by
  induction fields with
  | nil =>
      simp [Json.StoredFields]
  | cons field rest inductionHypothesis =>
      obtain ⟨key, value⟩ := field
      simp [Json.StoredFields, inductionHypothesis]

private theorem Paired.cons_of_lt {unit : UInt16} {rest : JsString}
    (small : unit < 0xD800) (restPaired : Paired rest) :
    Paired (unit :: rest) :=
  Paired.scalar (isSurrogate_of_lt small) restPaired

private theorem numberJson_paired (value : JsNumber) :
    Paired (numberJson value) := by
  cases value with
  | nan => exact Paired.of_isAscii (by decide)
  | infinity negative =>
      exact Paired.of_isAscii (by decide : isAscii (js "null") = true)
  | negativeZero => exact Paired.of_isAscii (by decide)
  | integer value => exact Paired.of_isAscii (isAscii_doubleIntText value)
  | fraction value text => exact Paired.of_isAscii text.2

mutual

/-- JSON text is well-formed UTF-16: lone surrogates are escaped. -/
theorem jsonStringify_paired :
    ∀ value : Json, Paired (jsonStringify value)
  | .null => Paired.of_isAscii (by decide)
  | .boolean true => Paired.of_isAscii (by decide)
  | .boolean false => Paired.of_isAscii (by decide)
  | .number value => numberJson_paired value
  | .string value => quote_paired value
  | .array [] => Paired.of_isAscii (by decide)
  | .array (element :: rest) =>
      Paired.cons_of_lt (by decide) <|
        (jsonStringify_paired element).append (elementsText_paired rest)
  | .object [] => Paired.of_isAscii (by decide)
  | .object ((key, value) :: rest) =>
      Paired.cons_of_lt (by decide) <| (quote_paired key).append <|
        Paired.cons_of_lt (by decide) <|
          (jsonStringify_paired value).append (fieldsText_paired rest)

theorem elementsText_paired :
    ∀ elements : List Json, Paired (elementsText elements)
  | [] => Paired.of_isAscii (by decide)
  | element :: rest =>
      Paired.cons_of_lt (by decide) <|
        (jsonStringify_paired element).append (elementsText_paired rest)

theorem fieldsText_paired :
    ∀ fields : List (JsString × Json), Paired (fieldsText fields)
  | [] => Paired.of_isAscii (by decide)
  | (key, value) :: rest =>
      Paired.cons_of_lt (by decide) <| (quote_paired key).append <|
        Paired.cons_of_lt (by decide) <|
          (jsonStringify_paired value).append (fieldsText_paired rest)

end

end BidayaxExecutive.Runtime
