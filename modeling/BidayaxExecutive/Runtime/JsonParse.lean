import BidayaxExecutive.Runtime.JsonText

/-!
# `JSON.parse`

A recursive-descent reader for JSON text.  Fractions and exponents are left
out: the only text the repository parses back is a canonical form, whose
numbers are integers.  The fuel bounds the nesting depth, and the length of
the text always suffices.

Reading inverts printing on stored values.  The inverse gives in one stroke
that the printed text determines the value, which is what every digest of the
trust package rests on.
-/

namespace BidayaxExecutive.Runtime

open JsString

/-! ## The reader -/

def skipSpace : JsString → JsString
  | [] => []
  | unit :: rest =>
      if unit = 32 || unit = 9 || unit = 10 || unit = 13 then skipSpace rest
      else unit :: rest

def hexValue? (unit : UInt16) : Option Nat :=
  if 48 ≤ unit && unit ≤ 57 then some (unit.toNat - 48)
  else if 97 ≤ unit && unit ≤ 102 then some (unit.toNat - 87)
  else if 65 ≤ unit && unit ≤ 70 then some (unit.toNat - 55)
  else none

def readHex4 (first second third fourth : UInt16) : Option UInt16 :=
  match hexValue? first, hexValue? second, hexValue? third,
      hexValue? fourth with
  | some a, some b, some c, some d =>
      some (((a * 16 + b) * 16 + c) * 16 + d).toUInt16
  | _, _, _, _ => none

def unescape? (letter : UInt16) : Option UInt16 :=
  if letter = 98 then some 8
  else if letter = 116 then some 9
  else if letter = 110 then some 10
  else if letter = 102 then some 12
  else if letter = 114 then some 13
  else if letter = 34 then some 34
  else if letter = 92 then some 92
  else if letter = 47 then some 47
  else none

def consUnit (unit : UInt16) :
    Option (JsString × JsString) → Option (JsString × JsString)
  | some (text, remaining) => some (unit :: text, remaining)
  | none => none

/-- The rest of a string literal, after its opening quote. -/
def readString : JsString → Option (JsString × JsString)
  | [] => none
  | unit :: rest =>
      if unit = 34 then some ([], rest)
      else if unit = 92 then
        match rest with
        | [] => none
        | letter :: after =>
            if letter = 117 then
              match after with
              | a :: b :: c :: d :: remaining =>
                  match readHex4 a b c d with
                  | some value => consUnit value (readString remaining)
                  | none => none
              | _ => none
            else
              match unescape? letter with
              | some value => consUnit value (readString after)
              | none => none
      else if unit < 32 then none
      else consUnit unit (readString rest)

def readDigits (start : Nat) : JsString → Nat × JsString
  | [] => (start, [])
  | unit :: rest =>
      if isDigit unit then readDigits (start * 10 + digitValue unit) rest
      else (start, unit :: rest)

/-- No superfluous leading zero is allowed. -/
def readNatural : JsString → Option (Nat × JsString)
  | [] => none
  | unit :: rest =>
      if unit = 48 then some (0, rest)
      else if isDigit unit then some (readDigits (digitValue unit) rest)
      else none

def readNumber : JsString → Option (JsNumber × JsString)
  | [] => none
  | unit :: rest =>
      if unit = 45 then
        match readNatural rest with
        | some (0, remaining) => some (.negativeZero, remaining)
        | some (natural, remaining) =>
            some (.integer (-(natural : Int)), remaining)
        | none => none
      else
        match readNatural (unit :: rest) with
        | some (natural, remaining) => some (.integer natural, remaining)
        | none => none

def readKeyword (keyword : JsString) (value : Json) (text : JsString) :
    Option (Json × JsString) :=
  if keyword.isPrefixOf text then some (value, text.drop keyword.length)
  else none

/-- A repeated key keeps its first position and takes the last value. -/
def setField (fields : List (JsString × Json)) (key : JsString)
    (value : Json) : List (JsString × Json) :=
  if fields.any (fun field => field.1 == key) then
    fields.map fun field => if field.1 == key then (key, value) else field
  else fields ++ [(key, value)]

def objectOf (fields : List (JsString × Json)) : Json :=
  .object <| ownPropertyOrder <|
    fields.foldl (fun built field => setField built field.1 field.2) []

/-- A key, the colon, and the text where its value starts. -/
def readKey (text : JsString) : Option (JsString × JsString) :=
  match skipSpace text with
  | [] => none
  | unit :: rest =>
      if unit = 34 then
        match readString rest with
        | some (key, after) =>
            match skipSpace after with
            | [] => none
            | colon :: remaining =>
                if colon = 58 then some (key, remaining) else none
        | none => none
      else none

mutual

def parseValue : Nat → JsString → Option (Json × JsString)
  | 0, _ => none
  | fuel + 1, text =>
      match skipSpace text with
      | [] => none
      | unit :: rest =>
          if unit = 110 then readKeyword (js "ull") .null rest
          else if unit = 116 then readKeyword (js "rue") (.boolean true) rest
          else if unit = 102 then
            readKeyword (js "alse") (.boolean false) rest
          else if unit = 34 then
            match readString rest with
            | some (value, remaining) => some (.string value, remaining)
            | none => none
          else if unit = 91 then parseArray fuel rest
          else if unit = 123 then parseObject fuel rest
          else
            match readNumber (unit :: rest) with
            | some (value, remaining) => some (.number value, remaining)
            | none => none

def parseArray : Nat → JsString → Option (Json × JsString)
  | 0, _ => none
  | fuel + 1, text =>
      match skipSpace text with
      | [] => none
      | unit :: rest =>
          if unit = 93 then some (.array [], rest)
          else
            match parseValue fuel (unit :: rest) with
            | some (element, after) =>
                match parseElements fuel after with
                | some (elements, remaining) =>
                    some (.array (element :: elements), remaining)
                | none => none
            | none => none

/-- The elements after the first. -/
def parseElements : Nat → JsString → Option (List Json × JsString)
  | 0, _ => none
  | fuel + 1, text =>
      match skipSpace text with
      | [] => none
      | unit :: rest =>
          if unit = 93 then some ([], rest)
          else if unit = 44 then
            match parseValue fuel rest with
            | some (element, after) =>
                match parseElements fuel after with
                | some (elements, remaining) =>
                    some (element :: elements, remaining)
                | none => none
            | none => none
          else none

def parseObject : Nat → JsString → Option (Json × JsString)
  | 0, _ => none
  | fuel + 1, text =>
      match skipSpace text with
      | [] => none
      | unit :: rest =>
          if unit = 125 then some (objectOf [], rest)
          else
            match parseField fuel (unit :: rest) with
            | some (field, after) =>
                match parseFields fuel after with
                | some (fields, remaining) =>
                    some (objectOf (field :: fields), remaining)
                | none => none
            | none => none

def parseField : Nat → JsString → Option ((JsString × Json) × JsString)
  | 0, _ => none
  | fuel + 1, text =>
      match readKey text with
      | some (key, after) =>
          match parseValue fuel after with
          | some (value, remaining) => some ((key, value), remaining)
          | none => none
      | none => none

/-- The fields after the first. -/
def parseFields : Nat → JsString →
    Option (List (JsString × Json) × JsString)
  | 0, _ => none
  | fuel + 1, text =>
      match skipSpace text with
      | [] => none
      | unit :: rest =>
          if unit = 125 then some ([], rest)
          else if unit = 44 then
            match parseField fuel rest with
            | some (field, after) =>
                match parseFields fuel after with
                | some (fields, remaining) =>
                    some (field :: fields, remaining)
                | none => none
            | none => none
          else none

end

/-- `JSON.parse`; `none` is a thrown `SyntaxError`. -/
def jsonParse (text : JsString) : Option Json :=
  match parseValue (2 * text.length + 1) text with
  | some (value, remaining) =>
      if skipSpace remaining = [] then some value else none
  | none => none

/-! ## Strings read back -/

private theorem hexValue?_hexUnit :
    ∀ {digit : Nat}, digit < 16 → hexValue? (hexUnit digit) = some digit := by
  decide

private theorem readHex4_unicodeEscape (unit : UInt16) :
    readHex4 (hexUnit (unit.toNat / 4096))
      (hexUnit (unit.toNat / 256 % 16)) (hexUnit (unit.toNat / 16 % 16))
      (hexUnit (unit.toNat % 16)) = some unit := by
  have bound := unit.toNat_lt
  have value :
      ((unit.toNat / 4096 * 16 + unit.toNat / 256 % 16) * 16 +
        unit.toNat / 16 % 16) * 16 + unit.toNat % 16 = unit.toNat := by
    omega
  unfold readHex4
  rw [hexValue?_hexUnit (by omega), hexValue?_hexUnit (by omega),
    hexValue?_hexUnit (by omega), hexValue?_hexUnit (by omega)]
  simp only [value, Option.some.injEq]
  simp

private theorem readString_verbatim {unit : UInt16} (rest : JsString)
    (notQuote : unit ≠ 34) (notBackslash : unit ≠ 92)
    (printable : ¬ unit < 32) :
    readString (unit :: rest) = consUnit unit (readString rest) := by
  rw [readString.eq_def]
  simp [notQuote, notBackslash, printable]

private theorem readString_quote (rest : JsString) :
    readString (34 :: rest) = some ([], rest) := by
  rw [readString.eq_def]
  simp

private theorem readString_short {unit letter : UInt16} (rest : JsString)
    (escape : shortEscape? unit = some letter) :
    readString (92 :: letter :: rest) = consUnit unit (readString rest) := by
  unfold shortEscape? at escape
  split_ifs at escape <;>
    (simp only [Option.some.injEq] at escape
     subst escape
     rw [readString.eq_def]
     simp_all [unescape?])

private theorem readString_escapeUnit (unit : UInt16) (rest : JsString) :
    readString (escapeUnit unit ++ rest) =
      consUnit unit (readString rest) := by
  unfold escapeUnit
  cases escape : shortEscape? unit with
  | some letter =>
      exact readString_short rest escape
  | none =>
      by_cases hidden : (unit < 32 || isSurrogate unit) = true
      · simp only [hidden, if_true, unicodeEscape, List.cons_append,
          List.nil_append]
        rw [readString.eq_def]
        simp [readHex4_unicodeEscape]
      · simp only [hidden, Bool.false_eq_true, if_false, List.cons_append,
          List.nil_append]
        have visible : ¬ unit < 32 := by
          intro control
          exact hidden (by simp [control])
        apply readString_verbatim rest _ _ visible
        · rintro rfl
          simp [shortEscape?] at escape
        · rintro rfl
          simp [shortEscape?] at escape

private theorem surrogate_visible {unit : UInt16}
    (high : isHighSurrogate unit = true ∨ isLowSurrogate unit = true) :
    unit ≠ 34 ∧ unit ≠ 92 ∧ ¬ unit < 32 := by
  have large : 0xD800 ≤ unit.toNat := by
    simp only [isHighSurrogate, isLowSurrogate, Bool.and_eq_true,
      decide_eq_true_eq, UInt16.le_iff_toNat_le] at high
    have : (0xD800 : UInt16).toNat = 0xD800 := rfl
    have : (0xDC00 : UInt16).toNat = 0xDC00 := rfl
    omega
  refine ⟨?_, ?_, ?_⟩
  · rintro rfl
    simp at large
  · rintro rfl
    simp at large
  · rw [UInt16.lt_iff_toNat_lt]
    have : (32 : UInt16).toNat = 32 := rfl
    omega

theorem readString_escapeText (rest : JsString) : ∀ text : JsString,
    readString (escapeText text ++ 34 :: rest) = some (text, rest)
  | [] => by
      rw [escapeText, List.nil_append, readString_quote]
  | [unit] => by
      rw [escapeText, readString_escapeUnit, readString_quote]
      rfl
  | first :: second :: remaining => by
      rw [escapeText]
      split_ifs with isPair
      · have halves := Bool.and_eq_true_iff.mp isPair
        obtain ⟨a, b, c⟩ := surrogate_visible (Or.inl halves.1)
        obtain ⟨d, e, f⟩ := surrogate_visible (Or.inr halves.2)
        rw [List.cons_append, readString_verbatim _ a b c,
          List.cons_append, readString_verbatim _ d e f,
          readString_escapeText rest remaining]
        rfl
      · rw [List.append_assoc, readString_escapeUnit,
          readString_escapeText rest (second :: remaining)]
        rfl

/-! ## Numbers read back -/

/-- What may follow a number: no digit. -/
def NoDigitHead (text : JsString) : Prop :=
  ∀ unit rest, text = unit :: rest → isDigit unit = false

theorem noDigitHead_nil : NoDigitHead [] := by
  intro unit rest equal
  cases equal

theorem noDigitHead_cons {unit : UInt16} {rest : JsString}
    (notDigit : isDigit unit = false) :
    NoDigitHead (unit :: rest) := by
  intro other remaining equal
  cases equal
  exact notDigit

private theorem readDigits_append {rest : JsString}
    (boundary : NoDigitHead rest) :
    ∀ {digits : JsString} (start : Nat),
      (∀ unit ∈ digits, isDigit unit = true) →
      readDigits start (digits ++ rest) = (digitsValue start digits, rest)
  | [], start, _ => by
      cases rest with
      | nil =>
          rfl
      | cons unit remaining =>
          have notDigit := boundary unit remaining rfl
          simp [readDigits, notDigit]
  | unit :: digits, start, allDigits => by
      have headDigit := allDigits unit List.mem_cons_self
      have tailDigits : ∀ other ∈ digits, isDigit other = true :=
        fun other member => allDigits other (List.mem_cons_of_mem unit member)
      rw [List.cons_append, readDigits]
      simp only [headDigit, if_true]
      rw [readDigits_append boundary _ tailDigits, digitsValue_cons]

private theorem readNatural_natText {rest : JsString}
    (boundary : NoDigitHead rest) (number : Nat) :
    readNatural (natText number ++ rest) = some (number, rest) := by
  rcases Nat.eq_zero_or_pos number with zero | positive
  · subst zero
    simp [readNatural]
  · obtain ⟨digit, digits, nonzero, small, shape⟩ := natText_head positive
    have allDigits : ∀ unit ∈ digits, isDigit unit = true := by
      intro unit member
      have inText : unit ∈ natText number := by
        rw [shape]
        exact List.mem_cons_of_mem _ member
      exact isDigit_of_mem_natText inText
    have value : digitsValue digit digits = number := by
      have whole := digitsValue_natText number
      rw [shape, digitsValue_cons, digitValue_digitUnit small] at whole
      simpa using whole
    have notZero : digitUnit digit ≠ 48 := by
      intro equal
      have asNat := congrArg UInt16.toNat equal
      rw [digitUnit_toNat small] at asNat
      have : (48 : UInt16).toNat = 48 := rfl
      omega
    rw [shape, List.cons_append, readNatural]
    simp only [notZero, if_false, isDigit_digitUnit small, if_true]
    rw [readDigits_append boundary _ allDigits, digitValue_digitUnit small,
      value]

theorem readNumber_intText {rest : JsString}
    (boundary : NoDigitHead rest) (number : Int) :
    readNumber (intText number ++ rest) = some (.integer number, rest) := by
  cases number with
  | ofNat natural =>
      have digits := readNatural_natText boundary natural
      have head : ∃ unit remaining,
          natText natural ++ rest = unit :: remaining ∧ unit ≠ 45 := by
        rcases Nat.eq_zero_or_pos natural with zero | positive
        · subst zero
          exact ⟨48, rest, rfl, by decide⟩
        · obtain ⟨digit, remaining, _, small, shape⟩ :=
            natText_head positive
          refine ⟨digitUnit digit, remaining ++ rest, by rw [shape]; rfl, ?_⟩
          intro equal
          have asNat := congrArg UInt16.toNat equal
          rw [digitUnit_toNat small] at asNat
          have : (45 : UInt16).toNat = 45 := rfl
          omega
      obtain ⟨unit, remaining, shape, notMinus⟩ := head
      simp only [intText]
      rw [shape] at digits ⊢
      rw [readNumber]
      simp [notMinus, digits]
  | negSucc natural =>
      have digits := readNatural_natText boundary (natural + 1)
      simp only [intText, List.cons_append]
      rw [readNumber]
      simp only [if_true, digits]
      rfl

/-! ## Values read back -/

mutual

/-- Fuel that suffices to read a value back. -/
def weight : Json → Nat
  | .array [] => 2
  | .array (element :: rest) => 2 + weight element + elementsWeight rest
  | .object [] => 2
  | .object ((_, value) :: rest) => 3 + weight value + fieldsWeight rest
  | _ => 1

def elementsWeight : List Json → Nat
  | [] => 1
  | element :: rest => 1 + weight element + elementsWeight rest

def fieldsWeight : List (JsString × Json) → Nat
  | [] => 1
  | (_, value) :: rest => 2 + weight value + fieldsWeight rest

end

private theorem skipSpace_cons {unit : UInt16} (rest : JsString)
    (large : 32 < unit.toNat) :
    skipSpace (unit :: rest) = unit :: rest := by
  have differs : ∀ other : UInt16, other.toNat ≤ 32 → unit ≠ other := by
    intro other small equal
    subst equal
    omega
  rw [skipSpace]
  simp [differs 32 (by decide), differs 9 (by decide),
    differs 10 (by decide), differs 13 (by decide)]

private theorem setField_of_absent {fields : List (JsString × Json)}
    {key : JsString} (value : Json)
    (absent : key ∉ fields.map Prod.fst) :
    setField fields key value = fields ++ [(key, value)] := by
  have noneMatches :
      fields.any (fun field => field.1 == key) = false := by
    rw [List.any_eq_false]
    intro field member equal
    apply absent
    have sameKey : field.1 = key := by simpa using equal
    exact List.mem_map.mpr ⟨field, member, sameKey⟩
  simp [setField, noneMatches]

private theorem foldl_setField :
    ∀ (fields built : List (JsString × Json)),
      ((built ++ fields).map Prod.fst).Nodup →
      fields.foldl (fun done field => setField done field.1 field.2) built =
        built ++ fields
  | [], built, _ => by
      simp
  | (key, value) :: rest, built, distinct => by
      have absent : key ∉ built.map Prod.fst := by
        intro member
        rw [List.map_append, List.map_cons] at distinct
        exact (List.nodup_append.mp distinct).2.2 key member key
          List.mem_cons_self rfl
      have restDistinct :
          (((built ++ [(key, value)]) ++ rest).map Prod.fst).Nodup := by
        simpa using distinct
      rw [List.foldl_cons, setField_of_absent value absent,
        foldl_setField rest _ restDistinct]
      simp

theorem objectOf_of_stored {fields : List (JsString × Json)}
    (distinct : (fields.map Prod.fst).Nodup)
    (ordered : ownPropertyOrder fields = fields) :
    objectOf fields = .object fields := by
  have merged := foldl_setField fields [] distinct
  rw [objectOf, merged, List.nil_append, ordered]

private theorem readKey_quote (key rest : JsString) :
    readKey (quote key ++ 58 :: rest) = some (key, rest) := by
  have literal := readString_escapeText (58 :: rest) key
  simp only [quote, List.cons_append, List.append_assoc, List.nil_append]
  rw [readKey, skipSpace_cons _ (by decide)]
  simp only [if_true, literal]
  rw [skipSpace_cons _ (by decide)]
  simp

/-- The first code unit of a printed integer. -/
private theorem intText_head (number : Int) :
    ∃ unit rest, intText number = unit :: rest ∧
      (unit = 45 ∨ isDigit unit = true) := by
  cases number with
  | ofNat natural =>
      rcases Nat.eq_zero_or_pos natural with zero | positive
      · subst zero
        exact ⟨48, [], rfl, Or.inr rfl⟩
      · obtain ⟨digit, rest, _, small, shape⟩ := natText_head positive
        exact ⟨digitUnit digit, rest, shape,
          Or.inr (isDigit_digitUnit small)⟩
  | negSucc natural =>
      exact ⟨45, natText (natural + 1), rfl, Or.inl rfl⟩

private theorem parseValue_intText {rest : JsString}
    (boundary : NoDigitHead rest) (number : Int) (fuel : Nat) :
    parseValue (fuel + 1) (intText number ++ rest) =
      some (.number (.integer number), rest) := by
  have numeral := readNumber_intText boundary number
  obtain ⟨unit, digits, shape, head⟩ := intText_head number
  rw [shape, List.cons_append] at numeral ⊢
  have range : 45 ≤ unit.toNat ∧ unit.toNat ≤ 57 := by
    rcases head with minus | digit
    · subst minus
      decide
    · simp only [isDigit, Bool.and_eq_true, decide_eq_true_eq,
        UInt16.le_iff_toNat_le] at digit
      have : (48 : UInt16).toNat = 48 := rfl
      have : (57 : UInt16).toNat = 57 := rfl
      omega
  have differs : ∀ other : UInt16,
      (other.toNat < 45 ∨ 57 < other.toNat) → unit ≠ other := by
    intro other outside equal
    subst equal
    omega
  rw [parseValue, skipSpace_cons _ (by omega)]
  simp [differs 110 (by decide), differs 116 (by decide),
    differs 102 (by decide), differs 34 (by decide),
    differs 91 (by decide), differs 123 (by decide), numeral]

private theorem elementsText_boundary (elements : List Json)
    (rest : JsString) :
    NoDigitHead (elementsText elements ++ rest) := by
  cases elements with
  | nil => exact noDigitHead_cons (by decide)
  | cons _ _ => exact noDigitHead_cons (by decide)

private theorem fieldsText_boundary (fields : List (JsString × Json))
    (rest : JsString) :
    NoDigitHead (fieldsText fields ++ rest) := by
  cases fields with
  | nil => exact noDigitHead_cons (by decide)
  | cons field _ =>
      obtain ⟨_, _⟩ := field
      exact noDigitHead_cons (by decide)

/-- A printed value starts with a code unit that is neither white space nor a
closing bracket. -/
private theorem jsonStringify_head {value : Json} (stored : value.Stored) :
    ∃ unit rest, jsonStringify value = unit :: rest ∧
      32 < unit.toNat ∧ unit ≠ 93 := by
  cases value with
  | null => exact ⟨110, _, rfl, by decide, by decide⟩
  | boolean flag =>
      cases flag with
      | true => exact ⟨116, _, rfl, by decide, by decide⟩
      | false => exact ⟨102, _, rfl, by decide, by decide⟩
  | number number =>
      obtain ⟨integral, small, rfl⟩ := stored
      obtain ⟨unit, rest, shape, head⟩ := intText_head integral
      refine ⟨unit, rest, (doubleIntText_eq small).trans shape, ?_⟩
      rcases head with minus | digit
      · subst minus
        decide
      · simp only [isDigit, Bool.and_eq_true, decide_eq_true_eq,
          UInt16.le_iff_toNat_le] at digit
        have low : (48 : UInt16).toNat = 48 := rfl
        have high : (57 : UInt16).toNat = 57 := rfl
        refine ⟨by omega, ?_⟩
        rintro rfl
        simp at digit
  | string text => exact ⟨34, _, rfl, by decide, by decide⟩
  | array elements =>
      cases elements with
      | nil => exact ⟨91, _, rfl, by decide, by decide⟩
      | cons _ _ => exact ⟨91, _, rfl, by decide, by decide⟩
  | object fields =>
      cases fields with
      | nil => exact ⟨123, _, rfl, by decide, by decide⟩
      | cons field _ =>
          obtain ⟨_, _⟩ := field
          exact ⟨123, _, rfl, by decide, by decide⟩

private theorem js_null : js "null" = 110 :: js "ull" := by
  decide

private theorem js_true : js "true" = 116 :: js "rue" := by
  decide

private theorem js_false : js "false" = 102 :: js "alse" := by
  decide

private theorem parseValue_bracket (fuel : Nat) (text : JsString) :
    parseValue (fuel + 1) (91 :: text) = parseArray fuel text := by
  rw [parseValue, skipSpace_cons _ (by decide)]
  simp

private theorem parseValue_brace (fuel : Nat) (text : JsString) :
    parseValue (fuel + 1) (123 :: text) = parseObject fuel text := by
  rw [parseValue, skipSpace_cons _ (by decide)]
  simp

mutual

theorem parseValue_jsonStringify :
    ∀ {value : Json} (fuel : Nat) (rest : JsString),
      value.Stored → weight value ≤ fuel → NoDigitHead rest →
      parseValue fuel (jsonStringify value ++ rest) = some (value, rest)
  | .null, fuel + 1, rest, _, _, _ => by
      rw [jsonStringify, js_null, List.cons_append, parseValue,
        skipSpace_cons _ (by decide)]
      simp [readKeyword]
  | .boolean true, fuel + 1, rest, _, _, _ => by
      rw [jsonStringify, js_true, List.cons_append, parseValue,
        skipSpace_cons _ (by decide)]
      simp [readKeyword]
  | .boolean false, fuel + 1, rest, _, _, _ => by
      rw [jsonStringify, js_false, List.cons_append, parseValue,
        skipSpace_cons _ (by decide)]
      simp [readKeyword]
  | .number _, fuel + 1, rest, stored, _, boundary => by
      obtain ⟨integral, small, rfl⟩ := stored
      have digits : jsonStringify (.number (.integer integral)) =
          intText integral :=
        doubleIntText_eq small
      rw [digits]
      exact parseValue_intText boundary integral fuel
  | .string text, fuel + 1, rest, _, _, _ => by
      have literal := readString_escapeText rest text
      simp only [jsonStringify, quote, List.cons_append, List.append_assoc,
        List.nil_append]
      rw [parseValue, skipSpace_cons _ (by decide)]
      simp [literal]
  | .array [], fuel + 2, rest, _, _, _ => by
      simp [jsonStringify, parseValue, parseArray, skipSpace]
  | .array (element :: elements), fuel + 2, rest, stored, enough, _ => by
      simp only [weight] at enough
      have first := parseValue_jsonStringify fuel
        (elementsText elements ++ rest) stored.1 (by omega)
        (elementsText_boundary elements rest)
      have others := parseElements_elementsText fuel rest stored.2
        (by omega)
      obtain ⟨unit, after, shape, visible, notClose⟩ :=
        jsonStringify_head stored.1
      simp only [jsonStringify, List.cons_append, List.append_assoc]
      rw [shape, List.cons_append] at first ⊢
      rw [parseValue_bracket, parseArray, skipSpace_cons _ visible]
      simp [notClose, first, others]
  | .object [], fuel + 2, rest, _, _, _ => by
      simp [jsonStringify, parseValue, parseObject, skipSpace, objectOf,
        ownPropertyOrder]
  | .object ((key, value) :: fields), fuel + 3, rest, stored, enough, _ => by
      simp only [weight] at enough
      have first := parseValue_jsonStringify fuel
        (fieldsText fields ++ rest) stored.2.2.1 (by omega)
        (fieldsText_boundary fields rest)
      have others := parseFields_fieldsText (fuel + 1) rest stored.2.2.2
        (by omega)
      have whole := objectOf_of_stored stored.1 stored.2.1
      have named :=
        readKey_quote key (jsonStringify value ++ (fieldsText fields ++ rest))
      have field :
          parseField (fuel + 1)
              (quote key ++ 58 :: (jsonStringify value ++
                (fieldsText fields ++ rest))) =
            some ((key, value), fieldsText fields ++ rest) := by
        rw [parseField, named]
        simp only [first]
      simp only [jsonStringify, List.cons_append, List.append_assoc]
      simp only [quote, List.cons_append] at field ⊢
      rw [parseValue_brace, parseObject, skipSpace_cons _ (by decide)]
      have notClose : (34 : UInt16) ≠ 125 := by decide
      simp only [notClose, if_false, field, others, whole]
  | .null, 0, _, _, enough, _ => by simp [weight] at enough
  | .boolean _, 0, _, _, enough, _ => by simp [weight] at enough
  | .number _, 0, _, _, enough, _ => by simp [weight] at enough
  | .string _, 0, _, _, enough, _ => by simp [weight] at enough
  | .array [], 0, _, _, enough, _ => by simp [weight] at enough
  | .array [], 1, _, _, enough, _ => by simp [weight] at enough
  | .array (_ :: _), 0, _, _, enough, _ => by simp [weight] at enough
  | .array (_ :: _), 1, _, _, enough, _ => by
      simp only [weight] at enough
      omega
  | .object [], 0, _, _, enough, _ => by simp [weight] at enough
  | .object [], 1, _, _, enough, _ => by simp [weight] at enough
  | .object (_ :: _), 0, _, _, enough, _ => by simp [weight] at enough
  | .object (_ :: _), 1, _, _, enough, _ => by
      simp only [weight] at enough
      omega
  | .object (_ :: _), 2, _, _, enough, _ => by
      simp only [weight] at enough
      omega

theorem parseElements_elementsText :
    ∀ {elements : List Json} (fuel : Nat) (rest : JsString),
      Json.StoredElements elements → elementsWeight elements ≤ fuel →
      parseElements fuel (elementsText elements ++ rest) =
        some (elements, rest)
  | [], fuel + 1, rest, _, _ => by
      simp [elementsText, parseElements, skipSpace]
  | element :: elements, fuel + 1, rest, stored, enough => by
      simp only [elementsWeight] at enough
      have first := parseValue_jsonStringify fuel
        (elementsText elements ++ rest) stored.1 (by omega)
        (elementsText_boundary elements rest)
      have others := parseElements_elementsText fuel rest stored.2
        (by omega)
      simp only [elementsText, List.cons_append, List.append_assoc]
      rw [parseElements, skipSpace_cons _ (by decide)]
      simp [first, others]
  | [], 0, _, _, enough => by simp [elementsWeight] at enough
  | _ :: _, 0, _, _, enough => by simp [elementsWeight] at enough

theorem parseFields_fieldsText :
    ∀ {fields : List (JsString × Json)} (fuel : Nat) (rest : JsString),
      Json.StoredFields fields → fieldsWeight fields ≤ fuel →
      parseFields fuel (fieldsText fields ++ rest) = some (fields, rest)
  | [], fuel + 1, rest, _, _ => by
      simp [fieldsText, parseFields, skipSpace]
  | (key, value) :: fields, fuel + 2, rest, stored, enough => by
      simp only [fieldsWeight] at enough
      have first := parseValue_jsonStringify fuel
        (fieldsText fields ++ rest) stored.1 (by omega)
        (fieldsText_boundary fields rest)
      have others := parseFields_fieldsText (fuel + 1) rest stored.2
        (by omega)
      have named :=
        readKey_quote key (jsonStringify value ++ (fieldsText fields ++ rest))
      simp only [fieldsText, List.cons_append, List.append_assoc]
      rw [parseFields, skipSpace_cons _ (by decide)]
      simp [parseField, named, first, others]
  | [], 0, _, _, enough => by simp [fieldsWeight] at enough
  | _ :: _, 0, _, _, enough => by simp [fieldsWeight] at enough
  | _ :: _, 1, _, _, enough => by
      simp only [fieldsWeight] at enough
      omega

end

private theorem quote_length (text : JsString) : 2 ≤ (quote text).length := by
  simp [quote]

mutual

private theorem weight_le : ∀ {value : Json}, value.Stored →
    weight value ≤ 2 * (jsonStringify value).length
  | .null, _ => by decide
  | .boolean true, _ => by decide
  | .boolean false, _ => by decide
  | .number _, stored => by
      obtain ⟨integral, small, rfl⟩ := stored
      obtain ⟨unit, rest, shape, _⟩ := intText_head integral
      have : (jsonStringify (.number (.integer integral))).length =
          rest.length + 1 := by
        show (doubleIntText integral).length = _
        rw [doubleIntText_eq small, shape]
        rfl
      simp only [weight]
      omega
  | .string text, _ => by
      have := quote_length text
      simp only [weight, jsonStringify]
      omega
  | .array [], _ => by decide
  | .array (element :: elements), stored => by
      have first := weight_le stored.1
      have others := elementsWeight_le stored.2
      simp only [weight, jsonStringify, List.length_cons, List.length_append]
      omega
  | .object [], _ => by decide
  | .object ((key, value) :: fields), stored => by
      have first := weight_le stored.2.2.1
      have others := fieldsWeight_le stored.2.2.2
      have := quote_length key
      simp only [weight, jsonStringify, List.length_cons, List.length_append]
      omega

private theorem elementsWeight_le : ∀ {elements : List Json},
    Json.StoredElements elements →
      elementsWeight elements ≤ 2 * (elementsText elements).length
  | [], _ => by decide
  | element :: elements, stored => by
      have first := weight_le stored.1
      have others := elementsWeight_le stored.2
      simp only [elementsWeight, elementsText, List.length_cons,
        List.length_append]
      omega

private theorem fieldsWeight_le : ∀ {fields : List (JsString × Json)},
    Json.StoredFields fields →
      fieldsWeight fields ≤ 2 * (fieldsText fields).length
  | [], _ => by decide
  | (key, value) :: fields, stored => by
      have first := weight_le stored.1
      have others := fieldsWeight_le stored.2
      have := quote_length key
      simp only [fieldsWeight, fieldsText, List.length_cons,
        List.length_append]
      omega

end

/-- Reading the text of a stored value gives the value back. -/
theorem jsonParse_jsonStringify {value : Json} (stored : value.Stored) :
    jsonParse (jsonStringify value) = some value := by
  have enough := weight_le stored
  have parsed := parseValue_jsonStringify
    (2 * (jsonStringify value).length + 1) [] stored (by omega)
    noDigitHead_nil
  rw [List.append_nil] at parsed
  simp [jsonParse, parsed, skipSpace]

/-- The text of a stored value determines the value. -/
theorem jsonStringify_injective {left right : Json}
    (leftStored : left.Stored) (rightStored : right.Stored)
    (sameText : jsonStringify left = jsonStringify right) :
    left = right := by
  have leftParsed := jsonParse_jsonStringify leftStored
  have rightParsed := jsonParse_jsonStringify rightStored
  rw [sameText, rightParsed] at leftParsed
  exact (Option.some.inj leftParsed).symm

end BidayaxExecutive.Runtime
