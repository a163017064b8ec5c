import BidayaxExecutive.Library.Separator
import BidayaxExecutive.Runtime.JsonParse

/-!
# JSON text identifies values

The text of a value determines the value, whatever the order of its fields is.
Of the texts of numbers only what the language documents is used.
-/

namespace BidayaxExecutive.Runtime

open JsString
open BidayaxExecutive.Library

/-! ## Numbers -/

/-- A unit of the text of a finite number: a digit, or one of `+-.e`. -/
def isNumeric (unit : UInt16) : Bool :=
  isDigit unit || unit == 43 || unit == 45 || unit == 46 || unit == 101

/-- `Number::toString` on the numbers that a double represents.  A text reads
back as its number, so two numbers never share one. -/
structure NumberFormat where
  represented : ℚ → Prop
  text : ℚ → JsString
  text_ne_nil : ∀ {value}, represented value → text value ≠ []
  isNumeric_text : ∀ {value}, represented value →
    ∀ unit ∈ text value, isNumeric unit = true
  text_injective : ∀ {left right}, represented left → represented right →
    text left = text right → left = right
  text_integer : ∀ {value : Int}, represented value →
    text value = doubleIntText value

section Format

variable (format : NumberFormat)

/-- A finite number other than `-0`, with the text that the language gives
it. -/
def PlainNumber : JsNumber → Prop
  | .integer value => format.represented value
  | .fraction value text =>
      format.represented value ∧ text.1 = format.text value ∧
        ∀ integral : Int, value ≠ integral
  | _ => False

theorem PlainNumber.text {number : JsNumber}
    (plain : PlainNumber format number) :
    ∃ value, number.toRat? = some value ∧ format.represented value ∧
      numberJson number = format.text value := by
  cases number with
  | nan =>
      exact plain.elim
  | infinity negative =>
      exact plain.elim
  | negativeZero =>
      exact plain.elim
  | integer value =>
      exact ⟨value, rfl, plain, (format.text_integer plain).symm⟩
  | fraction value text =>
      exact ⟨value, rfl, plain.1, plain.2.1⟩

theorem plainNumber_eq {left right : JsNumber}
    (leftPlain : PlainNumber format left)
    (rightPlain : PlainNumber format right)
    (same : left.toRat? = right.toRat?) : left = right := by
  cases left with
  | nan =>
      exact leftPlain.elim
  | infinity negative =>
      exact leftPlain.elim
  | negativeZero =>
      exact leftPlain.elim
  | integer value =>
      cases right with
      | nan =>
          exact rightPlain.elim
      | infinity negative =>
          exact rightPlain.elim
      | negativeZero =>
          exact rightPlain.elim
      | integer other =>
          have sameValue : (value : ℚ) = other := Option.some.inj same
          rw [Rat.intCast_inj.mp sameValue]
      | fraction other text =>
          have sameValue : (value : ℚ) = other := Option.some.inj same
          exact absurd sameValue.symm (rightPlain.2.2 value)
  | fraction value text =>
      cases right with
      | nan =>
          exact rightPlain.elim
      | infinity negative =>
          exact rightPlain.elim
      | negativeZero =>
          exact rightPlain.elim
      | integer other =>
          have sameValue : value = (other : ℚ) := Option.some.inj same
          exact absurd sameValue (leftPlain.2.2 other)
      | fraction other otherText =>
          have sameValue : value = other := Option.some.inj same
          have sameText : text = otherText := by
            apply Subtype.ext
            rw [leftPlain.2.1, rightPlain.2.1, sameValue]
          rw [sameValue, sameText]

/-- What may follow a number. -/
def Boundary (text : JsString) : Prop :=
  ∀ unit rest, text = unit :: rest → isNumeric unit = false

theorem boundary_cons {unit : UInt16} {rest : JsString}
    (notNumeric : isNumeric unit = false) : Boundary (unit :: rest) := by
  intro other later same
  rw [← (List.cons.inj same).1]
  exact notNumeric

theorem boundary_nil : Boundary [] :=
  fun _ _ same => nomatch same

theorem numberJson_append_inj {left right : JsNumber}
    {rest others : JsString} (leftPlain : PlainNumber format left)
    (rightPlain : PlainNumber format right) (ends : Boundary rest)
    (othersEnd : Boundary others)
    (same : numberJson left ++ rest = numberJson right ++ others) :
    left = right ∧ rest = others := by
  obtain ⟨value, leftValue, represented, leftText⟩ := leftPlain.text
  obtain ⟨other, rightValue, otherRepresented, rightText⟩ := rightPlain.text
  rw [leftText, rightText] at same
  obtain ⟨sameText, sameRest⟩ := Separator.run_eq
    (format.isNumeric_text represented)
    (format.isNumeric_text otherRepresented) ends othersEnd same
  refine ⟨plainNumber_eq format leftPlain rightPlain ?_, sameRest⟩
  rw [leftValue, rightValue,
    format.text_injective represented otherRepresented sameText]

/-! ## Strings -/

theorem quote_append_inj {left right rest others : JsString}
    (same : quote left ++ rest = quote right ++ others) :
    left = right ∧ rest = others := by
  have bodies : escapeText left ++ 34 :: rest =
      escapeText right ++ 34 :: others := by
    simpa [quote] using same
  have read := readString_escapeText rest left
  rw [bodies, readString_escapeText others right] at read
  have pair := Prod.mk.inj (Option.some.inj read)
  exact ⟨pair.1.symm, pair.2.symm⟩

/-! ## Values -/

mutual

/-- Every number of the value is plain. -/
def PlainJson : Json → Prop
  | .number value => PlainNumber format value
  | .array elements => PlainElements elements
  | .object fields => PlainFields fields
  | _ => True

def PlainElements : List Json → Prop
  | [] => True
  | element :: rest => PlainJson element ∧ PlainElements rest

def PlainFields : List (JsString × Json) → Prop
  | [] => True
  | (_, value) :: rest => PlainJson value ∧ PlainFields rest

end

end Format

inductive Shape where
  | null
  | true
  | false
  | number
  | string
  | array
  | object
  deriving DecidableEq

def shapeOf : Json → Shape
  | .null => .null
  | .boolean true => .true
  | .boolean false => .false
  | .number _ => .number
  | .string _ => .string
  | .array _ => .array
  | .object _ => .object

/-- The values of a shape. -/
def HasShape (value : Json) : Shape → Prop
  | .null => value = .null
  | .true => value = .boolean Bool.true
  | .false => value = .boolean Bool.false
  | .number => ∃ number, value = .number number
  | .string => ∃ text, value = .string text
  | .array => ∃ elements, value = .array elements
  | .object => ∃ fields, value = .object fields

theorem hasShape_shapeOf (value : Json) : HasShape value (shapeOf value) := by
  cases value with
  | null =>
      rfl
  | boolean value =>
      cases value with
      | true =>
          rfl
      | false =>
          rfl
  | number value =>
      exact ⟨value, rfl⟩
  | string value =>
      exact ⟨value, rfl⟩
  | array elements =>
      exact ⟨elements, rfl⟩
  | object fields =>
      exact ⟨fields, rfl⟩

/-- The shape of a value, read off the first unit of its text. -/
def shapeOfUnit (unit : UInt16) : Shape :=
  if unit = 110 then .null
  else if unit = 116 then .true
  else if unit = 102 then .false
  else if unit = 34 then .string
  else if unit = 91 then .array
  else if unit = 123 then .object
  else .number

theorem shapeOfUnit_of_isNumeric {unit : UInt16}
    (numeric : isNumeric unit = true) : shapeOfUnit unit = .number := by
  have other : ∀ special : UInt16, isNumeric special = false →
      unit ≠ special := by
    intro special notNumeric same
    rw [same, notNumeric] at numeric
    exact nomatch numeric
  unfold shapeOfUnit
  rw [if_neg (other 110 rfl), if_neg (other 116 rfl), if_neg (other 102 rfl),
    if_neg (other 34 rfl), if_neg (other 91 rfl), if_neg (other 123 rfl)]

section Readings

variable (format : NumberFormat)

/-- The first unit of a text has the shape of the value, and closes
nothing. -/
theorem jsonStringify_starts {value : Json} (plain : PlainJson format value) :
    ∃ unit rest, jsonStringify value = unit :: rest ∧
      shapeOfUnit unit = shapeOf value ∧ unit ≠ 93 := by
  cases value with
  | null =>
      exact ⟨_, _, rfl, rfl, by decide⟩
  | boolean value =>
      cases value with
      | true =>
          exact ⟨_, _, rfl, rfl, by decide⟩
      | false =>
          exact ⟨_, _, rfl, rfl, by decide⟩
  | number value =>
      obtain ⟨number, _, represented, isText⟩ := PlainNumber.text format plain
      have notEmpty := format.text_ne_nil represented
      have numeric := format.isNumeric_text represented
      rw [← isText] at notEmpty numeric
      cases starts : numberJson value with
      | nil =>
          exact absurd starts notEmpty
      | cons unit rest =>
          rw [starts] at numeric
          have isNumber := numeric unit List.mem_cons_self
          refine ⟨unit, rest, starts, shapeOfUnit_of_isNumeric isNumber, ?_⟩
          intro same
          rw [same] at isNumber
          exact nomatch isNumber
  | string value =>
      exact ⟨34, _, rfl, rfl, by decide⟩
  | array elements =>
      cases elements with
      | nil =>
          exact ⟨91, _, rfl, rfl, by decide⟩
      | cons element rest =>
          exact ⟨91, _, rfl, rfl, by decide⟩
  | object fields =>
      cases fields with
      | nil =>
          exact ⟨123, _, rfl, rfl, by decide⟩
      | cons field rest =>
          exact ⟨123, _, rfl, rfl, by decide⟩

theorem hasShape_of_same {left right : Json} {rest others : JsString}
    (leftPlain : PlainJson format left) (rightPlain : PlainJson format right)
    (same : jsonStringify left ++ rest = jsonStringify right ++ others) :
    HasShape right (shapeOf left) := by
  obtain ⟨unit, later, starts, shape, _⟩ :=
    jsonStringify_starts format leftPlain
  obtain ⟨other, otherLater, otherStarts, otherShape, _⟩ :=
    jsonStringify_starts format rightPlain
  rw [starts, otherStarts] at same
  rw [← shape, (List.cons.inj same).1, otherShape]
  exact hasShape_shapeOf right

theorem boundary_elementsText (elements : List Json) (rest : JsString) :
    Boundary (elementsText elements ++ rest) := by
  cases elements with
  | nil =>
      exact boundary_cons (by decide)
  | cons element later =>
      exact boundary_cons (by decide)

theorem boundary_fieldsText (fields : List (JsString × Json))
    (rest : JsString) : Boundary (fieldsText fields ++ rest) := by
  cases fields with
  | nil =>
      exact boundary_cons (by decide)
  | cons field later =>
      exact boundary_cons (by decide)

theorem arrayText_ne {element : Json} (plain : PlainJson format element)
    (elements : List Json) (rest otherRest : JsString) :
    jsonStringify (.array (element :: elements)) ++ rest ≠
      jsonStringify (.array []) ++ otherRest := by
  obtain ⟨unit, later, starts, _, open_⟩ := jsonStringify_starts format plain
  intro same
  simp only [jsonStringify, starts, List.cons_append, List.cons.injEq,
    true_and] at same
  exact open_ same.1

/-- The elements behind the bracket are read like elements behind a comma. -/
theorem arrayText_append_inj {left right : List Json}
    {rest others : JsString} (leftPlain : PlainElements format left)
    (rightPlain : PlainElements format right)
    (elements : elementsText left ++ rest = elementsText right ++ others →
      left = right ∧ rest = others)
    (same : jsonStringify (.array left) ++ rest =
      jsonStringify (.array right) ++ others) :
    left = right ∧ rest = others := by
  cases left with
  | nil =>
      cases right with
      | nil =>
          exact ⟨rfl, (List.cons.inj (List.cons.inj same).2).2⟩
      | cons element right =>
          exact absurd same.symm
            (arrayText_ne format rightPlain.1 right others rest)
  | cons element left =>
      cases right with
      | nil =>
          exact absurd same (arrayText_ne format leftPlain.1 left rest others)
      | cons other right =>
          have tails := (List.cons.inj same).2
          exact elements (congrArg (List.cons 44) tails)

/-- The fields behind the brace are read like fields behind a comma. -/
theorem objectText_append_inj {left right : List (JsString × Json)}
    {rest others : JsString}
    (fields : fieldsText left ++ rest = fieldsText right ++ others →
      left = right ∧ rest = others)
    (same : jsonStringify (.object left) ++ rest =
      jsonStringify (.object right) ++ others) :
    left = right ∧ rest = others := by
  cases left with
  | nil =>
      cases right with
      | nil =>
          exact ⟨rfl, (List.cons.inj (List.cons.inj same).2).2⟩
      | cons field right =>
          have heads := (List.cons.inj (List.cons.inj same).2).1
          exact absurd heads (by decide)
  | cons field left =>
      cases right with
      | nil =>
          have heads := (List.cons.inj (List.cons.inj same).2).1
          exact absurd heads (by decide)
      | cons other right =>
          have tails := (List.cons.inj same).2
          exact fields (congrArg (List.cons 44) tails)

mutual

/-- The text of a value ends before whatever follows it, and determines the
value. -/
theorem jsonStringify_append_inj :
    ∀ {left right : Json} {rest others : JsString},
      PlainJson format left → PlainJson format right →
      Boundary rest → Boundary others →
      jsonStringify left ++ rest = jsonStringify right ++ others →
      left = right ∧ rest = others
  | .null, right, rest, others, leftPlain, rightPlain, ends, othersEnd,
      same => by
      have shape := hasShape_of_same format leftPlain rightPlain same
      rw [show right = .null from shape] at same ⊢
      exact ⟨rfl, List.append_cancel_left same⟩
  | .boolean true, right, rest, others, leftPlain, rightPlain, ends,
      othersEnd, same => by
      have shape := hasShape_of_same format leftPlain rightPlain same
      rw [show right = .boolean true from shape] at same ⊢
      exact ⟨rfl, List.append_cancel_left same⟩
  | .boolean false, right, rest, others, leftPlain, rightPlain, ends,
      othersEnd, same => by
      have shape := hasShape_of_same format leftPlain rightPlain same
      rw [show right = .boolean false from shape] at same ⊢
      exact ⟨rfl, List.append_cancel_left same⟩
  | .number value, right, rest, others, leftPlain, rightPlain, ends,
      othersEnd, same => by
      have shape := hasShape_of_same format leftPlain rightPlain same
      obtain ⟨other, isNumber⟩ : ∃ number, right = .number number := shape
      rw [isNumber] at same rightPlain ⊢
      obtain ⟨sameNumber, sameRest⟩ := numberJson_append_inj format leftPlain
        rightPlain ends othersEnd same
      exact ⟨by rw [sameNumber], sameRest⟩
  | .string value, right, rest, others, leftPlain, rightPlain, ends,
      othersEnd, same => by
      have shape := hasShape_of_same format leftPlain rightPlain same
      obtain ⟨other, isString⟩ : ∃ text, right = .string text := shape
      rw [isString] at same ⊢
      obtain ⟨sameText, sameRest⟩ := quote_append_inj same
      exact ⟨by rw [sameText], sameRest⟩
  | .array elements, right, rest, others, leftPlain, rightPlain, ends,
      othersEnd, same => by
      have shape := hasShape_of_same format leftPlain rightPlain same
      obtain ⟨other, isArray⟩ : ∃ elements, right = .array elements := shape
      rw [isArray] at same rightPlain ⊢
      obtain ⟨sameElements, sameRest⟩ := arrayText_append_inj format leftPlain
        rightPlain (elementsText_append_inj leftPlain rightPlain) same
      exact ⟨by rw [sameElements], sameRest⟩
  | .object fields, right, rest, others, leftPlain, rightPlain, ends,
      othersEnd, same => by
      have shape := hasShape_of_same format leftPlain rightPlain same
      obtain ⟨other, isObject⟩ : ∃ fields, right = .object fields := shape
      rw [isObject] at same rightPlain ⊢
      obtain ⟨sameFields, sameRest⟩ := objectText_append_inj
        (fieldsText_append_inj leftPlain rightPlain) same
      exact ⟨by rw [sameFields], sameRest⟩

theorem elementsText_append_inj :
    ∀ {left right : List Json} {rest others : JsString},
      PlainElements format left → PlainElements format right →
      elementsText left ++ rest = elementsText right ++ others →
      left = right ∧ rest = others
  | [], [], rest, others, leftPlain, rightPlain, same =>
      ⟨rfl, (List.cons.inj same).2⟩
  | [], element :: right, rest, others, leftPlain, rightPlain, same =>
      absurd (List.cons.inj same).1 (by decide)
  | element :: left, [], rest, others, leftPlain, rightPlain, same =>
      absurd (List.cons.inj same).1 (by decide)
  | element :: left, other :: right, rest, others, leftPlain, rightPlain,
      same => by
      simp only [elementsText, List.cons_append, List.append_assoc,
        List.cons.injEq, true_and] at same
      obtain ⟨sameElement, sameTail⟩ := jsonStringify_append_inj leftPlain.1
        rightPlain.1 (boundary_elementsText left rest)
        (boundary_elementsText right others) same
      obtain ⟨sameElements, sameRest⟩ :=
        elementsText_append_inj leftPlain.2 rightPlain.2 sameTail
      exact ⟨by rw [sameElement, sameElements], sameRest⟩

theorem fieldsText_append_inj :
    ∀ {left right : List (JsString × Json)} {rest others : JsString},
      PlainFields format left → PlainFields format right →
      fieldsText left ++ rest = fieldsText right ++ others →
      left = right ∧ rest = others
  | [], [], rest, others, leftPlain, rightPlain, same =>
      ⟨rfl, (List.cons.inj same).2⟩
  | [], field :: right, rest, others, leftPlain, rightPlain, same =>
      absurd (List.cons.inj same).1 (by decide)
  | field :: left, [], rest, others, leftPlain, rightPlain, same =>
      absurd (List.cons.inj same).1 (by decide)
  | (key, value) :: left, (otherKey, other) :: right, rest, others, leftPlain,
      rightPlain, same => by
      simp only [fieldsText, List.cons_append, List.append_assoc,
        List.cons.injEq, true_and] at same
      obtain ⟨sameKey, sameValues⟩ := quote_append_inj same
      obtain ⟨sameValue, sameTail⟩ := jsonStringify_append_inj leftPlain.1
        rightPlain.1 (boundary_fieldsText left rest)
        (boundary_fieldsText right others) (List.cons.inj sameValues).2
      obtain ⟨sameFields, sameRest⟩ :=
        fieldsText_append_inj leftPlain.2 rightPlain.2 sameTail
      exact ⟨by rw [sameKey, sameValue, sameFields], sameRest⟩

end

theorem jsonStringify_inj_of_plain {left right : Json}
    (leftPlain : PlainJson format left) (rightPlain : PlainJson format right)
    (same : jsonStringify left = jsonStringify right) : left = right := by
  have appended : jsonStringify left ++ [] = jsonStringify right ++ [] :=
    congrArg (· ++ []) same
  exact (jsonStringify_append_inj format leftPlain rightPlain boundary_nil
    boundary_nil appended).1

end Readings

end BidayaxExecutive.Runtime
