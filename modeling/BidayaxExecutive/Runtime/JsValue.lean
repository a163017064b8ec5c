import Mathlib.Data.Rat.Lemmas
import Mathlib.Data.List.Dedup
import BidayaxExecutive.Runtime.Decimal

/-!
# JavaScript values

Two types of data pass through the system.  `Json` is JSON-like data: what
`JSON.parse` returns and what the typed records of the source hold.  `JsValue`
is what a parameter of type `unknown` can be: besides JSON-like data it has
the values the canonicalizer must refuse, sparse arrays, accessors, symbol
keys, foreign prototypes and cycles.

An object is a list of its properties in the order `Reflect.ownKeys` reports
them.  An object built by assignment therefore passes through
`ownPropertyOrder`, which puts the array-index keys first.
-/

namespace BidayaxExecutive.Runtime

open JsString

/-! ## Numbers -/

/-- A number.  Integers and fractions are exact.  A fraction carries the ASCII
text that `Number::toString` gives it. -/
inductive JsNumber where
  | nan
  | infinity (negative : Bool)
  | negativeZero
  | integer (value : Int)
  | fraction (value : ℚ) (text : { text : JsString // isAscii text = true })
  deriving DecidableEq, Repr

namespace JsNumber

/-- `Number.MAX_SAFE_INTEGER`. -/
def maxSafeInteger : Int := 9007199254740991

def isSafeInteger : JsNumber → Bool
  | negativeZero => true
  | integer value => -maxSafeInteger ≤ value && value ≤ maxSafeInteger
  | _ => false

/-- The integer a number denotes, if it denotes one. -/
def toInt? : JsNumber → Option Int
  | negativeZero => some 0
  | integer value => some value
  | _ => none

/-- The value of a finite number. -/
def toRat? : JsNumber → Option ℚ
  | negativeZero => some 0
  | integer value => some value
  | fraction value _ => some value
  | _ => none

/-- `left === right`, under which `-0` and `0` are equal and `NaN` is not equal
to itself. -/
def strictEquals (left right : JsNumber) : Bool :=
  match left.toInt?, right.toInt? with
  | some leftValue, some rightValue => leftValue == rightValue
  | _, _ =>
      match left, right with
      | infinity leftSign, infinity rightSign => leftSign == rightSign
      | fraction leftValue _, fraction rightValue _ => leftValue == rightValue
      | _, _ => false

/-- `left <= right`. -/
def lessOrEqual (left right : JsNumber) : Bool :=
  match left.toInt?, right.toInt? with
  | some leftValue, some rightValue => leftValue ≤ rightValue
  | _, _ =>
      match left, right with
      | nan, _ => false
      | _, nan => false
      | infinity true, _ => true
      | _, infinity false => true
      | _, _ =>
          match left.toRat?, right.toRat? with
          | some leftValue, some rightValue => leftValue ≤ rightValue
          | _, _ => false

/-- `value + 1` for an integer that is a double: exact up to `2^53`, and from
there on a tie between two even integers or less than half a unit. -/
def roundedSuccessor (value : Int) : Int :=
  if (value + 1).natAbs ≤ 9007199254740992 then value + 1
  else if (value + 1).natAbs < 18014398509481984 ∧ value % 4 ≠ 0 then
    value + 2
  else value

/-- `number + 1`.  The sum of a fraction keeps the old text: no digest is ever
taken of it, so it is never printed. -/
def increment : JsNumber → JsNumber
  | negativeZero => integer 1
  | integer value => integer (roundedSuccessor value)
  | fraction value text => fraction (value + 1) text
  | other => other

/-- `number % 2 === 1`; the remainder takes the sign of the number. -/
def isOddRemainder : JsNumber → Bool
  | integer value => value.tmod 2 == 1
  | _ => false

/-- `Math.floor(number / 2)`. -/
def floorHalf : JsNumber → JsNumber
  | integer value => integer (value / 2)
  | fraction value _ => integer (value / 2).floor
  | other => other

/-- `number < 0`. -/
def isNegative : JsNumber → Bool
  | infinity negative => negative
  | integer value => value < 0
  | fraction value _ => value < 0
  | _ => false

/-- `Number::toString`. -/
def text : JsNumber → JsString
  | nan => js "NaN"
  | infinity false => js "Infinity"
  | infinity true => js "-Infinity"
  | negativeZero => js "0"
  | integer value => doubleIntText value
  | fraction _ text => text.1

theorem toInt?_of_isSafeInteger {number : JsNumber}
    (safe : number.isSafeInteger = true) :
    ∃ value, number.toInt? = some value := by
  cases number with
  | negativeZero => exact ⟨0, rfl⟩
  | integer value => exact ⟨value, rfl⟩
  | nan => simp [isSafeInteger] at safe
  | infinity _ => simp [isSafeInteger] at safe
  | fraction _ _ => simp [isSafeInteger] at safe

theorem bounds_of_isSafeInteger {number : JsNumber} {value : Int}
    (safe : number.isSafeInteger = true)
    (integral : number.toInt? = some value) :
    value ≤ maxSafeInteger ∧ -maxSafeInteger ≤ value := by
  cases number <;> simp [toInt?] at integral <;> subst integral
  · decide
  · simpa [isSafeInteger, and_comm] using safe

theorem strictEquals_of_toInt? {left right : JsNumber}
    {leftValue rightValue : Int}
    (leftIntegral : left.toInt? = some leftValue)
    (rightIntegral : right.toInt? = some rightValue) :
    left.strictEquals right = (leftValue == rightValue) := by
  simp [strictEquals, leftIntegral, rightIntegral]

theorem lessOrEqual_of_toInt? {left right : JsNumber}
    {leftValue rightValue : Int}
    (leftIntegral : left.toInt? = some leftValue)
    (rightIntegral : right.toInt? = some rightValue) :
    left.lessOrEqual right = decide (leftValue ≤ rightValue) := by
  simp [lessOrEqual, leftIntegral, rightIntegral]

/-- Only `NaN` differs from itself. -/
theorem strictEquals_self {left right : JsNumber}
    (same : left.strictEquals right = true) :
    left.strictEquals left = true := by
  cases left <;> cases right <;> simp_all [strictEquals, toInt?]

theorem strictEquals_symm {left right : JsNumber}
    (same : left.strictEquals right = true) :
    right.strictEquals left = true := by
  cases left <;> cases right <;> simp_all [strictEquals, toInt?]

theorem strictEquals_trans {first second third : JsNumber}
    (same : first.strictEquals second = true)
    (next : second.strictEquals third = true) :
    first.strictEquals third = true := by
  cases first <;> cases second <;> simp_all [strictEquals, toInt?]
  cases third <;> simp_all

/-- Only the integer before a safe integer has it as its successor. -/
theorem toInt?_of_increment {number : JsNumber} {next : Int}
    (safe : next ≤ maxSafeInteger ∧ -maxSafeInteger ≤ next)
    (integral : number.increment.toInt? = some next) :
    number.toInt? = some (next - 1) := by
  simp only [maxSafeInteger] at safe
  cases number with
  | negativeZero =>
      simp only [increment, toInt?, Option.some.injEq] at integral
      simp [toInt?, ← integral]
  | integer value =>
      simp only [increment, toInt?, roundedSuccessor, Option.some.injEq]
        at integral
      simp only [toInt?, Option.some.injEq]
      split_ifs at integral <;> omega
  | nan => simp [increment, toInt?] at integral
  | infinity _ => simp [increment, toInt?] at integral
  | fraction _ _ => simp [increment, toInt?] at integral

end JsNumber

/-! ## JSON-like data -/

inductive Json where
  | null
  | boolean (value : Bool)
  | number (value : JsNumber)
  | string (value : JsString)
  | array (elements : List Json)
  | object (fields : List (JsString × Json))

namespace Json

/-- `value[name]`; `none` is `undefined`. -/
def field? (value : Json) (name : JsString) : Option Json :=
  match value with
  | object fields => fields.lookup name
  | _ => none

/-- `left === right`.  Two objects are never the same reference here: every
comparison of the source is between values of different origin. -/
def strictEquals : Json → Json → Bool
  | null, null => true
  | boolean left, boolean right => left == right
  | number left, number right => left.strictEquals right
  | string left, string right => left == right
  | _, _ => false

/-- `===` between two property reads, each possibly `undefined`. -/
def sameField : Option Json → Option Json → Bool
  | none, none => true
  | some left, some right => left.strictEquals right
  | _, _ => false

@[simp]
theorem sameField_string (value : Option Json) (text : JsString) :
    sameField value (some (string text)) = true ↔
      value = some (string text) := by
  cases value with
  | none => simp [sameField]
  | some found => cases found <;> simp [sameField, strictEquals]

/-- Boolean coercion of a resolver's answer. -/
def truthy : Json → Bool
  | null => false
  | boolean value => value
  | number value => !(value == .nan || value.toInt? == some 0)
  | string value => !value.isEmpty
  | array _ => true
  | object _ => true

mutual

/-- An element as `Array.prototype.join` prints it; `none` is a `TypeError`.
An own `toString` is never callable here, and `Object.prototype.valueOf` gives
the object back. -/
def elementText? : Json → Option JsString
  | null => some []
  | boolean value => some (if value then js "true" else js "false")
  | number value => some value.text
  | string value => some value
  | array [] => some []
  | array (element :: rest) => do
      let first ← elementText? element
      let others ← joinText? rest
      some (first ++ others)
  | object fields =>
      if fields.any fun field => field.1 == js "toString" then none
      else some (js "[object Object]")

def joinText? : List Json → Option JsString
  | [] => some []
  | element :: rest => do
      let first ← elementText? element
      let others ← joinText? rest
      some (js "," ++ first ++ others)

end

/-- `String(value)`. -/
def toText? : Json → Option JsString
  | null => some (js "null")
  | value => elementText? value

end Json

/-! ## Own property order -/

/-- A canonical numeral below `2^32 - 1`: the keys `OrdinaryOwnPropertyKeys`
lists first, in numeric order. -/
def arrayIndex? (key : JsString) : Option Nat :=
  let number := digitsValue 0 key
  if natText number = key ∧ number < 4294967295 then some number else none

def IndexLe {α : Type*} (left right : JsString × α) : Prop :=
  (arrayIndex? left.1).getD 0 ≤ (arrayIndex? right.1).getD 0

instance {α : Type*} : DecidableRel (@IndexLe α) :=
  fun left right => inferInstanceAs <| Decidable <|
    (arrayIndex? left.1).getD 0 ≤ (arrayIndex? right.1).getD 0

/-- Properties in insertion order become properties in enumeration order. -/
def ownPropertyOrder {α : Type*} (properties : List (JsString × α)) :
    List (JsString × α) :=
  (properties.filter fun property =>
      (arrayIndex? property.1).isSome).insertionSort IndexLe ++
    properties.filter fun property => (arrayIndex? property.1).isNone

theorem ownPropertyOrder_perm {α : Type*}
    (properties : List (JsString × α)) :
    (ownPropertyOrder properties).Perm properties := by
  have sorted :
      ((properties.filter fun property =>
          (arrayIndex? property.1).isSome).insertionSort IndexLe).Perm
        (properties.filter fun property =>
          (arrayIndex? property.1).isSome) :=
    List.perm_insertionSort _ _
  have partition :=
    List.filter_append_perm
      (fun property : JsString × α => (arrayIndex? property.1).isSome)
      properties
  refine (sorted.append_right _).trans ?_
  simpa only [Option.not_isSome] using partition

instance {α : Type*} : Std.Total (@IndexLe α) :=
  ⟨fun _ _ => Nat.le_total _ _⟩

instance {α : Type*} : IsTrans (JsString × α) IndexLe :=
  ⟨fun _ _ _ below above => Nat.le_trans below above⟩

/-- Enumeration order is final: building an object anew from its own
properties keeps their order. -/
theorem ownPropertyOrder_idem {α : Type*}
    (properties : List (JsString × α)) :
    ownPropertyOrder (ownPropertyOrder properties) =
      ownPropertyOrder properties := by
  generalize indexedEq :
    (properties.filter fun property =>
      (arrayIndex? property.1).isSome).insertionSort IndexLe = indexed
  generalize namedEq :
    (properties.filter fun property =>
      (arrayIndex? property.1).isNone) = named
  have shape : ownPropertyOrder properties = indexed ++ named := by
    rw [ownPropertyOrder, indexedEq, namedEq]
  have sorted : indexed.Pairwise IndexLe := by
    rw [← indexedEq]
    exact List.pairwise_insertionSort IndexLe _
  have indices : ∀ property ∈ indexed,
      (arrayIndex? property.1).isSome = true := by
    intro property member
    rw [← indexedEq, List.mem_insertionSort] at member
    exact (List.mem_filter.mp member).2
  have names : ∀ property ∈ named,
      (arrayIndex? property.1).isNone = true := by
    intro property member
    rw [← namedEq] at member
    exact (List.mem_filter.mp member).2
  have firstPart :
      ((indexed ++ named).filter fun property =>
        (arrayIndex? property.1).isSome) = indexed := by
    rw [List.filter_append, List.filter_eq_self.mpr indices,
      List.filter_eq_nil_iff.mpr, List.append_nil]
    intro property member
    simpa using names property member
  have secondPart :
      ((indexed ++ named).filter fun property =>
        (arrayIndex? property.1).isNone) = named := by
    rw [List.filter_append, List.filter_eq_self.mpr names,
      List.filter_eq_nil_iff.mpr, List.nil_append]
    intro property member
    have := indices property member
    rw [Option.isSome_iff_ne_none] at this
    simpa using this
  rw [shape, ownPropertyOrder, firstPart, secondPart,
    sorted.insertionSort_eq]

/-! ## Values of type `unknown` -/

/-- How an own property, or an array slot, is defined. -/
inductive SlotKind where
  | enumerable
  | hidden
  | accessor
  | hole
  deriving DecidableEq, Repr

inductive Prototype where
  | objectPrototype
  | nullPrototype
  | other
  deriving DecidableEq, Repr

/-- `cycle` is a reference back to an object on the path from the root, so a
finite cyclic object graph unfolds to a finite value. -/
inductive JsValue where
  | undefined
  | null
  | boolean (value : Bool)
  | number (value : JsNumber)
  | bigint (value : Int)
  | string (value : JsString)
  | symbol
  | function
  | binary
  | cycle
  | array (symbolKeyed : Bool) (named : List (JsString × SlotKind))
      (slots : List (SlotKind × JsValue))
  | object (prototype : Prototype) (symbolKeyed : Bool)
      (properties : List (JsString × SlotKind × JsValue))

namespace Json

mutual

/-- JSON-like data as a value of type `unknown`. -/
def toJs : Json → JsValue
  | null => .null
  | boolean value => .boolean value
  | number value => .number value
  | string value => .string value
  | array elements => .array false [] (slotsOf elements)
  | object fields => .object .objectPrototype false (propertiesOf fields)

def slotsOf : List Json → List (SlotKind × JsValue)
  | [] => []
  | element :: rest => (.enumerable, element.toJs) :: slotsOf rest

def propertiesOf :
    List (JsString × Json) → List (JsString × SlotKind × JsValue)
  | [] => []
  | (key, value) :: rest =>
      (key, .enumerable, value.toJs) :: propertiesOf rest

end

theorem propertiesOf_eq_map (fields : List (JsString × Json)) :
    propertiesOf fields =
      fields.map fun field => (field.1, .enumerable, field.2.toJs) := by
  induction fields with
  | nil =>
      rfl
  | cons field rest inductionHypothesis =>
      obtain ⟨key, value⟩ := field
      simp [propertiesOf, inductionHypothesis]

end Json

end BidayaxExecutive.Runtime
