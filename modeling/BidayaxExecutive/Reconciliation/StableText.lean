import BidayaxExecutive.Reconciliation.SchemaExpression
import BidayaxExecutive.Settings.StableText

/-!
# Stable texts of both packages

The reconciliation package prints values with a function of its own, with the
keys of every object in the order of `localeCompare`.  It and the settings
package print values alike, and what they print identifies a value up to the
order of object keys.
-/

namespace BidayaxExecutive.Reconciliation

open BidayaxExecutive.Runtime JsString
open BidayaxExecutive.Settings

section Platform

variable (platform : SchemaPlatform)

/-- `entries.sort(([left], [right]) => left.localeCompare(right))`. -/
def sortEntries {α : Type} (entries : List (JsString × α)) :
    List (JsString × α) :=
  entries.insertionSort fun left right =>
    platform.localeLe left.1 right.1 = true

def stableEntry (entry : JsString × JsString) : JsString :=
  quote entry.1 ++ 58 :: entry.2

mutual

def stableJson : Json → JsString
  | .array elements =>
      91 :: (commaSeparated (stableJsonElements elements) ++ [93])
  | .object fields =>
      123 :: (commaSeparated ((sortEntries platform
        (stableJsonFields fields)).map stableEntry) ++ [125])
  | value => jsonStringify value

def stableJsonElements : List Json → List JsString
  | [] => []
  | element :: rest => stableJson element :: stableJsonElements rest

def stableJsonFields : List (JsString × Json) → List (JsString × JsString)
  | [] => []
  | (key, value) :: rest => (key, stableJson value) :: stableJsonFields rest

end

/-! ## The text of the settings package -/

mutual

theorem stableJson_eq :
    ∀ value : Json,
      stableJson platform value =
        stableStringify ⟨platform.localeLe, .epoch⟩ value
  | .null => rfl
  | .boolean value => by
      cases value <;> rfl
  | .number value => rfl
  | .string value => rfl
  | .array elements => by
      rw [stableJson, stableStringify, stableJsonElements_eq elements]
  | .object fields => by
      rw [stableJson, stableStringify, stableJsonFields_eq fields]
      rfl

theorem stableJsonElements_eq :
    ∀ elements : List Json,
      stableJsonElements platform elements =
        stableTexts ⟨platform.localeLe, .epoch⟩ elements
  | [] => rfl
  | element :: rest => by
      rw [stableJsonElements, stableTexts, stableJson_eq element,
        stableJsonElements_eq rest]

theorem stableJsonFields_eq :
    ∀ fields : List (JsString × Json),
      stableJsonFields platform fields =
        stableFields ⟨platform.localeLe, .epoch⟩ fields
  | [] => rfl
  | (key, value) :: rest => by
      rw [stableJsonFields, stableFields, stableJson_eq value,
        stableJsonFields_eq rest]

end

end Platform

/-! ## What a stable text identifies -/

/-- The settings package on the same platform. -/
def settingsPlatform (platform : SchemaPlatform) : Platform :=
  ⟨platform.localeLe, .epoch⟩

/-- What two values have in common when their stable texts are equal. -/
structure StableTextsIdentify (platform : SchemaPlatform)
    (left right : Json) : Prop where
  settings :
    stableStringify (settingsPlatform platform) left =
        stableStringify (settingsPlatform platform) right ↔
      EqualUpToOrder left right
  reconciliation :
    stableJson platform left = stableJson platform right ↔
      EqualUpToOrder left right
  agree : ∀ value : Json,
    stableJson platform value =
      stableStringify (settingsPlatform platform) value

theorem stableText_identifies (platform : SchemaPlatform)
    (format : NumberFormat) (order : LocaleOrder (settingsPlatform platform))
    {left right : Json} (leftValue : IsJsonValue format left)
    (rightValue : IsJsonValue format right) :
    StableTextsIdentify platform left right := by
  have settings := stableStringify_eq_iff (settingsPlatform platform) format
    order leftValue rightValue
  have agree := stableJson_eq platform
  refine ⟨settings, ?_, agree⟩
  rw [agree left, agree right]
  exact settings

/-! ## Two spellings of a value -/

def half : ℚ :=
  ⟨1, 2, by decide, by decide⟩

theorem intCast_ne_half (value : Int) : (value : ℚ) ≠ half := by
  intro same
  have denominators : 1 = 2 := congrArg Rat.den same
  exact absurd denominators (by decide)

/-- The numbers 0 and 0.5. -/
def halfFormat : NumberFormat where
  represented value := value = 0 ∨ value = half
  text value := if value = 0 then js "0" else js "0.5"
  text_ne_nil := by
    intro value _
    by_cases zero : value = 0
    · rw [if_pos zero]
      decide
    · rw [if_neg zero]
      decide
  isNumeric_text := by
    intro value _
    by_cases zero : value = 0
    · rw [if_pos zero]
      exact List.all_eq_true.mp (by decide)
    · rw [if_neg zero]
      exact List.all_eq_true.mp (by decide)
  text_injective := by
    intro left right leftIs rightIs same
    by_cases leftZero : left = 0
    · by_cases rightZero : right = 0
      · rw [leftZero, rightZero]
      · rw [if_pos leftZero, if_neg rightZero] at same
        exact absurd same (by decide)
    · by_cases rightZero : right = 0
      · rw [if_neg leftZero, if_pos rightZero] at same
        exact absurd same (by decide)
      · rw [leftIs.resolve_left leftZero, rightIs.resolve_left rightZero]
  text_integer := by
    intro value represented
    have zero : (value : ℚ) = 0 :=
      represented.resolve_right (intCast_ne_half value)
    have isZero : value = 0 := Rat.intCast_inj.mp zero
    rw [if_pos zero, isZero]
    decide

theorem text_half : halfFormat.text half = js "0.5" := by
  change (if half = 0 then js "0" else js "0.5") = js "0.5"
  rw [if_neg (by decide)]

def byCodeUnits : SchemaPlatform where
  localeLe := codeUnitLe
  toLowerCase := id
  toUpperCase := id

def halfNumber : JsNumber :=
  .fraction half ⟨js "0.5", by decide⟩

def firstSpelling : Json :=
  .object [(js "b", .number halfNumber), (js "a", .number .negativeZero)]

def secondSpelling : Json :=
  .object [(js "a", .number (.integer 0)), (js "b", .number halfNumber)]

theorem spellings_identified :
    LocaleOrder (settingsPlatform byCodeUnits) ∧
      IsJsonValue halfFormat firstSpelling ∧
      IsJsonValue halfFormat secondSpelling ∧
      StableTextsIdentify byCodeUnits firstSpelling secondSpelling := by
  have order : LocaleOrder (settingsPlatform byCodeUnits) :=
    ⟨codeUnitLe_total, codeUnitLe_trans, codeUnitLe_antisymm⟩
  have zero : PlainNumber halfFormat (.integer 0) :=
    .inl rfl
  have fraction : PlainNumber halfFormat halfNumber :=
    ⟨.inr rfl, text_half.symm, fun integral =>
      (intCast_ne_half integral).symm⟩
  have first : IsJsonValue halfFormat firstSpelling :=
    ⟨by decide, fraction, zero, trivial⟩
  have second : IsJsonValue halfFormat secondSpelling :=
    ⟨by decide, zero, fraction, trivial⟩
  exact ⟨order, first, second,
    stableText_identifies byCodeUnits halfFormat order first second⟩

end BidayaxExecutive.Reconciliation
