import BidayaxExecutive.Runtime.JsonIdentity
import BidayaxExecutive.Settings.AuditTrail
import BidayaxExecutive.Settings.StableHash
import Mathlib.Data.List.Perm.Basic

/-!
# What a stable text identifies

Two values have one stable text exactly when they are equal up to the order of
object keys.  The stable text of a value is the JSON text of the value with
its keys sorted, and sorted values are equal when the values differ in nothing
else.
-/

namespace BidayaxExecutive.Settings

open BidayaxExecutive.Runtime JsString

/-! ## JSON values -/

/-- `-0` prints like `0`. -/
def unsigned : JsNumber → JsNumber
  | .negativeZero => .integer 0
  | number => number

section Values

variable (format : NumberFormat)

mutual

/-- A value that JSON has: its numbers are finite and no object has a key
twice. -/
def IsJsonValue : Json → Prop
  | .number value => PlainNumber format (unsigned value)
  | .array elements => AreJsonValues elements
  | .object fields =>
      (fields.map Prod.fst).Nodup ∧ FieldsAreJsonValues fields
  | _ => True

def AreJsonValues : List Json → Prop
  | [] => True
  | element :: rest => IsJsonValue element ∧ AreJsonValues rest

def FieldsAreJsonValues : List (JsString × Json) → Prop
  | [] => True
  | (_, value) :: rest => IsJsonValue value ∧ FieldsAreJsonValues rest

end

theorem fieldsAreJsonValues_iff {fields : List (JsString × Json)} :
    FieldsAreJsonValues format fields ↔
      ∀ field ∈ fields, IsJsonValue format field.2 := by
  induction fields with
  | nil =>
      simp [FieldsAreJsonValues]
  | cons field rest inductionHypothesis =>
      simp [FieldsAreJsonValues, inductionHypothesis]

end Values

mutual

/-- Equal up to the order of object keys, at every depth. -/
def EqualUpToOrder : Json → Json → Prop
  | .null, .null => True
  | .boolean left, .boolean right => left = right
  | .number left, .number right => left.strictEquals right = true
  | .string left, .string right => left = right
  | .array left, .array right => ElementsEqual left right
  | .object left, .object right =>
      ∃ reordered, reordered.Perm right ∧ FieldsEqual left reordered
  | _, _ => False

def ElementsEqual : List Json → List Json → Prop
  | [], [] => True
  | left :: lefts, right :: rights =>
      EqualUpToOrder left right ∧ ElementsEqual lefts rights
  | _, _ => False

def FieldsEqual :
    List (JsString × Json) → List (JsString × Json) → Prop
  | [], [] => True
  | (leftKey, left) :: lefts, (rightKey, right) :: rights =>
      leftKey = rightKey ∧ EqualUpToOrder left right ∧
        FieldsEqual lefts rights
  | _, _ => False

end

/-! ## Sorted values -/

section Platform

variable (platform : Platform)

mutual

def sortKeys : Json → Json
  | .number value => .number (unsigned value)
  | .array elements => .array (sortElements elements)
  | .object fields => .object (localeSort platform (sortFields fields))
  | value => value

def sortElements : List Json → List Json
  | [] => []
  | element :: rest => sortKeys element :: sortElements rest

def sortFields : List (JsString × Json) → List (JsString × Json)
  | [] => []
  | (key, value) :: rest => (key, sortKeys value) :: sortFields rest

end

theorem localeSort_perm {α : Type} (entries : List (JsString × α)) :
    (localeSort platform entries).Perm entries :=
  List.perm_insertionSort _ entries

theorem localeSort_map {α β : Type} (print : α → β)
    (entries : List (JsString × α)) :
    localeSort platform (entries.map fun entry => (entry.1, print entry.2)) =
      (localeSort platform entries).map fun entry =>
        (entry.1, print entry.2) := by
  unfold localeSort
  symm
  apply List.map_insertionSort
  intro left _ right _
  rfl

/-! ## The stable text is the text of the sorted value -/

theorem commaSeparated_elements (element : Json) (rest : List Json) :
    commaSeparated ((element :: rest).map jsonStringify) ++ [93] =
      jsonStringify element ++ elementsText rest := by
  induction rest generalizing element with
  | nil =>
      rfl
  | cons next rest inductionHypothesis =>
      have later := inductionHypothesis next
      rw [List.map_cons, List.map_cons, commaSeparated, List.append_assoc,
        List.cons_append, ← List.map_cons, later, elementsText]
      exact nofun

def fieldText (field : JsString × Json) : JsString :=
  quote field.1 ++ 58 :: jsonStringify field.2

theorem commaSeparated_fields (field : JsString × Json)
    (rest : List (JsString × Json)) :
    commaSeparated ((field :: rest).map fieldText) ++ [125] =
      fieldText field ++ fieldsText rest := by
  induction rest generalizing field with
  | nil =>
      rfl
  | cons next rest inductionHypothesis =>
      have later := inductionHypothesis next
      rw [List.map_cons, List.map_cons, commaSeparated, List.append_assoc,
        List.cons_append, ← List.map_cons, later, fieldsText, fieldText]
      · simp only [fieldText, List.append_assoc, List.cons_append]
      · exact nofun

theorem arrayText (elements : List Json) :
    91 :: (commaSeparated (elements.map jsonStringify) ++ [93]) =
      jsonStringify (.array elements) := by
  cases elements with
  | nil =>
      rfl
  | cons element rest =>
      rw [commaSeparated_elements, jsonStringify]

theorem objectText (fields : List (JsString × Json)) :
    123 :: (commaSeparated (fields.map fieldText) ++ [125]) =
      jsonStringify (.object fields) := by
  cases fields with
  | nil =>
      rfl
  | cons field rest =>
      rw [commaSeparated_fields, jsonStringify, fieldText, List.append_assoc,
        List.cons_append]

mutual

theorem stableStringify_eq :
    ∀ value : Json,
      stableStringify platform value =
        jsonStringify (sortKeys platform value)
  | .null => rfl
  | .boolean value => by
      cases value <;> rfl
  | .number value => by
      rw [stableStringify, sortKeys, jsonStringify, jsonStringify]
      · cases value <;> rfl
      · exact nofun
      · exact nofun
  | .string value => rfl
  | .array elements => by
      rw [stableStringify, sortKeys, stableTexts_eq elements, arrayText]
  | .object fields => by
      rw [stableStringify, sortKeys, stableFields_eq fields, stableObject,
        localeSort_map, List.map_map, ← objectText]
      rfl

theorem stableTexts_eq :
    ∀ elements : List Json,
      stableTexts platform elements =
        (sortElements platform elements).map jsonStringify
  | [] => rfl
  | element :: rest => by
      rw [stableTexts, sortElements, List.map_cons, stableStringify_eq element,
        stableTexts_eq rest]

theorem stableFields_eq :
    ∀ fields : List (JsString × Json),
      stableFields platform fields =
        (sortFields platform fields).map fun field =>
          (field.1, jsonStringify field.2)
  | [] => rfl
  | (key, value) :: rest => by
      rw [stableFields, sortFields, List.map_cons, stableStringify_eq value,
        stableFields_eq rest]

end

/-! ## Sorted values are equal when nothing but the order differs -/

theorem sortFields_eq_map (fields : List (JsString × Json)) :
    sortFields platform fields =
      fields.map fun field => (field.1, sortKeys platform field.2) := by
  induction fields with
  | nil =>
      rfl
  | cons field rest inductionHypothesis =>
      rw [sortFields, inductionHypothesis, List.map_cons]

theorem sortFields_keys (fields : List (JsString × Json)) :
    (sortFields platform fields).map Prod.fst = fields.map Prod.fst := by
  rw [sortFields_eq_map, List.map_map]
  rfl

variable (format : NumberFormat)

theorem plainFields_iff {fields : List (JsString × Json)} :
    PlainFields format fields ↔
      ∀ field ∈ fields, PlainJson format field.2 := by
  induction fields with
  | nil =>
      simp [PlainFields]
  | cons field rest inductionHypothesis =>
      simp [PlainFields, inductionHypothesis]

mutual

theorem plainJson_sortKeys :
    ∀ {value : Json}, IsJsonValue format value →
      PlainJson format (sortKeys platform value)
  | .null, _ => trivial
  | .boolean _, _ => trivial
  | .number _, isValue => isValue
  | .string _, _ => trivial
  | .array _, isValue => plainElements_sortElements isValue
  | .object fields, isValue => by
      have plain := plainFields_sortFields isValue.2
      rw [plainFields_iff] at plain
      rw [sortKeys, PlainJson, plainFields_iff]
      intro field member
      exact plain field ((localeSort_perm platform _).mem_iff.mp member)

theorem plainElements_sortElements :
    ∀ {elements : List Json}, AreJsonValues format elements →
      PlainElements format (sortElements platform elements)
  | [], _ => trivial
  | _ :: _, areValues =>
      ⟨plainJson_sortKeys areValues.1, plainElements_sortElements areValues.2⟩

theorem plainFields_sortFields :
    ∀ {fields : List (JsString × Json)}, FieldsAreJsonValues format fields →
      PlainFields format (sortFields platform fields)
  | [], _ => trivial
  | (_, _) :: _, areValues =>
      ⟨plainJson_sortKeys areValues.1, plainFields_sortFields areValues.2⟩

end

theorem strictEquals_integers {left right : JsNumber} {value other : Int}
    (leftValue : left.toInt? = some value)
    (rightValue : right.toInt? = some other)
    (leftUnsigned : unsigned left = .integer value)
    (rightUnsigned : unsigned right = .integer other) :
    left.strictEquals right = true ↔ unsigned left = unsigned right := by
  rw [JsNumber.strictEquals_of_toInt? leftValue rightValue, leftUnsigned,
    rightUnsigned, beq_iff_eq, JsNumber.integer.injEq]

theorem strictEquals_fractions {value other : ℚ}
    {text otherText : { text : JsString // isAscii text = true }}
    (leftPlain : PlainNumber format (.fraction value text))
    (rightPlain : PlainNumber format (.fraction other otherText)) :
    (JsNumber.fraction value text).strictEquals (.fraction other otherText) =
        true ↔
      JsNumber.fraction value text = .fraction other otherText := by
  constructor
  · intro same
    have sameValue : value = other := of_decide_eq_true same
    apply plainNumber_eq format leftPlain rightPlain
    exact congrArg some sameValue
  · intro same
    have sameValue := (JsNumber.fraction.inj same).1
    exact decide_eq_true sameValue

/-- Two numbers are equal exactly when they print alike. -/
theorem strictEquals_iff {left right : JsNumber}
    (leftPlain : PlainNumber format (unsigned left))
    (rightPlain : PlainNumber format (unsigned right)) :
    left.strictEquals right = true ↔ unsigned left = unsigned right := by
  cases left with
  | nan =>
      exact leftPlain.elim
  | infinity negative =>
      exact leftPlain.elim
  | negativeZero =>
      cases right with
      | nan =>
          exact rightPlain.elim
      | infinity negative =>
          exact rightPlain.elim
      | negativeZero =>
          exact strictEquals_integers rfl rfl rfl rfl
      | integer other =>
          exact strictEquals_integers rfl rfl rfl rfl
      | fraction other otherText =>
          exact iff_of_false Bool.false_ne_true nofun
  | integer value =>
      cases right with
      | nan =>
          exact rightPlain.elim
      | infinity negative =>
          exact rightPlain.elim
      | negativeZero =>
          exact strictEquals_integers rfl rfl rfl rfl
      | integer other =>
          exact strictEquals_integers rfl rfl rfl rfl
      | fraction other otherText =>
          exact iff_of_false Bool.false_ne_true nofun
  | fraction value text =>
      cases right with
      | nan =>
          exact rightPlain.elim
      | infinity negative =>
          exact rightPlain.elim
      | negativeZero =>
          exact iff_of_false Bool.false_ne_true nofun
      | integer other =>
          exact iff_of_false Bool.false_ne_true nofun
      | fraction other otherText =>
          exact strictEquals_fractions format leftPlain rightPlain

/-- The sorted fields of one object in two orders. -/
theorem localeSort_eq_of_perm {α : Type} (order : LocaleOrder platform)
    {left right : List (JsString × α)} (permutation : left.Perm right)
    (distinct : (left.map Prod.fst).Nodup) :
    localeSort platform left = localeSort platform right := by
  have total : Std.Total fun first second : JsString × α =>
      platform.localeLe first.1 second.1 = true :=
    ⟨fun first second => order.total first.1 second.1⟩
  have trans : IsTrans (JsString × α) fun first second =>
      platform.localeLe first.1 second.1 = true :=
    ⟨fun _ _ _ below above => order.trans below above⟩
  have sorted := fun entries : List (JsString × α) =>
    List.pairwise_insertionSort (fun first second : JsString × α =>
      platform.localeLe first.1 second.1 = true) entries
  refine List.Perm.eq_of_pairwise ?_ (sorted left) (sorted right)
    ((localeSort_perm platform left).trans
      (permutation.trans (localeSort_perm platform right).symm))
  intro first second firstMember secondMember below above
  have firstInLeft : first ∈ left :=
    (localeSort_perm platform left).mem_iff.mp firstMember
  have secondInLeft : second ∈ left :=
    permutation.mem_iff.mpr
      ((localeSort_perm platform right).mem_iff.mp secondMember)
  exact List.inj_on_of_nodup_map distinct firstInLeft secondInLeft
    (order.antisymm below above)

/-- Sorted fields in another order come from the fields in another order. -/
theorem exists_perm_of_sortFields_perm {fields : List (JsString × Json)}
    {sorted : List (JsString × Json)}
    (permutation : sorted.Perm (sortFields platform fields)) :
    ∃ reordered, reordered.Perm fields ∧
      sortFields platform reordered = sorted := by
  have pairs : List.Forall₂ (fun entry field =>
      entry = (field.1, sortKeys platform field.2))
      (sortFields platform fields) fields := by
    rw [sortFields_eq_map, List.forall₂_map_left_iff, List.forall₂_same]
    exact fun _ _ => rfl
  obtain ⟨reordered, related, perm⟩ :=
    List.perm_comp_forall₂ permutation pairs
  refine ⟨reordered, perm, ?_⟩
  rw [sortFields_eq_map]
  have equal := List.forall₂_map_right_iff.mpr related
  rw [List.forall₂_eq_eq_eq] at equal
  exact equal.symm

theorem sortFields_perm {fields reordered : List (JsString × Json)}
    (permutation : reordered.Perm fields) :
    (sortFields platform reordered).Perm (sortFields platform fields) := by
  rw [sortFields_eq_map, sortFields_eq_map]
  exact permutation.map _

theorem fieldsAreJsonValues_of_perm
    {fields reordered : List (JsString × Json)}
    (permutation : reordered.Perm fields)
    (areValues : FieldsAreJsonValues format fields) :
    FieldsAreJsonValues format reordered := by
  rw [fieldsAreJsonValues_iff] at areValues ⊢
  intro field member
  exact areValues field (permutation.mem_iff.mp member)

mutual

theorem equalUpToOrder_iff (order : LocaleOrder platform) :
    ∀ {left right : Json},
      IsJsonValue format left → IsJsonValue format right →
      (EqualUpToOrder left right ↔
        sortKeys platform left = sortKeys platform right)
  | .null, right, _, _ => by
      cases right <;> simp [EqualUpToOrder, sortKeys]
  | .boolean _, right, _, _ => by
      cases right <;> simp [EqualUpToOrder, sortKeys]
  | .number left, right, leftValue, rightValue => by
      cases right with
      | number right =>
          rw [EqualUpToOrder, sortKeys, sortKeys, Json.number.injEq]
          exact strictEquals_iff format leftValue rightValue
      | _ =>
          simp [EqualUpToOrder, sortKeys]
  | .string _, right, _, _ => by
      cases right <;> simp [EqualUpToOrder, sortKeys]
  | .array left, right, leftValue, rightValue => by
      cases right with
      | array right =>
          rw [EqualUpToOrder, sortKeys, sortKeys, Json.array.injEq]
          exact elementsEqual_iff order leftValue rightValue
      | _ =>
          simp [EqualUpToOrder, sortKeys]
  | .object left, right, leftValue, rightValue => by
      cases right with
      | object right =>
          rw [EqualUpToOrder, sortKeys, sortKeys, Json.object.injEq]
          constructor
          · intro equal
            obtain ⟨reordered, permutation, fieldsEqual⟩ := equal
            have sameFields := (fieldsEqual_iff order leftValue.2
              (fieldsAreJsonValues_of_perm format permutation
                rightValue.2)).mp fieldsEqual
            apply localeSort_eq_of_perm platform order
            · rw [sameFields]
              exact sortFields_perm platform permutation
            · rw [sortFields_keys]
              exact leftValue.1
          · intro sameSorted
            have permutation : (sortFields platform left).Perm
                (sortFields platform right) :=
              (localeSort_perm platform _).symm.trans
                (sameSorted ▸ localeSort_perm platform _)
            obtain ⟨reordered, perm, sameFields⟩ :=
              exists_perm_of_sortFields_perm platform permutation
            have reorderedValues :=
              fieldsAreJsonValues_of_perm format perm rightValue.2
            refine ⟨reordered, perm, ?_⟩
            exact (fieldsEqual_iff order leftValue.2 reorderedValues).mpr
              sameFields.symm
      | _ =>
          simp [EqualUpToOrder, sortKeys]

theorem elementsEqual_iff (order : LocaleOrder platform) :
    ∀ {left right : List Json},
      AreJsonValues format left → AreJsonValues format right →
      (ElementsEqual left right ↔
        sortElements platform left = sortElements platform right)
  | [], right, _, _ => by
      cases right <;> simp [ElementsEqual, sortElements]
  | left :: lefts, right, leftValues, rightValues => by
      cases right with
      | nil =>
          simp [ElementsEqual, sortElements]
      | cons right rights =>
          rw [ElementsEqual, sortElements, sortElements, List.cons.injEq,
            equalUpToOrder_iff order leftValues.1 rightValues.1,
            elementsEqual_iff order leftValues.2 rightValues.2]

theorem fieldsEqual_iff (order : LocaleOrder platform) :
    ∀ {left right : List (JsString × Json)},
      FieldsAreJsonValues format left → FieldsAreJsonValues format right →
      (FieldsEqual left right ↔
        sortFields platform left = sortFields platform right)
  | [], right, _, _ => by
      cases right <;> simp [FieldsEqual, sortFields]
  | (leftKey, left) :: lefts, right, leftValues, rightValues => by
      cases right with
      | nil =>
          simp [FieldsEqual, sortFields]
      | cons field rights =>
          obtain ⟨rightKey, right⟩ := field
          rw [FieldsEqual, sortFields, sortFields, List.cons.injEq,
            Prod.mk.injEq, equalUpToOrder_iff order leftValues.1 rightValues.1,
            fieldsEqual_iff order leftValues.2 rightValues.2, and_assoc]

end

/-- Two JSON values have one stable text exactly when they are equal up to
the order of object keys. -/
theorem stableStringify_eq_iff (order : LocaleOrder platform)
    {left right : Json}
    (leftValue : IsJsonValue format left)
    (rightValue : IsJsonValue format right) :
    stableStringify platform left = stableStringify platform right ↔
      EqualUpToOrder left right := by
  rw [equalUpToOrder_iff platform format order leftValue rightValue,
    stableStringify_eq, stableStringify_eq]
  constructor
  · intro same
    exact jsonStringify_inj_of_plain format
      (plainJson_sortKeys platform format leftValue)
      (plainJson_sortKeys platform format rightValue) same
  · intro same
    rw [same]

end Platform

end BidayaxExecutive.Settings
