import BidayaxExecutive.Trust.CanonicalRecord
import BidayaxExecutive.Trust.Equivalence

/-!
# Values that were stored as `jsonb`

A `jsonb` value keeps the fields of its objects in an order of its own: shorter
keys first, keys of one length by their bytes.  What is read back is a value
with the same fields in another order, so it has the same canonical form and is
printed in as many bytes.
-/

namespace BidayaxExecutive.Trust

open BidayaxExecutive.Runtime JsString

/-! ## Reading back -/

def jsonbKeyLe (left right : JsString) : Bool :=
  decide ((utf8 left).length < (utf8 right).length) ||
    ((utf8 left).length == (utf8 right).length &&
      decide (utf8 left ≤ utf8 right))

def jsonbOrder (fields : List (JsString × Json)) : List (JsString × Json) :=
  fields.insertionSort fun left right => jsonbKeyLe left.1 right.1 = true

mutual

/-- What `JSON.parse` reads of the `jsonb` that a value was written to. -/
def throughJsonb : Json → Json
  | .number .nan | .number (.infinity _) => .null
  | .number .negativeZero => .number (.integer 0)
  | .array elements => .array (throughJsonbItems elements)
  | .object fields =>
      .object (ownPropertyOrder (jsonbOrder (throughJsonbFields fields)))
  | value => value

def throughJsonbItems : List Json → List Json
  | [] => []
  | element :: rest => throughJsonb element :: throughJsonbItems rest

def throughJsonbFields :
    List (JsString × Json) → List (JsString × Json)
  | [] => []
  | (key, value) :: rest =>
      (key, throughJsonb value) :: throughJsonbFields rest

end

theorem jsonbFields_perm (fields : List (JsString × Json)) :
    (ownPropertyOrder (jsonbOrder fields)).Perm fields :=
  (ownPropertyOrder_perm _).trans (List.perm_insertionSort _ _)

theorem throughJsonbFields_eq_map (fields : List (JsString × Json)) :
    throughJsonbFields fields =
      fields.map fun field => (field.1, throughJsonb field.2) := by
  induction fields with
  | nil =>
      rfl
  | cons field rest inductionHypothesis =>
      obtain ⟨key, value⟩ := field
      rw [throughJsonbFields, inductionHypothesis, List.map_cons]

/-! ## The fields of an object -/

private theorem lookup_eq_some_iff_mem {fields : List (JsString × Json)}
    (distinct : (fields.map Prod.fst).Nodup) {key : JsString}
    {value : Json} :
    fields.lookup key = some value ↔ (key, value) ∈ fields := by
  induction fields with
  | nil =>
      simp
  | cons field rest inductionHypothesis =>
      obtain ⟨name, first⟩ := field
      rw [List.map_cons, List.nodup_cons] at distinct
      rw [List.lookup_cons, List.mem_cons, Prod.mk.injEq]
      by_cases same : key = name
      · subst same
        have absent : (key, value) ∉ rest := fun member =>
          distinct.1 (List.mem_map.mpr ⟨_, member, rfl⟩)
        simp [absent, eq_comm]
      · rw [beq_eq_false_iff_ne.mpr same]
        simp [same, inductionHypothesis distinct.2]

/-- A field keeps its key. -/
theorem field?_throughJsonb {fields : List (JsString × Json)}
    (distinct : (fields.map Prod.fst).Nodup) {key : JsString}
    {value : Json}
    (found : (Json.object fields).field? key = some value) :
    (throughJsonb (.object fields)).field? key =
      some (throughJsonb value) := by
  have perm := jsonbFields_perm (throughJsonbFields fields)
  have sameKeys : (throughJsonbFields fields).map Prod.fst =
      fields.map Prod.fst := by
    rw [throughJsonbFields_eq_map, List.map_map]
    rfl
  have stillDistinct := (perm.map Prod.fst).nodup_iff.mpr
    (sameKeys ▸ distinct)
  have member := (lookup_eq_some_iff_mem distinct).mp found
  rw [throughJsonb, Json.field?, lookup_eq_some_iff_mem stillDistinct,
    perm.mem_iff, throughJsonbFields_eq_map]
  exact List.mem_map.mpr ⟨_, member, rfl⟩

/-! ## The canonical form -/

section Host

variable (host : Host)

mutual

theorem canonical_throughJsonb :
    ∀ {value form : Json}, Canonical host value.toJs form →
      Canonical host (throughJsonb value).toJs form
  | .null, form, canonical => canonical
  | .boolean _, form, canonical => canonical
  | .string _, form, canonical => canonical
  | .number .nan, form, canonical => by
      simp [Json.toJs, Canonical, JsNumber.toInt?] at canonical
  | .number (.infinity _), form, canonical => by
      simp [Json.toJs, Canonical, JsNumber.toInt?] at canonical
  | .number .negativeZero, form, canonical => by
      simp only [Json.toJs, Canonical, JsNumber.toInt?, Option.some.injEq]
        at canonical
      obtain ⟨integer, _, rfl, rfl⟩ := canonical
      exact ⟨0, by decide, rfl, rfl⟩
  | .number (.integer _), form, canonical => canonical
  | .number (.fraction _ _), form, canonical => canonical
  | .array elements, form, canonical => by
      simp only [Json.toJs, Canonical] at canonical
      obtain ⟨_, named, forms, slots, rfl⟩ := canonical
      exact ⟨rfl, named, forms, canonicalSlots_throughJsonb slots, rfl⟩
  | .object fields, form, canonical => by
      simp only [Json.toJs, Canonical] at canonical
      obtain ⟨known, _, entries, listed, distinct, rfl⟩ := canonical
      have perm : (Json.propertiesOf (ownPropertyOrder (jsonbOrder
          (throughJsonbFields fields)))).Perm
            (Json.propertiesOf (throughJsonbFields fields)) := by
        rw [Json.propertiesOf_eq_map, Json.propertiesOf_eq_map]
        exact (jsonbFields_perm _).map _
      obtain ⟨reordered, entriesPerm, canonical⟩ :=
        canonicalEntries_of_perm_properties host
          (canonicalEntries_throughJsonb listed) perm
      refine ⟨known, rfl, reordered, canonical,
        (entriesPerm.map Prod.fst).nodup_iff.mpr distinct, ?_⟩
      rw [sortOn_eq_of_perm Prod.fst entriesPerm.symm distinct]

theorem canonicalSlots_throughJsonb :
    ∀ {elements forms : List Json},
      CanonicalSlots host (Json.slotsOf elements) forms →
      CanonicalSlots host (Json.slotsOf (throughJsonbItems elements)) forms
  | [], forms, canonical => canonical
  | element :: rest, forms, canonical => by
      simp only [Json.slotsOf, CanonicalSlots] at canonical
      obtain ⟨form, others, _, head, tail, rfl⟩ := canonical
      exact ⟨form, others, rfl, canonical_throughJsonb head,
        canonicalSlots_throughJsonb tail, rfl⟩

theorem canonicalEntries_throughJsonb :
    ∀ {fields entries : List (JsString × Json)},
      CanonicalEntries host (Json.propertiesOf fields) entries →
      CanonicalEntries host
        (Json.propertiesOf (throughJsonbFields fields)) entries
  | [], entries, canonical => canonical
  | (key, value) :: rest, entries, canonical => by
      simp only [Json.propertiesOf, CanonicalEntries] at canonical
      obtain ⟨form, others, _, head, tail, rfl⟩ := canonical
      exact ⟨form, others, rfl, canonical_throughJsonb head,
        canonicalEntries_throughJsonb tail, rfl⟩

end

end Host

/-! ## The printed bytes -/

mutual

theorem length_canonicalBytes_throughJsonb :
    ∀ value : Json, (canonicalBytes (throughJsonb value)).length =
      (canonicalBytes value).length
  | .null => rfl
  | .boolean _ => rfl
  | .string _ => rfl
  | .number .nan => rfl
  | .number (.infinity _) => rfl
  | .number .negativeZero => by
      decide
  | .number (.integer _) => rfl
  | .number (.fraction _ _) => rfl
  | .array [] => rfl
  | .array (element :: rest) => by
      rw [throughJsonb, throughJsonbItems,
        length_canonicalBytes_array (List.cons_ne_nil _ _),
        length_canonicalBytes_array (List.cons_ne_nil _ _),
        List.map_cons, List.map_cons, List.sum_cons, List.sum_cons,
        length_canonicalBytes_throughJsonb element,
        sum_elements_throughJsonb rest]
  | .object [] => rfl
  | .object ((key, value) :: rest) => by
      rw [throughJsonb,
        length_canonicalBytes_object_perm (jsonbFields_perm _),
        throughJsonbFields, length_canonicalBytes_object,
        length_canonicalBytes_object, List.map_cons, List.map_cons,
        List.sum_cons, List.sum_cons, sum_fields_throughJsonb rest,
        fieldLength, fieldLength, length_canonicalBytes_throughJsonb value]

theorem sum_elements_throughJsonb :
    ∀ elements : List Json,
      ((throughJsonbItems elements).map fun element =>
          (canonicalBytes element).length + 1).sum =
        (elements.map fun element =>
          (canonicalBytes element).length + 1).sum
  | [] => rfl
  | element :: rest => by
      rw [throughJsonbItems, List.map_cons, List.map_cons, List.sum_cons,
        List.sum_cons, length_canonicalBytes_throughJsonb element,
        sum_elements_throughJsonb rest]

theorem sum_fields_throughJsonb :
    ∀ fields : List (JsString × Json),
      ((throughJsonbFields fields).map fieldLength).sum =
        (fields.map fieldLength).sum
  | [] => rfl
  | (key, value) :: rest => by
      rw [throughJsonbFields, List.map_cons, List.map_cons, List.sum_cons,
        List.sum_cons, sum_fields_throughJsonb rest, fieldLength,
        fieldLength, length_canonicalBytes_throughJsonb value]

end

end BidayaxExecutive.Trust
