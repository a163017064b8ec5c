import Mathlib.Algebra.BigOperators.Group.List.Basic
import BidayaxExecutive.Trust.CanonicalForm

/-!
# Records

The package hashes and signs object literals with fixed keys.  Their keys are
plain: ASCII, in ascending order and no array index, so the canonical form
keeps them where they stand.  The length of the canonical bytes of an object
is a sum over its fields, whatever their order.
-/

namespace BidayaxExecutive.Trust

open BidayaxExecutive.Runtime JsString

/-- An object literal of the source. -/
def recordValue (fields : List (JsString × JsValue)) : JsValue :=
  .object .objectPrototype false <|
    fields.map fun field => (field.1, .enumerable, field.2)

theorem toJs_object (fields : List (JsString × Json)) :
    (Json.object fields).toJs =
      recordValue (fields.map fun field => (field.1, field.2.toJs)) := by
  rw [Json.toJs, Json.propertiesOf_eq_map, recordValue, List.map_map]
  rfl

/-- Keys that the canonical form leaves in place. -/
def plainKeys : List JsString → Bool
  | [] => true
  | [key] => isAscii key && (arrayIndex? key).isNone
  | key :: next :: rest =>
      isAscii key && (arrayIndex? key).isNone && codeUnitLt key next &&
        plainKeys (next :: rest)

theorem plainKeys_tail {key : JsString} {rest : List JsString}
    (plain : plainKeys (key :: rest) = true) :
    plainKeys rest = true := by
  cases rest with
  | nil => rfl
  | cons next others =>
      simp only [plainKeys, Bool.and_eq_true] at plain
      exact plain.2

theorem plainKeys_head {key : JsString} {rest : List JsString}
    (plain : plainKeys (key :: rest) = true) :
    isAscii key = true ∧ arrayIndex? key = none := by
  cases rest with
  | nil =>
      simpa only [plainKeys, Bool.and_eq_true, Option.isNone_iff_eq_none]
        using plain
  | cons next others =>
      simp only [plainKeys, Bool.and_eq_true, Option.isNone_iff_eq_none]
        at plain
      exact ⟨plain.1.1.1, plain.1.1.2⟩

theorem plainKeys_lt {key : JsString} {rest : List JsString}
    (plain : plainKeys (key :: rest) = true) :
    ∀ other ∈ rest, codeUnitLt key other = true := by
  induction rest generalizing key with
  | nil =>
      intro other member
      simp at member
  | cons next others inductionHypothesis =>
      intro other member
      have tail := plainKeys_tail plain
      simp only [plainKeys, Bool.and_eq_true] at plain
      have below : codeUnitLt key next = true := plain.1.2
      rcases List.mem_cons.mp member with same | later
      · rw [same]
        exact below
      · exact codeUnitLt_trans below (inductionHypothesis tail other later)

theorem plainKeys_mem {keys : List JsString} (plain : plainKeys keys = true) :
    ∀ key ∈ keys, isAscii key = true ∧ arrayIndex? key = none := by
  induction keys with
  | nil =>
      intro key member
      simp at member
  | cons first rest inductionHypothesis =>
      intro key member
      rcases List.mem_cons.mp member with same | later
      · rw [same]
        exact plainKeys_head plain
      · exact inductionHypothesis (plainKeys_tail plain) key later

theorem plainKeys_nodup {keys : List JsString}
    (plain : plainKeys keys = true) :
    keys.Nodup := by
  induction keys with
  | nil =>
      exact List.nodup_nil
  | cons first rest inductionHypothesis =>
      apply List.nodup_cons.mpr
      constructor
      · intro member
        have below := plainKeys_lt plain first member
        simp at below
      · exact inductionHypothesis (plainKeys_tail plain)

private theorem codeUnitLe_of_codeUnitLt {left right : JsString}
    (below : codeUnitLt left right = true) :
    codeUnitLe left right = true := by
  rw [codeUnitLe, Bool.not_eq_true']
  by_contra above
  have cycle := codeUnitLt_trans below (by simpa using above)
  simp at cycle

private theorem plainKeys_sorted {entries : List (JsString × Json)}
    (plain : plainKeys (entries.map Prod.fst) = true) :
    entries.Pairwise (KeyLe Prod.fst) := by
  induction entries with
  | nil =>
      exact List.Pairwise.nil
  | cons entry rest inductionHypothesis =>
      rw [List.map_cons] at plain
      apply List.pairwise_cons.mpr
      constructor
      · intro other member
        apply codeUnitLe_of_codeUnitLt
        exact plainKeys_lt plain other.1 (List.mem_map_of_mem member)
      · exact inductionHypothesis (plainKeys_tail plain)

/-- Plain entries are already in the order the canonical form gives them. -/
theorem ownPropertyOrder_sortOn_of_plain {entries : List (JsString × Json)}
    (plain : plainKeys (entries.map Prod.fst) = true) :
    ownPropertyOrder (sortOn Prod.fst entries) = entries := by
  rw [sortOn_of_pairwise Prod.fst (plainKeys_sorted plain), ownPropertyOrder]
  have named : ∀ entry ∈ entries, arrayIndex? entry.1 = none := by
    intro entry member
    exact (plainKeys_mem plain entry.1 (List.mem_map_of_mem member)).2
  have noIndex :
      (entries.filter fun entry => (arrayIndex? entry.1).isSome) = [] := by
    apply List.filter_eq_nil_iff.mpr
    intro entry member
    simp [named entry member]
  have allNamed :
      (entries.filter fun entry => (arrayIndex? entry.1).isNone) =
        entries := by
    apply List.filter_eq_self.mpr
    intro entry member
    simp [named entry member]
  rw [noIndex, allNamed]
  rfl

/-- An object with plain keys prints to text that reads back. -/
theorem stored_object_of_plain {entries : List (JsString × Json)}
    (plain : plainKeys (entries.map Prod.fst) = true)
    (stored : ∀ entry ∈ entries, entry.2.Stored) :
    Json.Stored (.object entries) := by
  have ordered : ownPropertyOrder entries = entries := by
    have sorted := sortOn_of_pairwise Prod.fst (plainKeys_sorted plain)
    have whole := ownPropertyOrder_sortOn_of_plain plain
    rwa [sorted] at whole
  rw [Json.Stored]
  exact ⟨plainKeys_nodup plain, ordered, Json.storedFields_iff.mpr stored⟩

section Host

variable (host : Host)

/-- The canonical forms of the fields of a record, key by key. -/
def CanonicalFields (fields : List (JsString × JsValue))
    (entries : List (JsString × Json)) : Prop :=
  List.Forall₂
    (fun field entry => entry.1 = field.1 ∧ Canonical host field.2 entry.2)
    fields entries

theorem canonicalFields_nil {entries : List (JsString × Json)} :
    CanonicalFields host [] entries ↔ entries = [] := by
  rw [CanonicalFields, List.forall₂_nil_left_iff]

theorem canonicalFields_cons {key : JsString} {value : JsValue}
    {rest : List (JsString × JsValue)} {entries : List (JsString × Json)} :
    CanonicalFields host ((key, value) :: rest) entries ↔
      ∃ form others, Canonical host value form ∧
        CanonicalFields host rest others ∧
        entries = (key, form) :: others := by
  rw [CanonicalFields, List.forall₂_cons_left_iff]
  constructor
  · intro found
    obtain ⟨⟨entryKey, form⟩, others, ⟨sameKey, canonical⟩, tail, shape⟩ :=
      found
    simp only at sameKey
    rw [sameKey] at shape
    exact ⟨form, others, canonical, tail, shape⟩
  · intro found
    obtain ⟨form, others, canonical, tail, shape⟩ := found
    exact ⟨(key, form), others, ⟨rfl, canonical⟩, tail, shape⟩

/-- A normalized string is its own canonical form. -/
theorem canonical_string_iff {text : JsString} {form : Json}
    (normal : NormalText host text) :
    Canonical host (.string text) form ↔ form = .string text := by
  rw [Canonical]
  constructor
  · intro found
    obtain ⟨other, normalized, shape⟩ := found
    rw [NormalText, normalized] at normal
    rw [shape, Except.ok.inj normal]
  · intro shape
    exact ⟨text, normal, shape⟩

theorem CanonicalFields.keys {fields : List (JsString × JsValue)}
    {entries : List (JsString × Json)}
    (canonical : CanonicalFields host fields entries) :
    entries.map Prod.fst = fields.map Prod.fst := by
  induction canonical with
  | nil =>
      rfl
  | cons head _ inductionHypothesis =>
      rw [List.map_cons, List.map_cons, head.1, inductionHypothesis]

private theorem canonicalEntries_record
    {fields : List (JsString × JsValue)} {entries : List (JsString × Json)}
    (ascii : ∀ field ∈ fields, isAscii field.1 = true) :
    CanonicalEntries host
        (fields.map fun field => (field.1, SlotKind.enumerable, field.2))
        entries ↔
      CanonicalFields host fields entries := by
  induction fields generalizing entries with
  | nil =>
      rw [List.map_nil, CanonicalEntries, CanonicalFields,
        List.forall₂_nil_left_iff]
  | cons field rest inductionHypothesis =>
      obtain ⟨key, value⟩ := field
      have keyFixed : host.nfc key = key :=
        host.nfc_of_isAscii key (ascii (key, value) List.mem_cons_self)
      have tail : ∀ others, CanonicalEntries host
          (rest.map fun field => (field.1, SlotKind.enumerable, field.2))
          others ↔ CanonicalFields host rest others := fun others =>
        inductionHypothesis fun other member =>
          ascii other (List.mem_cons_of_mem _ member)
      rw [List.map_cons, CanonicalEntries, CanonicalFields,
        List.forall₂_cons_left_iff]
      constructor
      · intro found
        obtain ⟨form, others, _, canonical, rest, shape⟩ := found
        rw [keyFixed] at shape
        exact ⟨(key, form), others, ⟨rfl, canonical⟩, (tail others).mp rest,
          shape⟩
      · intro found
        obtain ⟨⟨entryKey, form⟩, others, ⟨sameKey, canonical⟩, rest, shape⟩ :=
          found
        refine ⟨form, others, rfl, canonical, (tail others).mpr rest, ?_⟩
        rw [shape, keyFixed]
        simp only at sameKey
        rw [sameKey]

/-- A record with plain keys keeps its keys in place. -/
theorem canonical_record_iff {fields : List (JsString × JsValue)}
    {form : Json} (plain : plainKeys (fields.map Prod.fst) = true) :
    Canonical host (recordValue fields) form ↔
      ∃ entries, CanonicalFields host fields entries ∧
        form = .object entries := by
  have ascii : ∀ field ∈ fields, isAscii field.1 = true := by
    intro field member
    exact (plainKeys_mem plain field.1 (List.mem_map_of_mem member)).1
  rw [recordValue, Canonical]
  simp only [canonicalEntries_record host ascii, ne_eq, reduceCtorEq,
    not_false_eq_true, true_and]
  constructor
  · intro found
    obtain ⟨entries, canonical, _, shape⟩ := found
    have entriesPlain : plainKeys (entries.map Prod.fst) = true := by
      rw [canonical.keys]
      exact plain
    rw [ownPropertyOrder_sortOn_of_plain entriesPlain] at shape
    exact ⟨entries, canonical, shape⟩
  · intro found
    obtain ⟨entries, canonical, shape⟩ := found
    have entriesPlain : plainKeys (entries.map Prod.fst) = true := by
      rw [canonical.keys]
      exact plain
    refine ⟨entries, canonical, plainKeys_nodup entriesPlain, ?_⟩
    rw [ownPropertyOrder_sortOn_of_plain entriesPlain]
    exact shape

/-- Fields that are canonical in two parts are canonical together. -/
theorem canonicalFields_of_partition (keep : JsString × JsValue → Bool)
    {fields : List (JsString × JsValue)}
    {kept others : List (JsString × Json)}
    (keptCanonical : CanonicalFields host (fields.filter keep) kept)
    (othersCanonical : CanonicalFields host
      (fields.filter fun field => !keep field) others) :
    ∃ entries, CanonicalFields host fields entries ∧
      entries.Perm (others ++ kept) := by
  induction fields generalizing kept others with
  | nil =>
      rw [List.filter_nil, canonicalFields_nil] at keptCanonical
      rw [List.filter_nil, canonicalFields_nil] at othersCanonical
      rw [keptCanonical, othersCanonical]
      exact ⟨[], List.Forall₂.nil, List.Perm.refl _⟩
  | cons field rest inductionHypothesis =>
      obtain ⟨key, value⟩ := field
      by_cases isKept : keep (key, value) = true
      · rw [List.filter_cons_of_pos isKept, canonicalFields_cons]
          at keptCanonical
        rw [List.filter_cons_of_neg (by simp [isKept])] at othersCanonical
        obtain ⟨form, tail, canonical, tailCanonical, rfl⟩ := keptCanonical
        obtain ⟨entries, entriesCanonical, order⟩ :=
          inductionHypothesis tailCanonical othersCanonical
        refine ⟨(key, form) :: entries, (canonicalFields_cons host).mpr
          ⟨form, entries, canonical, entriesCanonical, rfl⟩, ?_⟩
        exact (order.cons _).trans List.perm_middle.symm
      · rw [List.filter_cons_of_neg isKept] at keptCanonical
        rw [List.filter_cons_of_pos (by simpa using isKept),
          canonicalFields_cons] at othersCanonical
        obtain ⟨form, tail, canonical, tailCanonical, rfl⟩ := othersCanonical
        obtain ⟨entries, entriesCanonical, order⟩ :=
          inductionHypothesis keptCanonical tailCanonical
        exact ⟨(key, form) :: entries, (canonicalFields_cons host).mpr
          ⟨form, entries, canonical, entriesCanonical, rfl⟩, order.cons _⟩

/-- Two values with one canonical form. -/
def SameForm (left right : JsValue) : Prop :=
  ∃ form, Canonical host left form ∧ Canonical host right form

theorem sameForm_string {left right : JsString}
    (leftNormal : NormalText host left) (rightNormal : NormalText host right)
    (same : SameForm host (.string left) (.string right)) :
    left = right := by
  obtain ⟨form, leftForm, rightForm⟩ := same
  rw [canonical_string_iff host leftNormal] at leftForm
  rw [canonical_string_iff host rightNormal, leftForm] at rightForm
  exact Json.string.inj rightForm

/-- Records with one canonical form have fields with one canonical form. -/
theorem forall₂_sameForm {left right : List (JsString × JsValue)} {form : Json}
    (leftPlain : plainKeys (left.map Prod.fst) = true)
    (rightPlain : plainKeys (right.map Prod.fst) = true)
    (leftCanonical : Canonical host (recordValue left) form)
    (rightCanonical : Canonical host (recordValue right) form) :
    List.Forall₂ (fun first second => SameForm host first.2 second.2)
      left right := by
  obtain ⟨entries, leftFields, shape⟩ :=
    (canonical_record_iff host leftPlain).mp leftCanonical
  obtain ⟨others, rightFields, otherShape⟩ :=
    (canonical_record_iff host rightPlain).mp rightCanonical
  rw [shape, Json.object.injEq] at otherShape
  rw [← otherShape] at rightFields
  clear leftPlain rightPlain leftCanonical rightCanonical shape otherShape
  induction leftFields generalizing right with
  | nil =>
      rw [CanonicalFields, List.forall₂_nil_right_iff] at rightFields
      rw [rightFields]
      exact List.Forall₂.nil
  | cons head _ inductionHypothesis =>
      obtain ⟨field, rest, same, tail, rfl⟩ :=
        List.forall₂_cons_right_iff.mp rightFields
      exact List.Forall₂.cons ⟨_, head.2, same.2⟩ (inductionHypothesis tail)

end Host

/-! ## Byte lengths -/

/-- The bytes of one field, with the comma or brace before it. -/
def fieldLength (field : JsString × Json) : Nat :=
  (utf8 (quote field.1)).length + (canonicalBytes field.2).length + 2

private theorem utf8_cons_of_lt {unit : UInt16} (small : unit < 128)
    (rest : JsString) :
    (utf8 (unit :: rest)).length = (utf8 rest).length + 1 := by
  have ascii : isAscii [unit] = true := by
    simpa [isAscii] using small
  have split := utf8_append (Paired.of_isAscii ascii) rest
  rw [List.singleton_append] at split
  rw [split, List.length_append, length_utf8_of_isAscii ascii]
  simp [Nat.add_comm]

private theorem length_fieldText (key : JsString) (value : Json)
    (rest : JsString) :
    (utf8 (quote key ++ 58 :: (jsonStringify value ++ rest))).length + 1 =
      fieldLength (key, value) + (utf8 rest).length := by
  rw [utf8_append (quote_paired key), List.length_append,
    utf8_cons_of_lt (by decide), utf8_append (jsonStringify_paired value),
    List.length_append, fieldLength, canonicalBytes]
  simp only
  omega

private theorem length_fieldsText (fields : List (JsString × Json)) :
    (utf8 (fieldsText fields)).length =
      (fields.map fieldLength).sum + 1 := by
  induction fields with
  | nil =>
      rfl
  | cons field rest inductionHypothesis =>
      obtain ⟨key, value⟩ := field
      rw [fieldsText, utf8_cons_of_lt (by decide), length_fieldText,
        inductionHypothesis, List.map_cons, List.sum_cons]
      omega

/-- The canonical bytes of an object are those of its fields and a brace. -/
theorem length_canonicalBytes_object {field : JsString × Json}
    {rest : List (JsString × Json)} :
    (canonicalBytes (.object (field :: rest))).length =
      ((field :: rest).map fieldLength).sum + 1 := by
  obtain ⟨key, value⟩ := field
  rw [canonicalBytes, jsonStringify, utf8_cons_of_lt (by decide),
    length_fieldText, length_fieldsText, List.map_cons, List.sum_cons]
  omega

/-- One more field takes its own bytes, unless it is the only one. -/
theorem length_canonicalBytes_object_cons {field : JsString × Json}
    {fields : List (JsString × Json)} (nonempty : fields ≠ []) :
    (canonicalBytes (.object (field :: fields))).length =
      fieldLength field + (canonicalBytes (.object fields)).length := by
  cases fields with
  | nil =>
      exact absurd rfl nonempty
  | cons other rest =>
      rw [length_canonicalBytes_object, length_canonicalBytes_object,
        List.map_cons, List.sum_cons, Nat.add_assoc]

theorem length_canonicalBytes_object_perm
    {left right : List (JsString × Json)} (permutation : left.Perm right) :
    (canonicalBytes (.object left)).length =
      (canonicalBytes (.object right)).length := by
  cases left with
  | nil =>
      rw [permutation.nil_eq]
  | cons field rest =>
      cases right with
      | nil =>
          exact absurd permutation.symm.nil_eq (by simp)
      | cons other others =>
          rw [length_canonicalBytes_object, length_canonicalBytes_object,
            (permutation.map fieldLength).sum_eq]

private theorem length_elementsText (elements : List Json) :
    (utf8 (elementsText elements)).length =
      (elements.map fun element => (canonicalBytes element).length + 1).sum +
        1 := by
  induction elements with
  | nil =>
      rfl
  | cons element rest inductionHypothesis =>
      rw [elementsText, utf8_cons_of_lt (by decide),
        utf8_append (jsonStringify_paired element), List.length_append,
        inductionHypothesis, List.map_cons, List.sum_cons, canonicalBytes]
      omega

/-- The canonical bytes of an array are those of its elements, with a comma or
bracket before each, and a bracket. -/
theorem length_canonicalBytes_array {elements : List Json}
    (nonempty : elements ≠ []) :
    (canonicalBytes (.array elements)).length =
      (elements.map fun element => (canonicalBytes element).length + 1).sum +
        1 := by
  cases elements with
  | nil =>
      exact absurd rfl nonempty
  | cons element rest =>
      rw [canonicalBytes, jsonStringify, utf8_cons_of_lt (by decide),
        utf8_append (jsonStringify_paired element), List.length_append,
        length_elementsText, List.map_cons, List.sum_cons, canonicalBytes]
      omega

/-- A verbatim ASCII string takes its length and two quotes. -/
theorem length_canonicalBytes_string {text : JsString}
    (ascii : isAscii text = true)
    (verbatim : ∀ unit ∈ text, isVerbatim unit = true) :
    (canonicalBytes (.string text)).length = text.length + 2 := by
  have quoted : quote text = 34 :: (text ++ [34]) := by
    rw [quote, escapeText_of_isVerbatim verbatim]
  rw [canonicalBytes, jsonStringify, quoted, utf8_cons_of_lt (by decide),
    utf8_append (Paired.of_isAscii ascii), List.length_append,
    length_utf8_of_isAscii ascii]
  rfl

end BidayaxExecutive.Trust
