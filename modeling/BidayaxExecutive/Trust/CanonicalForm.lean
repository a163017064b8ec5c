import Mathlib.Data.Set.List
import BidayaxExecutive.Trust.Canonicalization
import BidayaxExecutive.Runtime.JsonParse

/-!
# The canonical form as a relation

`Canonical host value form` states what `canonicalNode` computes when it
succeeds, without its paths and failures.  The relation is functional, its
results print to text that `JSON.parse` reads back, and every result is its own
canonical form.
-/

namespace BidayaxExecutive.Trust

open BidayaxExecutive.Runtime JsString

section Host

variable (host : Host)

/-! ## Strings -/

private theorem isAscii_of_expected {unit : UInt16} {text rest : JsString}
    (expected : expectUnit unit text = some rest) :
    text = unit :: rest := by
  cases text with
  | nil =>
      simp [expectUnit] at expected
  | cons first remaining =>
      rw [expectUnit] at expected
      split_ifs at expected with same
      cases expected
      rw [same]

private theorem suffix_of_skipDigits {count : Nat} {text rest : JsString}
    (skipped : skipDigits count text = some rest) :
    rest <:+ text := by
  rw [skipDigits, readFixed] at skipped
  split_ifs at skipped
  · cases skipped
    exact List.drop_suffix count text
  · cases skipped

/-- Every timestamp has a colon. -/
theorem colon_mem_of_timestampPattern {text : JsString}
    (stamp : timestampPattern text = true) :
    58 ∈ text := by
  rw [timestampPattern] at stamp
  cases whole : skipDateTime text with
  | none =>
      simp [whole] at stamp
  | some rest =>
      simp only [skipDateTime, Option.bind_eq_some_iff] at whole
      obtain ⟨t1, s1, t2, s2, t3, s3, t4, s4, t5, s5, t6, s6, t7, s7, t8, s8,
        _⟩ := whole
      have inSeventh : 58 ∈ t7 := by
        rw [isAscii_of_expected s8]
        exact List.mem_cons_self
      have seventh := (suffix_of_skipDigits s7).subset inSeventh
      have sixth : 58 ∈ t5 := by
        rw [isAscii_of_expected s6]
        exact List.mem_cons_of_mem _ seventh
      have fourth : 58 ∈ t3 := by
        rw [isAscii_of_expected s4]
        exact List.mem_cons_of_mem _ ((suffix_of_skipDigits s5).subset sixth)
      have second : 58 ∈ t1 := by
        rw [isAscii_of_expected s2]
        exact List.mem_cons_of_mem _ ((suffix_of_skipDigits s3).subset fourth)
      exact (suffix_of_skipDigits s1).subset second

/-- A string that is normalized already. -/
def NormalText (text : JsString) : Prop :=
  normalizeString host text = .ok text

instance (text : JsString) : Decidable (NormalText host text) :=
  inferInstanceAs (Decidable (_ = _))

theorem normalText_of_isAscii {text : JsString}
    (ascii : isAscii text = true) (plain : timestampPattern text = false) :
    NormalText host text := by
  rw [NormalText, normalizeString]
  simp only [host.nfc_of_isAscii text ascii, plain, Bool.false_eq_true,
    if_false]

theorem normalText_of_no_colon {text : JsString}
    (ascii : isAscii text = true) (plain : 58 ∉ text) :
    NormalText host text := by
  apply normalText_of_isAscii host ascii
  by_contra stamp
  exact plain (colon_mem_of_timestampPattern (by simpa using stamp))

theorem normalText_toISOString (time : TimeValue) :
    NormalText host (toISOString time) := by
  have ascii := host.nfc_of_isAscii _ (isAscii_toISOString time)
  rw [NormalText, normalizeString]
  simp only [ascii, host.dateParse_toISOString]
  split_ifs
  · rfl
  · rfl

/-- Normalizing a string twice is normalizing it once. -/
theorem normalText_of_normalizeString {value text : JsString}
    (normalized : normalizeString host value = .ok text) :
    NormalText host text := by
  rw [normalizeString] at normalized
  by_cases stamp : timestampPattern (host.nfc value) = true
  · cases read : host.dateParse (host.nfc value) with
    | none =>
        simp [stamp, read] at normalized
    | some instant =>
        simp only [stamp, read, if_true, Except.ok.injEq] at normalized
        rw [← normalized]
        exact normalText_toISOString host instant
  · simp only [stamp, Bool.false_eq_true, if_false, Except.ok.injEq]
      at normalized
    rw [NormalText, normalizeString, ← normalized, host.nfc_nfc]
    simp only [stamp, Bool.false_eq_true, if_false]

/-! ## Values -/

mutual

def Canonical : JsValue → Json → Prop
  | .null, form => form = .null
  | .boolean value, form => form = .boolean value
  | .string value, form =>
      ∃ text, normalizeString host value = .ok text ∧ form = .string text
  | .number value, form =>
      ∃ integer, value.isSafeInteger = true ∧ value.toInt? = some integer ∧
        form = .number (.integer integer)
  | .array symbolKeyed named slots, form =>
      symbolKeyed = false ∧ checkNamed [] named = .ok () ∧
        ∃ elements, CanonicalSlots slots elements ∧ form = .array elements
  | .object prototype symbolKeyed properties, form =>
      prototype ≠ .other ∧ symbolKeyed = false ∧
        ∃ entries, CanonicalEntries properties entries ∧
          (entries.map Prod.fst).Nodup ∧
          form = .object (ownPropertyOrder (sortOn Prod.fst entries))
  | _, _ => False

def CanonicalSlots : List (SlotKind × JsValue) → List Json → Prop
  | [], forms => forms = []
  | (kind, value) :: rest, forms =>
      ∃ form others, kind = .enumerable ∧ Canonical value form ∧
        CanonicalSlots rest others ∧ forms = form :: others

def CanonicalEntries :
    List (JsString × SlotKind × JsValue) → List (JsString × Json) → Prop
  | [], entries => entries = []
  | (key, kind, value) :: rest, entries =>
      ∃ form others, kind = .enumerable ∧ Canonical value form ∧
        CanonicalEntries rest others ∧
        entries = (host.nfc key, form) :: others

end

/-! ## The descriptor checks -/

private theorem checkDescriptor_eq_ok {kind : SlotKind}
    {subject path : JsString} {done : Unit} :
    checkDescriptor kind subject path = .ok done ↔ kind = .enumerable := by
  cases kind <;> simp [checkDescriptor]

private theorem checkNamed_eq_ok (path other : JsString)
    (named : List (JsString × SlotKind)) :
    checkNamed path named = .ok () ↔ checkNamed other named = .ok () := by
  induction named with
  | nil =>
      simp [checkNamed]
  | cons property rest inductionHypothesis =>
      obtain ⟨key, kind⟩ := property
      simp only [checkNamed]
      by_cases numeral : isNumeral key = true
      · simp only [numeral, if_true, Outcome.bind_eq_ok, checkDescriptor_eq_ok,
          inductionHypothesis, exists_const]
      · simp [numeral]

/-! ## The walk over the sorted entries -/

/-- An entry whose value was canonicalized. -/
def settled (entry : JsString × Json) : JsString × Outcome Json :=
  (entry.1, .ok entry.2)

theorem settled_injective : Function.Injective settled := by
  rintro ⟨leftKey, leftValue⟩ ⟨rightKey, rightValue⟩ equal
  simp only [settled, Prod.mk.injEq, Except.ok.injEq] at equal
  rw [equal.1, equal.2]

/-- On sorted entries the comparison with the previous key finds every
repeated key. -/
private theorem collectEntries_eq_ok (path : JsString) :
    ∀ {outcomes : List (JsString × Outcome Json)}
      {previous : Option JsString} (fields : List (JsString × Json)),
      (previous.toList ++ outcomes.map Prod.fst).Pairwise
        (fun left right => codeUnitLe left right = true) →
      (collectEntries path previous outcomes = .ok fields ↔
        outcomes = fields.map settled ∧
          (previous.toList ++ fields.map Prod.fst).Nodup)
  | [], previous, fields, _ => by
      rw [collectEntries]
      cases fields with
      | nil => cases previous <;> simp
      | cons _ _ => simp
  | (key, outcome) :: rest, previous, fields, sorted => by
      have tailSorted :
          ((some key).toList ++ rest.map Prod.fst).Pairwise
            fun left right => codeUnitLe left right = true := by
        exact (List.pairwise_append.mp sorted).2.1
      have remaining := fun others =>
        collectEntries_eq_ok path others tailSorted
      rw [collectEntries]
      by_cases repeated : previous = some key
      · subst repeated
        simp only [if_true, Outcome.throw_eq, Outcome.error_bind,
          reduceCtorEq, false_iff, not_and]
        intro shape distinct
        cases fields with
        | nil => simp at shape
        | cons field others =>
            simp only [List.map_cons, List.cons.injEq, settled,
              Prod.mk.injEq] at shape
            simp [shape.1.1] at distinct
      · simp only [repeated, if_false, Outcome.bind_eq_ok,
          Except.ok.injEq, remaining]
        constructor
        · rintro ⟨value, rfl, others, ⟨shape, distinct⟩, rfl⟩
          refine ⟨by rw [shape]; rfl, ?_⟩
          cases previous with
          | none => simpa using distinct
          | some last =>
              have fresh : last ∉ key :: rest.map Prod.fst :=
                not_mem_of_sorted (by simpa using sorted) (by simpa using repeated)
              have sameKeys :
                  rest.map Prod.fst = others.map Prod.fst := by
                rw [shape, List.map_map]
                rfl
              rw [sameKeys] at fresh
              simpa using ⟨by simpa using fresh, by simpa using distinct⟩
        · rintro ⟨shape, distinct⟩
          cases fields with
          | nil => simp at shape
          | cons field others =>
              obtain ⟨fieldKey, value⟩ := field
              simp only [List.map_cons, List.cons.injEq, settled,
                Prod.mk.injEq] at shape
              obtain ⟨⟨rfl, rfl⟩, shape⟩ := shape
              refine ⟨value, rfl, others, ⟨shape, ?_⟩, rfl⟩
              exact (List.nodup_append.mp distinct).2.1

private theorem sortOn_map_settled (entries : List (JsString × Json)) :
    sortOn Prod.fst (entries.map settled) =
      (sortOn Prod.fst entries).map settled := by
  symm
  apply List.map_insertionSort
  intro left _ right _
  rfl

private theorem collectEntries_sortOn {path : JsString}
    {outcomes : List (JsString × Outcome Json)}
    {fields : List (JsString × Json)} :
    collectEntries path none (sortOn Prod.fst outcomes) = .ok fields ↔
      ∃ entries, outcomes = entries.map settled ∧
        (entries.map Prod.fst).Nodup ∧ fields = sortOn Prod.fst entries := by
  have sorted :
      (none.toList ++ (sortOn Prod.fst outcomes).map Prod.fst).Pairwise
        fun left right => codeUnitLe left right = true := by
    rw [Option.toList_none, List.nil_append, List.pairwise_map]
    exact sortOn_pairwise Prod.fst outcomes
  rw [collectEntries_eq_ok path fields sorted]
  constructor
  · rintro ⟨shape, distinct⟩
    have members : ∀ outcome ∈ outcomes, ∃ entry, settled entry = outcome := by
      intro outcome member
      have inSorted := (mem_sortOn Prod.fst).mpr member
      rw [shape] at inSorted
      obtain ⟨entry, _, equal⟩ := List.mem_map.mp inSorted
      exact ⟨entry, equal⟩
    obtain ⟨entries, rfl⟩ : outcomes ∈ Set.range (List.map settled) := by
      rw [Set.range_list_map]
      exact members
    have equal : fields = sortOn Prod.fst entries := by
      rw [sortOn_map_settled] at shape
      exact (settled_injective.list_map shape).symm
    refine ⟨entries, rfl, ?_, equal⟩
    have permutation := (sortOn_perm Prod.fst entries).map Prod.fst
    rw [← equal] at permutation
    exact permutation.nodup_iff.mp (by simpa using distinct)
  · rintro ⟨entries, rfl, distinct, rfl⟩
    refine ⟨sortOn_map_settled entries, ?_⟩
    have permutation := (sortOn_perm Prod.fst entries).map Prod.fst
    simpa using permutation.nodup_iff.mpr distinct

/-! ## What `canonicalNode` computes -/

private theorem canonicalNumber_eq_ok {path : JsString} {value : JsNumber}
    {form : Json} :
    canonicalNumber path value = .ok form ↔
      ∃ integer, value.isSafeInteger = true ∧ value.toInt? = some integer ∧
        form = .number (.integer integer) := by
  cases value with
  | nan => simp [canonicalNumber, JsNumber.isSafeInteger]
  | infinity negative => simp [canonicalNumber, JsNumber.isSafeInteger]
  | fraction value text => simp [canonicalNumber, JsNumber.isSafeInteger]
  | negativeZero =>
      simp [canonicalNumber, JsNumber.isSafeInteger, JsNumber.toInt?, eq_comm]
  | integer value =>
      by_cases safe : JsNumber.isSafeInteger (.integer value) = true
      · simp [canonicalNumber, safe, JsNumber.toInt?, eq_comm]
      · simp [canonicalNumber, safe]

mutual

theorem canonicalNode_eq_ok :
    ∀ (value : JsValue) (path : JsString) (form : Json),
      canonicalNode host value path = .ok form ↔ Canonical host value form
  | .undefined, path, form => by
      simp [canonicalNode, Canonical]
  | .null, path, form => by
      simp [canonicalNode, Canonical, eq_comm]
  | .boolean value, path, form => by
      simp [canonicalNode, Canonical, eq_comm]
  | .number value, path, form => by
      rw [canonicalNode, Canonical, canonicalNumber_eq_ok]
  | .bigint value, path, form => by
      simp [canonicalNode, Canonical]
  | .string value, path, form => by
      simp only [canonicalNode, Canonical, Outcome.bind_eq_ok,
        Except.ok.injEq, eq_comm (a := form)]
  | .symbol, path, form => by
      simp [canonicalNode, Canonical]
  | .function, path, form => by
      simp [canonicalNode, Canonical]
  | .binary, path, form => by
      simp [canonicalNode, Canonical]
  | .cycle, path, form => by
      simp [canonicalNode, Canonical]
  | .array symbolKeyed named slots, path, form => by
      have elementsIff := fun elements =>
        canonicalSlots_eq_ok slots path 0 elements
      have namedIff := checkNamed_eq_ok path [] named
      rw [canonicalNode, Canonical]
      cases symbolKeyed with
      | true =>
          simp
      | false =>
          simp only [Bool.false_eq_true, if_false, Outcome.bind_eq_ok,
            Except.ok.injEq, true_and]
          constructor
          · rintro ⟨_, checked, _, plain, elements, computed, rfl⟩
            exact ⟨namedIff.mp plain, elements,
              (elementsIff elements).mp ⟨checked, computed⟩, rfl⟩
          · rintro ⟨plain, elements, canonical, rfl⟩
            obtain ⟨checked, computed⟩ := (elementsIff elements).mpr canonical
            exact ⟨(), checked, (), namedIff.mpr plain, elements, computed,
              rfl⟩
  | .object prototype symbolKeyed properties, path, form => by
      have entriesIff := fun entries =>
        canonicalEntries_eq properties path entries
      rw [canonicalNode, Canonical]
      by_cases foreign : prototype = .other
      · simp [foreign]
      · cases symbolKeyed with
        | true =>
            simp [foreign]
        | false =>
            simp only [foreign, if_false, Bool.false_eq_true,
              Outcome.bind_eq_ok, Except.ok.injEq, collectEntries_sortOn,
              ne_eq, not_false_eq_true, true_and]
            constructor
            · rintro ⟨_, checked, fields,
                ⟨entries, computed, distinct, rfl⟩, rfl⟩
              exact ⟨entries, (entriesIff entries).mp ⟨checked, computed⟩,
                distinct, rfl⟩
            · rintro ⟨entries, canonical, distinct, rfl⟩
              obtain ⟨checked, computed⟩ := (entriesIff entries).mpr canonical
              exact ⟨(), checked, _, ⟨entries, computed, distinct, rfl⟩, rfl⟩

theorem canonicalSlots_eq_ok :
    ∀ (slots : List (SlotKind × JsValue)) (path : JsString) (index : Nat)
      (forms : List Json),
      (checkSlots path index slots = .ok () ∧
          canonicalSlots host slots path index = .ok forms) ↔
        CanonicalSlots host slots forms
  | [], path, index, forms => by
      simp [checkSlots, canonicalSlots, CanonicalSlots, eq_comm]
  | (kind, value) :: rest, path, index, forms => by
      have headIff := fun form =>
        canonicalNode_eq_ok value (indexedPath path index) form
      have tailIff := fun others =>
        canonicalSlots_eq_ok rest path (index + 1) others
      rw [checkSlots, canonicalSlots, CanonicalSlots]
      cases kind with
      | enumerable =>
          simp only [ne_eq, reduceCtorEq, not_false_eq_true, if_true, if_false,
            checkDescriptor, Outcome.bind_eq_ok, Except.ok.injEq, true_and,
            headIff]
          constructor
          · rintro ⟨⟨_, checked⟩, form, canonical, others, computed, rfl⟩
            exact ⟨form, others, canonical,
              (tailIff others).mp ⟨checked, computed⟩, rfl⟩
          · rintro ⟨form, others, canonical, tail, rfl⟩
            obtain ⟨checked, computed⟩ := (tailIff others).mpr tail
            exact ⟨⟨(), checked⟩, form, canonical, others, computed, rfl⟩
      | hidden =>
          simp [checkDescriptor, bind, Except.bind]
      | accessor =>
          simp [checkDescriptor, bind, Except.bind]
      | hole =>
          simp

theorem canonicalEntries_eq :
    ∀ (properties : List (JsString × SlotKind × JsValue)) (path : JsString)
      (entries : List (JsString × Json)),
      (checkProperties path properties = .ok () ∧
          canonicalEntries host properties path = entries.map settled) ↔
        CanonicalEntries host properties entries
  | [], path, entries => by
      simp [checkProperties, canonicalEntries, CanonicalEntries, eq_comm]
  | (key, kind, value) :: rest, path, entries => by
      have headIff := fun form =>
        canonicalNode_eq_ok value (keyedPath path (host.nfc key)) form
      have tailIff := fun others =>
        canonicalEntries_eq rest path others
      rw [checkProperties, canonicalEntries, CanonicalEntries]
      simp only [Outcome.bind_eq_ok, checkDescriptor_eq_ok]
      constructor
      · rintro ⟨⟨_, visible, checked⟩, computed⟩
        cases entries with
        | nil => simp at computed
        | cons entry others =>
            obtain ⟨entryKey, form⟩ := entry
            simp only [List.map_cons, List.cons.injEq, settled,
              Prod.mk.injEq] at computed
            exact ⟨form, others, visible, (headIff form).mp computed.1.2,
              (tailIff others).mp ⟨checked, computed.2⟩,
              by rw [computed.1.1]⟩
      · rintro ⟨form, others, visible, canonical, tail, rfl⟩
        obtain ⟨checked, computed⟩ := (tailIff others).mpr tail
        refine ⟨⟨(), visible, checked⟩, ?_⟩
        rw [List.map_cons, computed, (headIff form).mpr canonical]
        rfl

end

/-! ## Canonical forms are stored values and their own canonical form -/

/-- A canonical form: a stored value that canonicalizes to itself. -/
structure Normal (form : Json) : Prop where
  stored : form.Stored
  fixed : Canonical host form.toJs form

theorem canonicalEntries_of_fixed {fields : List (JsString × Json)}
    (fixed : ∀ field ∈ fields, host.nfc field.1 = field.1 ∧
      Canonical host field.2.toJs field.2) :
    CanonicalEntries host (Json.propertiesOf fields) fields := by
  induction fields with
  | nil =>
      simp [Json.propertiesOf, CanonicalEntries]
  | cons field rest inductionHypothesis =>
      obtain ⟨key, value⟩ := field
      obtain ⟨keyFixed, valueFixed⟩ := fixed (key, value) List.mem_cons_self
      have tail := inductionHypothesis fun other member =>
        fixed other (List.mem_cons_of_mem _ member)
      rw [Json.propertiesOf, CanonicalEntries]
      exact ⟨value, rest, rfl, valueFixed, tail, by rw [keyFixed]⟩

private theorem canonicalSlots_of_fixed {elements : List Json}
    (fixed : ∀ element ∈ elements, Canonical host element.toJs element) :
    CanonicalSlots host (Json.slotsOf elements) elements := by
  induction elements with
  | nil =>
      simp [Json.slotsOf, CanonicalSlots]
  | cons element rest inductionHypothesis =>
      have tail := inductionHypothesis fun other member =>
        fixed other (List.mem_cons_of_mem _ member)
      rw [Json.slotsOf, CanonicalSlots]
      exact ⟨element, rest, rfl, fixed element List.mem_cons_self, tail, rfl⟩

private theorem storedElements_iff {elements : List Json} :
    Json.StoredElements elements ↔ ∀ element ∈ elements, element.Stored := by
  induction elements with
  | nil =>
      simp [Json.StoredElements]
  | cons element rest inductionHypothesis =>
      simp [Json.StoredElements, inductionHypothesis]

/-- Sorting and then enumerating a canonical object changes nothing. -/
private theorem ownPropertyOrder_sortOn_idem
    {entries : List (JsString × Json)}
    (distinct : (entries.map Prod.fst).Nodup) :
    sortOn Prod.fst (ownPropertyOrder (sortOn Prod.fst entries)) =
      sortOn Prod.fst entries := by
  symm
  apply sortOn_eq_of_perm Prod.fst _ distinct
  exact ((ownPropertyOrder_perm _).trans (sortOn_perm _ _)).symm

private theorem normal_object {entries : List (JsString × Json)}
    (distinct : (entries.map Prod.fst).Nodup)
    (normal : ∀ entry ∈ entries, host.nfc entry.1 = entry.1 ∧
      Normal host entry.2) :
    Normal host (.object (ownPropertyOrder (sortOn Prod.fst entries))) := by
  have permutation :
      (ownPropertyOrder (sortOn Prod.fst entries)).Perm entries :=
    (ownPropertyOrder_perm _).trans (sortOn_perm _ _)
  have keysDistinct :
      ((ownPropertyOrder (sortOn Prod.fst entries)).map Prod.fst).Nodup :=
    (permutation.map Prod.fst).nodup_iff.mpr distinct
  constructor
  · simp only [Json.Stored]
    refine ⟨keysDistinct, ownPropertyOrder_idem _, ?_⟩
    rw [Json.storedFields_iff]
    intro field member
    exact (normal field (permutation.mem_iff.mp member)).2.stored
  · simp only [Json.toJs, Canonical]
    refine ⟨by decide, trivial, ownPropertyOrder (sortOn Prod.fst entries), ?_,
      keysDistinct, ?_⟩
    · apply canonicalEntries_of_fixed
      intro field member
      obtain ⟨keyFixed, valueNormal⟩ :=
        normal field (permutation.mem_iff.mp member)
      exact ⟨keyFixed, valueNormal.fixed⟩
    · rw [ownPropertyOrder_sortOn_idem distinct]

private theorem normal_array {elements : List Json}
    (normal : ∀ element ∈ elements, Normal host element) :
    Normal host (.array elements) := by
  constructor
  · simp only [Json.Stored]
    rw [storedElements_iff]
    exact fun element member => (normal element member).stored
  · simp only [Json.toJs, Canonical]
    refine ⟨trivial, rfl, elements, ?_, rfl⟩
    apply canonicalSlots_of_fixed
    exact fun element member => (normal element member).fixed

mutual

/-- Canonicalization is idempotent. -/
theorem Canonical.normal :
    ∀ {value : JsValue} {form : Json},
      Canonical host value form → Normal host form
  | .undefined, form, canonical => by
      simp [Canonical] at canonical
  | .null, form, canonical => by
      simp only [Canonical] at canonical
      subst canonical
      exact ⟨trivial, by simp [Json.toJs, Canonical]⟩
  | .boolean value, form, canonical => by
      simp only [Canonical] at canonical
      subst canonical
      exact ⟨trivial, by simp [Json.toJs, Canonical]⟩
  | .number value, form, canonical => by
      simp only [Canonical] at canonical
      obtain ⟨integer, safe, integral, rfl⟩ := canonical
      have integerSafe : JsNumber.isSafeInteger (.integer integer) = true := by
        cases value with
        | negativeZero =>
            simp only [JsNumber.toInt?, Option.some.injEq] at integral
            subst integral
            decide
        | integer other =>
            simp only [JsNumber.toInt?, Option.some.injEq] at integral
            subst integral
            exact safe
        | nan => simp [JsNumber.toInt?] at integral
        | infinity negative => simp [JsNumber.toInt?] at integral
        | fraction value text => simp [JsNumber.toInt?] at integral
      have bounds := JsNumber.bounds_of_isSafeInteger safe integral
      simp only [JsNumber.maxSafeInteger] at bounds
      constructor
      · simp only [Json.Stored]
        exact ⟨integer, by omega, rfl⟩
      · rw [Json.toJs, Canonical]
        exact ⟨integer, integerSafe, rfl, rfl⟩
  | .bigint value, form, canonical => by
      simp [Canonical] at canonical
  | .string value, form, canonical => by
      simp only [Canonical] at canonical
      obtain ⟨text, normalized, rfl⟩ := canonical
      refine ⟨trivial, ?_⟩
      rw [Json.toJs, Canonical]
      exact ⟨text, normalText_of_normalizeString host normalized, rfl⟩
  | .symbol, form, canonical => by
      simp [Canonical] at canonical
  | .function, form, canonical => by
      simp [Canonical] at canonical
  | .binary, form, canonical => by
      simp [Canonical] at canonical
  | .cycle, form, canonical => by
      simp [Canonical] at canonical
  | .array symbolKeyed named slots, form, canonical => by
      simp only [Canonical] at canonical
      obtain ⟨_, _, elements, elementsCanonical, rfl⟩ := canonical
      exact normal_array host (CanonicalSlots.normal elementsCanonical)
  | .object prototype symbolKeyed properties, form, canonical => by
      simp only [Canonical] at canonical
      obtain ⟨_, _, entries, entriesCanonical, distinct, rfl⟩ := canonical
      exact normal_object host distinct
        (CanonicalEntries.normal entriesCanonical)

theorem CanonicalSlots.normal :
    ∀ {slots : List (SlotKind × JsValue)} {elements : List Json},
      CanonicalSlots host slots elements →
      ∀ element ∈ elements, Normal host element
  | [], elements, canonical, element, member => by
      simp only [CanonicalSlots] at canonical
      simp [canonical] at member
  | (kind, value) :: rest, elements, canonical, element, member => by
      simp only [CanonicalSlots] at canonical
      obtain ⟨form, others, _, headCanonical, tailCanonical, rfl⟩ := canonical
      rcases List.mem_cons.mp member with rfl | later
      · exact Canonical.normal headCanonical
      · exact CanonicalSlots.normal tailCanonical element later

theorem CanonicalEntries.normal :
    ∀ {properties : List (JsString × SlotKind × JsValue)}
      {entries : List (JsString × Json)},
      CanonicalEntries host properties entries →
      ∀ entry ∈ entries, host.nfc entry.1 = entry.1 ∧ Normal host entry.2
  | [], entries, canonical, entry, member => by
      simp only [CanonicalEntries] at canonical
      simp [canonical] at member
  | (key, kind, value) :: rest, entries, canonical, entry, member => by
      simp only [CanonicalEntries] at canonical
      obtain ⟨form, others, _, headCanonical, tailCanonical, rfl⟩ := canonical
      rcases List.mem_cons.mp member with rfl | later
      · exact ⟨host.nfc_nfc key, Canonical.normal headCanonical⟩
      · exact CanonicalEntries.normal tailCanonical entry later

end

/-! ## Canonical bytes -/

/-- The bytes `canonicalize` returns for a canonical form. -/
def canonicalBytes (form : Json) : List UInt8 :=
  utf8 (jsonStringify form)

theorem canonicalBytes_inj {left right : Json}
    (leftStored : left.Stored) (rightStored : right.Stored)
    (sameBytes : canonicalBytes left = canonicalBytes right) :
    left = right := by
  apply jsonStringify_injective leftStored rightStored
  exact utf8_injective (jsonStringify_paired left) (jsonStringify_paired right)
    sameBytes

/-- The byte limit of the options, when they pass their own checks. -/
def byteLimit? (options : CanonicalizationOptions) :
    Option Int :=
  let maxBytes := options.maxBytes.getD (.integer defaultMaxCanonicalBytes)
  if options.canonicalizationVersion.getD canonicalizationVersion =
        canonicalizationVersion ∧
      isBlank options.schemaVersion = false ∧
      maxBytes.isSafeInteger = true then
    maxBytes.toInt?.filter fun limit => 0 < limit
  else none

/-- `canonicalize` returns exactly the canonical forms within the limit. -/
theorem canonicalize_eq_ok {value : JsValue}
    {options : CanonicalizationOptions} {result : Canonicalized} :
    canonicalize host value options = .ok result ↔
      ∃ limit form, byteLimit? options = some limit ∧
        Canonical host value form ∧
        (canonicalBytes form).length ≤ limit ∧
        result = ⟨canonicalBytes form, canonicalizationVersion,
          jsonStringify form, options.schemaVersion⟩ := by
  rw [canonicalize, byteLimit?]
  by_cases version :
      options.canonicalizationVersion.getD canonicalizationVersion =
        canonicalizationVersion
  · by_cases blank : isBlank options.schemaVersion = true
    · simp [version, blank]
    · generalize options.maxBytes.getD (.integer defaultMaxCanonicalBytes) =
        maxBytes
      cases safe : maxBytes.isSafeInteger with
      | false => simp [version, blank, safe]
      | true =>
          obtain ⟨limit, integral⟩ := JsNumber.toInt?_of_isSafeInteger safe
          by_cases positive : 0 < limit
          · have notNegative : ¬ limit ≤ 0 := by omega
            simp only [version, blank, safe, integral, notNegative, positive,
              ne_eq, not_true_eq_false, if_false, Bool.false_eq_true,
              Outcome.bind_eq_ok, canonicalNode_eq_ok, Option.filter_some,
              decide_true, and_self, if_true, Option.some.injEq,
              exists_eq_left', exists_and_left]
            constructor
            · rintro ⟨form, canonical, fits⟩
              split_ifs at fits with tooLarge
              · simp at fits
              · cases fits
                exact ⟨form, canonical, by simpa [canonicalBytes] using tooLarge,
                  rfl⟩
            · rintro ⟨form, canonical, fits, rfl⟩
              refine ⟨form, canonical, ?_⟩
              have small : ¬ limit < (utf8 (jsonStringify form)).length := by
                simpa [canonicalBytes] using fits
              simp only [small, if_false]
              rfl
          · have negative : limit ≤ 0 := by omega
            simp [version, blank, safe, integral, negative, positive]
  · simp [version]

end Host

end BidayaxExecutive.Trust
