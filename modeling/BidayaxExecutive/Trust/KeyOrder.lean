import BidayaxExecutive.Trust.CanonicalForm
import Mathlib.Data.List.Pairwise

/-!
# The order of canonical keys

The canonicalizer sorts the keys of an object by code units and stores them in
an object of its own, which enumerates array indices first and by their
numbers.  The printed keys are in code unit order exactly where the two orders
agree.
-/

namespace BidayaxExecutive.Trust

open BidayaxExecutive.Runtime JsString

/-! ## Enumeration order -/

/-- An object enumerates the left key before the right one, whatever came
first, or in the order in which they came. -/
def EnumeratedBefore (left right : JsString) : Prop :=
  match arrayIndex? left, arrayIndex? right with
  | some leftIndex, some rightIndex => leftIndex ≤ rightIndex
  | none, some _ => False
  | _, none => True

instance (left right : JsString) : Decidable (EnumeratedBefore left right) := by
  unfold EnumeratedBefore
  cases arrayIndex? left <;> cases arrayIndex? right <;> infer_instance

section Enumeration

variable {α : Type} {fields : List (JsString × α)}

theorem enumeratedBefore_of_isNone {left right : JsString}
    (named : (arrayIndex? right).isNone = true) :
    EnumeratedBefore left right := by
  unfold EnumeratedBefore
  rw [Option.isNone_iff_eq_none.mp named]
  cases arrayIndex? left with
  | none =>
      trivial
  | some index =>
      trivial

theorem enumeratedBefore_of_indexLe {left right : JsString × α}
    (isIndex : (arrayIndex? left.1).isSome = true)
    (below : IndexLe left right) : EnumeratedBefore left.1 right.1 := by
  obtain ⟨leftIndex, leftFound⟩ := Option.isSome_iff_exists.mp isIndex
  unfold IndexLe at below
  unfold EnumeratedBefore
  rw [leftFound] at below ⊢
  cases rightFound : arrayIndex? right.1 with
  | none =>
      trivial
  | some rightIndex =>
      rw [rightFound] at below
      exact below

theorem pairwise_ownPropertyOrder (fields : List (JsString × α)) :
    (ownPropertyOrder fields).Pairwise
      fun left right => EnumeratedBefore left.1 right.1 := by
  unfold ownPropertyOrder
  rw [List.pairwise_append]
  refine ⟨?_, ?_, ?_⟩
  · have sorted := List.pairwise_insertionSort IndexLe
      (fields.filter fun property => (arrayIndex? property.1).isSome)
    apply List.Pairwise.imp_of_mem _ sorted
    intro left right leftMember _ below
    have isIndex := (List.mem_filter.mp
      ((List.mem_insertionSort IndexLe).mp leftMember)).2
    exact enumeratedBefore_of_indexLe isIndex below
  · have always : (fields.filter fun property =>
        (arrayIndex? property.1).isNone).Pairwise fun _ _ => True :=
      List.pairwise_of_forall fun _ _ => trivial
    apply List.Pairwise.imp_of_mem _ always
    intro left right _ rightMember _
    exact enumeratedBefore_of_isNone (List.mem_filter.mp rightMember).2
  · intro left _ right rightMember
    exact enumeratedBefore_of_isNone (List.mem_filter.mp rightMember).2

theorem indexLe_of_enumeratedBefore {left right : JsString × α}
    (isIndex : (arrayIndex? right.1).isSome = true)
    (before : EnumeratedBefore left.1 right.1) : IndexLe left right := by
  obtain ⟨rightIndex, rightFound⟩ := Option.isSome_iff_exists.mp isIndex
  unfold EnumeratedBefore at before
  unfold IndexLe
  rw [rightFound] at before ⊢
  cases leftFound : arrayIndex? left.1 with
  | none =>
      rw [leftFound] at before
      exact before.elim
  | some leftIndex =>
      rw [leftFound] at before
      exact before

theorem isNone_of_enumeratedBefore {left right : JsString}
    (named : ¬(arrayIndex? left).isSome = true)
    (before : EnumeratedBefore left right) :
    (arrayIndex? right).isNone = true := by
  have leftNamed : arrayIndex? left = none := by simpa using named
  unfold EnumeratedBefore at before
  rw [leftNamed] at before
  cases rightFound : arrayIndex? right with
  | none =>
      rfl
  | some rightIndex =>
      rw [rightFound] at before
      exact before.elim

theorem indices_append_names
    (ordered : fields.Pairwise
      fun left right => EnumeratedBefore left.1 right.1) :
    (fields.filter fun field => (arrayIndex? field.1).isSome) ++
        (fields.filter fun field => (arrayIndex? field.1).isNone) =
      fields := by
  induction fields with
  | nil =>
      rfl
  | cons field rest inductionHypothesis =>
      have later := inductionHypothesis ordered.of_cons
      by_cases isIndex : (arrayIndex? field.1).isSome = true
      · have notName : ¬(arrayIndex? field.1).isNone = true := by
          rw [← Option.not_isSome, isIndex]
          exact Bool.false_ne_true
        have kept : (field :: rest).filter (fun other =>
              (arrayIndex? other.1).isSome) =
            field :: rest.filter fun other => (arrayIndex? other.1).isSome :=
          List.filter_cons_of_pos isIndex
        have dropped : (field :: rest).filter (fun other =>
              (arrayIndex? other.1).isNone) =
            rest.filter fun other => (arrayIndex? other.1).isNone :=
          List.filter_cons_of_neg notName
        rw [kept, dropped, List.cons_append, later]
      · have names : ∀ other ∈ field :: rest,
            (arrayIndex? other.1).isNone = true := by
          intro other member
          cases List.mem_cons.mp member with
          | inl same =>
              rw [same]
              simpa using isIndex
          | inr isLater =>
              exact isNone_of_enumeratedBefore isIndex
                ((List.pairwise_cons.mp ordered).1 other isLater)
        have noIndex : ∀ other ∈ field :: rest,
            ¬(arrayIndex? other.1).isSome = true := by
          intro other member
          simpa using names other member
        rw [List.filter_eq_nil_iff.mpr noIndex, List.nil_append,
          List.filter_eq_self.mpr names]

/-- Fields in enumeration order stay where they are. -/
theorem ownPropertyOrder_of_pairwise
    (ordered : fields.Pairwise
      fun left right => EnumeratedBefore left.1 right.1) :
    ownPropertyOrder fields = fields := by
  have sorted : (fields.filter fun field =>
      (arrayIndex? field.1).isSome).Pairwise IndexLe := by
    have within := ordered.sublist
      (List.filter_sublist (p := fun field : JsString × α =>
        (arrayIndex? field.1).isSome))
    apply List.Pairwise.imp_of_mem _ within
    intro left right _ rightMember before
    exact indexLe_of_enumeratedBefore (List.mem_filter.mp rightMember).2
      before
  unfold ownPropertyOrder
  rw [sorted.insertionSort_eq, indices_append_names ordered]

end Enumeration

/-! ## Keys in code unit order -/

def Ascending (keys : List JsString) : Prop :=
  keys.Pairwise fun left right => codeUnitLt left right = true

/-- Code unit order never puts two of the keys the other way round than
enumeration does. -/
def OrdersAgree (keys : List JsString) : Prop :=
  ∀ left ∈ keys, ∀ right ∈ keys,
    codeUnitLt left right = true → EnumeratedBefore left right

instance (keys : List JsString) : Decidable (OrdersAgree keys) :=
  inferInstanceAs (Decidable (∀ left ∈ keys, ∀ right ∈ keys,
    codeUnitLt left right = true → EnumeratedBefore left right))

section Fields

variable {entries : List (JsString × Json)}

theorem ascending_sortOn (distinct : (entries.map Prod.fst).Nodup) :
    Ascending ((sortOn Prod.fst entries).map Prod.fst) := by
  have sorted : ((sortOn Prod.fst entries).map Prod.fst).Pairwise
      fun left right => codeUnitLe left right = true := by
    rw [List.pairwise_map]
    exact sortOn_pairwise Prod.fst entries
  have sortedDistinct : ((sortOn Prod.fst entries).map Prod.fst).Nodup :=
    ((sortOn_perm Prod.fst entries).map Prod.fst).nodup_iff.mpr distinct
  apply List.Pairwise.imp _ (sorted.and sortedDistinct)
  intro left right related
  cases codeUnitLt_or_codeUnitLt_of_ne related.2 with
  | inl below =>
      exact below
  | inr above =>
      have notAbove := related.1
      unfold codeUnitLe at notAbove
      rw [above] at notAbove
      exact nomatch notAbove

theorem not_codeUnitLt_of_codeUnitLt {left right : JsString}
    (below : codeUnitLt left right = true) :
    ¬codeUnitLt right left = true := by
  intro above
  have cycle := codeUnitLt_trans below above
  rw [codeUnitLt_self] at cycle
  exact nomatch cycle

/-- The fields of a canonical object come in code unit order exactly where
the two orders agree. -/
theorem ascending_ownPropertyOrder_iff
    (distinct : (entries.map Prod.fst).Nodup) :
    Ascending ((ownPropertyOrder (sortOn Prod.fst entries)).map Prod.fst) ↔
      OrdersAgree (entries.map Prod.fst) := by
  have permuted : ((ownPropertyOrder (sortOn Prod.fst entries)).map
      Prod.fst).Perm (entries.map Prod.fst) :=
    ((ownPropertyOrder_perm _).trans (sortOn_perm _ _)).map Prod.fst
  constructor
  · intro ascending left leftMember right rightMember below
    have enumerated : ((ownPropertyOrder (sortOn Prod.fst entries)).map
        Prod.fst).Pairwise EnumeratedBefore := by
      rw [List.pairwise_map]
      exact pairwise_ownPropertyOrder _
    have forward : ((ownPropertyOrder (sortOn Prod.fst entries)).map
        Prod.fst).Pairwise fun first second =>
          codeUnitLt first second = true →
            EnumeratedBefore first second := by
      apply List.Pairwise.imp _ enumerated
      intro first second before _
      exact before
    have backward : ((ownPropertyOrder (sortOn Prod.fst entries)).map
        Prod.fst).Pairwise fun first second =>
          codeUnitLt second first = true →
            EnumeratedBefore second first := by
      apply List.Pairwise.imp _ ascending
      intro first second below above
      exact absurd above (not_codeUnitLt_of_codeUnitLt below)
    have agree := forward.forall_of_forall_of_flip
      (fun key _ same => absurd same (not_codeUnitLt_of_codeUnitLt same))
      backward
    exact agree (permuted.mem_iff.mpr leftMember)
      (permuted.mem_iff.mpr rightMember) below
  · intro agree
    have ascending := ascending_sortOn distinct
    have enumerated : (sortOn Prod.fst entries).Pairwise
        fun left right => EnumeratedBefore left.1 right.1 := by
      unfold Ascending at ascending
      rw [List.pairwise_map] at ascending
      apply List.Pairwise.imp_of_mem _ ascending
      intro left right leftMember rightMember below
      apply agree
      · exact List.mem_map_of_mem ((mem_sortOn Prod.fst).mp leftMember)
      · exact List.mem_map_of_mem ((mem_sortOn Prod.fst).mp rightMember)
      · exact below
    rw [ownPropertyOrder_of_pairwise enumerated]
    exact ascending

end Fields

/-! ## Keys at every depth -/

mutual

/-- Every object of the form lists its keys in strictly ascending order. -/
def KeysAscend : Json → Prop
  | .array elements => ElementsAscend elements
  | .object fields =>
      Ascending (fields.map Prod.fst) ∧ FieldsAscend fields
  | _ => True

def ElementsAscend : List Json → Prop
  | [] => True
  | element :: rest => KeysAscend element ∧ ElementsAscend rest

def FieldsAscend : List (JsString × Json) → Prop
  | [] => True
  | (_, value) :: rest => KeysAscend value ∧ FieldsAscend rest

end

theorem fieldsAscend_iff {fields : List (JsString × Json)} :
    FieldsAscend fields ↔ ∀ field ∈ fields, KeysAscend field.2 := by
  induction fields with
  | nil =>
      simp [FieldsAscend]
  | cons field rest inductionHypothesis =>
      simp [FieldsAscend, inductionHypothesis]

section Host

variable (host : Host)

mutual

/-- The two orders agree about the NFC keys of every object of the value. -/
def IndicesAgree : JsValue → Prop
  | .array _ _ slots => SlotsAgree slots
  | .object _ _ properties =>
      OrdersAgree (properties.map fun property => host.nfc property.1) ∧
        PropertiesAgree properties
  | _ => True

def SlotsAgree : List (SlotKind × JsValue) → Prop
  | [] => True
  | (_, value) :: rest => IndicesAgree value ∧ SlotsAgree rest

def PropertiesAgree : List (JsString × SlotKind × JsValue) → Prop
  | [] => True
  | (_, _, value) :: rest => IndicesAgree value ∧ PropertiesAgree rest

end

theorem canonicalEntries_keys
    {properties : List (JsString × SlotKind × JsValue)}
    {entries : List (JsString × Json)}
    (canonical : CanonicalEntries host properties entries) :
    entries.map Prod.fst =
      properties.map fun property => host.nfc property.1 := by
  induction properties generalizing entries with
  | nil =>
      rw [show entries = [] from canonical]
      rfl
  | cons property rest inductionHypothesis =>
      obtain ⟨key, kind, value⟩ := property
      simp only [CanonicalEntries] at canonical
      obtain ⟨form, others, _, _, tail, same⟩ := canonical
      rw [same, List.map_cons, List.map_cons, inductionHypothesis tail]

mutual

theorem Canonical.keysAscend_iff :
    ∀ {value : JsValue} {form : Json}, Canonical host value form →
      (KeysAscend form ↔ IndicesAgree host value)
  | .undefined, form, canonical => by
      simp [Canonical] at canonical
  | .null, form, canonical => by
      rw [show form = .null from canonical, KeysAscend, IndicesAgree]
      all_goals simp
  | .boolean value, form, canonical => by
      rw [show form = .boolean value from canonical, KeysAscend, IndicesAgree]
      all_goals simp
  | .number value, form, canonical => by
      obtain ⟨integer, _, _, same⟩ := canonical
      rw [same, KeysAscend, IndicesAgree]
      all_goals simp
  | .bigint value, form, canonical => by
      simp [Canonical] at canonical
  | .string value, form, canonical => by
      obtain ⟨text, _, same⟩ := canonical
      rw [same, KeysAscend, IndicesAgree]
      all_goals simp
  | .symbol, form, canonical => by
      simp [Canonical] at canonical
  | .function, form, canonical => by
      simp [Canonical] at canonical
  | .binary, form, canonical => by
      simp [Canonical] at canonical
  | .cycle, form, canonical => by
      simp [Canonical] at canonical
  | .array symbolKeyed named slots, form, canonical => by
      simp only [Canonical] at canonical
      obtain ⟨_, _, elements, elementsCanonical, same⟩ := canonical
      rw [same, KeysAscend, IndicesAgree]
      exact CanonicalSlots.elementsAscend_iff elementsCanonical
  | .object prototype symbolKeyed properties, form, canonical => by
      simp only [Canonical] at canonical
      obtain ⟨_, _, entries, entriesCanonical, distinct, same⟩ := canonical
      have permuted : (ownPropertyOrder (sortOn Prod.fst entries)).Perm
          entries :=
        (ownPropertyOrder_perm _).trans (sortOn_perm _ _)
      have sameFields :
          FieldsAscend (ownPropertyOrder (sortOn Prod.fst entries)) ↔
            FieldsAscend entries := by
        rw [fieldsAscend_iff, fieldsAscend_iff]
        exact forall_congr' fun field =>
          imp_congr_left permuted.mem_iff
      rw [same, KeysAscend, IndicesAgree,
        ascending_ownPropertyOrder_iff distinct, sameFields,
        canonicalEntries_keys host entriesCanonical,
        CanonicalEntries.fieldsAscend_iff entriesCanonical]

theorem CanonicalSlots.elementsAscend_iff :
    ∀ {slots : List (SlotKind × JsValue)} {elements : List Json},
      CanonicalSlots host slots elements →
      (ElementsAscend elements ↔ SlotsAgree host slots)
  | [], elements, canonical => by
      rw [show elements = [] from canonical, ElementsAscend, SlotsAgree]
  | (kind, value) :: rest, elements, canonical => by
      simp only [CanonicalSlots] at canonical
      obtain ⟨form, others, _, headCanonical, tailCanonical, same⟩ :=
        canonical
      rw [same, ElementsAscend, SlotsAgree,
        Canonical.keysAscend_iff headCanonical,
        CanonicalSlots.elementsAscend_iff tailCanonical]

theorem CanonicalEntries.fieldsAscend_iff :
    ∀ {properties : List (JsString × SlotKind × JsValue)}
      {entries : List (JsString × Json)},
      CanonicalEntries host properties entries →
      (FieldsAscend entries ↔ PropertiesAgree host properties)
  | [], entries, canonical => by
      rw [show entries = [] from canonical, FieldsAscend, PropertiesAgree]
  | (key, kind, value) :: rest, entries, canonical => by
      simp only [CanonicalEntries] at canonical
      obtain ⟨form, others, _, headCanonical, tailCanonical, same⟩ :=
        canonical
      rw [same, FieldsAscend, PropertiesAgree,
        Canonical.keysAscend_iff headCanonical,
        CanonicalEntries.fieldsAscend_iff tailCanonical]

end

/-! ## The printed keys -/

/-- The produced text lists the keys of every object in code unit order
exactly where code unit order and enumeration order agree at every object. -/
theorem canonicalize_keysAscend_iff {value : JsValue}
    {options : CanonicalizationOptions} {result : Canonicalized}
    (accepted : canonicalize host value options = .ok result) :
    ∃ form, form.Stored ∧ result.json = jsonStringify form ∧
      (KeysAscend form ↔ IndicesAgree host value) := by
  obtain ⟨limit, form, _, canonical, _, same⟩ :=
    (canonicalize_eq_ok host).mp accepted
  refine ⟨form, (Canonical.normal host canonical).stored, ?_,
    Canonical.keysAscend_iff host canonical⟩
  rw [same]

end Host

def numeralKeys : JsValue :=
  .object .objectPrototype false
    [(js "9", .enumerable, .null), (js "10", .enumerable, .null)]

theorem numeralKeys_keysAscend_iff :
    ∃ result,
      canonicalize (recordedHost []) numeralKeys
          { schemaVersion := js "1" } = .ok result ∧
        ∃ form, form.Stored ∧ result.json = jsonStringify form ∧
          (KeysAscend form ↔ IndicesAgree (recordedHost []) numeralKeys) := by
  have accepted : canonicalize (recordedHost []) numeralKeys
      { schemaVersion := js "1" } = .ok _ := rfl
  exact ⟨_, accepted, canonicalize_keysAscend_iff _ accepted⟩

/-- The number 9 is enumerated before the number 10, whose text comes
first. -/
theorem numeralKeys_not_ascending :
    ¬∀ (host : Host) (value : JsValue) (options : CanonicalizationOptions)
        (result : Canonicalized) (form : Json),
      canonicalize host value options = .ok result → form.Stored →
      result.json = jsonStringify form → KeysAscend form := by
  intro claim
  have accepted : canonicalize (recordedHost []) numeralKeys
      { schemaVersion := js "1" } = .ok _ := rfl
  have stored : Json.Stored
      (.object [(js "9", .null), (js "10", .null)]) := by
    simp only [Json.Stored, Json.StoredFields, and_true]
    exact ⟨by decide, rfl⟩
  have ascend := claim _ _ _ _ _ accepted stored rfl
  have below := (List.pairwise_cons.mp ascend.1).1 (js "10")
    List.mem_cons_self
  exact absurd below (by decide)

end BidayaxExecutive.Trust
