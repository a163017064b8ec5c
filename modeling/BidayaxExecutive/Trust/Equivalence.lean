import Mathlib.Data.List.Perm.Basic
import BidayaxExecutive.Trust.Timestamps

/-!
# What a canonical form identifies

Canonical text identifies exactly the values that are equal up to the order of
object keys, the Unicode normalization of strings and keys, the sign of zero
and the text that a string is canonicalized to.  That text does not always say
what the string means: an instant outside of the years 0 to 9999 is written
with a sign and six year digits, and a string that is written so is no
timestamp for the canonicalizer.
-/

namespace BidayaxExecutive.Trust

open BidayaxExecutive.Runtime JsString

section Host

variable (host : Host)

/-- A string with every timestamp replaced by the UTC instant it denotes, in
milliseconds. -/
def utcText (value : JsString) : JsString :=
  if timestampPattern (host.nfc value) then
    ((host.dateParse (host.nfc value)).map toISOString).getD (host.nfc value)
  else host.nfc value

/-- Texts that are canonicalized to one text. -/
def SameText (left right : JsString) : Prop :=
  utcText host left = utcText host right

/-- The instant that a text of timestamp shape denotes, or the normalized
text. -/
def meaning (text : JsString) : TimeValue ⊕ JsString :=
  if timestampPattern (host.nfc text) then
    match occurrence host text with
    | some time => .inl time
    | none => .inr (host.nfc text)
  else .inr (host.nfc text)

def SameMeaning (left right : JsString) : Prop :=
  meaning host left = meaning host right

theorem utcText_eq_meaning (text : JsString) :
    utcText host text = (meaning host text).elim toISOString id := by
  unfold utcText meaning occurrence
  by_cases stamp : timestampPattern (host.nfc text) = true
  · rw [if_pos stamp, if_pos stamp]
    cases host.dateParse (host.nfc text) with
    | none =>
        rfl
    | some time =>
        rfl
  · rw [if_neg stamp, if_neg stamp]
    rfl

theorem SameMeaning.sameText {left right : JsString}
    (same : SameMeaning host left right) : SameText host left right := by
  unfold SameText
  rw [utcText_eq_meaning, utcText_eq_meaning, same]

/-! ## Values up to their texts -/

section Agreement

variable (agree : JsString → JsString → Prop)

mutual

/-- Equality up to the order of keys, the normalization of keys and the sign
of zero, and of strings as far as they agree. -/
def Equivalent : JsValue → JsValue → Prop
  | .null, .null => True
  | .boolean left, .boolean right => left = right
  | .number left, .number right =>
      ∃ integer, left.toInt? = some integer ∧ right.toInt? = some integer
  | .string left, .string right => agree left right
  | .array _ _ left, .array _ _ right => EquivalentSlots left right
  | .object _ _ left, .object _ _ right =>
      ∃ reordered, reordered.Perm right ∧ EquivalentProperties left reordered
  | _, _ => False

def EquivalentSlots :
    List (SlotKind × JsValue) → List (SlotKind × JsValue) → Prop
  | [], [] => True
  | (_, left) :: lefts, (_, right) :: rights =>
      Equivalent left right ∧ EquivalentSlots lefts rights
  | _, _ => False

def EquivalentProperties :
    List (JsString × SlotKind × JsValue) →
      List (JsString × SlotKind × JsValue) → Prop
  | [], [] => True
  | (leftKey, _, left) :: lefts, (rightKey, _, right) :: rights =>
      host.nfc leftKey = host.nfc rightKey ∧ Equivalent left right ∧
        EquivalentProperties lefts rights
  | _, _ => False

end

end Agreement

theorem normalizeString_eq_utcText {value text : JsString}
    (normalized : normalizeString host value = .ok text) :
    text = utcText host value := by
  rw [normalizeString] at normalized
  rw [utcText]
  by_cases stamp : timestampPattern (host.nfc value) = true
  · cases read : host.dateParse (host.nfc value) with
    | none =>
        simp [stamp, read] at normalized
    | some instant =>
        simp only [stamp, read, if_true, Except.ok.injEq] at normalized
        simp only [stamp, if_true, Option.map_some, Option.getD_some,
          normalized]
  · simp only [stamp, Bool.false_eq_true, if_false, Except.ok.injEq]
      at normalized
    rw [if_neg stamp]
    exact normalized.symm

/-! ## Reordering the properties of an object -/

/-- One property and the entry it becomes. -/
def CanonicalProperty (property : JsString × SlotKind × JsValue)
    (entry : JsString × Json) : Prop :=
  property.2.1 = .enumerable ∧ Canonical host property.2.2 entry.2 ∧
    entry.1 = host.nfc property.1

theorem canonicalEntries_iff_forall₂ :
    ∀ {properties : List (JsString × SlotKind × JsValue)}
      {entries : List (JsString × Json)},
      CanonicalEntries host properties entries ↔
        List.Forall₂ (CanonicalProperty host) properties entries
  | [], entries => by
      rw [CanonicalEntries, List.forall₂_nil_left_iff]
  | (key, kind, value) :: rest, entries => by
      rw [CanonicalEntries, List.forall₂_cons_left_iff]
      constructor
      · rintro ⟨form, others, visible, canonical, tail, rfl⟩
        exact ⟨(host.nfc key, form), others, ⟨visible, canonical, rfl⟩,
          canonicalEntries_iff_forall₂.mp tail, rfl⟩
      · rintro ⟨⟨entryKey, form⟩, others, ⟨visible, canonical, keyEq⟩, tail,
          rfl⟩
        have tailCanonical := canonicalEntries_iff_forall₂.mpr tail
        have sameKey : entryKey = host.nfc key := keyEq
        exact ⟨form, others, visible, canonical, tailCanonical, by
          rw [sameKey]⟩

/-- Reordered entries come from reordered properties. -/
theorem canonicalEntries_of_perm_entries
    {properties : List (JsString × SlotKind × JsValue)}
    {entries reordered : List (JsString × Json)}
    (canonical : CanonicalEntries host properties entries)
    (permutation : reordered.Perm entries) :
    ∃ matched, matched.Perm properties ∧
      CanonicalEntries host matched reordered := by
  have flipped := (canonicalEntries_iff_forall₂ host).mp canonical |>.flip
  obtain ⟨matched, related, perm⟩ :=
    List.perm_comp_forall₂ permutation flipped
  exact ⟨matched, perm, (canonicalEntries_iff_forall₂ host).mpr related.flip⟩

/-- Reordered properties give reordered entries. -/
theorem canonicalEntries_of_perm_properties
    {properties reordered : List (JsString × SlotKind × JsValue)}
    {entries : List (JsString × Json)}
    (canonical : CanonicalEntries host properties entries)
    (permutation : reordered.Perm properties) :
    ∃ matched, matched.Perm entries ∧
      CanonicalEntries host reordered matched := by
  obtain ⟨matched, related, perm⟩ := List.perm_comp_forall₂ permutation
    ((canonicalEntries_iff_forall₂ host).mp canonical)
  exact ⟨matched, perm, (canonicalEntries_iff_forall₂ host).mpr related⟩

/-! ## Equal forms are forms of equivalent values -/

mutual

theorem equivalent_of_canonical :
    ∀ {left right : JsValue} {form : Json},
      Canonical host left form → Canonical host right form →
      Equivalent host (SameText host) left right
  | .null, right, form, leftForm, rightForm => by
      simp only [Canonical] at leftForm
      subst leftForm
      cases right <;> simp [Canonical] at rightForm
      simp [Equivalent]
  | .boolean value, right, form, leftForm, rightForm => by
      simp only [Canonical] at leftForm
      subst leftForm
      cases right <;> simp [Canonical] at rightForm
      simpa [Equivalent] using rightForm
  | .number value, right, form, leftForm, rightForm => by
      simp only [Canonical] at leftForm
      obtain ⟨integer, _, integral, rfl⟩ := leftForm
      cases right <;> simp [Canonical] at rightForm
      simp only [Equivalent]
      exact ⟨integer, integral, rightForm.2⟩
  | .string value, right, form, leftForm, rightForm => by
      simp only [Canonical] at leftForm
      obtain ⟨text, normalized, rfl⟩ := leftForm
      cases right <;> simp [Canonical] at rightForm
      simp only [Equivalent]
      unfold SameText
      rw [← normalizeString_eq_utcText host normalized,
        ← normalizeString_eq_utcText host rightForm]
  | .array _ _ slots, right, form, leftForm, rightForm => by
      simp only [Canonical] at leftForm
      obtain ⟨_, _, elements, leftElements, rfl⟩ := leftForm
      cases right <;> simp [Canonical] at rightForm
      simp only [Equivalent]
      exact equivalentSlots_of_canonical leftElements rightForm.2.2
  | .object _ _ properties, right, form, leftForm, rightForm => by
      simp only [Canonical] at leftForm
      obtain ⟨_, _, entries, leftEntries, _, rfl⟩ := leftForm
      cases right <;> simp [Canonical] at rightForm
      obtain ⟨_, _, others, rightEntries, _, sameFields⟩ := rightForm
      have permutation : entries.Perm others := by
        have fieldsPerm : ∀ list : List (JsString × Json),
            (ownPropertyOrder (sortOn Prod.fst list)).Perm list :=
          fun list => (ownPropertyOrder_perm _).trans (sortOn_perm _ _)
        exact (fieldsPerm entries).symm.trans (sameFields ▸ fieldsPerm others)
      obtain ⟨reordered, perm, matched⟩ :=
        canonicalEntries_of_perm_entries host rightEntries permutation
      simp only [Equivalent]
      exact ⟨reordered, perm,
        equivalentProperties_of_canonical leftEntries matched⟩
  | .undefined, right, form, leftForm, rightForm => by
      simp [Canonical] at leftForm
  | .bigint _, right, form, leftForm, rightForm => by
      simp [Canonical] at leftForm
  | .symbol, right, form, leftForm, rightForm => by
      simp [Canonical] at leftForm
  | .function, right, form, leftForm, rightForm => by
      simp [Canonical] at leftForm
  | .binary, right, form, leftForm, rightForm => by
      simp [Canonical] at leftForm
  | .cycle, right, form, leftForm, rightForm => by
      simp [Canonical] at leftForm

theorem equivalentSlots_of_canonical :
    ∀ {left right : List (SlotKind × JsValue)} {forms : List Json},
      CanonicalSlots host left forms → CanonicalSlots host right forms →
      EquivalentSlots host (SameText host) left right
  | [], right, forms, leftForms, rightForms => by
      simp only [CanonicalSlots] at leftForms
      subst leftForms
      cases right with
      | nil => simp [EquivalentSlots]
      | cons slot rest => simp [CanonicalSlots] at rightForms
  | (_, value) :: rest, right, forms, leftForms, rightForms => by
      simp only [CanonicalSlots] at leftForms
      obtain ⟨form, others, _, leftForm, leftTail, rfl⟩ := leftForms
      cases right with
      | nil => simp [CanonicalSlots] at rightForms
      | cons slot rights =>
          obtain ⟨kind, other⟩ := slot
          simp only [CanonicalSlots, List.cons.injEq] at rightForms
          obtain ⟨_, _, _, rightForm, rightTail, rfl, rfl⟩ := rightForms
          simp only [EquivalentSlots]
          exact ⟨equivalent_of_canonical leftForm rightForm,
            equivalentSlots_of_canonical leftTail rightTail⟩

theorem equivalentProperties_of_canonical :
    ∀ {left right : List (JsString × SlotKind × JsValue)}
      {entries : List (JsString × Json)},
      CanonicalEntries host left entries →
      CanonicalEntries host right entries →
      EquivalentProperties host (SameText host) left right
  | [], right, entries, leftEntries, rightEntries => by
      simp only [CanonicalEntries] at leftEntries
      subst leftEntries
      cases right with
      | nil => simp [EquivalentProperties]
      | cons property rest => simp [CanonicalEntries] at rightEntries
  | (key, _, value) :: rest, right, entries, leftEntries, rightEntries => by
      simp only [CanonicalEntries] at leftEntries
      obtain ⟨form, others, _, leftForm, leftTail, rfl⟩ := leftEntries
      cases right with
      | nil => simp [CanonicalEntries] at rightEntries
      | cons property rights =>
          obtain ⟨otherKey, kind, other⟩ := property
          simp only [CanonicalEntries, List.cons.injEq, Prod.mk.injEq]
            at rightEntries
          obtain ⟨_, _, _, rightForm, rightTail, ⟨sameKey, rfl⟩, rfl⟩ :=
            rightEntries
          simp only [EquivalentProperties]
          exact ⟨sameKey, equivalent_of_canonical leftForm rightForm,
            equivalentProperties_of_canonical leftTail rightTail⟩

end

/-! ## Equivalent values have one form -/

mutual

theorem form_eq_of_equivalent :
    ∀ {left right : JsValue} {leftForm rightForm : Json},
      Equivalent host (SameText host) left right → Canonical host left leftForm →
      Canonical host right rightForm → leftForm = rightForm
  | .null, right, leftForm, rightForm, equivalent, leftIs, rightIs => by
      cases right <;> simp [Equivalent] at equivalent
      simp only [Canonical] at leftIs rightIs
      rw [leftIs, rightIs]
  | .boolean value, right, leftForm, rightForm, equivalent, leftIs,
      rightIs => by
      cases right <;> simp [Equivalent] at equivalent
      simp only [Canonical] at leftIs rightIs
      rw [leftIs, rightIs, equivalent]
  | .number value, right, leftForm, rightForm, equivalent, leftIs,
      rightIs => by
      cases right <;> simp [Equivalent] at equivalent
      simp only [Canonical] at leftIs rightIs
      obtain ⟨common, leftCommon, rightCommon⟩ := equivalent
      obtain ⟨leftInteger, _, leftIntegral, rfl⟩ := leftIs
      obtain ⟨rightInteger, _, rightIntegral, rfl⟩ := rightIs
      rw [leftIntegral] at leftCommon
      rw [rightIntegral] at rightCommon
      rw [Option.some.inj leftCommon, Option.some.inj rightCommon]
  | .string value, right, leftForm, rightForm, equivalent, leftIs,
      rightIs => by
      cases right <;> simp [Equivalent] at equivalent
      simp only [Canonical] at leftIs rightIs
      obtain ⟨leftText, leftNormalized, rfl⟩ := leftIs
      obtain ⟨rightText, rightNormalized, rfl⟩ := rightIs
      unfold SameText at equivalent
      rw [normalizeString_eq_utcText host leftNormalized,
        normalizeString_eq_utcText host rightNormalized, equivalent]
  | .array _ _ slots, right, leftForm, rightForm, equivalent, leftIs,
      rightIs => by
      cases right <;> simp [Equivalent] at equivalent
      simp only [Canonical] at leftIs rightIs
      obtain ⟨_, _, lefts, leftElements, rfl⟩ := leftIs
      obtain ⟨_, _, rights, rightElements, rfl⟩ := rightIs
      rw [forms_eq_of_equivalentSlots equivalent leftElements rightElements]
  | .object _ _ properties, right, leftForm, rightForm, equivalent, leftIs,
      rightIs => by
      cases right <;> simp [Equivalent] at equivalent
      simp only [Canonical] at leftIs rightIs
      obtain ⟨reordered, perm, matched⟩ := equivalent
      obtain ⟨_, _, entries, leftEntries, distinct, rfl⟩ := leftIs
      obtain ⟨_, _, others, rightEntries, _, rfl⟩ := rightIs
      obtain ⟨reorderedEntries, entriesPerm, reorderedCanonical⟩ :=
        canonicalEntries_of_perm_properties host rightEntries perm
      have sameEntries := entries_eq_of_equivalentProperties matched
        leftEntries reorderedCanonical
      rw [← sameEntries] at entriesPerm
      rw [sortOn_eq_of_perm Prod.fst entriesPerm distinct]
  | .undefined, right, leftForm, rightForm, equivalent, leftIs, rightIs => by
      simp [Canonical] at leftIs
  | .bigint _, right, leftForm, rightForm, equivalent, leftIs, rightIs => by
      simp [Canonical] at leftIs
  | .symbol, right, leftForm, rightForm, equivalent, leftIs, rightIs => by
      simp [Canonical] at leftIs
  | .function, right, leftForm, rightForm, equivalent, leftIs, rightIs => by
      simp [Canonical] at leftIs
  | .binary, right, leftForm, rightForm, equivalent, leftIs, rightIs => by
      simp [Canonical] at leftIs
  | .cycle, right, leftForm, rightForm, equivalent, leftIs, rightIs => by
      simp [Canonical] at leftIs

theorem forms_eq_of_equivalentSlots :
    ∀ {left right : List (SlotKind × JsValue)} {lefts rights : List Json},
      EquivalentSlots host (SameText host) left right →
      CanonicalSlots host left lefts → CanonicalSlots host right rights →
      lefts = rights
  | [], [], lefts, rights, _, leftIs, rightIs => by
      simp only [CanonicalSlots] at leftIs rightIs
      rw [leftIs, rightIs]
  | [], _ :: _, lefts, rights, equivalent, _, _ => by
      simp [EquivalentSlots] at equivalent
  | _ :: _, [], lefts, rights, equivalent, _, _ => by
      simp [EquivalentSlots] at equivalent
  | (_, left) :: leftRest, (_, right) :: rightRest, lefts, rights, equivalent,
      leftIs, rightIs => by
      simp only [EquivalentSlots] at equivalent
      simp only [CanonicalSlots] at leftIs rightIs
      obtain ⟨leftForm, leftForms, _, leftHead, leftTail, rfl⟩ := leftIs
      obtain ⟨rightForm, rightForms, _, rightHead, rightTail, rfl⟩ := rightIs
      rw [form_eq_of_equivalent equivalent.1 leftHead rightHead,
        forms_eq_of_equivalentSlots equivalent.2 leftTail rightTail]

theorem entries_eq_of_equivalentProperties :
    ∀ {left right : List (JsString × SlotKind × JsValue)}
      {lefts rights : List (JsString × Json)},
      EquivalentProperties host (SameText host) left right →
      CanonicalEntries host left lefts → CanonicalEntries host right rights →
      lefts = rights
  | [], [], lefts, rights, _, leftIs, rightIs => by
      simp only [CanonicalEntries] at leftIs rightIs
      rw [leftIs, rightIs]
  | [], _ :: _, lefts, rights, equivalent, _, _ => by
      simp [EquivalentProperties] at equivalent
  | _ :: _, [], lefts, rights, equivalent, _, _ => by
      simp [EquivalentProperties] at equivalent
  | (leftKey, _, left) :: leftRest, (rightKey, _, right) :: rightRest, lefts,
      rights, equivalent, leftIs, rightIs => by
      simp only [EquivalentProperties] at equivalent
      simp only [CanonicalEntries] at leftIs rightIs
      obtain ⟨leftForm, leftForms, _, leftHead, leftTail, rfl⟩ := leftIs
      obtain ⟨rightForm, rightForms, _, rightHead, rightTail, rfl⟩ := rightIs
      rw [equivalent.1,
        form_eq_of_equivalent equivalent.2.1 leftHead rightHead,
        entries_eq_of_equivalentProperties equivalent.2.2 leftTail rightTail]

end

/-- Two accepted values have one canonical text exactly when they agree in the
texts of their strings. -/
theorem canonicalize_json_eq_iff_equivalent {left right : JsValue}
    {options : CanonicalizationOptions} {leftResult rightResult : Canonicalized}
    (leftAccepted : canonicalize host left options = .ok leftResult)
    (rightAccepted : canonicalize host right options = .ok rightResult) :
    leftResult.json = rightResult.json ↔
      Equivalent host (SameText host) left right := by
  obtain ⟨_, leftForm, _, leftCanonical, _, rfl⟩ :=
    (canonicalize_eq_ok host).mp leftAccepted
  obtain ⟨_, rightForm, _, rightCanonical, _, rfl⟩ :=
    (canonicalize_eq_ok host).mp rightAccepted
  constructor
  · intro sameText
    have sameForm : leftForm = rightForm :=
      jsonStringify_injective (leftCanonical.normal host).stored
        (rightCanonical.normal host).stored sameText
    rw [← sameForm] at rightCanonical
    exact equivalent_of_canonical host leftCanonical rightCanonical
  · intro equivalent
    have sameForm :=
      form_eq_of_equivalent host equivalent leftCanonical rightCanonical
    rw [sameForm]

end Host

/-! ## The strings of a value -/

mutual

def stringsOf : JsValue → List JsString
  | .string value => [value]
  | .array _ _ slots => stringsOfSlots slots
  | .object _ _ properties => stringsOfProperties properties
  | _ => []

def stringsOfSlots : List (SlotKind × JsValue) → List JsString
  | [] => []
  | (_, value) :: rest => stringsOf value ++ stringsOfSlots rest

def stringsOfProperties :
    List (JsString × SlotKind × JsValue) → List JsString
  | [] => []
  | (_, _, value) :: rest => stringsOf value ++ stringsOfProperties rest

end

section Host

variable (host : Host)

section Agreement

variable {agree weaker : JsString → JsString → Prop}

mutual

/-- Values agree in a second sense where their strings do. -/
theorem equivalent_of_agree :
    ∀ {left right : JsValue},
      (∀ text ∈ stringsOf left, ∀ other, agree text other →
        weaker text other) →
      Equivalent host agree left right → Equivalent host weaker left right
  | .null, right, _, equivalent => by
      cases right <;> simp [Equivalent] at equivalent
      simp [Equivalent]
  | .boolean value, right, _, equivalent => by
      cases right <;> simp [Equivalent] at equivalent
      simpa [Equivalent] using equivalent
  | .number value, right, _, equivalent => by
      cases right <;> simp [Equivalent] at equivalent
      simpa [Equivalent] using equivalent
  | .string value, right, follows, equivalent => by
      cases right <;> simp [Equivalent] at equivalent
      simp only [Equivalent]
      exact follows value (by simp [stringsOf]) _ equivalent
  | .array _ _ slots, right, follows, equivalent => by
      cases right <;> simp [Equivalent] at equivalent
      simp only [Equivalent]
      exact equivalentSlots_of_agree follows equivalent
  | .object _ _ properties, right, follows, equivalent => by
      cases right <;> simp [Equivalent] at equivalent
      simp only [Equivalent]
      obtain ⟨reordered, perm, matched⟩ := equivalent
      exact ⟨reordered, perm, equivalentProperties_of_agree follows matched⟩
  | .undefined, right, _, equivalent => by
      simp [Equivalent] at equivalent
  | .bigint _, right, _, equivalent => by
      simp [Equivalent] at equivalent
  | .symbol, right, _, equivalent => by
      simp [Equivalent] at equivalent
  | .function, right, _, equivalent => by
      simp [Equivalent] at equivalent
  | .binary, right, _, equivalent => by
      simp [Equivalent] at equivalent
  | .cycle, right, _, equivalent => by
      simp [Equivalent] at equivalent

theorem equivalentSlots_of_agree :
    ∀ {left right : List (SlotKind × JsValue)},
      (∀ text ∈ stringsOfSlots left, ∀ other, agree text other →
        weaker text other) →
      EquivalentSlots host agree left right →
      EquivalentSlots host weaker left right
  | [], right, _, equivalent => by
      cases right <;> simp [EquivalentSlots] at equivalent
      simp [EquivalentSlots]
  | (_, value) :: rest, right, follows, equivalent => by
      cases right with
      | nil => simp [EquivalentSlots] at equivalent
      | cons slot others =>
          simp only [EquivalentSlots] at equivalent ⊢
          simp only [stringsOfSlots, List.forall_mem_append] at follows
          exact ⟨equivalent_of_agree follows.1 equivalent.1,
            equivalentSlots_of_agree follows.2 equivalent.2⟩

theorem equivalentProperties_of_agree :
    ∀ {left right : List (JsString × SlotKind × JsValue)},
      (∀ text ∈ stringsOfProperties left, ∀ other, agree text other →
        weaker text other) →
      EquivalentProperties host agree left right →
      EquivalentProperties host weaker left right
  | [], right, _, equivalent => by
      cases right <;> simp [EquivalentProperties] at equivalent
      simp [EquivalentProperties]
  | (_, _, value) :: rest, right, follows, equivalent => by
      cases right with
      | nil => simp [EquivalentProperties] at equivalent
      | cons property others =>
          simp only [EquivalentProperties] at equivalent ⊢
          simp only [stringsOfProperties, List.forall_mem_append] at follows
          exact ⟨equivalent.1, equivalent_of_agree follows.1 equivalent.2.1,
            equivalentProperties_of_agree follows.2 equivalent.2.2⟩

end

end Agreement

/-! ## One string replaced -/

theorem keys_of_canonicalEntries
    {properties : List (JsString × SlotKind × JsValue)}
    {entries : List (JsString × Json)}
    (canonical : CanonicalEntries host properties entries) :
    (properties.map fun property => host.nfc property.1) =
      entries.map Prod.fst := by
  induction properties generalizing entries with
  | nil =>
      simp only [CanonicalEntries] at canonical
      rw [canonical]
      rfl
  | cons property rest inductionHypothesis =>
      rcases property with ⟨key, kind, value⟩
      simp only [CanonicalEntries] at canonical
      obtain ⟨form, others, _, _, tail, rfl⟩ := canonical
      rw [List.map_cons, List.map_cons, inductionHypothesis tail]

theorem keys_of_equivalentProperties {agree : JsString → JsString → Prop} :
    ∀ {left right : List (JsString × SlotKind × JsValue)},
      EquivalentProperties host agree left right →
      (left.map fun property => host.nfc property.1) =
        right.map fun property => host.nfc property.1
  | [], right, equivalent => by
      cases right <;> simp [EquivalentProperties] at equivalent
      rfl
  | (_, _, _) :: rest, right, equivalent => by
      cases right with
      | nil => simp [EquivalentProperties] at equivalent
      | cons property others =>
          simp only [EquivalentProperties] at equivalent
          rw [List.map_cons, List.map_cons, equivalent.1,
            keys_of_equivalentProperties equivalent.2.2]

/-- Properties with distinct keys in a given order are in one order only. -/
theorem eq_of_perm_of_keys {Property Key : Type} {key : Property → Key}
    {left right : List Property} (permutation : left.Perm right)
    (keys : left.map key = right.map key) (distinct : (right.map key).Nodup) :
    left = right := by
  refine List.ext_getElem permutation.length_eq ?_
  intro position inLeft inRight
  have sameKey : key left[position] = key right[position] := by
    rw [← List.getElem_map key, ← List.getElem_map key]
    · simp only [keys]
    · simpa using inRight
    · simpa using inLeft
  exact List.inj_on_of_nodup_map distinct
    (permutation.mem_iff.mp (List.getElem_mem inLeft))
    (List.getElem_mem inRight) sameKey

mutual

/-- A string may be replaced by any that is canonicalized to the same text,
which changes what the value means where the two strings do not agree. -/
theorem exists_respelled {agree : JsString → JsString → Prop}
    {text other : JsString}
    (sameForm : normalizeString host text = normalizeString host other)
    (disagree : ¬agree text other) :
    ∀ {value : JsValue} {form : Json}, Canonical host value form →
      text ∈ stringsOf value →
      ∃ respelled, Canonical host respelled form ∧
        ¬Equivalent host agree value respelled
  | .string value, form, canonical, member => by
      have same : text = value := by simpa [stringsOf] using member
      subst same
      refine ⟨.string other, ?_, by simpa only [Equivalent] using disagree⟩
      simpa only [Canonical, sameForm] using canonical
  | .array symbolKeyed named slots, form, canonical, member => by
      simp only [Canonical] at canonical
      obtain ⟨plain, numerals, elements, inside, rfl⟩ := canonical
      obtain ⟨respelled, canonical, differ⟩ :=
        exists_respelled_slots sameForm disagree inside member
      refine ⟨.array symbolKeyed named respelled, ?_, ?_⟩
      · simp only [Canonical]
        exact ⟨plain, numerals, elements, canonical, rfl⟩
      · simpa only [Equivalent] using differ
  | .object prototype symbolKeyed properties, form, canonical, member => by
      simp only [Canonical] at canonical
      obtain ⟨known, plain, entries, inside, distinct, rfl⟩ := canonical
      obtain ⟨respelled, canonical, differ⟩ :=
        exists_respelled_properties sameForm disagree inside member
      refine ⟨.object prototype symbolKeyed respelled, ?_, ?_⟩
      · simp only [Canonical]
        exact ⟨known, plain, entries, canonical, distinct, rfl⟩
      · simp only [Equivalent]
        rintro ⟨reordered, perm, matched⟩
        -- The keys are distinct, so nothing but the same place is matched.
        have keys := keys_of_canonicalEntries host canonical
        have unmoved : reordered = respelled := by
          refine eq_of_perm_of_keys perm ?_ (keys ▸ distinct)
          rw [keys, ← keys_of_canonicalEntries host inside,
            keys_of_equivalentProperties host matched]
        exact differ (unmoved ▸ matched)
  | .null, form, canonical, member => by
      simp [stringsOf] at member
  | .boolean _, form, canonical, member => by
      simp [stringsOf] at member
  | .number _, form, canonical, member => by
      simp [stringsOf] at member
  | .undefined, form, canonical, member => by
      simp [stringsOf] at member
  | .bigint _, form, canonical, member => by
      simp [stringsOf] at member
  | .symbol, form, canonical, member => by
      simp [stringsOf] at member
  | .function, form, canonical, member => by
      simp [stringsOf] at member
  | .binary, form, canonical, member => by
      simp [stringsOf] at member
  | .cycle, form, canonical, member => by
      simp [stringsOf] at member

theorem exists_respelled_slots {agree : JsString → JsString → Prop}
    {text other : JsString}
    (sameForm : normalizeString host text = normalizeString host other)
    (disagree : ¬agree text other) :
    ∀ {slots : List (SlotKind × JsValue)} {forms : List Json},
      CanonicalSlots host slots forms → text ∈ stringsOfSlots slots →
      ∃ respelled, CanonicalSlots host respelled forms ∧
        ¬EquivalentSlots host agree slots respelled
  | [], forms, canonical, member => by
      simp [stringsOfSlots] at member
  | (kind, value) :: rest, forms, canonical, member => by
      simp only [CanonicalSlots] at canonical
      obtain ⟨form, others, visible, first, tail, rfl⟩ := canonical
      rw [stringsOfSlots, List.mem_append] at member
      rcases member with inFirst | later
      · obtain ⟨respelled, canonical, differ⟩ :=
          exists_respelled sameForm disagree first inFirst
        refine ⟨(kind, respelled) :: rest, ?_, ?_⟩
        · simp only [CanonicalSlots]
          exact ⟨form, others, visible, canonical, tail, rfl⟩
        · simp only [EquivalentSlots]
          exact fun same => differ same.1
      · obtain ⟨respelled, canonical, differ⟩ :=
          exists_respelled_slots sameForm disagree tail later
        refine ⟨(kind, value) :: respelled, ?_, ?_⟩
        · simp only [CanonicalSlots]
          exact ⟨form, others, visible, first, canonical, rfl⟩
        · simp only [EquivalentSlots]
          exact fun same => differ same.2

theorem exists_respelled_properties {agree : JsString → JsString → Prop}
    {text other : JsString}
    (sameForm : normalizeString host text = normalizeString host other)
    (disagree : ¬agree text other) :
    ∀ {properties : List (JsString × SlotKind × JsValue)}
      {entries : List (JsString × Json)},
      CanonicalEntries host properties entries →
      text ∈ stringsOfProperties properties →
      ∃ respelled, CanonicalEntries host respelled entries ∧
        ¬EquivalentProperties host agree properties respelled
  | [], entries, canonical, member => by
      simp [stringsOfProperties] at member
  | (key, kind, value) :: rest, entries, canonical, member => by
      simp only [CanonicalEntries] at canonical
      obtain ⟨form, others, visible, first, tail, rfl⟩ := canonical
      rw [stringsOfProperties, List.mem_append] at member
      rcases member with inFirst | later
      · obtain ⟨respelled, canonical, differ⟩ :=
          exists_respelled sameForm disagree first inFirst
        refine ⟨(key, kind, respelled) :: rest, ?_, ?_⟩
        · simp only [CanonicalEntries]
          exact ⟨form, others, visible, canonical, tail, rfl⟩
        · simp only [EquivalentProperties]
          exact fun same => differ same.2.1
      · obtain ⟨respelled, canonical, differ⟩ :=
          exists_respelled_properties sameForm disagree tail later
        refine ⟨(key, kind, value) :: respelled, ?_, ?_⟩
        · simp only [CanonicalEntries]
          exact ⟨form, others, visible, first, canonical, rfl⟩
        · simp only [EquivalentProperties]
          exact fun same => differ same.2.2

end

/-! ## Faithful canonicalization -/

/-- A timestamp is replaced by a text of timestamp shape, and any other text is
not what a timestamp is replaced by. -/
def Unmistakable (text : JsString) : Prop :=
  if timestampPattern (host.nfc text) then
    ∀ time, occurrence host text = some time → FourDigitYear time
  else
    ∀ stamp time, timestampPattern (host.nfc stamp) = true →
      occurrence host stamp = some time → host.nfc text ≠ toISOString time

theorem meaning_cases (text : JsString) :
    (∃ time, timestampPattern (host.nfc text) = true ∧
        occurrence host text = some time ∧ meaning host text = .inl time) ∨
      (timestampPattern (host.nfc text) = true →
        occurrence host text = none) ∧
        meaning host text = .inr (host.nfc text) := by
  unfold meaning
  by_cases stamp : timestampPattern (host.nfc text) = true
  · rw [if_pos stamp]
    cases occurs : occurrence host text with
    | none =>
        exact .inr ⟨fun _ => rfl, rfl⟩
    | some time =>
        exact .inl ⟨time, stamp, rfl, rfl⟩
  · rw [if_neg stamp]
    exact .inr ⟨fun isStamp => absurd isStamp stamp, rfl⟩

/-- A text that is the replacement of a timestamp without being one. -/
theorem not_stamp_of_replacement {text : JsString} {time : TimeValue}
    (unread : timestampPattern (host.nfc text) = true →
      occurrence host text = none)
    (replacement : host.nfc text = toISOString time) :
    ¬timestampPattern (host.nfc text) = true := by
  intro stamp
  have read := unread stamp
  rw [occurrence, replacement, host.dateParse_toISOString] at read
  cases read

theorem SameText.sameMeaning {text other : JsString}
    (unmistakable : Unmistakable host text)
    (same : SameText host text other) : SameMeaning host text other := by
  unfold SameText at same
  rw [utcText_eq_meaning, utcText_eq_meaning] at same
  unfold SameMeaning
  unfold Unmistakable at unmistakable
  rcases meaning_cases host text with ⟨time, stamp, occurs, means⟩ |
      ⟨unread, means⟩ <;>
    rcases meaning_cases host other with
      ⟨otherTime, otherStamp, otherOccurs, otherMeans⟩ |
        ⟨otherUnread, otherMeans⟩ <;>
    rw [means, otherMeans] at same ⊢ <;>
    simp only [Sum.elim_inl, Sum.elim_inr, id_eq] at same
  · have parsed := congrArg host.dateParse same
    rw [host.dateParse_toISOString, host.dateParse_toISOString] at parsed
    rw [Option.some.inj parsed]
  · rw [if_pos stamp] at unmistakable
    have years := unmistakable time occurs
    rw [← timestampPattern_toISOString_iff, same] at years
    exact absurd years
      (not_stamp_of_replacement host otherUnread same.symm)
  · rw [if_neg (not_stamp_of_replacement host unread same)] at unmistakable
    exact absurd same (unmistakable other otherTime otherStamp otherOccurs)
  · rw [same]

/-- Otherwise a string of another meaning is canonicalized to the same text. -/
theorem unmistakable_of_sameMeaning {text : JsString}
    (follows : ∀ other,
      normalizeString host text = normalizeString host other →
        SameMeaning host text other) : Unmistakable host text := by
  unfold Unmistakable
  rcases meaning_cases host text with ⟨time, stamp, occurs, means⟩ |
      ⟨unread, means⟩
  · rw [if_pos stamp]
    intro also alsoOccurs
    rw [occurs] at alsoOccurs
    cases alsoOccurs
    have replaced : normalizeString host text = .ok (toISOString time) := by
      unfold normalizeString
      unfold occurrence at occurs
      simp only [stamp, if_true, occurs]
    have same := follows (toISOString time)
      (replaced.trans (normalText_toISOString host time).symm)
    unfold SameMeaning at same
    rw [means] at same
    rcases meaning_cases host (toISOString time) with
      ⟨_, isStamp, _, _⟩ | ⟨_, otherMeans⟩
    · rw [host.nfc_of_isAscii _ (isAscii_toISOString time)] at isStamp
      exact (timestampPattern_toISOString_iff time).mp isStamp
    · rw [otherMeans] at same
      cases same
  · split_ifs with isTimestamp
    · intro time occurs
      rw [unread isTimestamp] at occurs
      cases occurs
    intro stamp time isStamp occurs replacement
    have replaced : normalizeString host text =
        normalizeString host stamp := by
      unfold occurrence at occurs
      unfold normalizeString
      simp only [isStamp, if_true, occurs, replacement]
      exact if_neg (replacement ▸ isTimestamp)
    have same := follows stamp replaced
    unfold SameMeaning at same
    rcases meaning_cases host stamp with ⟨_, _, _, otherMeans⟩ |
        ⟨otherUnread, _⟩
    · rw [means, otherMeans] at same
      cases same
    · rw [otherUnread isStamp] at occurs
      cases occurs

/-- The canonical text of a value says what the value means, and so among all
that are accepted with the same options, exactly when none of its strings can
be mistaken. -/
theorem canonicalize_faithful_iff {value : JsValue}
    {options : CanonicalizationOptions} {result : Canonicalized}
    (accepted : canonicalize host value options = .ok result) :
    (∀ other otherResult, canonicalize host other options = .ok otherResult →
        (result.json = otherResult.json ↔
          Equivalent host (SameMeaning host) value other)) ↔
      ∀ text ∈ stringsOf value, Unmistakable host text := by
  constructor
  · intro faithful text member
    obtain ⟨limit, form, limited, canonical, fits, rfl⟩ :=
      (canonicalize_eq_ok host).mp accepted
    refine unmistakable_of_sameMeaning host fun other same => ?_
    by_contra disagree
    obtain ⟨respelled, alsoCanonical, differ⟩ :=
      exists_respelled host same disagree canonical member
    have alsoAccepted := (canonicalize_eq_ok host).mpr
      ⟨limit, form, limited, alsoCanonical, fits, rfl⟩
    exact differ ((faithful respelled _ alsoAccepted).mp rfl)
  · intro unmistakable other otherResult otherAccepted
    rw [canonicalize_json_eq_iff_equivalent host accepted otherAccepted]
    constructor
    · refine equivalent_of_agree host fun text member another same => ?_
      exact same.sameMeaning host (unmistakable text member)
    · exact equivalent_of_agree host fun _ _ _ same => same.sameText host

end Host

/-- One record written in two ways: other key order, zone and sign of zero. -/
def reorderedRecord (swapped : Bool) : JsValue :=
  if swapped then
    .object .nullPrototype false
      [(js "at", .enumerable, .string (js "2024-01-01T01:00:00+01:00")),
        (js "n", .enumerable, .number .negativeZero)]
  else
    .object .objectPrototype false
      [(js "n", .enumerable, .number (.integer 0)),
        (js "at", .enumerable, .string (js "2024-01-01T00:00:00Z"))]

theorem canonicalize_faithful_iff_reordered :
    ∃ left right,
      canonicalize (recordedHost []) (reorderedRecord true)
        { schemaVersion := js "1" } = .ok left ∧
      canonicalize (recordedHost []) (reorderedRecord false)
        { schemaVersion := js "1" } = .ok right ∧
      left.json = right.json ∧
      Equivalent (recordedHost []) (SameMeaning (recordedHost []))
        (reorderedRecord true) (reorderedRecord false) := by
  have leftAccepted :
      canonicalize (recordedHost []) (reorderedRecord true)
        { schemaVersion := js "1" } =
      .ok ⟨utf8 (js "\x7b\"at\":\"2024-01-01T00:00:00.000Z\",\"n\":0\x7d"),
        canonicalizationVersion,
        js "\x7b\"at\":\"2024-01-01T00:00:00.000Z\",\"n\":0\x7d", js "1"⟩ := by
    decide +kernel
  have rightAccepted :
      canonicalize (recordedHost []) (reorderedRecord false)
        { schemaVersion := js "1" } =
      .ok ⟨utf8 (js "\x7b\"at\":\"2024-01-01T00:00:00.000Z\",\"n\":0\x7d"),
        canonicalizationVersion,
        js "\x7b\"at\":\"2024-01-01T00:00:00.000Z\",\"n\":0\x7d", js "1"⟩ := by
    decide +kernel
  have unmistakable : ∀ text ∈ stringsOf (reorderedRecord true),
      Unmistakable (recordedHost []) text := by
    intro text member
    have same : text = js "2024-01-01T01:00:00+01:00" := by
      simpa [reorderedRecord, stringsOf, stringsOfProperties] using member
    subst same
    have stamp : timestampPattern ((recordedHost []).nfc
        (js "2024-01-01T01:00:00+01:00")) = true := by
      decide +kernel
    unfold Unmistakable
    rw [if_pos stamp]
    have years : ∀ time ∈ occurrence (recordedHost [])
        (js "2024-01-01T01:00:00+01:00"), FourDigitYear time := by
      decide +kernel
    exact years
  exact ⟨_, _, leftAccepted, rightAccepted, rfl,
    ((canonicalize_faithful_iff _ leftAccepted).mpr unmistakable _ _
      rightAccepted).mp rfl⟩

/-- An instant after the year 9999, and the text that it is written as. -/
theorem not_canonicalize_faithful_of_late :
    ¬∀ (host : Host) (left right : JsValue) (options : CanonicalizationOptions)
        (leftResult rightResult : Canonicalized),
      canonicalize host left options = .ok leftResult →
      canonicalize host right options = .ok rightResult →
      (leftResult.json = rightResult.json ↔
        Equivalent host (SameMeaning host) left right) := by
  intro faithful
  have leftAccepted :
      canonicalize (recordedHost [])
        (.string (js "9999-12-31T23:30:00-01:00"))
        { schemaVersion := js "1" } =
      .ok ⟨utf8 (js "\"+010000-01-01T00:30:00.000Z\""),
        canonicalizationVersion, js "\"+010000-01-01T00:30:00.000Z\"",
        js "1"⟩ := by
    decide +kernel
  have rightAccepted :
      canonicalize (recordedHost [])
        (.string (js "+010000-01-01T00:30:00.000Z"))
        { schemaVersion := js "1" } =
      .ok ⟨utf8 (js "\"+010000-01-01T00:30:00.000Z\""),
        canonicalizationVersion, js "\"+010000-01-01T00:30:00.000Z\"",
        js "1"⟩ := by
    decide +kernel
  have same := (faithful _ _ _ _ _ _ leftAccepted rightAccepted).mp rfl
  simp only [Equivalent] at same
  have differ : ¬SameMeaning (recordedHost [])
      (js "9999-12-31T23:30:00-01:00")
      (js "+010000-01-01T00:30:00.000Z") := by
    unfold SameMeaning
    decide +kernel
  exact differ same

end BidayaxExecutive.Trust
