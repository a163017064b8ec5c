import BidayaxExecutive.Trust.EvidenceSafety

/-!
# Which evidence is accepted

A value is accepted exactly when it is an object, the canonicalizer takes it,
and every node that one of the two walks looks at is within the limits and
free of prohibited keys.  A node in the value is within them for that reason
only where no array holds anything under a numeral beyond the array indices.
-/

namespace BidayaxExecutive.Trust

open BidayaxExecutive.Runtime JsString

variable {size : Nat}

/-! ## Nodes within the limits -/

section Nodes

variable (platform : EvidencePlatform) (limits : EvidenceSafetyLimits)

def LeafWithin : JsValue → Prop
  | .string text => exceeds text.length limits.maxStringLength = false
  | _ => True

def ObjectWithin : GraphObject size → Prop
  | .array _ named slots =>
      exceeds slots.length limits.maxArrayLength = false ∧
        ∀ property ∈ named, isProhibited platform property.1 = false
  | .object _ _ properties =>
      exceeds
          (properties.filter fun property => isListed property.2.1).length
          limits.maxObjectKeys = false ∧
        ∀ property ∈ properties, isProhibited platform property.1 = false

theorem ObjectWithin.withoutNamed {object : GraphObject size}
    (within : ObjectWithin platform limits object) :
    ObjectWithin platform limits object.withoutNamed := by
  cases object with
  | array symbolKeyed named slots =>
      exact ⟨within.1, nofun⟩
  | object prototype symbolKeyed properties =>
      exact within

def ValueWithin (graph : ObjectGraph size) : GraphValue size → Prop
  | .leaf value => LeafWithin limits value.1
  | .reference address => ObjectWithin platform limits (graph.object address)

/-- No node of the value is too deep, too long or too large, and no key of it
names a prohibited concept. -/
def NodesWithin (graph : ObjectGraph size) (depth : Nat)
    (value : GraphValue size) : Prop :=
  ∀ distance node, graph.NodeAt value distance node →
    exceeds (depth + distance) limits.maxDepth = false ∧
      ValueWithin platform limits graph node

variable {platform limits}
variable {graph : ObjectGraph size} {depth : Nat}

theorem NodesWithin.withoutNamed {value : GraphValue size}
    (within : NodesWithin platform limits graph depth value) :
    NodesWithin platform limits graph.withoutNamed depth value := by
  intro distance node found
  have own := within distance node found.of_withoutNamed
  refine ⟨own.1, ?_⟩
  cases node with
  | leaf leafValue =>
      exact own.2
  | reference address =>
      have objectWithin : ObjectWithin platform limits
        (graph.object address) := own.2
      exact objectWithin.withoutNamed

theorem nodesWithin_leaf_iff {value : JsLeaf} :
    NodesWithin platform limits graph depth (.leaf value) ↔
      exceeds depth limits.maxDepth = false ∧ LeafWithin limits value.1 := by
  constructor
  · intro within
    exact within 0 _ (.here _)
  · intro within distance node found
    have same := ObjectGraph.nodeAt_leaf_iff.mp found
    rw [same.1, same.2]
    exact within

theorem nodesWithin_reference_iff {address : Fin size} :
    NodesWithin platform limits graph depth (.reference address) ↔
      exceeds depth limits.maxDepth = false ∧
        ObjectWithin platform limits (graph.object address) ∧
        ∀ child ∈ (graph.object address).children,
          NodesWithin platform limits graph (depth + 1) child := by
  constructor
  · intro within
    have own := within 0 _ (.here _)
    refine ⟨own.1, own.2, ?_⟩
    intro child isChild distance node found
    have inner := within _ node (.inside isChild found)
    rw [Nat.add_assoc, Nat.add_comm 1]
    exact inner
  · intro within distance node found
    cases ObjectGraph.nodeAt_reference_iff.mp found with
    | inl same =>
        rw [same.1, same.2]
        exact ⟨within.1, within.2.1⟩
    | inr below =>
        obtain ⟨child, isChild, inner, same, innerFound⟩ := below
        have childWithin := within.2.2 child isChild inner node innerFound
        rw [Nat.add_assoc, Nat.add_comm 1] at childWithin
        rw [same]
        exact childWithin

end Nodes

/-! ## The walk finds what is not within them -/

section Walk

variable {platform : EvidencePlatform} {limits : EvidenceSafetyLimits}

theorem limitErrors_eq_nil_iff {count : Nat} {limit : JsNumber}
    {error : JsString} :
    limitErrors count limit error = [] ↔ exceeds count limit = false := by
  unfold limitErrors
  by_cases exceeded : exceeds count limit = true
  · simp [exceeded]
  · simp [exceeded]

theorem leafErrors_eq_nil_iff {path : JsString} (value : JsValue) :
    leafErrors limits path value = [] ↔ LeafWithin limits value := by
  cases value with
  | string text =>
      exact limitErrors_eq_nil_iff
  | _ =>
      simp [leafErrors, LeafWithin]

variable {visit : GraphValue size → JsString → List JsString}
  {within : GraphValue size → Prop}

theorem collectElementErrors_eq_nil_iff {path : JsString} (index : Nat)
    {slots : List (SlotKind × GraphValue size)}
    (full : ∀ slot ∈ slots, slot.1 = .enumerable)
    (finds : ∀ slot ∈ slots, ∀ childPath,
      visit slot.2 childPath = [] ↔ within slot.2) :
    collectElementErrors visit path index slots = [] ↔
      ∀ slot ∈ slots, within slot.2 := by
  induction slots generalizing index with
  | nil =>
      simp [collectElementErrors]
  | cons slot rest inductionHypothesis =>
      obtain ⟨kind, child⟩ := slot
      have isFull : kind = .enumerable := full _ List.mem_cons_self
      have later := inductionHypothesis (index + 1)
        (fun other member => full other (List.mem_cons_of_mem _ member))
        (fun other member => finds other (List.mem_cons_of_mem _ member))
      have own := finds _ List.mem_cons_self (indexedPath path index)
      have notHole : ¬kind = .hole := by
        rw [isFull]
        exact nofun
      rw [collectElementErrors, if_neg notHole, List.append_eq_nil_iff, own,
        later, List.forall_mem_cons]

theorem collectPropertyErrors_eq_nil_iff {path : JsString}
    {properties : List (JsString × SlotKind × GraphValue size)}
    (listed : ∀ property ∈ properties, property.2.1 = .enumerable)
    (finds : ∀ property ∈ properties, ∀ childPath,
      visit property.2.2 childPath = [] ↔ within property.2.2) :
    collectPropertyErrors platform visit path properties = [] ↔
      (∀ property ∈ properties, isProhibited platform property.1 = false) ∧
        ∀ property ∈ properties, within property.2.2 := by
  induction properties with
  | nil =>
      simp [collectPropertyErrors]
  | cons property rest inductionHypothesis =>
      obtain ⟨key, kind, child⟩ := property
      have isListed : kind = .enumerable := listed _ List.mem_cons_self
      have later := inductionHypothesis
        (fun other member => listed other (List.mem_cons_of_mem _ member))
        (fun other member => finds other (List.mem_cons_of_mem _ member))
      have own := finds _ List.mem_cons_self (pathWithKey path key)
      have kept : Trust.isListed kind = true := by
        rw [isListed]
        rfl
      have keyErrors :
          (if isProhibited platform key then
              [js "unsafe evidence attribute key at " ++ pathWithKey path key]
            else []) = [] ↔ isProhibited platform key = false := by
        by_cases prohibited : isProhibited platform key = true
        · simp [prohibited]
        · simp [prohibited]
      rw [collectPropertyErrors, if_pos kept, List.append_eq_nil_iff,
        List.append_eq_nil_iff, keyErrors, own, later, List.forall_mem_cons,
        List.forall_mem_cons]
      exact and_and_and_comm

end Walk

/-! ## The canonicalizer refuses what the walk skips -/

section Host

variable {host : Host}

theorem CanonicalSlots.of_mem {slots : List (SlotKind × JsValue)}
    {elements : List Json} (canonical : CanonicalSlots host slots elements) :
    ∀ slot ∈ slots,
      slot.1 = .enumerable ∧ ∃ form, Canonical host slot.2 form := by
  induction slots generalizing elements with
  | nil =>
      intro slot member
      exact nomatch member
  | cons first rest inductionHypothesis =>
      simp only [CanonicalSlots] at canonical
      obtain ⟨form, others, full, firstCanonical, later, _⟩ := canonical
      intro slot member
      cases List.mem_cons.mp member with
      | inl same =>
          rw [same]
          exact ⟨full, form, firstCanonical⟩
      | inr isLater =>
          exact inductionHypothesis later slot isLater

theorem CanonicalEntries.of_mem
    {properties : List (JsString × SlotKind × JsValue)}
    {entries : List (JsString × Json)}
    (canonical : CanonicalEntries host properties entries) :
    ∀ property ∈ properties, property.2.1 = .enumerable ∧
      ∃ form, Canonical host property.2.2 form := by
  induction properties generalizing entries with
  | nil =>
      intro property member
      exact nomatch member
  | cons first rest inductionHypothesis =>
      simp only [CanonicalEntries] at canonical
      obtain ⟨form, others, listed, firstCanonical, later, _⟩ := canonical
      intro property member
      cases List.mem_cons.mp member with
      | inl same =>
          rw [same]
          exact ⟨listed, form, firstCanonical⟩
      | inr isLater =>
          exact inductionHypothesis later property isLater

variable {platform : EvidencePlatform} {limits : EvidenceSafetyLimits}
variable {graph : ObjectGraph size}

/-- In an object that canonicalizes, the walk finds what is not within the
limits if it does so in the children. -/
theorem collectObjectErrors_eq_nil_iff {path : JsString}
    {visit : GraphValue size → JsString → List JsString}
    {unfold : GraphValue size → JsValue} {within : GraphValue size → Prop}
    (finds : ∀ child form, Canonical host (unfold child) form →
      ∀ childPath, visit child childPath = [] ↔ within child)
    {object : GraphObject size} {form : Json}
    (canonical : Canonical host (object.unfold unfold) form) :
    collectObjectErrors platform limits visit path object = [] ↔
      ObjectWithin platform limits object.withoutNamed ∧
        ∀ child ∈ object.withoutNamed.children, within child := by
  cases object with
  | array symbolKeyed named slots =>
      simp only [GraphObject.unfold, Canonical] at canonical
      obtain ⟨_, _, elements, elementsCanonical, _⟩ := canonical
      have member : ∀ slot ∈ slots, slot.1 = .enumerable ∧
          ∃ form, Canonical host (unfold slot.2) form := by
        intro slot isSlot
        exact elementsCanonical.of_mem _ (List.mem_map_of_mem isSlot)
      have full := fun slot isSlot => (member slot isSlot).1
      have noHole : slots.filter (fun slot => slot.1 != .hole) = slots := by
        rw [List.filter_eq_self]
        intro slot isSlot
        rw [full slot isSlot]
        rfl
      have elementErrors : collectElementErrors visit path 0 slots = [] ↔
          ∀ slot ∈ slots, within slot.2 := by
        apply collectElementErrors_eq_nil_iff 0 full
        intro slot isSlot
        obtain ⟨childForm, childCanonical⟩ := (member slot isSlot).2
        exact finds slot.2 childForm childCanonical
      rw [collectObjectErrors, List.append_eq_nil_iff, limitErrors_eq_nil_iff,
        elementErrors]
      simp only [GraphObject.withoutNamed, ObjectWithin, GraphObject.children,
        noHole, List.not_mem_nil, false_imp_iff, implies_true, and_true,
        List.map_nil, List.append_nil, List.forall_mem_map]
  | object prototype symbolKeyed properties =>
      simp only [GraphObject.unfold, Canonical] at canonical
      obtain ⟨_, _, entries, entriesCanonical, _⟩ := canonical
      have member : ∀ property ∈ properties, property.2.1 = .enumerable ∧
          ∃ form, Canonical host (unfold property.2.2) form := by
        intro property isProperty
        exact entriesCanonical.of_mem _ (List.mem_map_of_mem isProperty)
      have propertyErrors :
          collectPropertyErrors platform visit path properties = [] ↔
            (∀ property ∈ properties,
              isProhibited platform property.1 = false) ∧
              ∀ property ∈ properties, within property.2.2 := by
        apply collectPropertyErrors_eq_nil_iff
        · intro property isProperty
          exact (member property isProperty).1
        · intro property isProperty
          obtain ⟨childForm, childCanonical⟩ :=
            (member property isProperty).2
          exact finds property.2.2 childForm childCanonical
      rw [collectObjectErrors, List.append_eq_nil_iff, limitErrors_eq_nil_iff,
        propertyErrors]
      simp only [GraphObject.withoutNamed, ObjectWithin, GraphObject.children,
        List.forall_mem_map, and_assoc]

/-- On what canonicalizes, the walk finds nothing exactly when every node
outside the named properties of arrays is within the limits. -/
theorem collectEvidenceSafetyErrors_eq_nil_iff
    (ancestors : Finset (Fin size)) :
    ∀ (depth : Nat) (node : GraphValue size) (path : JsString) (form : Json),
      Canonical host (graph.unfold ancestors node) form →
      (collectEvidenceSafetyErrors platform limits graph ancestors depth node
          path = [] ↔
        NodesWithin platform limits graph.withoutNamed depth node) := by
  induction ancestors using ancestors_induction with
  | enter ancestors inductionHypothesis =>
      intro depth node path form canonical
      rw [collectEvidenceSafetyErrors.eq_def]
      by_cases deep : exceeds depth limits.maxDepth = true
      · have notWithin :
            ¬NodesWithin platform limits graph.withoutNamed depth node := by
          intro within
          have own := (within 0 node (.here node)).1
          rw [Nat.add_zero, deep] at own
          exact nomatch own
        rw [if_pos deep]
        exact iff_of_false (List.cons_ne_nil _ _) notWithin
      · have shallow : exceeds depth limits.maxDepth = false :=
          Bool.eq_false_of_not_eq_true deep
        rw [if_neg deep]
        cases node with
        | leaf value =>
            rw [nodesWithin_leaf_iff, leafErrors_eq_nil_iff]
            exact (and_iff_right shallow).symm
        | reference address =>
            rw [ObjectGraph.unfold] at canonical
            by_cases entered : address ∈ ancestors
            · rw [dif_pos entered] at canonical
              exact canonical.elim
            · rw [dif_neg entered] at canonical
              simp only [dif_neg entered]
              have childrenFound := fun child childForm childCanonical
                  childPath =>
                inductionHypothesis address entered (depth + 1) child
                  childPath childForm childCanonical
              rw [nodesWithin_reference_iff,
                collectObjectErrors_eq_nil_iff childrenFound canonical]
              exact (and_iff_right shallow).symm

end Host

/-! ## Acceptance -/

section Acceptance

variable (host : Host) (platform : EvidencePlatform)
  (limits : EvidenceSafetyLimits) (graph : ObjectGraph size)
  (value : GraphValue size)

/-- The canonicalizer takes the value, within the size limit. -/
def Canonicalizes : Prop :=
  ∃ result, canonicalize host (graph.unfold ∅ value)
    (evidenceOptions limits) = .ok result

structure SafeEvidence : Prop where
  isRecord : isRecordValue graph value = true
  canonicalizes : Canonicalizes host limits graph value
  within : NodesWithin platform limits graph 0 value

/-- Safe but for what its arrays hold besides their elements. -/
structure SafeWithoutNamed : Prop where
  isRecord : isRecordValue graph value = true
  canonicalizes : Canonicalizes host limits graph value
  within : NodesWithin platform limits graph.withoutNamed 0 value

theorem valid_iff_safeWithoutNamed :
    (validateSafeEvidenceAttributes host platform limits graph
        value).valid = true ↔
      SafeWithoutNamed host platform limits graph value := by
  unfold validateSafeEvidenceAttributes
  by_cases isRecord : isRecordValue graph value = true
  · rw [isRecord]
    simp only [Bool.not_true, Bool.false_eq_true, if_false, validationOf,
      List.isEmpty_iff, List.append_eq_nil_iff]
    cases outcome : canonicalize host (graph.unfold ∅ value)
        (evidenceOptions limits) with
    | error failure =>
        simp only [Except.isOk, Except.toBool]
        constructor
        · intro noErrors
          have impossible := noErrors.2
          cases impossible
        · intro safe
          obtain ⟨result, accepted⟩ := safe.canonicalizes
          rw [outcome] at accepted
          cases accepted
    | ok result =>
        obtain ⟨_, form, _, canonical, _⟩ :=
          (canonicalize_eq_ok host).mp outcome
        simp only [Except.isOk, Except.toBool, if_true, and_true]
        rw [collectEvidenceSafetyErrors_eq_nil_iff ∅ 0 value _ form canonical]
        constructor
        · intro within
          exact ⟨isRecord, ⟨result, outcome⟩, within⟩
        · intro safe
          exact safe.within
  · have refused : isRecordValue graph value = false :=
      Bool.eq_false_of_not_eq_true isRecord
    rw [refused]
    constructor
    · intro valid
      cases valid
    · intro safe
      exact absurd safe.isRecord isRecord

/-- The walks end on every graph.  Acceptance means what it should exactly
where the nodes under the named properties of arrays are as safe as the other
nodes. -/
theorem validateSafeEvidenceAttributes_exact_iff :
    ((validateSafeEvidenceAttributes host platform limits graph
        value).valid = true ↔
      SafeEvidence host platform limits graph value) ↔
    (SafeWithoutNamed host platform limits graph value →
      NodesWithin platform limits graph 0 value) := by
  have valid := valid_iff_safeWithoutNamed host platform limits graph value
  constructor
  · intro isExact safe
    exact (isExact.mp (valid.mpr safe)).within
  · intro namedWithin
    rw [valid]
    constructor
    · intro safe
      exact ⟨safe.isRecord, safe.canonicalizes, namedWithin safe⟩
    · intro safe
      exact ⟨safe.isRecord, safe.canonicalizes, safe.within.withoutNamed⟩

end Acceptance

/-- The platform on ASCII text. -/
def asciiPlatform : EvidencePlatform where
  nfkc := id
  isLetterOrNumber code :=
    (48 ≤ code && code ≤ 57) || (65 ≤ code && code ≤ 90) ||
      (97 ≤ code && code ≤ 122)
  toLowerCase := List.map lowerUnit

/-- `{ list }`, where `list` is an empty array with
`list["4294967295"] = { password: true }`. -/
def beyondIndices : ObjectGraph 3 where
  object
    | 0 => .object .objectPrototype false
        [(js "list", .enumerable, .reference 1)]
    | 1 => .array false [(js "4294967295", .enumerable, .reference 2)] []
    | 2 => .object .objectPrototype false
        [(js "password", .enumerable, .leaf ⟨.boolean true, rfl⟩)]

theorem beyondIndices_unfold :
    beyondIndices.unfold ∅ (.reference 0) =
      .object .objectPrototype false
        [(js "list", .enumerable,
          .array false [(js "4294967295", .enumerable)] [])] := by
  have outer : (0 : Fin 3) ∉ (∅ : Finset (Fin 3)) := by decide
  have inner : (1 : Fin 3) ∉ (insert 0 ∅ : Finset (Fin 3)) := by decide
  rw [ObjectGraph.unfold, dif_neg outer]
  simp only [beyondIndices, GraphObject.unfold, List.map_cons, List.map_nil]
  rw [ObjectGraph.unfold, dif_neg inner]
  rfl

theorem beyondIndices_safeWithoutNamed :
    SafeWithoutNamed (recordedHost []) asciiPlatform evidenceSafetyLimits
      beyondIndices (.reference 0) where
  isRecord := rfl
  canonicalizes := by
    unfold Canonicalizes
    rw [beyondIndices_unfold]
    exact ⟨_, rfl⟩
  within := by
    rw [nodesWithin_reference_iff]
    refine ⟨by decide, ⟨by decide, ?_⟩, ?_⟩
    · intro property member
      rw [List.mem_singleton.mp member]
      decide
    · intro child isChild
      rw [List.mem_singleton.mp isChild, nodesWithin_reference_iff]
      exact ⟨by decide, ⟨by decide, nofun⟩, nofun⟩

theorem beyondIndices_not_exact :
    ¬∀ (host : Host) (platform : EvidencePlatform)
        (limits : EvidenceSafetyLimits) (size : Nat)
        (graph : ObjectGraph size) (value : GraphValue size),
      (validateSafeEvidenceAttributes host platform limits graph
          value).valid = true ↔
        SafeEvidence host platform limits graph value := by
  intro claim
  have valid := (valid_iff_safeWithoutNamed _ _ _ _ _).mpr
    beyondIndices_safeWithoutNamed
  have safe := (claim _ _ _ _ _ _).mp valid
  have list : beyondIndices.NodeAt (.reference 0) 2 (.reference 2) :=
    .inside List.mem_cons_self (.inside List.mem_cons_self (.here _))
  have password := (safe.within 2 _ list).2.2 _ List.mem_cons_self
  revert password
  decide

end BidayaxExecutive.Trust
