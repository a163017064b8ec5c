import Mathlib.Data.Fintype.Card
import BidayaxExecutive.Runtime.JsValue

/-!
# Object graphs

Objects are shared, and they refer to each other and back to themselves.  A
walk that keeps the objects it is inside of sees a tree: a reference to one of
them ends it.  Every step inwards enters one more of finitely many objects, so
the walk ends whatever the graph is.
-/

namespace BidayaxExecutive.Runtime

/-- A value that holds no other value. -/
def JsValue.isLeaf : JsValue → Bool
  | .cycle => false
  | .array _ _ _ => false
  | .object _ _ _ => false
  | _ => true

abbrev JsLeaf := { value : JsValue // value.isLeaf = true }

inductive GraphValue (size : Nat) where
  | leaf (value : JsLeaf)
  | reference (address : Fin size)

/-- The properties an array has besides its elements are the named ones. -/
inductive GraphObject (size : Nat) where
  | array (symbolKeyed : Bool)
      (named : List (JsString × SlotKind × GraphValue size))
      (slots : List (SlotKind × GraphValue size))
  | object (prototype : Prototype) (symbolKeyed : Bool)
      (properties : List (JsString × SlotKind × GraphValue size))

structure ObjectGraph (size : Nat) where
  object : Fin size → GraphObject size

variable {size : Nat}

/-! ## Termination -/

theorem card_compl_insert_lt {ancestors : Finset (Fin size)}
    {address : Fin size} (fresh : address ∉ ancestors) :
    (insert address ancestors)ᶜ.card < ancestorsᶜ.card := by
  apply Finset.card_lt_card
  rw [Finset.compl_ssubset_compl]
  exact Finset.ssubset_insert fresh

/-- What holds inside of every object that has not been entered holds of the
whole walk. -/
theorem ancestors_induction {motive : Finset (Fin size) → Prop}
    (enter : ∀ ancestors,
      (∀ address, address ∉ ancestors → motive (insert address ancestors)) →
        motive ancestors)
    (ancestors : Finset (Fin size)) : motive ancestors := by
  induction measure : ancestorsᶜ.card using Nat.strong_induction_on
      generalizing ancestors with
  | h remaining inductionHypothesis =>
      apply enter
      intro address fresh
      have smaller := card_compl_insert_lt fresh
      rw [measure] at smaller
      exact inductionHypothesis _ smaller _ rfl

/-! ## The tree of a walk -/

def GraphObject.unfold (visit : GraphValue size → JsValue) :
    GraphObject size → JsValue
  | .array symbolKeyed named slots =>
      .array symbolKeyed
        (named.map fun property => (property.1, property.2.1))
        (slots.map fun slot => (slot.1, visit slot.2))
  | .object prototype symbolKeyed properties =>
      .object prototype symbolKeyed <|
        properties.map fun property =>
          (property.1, property.2.1, visit property.2.2)

namespace ObjectGraph

def unfold (graph : ObjectGraph size) (ancestors : Finset (Fin size)) :
    GraphValue size → JsValue
  | .leaf value => value.1
  | .reference address =>
      if _ : address ∈ ancestors then .cycle
      else
        (graph.object address).unfold fun child =>
          graph.unfold (insert address ancestors) child
termination_by ancestorsᶜ.card
decreasing_by exact card_compl_insert_lt ‹_›

/-! ## The nodes of a value -/

end ObjectGraph

/-- The values of all own properties; a hole has none. -/
def GraphObject.children : GraphObject size → List (GraphValue size)
  | .array _ named slots =>
      (slots.filter fun slot => slot.1 != .hole).map Prod.snd ++
        named.map fun property => property.2.2
  | .object _ _ properties =>
      properties.map fun property => property.2.2

def GraphObject.withoutNamed : GraphObject size → GraphObject size
  | .array symbolKeyed _ slots => .array symbolKeyed [] slots
  | .object prototype symbolKeyed properties =>
      .object prototype symbolKeyed properties

namespace ObjectGraph

/-- The graph with nothing but the elements in its arrays. -/
def withoutNamed (graph : ObjectGraph size) : ObjectGraph size where
  object address := (graph.object address).withoutNamed

inductive NodeAt (graph : ObjectGraph size) :
    GraphValue size → Nat → GraphValue size → Prop
  | here (value : GraphValue size) : NodeAt graph value 0 value
  | inside {address : Fin size} {child node : GraphValue size} {depth : Nat}
      (isChild : child ∈ (graph.object address).children)
      (within : NodeAt graph child depth node) :
      NodeAt graph (.reference address) (depth + 1) node

variable {graph : ObjectGraph size} {node : GraphValue size} {depth : Nat}

theorem nodeAt_leaf_iff {value : JsLeaf} :
    graph.NodeAt (.leaf value) depth node ↔ depth = 0 ∧ node = .leaf value := by
  constructor
  · intro found
    cases found with
    | here =>
        exact ⟨rfl, rfl⟩
  · intro same
    rw [same.1, same.2]
    exact .here _

theorem nodeAt_reference_iff {address : Fin size} :
    graph.NodeAt (.reference address) depth node ↔
      (depth = 0 ∧ node = .reference address) ∨
        ∃ child ∈ (graph.object address).children, ∃ inner,
          depth = inner + 1 ∧ graph.NodeAt child inner node := by
  constructor
  · intro found
    cases found with
    | here =>
        exact .inl ⟨rfl, rfl⟩
    | inside isChild within =>
        exact .inr ⟨_, isChild, _, rfl, within⟩
  · intro found
    cases found with
    | inl same =>
        rw [same.1, same.2]
        exact .here _
    | inr below =>
        obtain ⟨child, isChild, inner, same, within⟩ := below
        rw [same]
        exact .inside isChild within

theorem mem_children_of_withoutNamed {address : Fin size}
    {child : GraphValue size}
    (isChild : child ∈ (graph.withoutNamed.object address).children) :
    child ∈ (graph.object address).children := by
  unfold withoutNamed at isChild
  cases object : graph.object address with
  | array symbolKeyed named slots =>
      simp only [object, GraphObject.withoutNamed, GraphObject.children,
        List.map_nil, List.append_nil] at isChild
      exact List.mem_append_left _ isChild
  | object prototype symbolKeyed properties =>
      simp only [object, GraphObject.withoutNamed] at isChild
      exact isChild

theorem NodeAt.of_withoutNamed {value : GraphValue size}
    (found : graph.withoutNamed.NodeAt value depth node) :
    graph.NodeAt value depth node := by
  induction found with
  | here value =>
      exact .here value
  | inside isChild _ inductionHypothesis =>
      exact .inside (mem_children_of_withoutNamed isChild) inductionHypothesis

end ObjectGraph

end BidayaxExecutive.Runtime
