import Mathlib.Data.List.Basic
import Mathlib.Tactic.Common

/-!
# Lineages

A lineage lists nodes with the parents they were made from.  Nodes are only
ever added, each with a name that is not in use, so the descendants of a root
stay what they are and a new node is one exactly when its parent is.
-/

namespace BidayaxExecutive.Library.Lineage

variable {Node : Type*}

inductive Descends (lineage : List (Node × Option Node)) (root : Node) :
    Node → Prop
  | root : Descends lineage root root
  | child {node parent : Node} :
      (node, some parent) ∈ lineage → Descends lineage root parent →
      Descends lineage root node

/-- Every parent is a node of the lineage. -/
def ParentsKnown (lineage : List (Node × Option Node)) : Prop :=
  ∀ node parent, (node, some parent) ∈ lineage →
    parent ∈ lineage.map Prod.fst

variable {lineage : List (Node × Option Node)} {root node : Node}
  {parent : Option Node}

theorem Descends.eq_or_mem (descends : Descends lineage root node) :
    node = root ∨ node ∈ lineage.map Prod.fst := by
  cases descends with
  | root =>
      exact .inl rfl
  | child member _ =>
      exact .inr (List.mem_map.mpr ⟨_, member, rfl⟩)

/-- An older node descends from the root as before, and the new node only
through its parent. -/
theorem descends_insert {fresh : Node} (known : ParentsKnown lineage)
    (unused : fresh ∉ lineage.map Prod.fst)
    (descends : Descends (lineage ++ [(fresh, parent)]) root node) :
    Descends lineage root node ∨
      node = fresh ∧ ∃ origin, parent = some origin ∧
        Descends lineage root origin := by
  induction descends with
  | root =>
      exact .inl .root
  | @child node origin member _ inductionHypothesis =>
      cases List.mem_append.mp member with
      | inl older =>
          have used := known node origin older
          cases inductionHypothesis with
          | inl descends =>
              exact .inl (.child older descends)
          | inr isFresh =>
              rw [isFresh.1] at used
              exact absurd used unused
      | inr added =>
          have same := Prod.mk.inj (List.mem_singleton.mp added)
          cases inductionHypothesis with
          | inl descends =>
              exact .inr ⟨same.1, origin, same.2.symm, descends⟩
          | inr isFresh =>
              exact .inr ⟨same.1, isFresh.2⟩

/-- A root that is not a node yet has no descendants but itself. -/
theorem eq_of_descends (known : ParentsKnown lineage)
    (unused : root ∉ lineage.map Prod.fst)
    (descends : Descends lineage root node) : node = root := by
  induction descends with
  | root =>
      rfl
  | child member _ inductionHypothesis =>
      rw [inductionHypothesis] at member
      exact absurd (known _ _ member) unused

theorem ParentsKnown.insert {fresh : Node} (known : ParentsKnown lineage)
    (parentKnown : ∀ origin, parent = some origin → origin ≠ fresh →
      origin ∈ lineage.map Prod.fst) :
    ParentsKnown (lineage ++ [(fresh, parent)]) := by
  intro node origin member
  rw [List.map_append]
  cases List.mem_append.mp member with
  | inl older =>
      exact List.mem_append_left _ (known node origin older)
  | inr added =>
      have same := Prod.mk.inj (List.mem_singleton.mp added)
      by_cases isFresh : origin = fresh
      · rw [isFresh]
        exact List.mem_append_right _ List.mem_cons_self
      · exact List.mem_append_left _
          (parentKnown origin same.2.symm isFresh)

end BidayaxExecutive.Library.Lineage
