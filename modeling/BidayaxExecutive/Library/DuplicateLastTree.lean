import Mathlib.Data.List.Nodup
import Mathlib.Data.List.Forall2
import Mathlib.Tactic.Ring

/-!
# Trees that duplicate the last node of an odd level

A level is reduced to the level above by combining its nodes in pairs; a node
without a partner is combined with itself.  `Reduces combine depth level root`
says that `depth` reductions lead from `level` to the single node `root`.

The first half is about any `combine`: a walk from a node with its siblings
reaches the root, and so does a walk from an index just past the end of a level
whose length is no power of two.  The second half reads the nodes as trees of
free constructors.  A level of distinct leaves is then determined by its root,
and a level of `2 ^ depth` leaves has exactly one walk for each index.
-/

namespace BidayaxExecutive.Library.DuplicateLastTree

/-! ## Levels -/

section Levels

variable {α : Type*}

/-- The sibling pairs of a level. -/
def pairs : List α → List (α × α)
  | [] => []
  | [last] => [(last, last)]
  | left :: right :: rest => (left, right) :: pairs rest

theorem length_pairs :
    ∀ level : List α, (pairs level).length = (level.length + 1) / 2
  | [] => by
      simp [pairs]
  | [_] => by
      simp [pairs]
  | _ :: _ :: rest => by
      simp only [pairs, List.length_cons, length_pairs rest]
      omega

/-- The pair at an index, from the two nodes below it. -/
theorem getElem?_pairs :
    ∀ {level : List α} {index : Nat} {node : α},
      level[2 * index]? = some node →
      (pairs level)[index]? =
        some (node, (level[2 * index + 1]?).getD node)
  | [], index, node, found => by
      simp at found
  | [last], index, node, found => by
      cases index with
      | zero =>
          simp only [Nat.mul_zero, List.getElem?_cons_zero,
            Option.some.injEq] at found
          simp [pairs, found]
      | succ index =>
          simp [Nat.mul_succ] at found
  | left :: right :: rest, index, node, found => by
      cases index with
      | zero =>
          simp only [Nat.mul_zero, List.getElem?_cons_zero,
            Option.some.injEq] at found
          simp [pairs, found]
      | succ index =>
          have shifted : rest[2 * index]? = some node := by
            simpa [Nat.mul_succ] using found
          have tail := getElem?_pairs shifted
          simpa [pairs, Nat.mul_succ] using tail

theorem map_pairs {β : Type*} (f : α → β) :
    ∀ level : List α,
      (pairs level).map (Prod.map f f) = pairs (level.map f)
  | [] => rfl
  | [_] => rfl
  | _ :: _ :: rest => by
      simp [pairs, map_pairs f rest]

/-- The left members of the pairs stand in the level, in order. -/
theorem map_fst_pairs_sublist :
    ∀ level : List α, ((pairs level).map Prod.fst).Sublist level
  | [] => by
      simp [pairs]
  | [_] => by
      simp [pairs]
  | left :: right :: rest => by
      simp only [pairs, List.map_cons]
      exact ((map_fst_pairs_sublist rest).cons right).cons_cons left

/-- Duplicate-free levels with the same pairs are the same. -/
theorem pairs_injective :
    ∀ {left right : List α}, left.Nodup → right.Nodup →
      pairs left = pairs right → left = right
  | [], [], _, _, _ => rfl
  | [], [_], _, _, same => by
      simp [pairs] at same
  | [], _ :: _ :: _, _, _, same => by
      simp [pairs] at same
  | [_], [], _, _, same => by
      simp [pairs] at same
  | _ :: _ :: _, [], _, _, same => by
      simp [pairs] at same
  | [_], [_], _, _, same => by
      simp only [pairs, List.cons.injEq, Prod.mk.injEq, and_true] at same
      rw [same.1]
  | [_], _ :: _ :: _, _, distinct, same => by
      -- the unpaired node would stand twice in the other level
      simp only [pairs, List.cons.injEq, Prod.mk.injEq] at same
      rw [← same.1.1, ← same.1.2] at distinct
      simp at distinct
  | _ :: _ :: _, [_], distinct, _, same => by
      simp only [pairs, List.cons.injEq, Prod.mk.injEq] at same
      rw [same.1.1, same.1.2] at distinct
      simp at distinct
  | a :: b :: left, c :: d :: right, leftDistinct, rightDistinct, same => by
      simp only [pairs, List.cons.injEq, Prod.mk.injEq] at same
      have leftTail : left.Nodup :=
        (List.nodup_cons.mp (List.nodup_cons.mp leftDistinct).2).2
      have rightTail : right.Nodup :=
        (List.nodup_cons.mp (List.nodup_cons.mp rightDistinct).2).2
      rw [same.1.1, same.1.2, pairs_injective leftTail rightTail same.2]

variable (combine : α → α → α)

/-- The level above. -/
def parents (level : List α) : List α :=
  (pairs level).map fun pair => combine pair.1 pair.2

theorem length_parents (level : List α) :
    (parents combine level).length = (level.length + 1) / 2 := by
  rw [parents, List.length_map, length_pairs]

theorem getElem?_parents {level : List α} {index : Nat} {node : α}
    (found : level[2 * index]? = some node) :
    (parents combine level)[index]? =
      some (combine node ((level[2 * index + 1]?).getD node)) := by
  rw [parents, List.getElem?_map, getElem?_pairs found]
  rfl

/-- All levels from the given one to the root, with a bound on their number. -/
def levels : Nat → List α → List (List α)
  | 0, level => [level]
  | bound + 1, level =>
      if level.length ≤ 1 then [level]
      else level :: levels bound (parents combine level)

/-- `depth` reductions lead from the level to the root. -/
inductive Reduces : Nat → List α → α → Prop
  | root (node : α) : Reduces 0 [node] node
  | step {depth : Nat} {level : List α} {root : α} :
      2 ≤ level.length → Reduces depth (parents combine level) root →
      Reduces (depth + 1) level root

variable {combine}

theorem Reduces.length_pos {depth : Nat} {level : List α} {root : α}
    (reduces : Reduces combine depth level root) :
    0 < level.length := by
  cases reduces with
  | root node => simp
  | step long _ => omega

/-- A level has at most one root. -/
theorem Reduces.unique {leftDepth rightDepth : Nat} {level : List α}
    {left right : α}
    (leftReduces : Reduces combine leftDepth level left)
    (rightReduces : Reduces combine rightDepth level right) :
    leftDepth = rightDepth ∧ left = right := by
  induction leftReduces generalizing rightDepth with
  | root node =>
      cases rightReduces with
      | root _ => exact ⟨rfl, rfl⟩
      | step long _ => simp at long
  | step long _ inductionHypothesis =>
      cases rightReduces with
      | root _ => simp at long
      | step _ rest =>
          obtain ⟨sameDepth, sameRoot⟩ := inductionHypothesis rest
          exact ⟨by rw [sameDepth], sameRoot⟩

/-- The number of reductions that a level of the given length takes. -/
def reductionDepth (count : Nat) : Nat :=
  if count ≤ 1 then 0 else Nat.log2 (count - 1) + 1

theorem Reduces.depth_eq {depth : Nat} {level : List α} {root : α}
    (reduces : Reduces combine depth level root) :
    depth = reductionDepth level.length := by
  induction reduces with
  | root node =>
      rfl
  | @step depth level root long _ inductionHypothesis =>
      have halved := length_parents combine level
      rw [inductionHypothesis, halved, reductionDepth, reductionDepth,
        if_neg (by omega : ¬ level.length ≤ 1)]
      by_cases pair : level.length = 2
      · rw [pair]
        rfl
      · have smaller : (level.length + 1) / 2 - 1 = (level.length - 1) / 2 := by
          omega
        have unfolded := Nat.log2_def (level.length - 1)
        rw [if_pos (by omega)] at unfolded
        rw [if_neg (by omega), smaller, ← unfolded]

/-- The computed levels start at the level and end at its root. -/
theorem exists_reduces :
    ∀ (bound : Nat) (level : List α), 0 < level.length →
      level.length ≤ bound + 1 →
      ∃ depth root, Reduces combine depth level root ∧
        (levels combine bound level).length = depth + 1 ∧
        (levels combine bound level).getLast? = some [root]
  | 0, level, nonempty, short => by
      obtain ⟨node, rfl⟩ := List.length_eq_one_iff.mp
        (show level.length = 1 by omega)
      exact ⟨0, node, Reduces.root node, rfl, rfl⟩
  | bound + 1, level, nonempty, short => by
      by_cases single : level.length ≤ 1
      · obtain ⟨node, rfl⟩ := List.length_eq_one_iff.mp
          (show level.length = 1 by omega)
        exact ⟨0, node, Reduces.root node, by simp [levels],
          by simp [levels]⟩
      · have halved := length_parents combine level
        obtain ⟨depth, root, reduces, count, last⟩ :=
          exists_reduces bound (parents combine level) (by omega) (by omega)
        refine ⟨depth + 1, root, Reduces.step (by omega) reduces, ?_, ?_⟩
        · rw [levels, if_neg single, List.length_cons, count]
        · rw [levels, if_neg single, List.getLast?_cons, last]
          rfl

/-- A homomorphism carries a reduction to the images. -/
theorem Reduces.map {β : Type*} {combine' : β → β → β} {f : α → β}
    (homomorphism : ∀ left right,
      f (combine left right) = combine' (f left) (f right))
    {depth : Nat} {level : List α} {root : α}
    (reduces : Reduces combine depth level root) :
    Reduces combine' depth (level.map f) (f root) := by
  induction reduces with
  | root node => exact Reduces.root (f node)
  | @step depth level root long _ inductionHypothesis =>
      refine Reduces.step (by simpa using long) ?_
      have image :
          (parents combine level).map f = parents combine' (level.map f) := by
        rw [parents, parents, ← map_pairs, List.map_map, List.map_map]
        apply List.map_congr_left
        intro pair _
        exact homomorphism pair.1 pair.2
      rw [← image]
      exact inductionHypothesis

/-! ## Walks -/

/-- The pair that a node and its sibling form: a node at an odd index is the
right one. -/
def joined (index : Nat) (node sibling : α) : α × α :=
  if index % 2 = 1 then (sibling, node) else (node, sibling)

variable (combine)

/-- The node and the index that a list of siblings leads to. -/
def climb : α → Nat → List α → α × Nat
  | node, index, [] => (node, index)
  | node, index, sibling :: rest =>
      let pair := joined index node sibling
      climb (combine pair.1 pair.2) (index / 2) rest

/-- The pairs a walk combines. -/
def climbPairs : α → Nat → List α → List (α × α)
  | _, _, [] => []
  | node, index, sibling :: rest =>
      let pair := joined index node sibling
      pair :: climbPairs (combine pair.1 pair.2) (index / 2) rest

/-- The sibling of the node at an index; the last node of an odd level is its
own. -/
def siblingAt (level : List α) (index : Nat) (node : α) : α :=
  (level[if index % 2 = 1 then index - 1 else index + 1]?).getD node

/-- The siblings on the way from an index to the root. -/
def siblings : Nat → List α → Nat → List α
  | 0, _, _ => []
  | depth + 1, level, index =>
      match level[index]? with
      | none => []
      | some node =>
          siblingAt level index node ::
            siblings depth (parents combine level) (index / 2)

/-- The pairs that a reduction combines, level by level. -/
def treePairs : Nat → List α → List (α × α)
  | 0, _ => []
  | depth + 1, level =>
      pairs level ++ treePairs depth (parents combine level)

theorem climb_index (siblings : List α) (node : α) (index : Nat) :
    (climb combine node index siblings).2 = index / 2 ^ siblings.length := by
  induction siblings generalizing node index with
  | nil =>
      simp [climb]
  | cons sibling rest inductionHypothesis =>
      rw [climb, inductionHypothesis, List.length_cons,
        Nat.div_div_eq_div_mul, Nat.pow_succ, Nat.mul_comm 2]

theorem exists_pair_of_mem_siblings {siblings : List α} {sibling : α}
    (node : α) (index : Nat) (member : sibling ∈ siblings) :
    ∃ pair ∈ climbPairs combine node index siblings,
      sibling = pair.1 ∨ sibling = pair.2 := by
  induction siblings generalizing node index with
  | nil =>
      simp at member
  | cons first rest inductionHypothesis =>
      rw [climbPairs]
      rcases List.mem_cons.mp member with same | later
      · refine ⟨joined index node first, List.mem_cons_self, ?_⟩
        rw [same, joined]
        split_ifs
        · exact Or.inl rfl
        · exact Or.inr rfl
      · obtain ⟨pair, found, side⟩ := inductionHypothesis
          (combine (joined index node first).1 (joined index node first).2)
          (index / 2) later
        exact ⟨pair, List.mem_cons_of_mem _ found, side⟩

/-- What holds of a level and of every combination holds of all pairs. -/
theorem forall_treePairs {property : α → Prop}
    (combined : ∀ left right, property (combine left right)) :
    ∀ {depth : Nat} {level : List α}, (∀ node ∈ level, property node) →
      ∀ pair ∈ treePairs combine depth level,
        property pair.1 ∧ property pair.2
  | 0, level, _, pair, member => by
      simp [treePairs] at member
  | depth + 1, level, base, pair, member => by
      rw [treePairs, List.mem_append] at member
      rcases member with here | above
      · exact forall_pairs base pair here
      · refine forall_treePairs combined ?_ pair above
        intro node inParents
        obtain ⟨source, _, rfl⟩ := List.mem_map.mp inParents
        exact combined source.1 source.2
where
  forall_pairs {property : α → Prop} :
      ∀ {level : List α}, (∀ node ∈ level, property node) →
        ∀ pair ∈ pairs level, property pair.1 ∧ property pair.2
    | [], _, pair, member => by
        simp [pairs] at member
    | [last], base, pair, member => by
        have same : pair = (last, last) := by
          simpa [pairs] using member
        rw [same]
        exact ⟨base last (by simp), base last (by simp)⟩
    | left :: right :: rest, base, pair, member => by
        rw [pairs, List.mem_cons] at member
        rcases member with same | later
        · rw [same]
          exact ⟨base left (by simp), base right (by simp)⟩
        · exact forall_pairs
            (fun node inRest => base node (by simp [inRest])) pair later

variable {combine}

/-- A node and its sibling are a pair of the level. -/
theorem getElem?_pairs_joined {level : List α} {index : Nat} {node : α}
    (found : level[index]? = some node) :
    (pairs level)[index / 2]? =
      some (joined index node (siblingAt level index node)) := by
  rw [joined, siblingAt]
  by_cases odd : index % 2 = 1
  · obtain ⟨inRange, _⟩ := List.getElem?_eq_some_iff.mp found
    have below : level[2 * (index / 2)]? =
        some (level[2 * (index / 2)]) :=
      List.getElem?_eq_getElem (by omega)
    have position : 2 * (index / 2) + 1 = index := by omega
    have left : index - 1 = 2 * (index / 2) := by omega
    rw [getElem?_pairs below, position, found, if_pos odd, if_pos odd, left,
      below]
    rfl
  · have position : 2 * (index / 2) = index := by omega
    have even : level[2 * (index / 2)]? = some node := by
      rw [position]
      exact found
    rw [getElem?_pairs even, position, if_neg odd, if_neg odd]

variable (combine) in
theorem getElem?_parents_joined {level : List α} {index : Nat} {node : α}
    (found : level[index]? = some node) :
    (parents combine level)[index / 2]? =
      some (combine (joined index node (siblingAt level index node)).1
        (joined index node (siblingAt level index node)).2) := by
  rw [parents, List.getElem?_map, getElem?_pairs_joined found]
  rfl

/-- The walk from a node along its siblings ends at the root, and combines
only pairs that the reduction combines. -/
theorem climb_siblings {depth : Nat} {level : List α} {root node : α}
    {index : Nat} (reduces : Reduces combine depth level root)
    (found : level[index]? = some node) :
    climb combine node index (siblings combine depth level index) =
        (root, 0) ∧
      climbPairs combine node index (siblings combine depth level index) ⊆
        treePairs combine depth level := by
  induction reduces generalizing index node with
  | root last =>
      cases index with
      | zero =>
          simp only [List.getElem?_cons_zero, Option.some.injEq] at found
          rw [siblings, climb, found, climbPairs]
          exact ⟨rfl, List.nil_subset _⟩
      | succ index =>
          simp at found
  | @step depth level root _ _ inductionHypothesis =>
      have pairFound := getElem?_pairs_joined found
      obtain ⟨reached, within⟩ :=
        inductionHypothesis (getElem?_parents_joined combine found)
      simp only [siblings, found, climb, climbPairs, treePairs]
      refine ⟨reached, ?_⟩
      intro pair member
      rcases List.mem_cons.mp member with same | later
      · rw [same]
        exact List.mem_append_left _ (List.mem_of_getElem? pairFound)
      · exact List.mem_append_right _ (within later)

theorem length_siblings {depth : Nat} {level : List α} {root node : α}
    {index : Nat} (reduces : Reduces combine depth level root)
    (found : level[index]? = some node) :
    (siblings combine depth level index).length = depth := by
  induction reduces generalizing index node with
  | root last =>
      rfl
  | step _ _ inductionHypothesis =>
      simp only [siblings, found, List.length_cons,
        inductionHypothesis (getElem?_parents_joined combine found)]

/-- A level whose length is no power of two has a walk to the root from the
index just past its end: the copy of a last node at an odd level. -/
theorem exists_overrun {depth : Nat} {level : List α} {root : α}
    (reduces : Reduces combine depth level root)
    (uneven : ∀ exponent, level.length ≠ 2 ^ exponent) :
    ∃ node siblings, node ∈ level ∧
      climb combine node level.length siblings = (root, 0) ∧
      climbPairs combine node level.length siblings ⊆
        treePairs combine depth level := by
  induction reduces with
  | root last =>
      exact absurd rfl (uneven 0)
  | @step depth level root long above inductionHypothesis =>
      have halved := length_parents combine level
      by_cases odd : level.length % 2 = 1
      · -- the last node is its own sibling, on either side
        have inRange : level.length - 1 < level.length := by omega
        have found : level[level.length - 1]? =
            some (level[level.length - 1]) :=
          List.getElem?_eq_getElem inRange
        generalize lastEq : level[level.length - 1] = last at found
        have alone : siblingAt level (level.length - 1) last = last := by
          have even : ¬ (level.length - 1) % 2 = 1 := by omega
          have past : level.length - 1 + 1 = level.length := by omega
          rw [siblingAt, if_neg even, past, List.getElem?_eq_none (by omega)]
          rfl
        have pairFound := getElem?_pairs_joined found
        have parentFound := getElem?_parents_joined combine found
        have even : ¬ (level.length - 1) % 2 = 1 := by omega
        have half : (level.length - 1) / 2 = level.length / 2 := by omega
        rw [alone, joined, if_neg even, half] at pairFound parentFound
        obtain ⟨reached, within⟩ := climb_siblings above parentFound
        refine ⟨last, last :: siblings combine depth (parents combine level)
          (level.length / 2), List.mem_of_getElem? found, ?_, ?_⟩
        · rw [climb, joined, if_pos odd]
          exact reached
        · intro pair member
          rw [climbPairs, joined, if_pos odd] at member
          rw [treePairs]
          rcases List.mem_cons.mp member with same | later
          · rw [same]
            exact List.mem_append_left _ (List.mem_of_getElem? pairFound)
          · exact List.mem_append_right _ (within later)
      · have even : level.length % 2 = 0 := by omega
        have stillUneven :
            ∀ exponent, (parents combine level).length ≠ 2 ^ exponent := by
          intro exponent equal
          apply uneven (exponent + 1)
          rw [Nat.pow_succ]
          omega
        obtain ⟨parent, rest, member, reached, within⟩ :=
          inductionHypothesis stillUneven
        obtain ⟨pair, inPairs, rfl⟩ := List.mem_map.mp member
        have leftMember : pair.1 ∈ level :=
          (map_fst_pairs_sublist level).subset (List.mem_map_of_mem inPairs)
        have half : level.length / 2 = (parents combine level).length := by
          omega
        refine ⟨pair.1, pair.2 :: rest, leftMember, ?_, ?_⟩
        · rw [climb, joined, if_neg odd, half]
          exact reached
        · intro other otherMember
          rw [climbPairs, joined, if_neg odd, half] at otherMember
          rw [treePairs]
          rcases List.mem_cons.mp otherMember with same | later
          · rw [same]
            exact List.mem_append_left _ inPairs
          · exact List.mem_append_right _ (within later)

end Levels

/-! ## Trees of free constructors -/

inductive LabelledTree (κ β : Type*) where
  | leaf (content : β)
  | node (label : κ) (left right : LabelledTree κ β)

namespace LabelledTree

variable {κ β : Type*}

/-- Every leaf lies at the same height below the root. -/
inductive Perfect : Nat → LabelledTree κ β → Prop
  | leaf (content : β) : Perfect 0 (.leaf content)
  | node {height : Nat} {label : κ} {left right : LabelledTree κ β} :
      Perfect height left → Perfect height right →
      Perfect (height + 1) (.node label left right)

theorem Perfect.unique {first second : Nat} {tree : LabelledTree κ β}
    (isFirst : Perfect first tree) (isSecond : Perfect second tree) :
    first = second := by
  induction isFirst generalizing second with
  | leaf content =>
      cases isSecond
      rfl
  | node _ _ inductionHypothesis _ =>
      cases isSecond with
      | node left _ => rw [inductionHypothesis left]

private theorem forall_mem_parents {label : κ} {height : Nat} :
    ∀ {level : List (LabelledTree κ β)},
      (∀ tree ∈ level, Perfect height tree) →
      ∀ tree ∈ parents (LabelledTree.node label) level,
        Perfect (height + 1) tree := by
  intro level perfect tree member
  obtain ⟨pair, inPairs, rfl⟩ := List.mem_map.mp member
  obtain ⟨left, right⟩ := forall_treePairs.forall_pairs perfect pair inPairs
  exact Perfect.node left right

theorem perfect_of_reduces {label : κ} {depth height : Nat}
    {level : List (LabelledTree κ β)} {root : LabelledTree κ β}
    (reduces : Reduces (LabelledTree.node label) depth level root)
    (perfect : ∀ tree ∈ level, Perfect height tree) :
    Perfect (height + depth) root := by
  induction reduces generalizing height with
  | root node =>
      exact perfect node (by simp)
  | step _ _ inductionHypothesis =>
      have above := inductionHypothesis (forall_mem_parents perfect)
      rwa [Nat.add_right_comm, Nat.add_assoc] at above

private theorem nodup_parents {label : κ} {level : List (LabelledTree κ β)}
    (distinct : level.Nodup) :
    (parents (LabelledTree.node label) level).Nodup := by
  have lefts : ((pairs level).map Prod.fst).Nodup :=
    (map_fst_pairs_sublist level).nodup distinct
  have injective :
      Function.Injective fun pair : LabelledTree κ β × LabelledTree κ β =>
        LabelledTree.node label pair.1 pair.2 := by
    intro first second same
    simp only [LabelledTree.node.injEq, true_and] at same
    exact Prod.ext same.1 same.2
  exact (List.Nodup.of_map Prod.fst lefts).map injective

private theorem pairs_eq_of_parents_eq {leftLabel rightLabel : κ}
    {left right : List (LabelledTree κ β)}
    (same : parents (LabelledTree.node leftLabel) left =
      parents (LabelledTree.node rightLabel) right) :
    pairs left = pairs right := by
  rw [parents, parents] at same
  have children :
      ∀ {first second : List (LabelledTree κ β × LabelledTree κ β)},
        first.map (fun pair => LabelledTree.node leftLabel pair.1 pair.2) =
          second.map (fun pair => LabelledTree.node rightLabel pair.1 pair.2) →
        first = second := by
    intro first
    induction first with
    | nil =>
        intro second equal
        cases second with
        | nil => rfl
        | cons _ _ => simp at equal
    | cons pair rest inductionHypothesis =>
        intro second equal
        cases second with
        | nil => simp at equal
        | cons other others =>
            simp only [List.map_cons, List.cons.injEq, LabelledTree.node.injEq]
              at equal
            rw [inductionHypothesis equal.2,
              Prod.ext equal.1.2.1 equal.1.2.2]
  exact children same

/-- Duplicate-free levels of one height with one root are the same, whatever
their labels: no leaf set shares its root with another. -/
theorem level_eq_of_root_eq {leftLabel rightLabel : κ}
    {leftDepth rightDepth height : Nat}
    {left right : List (LabelledTree κ β)} {root : LabelledTree κ β}
    (leftReduces : Reduces (LabelledTree.node leftLabel) leftDepth left root)
    (rightReduces :
      Reduces (LabelledTree.node rightLabel) rightDepth right root)
    (leftPerfect : ∀ tree ∈ left, Perfect height tree)
    (rightPerfect : ∀ tree ∈ right, Perfect height tree)
    (leftDistinct : left.Nodup) (rightDistinct : right.Nodup) :
    left = right := by
  have sameDepth : leftDepth = rightDepth := by
    have leftHeight := perfect_of_reduces leftReduces leftPerfect
    have rightHeight := perfect_of_reduces rightReduces rightPerfect
    have := leftHeight.unique rightHeight
    omega
  subst sameDepth
  induction leftReduces generalizing right height with
  | root node =>
      cases rightReduces with
      | root _ => rfl
  | step _ _ inductionHypothesis =>
      cases rightReduces with
      | step _ rest =>
          have above := inductionHypothesis (forall_mem_parents leftPerfect)
            (forall_mem_parents rightPerfect) (nodup_parents leftDistinct)
            (nodup_parents rightDistinct) rest
          exact pairs_injective leftDistinct rightDistinct
            (pairs_eq_of_parents_eq above)

/-! ### Descents -/

def child (right : Bool) : LabelledTree κ β → Option (LabelledTree κ β)
  | leaf _ => none
  | node _ left other => some (if right then other else left)

/-- Follow the bits of an index from the root, the highest of `depth` bits
first. -/
def descend (tree : LabelledTree κ β) : Nat → Nat → Option (LabelledTree κ β)
  | 0, _ => some tree
  | depth + 1, index =>
      (descend tree depth (index / 2)).bind (child (index % 2 = 1))

theorem Perfect.descend {height : Nat} {tree : LabelledTree κ β}
    (perfect : Perfect height tree) :
    ∀ {depth index : Nat} {found : LabelledTree κ β},
      tree.descend depth index = some found →
      ∃ rest, height = rest + depth ∧ Perfect rest found
  | 0, index, found, reached => by
      rw [LabelledTree.descend, Option.some.injEq] at reached
      subst reached
      exact ⟨height, rfl, perfect⟩
  | depth + 1, index, found, reached => by
      rw [LabelledTree.descend, Option.bind_eq_some_iff] at reached
      obtain ⟨parent, parentReached, isChild⟩ := reached
      obtain ⟨rest, sum, parentPerfect⟩ := perfect.descend parentReached
      cases parentPerfect with
      | leaf content =>
          simp [child] at isChild
      | @node rest label left right leftPerfect rightPerfect =>
          refine ⟨rest, by omega, ?_⟩
          rw [child, Option.some.injEq] at isChild
          rw [← isChild]
          split_ifs
          · exact rightPerfect
          · exact leftPerfect

/-- In a tree over `2 ^ depth` nodes every index leads to its own node. -/
theorem descend_of_reduces {label : κ} {depth index : Nat}
    {level : List (LabelledTree κ β)} {root : LabelledTree κ β}
    (reduces : Reduces (LabelledTree.node label) depth level root)
    (count : level.length = 2 ^ depth) (inRange : index < 2 ^ depth) :
    root.descend depth index = level[index]? := by
  induction reduces generalizing index with
  | root node =>
      have zero : index = 0 := by
        simpa using inRange
      rw [zero]
      rfl
  | @step depth level root _ _ inductionHypothesis =>
      have half : 2 ^ (depth + 1) = 2 * 2 ^ depth := by ring
      have parentCount : (parents (LabelledTree.node label) level).length =
          2 ^ depth := by
        rw [length_parents]
        omega
      obtain ⟨left, below⟩ : ∃ left, level[2 * (index / 2)]? = some left :=
        ⟨_, List.getElem?_eq_getElem (by omega)⟩
      obtain ⟨right, beside⟩ :
          ∃ right, level[2 * (index / 2) + 1]? = some right :=
        ⟨_, List.getElem?_eq_getElem (by omega)⟩
      rw [descend, inductionHypothesis parentCount (by omega),
        getElem?_parents (LabelledTree.node label) below, beside]
      simp only [Option.getD_some, Option.bind_some, child]
      by_cases odd : index % 2 = 1
      · have position : 2 * (index / 2) + 1 = index := by omega
        simp only [odd, decide_true, if_true]
        rw [← beside, position]
      · have position : 2 * (index / 2) = index := by omega
        simp only [odd, decide_false, Bool.false_eq_true, if_false]
        rw [← below, position]

/-! ### What all leaves have -/

def Every (property : β → Prop) : LabelledTree κ β → Prop
  | leaf content => property content
  | node _ left right => Every property left ∧ Every property right

theorem every_of_reduces {property : β → Prop} {label : κ} {depth : Nat}
    {level : List (LabelledTree κ β)} {root : LabelledTree κ β}
    (reduces : Reduces (LabelledTree.node label) depth level root)
    (every : ∀ tree ∈ level, tree.Every property) : root.Every property := by
  induction reduces with
  | root node =>
      exact every node List.mem_cons_self
  | step _ _ inductionHypothesis =>
      refine inductionHypothesis fun tree member => ?_
      obtain ⟨pair, inPairs, rfl⟩ := List.mem_map.mp member
      exact forall_treePairs.forall_pairs every pair inPairs

theorem Every.descend {property : β → Prop} {tree : LabelledTree κ β}
    (every : tree.Every property) :
    ∀ {depth index : Nat} {found : LabelledTree κ β},
      tree.descend depth index = some found → found.Every property
  | 0, index, found, reached => by
      rw [← Option.some.inj reached]
      exact every
  | depth + 1, index, found, reached => by
      rw [LabelledTree.descend, Option.bind_eq_some_iff] at reached
      obtain ⟨parent, parentReached, isChild⟩ := reached
      have parentEvery := every.descend parentReached
      cases parent with
      | leaf content =>
          simp [child] at isChild
      | node label left right =>
          rw [child, Option.some.injEq] at isChild
          rw [← isChild]
          split_ifs
          · exact parentEvery.2
          · exact parentEvery.1

end LabelledTree

end BidayaxExecutive.Library.DuplicateLastTree
