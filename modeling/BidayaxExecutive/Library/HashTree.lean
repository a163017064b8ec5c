import BidayaxExecutive.Library.DuplicateLastTree

/-!
# Hash trees

A hash tree evaluates a tree of free constructors: a leaf and a node are
encoded as bytes and the bytes are hashed.  The encodings are injective and
never meet, so two trees with one hash are one tree, provided the hash has no
collision among the bytes that were hashed.  That proviso is local: it speaks
of the bytes at hand and never of all byte strings.
-/

namespace BidayaxExecutive.Library.HashTree

open DuplicateLastTree

/-- How leaves and labelled nodes are written before they are hashed. -/
structure Encoding (κ β B D : Type*) where
  leafBytes : β → B
  nodeBytes : κ → D → D → B
  leaf_injective : Function.Injective leafBytes
  node_injective : ∀ {leftLabel rightLabel a b c d},
    nodeBytes leftLabel a b = nodeBytes rightLabel c d →
      leftLabel = rightLabel ∧ a = c ∧ b = d
  leaf_ne_node : ∀ {content label a b},
    leafBytes content ≠ nodeBytes label a b

/-- No two of the listed byte strings have one hash. -/
def CollisionFreeOn {B D : Type*} (hash : B → D) (hashed : List B) : Prop :=
  ∀ left ∈ hashed, ∀ right ∈ hashed, hash left = hash right → left = right

section Evaluation

variable {κ β B D : Type*} (encoding : Encoding κ β B D) (hash : B → D)

def leafHash (content : β) : D :=
  hash (encoding.leafBytes content)

def nodeHash (label : κ) (left right : D) : D :=
  hash (encoding.nodeBytes label left right)

def eval : LabelledTree κ β → D
  | .leaf content => leafHash encoding hash content
  | .node label left right => nodeHash encoding hash label (eval left)
      (eval right)

/-- The byte strings hashed when a tree is evaluated. -/
def hashed : LabelledTree κ β → List B
  | .leaf content => [encoding.leafBytes content]
  | .node label left right =>
      encoding.nodeBytes label (eval encoding hash left)
          (eval encoding hash right) ::
        (hashed left ++ hashed right)

/-- The byte strings hashed when a level of leaves is reduced. -/
def hashedLevel (label : κ) (depth : Nat) (contents : List β) : List B :=
  contents.map encoding.leafBytes ++
    (treePairs (nodeHash encoding hash label) depth
      (contents.map (leafHash encoding hash))).map
        fun pair => encoding.nodeBytes label pair.1 pair.2

/-- The byte strings hashed on a walk. -/
def hashedWalk (label : κ) (content : β) (index : Nat) (siblings : List D) :
    List B :=
  encoding.leafBytes content ::
    (climbPairs (nodeHash encoding hash label) (leafHash encoding hash content)
      index siblings).map fun pair => encoding.nodeBytes label pair.1 pair.2

variable {encoding hash}

/-- A walk inside a reduction hashes nothing that the reduction does not. -/
theorem hashedWalk_subset {label : κ} {depth index : Nat} {contents : List β}
    {content : β} {siblings : List D} (member : content ∈ contents)
    (within : climbPairs (nodeHash encoding hash label)
        (leafHash encoding hash content) index siblings ⊆
      treePairs (nodeHash encoding hash label) depth
        (contents.map (leafHash encoding hash))) :
    hashedWalk encoding hash label content index siblings ⊆
      hashedLevel encoding hash label depth contents := by
  rw [hashedWalk, hashedLevel, List.cons_subset]
  constructor
  · exact List.mem_append_left _ (List.mem_map_of_mem member)
  · exact List.subset_append_of_subset_right _ (List.map_subset _ within)

/-- Trees with one hash are one tree. -/
theorem eval_injective {left right : LabelledTree κ β}
    (free : ∀ a ∈ hashed encoding hash left,
      ∀ b ∈ hashed encoding hash right, hash a = hash b → a = b)
    (same : eval encoding hash left = eval encoding hash right) :
    left = right := by
  induction left generalizing right with
  | leaf content =>
      cases right with
      | leaf other =>
          have bytes := free _ List.mem_cons_self _ List.mem_cons_self same
          rw [encoding.leaf_injective bytes]
      | node label first second =>
          have bytes := free _ List.mem_cons_self _ List.mem_cons_self same
          exact absurd bytes encoding.leaf_ne_node
  | node label first second firstHypothesis secondHypothesis =>
      cases right with
      | leaf other =>
          have bytes := free _ List.mem_cons_self _ List.mem_cons_self same
          exact absurd bytes.symm encoding.leaf_ne_node
      | node otherLabel third fourth =>
          have bytes := free _ List.mem_cons_self _ List.mem_cons_self same
          obtain ⟨sameLabel, sameFirst, sameSecond⟩ :=
            encoding.node_injective bytes
          have inLeft : ∀ a, a ∈ hashed encoding hash first ++
              hashed encoding hash second →
              a ∈ hashed encoding hash (.node label first second) :=
            fun a member => List.mem_cons_of_mem _ member
          have inRight : ∀ b, b ∈ hashed encoding hash third ++
              hashed encoding hash fourth →
              b ∈ hashed encoding hash (.node otherLabel third fourth) :=
            fun b member => List.mem_cons_of_mem _ member
          have firstEqual := firstHypothesis
            (fun a aMember b bMember =>
              free a (inLeft a (List.mem_append_left _ aMember)) b
                (inRight b (List.mem_append_left _ bMember))) sameFirst
          have secondEqual := secondHypothesis
            (fun a aMember b bMember =>
              free a (inLeft a (List.mem_append_right _ aMember)) b
                (inRight b (List.mem_append_right _ bMember))) sameSecond
          rw [sameLabel, firstEqual, secondEqual]

/-- Evaluating the root of a reduction hashes what the reduction hashes. -/
private theorem hashed_subset_of_reduces {label : κ} {depth : Nat}
    {level : List (LabelledTree κ β)} {root : LabelledTree κ β}
    (reduces : Reduces (LabelledTree.node label) depth level root) :
    ∀ bytes ∈ hashed encoding hash root,
      (∃ tree ∈ level, bytes ∈ hashed encoding hash tree) ∨
        bytes ∈ (treePairs (nodeHash encoding hash label) depth
          (level.map (eval encoding hash))).map
            fun pair => encoding.nodeBytes label pair.1 pair.2 := by
  induction reduces with
  | root node =>
      intro bytes member
      exact Or.inl ⟨node, by simp, member⟩
  | @step depth level root _ _ inductionHypothesis =>
      intro bytes member
      have image :
          (parents (LabelledTree.node label) level).map (eval encoding hash) =
            parents (nodeHash encoding hash label)
              (level.map (eval encoding hash)) := by
        rw [parents, parents, ← map_pairs, List.map_map, List.map_map]
        rfl
      rw [treePairs, List.map_append, List.mem_append, ← image]
      rcases inductionHypothesis bytes member with inParents | above
      · obtain ⟨tree, treeMember, inTree⟩ := inParents
        obtain ⟨pair, inPairs, rfl⟩ := List.mem_map.mp treeMember
        have members := forall_treePairs.forall_pairs
          (fun node (nodeMember : node ∈ level) => nodeMember) pair inPairs
        rcases List.mem_cons.mp inTree with here | below
        · refine Or.inr (Or.inl ?_)
          rw [← map_pairs, List.map_map]
          exact List.mem_map.mpr ⟨pair, inPairs, here.symm⟩
        · rcases List.mem_append.mp below with inLeft | inRight
          · exact Or.inl ⟨pair.1, members.1, inLeft⟩
          · exact Or.inl ⟨pair.2, members.2, inRight⟩
      · exact Or.inr (Or.inr above)

/-- The tree behind a reduction of leaf hashes. -/
private theorem exists_tree {label : κ} {depth : Nat} {contents : List β}
    {root : D}
    (reduces : Reduces (nodeHash encoding hash label) depth
      (contents.map (leafHash encoding hash)) root) :
    ∃ tree,
      Reduces (LabelledTree.node label) depth (contents.map LabelledTree.leaf)
        tree ∧
      eval encoding hash tree = root ∧
      hashed encoding hash tree ⊆
        hashedLevel encoding hash label depth contents := by
  have nonempty : 0 < contents.length := by
    simpa using reduces.length_pos
  obtain ⟨treeDepth, tree, treeReduces, _, _⟩ :=
    exists_reduces contents.length (contents.map (@LabelledTree.leaf κ β))
      (by simpa using nonempty) (by simp)
  have image : Reduces (nodeHash encoding hash label) treeDepth
      (contents.map (leafHash encoding hash)) (eval encoding hash tree) := by
    have mapped := treeReduces.map (f := eval encoding hash)
      (fun left right => (rfl : eval encoding hash (.node label left right) =
        nodeHash encoding hash label _ _))
    rwa [List.map_map] at mapped
  obtain ⟨sameDepth, sameRoot⟩ := image.unique reduces
  rw [sameDepth] at treeReduces
  refine ⟨tree, treeReduces, sameRoot, ?_⟩
  intro bytes member
  rw [hashedLevel, List.mem_append]
  rcases hashed_subset_of_reduces treeReduces bytes member with leaf | node
  · obtain ⟨found, foundMember, inFound⟩ := leaf
    obtain ⟨content, contentMember, rfl⟩ := List.mem_map.mp foundMember
    refine Or.inl (List.mem_map.mpr ⟨content, contentMember, ?_⟩)
    have same : bytes = encoding.leafBytes content := by
      simpa [hashed] using inFound
    exact same.symm
  · rw [List.map_map] at node
    exact Or.inr node

private theorem perfect_leaves (contents : List β) :
    ∀ tree ∈ contents.map (@LabelledTree.leaf κ β),
      LabelledTree.Perfect 0 tree := by
  intro tree member
  obtain ⟨content, _, rfl⟩ := List.mem_map.mp member
  exact LabelledTree.Perfect.leaf content

/-- Duplicate-free leaf lists with one root are the same, whatever the labels
of their nodes. -/
theorem contents_eq_of_root_eq {leftLabel rightLabel : κ}
    {leftDepth rightDepth : Nat} {left right : List β} {root : D}
    (leftReduces : Reduces (nodeHash encoding hash leftLabel) leftDepth
      (left.map (leafHash encoding hash)) root)
    (rightReduces : Reduces (nodeHash encoding hash rightLabel) rightDepth
      (right.map (leafHash encoding hash)) root)
    (leftDistinct : left.Nodup) (rightDistinct : right.Nodup)
    (free : CollisionFreeOn hash
      (hashedLevel encoding hash leftLabel leftDepth left ++
        hashedLevel encoding hash rightLabel rightDepth right)) :
    left = right := by
  obtain ⟨leftTree, leftTreeReduces, leftEval, leftHashed⟩ :=
    exists_tree leftReduces
  obtain ⟨rightTree, rightTreeReduces, rightEval, rightHashed⟩ :=
    exists_tree rightReduces
  have sameTree : leftTree = rightTree := by
    apply eval_injective _ (leftEval.trans rightEval.symm)
    intro a aMember b bMember
    exact free a (List.mem_append_left _ (leftHashed aMember)) b
      (List.mem_append_right _ (rightHashed bMember))
  rw [← sameTree] at rightTreeReduces
  have leafInjective : Function.Injective (@LabelledTree.leaf κ β) :=
    fun _ _ => LabelledTree.leaf.inj
  have sameLevel := LabelledTree.level_eq_of_root_eq leftTreeReduces
    rightTreeReduces (perfect_leaves left) (perfect_leaves right)
    (leftDistinct.map leafInjective) (rightDistinct.map leafInjective)
  exact leafInjective.list_map sameLevel

/-! ## Walks pin their leaf -/

/-- A walk to the hash of a tree comes from the subtree that its index and the
number of its siblings lead to. -/
private theorem exists_descend {label : κ} {tree : LabelledTree κ β}
    {available : List B}
    (free : CollisionFreeOn hash available)
    (inTree : hashed encoding hash tree ⊆ available) :
    ∀ {siblings : List D} (node : D) (index : Nat),
      (climb (nodeHash encoding hash label) node index siblings).1 =
        eval encoding hash tree →
      ((climbPairs (nodeHash encoding hash label) node index siblings).map
        fun pair => encoding.nodeBytes label pair.1 pair.2) ⊆ available →
      ∃ found, tree.descend siblings.length index = some found ∧
        eval encoding hash found = node ∧
        hashed encoding hash found ⊆ available
  | [], node, index, reached, _ => by
      exact ⟨tree, rfl, reached.symm, inTree⟩
  | sibling :: rest, node, index, reached, walked => by
      rw [climb] at reached
      rw [climbPairs, List.map_cons] at walked
      obtain ⟨parent, parentReached, parentEval, parentHashed⟩ :=
        exists_descend free inTree _ _ reached fun bytes member =>
          walked (List.mem_cons_of_mem _ member)
      have walkBytes := walked List.mem_cons_self
      cases parent with
      | leaf content =>
          have bytes := free _ (parentHashed List.mem_cons_self) _ walkBytes
            parentEval
          exact absurd bytes encoding.leaf_ne_node
      | node treeLabel left right =>
          have bytes := free _ (parentHashed List.mem_cons_self) _ walkBytes
            parentEval
          obtain ⟨_, leftEval, rightEval⟩ := encoding.node_injective bytes
          have childHashed : hashed encoding hash left ++
              hashed encoding hash right ⊆ available :=
            fun other member => parentHashed (List.mem_cons_of_mem _ member)
          rw [List.length_cons, LabelledTree.descend, parentReached,
            Option.bind_some, LabelledTree.child]
          by_cases odd : index % 2 = 1
          · rw [joined, if_pos odd] at rightEval
            refine ⟨right, by simp [odd], rightEval, ?_⟩
            exact fun other member =>
              childHashed (List.mem_append_right _ member)
          · rw [joined, if_neg odd] at leftEval
            refine ⟨left, by simp [odd], leftEval, ?_⟩
            exact fun other member =>
              childHashed (List.mem_append_left _ member)

private theorem depth_of_length {combine : D → D → D} {root : D} :
    ∀ {exponent depth : Nat} {level : List D},
      Reduces combine depth level root → level.length = 2 ^ exponent →
      depth = exponent
  | 0, depth, level, reduces, count => by
      cases reduces with
      | root _ => rfl
      | step long _ => omega
  | exponent + 1, depth, level, reduces, count => by
      have positive : 0 < 2 ^ exponent := Nat.two_pow_pos exponent
      rw [Nat.pow_succ] at count
      cases reduces with
      | root _ =>
          simp only [List.length_singleton] at count
          omega
      | step _ above =>
          have halved := length_parents combine level
          have parentCount :
              (parents combine level).length = 2 ^ exponent := by
            omega
          rw [depth_of_length above parentCount]

/-- A walk from a leaf hash to the root ends, read backwards, at the leaf. -/
private theorem descend_of_climb {treeLabel walkLabel : κ}
    {depth index : Nat} {contents : List β} {content : β} {root : D}
    {siblings : List D}
    (reduces : Reduces (nodeHash encoding hash treeLabel) depth
      (contents.map (leafHash encoding hash)) root)
    (reached : (climb (nodeHash encoding hash walkLabel)
      (leafHash encoding hash content) index siblings).1 = root)
    (free : CollisionFreeOn hash
      (hashedLevel encoding hash treeLabel depth contents ++
        hashedWalk encoding hash walkLabel content index siblings)) :
    ∃ tree, Reduces (LabelledTree.node treeLabel) depth
        (contents.map LabelledTree.leaf) tree ∧
      tree.descend siblings.length index = some (.leaf content) := by
  obtain ⟨tree, treeReduces, treeEval, treeHashed⟩ := exists_tree reduces
  obtain ⟨found, descended, foundEval, foundHashed⟩ :=
    exists_descend free
      (fun bytes member => List.mem_append_left _ (treeHashed member))
      (leafHash encoding hash content) index (reached.trans treeEval.symm)
      (fun bytes member => List.mem_append_right _
        (List.mem_cons_of_mem _ member))
  have isLeaf : found = .leaf content := by
    apply eval_injective _ foundEval
    intro a aMember b bMember
    have walkBytes : b = encoding.leafBytes content := by
      simpa [hashed] using bMember
    rw [walkBytes]
    exact free a (foundHashed aMember) _
      (List.mem_append_right _ List.mem_cons_self)
  rw [isLeaf] at descended
  exact ⟨tree, treeReduces, descended⟩

/-- A walk from a leaf hash to the root starts at one of the leaves, whatever
its index and the number of its siblings. -/
theorem mem_of_climb {treeLabel walkLabel : κ} {depth index : Nat}
    {contents : List β} {content : β} {root : D} {siblings : List D}
    (reduces : Reduces (nodeHash encoding hash treeLabel) depth
      (contents.map (leafHash encoding hash)) root)
    (reached : (climb (nodeHash encoding hash walkLabel)
      (leafHash encoding hash content) index siblings).1 = root)
    (free : CollisionFreeOn hash
      (hashedLevel encoding hash treeLabel depth contents ++
        hashedWalk encoding hash walkLabel content index siblings)) :
    content ∈ contents := by
  obtain ⟨tree, treeReduces, descended⟩ :=
    descend_of_climb reduces reached free
  have every : tree.Every (· ∈ contents) := by
    refine LabelledTree.every_of_reduces treeReduces ?_
    intro leaf member
    obtain ⟨other, isContent, rfl⟩ := List.mem_map.mp member
    exact isContent
  exact every.descend descended

/-- Over a power of two of leaves, a walk from a leaf hash to the root starts
at the leaf its index names. -/
theorem getElem?_of_climb {treeLabel walkLabel : κ} {depth exponent
    index : Nat} {contents : List β} {content : β} {root : D}
    {siblings : List D}
    (reduces : Reduces (nodeHash encoding hash treeLabel) depth
      (contents.map (leafHash encoding hash)) root)
    (count : contents.length = 2 ^ exponent)
    (reached : climb (nodeHash encoding hash walkLabel)
      (leafHash encoding hash content) index siblings = (root, 0))
    (free : CollisionFreeOn hash
      (hashedLevel encoding hash treeLabel depth contents ++
        hashedWalk encoding hash walkLabel content index siblings)) :
    contents[index]? = some content := by
  obtain ⟨tree, treeReduces, descended⟩ :=
    descend_of_climb reduces (congrArg Prod.fst reached) free
  have sameDepth : depth = exponent :=
    depth_of_length reduces (by simpa using count)
  subst sameDepth
  have perfect :=
    LabelledTree.perfect_of_reduces treeReduces (perfect_leaves contents)
  rw [Nat.zero_add] at perfect
  obtain ⟨rest, sum, leafPerfect⟩ := perfect.descend descended
  have noRest : rest = 0 :=
    leafPerfect.unique (LabelledTree.Perfect.leaf content)
  have inRange : index < 2 ^ depth := by
    have ended := climb_index (nodeHash encoding hash walkLabel) siblings
      (leafHash encoding hash content) index
    rw [reached] at ended
    have positive : 0 < 2 ^ siblings.length := Nat.two_pow_pos _
    have small := (Nat.div_eq_zero_iff_lt positive).mp ended.symm
    have sameLength : depth = siblings.length := by omega
    rw [sameLength]
    exact small
  have sameLength : siblings.length = depth := by omega
  rw [sameLength,
    LabelledTree.descend_of_reduces treeReduces (by simpa using count) inRange,
    List.getElem?_map] at descended
  obtain ⟨other, otherFound, same⟩ := Option.map_eq_some_iff.mp descended
  rw [otherFound, LabelledTree.leaf.inj same]

end Evaluation

end BidayaxExecutive.Library.HashTree
