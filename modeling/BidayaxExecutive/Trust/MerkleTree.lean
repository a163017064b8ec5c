import BidayaxExecutive.Trust.Merkle

/-!
# Batches as hash trees

`levelsFor` computes the levels of a duplicate-last hash tree whose leaves and
nodes are labelled with the canonical tenant identifier.  Everything a batch
or a proof hashes is an encoding of such a leaf or node.
-/

namespace BidayaxExecutive.Trust

open BidayaxExecutive.Runtime JsString
open BidayaxExecutive.Library.DuplicateLastTree
open BidayaxExecutive.Library.HashTree

def leafForm (tenant leafDigest : JsString) : Json :=
  .object
    [(js "leafDigest", .string leafDigest), (js "tenantId", .string tenant)]

def nodeForm (tenant left right : JsString) : Json :=
  .object
    [(js "left", .string left), (js "right", .string right),
      (js "tenantId", .string tenant)]

def leafPreimage (tenant leafDigest : JsString) : List UInt8 :=
  canonicalBytes <|
    internalForm (js "trust-merkle-leaf/v1") (js "trust-merkle-leaf-1") <|
      leafForm tenant leafDigest

def nodePreimage (tenant left right : JsString) : List UInt8 :=
  canonicalBytes <|
    internalForm (js "trust-merkle-node/v1") (js "trust-merkle-node-1") <|
      nodeForm tenant left right

private theorem stored_leafForm (tenant leafDigest : JsString) :
    (leafForm tenant leafDigest).Stored := by
  rw [leafForm]
  apply stored_object_of_plain
  · simp only [List.map_cons, List.map_nil]
    decide +kernel
  · intro entry member
    simp only [List.mem_cons, List.not_mem_nil, or_false] at member
    rcases member with rfl | rfl
    · trivial
    · trivial

private theorem stored_nodeForm (tenant left right : JsString) :
    (nodeForm tenant left right).Stored := by
  rw [nodeForm]
  apply stored_object_of_plain
  · simp only [List.map_cons, List.map_nil]
    decide +kernel
  · intro entry member
    simp only [List.mem_cons, List.not_mem_nil, or_false] at member
    rcases member with rfl | rfl | rfl
    · trivial
    · trivial
    · trivial

/-- A leaf carries its canonical tenant, a node is labelled with it. -/
def merkleEncoding :
    Encoding JsString (JsString × JsString) (List UInt8) JsString where
  leafBytes leaf := leafPreimage leaf.1 leaf.2
  nodeBytes := nodePreimage
  leaf_injective := by
    intro left right same
    obtain ⟨_, _, sameForm⟩ := internalForm_inj <|
      canonicalBytes_inj (stored_internalForm (stored_leafForm _ _))
        (stored_internalForm (stored_leafForm _ _)) same
    simp only [leafForm, Json.object.injEq, List.cons.injEq, Prod.mk.injEq,
      Json.string.injEq, true_and, and_true] at sameForm
    exact Prod.ext sameForm.2 sameForm.1
  node_injective := by
    intro leftLabel rightLabel a b c d same
    obtain ⟨_, _, sameForm⟩ := internalForm_inj <|
      canonicalBytes_inj (stored_internalForm (stored_nodeForm _ _ _))
        (stored_internalForm (stored_nodeForm _ _ _)) same
    simp only [nodeForm, Json.object.injEq, List.cons.injEq, Prod.mk.injEq,
      Json.string.injEq, true_and, and_true] at sameForm
    exact ⟨sameForm.2.2, sameForm.1, sameForm.2.1⟩
  leaf_ne_node := by
    intro content label a b same
    obtain ⟨sameContext, _⟩ := internalForm_inj <|
      canonicalBytes_inj (stored_internalForm (stored_leafForm _ _))
        (stored_internalForm (stored_nodeForm _ _ _)) same
    revert sameContext
    decide

/-- The digests of the leaves and nodes of one tenant. -/
abbrev leafDigestOf (tenant leaf : JsString) : JsString :=
  leafHash merkleEncoding sha256Bytes (tenant, leaf)

abbrev nodeDigestOf (tenant : JsString) : JsString → JsString → JsString :=
  nodeHash merkleEncoding sha256Bytes tenant

theorem isHexDigest_leafDigestOf (tenant leaf : JsString) :
    isHexDigest (leafDigestOf tenant leaf) = true :=
  isHexDigest_sha256Bytes _

theorem isHexDigest_nodeDigestOf (tenant left right : JsString) :
    isHexDigest (nodeDigestOf tenant left right) = true :=
  isHexDigest_sha256Bytes _

/-! ## The two hashes -/

section Host

variable (host : Host)

private theorem canonical_tenant {tenantId : JsString} {form : Json} :
    Canonical host (.string tenantId) form ↔
      ∃ tenant, normalizeString host tenantId = .ok tenant ∧
        form = .string tenant := by
  rw [Canonical]

private theorem canonical_leaf {tenantId leaf : JsString} {form : Json}
    (hex : isHexDigest leaf = true) :
    Canonical host
        (recordValue [(js "leafDigest", .string leaf),
          (js "tenantId", .string tenantId)]) form ↔
      ∃ tenant, normalizeString host tenantId = .ok tenant ∧
        form = leafForm tenant leaf := by
  rw [canonical_record_iff host (by
    simp only [List.map_cons, List.map_nil]
    decide +kernel)]
  simp only [canonicalFields_cons, canonicalFields_nil, canonical_tenant,
    canonical_string_iff host (normalText_of_isHexDigest host hex)]
  constructor
  · intro found
    obtain ⟨_, ⟨_, _, rfl, ⟨_, _, ⟨tenant, normalized, rfl⟩, rfl, rfl⟩, rfl⟩,
      shape⟩ := found
    exact ⟨tenant, normalized, shape⟩
  · intro found
    obtain ⟨tenant, normalized, shape⟩ := found
    exact ⟨_, ⟨_, _, rfl, ⟨_, _, ⟨tenant, normalized, rfl⟩, rfl, rfl⟩, rfl⟩,
      shape⟩

private theorem canonical_node {tenantId left right : JsString} {form : Json}
    (leftHex : isHexDigest left = true) (rightHex : isHexDigest right = true) :
    Canonical host
        (recordValue [(js "left", .string left), (js "right", .string right),
          (js "tenantId", .string tenantId)]) form ↔
      ∃ tenant, normalizeString host tenantId = .ok tenant ∧
        form = nodeForm tenant left right := by
  rw [canonical_record_iff host (by
    simp only [List.map_cons, List.map_nil]
    decide +kernel)]
  simp only [canonicalFields_cons, canonicalFields_nil, canonical_tenant,
    canonical_string_iff host (normalText_of_isHexDigest host leftHex),
    canonical_string_iff host (normalText_of_isHexDigest host rightHex)]
  constructor
  · intro found
    obtain ⟨_, ⟨_, _, rfl, ⟨_, _, rfl, ⟨_, _, ⟨tenant, normalized, rfl⟩, rfl,
      rfl⟩, rfl⟩, rfl⟩, shape⟩ := found
    exact ⟨tenant, normalized, shape⟩
  · intro found
    obtain ⟨tenant, normalized, shape⟩ := found
    exact ⟨_, ⟨_, _, rfl, ⟨_, _, rfl, ⟨_, _, ⟨tenant, normalized, rfl⟩, rfl,
      rfl⟩, rfl⟩, rfl⟩, shape⟩

theorem hashLeaf_eq_ok {tenantId leaf digest : JsString}
    (hex : isHexDigest leaf = true) :
    hashLeaf host tenantId leaf = .ok digest ↔
      ∃ tenant, normalizeString host tenantId = .ok tenant ∧
        (leafPreimage tenant leaf).length ≤ 1048576 ∧
        digest = leafDigestOf tenant leaf := by
  have contextNormal : NormalText host (js "trust-merkle-leaf/v1") :=
    normalText_of_isAscii host (by decide) (by decide)
  have schemaNormal : NormalText host (js "trust-merkle-leaf-1") :=
    normalText_of_isAscii host (by decide) (by decide)
  rw [hashLeaf, internalDigest_eq_ok]
  simp only [internalPreimage_eq_ok host contextNormal schemaNormal,
    canonical_leaf host hex]
  constructor
  · intro found
    obtain ⟨_, ⟨_, ⟨tenant, normalized, rfl⟩, rfl, fits⟩, rfl⟩ := found
    exact ⟨tenant, normalized, fits, rfl⟩
  · intro found
    obtain ⟨tenant, normalized, fits, rfl⟩ := found
    exact ⟨_, ⟨_, ⟨tenant, normalized, rfl⟩, rfl, fits⟩, rfl⟩

theorem hashNode_eq_ok {tenantId left right digest : JsString}
    (leftHex : isHexDigest left = true) (rightHex : isHexDigest right = true) :
    hashNode host tenantId left right = .ok digest ↔
      ∃ tenant, normalizeString host tenantId = .ok tenant ∧
        (nodePreimage tenant left right).length ≤ 1048576 ∧
        digest = nodeDigestOf tenant left right := by
  have contextNormal : NormalText host (js "trust-merkle-node/v1") :=
    normalText_of_isAscii host (by decide) (by decide)
  have schemaNormal : NormalText host (js "trust-merkle-node-1") :=
    normalText_of_isAscii host (by decide) (by decide)
  rw [hashNode, internalDigest_eq_ok]
  simp only [internalPreimage_eq_ok host contextNormal schemaNormal,
    canonical_node host leftHex rightHex]
  constructor
  · intro found
    obtain ⟨_, ⟨_, ⟨tenant, normalized, rfl⟩, rfl, fits⟩, rfl⟩ := found
    exact ⟨tenant, normalized, fits, rfl⟩
  · intro found
    obtain ⟨tenant, normalized, fits, rfl⟩ := found
    exact ⟨_, ⟨_, ⟨tenant, normalized, rfl⟩, rfl, fits⟩, rfl⟩

end Host

/-! ## Sizes -/

/-- Every leaf and every node of the tenant stays within the byte limit. -/
def LeafFits (tenant : JsString) : Prop :=
  ∀ leaf, isHexDigest leaf = true →
    (leafPreimage tenant leaf).length ≤ 1048576

def NodeFits (tenant : JsString) : Prop :=
  ∀ left right, isHexDigest left = true → isHexDigest right = true →
    (nodePreimage tenant left right).length ≤ 1048576

private theorem length_hexString {digest : JsString}
    (hex : isHexDigest digest = true) :
    (canonicalBytes (.string digest)).length = 66 := by
  rw [length_canonicalBytes_string (isHexDigest_isAscii hex)
    (isHexDigest_isVerbatim hex), isHexDigest_length hex]

/-- All digests take the same room, so one hash of a tenant fits when any
does. -/
private theorem length_leafPreimage {tenant first second : JsString}
    (firstHex : isHexDigest first = true)
    (secondHex : isHexDigest second = true) :
    (leafPreimage tenant first).length = (leafPreimage tenant second).length := by
  simp only [leafPreimage, internalForm, leafForm,
    length_canonicalBytes_object, List.map_cons, List.map_nil, fieldLength,
    length_hexString firstHex, length_hexString secondHex]

private theorem length_nodePreimage {tenant a b c d : JsString}
    (aHex : isHexDigest a = true) (bHex : isHexDigest b = true)
    (cHex : isHexDigest c = true) (dHex : isHexDigest d = true) :
    (nodePreimage tenant a b).length = (nodePreimage tenant c d).length := by
  simp only [nodePreimage, internalForm, nodeForm,
    length_canonicalBytes_object, List.map_cons, List.map_nil, fieldLength,
    length_hexString aHex, length_hexString bHex, length_hexString cHex,
    length_hexString dHex]

private theorem isHexDigest_of_mem_parents {tenant : JsString}
    {level : List JsString} :
    ∀ node ∈ parents (nodeDigestOf tenant) level,
      isHexDigest node = true := by
  intro node member
  obtain ⟨pair, _, rfl⟩ := List.mem_map.mp member
  exact isHexDigest_nodeDigestOf tenant pair.1 pair.2

section Tenant

variable {host : Host} {tenantId tenant : JsString}
  (normalized : normalizeString host tenantId = .ok tenant)

include normalized

theorem hashLeaf_of_ok {leaf digest : JsString}
    (hex : isHexDigest leaf = true)
    (hashed : hashLeaf host tenantId leaf = .ok digest) :
    LeafFits tenant ∧ digest = leafDigestOf tenant leaf := by
  obtain ⟨other, otherNormalized, fits, shape⟩ :=
    (hashLeaf_eq_ok host hex).mp hashed
  rw [normalized] at otherNormalized
  cases otherNormalized
  refine ⟨?_, shape⟩
  intro another anotherHex
  rw [length_leafPreimage anotherHex hex]
  exact fits

theorem hashLeaf_of_fits {leaf : JsString} (hex : isHexDigest leaf = true)
    (fits : LeafFits tenant) :
    hashLeaf host tenantId leaf = .ok (leafDigestOf tenant leaf) :=
  (hashLeaf_eq_ok host hex).mpr ⟨tenant, normalized, fits leaf hex, rfl⟩

theorem hashNode_of_ok {left right digest : JsString}
    (leftHex : isHexDigest left = true) (rightHex : isHexDigest right = true)
    (hashed : hashNode host tenantId left right = .ok digest) :
    NodeFits tenant ∧ digest = nodeDigestOf tenant left right := by
  obtain ⟨other, otherNormalized, fits, shape⟩ :=
    (hashNode_eq_ok host leftHex rightHex).mp hashed
  rw [normalized] at otherNormalized
  cases otherNormalized
  refine ⟨?_, shape⟩
  intro first second firstHex secondHex
  rw [length_nodePreimage firstHex secondHex leftHex rightHex]
  exact fits

theorem hashNode_of_fits {left right : JsString}
    (leftHex : isHexDigest left = true) (rightHex : isHexDigest right = true)
    (fits : NodeFits tenant) :
    hashNode host tenantId left right =
      .ok (nodeDigestOf tenant left right) :=
  (hashNode_eq_ok host leftHex rightHex).mpr
    ⟨tenant, normalized, fits left right leftHex rightHex, rfl⟩

/-! ## The loops of `levelsFor` -/

theorem hashLeaves_of_ok :
    ∀ {leaves hashed : List JsString},
      (∀ leaf ∈ leaves, isHexDigest leaf = true) →
      hashLeaves host tenantId leaves = .ok hashed →
      hashed = leaves.map (leafDigestOf tenant) ∧
        (leaves ≠ [] → LeafFits tenant)
  | [], hashed, _, computed => by
      rw [hashLeaves, Except.ok.injEq] at computed
      rw [← computed]
      exact ⟨rfl, fun nonempty => absurd rfl nonempty⟩
  | leaf :: rest, hashed, hex, computed => by
      rw [hashLeaves] at computed
      obtain ⟨digest, leafHashed, computed⟩ := Outcome.bind_eq_ok.mp computed
      obtain ⟨others, restHashed, computed⟩ := Outcome.bind_eq_ok.mp computed
      obtain ⟨fits, digestEq⟩ := hashLeaf_of_ok normalized
        (hex leaf List.mem_cons_self) leafHashed
      obtain ⟨othersEq, _⟩ := hashLeaves_of_ok
        (fun other member => hex other (List.mem_cons_of_mem _ member))
        restHashed
      rw [Except.ok.injEq] at computed
      rw [← computed, digestEq, othersEq]
      exact ⟨rfl, fun _ => fits⟩

theorem nextLevel_of_ok :
    ∀ {level next : List JsString},
      (∀ node ∈ level, isHexDigest node = true) →
      nextLevel host tenantId level = .ok next →
      next = parents (nodeDigestOf tenant) level ∧
        (level ≠ [] → NodeFits tenant)
  | [], next, _, computed => by
      rw [nextLevel, Except.ok.injEq] at computed
      rw [← computed]
      exact ⟨rfl, fun nonempty => absurd rfl nonempty⟩
  | [last], next, hex, computed => by
      rw [nextLevel] at computed
      obtain ⟨parent, hashed, computed⟩ := Outcome.bind_eq_ok.mp computed
      obtain ⟨fits, parentEq⟩ := hashNode_of_ok normalized
        (hex last List.mem_cons_self) (hex last List.mem_cons_self) hashed
      rw [Except.ok.injEq] at computed
      rw [← computed, parentEq]
      exact ⟨rfl, fun _ => fits⟩
  | left :: right :: rest, next, hex, computed => by
      rw [nextLevel] at computed
      obtain ⟨parent, hashed, computed⟩ := Outcome.bind_eq_ok.mp computed
      obtain ⟨others, restComputed, computed⟩ := Outcome.bind_eq_ok.mp computed
      obtain ⟨fits, parentEq⟩ := hashNode_of_ok normalized
        (hex left (by simp)) (hex right (by simp)) hashed
      obtain ⟨othersEq, _⟩ := nextLevel_of_ok
        (fun node member => hex node (by simp [member])) restComputed
      rw [Except.ok.injEq] at computed
      rw [← computed, parentEq, othersEq]
      exact ⟨rfl, fun _ => fits⟩

theorem levelsFrom_of_ok :
    ∀ {turns : Nat} {level : List JsString} {result : List (List JsString)},
      (∀ node ∈ level, isHexDigest node = true) →
      levelsFrom host tenantId turns level = .ok result →
      result = levels (nodeDigestOf tenant) turns level ∧
        (turns ≠ 0 → 2 ≤ level.length → NodeFits tenant)
  | 0, level, result, _, computed => by
      rw [levelsFrom, Except.ok.injEq] at computed
      rw [← computed]
      exact ⟨rfl, fun positive => absurd rfl positive⟩
  | turns + 1, level, result, hex, computed => by
      rw [levelsFrom] at computed
      rw [levels]
      by_cases short : level.length ≤ 1
      · rw [if_pos short, Except.ok.injEq] at computed
        rw [if_pos short, ← computed]
        exact ⟨rfl, fun _ long => by omega⟩
      · rw [if_neg short] at computed
        rw [if_neg short]
        obtain ⟨next, nextComputed, computed⟩ := Outcome.bind_eq_ok.mp computed
        obtain ⟨others, restComputed, computed⟩ :=
          Outcome.bind_eq_ok.mp computed
        obtain ⟨nextEq, fits⟩ := nextLevel_of_ok normalized hex nextComputed
        rw [nextEq] at restComputed
        obtain ⟨othersEq, _⟩ := levelsFrom_of_ok
          isHexDigest_of_mem_parents restComputed
        rw [Except.ok.injEq] at computed
        rw [← computed, othersEq]
        refine ⟨rfl, fun _ _ => fits ?_⟩
        intro empty
        rw [empty] at short
        simp at short

end Tenant

/-! ## Accepted batches -/

private theorem nodup_of_sorted :
    ∀ {sorted : List JsString},
      sorted.Pairwise (fun left right => codeUnitLe left right = true) →
      hasAdjacentEqual sorted = false → sorted.Nodup
  | [], _, _ => List.nodup_nil
  | [_], _, _ => List.nodup_singleton _
  | first :: second :: rest, sorted, distinct => by
      rw [hasAdjacentEqual, Bool.or_eq_false_iff, beq_eq_false_iff_ne]
        at distinct
      apply List.nodup_cons.mpr
      constructor
      · exact not_mem_of_sorted sorted distinct.1.symm
      · exact nodup_of_sorted (List.pairwise_cons.mp sorted).2 distinct.2

theorem validateLeaves_of_ok {leaves sorted : List JsString}
    (accepted : validateLeaves leaves = .ok sorted) :
    sorted = sortOn id leaves ∧ sorted ≠ [] ∧ sorted.Nodup ∧
      ∀ leaf ∈ sorted, isHexDigest leaf = true := by
  rw [validateLeaves] at accepted
  by_cases empty : leaves.isEmpty = true
  · simp [empty] at accepted
  · by_cases malformed : (leaves.any fun leaf => !isHexDigest leaf) = true
    · simp only [empty, malformed, if_true, Bool.false_eq_true, if_false]
        at accepted
      simp at accepted
    · by_cases repeated : hasAdjacentEqual (sortOn id leaves) = true
      · simp only [empty, malformed, repeated, if_true, Bool.false_eq_true,
          if_false] at accepted
        simp at accepted
      · simp only [empty, malformed, repeated, Bool.false_eq_true, if_false]
          at accepted
        have same : sortOn id leaves = sorted := by
          simpa using accepted
        rw [← same]
        refine ⟨rfl, ?_, ?_, ?_⟩
        · intro none
          have length := length_sortOn id leaves
          rw [none] at length
          simp only [List.isEmpty_iff] at empty
          exact empty (List.length_eq_zero_iff.mp length.symm)
        · apply nodup_of_sorted (sortOn_pairwise id leaves)
          simpa using repeated
        · intro leaf member
          have inLeaves := (mem_sortOn id).mp member
          by_contra notHex
          apply malformed
          rw [List.any_eq_true]
          exact ⟨leaf, inLeaves, by simpa using notHex⟩

/-- What a batch returned by `createMerkleBatch` is. -/
structure BatchTree (host : Host) (input : MerkleBatchInput)
    (batch : MerkleBatch) (tenant : JsString) (depth : Nat) : Prop where
  normalized : normalizeString host input.tenantId = .ok tenant
  sameTenant : batch.tenantId = input.tenantId
  sorted : batch.leafDigests = sortOn id input.leafDigests
  nonempty : batch.leafDigests ≠ []
  distinct : batch.leafDigests.Nodup
  hex : ∀ leaf ∈ batch.leafDigests, isHexDigest leaf = true
  count : batch.leafCount = batch.leafDigests.length
  computed : levelsFor host batch.tenantId batch.leafDigests =
    .ok (levels (nodeDigestOf tenant) batch.leafDigests.length
      (batch.leafDigests.map (leafDigestOf tenant)))
  levelCount : (levels (nodeDigestOf tenant) batch.leafDigests.length
    (batch.leafDigests.map (leafDigestOf tenant))).length = depth + 1
  reduces : Reduces (nodeDigestOf tenant) depth
    (batch.leafDigests.map (leafDigestOf tenant)) batch.rootDigest
  rootHex : isHexDigest batch.rootDigest = true
  leafFits : LeafFits tenant
  nodeFits : 2 ≤ batch.leafDigests.length → NodeFits tenant

private theorem normalizeString_of_hashLeaves {host : Host}
    {tenantId : JsString} {leaves hashed : List JsString}
    (nonempty : leaves ≠ [])
    (hex : ∀ leaf ∈ leaves, isHexDigest leaf = true)
    (computed : hashLeaves host tenantId leaves = .ok hashed) :
    ∃ tenant, normalizeString host tenantId = .ok tenant := by
  cases leaves with
  | nil => exact absurd rfl nonempty
  | cons leaf rest =>
      rw [hashLeaves] at computed
      obtain ⟨digest, leafHashed, _⟩ := Outcome.bind_eq_ok.mp computed
      obtain ⟨tenant, normalized, _⟩ :=
        (hashLeaf_eq_ok host (hex leaf List.mem_cons_self)).mp leafHashed
      exact ⟨tenant, normalized⟩

private theorem isHexDigest_of_reduces {tenant root : JsString} {depth : Nat}
    {level : List JsString}
    (reduces : Reduces (nodeDigestOf tenant) depth level root)
    (hex : ∀ node ∈ level, isHexDigest node = true) :
    isHexDigest root = true := by
  induction reduces with
  | root node => exact hex node (by simp)
  | step _ _ inductionHypothesis =>
      exact inductionHypothesis isHexDigest_of_mem_parents

private theorem isHexDigest_of_mem_leaves {tenant : JsString}
    {leaves : List JsString} :
    ∀ node ∈ leaves.map (leafDigestOf tenant), isHexDigest node = true := by
  intro node member
  obtain ⟨leaf, _, rfl⟩ := List.mem_map.mp member
  exact isHexDigest_leafDigestOf tenant leaf

theorem batchTree_of_created {host : Host} {input : MerkleBatchInput}
    {batch : MerkleBatch}
    (created : createMerkleBatch host input = .ok batch) :
    ∃ tenant depth, BatchTree host input batch tenant depth := by
  rw [createMerkleBatch] at created
  obtain ⟨leaves, validated, created⟩ := Outcome.bind_eq_ok.mp created
  obtain ⟨sorted, nonempty, distinct, hex⟩ := validateLeaves_of_ok validated
  obtain ⟨all, allComputed, created⟩ := Outcome.bind_eq_ok.mp created
  have levelsComputed := allComputed
  rw [levelsFor] at allComputed
  obtain ⟨first, firstComputed, allComputed⟩ :=
    Outcome.bind_eq_ok.mp allComputed
  obtain ⟨tenant, normalized⟩ :=
    normalizeString_of_hashLeaves nonempty hex firstComputed
  obtain ⟨firstEq, leafFits⟩ := hashLeaves_of_ok normalized hex firstComputed
  rw [firstEq, List.length_map] at allComputed
  obtain ⟨allEq, nodeFits⟩ := levelsFrom_of_ok normalized
    isHexDigest_of_mem_leaves allComputed
  have positive : 0 < leaves.length := List.length_pos_iff.mpr nonempty
  obtain ⟨depth, root, reduces, levelCount, last⟩ :
      ∃ depth root, Reduces (nodeDigestOf tenant) depth
          (leaves.map (leafDigestOf tenant)) root ∧
        (levels (nodeDigestOf tenant) leaves.length
          (leaves.map (leafDigestOf tenant))).length = depth + 1 ∧
        (levels (nodeDigestOf tenant) leaves.length
          (leaves.map (leafDigestOf tenant))).getLast? = some [root] :=
    exists_reduces leaves.length (leaves.map (leafDigestOf tenant))
      (by simpa using positive) (by simp)
  rw [allEq] at created levelsComputed
  have rootHex := isHexDigest_of_reduces reduces isHexDigest_of_mem_leaves
  rw [last] at created
  cases root with
  | nil =>
      exact absurd rootHex (by decide)
  | cons unit rest =>
      obtain ⟨createdAt, _, built⟩ := Outcome.bind_eq_ok.mp created
      rw [Except.ok.injEq] at built
      subst built
      exact ⟨tenant, depth,
        { normalized := normalized
          sameTenant := rfl
          sorted := sorted
          nonempty := nonempty
          distinct := distinct
          hex := hex
          count := rfl
          computed := levelsComputed
          levelCount := levelCount
          reduces := reduces
          rootHex := rootHex
          leafFits := leafFits nonempty
          nodeFits := nodeFits positive.ne' ∘ by simp }⟩

/-! ## What a root commits to -/

/-- The byte strings hashed for a batch of the given leaves. -/
def batchPreimages (host : Host) (tenantId : JsString)
    (leaves : List JsString) : List (List UInt8) :=
  match normalizeString host tenantId with
  | .error _ => []
  | .ok tenant =>
      hashedLevel merkleEncoding sha256Bytes tenant
        (reductionDepth leaves.length) (leaves.map (Prod.mk tenant))

section Batch

variable {host : Host} {input : MerkleBatchInput} {batch : MerkleBatch}
  {tenant : JsString} {depth : Nat}

theorem BatchTree.leafReduces
    (tree : BatchTree host input batch tenant depth) :
    Reduces (nodeHash merkleEncoding sha256Bytes tenant) depth
      ((batch.leafDigests.map (Prod.mk tenant)).map
        (leafHash merkleEncoding sha256Bytes)) batch.rootDigest := by
  rw [List.map_map]
  exact tree.reduces

theorem BatchTree.preimages (tree : BatchTree host input batch tenant depth) :
    batchPreimages host batch.tenantId batch.leafDigests =
      hashedLevel merkleEncoding sha256Bytes tenant depth
        (batch.leafDigests.map (Prod.mk tenant)) := by
  have sameDepth := tree.reduces.depth_eq
  rw [List.length_map] at sameDepth
  rw [batchPreimages, tree.sameTenant, tree.normalized, sameDepth]

end Batch

/-- A root commits to the set of leaves and to the canonical tenant: batches of
one tenant with permuted leaves share it, other batches never do. -/
theorem rootDigest_commits (host : Host) {left right : MerkleBatchInput}
    {leftBatch rightBatch : MerkleBatch}
    (leftCreated : createMerkleBatch host left = .ok leftBatch)
    (rightCreated : createMerkleBatch host right = .ok rightBatch) :
    (normalizeString host left.tenantId = normalizeString host right.tenantId →
      left.leafDigests.Perm right.leafDigests →
      leftBatch.rootDigest = rightBatch.rootDigest) ∧
    (CollisionFree
        (batchPreimages host leftBatch.tenantId leftBatch.leafDigests ++
          batchPreimages host rightBatch.tenantId rightBatch.leafDigests) →
      leftBatch.rootDigest = rightBatch.rootDigest →
      leftBatch.leafDigests = rightBatch.leafDigests ∧
        normalizeString host left.tenantId =
          normalizeString host right.tenantId) := by
  obtain ⟨leftTenant, leftDepth, leftTree⟩ := batchTree_of_created leftCreated
  obtain ⟨rightTenant, rightDepth, rightTree⟩ :=
    batchTree_of_created rightCreated
  have leftReduces := leftTree.leafReduces
  have rightReduces := rightTree.leafReduces
  constructor
  · intro sameTenant permuted
    rw [leftTree.normalized, rightTree.normalized, Except.ok.injEq]
      at sameTenant
    have distinct : (left.leafDigests.map id).Nodup := by
      rw [List.map_id, ← (sortOn_perm id left.leafDigests).nodup_iff,
        ← leftTree.sorted]
      exact leftTree.distinct
    have sameLeaves : leftBatch.leafDigests = rightBatch.leafDigests := by
      rw [leftTree.sorted, rightTree.sorted,
        sortOn_eq_of_perm id permuted distinct]
    rw [sameTenant, sameLeaves] at leftReduces
    exact (leftReduces.unique rightReduces).2
  · intro free sameRoot
    rw [leftTree.preimages, rightTree.preimages] at free
    rw [sameRoot] at leftReduces
    have injective : ∀ tenant : JsString,
        Function.Injective (Prod.mk (β := JsString) tenant) :=
      fun _ _ _ same => (Prod.mk.inj same).2
    have sameContents := contents_eq_of_root_eq leftReduces rightReduces
      (leftTree.distinct.map (injective leftTenant))
      (rightTree.distinct.map (injective rightTenant)) free
    have sameTenant : leftTenant = rightTenant := by
      obtain ⟨leaf, rest, leaves⟩ :=
        List.exists_cons_of_ne_nil leftTree.nonempty
      obtain ⟨other, others, otherLeaves⟩ :=
        List.exists_cons_of_ne_nil rightTree.nonempty
      rw [leaves, otherLeaves, List.map_cons, List.map_cons] at sameContents
      exact (Prod.mk.inj (List.cons.inj sameContents).1).1
    rw [← sameTenant] at sameContents
    refine ⟨(injective leftTenant).list_map sameContents, ?_⟩
    rw [leftTree.normalized, rightTree.normalized, sameTenant]

/-- A batch request whose leaves are 64 times one letter each. -/
def letterInput (letters : List UInt16) (few : letters.length < 2 ^ 32) :
    MerkleBatchInput where
  batchId := js "batch-1"
  createdAt := js "2026-07-17T12:00:00Z"
  leafDigests := letters.map (List.replicate 64)
  tenantId := js "tenant-a"
  arrayLength := by rwa [List.length_map]

/-- The batch of the letters `a`, `b` and `c`. -/
def threeLeafBatch : MerkleBatch where
  structureVersion := js "1"
  batchId := js "batch-1"
  tenantId := js "tenant-a"
  leafDigests := [97, 98, 99].map (List.replicate 64)
  leafCount := 3
  rootDigest := js
    "a0d8d4cd8c3ecab507c54b09a909926bb157723232a1906576fde14c89be7c10"
  digestAlgorithm := js "SHA-256"
  duplicatePolicy := js "reject"
  oddNodePolicy := js "duplicate_last"
  signedRoot := none
  createdAt := js "2026-07-17T12:00:00.000Z"

theorem collisionFree_threeLeafBatch :
    CollisionFree (batchPreimages (recordedHost []) threeLeafBatch.tenantId
      threeLeafBatch.leafDigests) := by
  apply collisionFree_of_nodup
    (show _ =
      [js "a0789c6527766a7e14482d076e9081e9bcaab5d261393e855af346d8da6c4489",
        js "68fc14f22ee062c4e2fe3ea36c32d1c53c1e17d3324bc4298e7c033a2f145b81",
        js "2cc87b36cb075d61e52aefc8f62cf3ac6a31cfa1d3fe27ab70c1296c3f94a992",
        js "31129f4ff898a4ca038dd227cfca498a1d747214254c2936bbe1b4fc2ea86b33",
        js "f5f59994238574a6376740f42ed8de6e8f2e011ac16587b03f5d0db39ee8e417",
        js "a0d8d4cd8c3ecab507c54b09a909926bb157723232a1906576fde14c89be7c10"]
      by decide +kernel)
  decide +kernel

theorem createMerkleBatch_threeLeafBatch :
    createMerkleBatch (recordedHost [])
      (letterInput [99, 97, 98] (by decide)) = .ok threeLeafBatch := by
  decide +kernel

theorem rootDigest_commits_permuted :
    ∃ left right,
      createMerkleBatch (recordedHost [])
        (letterInput [99, 97, 98] (by decide)) = .ok left ∧
      createMerkleBatch (recordedHost [])
        (letterInput [98, 99, 97] (by decide)) = .ok right ∧
      left.rootDigest = right.rootDigest ∧
      left.leafDigests = right.leafDigests := by
  have rightCreated :
      createMerkleBatch (recordedHost [])
        (letterInput [98, 99, 97] (by decide)) = .ok threeLeafBatch := by
    decide +kernel
  have commits := rootDigest_commits (recordedHost [])
    createMerkleBatch_threeLeafBatch rightCreated
  have sameRoot := commits.1 rfl (by decide +kernel)
  have free := collisionFree_threeLeafBatch.mono
    (List.append_subset.mpr ⟨List.Subset.refl _, List.Subset.refl _⟩)
  exact ⟨threeLeafBatch, threeLeafBatch, createMerkleBatch_threeLeafBatch,
    rightCreated, sameRoot, (commits.2 free sameRoot).1⟩

end BidayaxExecutive.Trust
