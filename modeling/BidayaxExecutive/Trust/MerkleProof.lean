import BidayaxExecutive.Trust.MerkleTree

/-!
# Proofs as walks

`verifyMerkleProof` climbs from the leaf hash along the listed siblings.  An
accepted proof is such a walk from its leaf to its root, and every walk whose
siblings are digests is accepted.  The proofs of `createMerkleProof` are the
walks along the siblings of the tree.
-/

namespace BidayaxExecutive.Trust

open BidayaxExecutive.Runtime JsString
open BidayaxExecutive.Library.DuplicateLastTree
open BidayaxExecutive.Library.HashTree

/-! ## Indices -/

private theorem isOddRemainder_of_toInt? {index : JsNumber} {position : Nat}
    (integral : index.toInt? = some (position : Int)) :
    index.isOddRemainder = decide (position % 2 = 1) := by
  cases index with
  | negativeZero =>
      have zero : position = 0 := by
        simpa [JsNumber.toInt?, eq_comm] using integral
      subst zero
      rfl
  | integer value =>
      rw [JsNumber.toInt?, Option.some.injEq] at integral
      subst integral
      rw [JsNumber.isOddRemainder, Bool.eq_iff_iff, beq_iff_eq,
        decide_eq_true_eq, Int.tmod_eq_emod_of_nonneg (by omega)]
      omega
  | nan => simp [JsNumber.toInt?] at integral
  | infinity _ => simp [JsNumber.toInt?] at integral
  | fraction _ _ => simp [JsNumber.toInt?] at integral

private theorem floorHalf_of_toInt? {index : JsNumber} {position : Nat}
    (integral : index.toInt? = some (position : Int)) :
    index.floorHalf.toInt? = some ((position / 2 : Nat) : Int) := by
  cases index with
  | negativeZero =>
      have zero : position = 0 := by
        simpa [JsNumber.toInt?, eq_comm] using integral
      subst zero
      rfl
  | integer value =>
      rw [JsNumber.toInt?, Option.some.injEq] at integral
      subst integral
      rw [JsNumber.floorHalf, JsNumber.toInt?]
      norm_cast
  | nan => simp [JsNumber.toInt?] at integral
  | infinity _ => simp [JsNumber.toInt?] at integral
  | fraction _ _ => simp [JsNumber.toInt?] at integral

/-! ## The loop of `verifyMerkleProof` -/

/-- The step at an index with the given sibling. -/
def stepAt (index : Nat) (sibling : JsString) : MerkleProofStep :=
  { position := if index % 2 = 1 then .left else .right
    siblingDigest := sibling }

/-- The steps of a walk. -/
def stepsAlong : Nat → List JsString → List MerkleProofStep
  | _, [] => []
  | index, sibling :: rest =>
      stepAt index sibling :: stepsAlong (index / 2) rest

theorem siblingDigests_stepsAlong (siblings : List JsString) (index : Nat) :
    (stepsAlong index siblings).map (·.siblingDigest) = siblings := by
  induction siblings generalizing index with
  | nil => rfl
  | cons sibling rest inductionHypothesis =>
      rw [stepsAlong, List.map_cons, inductionHypothesis, stepAt]

theorem length_stepsAlong (siblings : List JsString) (index : Nat) :
    (stepsAlong index siblings).length = siblings.length := by
  have mapped := congrArg List.length (siblingDigests_stepsAlong siblings index)
  rwa [List.length_map] at mapped

/-- One turn of the loop at an index that is a natural number. -/
private theorem walkSteps_cons (host : Host) (tenantId current : JsString)
    (step : MerkleProofStep) (rest : List MerkleProofStep) {index : JsNumber}
    {position : Nat} (integral : index.toInt? = some (position : Int)) :
    walkSteps host tenantId (step :: rest) current index =
      if isHexDigest step.siblingDigest = true ∧
          step = stepAt position step.siblingDigest then do
        let pair := joined position current step.siblingDigest
        let parent ← hashNode host tenantId pair.1 pair.2
        walkSteps host tenantId rest parent index.floorHalf
      else .ok ⟨current, index, true⟩ := by
  obtain ⟨sibling, side⟩ := step
  rw [walkSteps, isOddRemainder_of_toInt? integral]
  by_cases odd : position % 2 = 1
  · cases side with
    | left => cases isHexDigest sibling <;> simp [stepAt, joined, odd]
    | right => simp [stepAt, odd]
  · cases side with
    | left => simp [stepAt, odd]
    | right => cases isHexDigest sibling <;> simp [stepAt, joined, odd]

private theorem isHexDigest_joined {current sibling : JsString}
    (index : Nat) (currentHex : isHexDigest current = true)
    (siblingHex : isHexDigest sibling = true) :
    isHexDigest (joined index current sibling).1 = true ∧
      isHexDigest (joined index current sibling).2 = true := by
  rw [joined]
  split_ifs
  · exact ⟨siblingHex, currentHex⟩
  · exact ⟨currentHex, siblingHex⟩

section Tenant

variable {host : Host} {tenantId tenant : JsString}
  (normalized : normalizeString host tenantId = .ok tenant)

include normalized

/-- A walk that does not break off is a climb. -/
private theorem walkSteps_of_ok :
    ∀ {steps : List MerkleProofStep} {current : JsString} {index : JsNumber}
      {position : Nat} {walk : ProofWalk},
      index.toInt? = some (position : Int) →
      isHexDigest current = true →
      walkSteps host tenantId steps current index = .ok walk →
      walk.malformed = false →
      walk.current = (climb (nodeDigestOf tenant) current position
          (steps.map (·.siblingDigest))).1 ∧
        walk.index.toInt? = some ((climb (nodeDigestOf tenant) current position
          (steps.map (·.siblingDigest))).2 : Int)
  | [], current, index, position, walk, integral, _, walked, _ => by
      rw [walkSteps, Except.ok.injEq] at walked
      rw [← walked]
      exact ⟨rfl, integral⟩
  | step :: rest, current, index, position, walk, integral, hex, walked,
      unbroken => by
      rw [walkSteps_cons host tenantId current step rest integral] at walked
      by_cases fitting : isHexDigest step.siblingDigest = true ∧
          step = stepAt position step.siblingDigest
      · rw [if_pos fitting] at walked
        obtain ⟨parent, hashed, walked⟩ := Outcome.bind_eq_ok.mp walked
        obtain ⟨leftHex, rightHex⟩ :=
          isHexDigest_joined position hex fitting.1
        obtain ⟨_, parentEq⟩ :=
          hashNode_of_ok normalized leftHex rightHex hashed
        rw [parentEq] at walked
        have above := walkSteps_of_ok (floorHalf_of_toInt? integral)
          (isHexDigest_nodeDigestOf tenant _ _) walked unbroken
        rw [List.map_cons, climb]
        exact above
      · rw [if_neg fitting, Except.ok.injEq] at walked
        rw [← walked] at unbroken
        simp at unbroken

/-- A climb along digests is walked to its end. -/
private theorem walkSteps_stepsAlong :
    ∀ {siblings : List JsString} {current : JsString} (position : Nat),
      isHexDigest current = true →
      (∀ sibling ∈ siblings, isHexDigest sibling = true) →
      (siblings ≠ [] → NodeFits tenant) →
      walkSteps host tenantId (stepsAlong position siblings) current
          (.integer position) =
        .ok ⟨(climb (nodeDigestOf tenant) current position siblings).1,
          .integer (climb (nodeDigestOf tenant) current position siblings).2,
          false⟩
  | [], current, position, _, _, _ => rfl
  | sibling :: rest, current, position, hex, siblingsHex, fits => by
      have siblingHex := siblingsHex sibling List.mem_cons_self
      have nodeFits := fits (List.cons_ne_nil _ _)
      obtain ⟨leftHex, rightHex⟩ := isHexDigest_joined position hex siblingHex
      have next := walkSteps_stepsAlong (position / 2)
        (isHexDigest_nodeDigestOf tenant (joined position current sibling).1
          (joined position current sibling).2)
        (fun other member => siblingsHex other (List.mem_cons_of_mem _ member))
        (fun _ => nodeFits)
      rw [stepsAlong, walkSteps_cons host tenantId current _ _
        (show (JsNumber.integer position).toInt? = some (position : Int) from
          rfl), if_pos ⟨siblingHex, rfl⟩]
      simp only [stepAt]
      rw [hashNode_of_fits normalized leftHex rightHex nodeFits,
        Outcome.ok_bind, climb]
      exact next

end Tenant

/-! ## Accepted proofs -/

private theorem eraseDups_eq_nil {α : Type} [BEq α] {items : List α} :
    items.eraseDups = [] ↔ items = [] := by
  cases items with
  | nil => simp
  | cons first rest => simp [List.eraseDups_cons]

/-- A proof as a walk: what `verifyMerkleProof` checks about the proof alone. -/
structure Walks (host : Host) (proof : MerkleProof) (tenant : JsString)
    (position : Nat) : Prop where
  normalized : normalizeString host proof.tenantId = .ok tenant
  hex : isHexDigest proof.leafDigest = true
  index : proof.leafIndex.toInt? = some (position : Int)
  reached : climb (nodeDigestOf tenant) (leafDigestOf tenant proof.leafDigest)
    position (proof.steps.map (·.siblingDigest)) = (proof.rootDigest, 0)

private theorem nonnegative_index {index : JsNumber}
    (safe : index.isSafeInteger = true) (signed : index.isNegative = false) :
    ∃ position : Nat, index.toInt? = some (position : Int) := by
  cases index with
  | negativeZero => exact ⟨0, rfl⟩
  | integer value =>
      have nonnegative : 0 ≤ value := by
        simpa [JsNumber.isNegative] using signed
      exact ⟨value.toNat, by rw [JsNumber.toInt?, Int.toNat_of_nonneg nonnegative]⟩
  | nan => simp [JsNumber.isSafeInteger] at safe
  | infinity _ => simp [JsNumber.isSafeInteger] at safe
  | fraction _ _ => simp [JsNumber.isSafeInteger] at safe

theorem walks_of_valid {host : Host} {proof : MerkleProof} {tenantId : JsString}
    {batch : Option MerkleBatch} {verification : MerkleProofVerification}
    (verified : verifyMerkleProof host proof tenantId batch = .ok verification)
    (valid : verification.valid = true) :
    ∃ tenant position, Walks host proof tenant position := by
  rw [verifyMerkleProof] at verified
  obtain ⟨start, started, verified⟩ := Outcome.bind_eq_ok.mp verified
  obtain ⟨walk, walked, verified⟩ := Outcome.bind_eq_ok.mp verified
  rw [Except.ok.injEq] at verified
  rw [← verified] at valid
  simp only [List.isEmpty_iff, eraseDups_eq_nil, List.append_eq_nil_iff,
    proofFieldReasons, ite_eq_right_iff, List.cons_ne_nil, imp_false,
    Bool.or_eq_true, Bool.not_eq_true', not_or, Bool.not_eq_false,
    Bool.not_eq_true, bne_iff_ne, ne_eq, not_not] at valid
  obtain ⟨⟨⟨_, ⟨⟨hex, rootHex⟩, safe⟩, signed⟩, unbroken⟩, zero, reached⟩ :=
    valid
  rw [proofStart, if_pos hex] at started
  obtain ⟨position, integral⟩ := nonnegative_index safe signed
  obtain ⟨tenant, normalized, _, startEq⟩ := (hashLeaf_eq_ok host hex).mp started
  rw [startEq] at walked
  obtain ⟨currentEq, indexEq⟩ := walkSteps_of_ok normalized integral
    (isHexDigest_leafDigestOf tenant _) walked unbroken
  rw [JsNumber.strictEquals_of_toInt? indexEq rfl, beq_iff_eq] at zero
  refine ⟨tenant, position, ⟨normalized, hex, integral, Prod.ext ?_ ?_⟩⟩
  · rw [← currentEq, reached]
  · exact_mod_cast zero

/-- The proof with the given siblings; its other fields are those of the
batch. -/
def proofAlong (batch : MerkleBatch) (leafDigest proofId : JsString)
    (index : Nat) (siblings : List JsString) : MerkleProof :=
  { structureVersion := js "1"
    proofVersion := js "1"
    proofId := proofId
    batchId := batch.batchId
    tenantId := batch.tenantId
    leafDigest := leafDigest
    leafIndex := .integer index
    digestAlgorithm := batch.digestAlgorithm
    steps := stepsAlong index siblings
    rootDigest := batch.rootDigest }

section Batch

variable {host : Host} {input : MerkleBatchInput} {batch : MerkleBatch}
  {tenant : JsString} {depth : Nat}

/-- Every node of the tree of a batch is a digest. -/
private theorem isHexDigest_of_mem_treePairs {leaves : List JsString} :
    ∀ pair ∈ treePairs (nodeDigestOf tenant) depth
        (leaves.map (leafDigestOf tenant)),
      isHexDigest pair.1 = true ∧ isHexDigest pair.2 = true := by
  have base : ∀ node ∈ leaves.map (leafDigestOf tenant),
      isHexDigest node = true := by
    intro node member
    obtain ⟨leaf, _, rfl⟩ := List.mem_map.mp member
    exact isHexDigest_leafDigestOf tenant leaf
  exact forall_treePairs (nodeDigestOf tenant)
    (isHexDigest_nodeDigestOf tenant) base

private theorem isHexDigest_of_mem_siblings {leaves : List JsString}
    {node : JsString} {index : Nat} {siblings : List JsString}
    (within : climbPairs (nodeDigestOf tenant) node index siblings ⊆
      treePairs (nodeDigestOf tenant) depth
        (leaves.map (leafDigestOf tenant))) :
    ∀ sibling ∈ siblings, isHexDigest sibling = true := by
  intro sibling member
  obtain ⟨pair, found, side⟩ := exists_pair_of_mem_siblings
    (nodeDigestOf tenant) node index member
  obtain ⟨leftHex, rightHex⟩ :=
    isHexDigest_of_mem_treePairs pair (within found)
  rcases side with same | same
  · rw [same]
    exact leftHex
  · rw [same]
    exact rightHex

/-- A walk inside the tree of a batch is accepted, whatever its index. -/
theorem BatchTree.verify_proofAlong
    (tree : BatchTree host input batch tenant depth)
    {leaf proofId : JsString} {index : Nat} {siblings : List JsString}
    {given : Option MerkleBatch}
    (leafHex : isHexDigest leaf = true) (safe : index < 2 ^ 32)
    (fits : siblings ≠ [] → NodeFits tenant)
    (reached : climb (nodeDigestOf tenant) (leafDigestOf tenant leaf) index
      siblings = (batch.rootDigest, 0))
    (within : climbPairs (nodeDigestOf tenant) (leafDigestOf tenant leaf)
        index siblings ⊆
      treePairs (nodeDigestOf tenant) depth
        (batch.leafDigests.map (leafDigestOf tenant)))
    (matching : proofFieldReasons (proofAlong batch leaf proofId index siblings)
      batch.tenantId given = proofFieldReasons
        (proofAlong batch leaf proofId index siblings) batch.tenantId none) :
    verifyMerkleProof host (proofAlong batch leaf proofId index siblings)
      batch.tenantId given = .ok ⟨true, []⟩ := by
  have normalized : normalizeString host batch.tenantId = .ok tenant := by
    rw [tree.sameTenant]
    exact tree.normalized
  have rootHex : isHexDigest batch.rootDigest = true :=
    tree.rootHex
  have walked := walkSteps_stepsAlong normalized index
    (isHexDigest_leafDigestOf tenant leaf) (isHexDigest_of_mem_siblings within)
    fits
  rw [reached] at walked
  have reasons : proofFieldReasons
      (proofAlong batch leaf proofId index siblings) batch.tenantId none =
        [] := by
    have bound : (index : Int) ≤ JsNumber.maxSafeInteger := by
      rw [JsNumber.maxSafeInteger]
      omega
    have least : -JsNumber.maxSafeInteger ≤ (index : Int) := by
      rw [JsNumber.maxSafeInteger]
      omega
    simp [proofFieldReasons, proofAlong, leafHex, rootHex,
      JsNumber.isSafeInteger, JsNumber.isNegative, bound, least]
  rw [verifyMerkleProof, proofStart]
  simp only [matching, reasons]
  simp only [proofAlong, leafHex, if_true,
    hashLeaf_of_fits normalized leafHex tree.leafFits, Outcome.ok_bind, walked]
  simp [JsNumber.strictEquals, JsNumber.toInt?]

/-! ## The proofs of `createMerkleProof` -/

private theorem levels_ne_nil (combine : JsString → JsString → JsString) :
    ∀ (bound : Nat) (level : List JsString),
      ∃ rest, levels combine bound level = level :: rest
  | 0, level => ⟨[], rfl⟩
  | bound + 1, level => by
      rw [levels]
      by_cases short : level.length ≤ 1
      · exact ⟨[], if_pos short⟩
      · exact ⟨_, if_neg short⟩

private theorem proofSteps_levels {combine : JsString → JsString → JsString}
    {level : List JsString} {root node : JsString} {index : Nat}
    (reduces : Reduces combine depth level root)
    (found : level[index]? = some node) (bound : Nat)
    (enough : level.length ≤ bound + 1) :
    proofSteps (levels combine bound level) index =
      stepsAlong index (siblings combine depth level index) := by
  induction reduces generalizing index node bound with
  | root last =>
      have single : levels combine bound [last] = [[last]] := by
        cases bound with
        | zero => rfl
        | succ bound => simp [levels]
      rw [single, siblings]
      rfl
  | @step depth level root long _ inductionHypothesis =>
      cases bound with
      | zero => omega
      | succ bound =>
          have halved := length_parents combine level
          have above := inductionHypothesis
            (getElem?_parents_joined combine found) bound (by omega)
          obtain ⟨rest, shape⟩ :=
            levels_ne_nil combine bound (parents combine level)
          rw [levels, if_neg (by omega), shape, proofSteps, ← shape, above]
          simp only [siblings, found, stepsAlong, stepAt, siblingAt,
            Option.getD_some, beq_iff_eq]

private theorem two_le_of_siblings {combine : JsString → JsString → JsString}
    {level : List JsString} {root : JsString} {index : Nat}
    (reduces : Reduces combine depth level root)
    (walked : siblings combine depth level index ≠ []) :
    2 ≤ level.length := by
  cases reduces with
  | root node => exact absurd rfl walked
  | step long _ => exact long

/-- What `createMerkleProof` returns for the leaf at an index. -/
theorem BatchTree.createMerkleProof_eq
    (tree : BatchTree host input batch tenant depth)
    {leaf proofId : JsString} {index : Nat}
    (position : batch.leafDigests.findIdx? (· == leaf) = some index)
    (found : batch.leafDigests[index]? = some leaf) :
    createMerkleProof host batch leaf proofId =
      .ok (proofAlong batch leaf proofId index
        (siblings (nodeDigestOf tenant) depth
          (batch.leafDigests.map (leafDigestOf tenant)) index)) := by
  have leafFound : (batch.leafDigests.map (leafDigestOf tenant))[index]? =
      some (leafDigestOf tenant leaf) := by
    rw [List.getElem?_map, found]
    rfl
  have steps := proofSteps_levels tree.reduces leafFound
    batch.leafDigests.length (by simp)
  rw [createMerkleProof, position]
  simp only [tree.computed, Outcome.ok_bind, steps]
  rfl

end Batch

/-- Every leaf of a batch has a proof with one step per level above the
leaves, and the proof is valid for the batch. -/
theorem createMerkleProof_verifies {host : Host} {input : MerkleBatchInput}
    {batch : MerkleBatch} {leaf : JsString} (proofId : JsString)
    (created : createMerkleBatch host input = .ok batch)
    (member : leaf ∈ batch.leafDigests) :
    ∃ proof levels,
      createMerkleProof host batch leaf proofId = .ok proof ∧
      verifyMerkleProof host proof batch.tenantId (some batch) =
        .ok ⟨true, []⟩ ∧
      levelsFor host batch.tenantId batch.leafDigests = .ok levels ∧
      proof.steps.length + 1 = levels.length := by
  obtain ⟨tenant, depth, tree⟩ := batchTree_of_created created
  obtain ⟨index, position⟩ : ∃ index,
      batch.leafDigests.findIdx? (· == leaf) = some index :=
    ⟨_, List.findIdx?_eq_some_of_exists ⟨leaf, member, by simp⟩⟩
  obtain ⟨inRange, isLeaf, _⟩ := List.findIdx?_eq_some_iff_getElem.mp position
  have found : batch.leafDigests[index]? = some leaf := by
    rw [List.getElem?_eq_getElem inRange, eq_of_beq isLeaf]
  have leafFound : (batch.leafDigests.map (leafDigestOf tenant))[index]? =
      some (leafDigestOf tenant leaf) := by
    rw [List.getElem?_map, found]
    rfl
  obtain ⟨reached, within⟩ := climb_siblings tree.reduces leafFound
  have small : index < 2 ^ 32 := by
    have bound := input.arrayLength
    have same := length_sortOn id input.leafDigests
    rw [← tree.sorted] at same
    omega
  refine ⟨_, _, tree.createMerkleProof_eq position found, ?_, tree.computed, ?_⟩
  · apply tree.verify_proofAlong (tree.hex leaf member) small
      (fun walked => tree.nodeFits ?_) reached within
    · simp [proofFieldReasons, proofAlong, elementAt?, JsNumber.toInt?, found]
    · simpa using two_le_of_siblings tree.reduces walked
  · rw [tree.levelCount, proofAlong, length_stepsAlong,
      length_siblings tree.reduces leafFound]

theorem createMerkleProof_verifies_three :
    ∃ proof levels,
      createMerkleProof (recordedHost []) threeLeafBatch
        (List.replicate 64 99) (js "proof-1") = .ok proof ∧
      verifyMerkleProof (recordedHost []) proof threeLeafBatch.tenantId
        (some threeLeafBatch) = .ok ⟨true, []⟩ ∧
      levelsFor (recordedHost []) threeLeafBatch.tenantId
        threeLeafBatch.leafDigests = .ok levels ∧
      proof.steps.length + 1 = levels.length :=
  createMerkleProof_verifies (js "proof-1") createMerkleBatch_threeLeafBatch
    (by decide +kernel)

/-! ## What a proof binds without its batch -/

/-- The byte strings hashed when a proof is walked. -/
def proofPreimages (host : Host) (proof : MerkleProof) : List (List UInt8) :=
  match normalizeString host proof.tenantId, proof.leafIndex.toInt? with
  | .ok tenant, some (.ofNat position) =>
      hashedWalk merkleEncoding sha256Bytes tenant (tenant, proof.leafDigest)
        position (proof.steps.map (·.siblingDigest))
  | _, _ => []

/-- The leaf of the proof is the leaf of the batch at its index. -/
def BindsLeaf (proof : MerkleProof) (batch : MerkleBatch) : Prop :=
  ∃ index : Nat, proof.leafIndex.toInt? = some (index : Int) ∧
    index < batch.leafCount ∧
    batch.leafDigests[index]? = some proof.leafDigest

section Batch

variable {host : Host} {input : MerkleBatchInput} {batch : MerkleBatch}
  {tenant : JsString} {depth : Nat}

private theorem Walks.preimages {proof : MerkleProof} {position : Nat}
    (walks : Walks host proof tenant position) :
    proofPreimages host proof =
      hashedWalk merkleEncoding sha256Bytes tenant (tenant, proof.leafDigest)
        position (proof.steps.map (·.siblingDigest)) := by
  rw [proofPreimages, walks.normalized, walks.index]

private theorem BatchTree.bindsLeaf_of_walks
    (tree : BatchTree host input batch tenant depth) {proof : MerkleProof}
    {walkTenant : JsString} {position exponent : Nat}
    (walks : Walks host proof walkTenant position)
    (sameRoot : proof.rootDigest = batch.rootDigest)
    (count : input.leafDigests.length = 2 ^ exponent)
    (free : CollisionFree
      (batchPreimages host batch.tenantId batch.leafDigests ++
        proofPreimages host proof)) :
    BindsLeaf proof batch := by
  have sameCount : batch.leafDigests.length = 2 ^ exponent := by
    rw [tree.sorted, length_sortOn, count]
  have reached := walks.reached
  rw [sameRoot] at reached
  rw [tree.preimages, walks.preimages] at free
  have found := getElem?_of_climb tree.leafReduces
    (by rw [List.length_map, sameCount]) reached free
  rw [List.getElem?_map] at found
  obtain ⟨leaf, leafFound, same⟩ := Option.map_eq_some_iff.mp found
  obtain ⟨inRange, _⟩ := List.getElem?_eq_some_iff.mp leafFound
  rw [(Prod.mk.inj same).2] at leafFound
  exact ⟨position, walks.index, by rw [tree.count]; exact inRange, leafFound⟩

/-- Whatever its index, a proof under the root of a batch is about one of the
leaves of the batch, and about its tenant. -/
theorem BatchTree.mem_of_walks
    (tree : BatchTree host input batch tenant depth) {proof : MerkleProof}
    {walkTenant : JsString} {position : Nat}
    (walks : Walks host proof walkTenant position)
    (sameRoot : proof.rootDigest = batch.rootDigest)
    (free : CollisionFree
      (batchPreimages host batch.tenantId batch.leafDigests ++
        proofPreimages host proof)) :
    walkTenant = tenant ∧ proof.leafDigest ∈ batch.leafDigests := by
  have reached := congrArg Prod.fst walks.reached
  rw [sameRoot] at reached
  rw [tree.preimages, walks.preimages] at free
  have member := mem_of_climb tree.leafReduces reached free
  obtain ⟨leaf, isLeaf, same⟩ := List.mem_map.mp member
  rw [← (Prod.mk.inj same).1, ← (Prod.mk.inj same).2]
  exact ⟨rfl, isLeaf⟩

/-- A batch whose size is no power of two has a valid proof for the index just
past its leaves, which hashes nothing the batch does not hash. -/
private theorem BatchTree.exists_overrun_proof
    (tree : BatchTree host input batch tenant depth)
    (uneven : ∀ exponent, input.leafDigests.length ≠ 2 ^ exponent) :
    ∃ proof,
      proof.rootDigest = batch.rootDigest ∧
      verifyMerkleProof host proof proof.tenantId none = .ok ⟨true, []⟩ ∧
      proofPreimages host proof ⊆
        batchPreimages host batch.tenantId batch.leafDigests ∧
      ¬ BindsLeaf proof batch := by
  have sameCount : batch.leafDigests.length = input.leafDigests.length := by
    rw [tree.sorted, length_sortOn]
  obtain ⟨node, siblings, member, reached, within⟩ :=
    exists_overrun tree.reduces (by simpa [sameCount] using uneven)
  obtain ⟨leaf, leafMember, rfl⟩ := List.mem_map.mp member
  rw [List.length_map] at reached within
  have small : batch.leafDigests.length < 2 ^ 32 := by
    rw [sameCount]
    exact input.arrayLength
  have several : 2 ≤ batch.leafDigests.length := by
    have nonempty := List.length_pos_iff.mpr tree.nonempty
    have notOne := uneven 0
    omega
  have verified : verifyMerkleProof host
      (proofAlong batch leaf [] batch.leafDigests.length siblings)
      batch.tenantId none = .ok ⟨true, []⟩ :=
    tree.verify_proofAlong (tree.hex leaf leafMember) small
      (fun _ => tree.nodeFits several) reached within rfl
  refine ⟨_, rfl, verified, ?_, ?_⟩
  · have normalized : normalizeString host batch.tenantId = .ok tenant := by
      rw [tree.sameTenant]
      exact tree.normalized
    rw [tree.preimages]
    simp only [proofPreimages, proofAlong, normalized, JsNumber.toInt?,
      siblingDigests_stepsAlong]
    apply hashedWalk_subset (List.mem_map_of_mem leafMember)
    rw [List.map_map]
    exact within
  · intro binds
    obtain ⟨index, indexEq, inRange, _⟩ := binds
    have same : batch.leafDigests.length = index := by
      simpa [proofAlong, JsNumber.toInt?] using indexEq
    rw [tree.count] at inRange
    omega

end Batch

/-- Without the batch a valid proof binds its leaf and its index exactly for
batches whose size is a power of two. -/
theorem verifyMerkleProof_bindsLeaf_iff {host : Host}
    {input : MerkleBatchInput} {batch : MerkleBatch}
    (created : createMerkleBatch host input = .ok batch)
    (free : CollisionFree
      (batchPreimages host batch.tenantId batch.leafDigests)) :
    (∀ proof verification,
      verifyMerkleProof host proof proof.tenantId none = .ok verification →
      verification.valid = true →
      proof.rootDigest = batch.rootDigest →
      CollisionFree
        (batchPreimages host batch.tenantId batch.leafDigests ++
          proofPreimages host proof) →
      BindsLeaf proof batch) ↔
    ∃ exponent, input.leafDigests.length = 2 ^ exponent := by
  obtain ⟨tenant, depth, tree⟩ := batchTree_of_created created
  constructor
  · intro sound
    by_contra uneven
    simp only [not_exists] at uneven
    obtain ⟨proof, sameRoot, verified, within, unbound⟩ :=
      tree.exists_overrun_proof uneven
    apply unbound
    apply sound proof ⟨true, []⟩ verified rfl sameRoot
    exact free.mono (List.append_subset.mpr ⟨List.Subset.refl _, within⟩)
  · intro even proof verification verified valid sameRoot bothFree
    obtain ⟨exponent, count⟩ := even
    obtain ⟨walkTenant, position, walks⟩ := walks_of_valid verified valid
    exact tree.bindsLeaf_of_walks walks sameRoot count bothFree

theorem verifyMerkleProof_bindsLeaf_iff_three :
    ¬ ∀ proof verification,
      verifyMerkleProof (recordedHost []) proof proof.tenantId none =
        .ok verification →
      verification.valid = true →
      proof.rootDigest = threeLeafBatch.rootDigest →
      CollisionFree
        (batchPreimages (recordedHost []) threeLeafBatch.tenantId
          threeLeafBatch.leafDigests ++
          proofPreimages (recordedHost []) proof) →
      BindsLeaf proof threeLeafBatch := by
  rw [verifyMerkleProof_bindsLeaf_iff createMerkleBatch_threeLeafBatch
    collisionFree_threeLeafBatch]
  intro even
  obtain ⟨exponent, count⟩ := even
  have three : 3 = 2 ^ exponent := count
  cases exponent with
  | zero => omega
  | succ exponent =>
      rw [Nat.pow_succ] at three
      omega

/-- The last of three leaves, claimed at index 3: its hash is its own sibling,
so it may stand on either side. -/
def overrunProof : MerkleProof where
  structureVersion := js "1"
  proofVersion := js "1"
  proofId := js "proof-1"
  batchId := js "batch-1"
  tenantId := js "tenant-a"
  leafDigest := List.replicate 64 99
  leafIndex := .integer 3
  digestAlgorithm := js "SHA-256"
  steps := stepsAlong 3
    [js "2cc87b36cb075d61e52aefc8f62cf3ac6a31cfa1d3fe27ab70c1296c3f94a992",
      js "31129f4ff898a4ca038dd227cfca498a1d747214254c2936bbe1b4fc2ea86b33"]
  rootDigest := threeLeafBatch.rootDigest

theorem verifyMerkleProof_accepts_index_past_end :
    createMerkleBatch (recordedHost [])
      (letterInput [99, 97, 98] (by decide)) = .ok threeLeafBatch ∧
    verifyMerkleProof (recordedHost []) overrunProof overrunProof.tenantId
      none = .ok ⟨true, []⟩ ∧
    overrunProof.rootDigest = threeLeafBatch.rootDigest ∧
    CollisionFree
      (batchPreimages (recordedHost []) threeLeafBatch.tenantId
        threeLeafBatch.leafDigests ++
        proofPreimages (recordedHost []) overrunProof) ∧
    ¬ BindsLeaf overrunProof threeLeafBatch := by
  refine ⟨createMerkleBatch_threeLeafBatch, by decide +kernel, rfl, ?_, ?_⟩
  · apply collisionFree_threeLeafBatch.mono
    rw [List.append_subset]
    constructor
    · exact List.Subset.refl _
    · decide +kernel
  · intro binds
    obtain ⟨index, indexEq, inRange, _⟩ := binds
    have three : (3 : Int) = index := by
      simpa [overrunProof, JsNumber.toInt?] using indexEq
    have few : index < 3 := inRange
    omega

end BidayaxExecutive.Trust
