import BidayaxExecutive.Trust.Hashing
import BidayaxExecutive.Trust.Types

/-!
# Merkle batches

A batch sorts its leaf digests, rejects duplicates and hashes them level by
level; the last node of an odd level is paired with itself.  A proof lists the
sibling of every node on the way from a leaf to the root.  Every hash may
throw, because the tenant identifier goes through canonicalization each time.
-/

namespace BidayaxExecutive.Trust

open BidayaxExecutive.Runtime JsString

/-- A JavaScript array has fewer than `2 ^ 32` elements. -/
structure MerkleBatchInput where
  batchId : JsString
  createdAt : JsString
  leafDigests : List JsString
  tenantId : JsString
  arrayLength : leafDigests.length < 2 ^ 32

section Host

variable (host : Host)

def hashLeaf (tenantId leafDigest : JsString) : Outcome JsString :=
  internalDigest host (js "trust-merkle-leaf/v1") (js "trust-merkle-leaf-1") <|
    recordValue
      [(js "leafDigest", .string leafDigest), (js "tenantId", .string tenantId)]

def hashNode (tenantId left right : JsString) : Outcome JsString :=
  internalDigest host (js "trust-merkle-node/v1") (js "trust-merkle-node-1") <|
    recordValue
      [(js "left", .string left), (js "right", .string right),
        (js "tenantId", .string tenantId)]

/-- Some element equals the one before it. -/
def hasAdjacentEqual : List JsString → Bool
  | [] => false
  | [_] => false
  | first :: second :: rest =>
      second == first || hasAdjacentEqual (second :: rest)

def validateLeaves (leaves : List JsString) : Outcome (List JsString) := do
  if leaves.isEmpty then
    throw <| .error <| js "Merkle batches reject empty input"
  if leaves.any fun leaf => !isHexDigest leaf then
    throw <| .error <| js "Invalid Merkle leaf digest"
  let sorted := sortOn id leaves
  if hasAdjacentEqual sorted then
    throw <| .error <| js "Duplicate Merkle leaves are rejected"
  .ok sorted

def hashLeaves (tenantId : JsString) :
    List JsString → Outcome (List JsString)
  | [] => .ok []
  | leaf :: rest => do
      let hashed ← hashLeaf host tenantId leaf
      let others ← hashLeaves tenantId rest
      .ok (hashed :: others)

/-- The inner loop of `levelsFor`: one level from the level below. -/
def nextLevel (tenantId : JsString) : List JsString → Outcome (List JsString)
  | [] => .ok []
  | [left] => do
      let parent ← hashNode host tenantId left left
      .ok [parent]
  | left :: right :: rest => do
      let parent ← hashNode host tenantId left right
      let others ← nextLevel tenantId rest
      .ok (parent :: others)

/-- The outer loop of `levelsFor`.  A level is shorter than the one below it,
so the length of the first level bounds the turns of the loop. -/
def levelsFrom (tenantId : JsString) :
    Nat → List JsString → Outcome (List (List JsString))
  | 0, current => .ok [current]
  | turns + 1, current =>
      if current.length ≤ 1 then .ok [current]
      else do
        let next ← nextLevel host tenantId current
        let others ← levelsFrom tenantId turns next
        .ok (current :: others)

def levelsFor (tenantId : JsString) (leaves : List JsString) :
    Outcome (List (List JsString)) := do
  let first ← hashLeaves host tenantId leaves
  levelsFrom host tenantId first.length first

def createMerkleBatch (input : MerkleBatchInput) : Outcome MerkleBatch := do
  let leaves ← validateLeaves input.leafDigests
  let levels ← levelsFor host input.tenantId leaves
  match levels.getLast?.bind List.head? with
  | none | some [] =>
      throw <| .error <| js "Merkle root construction failed"
  | some rootDigest =>
      let createdAt ← canonicalUtcTimestamp host input.createdAt
      .ok
        { structureVersion := js "1"
          batchId := input.batchId
          tenantId := input.tenantId
          leafDigests := leaves
          leafCount := leaves.length
          rootDigest := rootDigest
          digestAlgorithm := js "SHA-256"
          duplicatePolicy := js "reject"
          oddNodePolicy := js "duplicate_last"
          signedRoot := none
          createdAt := createdAt }

/-- The loop of `createMerkleProof` over all levels but the last. -/
def proofSteps : List (List JsString) → Nat → List MerkleProofStep
  | [], _ => []
  | [_], _ => []
  | level :: next :: rest, index =>
      let right := index % 2 == 1
      let siblingIndex := if right then index - 1 else index + 1
      { position := if right then .left else .right
        siblingDigest :=
          (level[siblingIndex]?).getD ((level[index]?).getD []) } ::
        proofSteps (next :: rest) (index / 2)

def createMerkleProof (batch : MerkleBatch) (leafDigest proofId : JsString) :
    Outcome MerkleProof :=
  match batch.leafDigests.findIdx? (· == leafDigest) with
  | none => .error <| .error <| js "Leaf is not in the Merkle batch"
  | some leafIndex => do
      let levels ← levelsFor host batch.tenantId batch.leafDigests
      .ok
        { structureVersion := js "1"
          proofVersion := js "1"
          proofId := proofId
          batchId := batch.batchId
          tenantId := batch.tenantId
          leafDigest := leafDigest
          leafIndex := .integer leafIndex
          digestAlgorithm := batch.digestAlgorithm
          steps := proofSteps levels leafIndex
          rootDigest := batch.rootDigest }

inductive MerkleProofReasonCode where
  | tenantMismatch
  | batchMismatch
  | malformedProof
  | rootMismatch
  deriving DecidableEq, Repr

structure MerkleProofVerification where
  valid : Bool
  reasonCodes : List MerkleProofReasonCode
  deriving DecidableEq, Repr

/-- Where the loop over the steps ends, and whether it broke off. -/
structure ProofWalk where
  current : JsString
  index : JsNumber
  malformed : Bool
  deriving DecidableEq

def walkSteps (tenantId : JsString) :
    List MerkleProofStep → JsString → JsNumber → Outcome ProofWalk
  | [], current, index => .ok ⟨current, index, false⟩
  | step :: rest, current, index =>
      let expected :=
        if index.isOddRemainder then StepPosition.left else StepPosition.right
      if !isHexDigest step.siblingDigest || step.position != expected then
        .ok ⟨current, index, true⟩
      else do
        let parent ←
          if step.position = .left then
            hashNode host tenantId step.siblingDigest current
          else hashNode host tenantId current step.siblingDigest
        walkSteps tenantId rest parent index.floorHalf

/-- `array[index]` for a number used as a property key. -/
def elementAt? (elements : List JsString) (index : JsNumber) :
    Option JsString :=
  match index.toInt? with
  | some (.ofNat position) => elements[position]?
  | _ => none

/-- The checks of `verifyMerkleProof` before its loop. -/
def proofFieldReasons (proof : MerkleProof) (tenantId : JsString)
    (batch : Option MerkleBatch) : List MerkleProofReasonCode :=
  (if proof.tenantId ≠ tenantId then [.tenantMismatch] else []) ++
    (match batch with
    | none => []
    | some batch =>
        if proof.batchId ≠ batch.batchId ∨
            proof.rootDigest ≠ batch.rootDigest ∨
            some proof.leafDigest ≠
              elementAt? batch.leafDigests proof.leafIndex then
          [.batchMismatch]
        else []) ++
    if !isHexDigest proof.leafDigest || !isHexDigest proof.rootDigest ||
        !proof.leafIndex.isSafeInteger || proof.leafIndex.isNegative then
      [.malformedProof]
    else []

/-- The digest the loop of `verifyMerkleProof` starts from. -/
def proofStart (proof : MerkleProof) : Outcome JsString :=
  if isHexDigest proof.leafDigest then
    hashLeaf host proof.tenantId proof.leafDigest
  else .ok []

def verifyMerkleProof (proof : MerkleProof) (tenantId : JsString)
    (batch : Option MerkleBatch) : Outcome MerkleProofVerification := do
  let start ← proofStart host proof
  let walk ← walkSteps host proof.tenantId proof.steps start proof.leafIndex
  let reasons :=
    proofFieldReasons proof tenantId batch ++
      (if walk.malformed then [.malformedProof] else []) ++
      if !walk.index.strictEquals (.integer 0) ||
          walk.current != proof.rootDigest then
        [.rootMismatch]
      else []
  let unique := reasons.eraseDups
  .ok ⟨unique.isEmpty, unique⟩

end Host

end BidayaxExecutive.Trust
