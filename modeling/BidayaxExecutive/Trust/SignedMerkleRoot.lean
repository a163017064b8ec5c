import BidayaxExecutive.Trust.EnvelopeRoundTrip
import BidayaxExecutive.Trust.MerkleProof

/-!
# Signed Merkle roots

A signed root repeats what it signs: the version, the tenant, the identifier,
the root and the number of leaves of its batch.  It verifies as long as the
lifecycle of its key vouches for it.  Where the key has signed nothing but
roots of batches, a batch that verifies is one of them, and so is the batch of
every leaf that is proved under its root.
-/

namespace BidayaxExecutive.Trust

open BidayaxExecutive.Library.DuplicateLastTree
open BidayaxExecutive.Library.HashTree
open BidayaxExecutive.Runtime JsString

/-! ## Signing and verifying -/

/-- What is signed, the source's `base`. -/
structure MerkleRootBase where
  structureVersion : JsString
  tenantId : JsString
  batchId : JsString
  rootDigest : JsString
  leafCount : Nat
  deriving DecidableEq

def MerkleRootBase.toJs (base : MerkleRootBase) : JsValue :=
  recordValue
    [(js "batchId", .string base.batchId),
      (js "leafCount", .number (.integer base.leafCount)),
      (js "rootDigest", .string base.rootDigest),
      (js "structureVersion", .string base.structureVersion),
      (js "tenantId", .string base.tenantId)]

def MerkleRootBase.signedBy (base : MerkleRootBase)
    (signature : SignatureRecord) : SignedMerkleRoot where
  structureVersion := base.structureVersion
  tenantId := base.tenantId
  batchId := base.batchId
  rootDigest := base.rootDigest
  leafCount := base.leafCount
  signature := signature

def SignedMerkleRoot.base (root : SignedMerkleRoot) : MerkleRootBase where
  structureVersion := root.structureVersion
  tenantId := root.tenantId
  batchId := root.batchId
  rootDigest := root.rootDigest
  leafCount := root.leafCount

def MerkleBatch.base (batch : MerkleBatch) : MerkleRootBase where
  structureVersion := js "1"
  tenantId := batch.tenantId
  batchId := batch.batchId
  rootDigest := batch.rootDigest
  leafCount := batch.leafCount

section Host

variable (host : Host)

def signMerkleBatchRoot (batch : MerkleBatch) (key : TrustKey)
    (provider : SignatureProvider) (signedAt : JsString) :
    Outcome MerkleBatch := do
  if key.purpose ≠ .auditChainSigning then
    throw <| .error <|
      js "Merkle roots require audit_chain_signing purpose"
  let data ← signingBytes host batch.base.toJs
  let signature ← signBytes host data key provider .auditChainSigning
    signedAt batch.tenantId
  .ok { batch with signedRoot := some (batch.base.signedBy signature) }

/-- The body of the `try` of `verifySignedMerkleRoot`. -/
def checkSignedRoot (tenantId : JsString) (signedRoot : SignedMerkleRoot)
    (key : TrustKey) (allowRetiredHistorical : Bool) : Outcome Bool :=
  if signedRoot.signature.keyId ≠ key.keyId ∨
      ¬signedRoot.signature.keyVersion.strictEquals key.keyVersion ∨
      signedRoot.signature.purpose ≠ .auditChainSigning then
    .ok false
  else do
    enforceKeyForVerification host key
      { tenantId := tenantId
        keyVersion := key.keyVersion
        purpose := .auditChainSigning
        signedAt := signedRoot.signature.signedAt
        allowRetiredHistorical := allowRetiredHistorical }
    let data ← signingBytes host signedRoot.base.toJs
    .ok (verifySignatureBytes host data key signedRoot.signature.value)

def verifySignedMerkleRoot (batch : MerkleBatch) (key : TrustKey)
    (allowRetiredHistorical : Bool) : Bool :=
  match batch.signedRoot with
  | none => false
  | some signedRoot =>
      if signedRoot.tenantId ≠ batch.tenantId ∨
          signedRoot.batchId ≠ batch.batchId ∨
          signedRoot.rootDigest ≠ batch.rootDigest ∨
          signedRoot.leafCount ≠ batch.leafCount then
        false
      else
        (checkSignedRoot host batch.tenantId signedRoot key
          allowRetiredHistorical).toOption.getD false

/-! ## What verification accepts -/

/-- The signed root is that of the batch and of the key. -/
structure RootMatches (batch : MerkleBatch) (root : SignedMerkleRoot)
    (key : TrustKey) : Prop where
  stored : batch.signedRoot = some root
  tenantId : root.tenantId = batch.tenantId
  batchId : root.batchId = batch.batchId
  rootDigest : root.rootDigest = batch.rootDigest
  leafCount : root.leafCount = batch.leafCount
  keyId : root.signature.keyId = key.keyId
  keyVersion : root.signature.keyVersion.strictEquals key.keyVersion = true
  purpose : root.signature.purpose = .auditChainSigning

/-- The key still vouches for the signature, which is one of the root. -/
structure RootVouched (root : SignedMerkleRoot) (key : TrustKey)
    (allowRetiredHistorical : Bool) : Prop where
  usable : enforceKeyForVerification host key
    { tenantId := root.tenantId
      keyVersion := key.keyVersion
      purpose := .auditChainSigning
      signedAt := root.signature.signedAt
      allowRetiredHistorical := allowRetiredHistorical } = .ok ()
  signature : ∃ data, signingBytes host root.base.toJs = .ok data ∧
    verifySignatureBytes host data key root.signature.value = true

theorem checkSignedRoot_eq_ok {tenantId : JsString}
    {root : SignedMerkleRoot} {key : TrustKey}
    {allowRetiredHistorical : Bool} (sameTenant : root.tenantId = tenantId) :
    checkSignedRoot host tenantId root key allowRetiredHistorical =
        .ok true ↔
      (root.signature.keyId = key.keyId ∧
          root.signature.keyVersion.strictEquals key.keyVersion = true ∧
          root.signature.purpose = .auditChainSigning) ∧
        RootVouched host root key allowRetiredHistorical := by
  unfold checkSignedRoot
  by_cases foreign : root.signature.keyId ≠ key.keyId ∨
      ¬root.signature.keyVersion.strictEquals key.keyVersion ∨
      root.signature.purpose ≠ .auditChainSigning
  · rw [if_pos foreign]
    constructor
    · intro absurdity
      exact nomatch Except.ok.inj absurdity
    · rintro ⟨⟨keyId, keyVersion, purpose⟩, _⟩
      rcases foreign with other | other | other
      · exact absurd keyId other
      · exact absurd keyVersion other
      · exact absurd purpose other
  · rw [if_neg foreign]
    rw [not_or, not_or, not_not, not_not, not_not] at foreign
    constructor
    · intro accepted
      rcases Outcome.bind_eq_ok.mp accepted with ⟨⟨⟩, usable, accepted⟩
      rcases Outcome.bind_eq_ok.mp accepted with ⟨data, isData, same⟩
      refine ⟨foreign, ?_, data, isData, Except.ok.inj same⟩
      rw [sameTenant]
      exact usable
    · rintro ⟨_, vouched⟩
      rcases vouched.signature with ⟨data, isData, verified⟩
      rw [← sameTenant, vouched.usable, isData, ← verified]
      rfl

theorem verifySignedMerkleRoot_iff {batch : MerkleBatch} {key : TrustKey}
    {allowRetiredHistorical : Bool} :
    verifySignedMerkleRoot host batch key allowRetiredHistorical = true ↔
      ∃ root, RootMatches batch root key ∧
        RootVouched host root key allowRetiredHistorical := by
  unfold verifySignedMerkleRoot
  cases isStored : batch.signedRoot with
  | none =>
      constructor
      · intro absurdity
        exact nomatch absurdity
      · rintro ⟨root, isRoot, _⟩
        rw [isRoot.stored] at isStored
        exact nomatch isStored
  | some root =>
      have body : (checkSignedRoot host batch.tenantId root key
          allowRetiredHistorical).toOption.getD false = true ↔
          checkSignedRoot host batch.tenantId root key
            allowRetiredHistorical = .ok true := by
        cases checkSignedRoot host batch.tenantId root key
          allowRetiredHistorical with
        | error failure => simp [Except.toOption]
        | ok accepted => simp [Except.toOption]
      change (if _ then _ else _) = true ↔ _
      constructor
      · intro verified
        split_ifs at verified with mismatch
        rw [not_or, not_or, not_or, not_not, not_not, not_not, not_not]
          at mismatch
        rcases mismatch with ⟨tenant, batchId, rootDigest, leafCount⟩
        rcases (checkSignedRoot_eq_ok host tenant).mp (body.mp verified) with
          ⟨⟨keyId, keyVersion, purpose⟩, vouched⟩
        exact ⟨root, ⟨isStored, tenant, batchId, rootDigest, leafCount,
          keyId, keyVersion, purpose⟩, vouched⟩
      · rintro ⟨other, isRoot, vouched⟩
        obtain rfl : root = other :=
          Option.some.inj (isStored.symm.trans isRoot.stored)
        rw [if_neg, body]
        · exact (checkSignedRoot_eq_ok host isRoot.tenantId).mpr
            ⟨⟨isRoot.keyId, isRoot.keyVersion, isRoot.purpose⟩, vouched⟩
        · rw [not_or, not_or, not_or, not_not, not_not, not_not, not_not]
          exact ⟨isRoot.tenantId, isRoot.batchId, isRoot.rootDigest,
            isRoot.leafCount⟩

/-! ## What was signed verifies -/

/-- What of a key no lifecycle step changes. -/
structure SameSigner (key later : TrustKey) : Prop where
  keyId : later.keyId = key.keyId
  keyVersion : later.keyVersion = key.keyVersion
  algorithm : later.algorithm = key.algorithm
  publicKey : later.publicKey = key.publicKey

theorem signBytes_record {data : List UInt8} {key : TrustKey}
    {provider : SignatureProvider} {purpose : KeyPurpose}
    {signedAt tenantId : JsString} {record : SignatureRecord}
    (signed : signBytes host data key provider purpose signedAt tenantId =
      .ok record) :
    ∃ timestamp value, canonicalUtcTimestamp host signedAt = .ok timestamp ∧
      record = ⟨key.algorithm, key.keyId, key.keyVersion, purpose, timestamp,
        value⟩ := by
  rw [signBytes] at signed
  rcases Outcome.bind_eq_ok.mp signed with ⟨⟨⟩, _, signed⟩
  rcases Outcome.bind_eq_ok.mp signed with ⟨entry, _, signed⟩
  rcases Outcome.bind_eq_ok.mp signed with ⟨signature, _, signed⟩
  rcases Outcome.bind_eq_ok.mp signed with ⟨timestamp, canonical, signed⟩
  exact ⟨timestamp, _, canonical, (Except.ok.inj signed).symm⟩

/-- The signature of what a provider signs verifies under its public key. -/
theorem verifySignatureBytes_of_signed {data : List UInt8}
    {key later : TrustKey} {provider : SignatureProvider}
    {purpose : KeyPurpose} {signedAt tenantId : JsString}
    {record : SignatureRecord}
    (signs : Signs host key.publicKey provider)
    (same : SameSigner key later)
    (signed : signBytes host data key provider purpose signedAt tenantId =
      .ok record) :
    verifySignatureBytes host data later record.value = true := by
  rcases signBytes_eq_ok signed with
    ⟨_, algorithm, request, signature, rfl, provided, value⟩
  rcases signs request signature provided with ⟨length, accepts⟩
  have isText := isText_encode (List.ne_nil_of_length_eq_add_one length)
  rw [verifySignatureBytes, same.algorithm, algorithm, value, isText,
    Base64Url.decode_encode, same.publicKey, accepts]
  rfl

theorem strictEquals_of_signing {key : TrustKey} {tenantId : JsString}
    {purpose : KeyPurpose} {signedAt : JsString}
    (enforced : enforceKeyForSigning host key tenantId purpose signedAt =
      .ok ()) : key.keyVersion.strictEquals key.keyVersion = true := by
  have valid := ((enforceKeyForSigning_eq_ok host).mp enforced).1
  rcases JsNumber.toInt?_of_isSafeInteger
    (isSafeInteger_of_validateTrustKey host valid) with ⟨version, integral⟩
  rw [JsNumber.strictEquals_of_toInt? integral integral, beq_self_eq_true]

/-- Signed bytes tell bases apart up to normalization. -/
structure SameBase (left right : MerkleRootBase) : Prop where
  structureVersion : normalizeString host left.structureVersion =
    normalizeString host right.structureVersion
  tenantId :
    normalizeString host left.tenantId = normalizeString host right.tenantId
  batchId :
    normalizeString host left.batchId = normalizeString host right.batchId
  rootDigest : normalizeString host left.rootDigest =
    normalizeString host right.rootDigest
  leafCount : left.leafCount = right.leafCount

theorem canonical_base {base : MerkleRootBase} {form : Json}
    (canonical : Canonical host base.toJs form) :
    ∃ batchId rootDigest structureVersion tenantId,
      normalizeString host base.batchId = .ok batchId ∧
        normalizeString host base.rootDigest = .ok rootDigest ∧
        normalizeString host base.structureVersion = .ok structureVersion ∧
        normalizeString host base.tenantId = .ok tenantId ∧
        form = .object
          [(js "batchId", .string batchId),
            (js "leafCount", .number (.integer base.leafCount)),
            (js "rootDigest", .string rootDigest),
            (js "structureVersion", .string structureVersion),
            (js "tenantId", .string tenantId)] := by
  rw [MerkleRootBase.toJs, canonical_record_iff host (by
    simp only [List.map_cons, List.map_nil]
    decide +kernel)] at canonical
  simp only [canonicalFields_cons, canonicalFields_nil, Canonical]
    at canonical
  rcases canonical with ⟨_, ⟨_, _, ⟨batchId, isBatchId, rfl⟩, ⟨_, _,
    ⟨count, _, isCount, rfl⟩, ⟨_, _, ⟨rootDigest, isRoot, rfl⟩, ⟨_, _,
    ⟨version, isVersion, rfl⟩, ⟨_, _, ⟨tenantId, isTenant, rfl⟩, rfl, rfl⟩,
    rfl⟩, rfl⟩, rfl⟩, rfl⟩, shape⟩
  rw [← Option.some.inj isCount] at shape
  exact ⟨batchId, rootDigest, version, tenantId, isBatchId, isRoot,
    isVersion, isTenant, shape⟩

theorem sameBase_of_signingBytes {left right : MerkleRootBase}
    {data : List UInt8} (leftData : signingBytes host left.toJs = .ok data)
    (rightData : signingBytes host right.toJs = .ok data) :
    SameBase host left right := by
  have canonicalOf : ∀ {base : MerkleRootBase},
      signingBytes host base.toJs = .ok data →
      ∃ form, Canonical host base.toJs form ∧ data = canonicalBytes form := by
    intro base isData
    rcases Outcome.bind_eq_ok.mp isData with ⟨canonical, isCanonical, same⟩
    rcases (canonicalize_default_eq_ok host
      (show isBlank (js "trust-signature-preimage-1") = false by
        decide)).mp isCanonical with ⟨form, isForm, _, rfl⟩
    exact ⟨form, isForm, (Except.ok.inj same).symm⟩
  rcases canonicalOf leftData with ⟨leftForm, leftCanonical, leftBytes⟩
  rcases canonicalOf rightData with ⟨rightForm, rightCanonical, rightBytes⟩
  have sameForm : leftForm = rightForm := canonicalBytes_inj
    (leftCanonical.normal host).stored (rightCanonical.normal host).stored
    (leftBytes.symm.trans rightBytes)
  rcases canonical_base host leftCanonical with
    ⟨_, _, _, _, leftBatch, leftRoot, leftVersion, leftTenant, leftShape⟩
  rcases canonical_base host rightCanonical with
    ⟨_, _, _, _, rightBatch, rightRoot, rightVersion, rightTenant,
      rightShape⟩
  rw [leftShape, rightShape] at sameForm
  simp only [Json.object.injEq, List.cons.injEq, Prod.mk.injEq,
    Json.string.injEq, Json.number.injEq, JsNumber.integer.injEq,
    true_and, and_true, Nat.cast_inj] at sameForm
  rcases sameForm with ⟨rfl, sameCount, rfl, rfl, rfl⟩
  exact
    { structureVersion := leftVersion.trans rightVersion.symm
      tenantId := leftTenant.trans rightTenant.symm
      batchId := leftBatch.trans rightBatch.symm
      rootDigest := leftRoot.trans rightRoot.symm
      leafCount := sameCount }

theorem isHexDigest_climb {tenant node : JsString} {index : Nat}
    {siblings : List JsString} (hex : isHexDigest node = true) :
    isHexDigest (climb (nodeDigestOf tenant) node index siblings).1 =
      true := by
  induction siblings generalizing node index with
  | nil =>
      exact hex
  | cons sibling rest inductionHypothesis =>
      exact inductionHypothesis (isHexDigest_nodeDigestOf tenant _ _)

theorem Walks.rootHex {proof : MerkleProof} {tenant : JsString}
    {position : Nat} (walks : Walks host proof tenant position) :
    isHexDigest proof.rootDigest = true := by
  have reached : (climb (nodeDigestOf tenant)
      (leafDigestOf tenant proof.leafDigest) position
      (proof.steps.map (·.siblingDigest))).1 = proof.rootDigest :=
    congrArg Prod.fst walks.reached
  rw [← reached]
  exact isHexDigest_climb (isHexDigest_leafDigestOf tenant _)

/-- Of the signatures on the presented roots, the key has made none but those
of the roots of the issued batches. -/
def SignedOnly (key : TrustKey)
    (issued : List (MerkleBatchInput × MerkleBatch))
    (presented : List MerkleBatch) : Prop :=
  ∀ shown ∈ presented, ∀ root ∈ shown.signedRoot, ∀ data,
    signingBytes host root.base.toJs = .ok data →
    host.ed25519Verify key.publicKey data
        (Base64Url.decode root.signature.value) = some true →
      ∃ issue ∈ issued, signingBytes host issue.2.base.toJs = .ok data

/-- Whoever accepts a presented root of a key that signed issued batches only
has before him an issued batch: a batch built under this root has its leaves,
and every proof under the root, of whatever index and with or without the batch
at hand, is about one of its leaves and its tenant. -/
theorem verifySignedMerkleRoot_binds {key : TrustKey}
    {issued : List (MerkleBatchInput × MerkleBatch)}
    {presented : List MerkleBatch} {shown : MerkleBatch}
    {allowRetiredHistorical : Bool}
    (created : ∀ issue ∈ issued,
      createMerkleBatch host issue.1 = .ok issue.2)
    (signedOnly : SignedOnly host key issued presented)
    (isPresented : shown ∈ presented)
    (verified : verifySignedMerkleRoot host shown key
      allowRetiredHistorical = true) :
    ∃ issue ∈ issued,
      shown.leafCount = issue.2.leafCount ∧
      normalizeString host shown.tenantId =
        normalizeString host issue.2.tenantId ∧
      normalizeString host shown.batchId =
        normalizeString host issue.2.batchId ∧
      (∀ input batch, createMerkleBatch host input = .ok batch →
        batch.rootDigest = shown.rootDigest →
        CollisionFree
          (batchPreimages host batch.tenantId batch.leafDigests ++
            batchPreimages host issue.2.tenantId issue.2.leafDigests) →
        batch.leafDigests = issue.2.leafDigests) ∧
      ∀ proof tenantId known verification,
        verifyMerkleProof host proof tenantId known = .ok verification →
        verification.valid = true →
        proof.rootDigest = shown.rootDigest →
        CollisionFree
          (batchPreimages host issue.2.tenantId issue.2.leafDigests ++
            proofPreimages host proof) →
        proof.leafDigest ∈ issue.2.leafDigests ∧
          normalizeString host proof.tenantId =
            normalizeString host issue.2.tenantId := by
  rcases (verifySignedMerkleRoot_iff host).mp verified with
    ⟨root, isRoot, vouched⟩
  rcases vouched.signature with ⟨data, isData, accepted⟩
  rw [verifySignatureBytes, Bool.and_eq_true] at accepted
  have signature : host.ed25519Verify key.publicKey data
      (Base64Url.decode root.signature.value) = some true := by
    have answered := accepted.2
    cases answer : host.ed25519Verify key.publicKey data
        (Base64Url.decode root.signature.value) with
    | none =>
        rw [answer] at answered
        exact absurd answered Bool.false_ne_true
    | some verdict =>
        rw [answer] at answered
        rw [← answered]
        rfl
  rcases signedOnly shown isPresented root isRoot.stored data isData
    signature with ⟨issue, isIssue, issueData⟩
  have same := sameBase_of_signingBytes host isData issueData
  rcases batchTree_of_created (created issue isIssue) with
    ⟨tenant, depth, tree⟩
  have rootOf : ∀ digest, isHexDigest digest = true →
      digest = shown.rootDigest → digest = issue.2.rootDigest := by
    intro digest hex isShown
    have sameDigest : normalizeString host root.rootDigest =
        normalizeString host issue.2.rootDigest :=
      same.rootDigest
    rw [isRoot.rootDigest, ← isShown, normalText_of_isHexDigest host hex,
      normalText_of_isHexDigest host tree.rootHex] at sameDigest
    exact Except.ok.inj sameDigest
  refine ⟨issue, isIssue, ?_, ?_, ?_, ?_, ?_⟩
  · exact isRoot.leafCount.symm.trans same.leafCount
  · rw [← isRoot.tenantId]
    exact same.tenantId
  · rw [← isRoot.batchId]
    exact same.batchId
  · intro input batch isCreated isShown free
    rcases batchTree_of_created isCreated with ⟨_, _, ownTree⟩
    exact ((rootDigest_commits host isCreated (created issue isIssue)).2 free
      (rootOf _ ownTree.rootHex isShown)).1
  · intro proof tenantId known verification checked valid isShown free
    rcases walks_of_valid checked valid with ⟨walkTenant, position, walks⟩
    rcases tree.mem_of_walks walks (rootOf _ walks.rootHex isShown) free with
      ⟨rfl, member⟩
    refine ⟨member, ?_⟩
    rw [walks.normalized, tree.sameTenant, tree.normalized]

end Host

/-! ## The root of three leaves -/

def auditKey : TrustKey :=
  { settingsKey with
    keyId := js "key-audit_chain_signing"
    tenantId := js "tenant-a"
    publicKey :=
      js "MCowBQYDK2VwAyEABkNMH3ARhNnZalwjB8gXICYAfkDBU7iQQEOP-5l0weo"
    providerKeyReference := js "test-ref-audit_chain_signing"
    scopeId := js "tenant-a"
    purpose := .auditChainSigning }

/-- What the key signs. -/
def rootData : List UInt8 :=
  (signingBytes (recordedHost []) threeLeafBatch.base.toJs).toOption.getD []

/-- The Ed25519 signature of the root under the key. -/
def rootSignature : List UInt8 :=
  Base64Url.decode <|
    js "lPhgG69FKmCXcfME5a-oQlOnHE87lDYXqd1D8YX2wjQWXy738NrJn1dk_DF8vVOK-r2" ++
      js "6PvD9im26cbc0lxW9BA"

def rootHost : Host :=
  recordedHost [(auditKey.publicKey, rootData, rootSignature)]

/-- Signs the root and nothing else. -/
def rootProvider : SignatureProvider := fun request =>
  if request.data = rootData then .ok rootSignature else .error .rejected

theorem rootProvider_signs :
    Signs rootHost auditKey.publicKey rootProvider := by
  intro request signature provided
  rw [rootProvider] at provided
  by_cases sameData : request.data = rootData
  · rw [if_pos sameData, Except.ok.injEq] at provided
    rw [← provided, sameData]
    refine ⟨by decide, ?_⟩
    simp [rootHost, recordedHost]
  · rw [if_neg sameData] at provided
    cases provided

def rootSigning : Outcome MerkleBatch :=
  signMerkleBatchRoot rootHost threeLeafBatch auditKey rootProvider
    (js "2026-07-17T12:00:00Z")

/-- The signed root verifies. -/
theorem exists_rootSigning :
    ∃ result, rootSigning = .ok result ∧
      verifySignedMerkleRoot rootHost result auditKey false = true := by
  have verifies : (rootSigning.toOption.any fun result =>
      verifySignedMerkleRoot rootHost result auditKey false) = true := by
    decide +kernel
  cases signed : rootSigning with
  | error failure =>
      rw [signed] at verifies
      exact nomatch verifies
  | ok result =>
      rw [signed] at verifies
      exact ⟨result, rfl, verifies⟩

theorem signedOnly_three (presented : List MerkleBatch) :
    SignedOnly rootHost auditKey
      [(letterInput [99, 97, 98] (by decide), threeLeafBatch)]
      presented := by
  intro shown _ root _ data _ accepted
  have sameData : data = rootData := by
    simp only [rootHost, recordedHost, Option.some.injEq,
      List.contains_iff_mem, List.mem_singleton, Prod.mk.injEq] at accepted
    exact accepted.2.1
  have signable : (signingBytes rootHost threeLeafBatch.base.toJs).toOption =
      some rootData := by
    decide +kernel
  refine ⟨_, List.mem_cons_self, ?_⟩
  rw [sameData]
  exact Library.Guards.toOption_eq_some.mp signable

/-- The same root for a batch of four leaves. -/
def relabelledBatch (batch : MerkleBatch) : MerkleBatch :=
  { batch with leafCount := 4 }

theorem verifySignedMerkleRoot_binds_three :
    ∃ shown, rootSigning = .ok shown ∧ shown.leafCount = 3 ∧
      verifySignedMerkleRoot rootHost (relabelledBatch shown) auditKey
        false = false ∧
      ∀ proof tenantId known verification,
        verifyMerkleProof rootHost proof tenantId known = .ok verification →
        verification.valid = true →
        proof.rootDigest = shown.rootDigest →
        CollisionFree
          (batchPreimages rootHost threeLeafBatch.tenantId
              threeLeafBatch.leafDigests ++
            proofPreimages rootHost proof) →
        proof.leafDigest ∈ threeLeafBatch.leafDigests := by
  rcases exists_rootSigning with ⟨shown, signed, verified⟩
  have created : ∀ issue ∈
      [(letterInput [99, 97, 98] (by decide), threeLeafBatch)],
      createMerkleBatch rootHost issue.1 = .ok issue.2 := by
    intro issue member
    rw [List.mem_singleton.mp member]
    decide +kernel
  have signedOnly := signedOnly_three [relabelledBatch shown, shown]
  rcases verifySignedMerkleRoot_binds rootHost created signedOnly
    (List.mem_cons_of_mem _ List.mem_cons_self) verified with
    ⟨issue, member, sameCount, _, _, _, binds⟩
  rw [List.mem_singleton.mp member] at sameCount binds
  refine ⟨shown, signed, sameCount, ?_, fun proof tenantId known verification
    checked valid isShown free => (binds proof tenantId known verification
      checked valid isShown free).1⟩
  refine Bool.eq_false_of_not_eq_true fun accepted => ?_
  rcases verifySignedMerkleRoot_binds rootHost created signedOnly
    List.mem_cons_self accepted with ⟨other, isOther, otherCount, _⟩
  rw [List.mem_singleton.mp isOther] at otherCount
  have fourIsThree : (4 : Nat) = 3 := otherCount
  exact absurd fourIsThree (by decide)

end BidayaxExecutive.Trust
