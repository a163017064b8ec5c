import BidayaxExecutive.Trust.Validation

/-!
# The audit chain

An entry seals an event together with the digest of the entry before it.
`verifyAuditChain` walks the entries once and collects reason codes;
`appendAuditChainEntry` verifies the chain it is given and builds the next
entry.  Both recompute digests and throw what canonicalization throws.
-/

namespace BidayaxExecutive.Trust

open BidayaxExecutive.Runtime JsString

inductive AuditChainReasonCode where
  | valid
  | chainGap
  | chainFork
  | eventReplay
  | eventDigestMismatch
  | entryDigestMismatch
  | tenantMismatch
  | streamMismatch
  | invalidGenesis
  | invalidCheckpoint
  | nonDeterministicOrder
  | chainTooLarge
  | entryTooLarge
  | unsupportedAlgorithm
  | headMismatch
  deriving DecidableEq, Repr

def AuditChainReasonCode.text : AuditChainReasonCode → JsString
  | .valid => js "valid"
  | .chainGap => js "chain_gap"
  | .chainFork => js "chain_fork"
  | .eventReplay => js "event_replay"
  | .eventDigestMismatch => js "event_digest_mismatch"
  | .entryDigestMismatch => js "entry_digest_mismatch"
  | .tenantMismatch => js "tenant_mismatch"
  | .streamMismatch => js "stream_mismatch"
  | .invalidGenesis => js "invalid_genesis"
  | .invalidCheckpoint => js "invalid_checkpoint"
  | .nonDeterministicOrder => js "non_deterministic_order"
  | .chainTooLarge => js "chain_too_large"
  | .entryTooLarge => js "entry_too_large"
  | .unsupportedAlgorithm => js "unsupported_algorithm"
  | .headMismatch => js "head_mismatch"

structure AuditChainVerification where
  valid : Bool
  reasonCodes : List AuditChainReasonCode
  lastEntryId : Option JsString
  verifiedFromCheckpoint : Bool
  deriving DecidableEq

/-! ## Limits and options -/

def maxEntries : JsNumber := .integer 1000

def maxEntrySerializedBytes : JsNumber := .integer 16384

def maxSerializedBytes : JsNumber := .integer 1048576

structure VerifyAuditChainOptions where
  expectedTenantId : Option JsString := none
  expectedStreamId : Option JsString := none
  trustedCheckpoint : Option AuditCheckpoint := none
  expectedHeadDigest : Option JsString := none
  maxEntries : JsNumber := Trust.maxEntries
  maxEntrySerializedBytes : JsNumber := Trust.maxEntrySerializedBytes
  maxSerializedBytes : JsNumber := Trust.maxSerializedBytes

/-- JSON-like data always serializes, so the source's `null` does not occur. -/
def serializedBytes (value : Json) : Nat :=
  (utf8 (jsonStringify value)).length

/-! ## Digests -/

section Host

variable (host : Host)

def eventPreimage (event : TrustEvent) : Outcome (List UInt8) :=
  internalPreimage host (js "trust-audit-event/v1") (js "trust-event-1")
    event.toJson.toJs

def eventDigest (event : TrustEvent) : Outcome JsString :=
  internalDigest host (js "trust-audit-event/v1") (js "trust-event-1")
    event.toJson.toJs

/-- The fields of an entry that its digest covers. -/
def entryBase (entry : AuditChainEntry) : List (JsString × JsValue) :=
  [(js "appendedAt", .string entry.appendedAt),
    (js "checkpoint", (nullableCheckpoint entry.checkpoint).toJs),
    (js "event", entry.event.toJson.toJs),
    (js "eventDigest", .string entry.eventDigest),
    (js "previousDigest", (nullableText entry.previousDigest).toJs),
    (js "sequence", .number entry.sequence),
    (js "streamId", .string entry.streamId),
    (js "structureVersion", .string entry.structureVersion),
    (js "tenantId", .string entry.tenantId)]

def entryPreimage (entry : AuditChainEntry) : Outcome (List UInt8) :=
  internalPreimage host (js "trust-audit-entry/v1") (js "trust-audit-entry-1")
    (recordValue (entryBase entry))

def entryDigest (entry : AuditChainEntry) : Outcome JsString :=
  internalDigest host (js "trust-audit-entry/v1") (js "trust-audit-entry-1")
    (recordValue (entryBase entry))

/-! ## Verification -/

/-- What the loop of `verifyAuditChain` carries from entry to entry.  The map
from sequences is only asked for its keys. -/
structure ChainState where
  reasons : List AuditChainReasonCode
  sequences : List JsNumber
  previousDigests : List (JsString × JsString)
  eventIds : List JsString
  idempotencyKeys : List JsString
  eventDigests : List JsString
  previous : Option AuditChainEntry
  lastEntryDigest : Option JsString

def ChainState.initial (reasons : List AuditChainReasonCode) : ChainState :=
  ⟨reasons, [], [], [], [], [], none, none⟩

/-- Keys of a `Map` are compared like `===`, except that `NaN` is itself. -/
def sameKey (left right : JsNumber) : Bool :=
  left.strictEquals right || (left == .nan && right == .nan)

/-- The first entry continues the trusted checkpoint. -/
def continuesCheckpoint (checkpoint : AuditCheckpoint)
    (entry : AuditChainEntry) : Bool :=
  match entry.checkpoint with
  | none => false
  | some own =>
      own.trustedSequence.strictEquals checkpoint.trustedSequence &&
        own.trustedDigest == checkpoint.trustedDigest &&
        entry.sequence.strictEquals checkpoint.trustedSequence.increment &&
        entry.previousDigest == some checkpoint.trustedDigest

def isGenesis (entry : AuditChainEntry) : Bool :=
  entry.sequence.strictEquals (.integer 1) && entry.previousDigest == none &&
    entry.checkpoint == none

def follows (previous entry : AuditChainEntry) : Bool :=
  entry.sequence.strictEquals previous.sequence.increment &&
    entry.previousDigest == some previous.entryDigest

/-- `if (failed) reasons.push(code)`. -/
def push (failed : Bool) (code : AuditChainReasonCode) :
    List AuditChainReasonCode :=
  if failed then [code] else []

/-- How an entry must continue what is before it. -/
def positionReasons (checkpoint : Option AuditCheckpoint)
    (previous : Option AuditChainEntry) (entry : AuditChainEntry) :
    List AuditChainReasonCode :=
  match previous, checkpoint with
  | none, some checkpoint =>
      push (!continuesCheckpoint checkpoint entry) .invalidCheckpoint
  | none, none => push (!isGenesis entry) .invalidGenesis
  | some previous, _ => push (!follows previous entry) .chainGap

/-- Another entry is known to follow the same digest. -/
def forks (state : ChainState) (entry : AuditChainEntry) : Bool :=
  match entry.previousDigest with
  | none => false
  | some digest =>
      (state.previousDigests.lookup digest).any (· != entry.entryDigest)

def replays (state : ChainState) (entry : AuditChainEntry) : Bool :=
  state.eventIds.contains entry.event.eventId ||
    state.idempotencyKeys.contains entry.event.idempotencyKey ||
    state.eventDigests.contains entry.eventDigest

/-- The checks of one turn of the loop, in the order of the source. -/
def entryReasons (options : VerifyAuditChainOptions) (state : ChainState)
    (entry : AuditChainEntry) (expectedEvent expectedEntry : JsString) :
    List AuditChainReasonCode :=
  List.flatten
    [push (exceeds (serializedBytes entry.toJson)
        options.maxEntrySerializedBytes) .entryTooLarge,
      push (entry.digestAlgorithm.any fun algorithm =>
        !algorithm.strictEquals (.string (js "SHA-256")))
        .unsupportedAlgorithm,
      push (options.expectedTenantId.any (entry.tenantId != ·))
        .tenantMismatch,
      push (options.expectedStreamId.any (entry.streamId != ·))
        .streamMismatch,
      push (state.previous.any fun previous =>
        entry.sequence.lessOrEqual previous.sequence) .nonDeterministicOrder,
      push (state.sequences.any (sameKey entry.sequence)) .chainFork,
      push (forks state entry) .chainFork,
      push (replays state entry) .eventReplay,
      positionReasons options.trustedCheckpoint state.previous entry,
      push (state.previous.any fun previous =>
        entry.tenantId != previous.tenantId) .tenantMismatch,
      push (state.previous.any fun previous =>
        entry.streamId != previous.streamId) .streamMismatch,
      push (entry.event.tenantId != entry.tenantId) .tenantMismatch,
      push (entry.event.streamId != entry.streamId) .streamMismatch,
      push (expectedEvent != entry.eventDigest) .eventDigestMismatch,
      push (expectedEntry != entry.entryDigest ||
        entry.entryId != js "audit_" ++ expectedEntry) .entryDigestMismatch]

/-- The updates of one turn of the loop. -/
def ChainState.advance (state : ChainState) (entry : AuditChainEntry)
    (reasons : List AuditChainReasonCode) : ChainState :=
  { reasons := state.reasons ++ reasons
    sequences := entry.sequence :: state.sequences
    previousDigests :=
      match entry.previousDigest with
      | none => state.previousDigests
      | some digest => (digest, entry.entryDigest) :: state.previousDigests
    eventIds := entry.event.eventId :: state.eventIds
    idempotencyKeys := entry.event.idempotencyKey :: state.idempotencyKeys
    eventDigests := entry.eventDigest :: state.eventDigests
    previous := some entry
    lastEntryDigest := some entry.entryDigest }

def verifyEntry (options : VerifyAuditChainOptions) (state : ChainState)
    (entry : AuditChainEntry) : Outcome ChainState := do
  let expectedEvent ← eventDigest host entry.event
  let expectedEntry ← entryDigest host entry
  .ok <| state.advance entry <|
    entryReasons options state entry expectedEvent expectedEntry

/-- The checks before the loop. -/
def sizeReasons (options : VerifyAuditChainOptions)
    (entries : List AuditChainEntry) : List AuditChainReasonCode :=
  push (exceeds entries.length options.maxEntries ||
    exceeds (serializedBytes (.array (entries.map (·.toJson))))
      options.maxSerializedBytes) .chainTooLarge

/-- The check after the loop. -/
def headReasons (options : VerifyAuditChainOptions) (state : ChainState) :
    List AuditChainReasonCode :=
  push (options.expectedHeadDigest.any fun digest =>
    state.lastEntryDigest != some digest) .headMismatch

def verifyAuditChain (entries : List AuditChainEntry)
    (options : VerifyAuditChainOptions) : Outcome AuditChainVerification := do
  let state ← entries.foldlM (verifyEntry host options)
    (.initial (sizeReasons options entries))
  let unique := (state.reasons ++ headReasons options state).eraseDups
  .ok
    { valid := unique.isEmpty
      reasonCodes := if unique.isEmpty then [.valid] else unique
      lastEntryId := entries.getLast?.map (·.entryId)
      verifiedFromCheckpoint := options.trustedCheckpoint.isSome }

/-! ## Appending -/

structure AppendInput where
  appendedAt : JsString
  chain : List AuditChainEntry
  streamId : JsString
  event : TrustEvent
  tenantId : JsString
  startingCheckpoint : Option AuditCheckpoint

/-- The options under which `appendAuditChainEntry` verifies its chain. -/
def AppendInput.options (input : AppendInput) : VerifyAuditChainOptions where
  expectedTenantId := some input.tenantId
  expectedStreamId := some input.streamId
  trustedCheckpoint := input.startingCheckpoint

/-- The entry as `base` has it, with the given digests. -/
def AppendInput.entry (input : AppendInput)
    (appendedAt eventDigest entryDigest : JsString) : AuditChainEntry :=
  let checkpoint :=
    if input.chain.isEmpty then input.startingCheckpoint else none
  { structureVersion := js "1"
    entryId := js "audit_" ++ entryDigest
    tenantId := input.tenantId
    streamId := input.streamId
    sequence :=
      match input.chain.getLast? with
      | some previous => previous.sequence.increment
      | none =>
          match checkpoint with
          | some checkpoint => checkpoint.trustedSequence.increment
          | none => .integer 1
    previousDigest :=
      match input.chain.getLast? with
      | some previous => some previous.entryDigest
      | none => checkpoint.map (·.trustedDigest)
    event := input.event
    eventDigest := eventDigest
    entryDigest := entryDigest
    checkpoint := checkpoint
    appendedAt := appendedAt }

/-- The texts with a comma between neighbours. -/
def joinComma : List JsString → JsString
  | [] => []
  | [text] => text
  | text :: rest => text ++ js "," ++ joinComma rest

/-- What `appendAuditChainEntry` does once the chain is found valid. -/
def appendToValid (input : AppendInput) : Outcome AuditChainEntry := do
  if !(validateTrustEvent host input.event.toJson).valid ||
      input.event.tenantId != input.tenantId ||
      input.event.streamId != input.streamId then
    throw <| .error <| js "Invalid or cross-tenant audit event"
  if input.chain.any fun entry =>
      entry.event.eventId == input.event.eventId then
    throw <| .error <| js "Audit replay"
  let appendedAt ← canonicalUtcTimestamp host input.appendedAt
  let sealedEvent ← eventDigest host input.event
  let digest ← entryDigest host (input.entry appendedAt sealedEvent [])
  .ok (input.entry appendedAt sealedEvent digest)

def appendAuditChainEntry (input : AppendInput) : Outcome AuditChainEntry := do
  let verification ← verifyAuditChain host input.chain input.options
  if !verification.valid then
    throw <| .error <| js "Cannot append to invalid chain: " ++
      joinComma (verification.reasonCodes.map (·.text))
  appendToValid host input

end Host

end BidayaxExecutive.Trust
