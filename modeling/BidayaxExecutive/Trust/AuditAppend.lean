import BidayaxExecutive.Library.Runs
import BidayaxExecutive.Trust.AuditCommitment

/-!
# Appending to an audit chain

`appendAuditChainEntry` verifies the chain it is given, but not the chain with
the new entry.  What it does not check is said here as a condition on its
input: a new idempotency key and a new event, room for one more entry, and no
entry that follows the last one already.  Appending keeps a chain valid exactly
under this condition.
-/

namespace BidayaxExecutive.Trust

open BidayaxExecutive.Runtime JsString
open BidayaxExecutive.Library.Guards BidayaxExecutive.Library.Runs

/-- Sixty-four zeros. -/
def blankDigest : JsString :=
  List.replicate 64 48

/-- The new entry with blank digests, which is as long as the entry itself. -/
def AppendInput.draft (input : AppendInput) (appendedAt : JsString) :
    AuditChainEntry :=
  input.entry appendedAt blankDigest blankDigest

section Host

variable (host : Host)

/-- The chain is found valid. -/
def Verifies (options : VerifyAuditChainOptions)
    (entries : List AuditChainEntry) : Prop :=
  ∃ verification, verifyAuditChain host entries options = .ok verification ∧
    verification.valid = true

/-- What the verifier asks of a chain with its next entry and appending does
not check. -/
structure Appendable (input : AppendInput) : Prop where
  newKey : ∀ entry ∈ input.chain,
    entry.event.idempotencyKey ≠ input.event.idempotencyKey
  newEvent : ∀ entry ∈ input.chain,
    eventDigest host input.event ≠ .ok entry.eventDigest
  unfollowed : ∀ last ∈ input.chain.getLast?, ∀ entry ∈ input.chain,
    entry.previousDigest ≠ some last.entryDigest
  count : input.chain.length < 1000
  small : ∀ appendedAt,
    canonicalUtcTimestamp host input.appendedAt = .ok appendedAt →
      serializedBytes (input.draft appendedAt).toJson ≤ 16384
  smallChain : ∀ appendedAt,
    canonicalUtcTimestamp host input.appendedAt = .ok appendedAt →
      serializedBytes (.array ((input.chain ++ [input.draft appendedAt]).map
        (·.toJson))) ≤ 1048576

/-- What appending checks, and the values it computes. -/
structure Appended (input : AppendInput)
    (appendedAt sealedEvent digest : JsString) : Prop where
  tenant : input.event.tenantId = input.tenantId
  stream : input.event.streamId = input.streamId
  newId : ∀ entry ∈ input.chain, entry.event.eventId ≠ input.event.eventId
  time : canonicalUtcTimestamp host input.appendedAt = .ok appendedAt
  eventSealed : eventDigest host input.event = .ok sealedEvent
  entrySealed :
    entryDigest host (input.entry appendedAt sealedEvent digest) = .ok digest

variable {host} {input : AppendInput} {entry : AuditChainEntry}

theorem appendAuditChainEntry_eq_ok :
    appendAuditChainEntry host input = .ok entry ↔
      Verifies host input.options input.chain ∧
        appendToValid host input = .ok entry := by
  unfold appendAuditChainEntry
  rw [bind_eq_ok]
  constructor
  · rintro ⟨verification, verified, guarded⟩
    rw [guard_eq_ok] at guarded
    exact ⟨⟨verification, verified, by simpa using guarded.1⟩, guarded.2⟩
  · rintro ⟨⟨verification, verified, valid⟩, appended⟩
    refine ⟨verification, verified, ?_⟩
    rw [guard_eq_ok]
    exact ⟨by simpa using valid, appended⟩

theorem appended_of_eq_ok (appends : appendToValid host input = .ok entry) :
    ∃ appendedAt sealedEvent digest,
      Appended host input appendedAt sealedEvent digest ∧
        entry = input.entry appendedAt sealedEvent digest := by
  unfold appendToValid at appends
  rw [guard_eq_ok, guard_eq_ok] at appends
  rcases appends with ⟨checked, fresh, appends⟩
  rcases bind_eq_ok.mp appends with ⟨appendedAt, time, appends⟩
  rcases bind_eq_ok.mp appends with ⟨sealedEvent, eventSealed, appends⟩
  rcases bind_eq_ok.mp appends with ⟨digest, entrySealed, same⟩
  simp only [Bool.or_eq_true, bne_iff_ne, not_or, not_not] at checked
  simp only [List.any_eq_true, beq_iff_eq, not_exists, not_and] at fresh
  exact ⟨appendedAt, sealedEvent, digest,
    ⟨checked.1.2, checked.2, fresh, time, eventSealed, entrySealed⟩,
    (Except.ok.inj same).symm⟩

/-! ## The place of the new entry -/

variable {appendedAt sealedEvent digest : JsString}

theorem Accepted.scope {options : VerifyAuditChainOptions}
    {entries : List AuditChainEntry}
    (accepted : Accepted host options entries) :
    ∀ entry ∈ entries,
      options.expectedTenantId.any (entry.tenantId != ·) = false ∧
        options.expectedStreamId.any (entry.streamId != ·) = false := by
  induction entries using List.reverseRecOn with
  | nil =>
      intro entry member
      exact nomatch member
  | append_singleton entries last inductionHypothesis =>
      rcases (accepted_append_singleton host options).mp accepted with
        ⟨before, lastAccepted⟩
      intro entry member
      rcases List.mem_append.mp member with earlier | here
      · exact inductionHypothesis before entry earlier
      · rw [List.mem_singleton.mp here]
        exact ⟨lastAccepted.tenant, lastAccepted.stream⟩

/-- The sequences of the chain lie below that of the new entry. -/
theorem Appended.sequence (appended : Appended host input appendedAt
      sealedEvent digest)
    (accepted : Accepted host input.options input.chain) :
    ∃ number,
      (input.entry appendedAt sealedEvent digest).sequence.toInt? =
          some number ∧
        ∀ entry ∈ input.chain, ∃ earlier,
          entry.sequence.toInt? = some earlier ∧ earlier < number := by
  have safe := sequence_of_entryDigest appended.entrySealed
  rcases JsNumber.toInt?_of_isSafeInteger safe with ⟨number, integral⟩
  refine ⟨number, integral, fun entry member => ?_⟩
  cases last : input.chain.getLast? with
  | none =>
      rw [List.getLast?_eq_none_iff.mp last] at member
      exact nomatch member
  | some previous =>
      simp only [AppendInput.entry, last] at safe integral
      have bounds := JsNumber.bounds_of_isSafeInteger safe integral
      have preceding := JsNumber.toInt?_of_increment bounds integral
      rw [List.getLast?_eq_getElem?] at last
      rcases accepted.sequences last with ⟨base, based, lastSequence⟩
      rcases List.getElem?_of_mem member with ⟨index, found⟩
      rcases accepted.sequences found with ⟨sameBase, based', sequence⟩
      rw [based, Option.some.injEq] at based'
      rw [lastSequence, Option.some.injEq] at preceding
      rcases List.getElem?_eq_some_iff.mp found with ⟨inRange, _⟩
      exact ⟨_, sequence, by omega⟩

theorem Appended.inPosition (appended : Appended host input appendedAt
      sealedEvent digest) :
    InPosition input.startingCheckpoint input.chain.getLast?
      (input.entry appendedAt sealedEvent digest) := by
  have safe := sequence_of_entryDigest appended.entrySealed
  rcases JsNumber.toInt?_of_isSafeInteger safe with ⟨number, integral⟩
  have bounds := JsNumber.bounds_of_isSafeInteger safe integral
  have reflexive : ∀ {sequence : JsNumber} {value : Int},
      sequence.toInt? = some value → sequence.strictEquals sequence = true := by
    intro sequence value counted
    rw [JsNumber.strictEquals_of_toInt? counted counted, beq_self_eq_true]
  cases last : input.chain.getLast? with
  | some previous =>
      simp only [AppendInput.entry, last] at integral
      simp [InPosition, follows, AppendInput.entry, last, reflexive integral]
  | none =>
      have empty := List.getLast?_eq_none_iff.mp last
      cases given : input.startingCheckpoint with
      | none =>
          simp only [InPosition, isGenesis, AppendInput.entry, empty, given]
          rfl
      | some checkpoint =>
          simp only [AppendInput.entry, empty, given, List.isEmpty_nil,
            if_true] at integral
          have trusted := JsNumber.toInt?_of_increment bounds integral
          simp [InPosition, continuesCheckpoint, AppendInput.entry, empty,
            given, reflexive trusted]
          exact reflexive integral

/-- The verifier's turn for the new entry. -/
theorem entryAccepted_iff_of_appended (appended : Appended host input
      appendedAt sealedEvent digest)
    (accepted : Accepted host input.options input.chain) :
    EntryAccepted host input.options (stateAfter input.chain [])
        (input.entry appendedAt sealedEvent digest) ↔
      exceeds (serializedBytes
          (input.entry appendedAt sealedEvent digest).toJson)
        maxEntrySerializedBytes = false ∧
      forks (stateAfter input.chain [])
        (input.entry appendedAt sealedEvent digest) = false ∧
      replays (stateAfter input.chain [])
        (input.entry appendedAt sealedEvent digest) = false := by
  constructor
  · intro entryAccepted
    exact ⟨entryAccepted.small, entryAccepted.unforked, entryAccepted.fresh⟩
  · rintro ⟨small, unforked, fresh⟩
    rcases appended.sequence accepted with ⟨number, integral, below⟩
    have scope : ∀ previous ∈ input.chain.getLast?,
        previous.tenantId = input.tenantId ∧
          previous.streamId = input.streamId := by
      intro previous isLast
      have member := List.mem_of_getLast? isLast
      simpa [AppendInput.options] using accepted.scope previous member
    refine
      { small, unforked, fresh
        algorithm := rfl
        tenant := by simp [AppendInput.options, AppendInput.entry]
        stream := by simp [AppendInput.options, AppendInput.entry]
        later := ?_
        newSequence := ?_
        position := appended.inPosition
        previousTenant := ?_
        previousStream := ?_
        eventTenant := appended.tenant
        eventStream := appended.stream
        eventSealed := appended.eventSealed
        entrySealed := appended.entrySealed
        entryId := rfl }
    · rw [Option.any_eq_false]
      intro previous isLast
      rcases below previous (List.mem_of_getLast? isLast) with
        ⟨earlier, counted, less⟩
      rw [JsNumber.lessOrEqual_of_toInt? integral counted]
      simpa using less
    · simp only [stateAfter, List.any_reverse, List.any_map,
        List.any_eq_false, Function.comp_apply]
      intro previous member same
      rcases below previous member with ⟨earlier, counted, less⟩
      rw [sameKey, JsNumber.strictEquals_of_toInt? integral counted] at same
      rcases Bool.or_eq_true_iff.mp same with equal | unreadable
      · rw [beq_iff_eq] at equal
        omega
      · rw [Bool.and_eq_true, beq_iff_eq, beq_iff_eq] at unreadable
        rw [unreadable.2] at counted
        cases counted
    · rw [Option.any_eq_false]
      intro previous isLast
      simp [AppendInput.entry, (scope previous isLast).1]
    · rw [Option.any_eq_false]
      intro previous isLast
      simp [AppendInput.entry, (scope previous isLast).2]

/-! ## What appending does not check -/

theorem exceeds_eq_false {count limit : Nat} :
    exceeds count (.integer limit) = false ↔ count ≤ limit := by
  simp only [exceeds, Bool.not_eq_false']
  rw [JsNumber.lessOrEqual_of_toInt? rfl rfl, decide_eq_true_eq,
    Int.ofNat_le]

theorem replays_eq_false (appended : Appended host input appendedAt
      sealedEvent digest) :
    replays (stateAfter input.chain [])
        (input.entry appendedAt sealedEvent digest) = false ↔
      (∀ entry ∈ input.chain,
        entry.event.idempotencyKey ≠ input.event.idempotencyKey) ∧
      ∀ entry ∈ input.chain,
        eventDigest host input.event ≠ .ok entry.eventDigest := by
  have newId := appended.newId
  simp only [replays, stateAfter, AppendInput.entry, appended.eventSealed,
    List.contains_eq_mem, List.mem_reverse, List.mem_map,
    Bool.or_eq_false_iff, decide_eq_false_iff_not, not_exists, not_and,
    Except.ok.injEq, ne_eq]
  constructor
  · rintro ⟨⟨_, newKey⟩, newEvent⟩
    exact ⟨newKey, fun entry member same => newEvent entry member same.symm⟩
  · rintro ⟨newKey, newEvent⟩
    exact ⟨⟨newId, newKey⟩,
      fun entry member same => newEvent entry member same.symm⟩

/-- The entries that follow a digest, as the loop knows them. -/
theorem mem_previousDigests {entries : List AuditChainEntry}
    {pair : JsString × JsString} :
    pair ∈ (stateAfter entries []).previousDigests ↔
      ∃ entry ∈ entries, entry.previousDigest = some pair.1 ∧
        entry.entryDigest = pair.2 := by
  simp only [stateAfter, List.mem_reverse, List.mem_filterMap,
    Option.map_eq_some_iff]
  constructor
  · rintro ⟨entry, member, digest, follows, rfl⟩
    exact ⟨entry, member, follows, rfl⟩
  · rintro ⟨entry, member, follows, same⟩
    exact ⟨entry, member, pair.1, follows, Prod.ext rfl same⟩

theorem forks_of_unfollowed
    (unfollowed : ∀ last ∈ input.chain.getLast?, ∀ entry ∈ input.chain,
      entry.previousDigest ≠ some last.entryDigest) :
    forks (stateAfter input.chain [])
      (input.entry appendedAt sealedEvent digest) = false := by
  cases last : input.chain.getLast? with
  | none =>
      rw [List.getLast?_eq_none_iff.mp last]
      unfold forks
      split
      · rfl
      · rfl
  | some previous =>
      have unknown : (stateAfter input.chain []).previousDigests.lookup
          previous.entryDigest = none := by
        rw [List.lookup_eq_none_iff]
        intro pair member
        rcases mem_previousDigests.mp member with ⟨entry, inChain, follows, _⟩
        rw [bne_iff_ne]
        intro same
        rw [← same] at follows
        exact unfollowed previous last entry inChain follows
      simp [forks, AppendInput.entry, last, unknown]

/-- An entry that follows the last one already would have the digest of the new
entry. -/
theorem unfollowed_of_accepted
    (free : CollisionFree (entryPreimages host
      (input.chain ++ [input.entry appendedAt sealedEvent digest])))
    (accepted : Accepted host input.options
      (input.chain ++ [input.entry appendedAt sealedEvent digest])) :
    ∀ last ∈ input.chain.getLast?, ∀ entry ∈ input.chain,
      entry.previousDigest ≠ some last.entryDigest := by
  intro last isLast entry member follows
  rcases (accepted_append_singleton host input.options).mp accepted with
    ⟨_, entryAccepted⟩
  have known : (last.entryDigest, entry.entryDigest) ∈
      (stateAfter input.chain []).previousDigests :=
    mem_previousDigests.mpr ⟨entry, member, follows, rfl⟩
  cases search : (stateAfter input.chain []).previousDigests.lookup
      last.entryDigest with
  | none =>
      have other := List.lookup_eq_none_iff.mp search _ known
      exact absurd rfl (bne_iff_ne.mp other)
  | some child =>
      -- the last entry that follows it has the digest of the new entry
      rcases List.lookup_eq_some_iff.mp search with ⟨newer, older, split, _⟩
      have listed : (last.entryDigest, child) ∈
          (stateAfter input.chain []).previousDigests := by
        rw [split]
        exact List.mem_append_right _ List.mem_cons_self
      rcases mem_previousDigests.mp listed with ⟨twin, inChain, _, sameDigest⟩
      have unforked := entryAccepted.unforked
      have isLast' : input.chain.getLast? = some last := isLast
      simp only [forks, AppendInput.entry, isLast', search, Option.any_some,
        bne_eq_false_iff_eq] at unforked
      have newMember : input.entry appendedAt sealedEvent digest ∈
          input.chain ++ [input.entry appendedAt sealedEvent digest] :=
        List.mem_append_right _ List.mem_cons_self
      have twinMember := List.mem_append_left
        [input.entry appendedAt sealedEvent digest] inChain
      rcases accepted.sealed _ newMember with ⟨newSealed, _, newId⟩
      rcases accepted.sealed _ twinMember with ⟨twinSealed, _, twinId⟩
      have agreement := entryAgreement_of_digest
        (free.mono (List.append_subset.mpr
          ⟨List.Subset.refl _, List.Subset.refl _⟩))
        newMember twinMember newSealed twinSealed newId twinId
        (unforked.symm.trans sameDigest.symm)
      have sameSequence := toInt?_of_sameForm agreement.sequence
      rcases JsNumber.toInt?_of_isSafeInteger
        (sequence_of_entryDigest newSealed) with ⟨number, integral⟩
      have distinct := entryAccepted.newSequence
      simp only [stateAfter, List.any_reverse, List.any_map,
        List.any_eq_false, Function.comp_apply] at distinct
      apply distinct twin inChain
      rw [sameKey, JsNumber.strictEquals_of_toInt? integral
        (sameSequence.symm.trans integral), beq_self_eq_true, Bool.true_or]

/-! ## The size of the new entry -/

/-- The digests of an entry do not matter for its size. -/
theorem serializedBytes_draft
    (appended : Appended host input appendedAt sealedEvent digest) :
    serializedBytes (input.entry appendedAt sealedEvent digest).toJson =
      serializedBytes (input.draft appendedAt).toJson := by
  have blank : isHexDigest blankDigest = true := by
    decide
  have eventHex : isHexDigest sealedEvent = true := by
    rcases eventDigest_eq_ok.mp appended.eventSealed with ⟨bytes, _, rfl⟩
    exact isHexDigest_sha256Bytes bytes
  have entryHex := isHexDigest_of_entryDigest appended.entrySealed
  have sizes : ∀ {digest}, isHexDigest digest = true →
      (canonicalBytes (.string digest)).length = 66 ∧
        (canonicalBytes (.string (js "audit_" ++ digest))).length = 72 :=
    fun hex => ⟨length_canonicalBytes_digest [] rfl (by simp) hex,
      length_canonicalBytes_digest (js "audit_") (by decide)
        (List.all_eq_true.mp (by decide)) hex⟩
  change (canonicalBytes _).length = (canonicalBytes _).length
  simp only [AppendInput.draft, AppendInput.entry, AuditChainEntry.toJson,
    length_canonicalBytes_object, fieldLength, List.cons_append,
    List.map_cons, sizes blank, sizes eventHex, sizes entryHex]

theorem serializedBytes_chain_draft
    (appended : Appended host input appendedAt sealedEvent digest) :
    serializedBytes (.array
        ((input.chain ++ [input.entry appendedAt sealedEvent digest]).map
          (·.toJson))) =
      serializedBytes (.array ((input.chain ++ [input.draft appendedAt]).map
        (·.toJson))) := by
  have same : (canonicalBytes
      (input.entry appendedAt sealedEvent digest).toJson).length =
        (canonicalBytes (input.draft appendedAt).toJson).length :=
    serializedBytes_draft appended
  change (canonicalBytes _).length = (canonicalBytes _).length
  rw [length_canonicalBytes_array (by simp),
    length_canonicalBytes_array (by simp)]
  simp only [List.map_append, List.map_cons, List.map_nil, List.sum_append,
    List.sum_cons, List.sum_nil, same]

/-! ## The chain with the new entry -/

theorem sizeReasons_eq_nil
    (appended : Appended host input appendedAt sealedEvent digest) :
    sizeReasons input.options
        (input.chain ++ [input.entry appendedAt sealedEvent digest]) = [] ↔
      input.chain.length < 1000 ∧
        serializedBytes (.array ((input.chain ++ [input.draft appendedAt]).map
          (·.toJson))) ≤ 1048576 := by
  rw [sizeReasons, push_eq_nil, Bool.or_eq_false_iff,
    serializedBytes_chain_draft appended]
  refine and_congr (exceeds_eq_false.trans ?_) exceeds_eq_false
  rw [List.length_append, List.length_singleton, Nat.add_one_le_iff]

/-- The entry keeps the chain valid when the input is appendable. -/
theorem verifies_of_appendable
    (appends : appendAuditChainEntry host input = .ok entry)
    (appendable : Appendable host input) :
    Verifies host input.options (input.chain ++ [entry]) := by
  rcases appendAuditChainEntry_eq_ok.mp appends with ⟨verifies, added⟩
  rcases appended_of_eq_ok added with
    ⟨appendedAt, sealedEvent, digest, appended, rfl⟩
  have accepted := ((verifyAuditChain_valid_iff host _).mp verifies).2.1
  refine (verifyAuditChain_valid_iff host _).mpr ⟨?_, ?_, rfl⟩
  · exact (sizeReasons_eq_nil appended).mpr
      ⟨appendable.count, appendable.smallChain _ appended.time⟩
  · refine (accepted_append_singleton host _).mpr ⟨accepted, ?_⟩
    refine (entryAccepted_iff_of_appended appended accepted).mpr ⟨?_, ?_, ?_⟩
    · rw [serializedBytes_draft appended]
      exact exceeds_eq_false.mpr (appendable.small _ appended.time)
    · exact forks_of_unfollowed appendable.unfollowed
    · exact (replays_eq_false appended).mpr
        ⟨appendable.newKey, appendable.newEvent⟩

theorem appendable_of_verifies
    (appends : appendAuditChainEntry host input = .ok entry)
    (free : CollisionFree (entryPreimages host (input.chain ++ [entry])))
    (verifies : Verifies host input.options (input.chain ++ [entry])) :
    Appendable host input := by
  rcases appendAuditChainEntry_eq_ok.mp appends with ⟨_, added⟩
  rcases appended_of_eq_ok added with
    ⟨appendedAt, sealedEvent, digest, appended, rfl⟩
  rcases (verifyAuditChain_valid_iff host _).mp verifies with
    ⟨sized, accepted, _⟩
  rcases (accepted_append_singleton host _).mp accepted with
    ⟨before, entryAccepted⟩
  rcases (entryAccepted_iff_of_appended appended before).mp entryAccepted with
    ⟨small, _, fresh⟩
  rcases (sizeReasons_eq_nil appended).mp sized with ⟨count, smallChain⟩
  rcases (replays_eq_false appended).mp fresh with ⟨newKey, newEvent⟩
  rw [serializedBytes_draft appended] at small
  have sameTime : ∀ time,
      canonicalUtcTimestamp host input.appendedAt = .ok time →
        time = appendedAt :=
    fun time canonical =>
      Except.ok.inj (canonical.symm.trans appended.time)
  refine ⟨newKey, newEvent, unfollowed_of_accepted free accepted, count,
    fun time canonical => ?_, fun time canonical => ?_⟩
  · rw [sameTime time canonical]
    exact exceeds_eq_false.mp small
  · rw [sameTime time canonical]
    exact smallChain

end Host

/-! ## Streams -/

/-- A stream of events of a tenant, from a checkpoint or from its start. -/
structure AuditStream where
  streamId : JsString
  tenantId : JsString
  startingCheckpoint : Option AuditCheckpoint

/-- An event with the time at which it is appended. -/
abbrev AuditAppend := JsString × TrustEvent

def AuditStream.input (stream : AuditStream) (chain : List AuditChainEntry)
    (action : AuditAppend) : AppendInput where
  appendedAt := action.1
  chain := chain
  streamId := stream.streamId
  event := action.2
  tenantId := stream.tenantId
  startingCheckpoint := stream.startingCheckpoint

def AuditStream.options (stream : AuditStream) : VerifyAuditChainOptions where
  expectedTenantId := some stream.tenantId
  expectedStreamId := some stream.streamId
  trustedCheckpoint := stream.startingCheckpoint

def appendStep (host : Host) (stream : AuditStream)
    (chain : List AuditChainEntry) (action : AuditAppend) :
    Outcome (List AuditChainEntry) := do
  let entry ← appendAuditChainEntry host (stream.input chain action)
  .ok (chain ++ [entry])

/-- Every step of the run gets an appendable input. -/
def AppendsAlong (host : Host) (stream : AuditStream) :
    List AuditChainEntry → List AuditAppend → Prop :=
  Along (appendStep host stream) fun chain action =>
    Appendable host (stream.input chain action)

theorem verifies_nil (host : Host) (stream : AuditStream) :
    Verifies host stream.options [] :=
  (verifyAuditChain_valid_iff host _).mpr ⟨rfl, accepted_nil host _, rfl⟩

/-- Chains built in appendable steps verify. -/
theorem verifies_of_run {host : Host} {stream : AuditStream}
    {chain : List AuditChainEntry} {actions : List AuditAppend}
    (ran : run (appendStep host stream) [] actions = .ok chain)
    (appendable : AppendsAlong host stream [] actions) :
    Verifies host stream.options chain := by
  refine run_invariant (appendStep host stream)
    (Verifies host stream.options) ?_ (verifies_nil host stream) appendable ran
  intro before action next _ condition stepped
  rcases bind_eq_ok.mp stepped with ⟨entry, appends, same⟩
  rw [← Except.ok.inj same]
  have verifies : Verifies host (stream.input before action).options
      ((stream.input before action).chain ++ [entry]) :=
    verifies_of_appendable appends condition
  exact verifies

/-- The verifier accepts the chain with the new entry exactly when the input
was appendable; along a run of such inputs every chain verifies, and no append
is refused for its chain. -/
theorem appendAuditChainEntry_verifies_iff (host : Host) :
    (∀ (input : AppendInput) (entry : AuditChainEntry),
      appendAuditChainEntry host input = .ok entry →
      CollisionFree (entryPreimages host (input.chain ++ [entry])) →
      (Verifies host input.options (input.chain ++ [entry]) ↔
        Appendable host input)) ∧
    ∀ (stream : AuditStream) (chain : List AuditChainEntry)
      (actions : List AuditAppend),
      run (appendStep host stream) [] actions = .ok chain →
      AppendsAlong host stream [] actions →
      Verifies host stream.options chain ∧
        ∀ action, appendAuditChainEntry host (stream.input chain action) =
          appendToValid host (stream.input chain action) := by
  constructor
  · intro input entry appends free
    exact ⟨appendable_of_verifies appends free, verifies_of_appendable appends⟩
  · intro stream chain actions ran appendable
    have verifies := verifies_of_run ran appendable
    refine ⟨verifies, fun action => ?_⟩
    rcases verifies with ⟨verification, verified, valid⟩
    have sameChain : verifyAuditChain host (stream.input chain action).chain
        (stream.input chain action).options = .ok verification := verified
    unfold appendAuditChainEntry
    rw [sameChain, Outcome.ok_bind]
    simp [valid]

/-- A new event of the stream is appended to a chain that verifies. -/
theorem appendAuditChainEntry_of_sealed {host : Host} {input : AppendInput}
    {appendedAt sealedEvent digest : JsString}
    (verifies : Verifies host input.options input.chain)
    (checked : (!(validateTrustEvent host input.event.toJson).valid ||
      input.event.tenantId != input.tenantId ||
      input.event.streamId != input.streamId) = false)
    (fresh : (input.chain.any fun entry =>
      entry.event.eventId == input.event.eventId) = false)
    (time : canonicalUtcTimestamp host input.appendedAt = .ok appendedAt)
    (eventSealed : eventDigest host input.event = .ok sealedEvent)
    (entrySealed :
      entryDigest host (input.entry appendedAt sealedEvent []) = .ok digest) :
    appendAuditChainEntry host input =
      .ok (input.entry appendedAt sealedEvent digest) := by
  refine appendAuditChainEntry_eq_ok.mpr ⟨verifies, ?_⟩
  unfold appendToValid
  rw [guard_eq_ok, guard_eq_ok]
  refine ⟨by simp [checked], by simp [fresh], ?_⟩
  rw [time, Outcome.ok_bind, eventSealed, Outcome.ok_bind, entrySealed,
    Outcome.ok_bind]

/-- A second event, after the first entry of the stream. -/
def secondAppend (idempotencyKey : JsString) : AppendInput where
  appendedAt := js "2026-07-17T10:01:01.000Z"
  chain := [recordedFirst (js "2026-07-17T10:00:01.000Z")]
  streamId := js "stream-1"
  event := recordedEvent (js "event-2") idempotencyKey
  tenantId := js "tenant-1"
  startingCheckpoint := none

def secondEntry (idempotencyKey eventDigest entryDigest : JsString) :
    AuditChainEntry :=
  (secondAppend idempotencyKey).entry (js "2026-07-17T10:01:01.000Z")
    eventDigest entryDigest

theorem secondAppend_verifies (idempotencyKey : JsString) :
    Verifies (recordedHost []) (secondAppend idempotencyKey).options
      (secondAppend idempotencyKey).chain := by
  refine ⟨⟨true, [.valid], some (recordedFirst []).entryId, false⟩, ?_, rfl⟩
  change verifyAuditChain (recordedHost [])
    [recordedFirst (js "2026-07-17T10:00:01.000Z")]
    { expectedTenantId := some (js "tenant-1")
      expectedStreamId := some (js "stream-1") } = _
  decide +kernel

/-- Another event with the idempotency key of the first one is appended. -/
theorem reusedKey_not_verified :
    ∃ entry,
      appendAuditChainEntry (recordedHost []) (secondAppend (js "key-1")) =
          .ok entry ∧
        CollisionFree (entryPreimages (recordedHost [])
          ((secondAppend (js "key-1")).chain ++ [entry])) ∧
        ¬Verifies (recordedHost []) (secondAppend (js "key-1")).options
          ((secondAppend (js "key-1")).chain ++ [entry]) := by
  have appends : appendAuditChainEntry (recordedHost [])
      (secondAppend (js "key-1")) = .ok (secondEntry (js "key-1")
        (js "6a0c18476a861c75b6af9efcf6f7b013c68efc9817ee62e6c05c96f23ddb48cc")
        (js
          "ee2b5084485aba31d16003e54ac2621d9a707501a6a891c8f932323641b059d7")) :=
    appendAuditChainEntry_of_sealed (secondAppend_verifies _)
      (by decide +kernel) (by decide +kernel) (by decide +kernel)
      (by decide +kernel) (by decide +kernel)
  have free : CollisionFree (entryPreimages (recordedHost [])
      ((secondAppend (js "key-1")).chain ++ [secondEntry (js "key-1")
        (js "6a0c18476a861c75b6af9efcf6f7b013c68efc9817ee62e6c05c96f23ddb48cc")
        (js
          "ee2b5084485aba31d16003e54ac2621d9a707501a6a891c8f932323641b059d7")]))
      := by
    apply collisionFree_of_nodup (show _ =
      [(recordedFirst []).entryDigest, js
        "ee2b5084485aba31d16003e54ac2621d9a707501a6a891c8f932323641b059d7"]
      by decide +kernel)
    decide +kernel
  refine ⟨_, appends, free, fun verifies => ?_⟩
  have appendable := appendable_of_verifies appends free verifies
  exact appendable.newKey _ (List.mem_singleton_self _) rfl

/-- The first event of the stream. -/
def firstAction : AuditAppend :=
  (js "2026-07-17T10:00:01.000Z", recordedEvent (js "event-1") (js "key-1"))

def recordedStream : AuditStream where
  streamId := js "stream-1"
  tenantId := js "tenant-1"
  startingCheckpoint := none

theorem appendAuditChainEntry_verifies_iff_recorded :
    (∃ entry,
      appendAuditChainEntry (recordedHost []) (secondAppend (js "key-2")) =
          .ok entry ∧
        Verifies (recordedHost []) (secondAppend (js "key-2")).options
          ((secondAppend (js "key-2")).chain ++ [entry])) ∧
      ∃ chain,
        run (appendStep (recordedHost []) recordedStream) [] [firstAction] =
            .ok chain ∧
          Verifies (recordedHost []) recordedStream.options chain := by
  constructor
  · have time : canonicalUtcTimestamp (recordedHost [])
        (secondAppend (js "key-2")).appendedAt =
          .ok (js "2026-07-17T10:01:01.000Z") := by
      decide +kernel
    have appends : appendAuditChainEntry (recordedHost [])
        (secondAppend (js "key-2")) = .ok (secondEntry (js "key-2")
          (js
            "ee52ff614128616cd5c7e12b2e611c6ba8249ec1d645ab1a1cdc78c4cb87a887")
          (js
            "132b90fc3a780ba3c510d19dc02b933ea52e8d7c50f8aa6cda7e3a4d41792d0a")) :=
      appendAuditChainEntry_of_sealed (secondAppend_verifies _)
        (by decide +kernel) (by decide +kernel) time (by decide +kernel)
        (by decide +kernel)
    refine ⟨_, appends, ?_⟩
    refine ((appendAuditChainEntry_verifies_iff (recordedHost [])).1 _ _ appends
      ?_).mpr ?_
    · apply collisionFree_of_nodup (show _ =
        [(recordedFirst []).entryDigest, js
          "132b90fc3a780ba3c510d19dc02b933ea52e8d7c50f8aa6cda7e3a4d41792d0a"]
        by decide +kernel)
      decide +kernel
    · refine
        { newKey := by decide +kernel
          newEvent := by decide +kernel
          unfollowed := by
            intro last _ entry member
            rw [List.mem_singleton.mp member]
            exact nofun
          count := by decide
          small := ?_
          smallChain := ?_ }
      · intro appendedAt canonical
        rw [Except.ok.inj (canonical.symm.trans time)]
        decide +kernel
      · intro appendedAt canonical
        rw [Except.ok.inj (canonical.symm.trans time)]
        decide +kernel
  · have time : canonicalUtcTimestamp (recordedHost []) firstAction.1 =
        .ok (js "2026-07-17T10:00:01.000Z") := by
      decide +kernel
    have succeeds : (run (appendStep (recordedHost []) recordedStream) []
        [firstAction]).isOk = true := by
      decide +kernel
    rcases isOk_iff.mp succeeds with ⟨chain, ran⟩
    refine ⟨chain, ran, ?_⟩
    refine ((appendAuditChainEntry_verifies_iff (recordedHost [])).2 _ _ _ ran
      ⟨?_, fun _ _ => trivial⟩).1
    refine
      { newKey := fun _ member => nomatch member
        newEvent := fun _ member => nomatch member
        unfollowed := fun _ isLast => nomatch isLast
        count := by decide
        small := ?_
        smallChain := ?_ }
    · intro appendedAt canonical
      rw [Except.ok.inj (canonical.symm.trans time)]
      decide +kernel
    · intro appendedAt canonical
      rw [Except.ok.inj (canonical.symm.trans time)]
      decide +kernel

end BidayaxExecutive.Trust
