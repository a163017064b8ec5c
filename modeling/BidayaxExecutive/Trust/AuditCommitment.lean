import BidayaxExecutive.Library.HashChain
import BidayaxExecutive.Trust.AuditAcceptance

/-!
# What the head of an audit chain commits to

In an accepted chain the sequences count up from the checkpoint, every entry
names the digest of the entry before it, and every digest is computed from its
entry.  Two accepted chains with one head digest therefore agree entry by
entry, up to the normalizations of canonicalization.
-/

namespace BidayaxExecutive.Trust

open BidayaxExecutive.Runtime JsString
open BidayaxExecutive.Library.HashChain

section Host

variable {host : Host}

/-! ## Sealed entries -/

private theorem plainKeys_entryBase (entry : AuditChainEntry) :
    plainKeys ((entryBase entry).map Prod.fst) = true := by
  simp only [entryBase, List.map_cons, List.map_nil]
  decide +kernel

private theorem entryContextNormal (host : Host) :
    NormalText host (js "trust-audit-entry/v1") :=
  normalText_of_isAscii host (by decide) (by decide)

private theorem entrySchemaNormal (host : Host) :
    NormalText host (js "trust-audit-entry-1") :=
  normalText_of_isAscii host (by decide) (by decide)

theorem entryDigest_eq_ok {entry : AuditChainEntry} {digest : JsString} :
    entryDigest host entry = .ok digest ↔
      ∃ bytes, entryPreimage host entry = .ok bytes ∧
        digest = sha256Bytes bytes :=
  internalDigest_eq_ok host

theorem eventDigest_eq_ok {event : TrustEvent} {digest : JsString} :
    eventDigest host event = .ok digest ↔
      ∃ bytes, eventPreimage host event = .ok bytes ∧
        digest = sha256Bytes bytes :=
  internalDigest_eq_ok host

theorem isHexDigest_of_entryDigest {entry : AuditChainEntry}
    {digest : JsString} (computed : entryDigest host entry = .ok digest) :
    isHexDigest digest = true := by
  obtain ⟨bytes, _, rfl⟩ := entryDigest_eq_ok.mp computed
  exact isHexDigest_sha256Bytes bytes

/-- The sequence of an entry that can be hashed is a safe integer. -/
theorem sequence_of_entryDigest {entry : AuditChainEntry} {digest : JsString}
    (computed : entryDigest host entry = .ok digest) :
    entry.sequence.isSafeInteger = true := by
  obtain ⟨bytes, preimage, _⟩ := entryDigest_eq_ok.mp computed
  obtain ⟨form, canonical, _⟩ := (internalPreimage_eq_ok host
    (entryContextNormal host) (entrySchemaNormal host)).mp preimage
  have fields := forall₂_sameForm host (plainKeys_entryBase entry)
    (plainKeys_entryBase entry) canonical canonical
  simp only [entryBase, List.forall₂_cons] at fields
  obtain ⟨_, _, _, _, _, ⟨sequenceForm, sequenceCanonical, _⟩, _⟩ := fields
  rw [Canonical] at sequenceCanonical
  obtain ⟨_, safe, _⟩ := sequenceCanonical
  exact safe

/-- Two entries that canonicalization does not tell apart. -/
structure EntryAgreement (host : Host) (left right : AuditChainEntry) :
    Prop where
  appendedAt :
    SameForm host (.string left.appendedAt) (.string right.appendedAt)
  checkpoint : SameForm host (nullableCheckpoint left.checkpoint).toJs
    (nullableCheckpoint right.checkpoint).toJs
  event : SameForm host left.event.toJson.toJs right.event.toJson.toJs
  eventDigest :
    SameForm host (.string left.eventDigest) (.string right.eventDigest)
  previousDigest : SameForm host (nullableText left.previousDigest).toJs
    (nullableText right.previousDigest).toJs
  sequence : SameForm host (.number left.sequence) (.number right.sequence)
  streamId : SameForm host (.string left.streamId) (.string right.streamId)
  structureVersion : SameForm host (.string left.structureVersion)
    (.string right.structureVersion)
  tenantId : SameForm host (.string left.tenantId) (.string right.tenantId)
  entryId : left.entryId = right.entryId

/-- The byte strings hashed when a chain is verified. -/
def entryPreimages (host : Host) (entries : List AuditChainEntry) :
    List (List UInt8) :=
  entries.flatMap fun entry => (entryPreimage host entry).toOption.toList

theorem mem_entryPreimages {entries : List AuditChainEntry}
    {entry : AuditChainEntry} {bytes : List UInt8} (member : entry ∈ entries)
    (preimage : entryPreimage host entry = .ok bytes) :
    bytes ∈ entryPreimages host entries := by
  rw [entryPreimages, List.mem_flatMap]
  exact ⟨entry, member, by simp [preimage, Except.toOption]⟩

/-- Entries with one digest agree. -/
theorem entryAgreement_of_digest {left right : List AuditChainEntry}
    {a b : AuditChainEntry}
    (free : CollisionFree (entryPreimages host left ++
      entryPreimages host right))
    (aMember : a ∈ left) (bMember : b ∈ right)
    (aSealed : entryDigest host a = .ok a.entryDigest)
    (bSealed : entryDigest host b = .ok b.entryDigest)
    (aId : a.entryId = js "audit_" ++ a.entryDigest)
    (bId : b.entryId = js "audit_" ++ b.entryDigest)
    (same : a.entryDigest = b.entryDigest) :
    EntryAgreement host a b := by
  obtain ⟨aBytes, aPreimage, aDigest⟩ := entryDigest_eq_ok.mp aSealed
  obtain ⟨bBytes, bPreimage, bDigest⟩ := entryDigest_eq_ok.mp bSealed
  have sameBytes : aBytes = bBytes := by
    apply free
    · exact List.mem_append_left _ (mem_entryPreimages aMember aPreimage)
    · exact List.mem_append_right _ (mem_entryPreimages bMember bPreimage)
    · exact aDigest.symm.trans (same.trans bDigest)
  rw [← sameBytes] at bPreimage
  obtain ⟨_, form, aForm, bForm⟩ := internalPreimage_inj host
    (entryContextNormal host) (entryContextNormal host)
    (entrySchemaNormal host) (entrySchemaNormal host) aPreimage bPreimage
  have fields := forall₂_sameForm host (plainKeys_entryBase a)
    (plainKeys_entryBase b) aForm bForm
  simp only [entryBase, List.forall₂_cons] at fields
  obtain ⟨appendedAt, checkpoint, event, eventDigest, previousDigest,
    sequence, streamId, structureVersion, tenantId, _⟩ := fields
  exact ⟨appendedAt, checkpoint, event, eventDigest, previousDigest, sequence,
    streamId, structureVersion, tenantId, by rw [aId, bId, same]⟩

/-! ## Accepted chains are sealed, counted and linked -/

variable {options : VerifyAuditChainOptions} {entries : List AuditChainEntry}

theorem Accepted.sealed (accepted : Accepted host options entries) :
    ∀ entry ∈ entries, entryDigest host entry = .ok entry.entryDigest ∧
      eventDigest host entry.event = .ok entry.eventDigest ∧
      entry.entryId = js "audit_" ++ entry.entryDigest := by
  induction entries using List.reverseRecOn with
  | nil =>
      intro entry member
      simp at member
  | append_singleton entries last inductionHypothesis =>
      obtain ⟨before, lastAccepted⟩ :=
        (accepted_append_singleton host options).mp accepted
      intro entry member
      rcases List.mem_append.mp member with earlier | here
      · exact inductionHypothesis before entry earlier
      · rw [List.mem_singleton.mp here]
        exact ⟨lastAccepted.entrySealed, lastAccepted.eventSealed,
          lastAccepted.entryId⟩

/-- The sequence before the first entry. -/
def baseSequence (options : VerifyAuditChainOptions) : Option Int :=
  match options.trustedCheckpoint with
  | none => some 0
  | some checkpoint => checkpoint.trustedSequence.toInt?

private theorem toInt?_of_strictEquals {left right : JsNumber} {number : Int}
    (integral : left.toInt? = some number)
    (same : left.strictEquals right = true) :
    right.toInt? = some number := by
  cases rightIntegral : right.toInt? with
  | none =>
      cases left <;> simp [JsNumber.toInt?] at integral <;>
        cases right <;>
        simp_all [JsNumber.strictEquals, JsNumber.toInt?]
  | some other =>
      rw [JsNumber.strictEquals_of_toInt? integral rightIntegral, beq_iff_eq]
        at same
      rw [same]

/-- The first entry of a chain has the sequence after the base. -/
private theorem sequence_of_first {entry : AuditChainEntry}
    (position : InPosition options.trustedCheckpoint none entry)
    (safe : entry.sequence.isSafeInteger = true) :
    ∃ base, baseSequence options = some base ∧
      entry.sequence.toInt? = some (base + 1) := by
  obtain ⟨number, integral⟩ := JsNumber.toInt?_of_isSafeInteger safe
  rw [baseSequence]
  cases given : options.trustedCheckpoint with
  | none =>
      rw [given, InPosition] at position
      simp only [isGenesis, Bool.and_eq_true] at position
      have one := toInt?_of_strictEquals integral position.1.1
      rw [JsNumber.toInt?, Option.some.injEq] at one
      exact ⟨0, rfl, by rw [integral, ← one]; rfl⟩
  | some checkpoint =>
      rw [given, InPosition, continuesCheckpoint] at position
      cases own : entry.checkpoint with
      | none => simp [own] at position
      | some _ =>
          simp only [own, Bool.and_eq_true] at position
          have next := toInt?_of_strictEquals integral position.1.2
          have bounds := JsNumber.bounds_of_isSafeInteger safe integral
          exact ⟨number - 1, JsNumber.toInt?_of_increment bounds next, by
            rw [integral, Int.sub_add_cancel]⟩

private theorem sequence_of_follows {previous entry : AuditChainEntry}
    {before : Int} (position : follows previous entry = true)
    (previousIntegral : previous.sequence.toInt? = some before)
    (safe : entry.sequence.isSafeInteger = true) :
    entry.sequence.toInt? = some (before + 1) := by
  obtain ⟨number, integral⟩ := JsNumber.toInt?_of_isSafeInteger safe
  rw [follows, Bool.and_eq_true] at position
  have next := toInt?_of_strictEquals integral position.1
  have bounds := JsNumber.bounds_of_isSafeInteger safe integral
  have preceding := JsNumber.toInt?_of_increment bounds next
  rw [previousIntegral, Option.some.injEq] at preceding
  rw [integral, preceding, Int.sub_add_cancel]

/-- The sequences count up from the base. -/
theorem Accepted.sequences (accepted : Accepted host options entries)
    {index : Nat} {entry : AuditChainEntry}
    (found : entries[index]? = some entry) :
    ∃ base, baseSequence options = some base ∧
      entry.sequence.toInt? = some (base + 1 + index) := by
  induction entries using List.reverseRecOn generalizing index entry with
  | nil =>
      simp at found
  | append_singleton entries last inductionHypothesis =>
      obtain ⟨before, lastAccepted⟩ :=
        (accepted_append_singleton host options).mp accepted
      by_cases earlier : index < entries.length
      · rw [List.getElem?_append_left earlier] at found
        exact inductionHypothesis before found
      · have atEnd : index = entries.length := by
          obtain ⟨inRange, _⟩ := List.getElem?_eq_some_iff.mp found
          rw [List.length_append, List.length_singleton] at inRange
          omega
        rw [atEnd, List.getElem?_concat_length, Option.some.injEq] at found
        subst found
        have safe := sequence_of_entryDigest lastAccepted.entrySealed
        have position := lastAccepted.position
        simp only [stateAfter] at position
        cases previous : entries.getLast? with
        | none =>
            have empty : entries = [] := List.getLast?_eq_none_iff.mp previous
            rw [previous] at position
            obtain ⟨base, based, sequence⟩ :=
              sequence_of_first position safe
            exact ⟨base, based, by rw [sequence, atEnd, empty]; simp⟩
        | some previousEntry =>
            rw [previous, InPosition] at position
            rw [List.getLast?_eq_getElem?] at previous
            obtain ⟨base, based, sequence⟩ :=
              inductionHypothesis before previous
            have nonempty : 0 < entries.length := by
              obtain ⟨inRange, _⟩ := List.getElem?_eq_some_iff.mp previous
              omega
            refine ⟨base, based, ?_⟩
            rw [sequence_of_follows position sequence safe, atEnd,
              Option.some.injEq]
            omega

/-- Newest first, every entry names the digest of the entry before it. -/
theorem Accepted.linked (accepted : Accepted host options entries) :
    Linked (·.entryDigest) (·.previousDigest) entries.reverse := by
  induction entries using List.reverseRecOn with
  | nil =>
      exact List.isChain_nil
  | append_singleton entries last inductionHypothesis =>
      obtain ⟨before, lastAccepted⟩ :=
        (accepted_append_singleton host options).mp accepted
      have older := inductionHypothesis before
      have position := lastAccepted.position
      simp only [stateAfter] at position
      rw [List.reverse_append, List.reverse_singleton, List.singleton_append]
      rw [← List.head?_reverse] at position
      cases reversed : entries.reverse with
      | nil =>
          exact List.isChain_singleton last
      | cons previous rest =>
          rw [reversed] at older position
          rw [List.head?_cons, InPosition, follows, Bool.and_eq_true,
            beq_iff_eq] at position
          exact List.isChain_cons_cons.mpr ⟨position.2, older⟩

/-! ## The head binds the chain -/

/-- Hashing the entries of two chains reveals where their entries agree. -/
private theorem pins_of_accepted {left right : List AuditChainEntry}
    {leftOptions rightOptions : VerifyAuditChainOptions}
    (leftAccepted : Accepted host leftOptions left)
    (rightAccepted : Accepted host rightOptions right)
    (free : CollisionFree (entryPreimages host left ++
      entryPreimages host right)) :
    Pins (·.entryDigest) (·.previousDigest) (EntryAgreement host)
      left.reverse right.reverse := by
  intro a aMember b bMember same
  rw [List.mem_reverse] at aMember bMember
  obtain ⟨aSealed, _, aId⟩ := leftAccepted.sealed a aMember
  obtain ⟨bSealed, _, bId⟩ := rightAccepted.sealed b bMember
  have agreement := entryAgreement_of_digest free aMember bMember aSealed
    bSealed aId bId same
  refine ⟨agreement, ?_⟩
  intro p pMember q qMember aPrevious bPrevious
  rw [List.mem_reverse] at pMember qMember
  have pHex := isHexDigest_of_entryDigest (leftAccepted.sealed p pMember).1
  have qHex := isHexDigest_of_entryDigest (rightAccepted.sealed q qMember).1
  have sameForm := agreement.previousDigest
  simp only at aPrevious bPrevious
  rw [aPrevious, bPrevious] at sameForm
  exact sameForm_string host (normalText_of_isHexDigest host pHex)
    (normalText_of_isHexDigest host qHex) sameForm

theorem toInt?_of_sameForm {left right : JsNumber}
    (same : SameForm host (.number left) (.number right)) :
    left.toInt? = right.toInt? := by
  obtain ⟨form, leftForm, rightForm⟩ := same
  rw [Canonical] at leftForm rightForm
  obtain ⟨number, _, leftIntegral, rfl⟩ := leftForm
  obtain ⟨other, _, rightIntegral, shape⟩ := rightForm
  simp only [Json.number.injEq, JsNumber.integer.injEq] at shape
  rw [leftIntegral, rightIntegral, shape]

/-- The last sequence tells the length of a chain. -/
private theorem length_of_last {left right : List AuditChainEntry}
    {leftOptions rightOptions : VerifyAuditChainOptions}
    (leftAccepted : Accepted host leftOptions left)
    (rightAccepted : Accepted host rightOptions right)
    (sameCheckpoint : leftOptions.trustedCheckpoint =
      rightOptions.trustedCheckpoint) {a b : AuditChainEntry}
    (aLast : left.getLast? = some a) (bLast : right.getLast? = some b)
    (sameSequence : a.sequence.toInt? = b.sequence.toInt?) :
    left.length = right.length := by
  rw [List.getLast?_eq_getElem?] at aLast bLast
  obtain ⟨base, based, aSequence⟩ := leftAccepted.sequences aLast
  obtain ⟨otherBase, otherBased, bSequence⟩ := rightAccepted.sequences bLast
  have sameBase : base = otherBase := by
    rw [baseSequence, sameCheckpoint] at based
    rw [baseSequence, based, Option.some.injEq] at otherBased
    exact otherBased
  rw [aSequence, bSequence, sameBase, Option.some.injEq] at sameSequence
  obtain ⟨leftRange, _⟩ := List.getElem?_eq_some_iff.mp aLast
  obtain ⟨rightRange, _⟩ := List.getElem?_eq_some_iff.mp bLast
  omega

/-- Two valid chains with one checkpoint and one head digest have one length
and agree entry by entry. -/
theorem verifyAuditChain_head_binds
    {leftOptions rightOptions : VerifyAuditChainOptions}
    {left right : List AuditChainEntry}
    {leftVerification rightVerification : AuditChainVerification}
    {a b : AuditChainEntry}
    (leftVerified :
      verifyAuditChain host left leftOptions = .ok leftVerification)
    (leftValid : leftVerification.valid = true)
    (rightVerified :
      verifyAuditChain host right rightOptions = .ok rightVerification)
    (rightValid : rightVerification.valid = true)
    (sameCheckpoint : leftOptions.trustedCheckpoint =
      rightOptions.trustedCheckpoint)
    (aLast : left.getLast? = some a) (bLast : right.getLast? = some b)
    (sameHead : a.entryDigest = b.entryDigest)
    (free : CollisionFree (entryPreimages host left ++
      entryPreimages host right)) :
    left.length = right.length ∧
      List.Forall₂ (EntryAgreement host) left right := by
  obtain ⟨_, leftAccepted, _⟩ := (verifyAuditChain_valid_iff host
    leftOptions).mp ⟨_, leftVerified, leftValid⟩
  obtain ⟨_, rightAccepted, _⟩ := (verifyAuditChain_valid_iff host
    rightOptions).mp ⟨_, rightVerified, rightValid⟩
  have pins := pins_of_accepted leftAccepted rightAccepted free
  have aMember : a ∈ left.reverse := by
    rw [List.mem_reverse]
    exact List.mem_of_getLast? aLast
  have bMember : b ∈ right.reverse := by
    rw [List.mem_reverse]
    exact List.mem_of_getLast? bLast
  have headAgreement := (pins a aMember b bMember sameHead).1
  have sameLength := length_of_last leftAccepted rightAccepted sameCheckpoint
    aLast bLast (toInt?_of_sameForm headAgreement.sequence)
  refine ⟨sameLength, List.forall₂_reverse_iff.mp ?_⟩
  apply forall₂_of_head_eq leftAccepted.linked rightAccepted.linked _ _ pins
  · rw [List.length_reverse, List.length_reverse, sameLength]
  · rw [List.head?_reverse, List.head?_reverse, aLast, bLast]
    exact congrArg some sameHead

end Host

/-- An event of one stream, by its identifier and idempotency key. -/
def recordedEvent (eventId idempotencyKey : JsString) : TrustEvent where
  structureVersion := js "1"
  eventId := eventId
  tenantId := js "tenant-1"
  streamId := js "stream-1"
  eventType := js "action.verified"
  provenanceLifecycle := none
  subjectType := js "action"
  subjectId := js "subject-1"
  actorIdentityId := none
  occurredAt := js "2026-07-17T10:00:00.000Z"
  idempotencyKey := idempotencyKey
  details := .object []

/-- A first entry, with its time as it is written. -/
def recordedFirst (appendedAt : JsString) : AuditChainEntry where
  structureVersion := js "1"
  entryId := js
    "audit_f042f4dcbf7a3b374918ddad43de7e0aa701216444d992d9532a43a52838065c"
  tenantId := js "tenant-1"
  streamId := js "stream-1"
  sequence := .integer 1
  previousDigest := none
  event := recordedEvent (js "event-1") (js "key-1")
  eventDigest := js
    "a50e26a61c329e294b86fee4cdf3fc6a8d708dd73c4ccd3b2e6b44a25a1094b5"
  entryDigest := js
    "f042f4dcbf7a3b374918ddad43de7e0aa701216444d992d9532a43a52838065c"
  checkpoint := none
  appendedAt := appendedAt

/-- The entry after it, of a second event. -/
def recordedSecond (appendedAt : JsString) : AuditChainEntry where
  structureVersion := js "1"
  entryId := js
    "audit_132b90fc3a780ba3c510d19dc02b933ea52e8d7c50f8aa6cda7e3a4d41792d0a"
  tenantId := js "tenant-1"
  streamId := js "stream-1"
  sequence := .integer 2
  previousDigest := some (recordedFirst []).entryDigest
  event := recordedEvent (js "event-2") (js "key-2")
  eventDigest := js
    "ee52ff614128616cd5c7e12b2e611c6ba8249ec1d645ab1a1cdc78c4cb87a887"
  entryDigest := js
    "132b90fc3a780ba3c510d19dc02b933ea52e8d7c50f8aa6cda7e3a4d41792d0a"
  checkpoint := none
  appendedAt := appendedAt

/-- Two linked entries, with their times in the canonical form. -/
def recordedChain : List AuditChainEntry :=
  [recordedFirst (js "2026-07-17T10:00:01.000Z"),
    recordedSecond (js "2026-07-17T10:01:01.000Z")]

/-- The same entries with each time written in another way. -/
def respelledChain : List AuditChainEntry :=
  [recordedFirst (js "2026-07-17T12:00:01+02:00"),
    recordedSecond (js "2026-07-17T10:01:01Z")]

theorem verifyAuditChain_head_binds_respelled :
    ∃ verification,
      verifyAuditChain (recordedHost []) recordedChain {} = .ok verification ∧
      verifyAuditChain (recordedHost []) respelledChain {} =
          .ok verification ∧
      verification.valid = true ∧
      recordedChain.length = respelledChain.length ∧
      List.Forall₂ (EntryAgreement (recordedHost [])) recordedChain
        respelledChain := by
  have leftVerified :
      verifyAuditChain (recordedHost []) recordedChain {} =
        .ok ⟨true, [.valid], some (recordedSecond []).entryId, false⟩ := by
    decide +kernel
  have rightVerified :
      verifyAuditChain (recordedHost []) respelledChain {} =
        .ok ⟨true, [.valid], some (recordedSecond []).entryId, false⟩ := by
    decide +kernel
  have leftFree :
      CollisionFree (entryPreimages (recordedHost []) recordedChain) := by
    apply collisionFree_of_nodup
      (show _ = [(recordedFirst []).entryDigest,
        (recordedSecond []).entryDigest] by decide +kernel)
    decide +kernel
  have samePreimages : entryPreimages (recordedHost []) respelledChain =
      entryPreimages (recordedHost []) recordedChain := by
    decide +kernel
  have free : CollisionFree (entryPreimages (recordedHost []) recordedChain ++
      entryPreimages (recordedHost []) respelledChain) := by
    rw [samePreimages]
    exact leftFree.mono
      (List.append_subset.mpr ⟨List.Subset.refl _, List.Subset.refl _⟩)
  exact ⟨_, leftVerified, rightVerified, rfl,
    verifyAuditChain_head_binds leftVerified rfl rightVerified rfl rfl rfl rfl
      rfl free⟩

end BidayaxExecutive.Trust
