import BidayaxExecutive.Trust.AuditAppend
import BidayaxExecutive.TrustStore.StoredRecords

/-!
# Chains that are stored entry by entry

An entry is appended without a check of its own size.  When the keys of the
stream keep it from repeating an earlier one, that is all the verifier can find
wrong with the new chain: it accepts the entries before the last, and the last
one too exactly when no limit is exceeded.
-/

namespace BidayaxExecutive.TrustStore

open BidayaxExecutive.Runtime
open BidayaxExecutive.Trust

/-- What `verifyAuditChain` allows by default. -/
structure WithinLimits (chain : List AuditChainEntry) : Prop where
  count : chain.length ≤ 1000
  small : ∀ entry ∈ chain, serializedBytes entry.toJson ≤ 16384
  smallChain :
    serializedBytes (.array (chain.map (·.toJson))) ≤ 1048576

structure SealedChain (host : Host) (options : VerifyAuditChainOptions)
    (chain : List AuditChainEntry) : Prop where
  earlier : Verifies host options chain.dropLast
  whole : Verifies host options chain ↔ WithinLimits chain

section Host

variable {host : Host} {options : VerifyAuditChainOptions}
  {entry : AuditChainEntry}

theorem entryAccepted_stored {state : ChainState}
    (accepted : EntryAccepted host options state entry) :
    EntryAccepted host options state (Stored.entry entry) := by
  have position : InPosition options.trustedCheckpoint state.previous
      (Stored.entry entry) := by
    have position := accepted.position
    cases previous : state.previous <;>
      cases trusted : options.trustedCheckpoint <;>
        rw [previous, trusted] at position <;> exact position
  exact { accepted with
    position
    small := by
      rw [serializedBytes_storedEntry]
      exact accepted.small
    eventSealed := eventDigest_storedEvent accepted.eventSealed
    entrySealed := entryDigest_storedEntry accepted.entrySealed }

theorem small_of_accepted {entries : List AuditChainEntry}
    (accepted : Trust.Accepted host options entries) :
    ∀ entry ∈ entries, exceeds (serializedBytes entry.toJson)
      options.maxEntrySerializedBytes = false := by
  induction entries using List.reverseRecOn with
  | nil =>
      intro entry member
      exact (List.not_mem_nil member).elim
  | append_singleton entries last inductionHypothesis =>
      rcases (accepted_append_singleton host options).mp accepted with
        ⟨before, lastAccepted⟩
      intro entry member
      rcases List.mem_append.mp member with earlier | here
      · exact inductionHypothesis before entry earlier
      · rw [List.mem_singleton.mp here]
        exact lastAccepted.small

/-- With the default limits a chain verifies when its entries are accepted and
no limit is exceeded. -/
theorem verifies_iff_withinLimits {input : AppendInput}
    {chain : List AuditChainEntry} :
    Verifies host input.options chain ↔
      WithinLimits chain ∧ Trust.Accepted host input.options chain := by
  rw [Verifies, verifyAuditChain_valid_iff]
  have sizes : sizeReasons input.options chain = [] ↔
      chain.length ≤ 1000 ∧
        serializedBytes (.array (chain.map (·.toJson))) ≤ 1048576 := by
    rw [sizeReasons, push_eq_nil, Bool.or_eq_false_iff]
    exact and_congr exceeds_eq_false exceeds_eq_false
  rw [sizes]
  constructor
  · rintro ⟨⟨count, smallChain⟩, accepted, _⟩
    exact ⟨⟨count, fun entry member =>
      exceeds_eq_false.mp (small_of_accepted accepted entry member), smallChain⟩,
      accepted⟩
  · rintro ⟨limits, accepted⟩
    exact ⟨⟨limits.count, limits.smallChain⟩, accepted, rfl⟩

/-- Nothing is wrong with the new entry but perhaps its size. -/
theorem sealedChain_append {input : AppendInput}
    (appends : appendAuditChainEntry host input = .ok entry)
    (newKey : ∀ earlier ∈ input.chain,
      earlier.event.idempotencyKey ≠ input.event.idempotencyKey)
    (newEvent : ∀ earlier ∈ input.chain,
      eventDigest host input.event ≠ .ok earlier.eventDigest)
    (unfollowed : ∀ last ∈ input.chain.getLast?, ∀ earlier ∈ input.chain,
      earlier.previousDigest ≠ some last.entryDigest) :
    SealedChain host input.options (input.chain ++ [Stored.entry entry]) := by
  rcases appendAuditChainEntry_eq_ok.mp appends with ⟨verifies, added⟩
  rcases appended_of_eq_ok added with
    ⟨appendedAt, sealedEvent, digest, appended, rfl⟩
  have before := (verifies_iff_withinLimits.mp verifies).2
  constructor
  · rw [List.dropLast_concat]
    exact verifies
  · rw [verifies_iff_withinLimits]
    refine ⟨And.left, fun limits => ⟨limits, ?_⟩⟩
    refine (accepted_append_singleton host _).mpr ⟨before, ?_⟩
    have small := limits.small _
      (List.mem_append_right _ List.mem_cons_self)
    rw [serializedBytes_storedEntry] at small
    have accepted := (entryAccepted_iff_of_appended appended before).mpr
      ⟨exceeds_eq_false.mpr small, forks_of_unfollowed unfollowed,
        (replays_eq_false appended).mpr ⟨newKey, newEvent⟩⟩
    exact entryAccepted_stored accepted

end Host

theorem withinLimits_nil : WithinLimits [] where
  count := Nat.zero_le _
  small := fun _ member => (List.not_mem_nil member).elim
  smallChain := by decide

theorem sealedChain_nil (host : Host) (stream : AuditStream) :
    SealedChain host stream.options [] :=
  ⟨verifies_nil host stream,
    iff_of_true (verifies_nil host stream) withinLimits_nil⟩

end BidayaxExecutive.TrustStore
