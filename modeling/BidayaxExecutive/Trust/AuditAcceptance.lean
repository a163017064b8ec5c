import Mathlib.Data.List.Induction
import BidayaxExecutive.Trust.AuditChain

/-!
# Accepted chains

The loop of `verifyAuditChain` collects no reason exactly when every entry is
accepted after the entries before it.  What one turn accepts is said once, as
`EntryAccepted`; everything about whole chains is an induction over their last
entry.
-/

namespace BidayaxExecutive.Trust

open BidayaxExecutive.Runtime JsString

/-! ## The state of the loop -/

/-- What the loop carries after the given entries. -/
def stateAfter (entries : List AuditChainEntry)
    (reasons : List AuditChainReasonCode) : ChainState where
  reasons := reasons
  sequences := (entries.map (·.sequence)).reverse
  previousDigests := (entries.filterMap fun entry =>
    entry.previousDigest.map (·, entry.entryDigest)).reverse
  eventIds := (entries.map (·.event.eventId)).reverse
  idempotencyKeys := (entries.map (·.event.idempotencyKey)).reverse
  eventDigests := (entries.map (·.eventDigest)).reverse
  previous := entries.getLast?
  lastEntryDigest := entries.getLast?.map (·.entryDigest)

theorem stateAfter_nil (reasons : List AuditChainReasonCode) :
    stateAfter [] reasons = .initial reasons :=
  rfl

theorem advance_stateAfter (entries : List AuditChainEntry)
    (entry : AuditChainEntry) (before now : List AuditChainReasonCode) :
    (stateAfter entries before).advance entry now =
      stateAfter (entries ++ [entry]) (before ++ now) := by
  cases previous : entry.previousDigest with
  | none => simp [stateAfter, ChainState.advance, previous]
  | some digest => simp [stateAfter, ChainState.advance, previous]

@[simp]
theorem push_eq_nil {failed : Bool} {code : AuditChainReasonCode} :
    push failed code = [] ↔ failed = false := by
  cases failed <;> simp [push]

/-! ## One entry -/

section Host

variable (host : Host) (options : VerifyAuditChainOptions)

/-- The entry after the given one, or the first. -/
def InPosition (checkpoint : Option AuditCheckpoint) :
    Option AuditChainEntry → AuditChainEntry → Prop
  | none, entry =>
      match checkpoint with
      | some checkpoint => continuesCheckpoint checkpoint entry = true
      | none => isGenesis entry = true
  | some previous, entry => follows previous entry = true

/-- One turn of the loop adds no reason. -/
structure EntryAccepted (state : ChainState) (entry : AuditChainEntry) :
    Prop where
  small : exceeds (serializedBytes entry.toJson)
    options.maxEntrySerializedBytes = false
  algorithm : (entry.digestAlgorithm.any fun algorithm =>
    !algorithm.strictEquals (.string (js "SHA-256"))) = false
  tenant : options.expectedTenantId.any (entry.tenantId != ·) = false
  stream : options.expectedStreamId.any (entry.streamId != ·) = false
  later : (state.previous.any fun previous =>
    entry.sequence.lessOrEqual previous.sequence) = false
  newSequence : state.sequences.any (sameKey entry.sequence) = false
  unforked : forks state entry = false
  fresh : replays state entry = false
  position : InPosition options.trustedCheckpoint state.previous entry
  previousTenant : (state.previous.any fun previous =>
    entry.tenantId != previous.tenantId) = false
  previousStream : (state.previous.any fun previous =>
    entry.streamId != previous.streamId) = false
  eventTenant : entry.event.tenantId = entry.tenantId
  eventStream : entry.event.streamId = entry.streamId
  eventSealed : eventDigest host entry.event = .ok entry.eventDigest
  entrySealed : entryDigest host entry = .ok entry.entryDigest
  entryId : entry.entryId = js "audit_" ++ entry.entryDigest

private theorem positionReasons_eq_nil {checkpoint : Option AuditCheckpoint}
    {previous : Option AuditChainEntry} {entry : AuditChainEntry} :
    positionReasons checkpoint previous entry = [] ↔
      InPosition checkpoint previous entry := by
  cases previous with
  | none => cases checkpoint <;> simp [positionReasons, InPosition]
  | some previous => simp [positionReasons, InPosition]

/-- One turn of the loop. -/
theorem verifyEntry_eq_ok {state next : ChainState} {entry : AuditChainEntry} :
    verifyEntry host options state entry = .ok next ↔
      ∃ expectedEvent expectedEntry,
        eventDigest host entry.event = .ok expectedEvent ∧
        entryDigest host entry = .ok expectedEntry ∧
        next = state.advance entry
          (entryReasons options state entry expectedEvent expectedEntry) := by
  simp only [verifyEntry, Outcome.bind_eq_ok, Except.ok.injEq]
  constructor
  · intro found
    obtain ⟨expectedEvent, sealedEvent, expectedEntry, sealedEntry, same⟩ :=
      found
    exact ⟨expectedEvent, expectedEntry, sealedEvent, sealedEntry, same.symm⟩
  · intro found
    obtain ⟨expectedEvent, expectedEntry, sealedEvent, sealedEntry, same⟩ :=
      found
    exact ⟨expectedEvent, sealedEvent, expectedEntry, sealedEntry, same.symm⟩

/-- The turn of an accepted entry. -/
theorem entryAccepted_iff {state : ChainState} {entry : AuditChainEntry} :
    EntryAccepted host options state entry ↔
      ∃ expectedEvent expectedEntry,
        eventDigest host entry.event = .ok expectedEvent ∧
        entryDigest host entry = .ok expectedEntry ∧
        entryReasons options state entry expectedEvent expectedEntry = [] := by
  simp only [entryReasons, List.flatten_eq_nil_iff, List.mem_cons,
    List.not_mem_nil, or_false, forall_eq_or_imp, forall_eq, push_eq_nil,
    positionReasons_eq_nil, bne_eq_false_iff_eq, Bool.or_eq_false_iff]
  constructor
  · intro accepted
    exact ⟨_, _, accepted.eventSealed, accepted.entrySealed, accepted.small,
      accepted.algorithm, accepted.tenant, accepted.stream, accepted.later,
      accepted.newSequence, accepted.unforked, accepted.fresh,
      accepted.position, accepted.previousTenant, accepted.previousStream,
      accepted.eventTenant, accepted.eventStream, rfl, rfl, accepted.entryId⟩
  · intro found
    obtain ⟨_, _, eventSealed, entrySealed, small, algorithm, tenant, stream,
      later, newSequence, unforked, fresh, position, previousTenant,
      previousStream, eventTenant, eventStream, rfl, rfl, entryId⟩ := found
    exact ⟨small, algorithm, tenant, stream, later, newSequence, unforked,
      fresh, position, previousTenant, previousStream, eventTenant,
      eventStream, eventSealed, entrySealed, entryId⟩

/-! ## Whole chains -/

/-- The loop runs over the entries without a reason. -/
def Accepted (entries : List AuditChainEntry) : Prop :=
  entries.foldlM (verifyEntry host options) (.initial []) =
    .ok (stateAfter entries [])

theorem accepted_nil : Accepted host options [] :=
  rfl

/-- Whatever reasons the loop collects, the rest of its state is read off the
entries. -/
private theorem foldlM_eq_ok {entries : List AuditChainEntry}
    {reasons : List AuditChainReasonCode} {state : ChainState}
    (run : entries.foldlM (verifyEntry host options) (.initial reasons) =
      .ok state) :
    ∃ collected, state = stateAfter entries (reasons ++ collected) := by
  induction entries using List.reverseRecOn generalizing state with
  | nil =>
      rw [List.foldlM_nil] at run
      exact ⟨[], by rw [List.append_nil, stateAfter_nil, Except.ok.inj run]⟩
  | append_singleton entries entry inductionHypothesis =>
      rw [List.foldlM_append] at run
      obtain ⟨before, runBefore, step⟩ := Outcome.bind_eq_ok.mp run
      obtain ⟨collected, rfl⟩ := inductionHypothesis runBefore
      rw [List.foldlM_cons] at step
      obtain ⟨after, turn, last⟩ := Outcome.bind_eq_ok.mp step
      obtain ⟨_, _, _, _, rfl⟩ := (verifyEntry_eq_ok host options).mp turn
      rw [← Except.ok.inj last, advance_stateAfter, List.append_assoc]
      exact ⟨_, rfl⟩

/-- The last turn of a loop without reasons. -/
theorem accepted_append_singleton {entries : List AuditChainEntry}
    {entry : AuditChainEntry} :
    Accepted host options (entries ++ [entry]) ↔
      Accepted host options entries ∧
        EntryAccepted host options (stateAfter entries []) entry := by
  rw [Accepted, List.foldlM_append]
  constructor
  · intro run
    obtain ⟨before, runBefore, step⟩ := Outcome.bind_eq_ok.mp run
    obtain ⟨collected, rfl⟩ := foldlM_eq_ok host options runBefore
    rw [List.foldlM_cons] at step
    obtain ⟨after, turn, last⟩ := Outcome.bind_eq_ok.mp step
    obtain ⟨expectedEvent, expectedEntry, sealedEvent, sealedEntry, rfl⟩ :=
      (verifyEntry_eq_ok host options).mp turn
    rw [List.foldlM_nil, advance_stateAfter] at last
    have reasons := congrArg ChainState.reasons (Except.ok.inj last)
    simp only [stateAfter, List.nil_append, List.append_eq_nil_iff] at reasons
    obtain ⟨rfl, accepted⟩ := reasons
    exact ⟨runBefore, (entryAccepted_iff host options).mpr
      ⟨expectedEvent, expectedEntry, sealedEvent, sealedEntry, accepted⟩⟩
  · intro found
    obtain ⟨accepted, entryAccepted⟩ := found
    obtain ⟨expectedEvent, expectedEntry, sealedEvent, sealedEntry, none⟩ :=
      (entryAccepted_iff host options).mp entryAccepted
    have turn : verifyEntry host options (stateAfter entries []) entry =
        .ok (stateAfter (entries ++ [entry]) []) := by
      rw [verifyEntry_eq_ok]
      exact ⟨expectedEvent, expectedEntry, sealedEvent, sealedEntry,
        by rw [none, advance_stateAfter, List.append_nil]⟩
    rw [accepted, Outcome.ok_bind, List.foldlM_cons, turn]
    rfl

private theorem eraseDups_isEmpty {reasons : List AuditChainReasonCode} :
    reasons.eraseDups.isEmpty = true ↔ reasons = [] := by
  cases reasons with
  | nil => simp
  | cons first rest => simp [List.eraseDups_cons]

/-- A chain is valid when its size, its loop and its head are. -/
theorem verifyAuditChain_valid_iff {entries : List AuditChainEntry} :
    (∃ verification, verifyAuditChain host entries options =
        .ok verification ∧ verification.valid = true) ↔
      sizeReasons options entries = [] ∧ Accepted host options entries ∧
        headReasons options (stateAfter entries []) = [] := by
  constructor
  · intro found
    obtain ⟨verification, verified, valid⟩ := found
    rw [verifyAuditChain] at verified
    obtain ⟨state, run, verified⟩ := Outcome.bind_eq_ok.mp verified
    rw [← Except.ok.inj verified] at valid
    obtain ⟨collected, rfl⟩ := foldlM_eq_ok host options run
    simp only [eraseDups_isEmpty, List.append_eq_nil_iff, stateAfter] at valid
    obtain ⟨⟨small, rfl⟩, head⟩ := valid
    rw [small] at run
    exact ⟨small, run, head⟩
  · intro found
    obtain ⟨small, accepted, head⟩ := found
    have reasons : (stateAfter entries []).reasons = [] := rfl
    rw [verifyAuditChain, small, accepted]
    simp [head, reasons]

end Host

end BidayaxExecutive.Trust
