import BidayaxExecutive.Identity.Service
import BidayaxExecutive.Library.HashTree
import BidayaxExecutive.Library.IgnoredConflicts

/-!
# The audit trail of identities

An audit event is inserted unless its id is in use, and the insert succeeds
either way.  The id is made of five of the fields, so events that differ in the
others only have one id, and the later ones are dropped without a failure.
-/

namespace BidayaxExecutive.Identity

open BidayaxExecutive.Runtime JsString
open BidayaxExecutive.Library.HashTree
open BidayaxExecutive.Library.IgnoredConflicts

/-! ## Runs -/

/-- A call of `saveAuditEvent`, and what the other tables hold at the time. -/
structure AuditCall where
  elsewhere : IdentityDatabase
  input : IdentityAuditInput

structure AuditLog where
  events : List IdentityAuditEvent
  acknowledged : List IdentityAuditInput

/-- The row that records the input. -/
def recordedRow (input : IdentityAuditInput) : IdentityAuditEvent :=
  auditRow (createIdentityAuditEvent input)

def afterSave (log : AuditLog) (call : AuditCall) : AuditLog :=
  match saveAuditEvent (createIdentityAuditEvent call.input)
    { call.elsewhere with auditEvents := log.events } with
  | (.ok (), written) =>
      { events := written.auditEvents
        acknowledged := log.acknowledged ++ [call.input] }
  | (.error _, _) => log

def afterSaves (calls : List AuditCall) : AuditLog :=
  calls.foldl afterSave ⟨[], []⟩

/-- Every input whose save succeeded is recorded in the end. -/
def NoneDropped (calls : List AuditCall) : Prop :=
  ∀ input ∈ (afterSaves calls).acknowledged,
    recordedRow input ∈ (afterSaves calls).events

/-- All recorded fields, without the id. -/
def recordedFields (input : IdentityAuditInput) : IdentityAuditEvent :=
  { recordedRow input with eventId := [] }

def inputs (calls : List AuditCall) : List IdentityAuditInput :=
  calls.map (·.input)

/-- Inputs that differ in a recorded field have ids of their own, and every
one of them is recorded. -/
def EachRecorded (calls : List AuditCall) : Prop :=
  (∀ left ∈ inputs calls, ∀ right ∈ inputs calls,
      recordedFields left ≠ recordedFields right →
      (createIdentityAuditEvent left).eventId ≠
        (createIdentityAuditEvent right).eventId) ∧
    NoneDropped calls

/-- The bytes that the id is the digest of. -/
def identityText (input : IdentityAuditInput) : List UInt8 :=
  utf8 (joinBars (identityParts input))

/-- Inputs that differ in a recorded field differ in what is hashed. -/
def TextsDistinguish (calls : List AuditCall) : Prop :=
  ∀ left ∈ inputs calls, ∀ right ∈ inputs calls,
    identityText left = identityText right →
    recordedFields left = recordedFields right

/-! ## References -/

/-- The rows that the event refers to are stored. -/
structure ReferencesStored (database : IdentityDatabase)
    (input : IdentityAuditInput) : Prop where
  user : ∀ userId, input.userId = some userId →
    database.identities.any (·.userId == userId) = true
  tenant : ∀ tenantId, input.tenantId = some tenantId →
    database.tenants.contains tenantId = true
  session : ∀ sessionId, input.sessionId = some sessionId →
    database.sessions.any (·.sessionId == sessionId) = true

theorem any_not_eq_false {α : Type} {reference : Option α} {known : α → Bool} :
    reference.any (fun value => !known value) = false ↔
      ∀ value, reference = some value → known value = true := by
  cases reference with
  | none =>
      simp
  | some value =>
      simp

instance (database : IdentityDatabase) (input : IdentityAuditInput) :
    Decidable (ReferencesStored database input) :=
  decidable_of_iff
    (input.userId.any (fun userId =>
        !database.identities.any (·.userId == userId)) = false ∧
      input.tenantId.any (fun tenantId =>
        !database.tenants.contains tenantId) = false ∧
      input.sessionId.any (fun sessionId =>
        !database.sessions.any (·.sessionId == sessionId)) = false) <| by
    rw [any_not_eq_false, any_not_eq_false, any_not_eq_false]
    exact ⟨fun stored => ⟨stored.1, stored.2.1, stored.2.2⟩,
      fun stored => ⟨stored.user, stored.tenant, stored.session⟩⟩

section Saves

variable {database : IdentityDatabase} {input : IdentityAuditInput}

theorem saveAuditEvent_of_known
    (known : database.auditEvents.any
      (·.eventId == (createIdentityAuditEvent input).eventId) = true) :
    saveAuditEvent (createIdentityAuditEvent input) database =
      (.ok (), database) := by
  unfold saveAuditEvent statement
  simp only [if_pos known]

theorem saveAuditEvent_of_referencesStored
    (new : ¬database.auditEvents.any
      (·.eventId == (createIdentityAuditEvent input).eventId) = true)
    (stored : ReferencesStored database input) :
    saveAuditEvent (createIdentityAuditEvent input) database =
      (.ok (),
        { database with
          auditEvents := database.auditEvents ++ [recordedRow input] }) := by
  have user := any_not_eq_false.mpr stored.user
  have tenant := any_not_eq_false.mpr stored.tenant
  have session := any_not_eq_false.mpr stored.session
  rw [createIdentityAuditEvent] at new
  unfold saveAuditEvent statement recordedRow
  simp only [createIdentityAuditEvent, new, user, tenant, session,
    Bool.false_eq_true, if_false]

theorem saveAuditEvent_of_dangling
    (new : ¬database.auditEvents.any
      (·.eventId == (createIdentityAuditEvent input).eventId) = true)
    (dangling : ¬ReferencesStored database input) :
    ∃ failure, saveAuditEvent (createIdentityAuditEvent input) database =
      (.error failure, database) := by
  rw [createIdentityAuditEvent] at new
  unfold saveAuditEvent statement
  simp only [createIdentityAuditEvent, new, Bool.false_eq_true, if_false]
  by_cases user : input.userId.any (fun userId =>
      !database.identities.any (·.userId == userId)) = true
  · simp only [user, if_true]
    exact ⟨_, rfl⟩
  · by_cases tenant : input.tenantId.any (fun tenantId =>
        !database.tenants.contains tenantId) = true
    · simp only [user, tenant, if_true, Bool.false_eq_true, if_false]
      exact ⟨_, rfl⟩
    · by_cases session : input.sessionId.any (fun sessionId =>
          !database.sessions.any (·.sessionId == sessionId)) = true
      · simp only [user, tenant, session, if_true, Bool.false_eq_true, if_false]
        exact ⟨_, rfl⟩
      · refine absurd ⟨?_, ?_, ?_⟩ dangling
        · exact any_not_eq_false.mp (eq_false_of_ne_true user)
        · exact any_not_eq_false.mp (eq_false_of_ne_true tenant)
        · exact any_not_eq_false.mp (eq_false_of_ne_true session)

end Saves

/-! ## Requests -/

/-- A save, as an insert that ignores conflicts. -/
def saveRequest (call : AuditCall) : Request IdentityAuditEvent where
  row := recordedRow call.input
  admitted := decide (ReferencesStored call.elsewhere call.input)

def AuditLog.journal (log : AuditLog) : Journal IdentityAuditEvent where
  rows := log.events
  acknowledged := log.acknowledged.map recordedRow

theorem journal_afterSave (log : AuditLog) (call : AuditCall) :
    (afterSave log call).journal =
      submit IdentityAuditEvent.eventId log.journal (saveRequest call) := by
  unfold afterSave
  by_cases known : log.events.any
      (·.eventId == (createIdentityAuditEvent call.input).eventId) = true
  · rw [saveAuditEvent_of_known known]
    rcases List.any_eq_true.mp known with ⟨old, member, same⟩
    rw [submit_of_known member (eq_of_beq same)]
    simp [AuditLog.journal, saveRequest]
  · have free : ∀ old ∈ log.journal.rows,
        old.eventId ≠ (saveRequest call).row.eventId := by
      intro old member same
      exact known (List.any_eq_true.mpr ⟨old, member, beq_iff_eq.mpr same⟩)
    rw [submit_of_new free]
    by_cases stored : ReferencesStored call.elsewhere call.input
    · have stored' : ReferencesStored
          { call.elsewhere with auditEvents := log.events } call.input :=
        { stored with }
      rw [saveAuditEvent_of_referencesStored known stored']
      simp [AuditLog.journal, saveRequest, stored]
    · have dangling : ¬ReferencesStored
          { call.elsewhere with auditEvents := log.events } call.input :=
        fun stored' => stored { stored' with }
      rcases saveAuditEvent_of_dangling known dangling with ⟨failure, fails⟩
      rw [fails]
      simp [saveRequest, stored]

theorem journal_afterSaves (calls : List AuditCall) :
    (afterSaves calls).journal =
      submitAll IdentityAuditEvent.eventId (calls.map saveRequest) := by
  induction calls using List.reverseRecOn with
  | nil =>
      rfl
  | append_singleton calls call inductionHypothesis =>
      rw [List.map_append, List.map_singleton, submitAll_append_singleton,
        ← inductionHypothesis, ← journal_afterSave]
      unfold afterSaves
      rw [List.foldl_append]
      rfl

/-- Nothing is dropped exactly when no save shares the id of an earlier one
whose references are stored, and records something else. -/
theorem noneDropped_iff (calls : List AuditCall) :
    NoneDropped calls ↔
      Compatible IdentityAuditEvent.eventId (calls.map saveRequest) := by
  rw [← kept_submitAll, ← journal_afterSaves]
  unfold NoneDropped Kept AuditLog.journal
  simp only [List.forall_mem_map]

/-! ## Ids -/

theorem eventId_eq_iff {calls : List AuditCall} {left right :
      IdentityAuditInput}
    (free : CollisionFreeOn sha256Hex ((inputs calls).map identityText))
    (leftMember : left ∈ inputs calls) (rightMember : right ∈ inputs calls) :
    (createIdentityAuditEvent left).eventId =
        (createIdentityAuditEvent right).eventId ↔
      identityText left = identityText right := by
  constructor
  · intro same
    exact free _ (List.mem_map_of_mem leftMember) _
      (List.mem_map_of_mem rightMember) same
  · intro same
    exact congrArg sha256Hex same

/-- The id of the row, and the other recorded fields, make up the row. -/
theorem recordedRow_eq_of_fields {left right : IdentityAuditInput}
    (sameId : (createIdentityAuditEvent left).eventId =
      (createIdentityAuditEvent right).eventId)
    (sameFields : recordedFields left = recordedFields right) :
    recordedRow left = recordedRow right := by
  have sameRows : { recordedFields left with
        eventId := (createIdentityAuditEvent left).eventId } =
      { recordedFields right with
        eventId := (createIdentityAuditEvent right).eventId } := by
    rw [sameId, sameFields]
  exact sameRows

/-- Each input of a run is recorded, under an id of its own where it differs,
exactly when the hashed texts tell the inputs apart. -/
theorem saveAuditEvent_eachRecorded (calls : List AuditCall)
    (free : CollisionFreeOn sha256Hex ((inputs calls).map identityText)) :
    EachRecorded calls ↔ TextsDistinguish calls := by
  constructor
  · intro recorded left leftMember right rightMember same
    by_contra different
    exact recorded.1 left leftMember right rightMember different
      ((eventId_eq_iff free leftMember rightMember).mpr same)
  · intro distinguish
    have fields : ∀ left ∈ inputs calls, ∀ right ∈ inputs calls,
        (createIdentityAuditEvent left).eventId =
          (createIdentityAuditEvent right).eventId →
        recordedFields left = recordedFields right := by
      intro left leftMember right rightMember same
      exact distinguish left leftMember right rightMember
        ((eventId_eq_iff free leftMember rightMember).mp same)
    refine ⟨?_, ?_⟩
    · intro left leftMember right rightMember different same
      exact different (fields left leftMember right rightMember same)
    · rw [noneDropped_iff]
      refine List.pairwise_map.mpr (List.pairwise_of_forall_mem_list ?_)
      intro earlier earlierMember later laterMember _ same
      exact recordedRow_eq_of_fields same
        (fields _ (List.mem_map_of_mem earlierMember) _
          (List.mem_map_of_mem laterMember) same)

/-! ## Webhooks at one instant -/

def emptyDatabase : IdentityDatabase where
  now := .epoch
  tenants := []
  identities := []
  providerAccounts := []
  tenantLinks := []
  memberships := []
  grants := []
  sessions := []
  transactions := []
  auditEvents := []
  webhookReceipts := []

/-- The audit event of a webhook at the epoch. -/
def webhookAudit (providerEventId : JsString) : IdentityAuditInput where
  eventType := .providerWebhookReceived
  metadata :=
    [(js "providerEventId", .string providerEventId),
      (js "providerEventType", .string (js "session.revoked"))]
  occurredAt := toISOString .epoch
  reasonCode := js "WEBHOOK_VERIFIED"
  result := .succeeded

/-- The revocation that the webhook records before. -/
def revocationAudit : IdentityAuditInput where
  eventType := .sessionRevoked
  metadata := [(js "providerEventId", .string (js "event_first"))]
  occurredAt := toISOString .epoch
  reasonCode := js "PROVIDER_SESSION_REVOKED"
  result := .succeeded

theorem revocation_eachRecorded :
    EachRecorded
      [⟨emptyDatabase, revocationAudit⟩,
        ⟨emptyDatabase, webhookAudit (js "event_first")⟩] := by
  refine (saveAuditEvent_eachRecorded _ ?_).mpr ?_
  · have different : sha256Hex (identityText revocationAudit) ≠
        sha256Hex (identityText (webhookAudit (js "event_first"))) := by
      decide +kernel
    simpa [CollisionFreeOn, inputs, different] using
      fun same => absurd same.symm different
  · have different : identityText revocationAudit ≠
        identityText (webhookAudit (js "event_first")) := by
      decide +kernel
    simpa [TextsDistinguish, inputs, different] using
      fun same => absurd same.symm different

/-- Two webhooks that arrive at one instant have one id. -/
theorem webhooks_not_eachRecorded :
    ¬∀ calls : List AuditCall,
      CollisionFreeOn sha256Hex ((inputs calls).map identityText) →
      EachRecorded calls := by
  intro claim
  have recorded := claim
    [⟨emptyDatabase, webhookAudit (js "event_first")⟩,
      ⟨emptyDatabase, webhookAudit (js "event_second")⟩] ?_
  · exact recorded.1 (webhookAudit (js "event_first")) List.mem_cons_self
      (webhookAudit (js "event_second"))
      (List.mem_cons_of_mem _ List.mem_cons_self) (by decide) rfl
  · have same : identityText (webhookAudit (js "event_second")) =
        identityText (webhookAudit (js "event_first")) :=
      rfl
    simp [CollisionFreeOn, inputs, same]

end BidayaxExecutive.Identity
