import BidayaxExecutive.Library.ClaimedKeys
import BidayaxExecutive.Library.Separator
import BidayaxExecutive.Runtime.JsMap
import BidayaxExecutive.Settings.StableHash
import BidayaxExecutive.Trust.Hashing

/-!
# Operations of the sandbox provider

An operation is recorded under its name and the session id, with the hash of
its payload.  The same payload gets the recorded result back, any other payload
is refused.  The tenant is in the payload but not in the key: a session id that
two tenants use belongs to the tenant that comes first.
-/

namespace BidayaxExecutive.Telephony

open BidayaxExecutive.Runtime JsString
open BidayaxExecutive.Settings
open BidayaxExecutive.Trust
open BidayaxExecutive.Library.ClaimedKeys

/-! ## The in-memory store -/

structure InMemoryStore (Value : Type) where
  values : JsMap JsString Value
  deriving DecidableEq

def createInMemoryStore (Value : Type) : InMemoryStore Value :=
  ⟨.empty⟩

namespace InMemoryStore

variable {Value : Type}

def get (store : InMemoryStore Value) (key : JsString) : Option Value :=
  store.values.get key

def has (store : InMemoryStore Value) (key : JsString) : Bool :=
  store.values.has key

def remember (store : InMemoryStore Value) (key : JsString) (value : Value) :
    InMemoryStore Value :=
  ⟨store.values.set key value⟩

theorem get_remember (store : InMemoryStore Value) (key other : JsString)
    (value : Value) :
    (store.remember key value).get other =
      if other = key then some value else store.get other :=
  store.values.get_set key other value

variable (Value) in
def keyedStore : KeyedStore (InMemoryStore Value) JsString Value where
  lookup := get
  remember := remember
  lookup_remember store key value := by
    rw [get_remember, if_pos rfl]
  lookup_of_ne store value key other different := by
    rw [get_remember, if_neg different]

end InMemoryStore

/-! ## Results -/

structure ProviderOperationResult where
  accepted : Bool
  providerReference : Option JsString
  reasonCodes : List JsString
  deriving DecidableEq, Repr

structure TelephonyProviderContext where
  tenantId : JsString
  cardId : JsString
  sessionId : Option JsString
  deriving DecidableEq, Repr

inductive SandboxProviderMode where
  | disabled
  | mock
  | sandbox
  | production
  deriving DecidableEq, Repr

def disabledResult (reasonCode : JsString) : ProviderOperationResult :=
  ⟨false, none, [reasonCode, js "PRODUCTION_CALLING_DISABLED"]⟩

def rejectIfNotSandbox (mode : SandboxProviderMode) :
    Option ProviderOperationResult :=
  if mode = .production then
    some (disabledResult (js "PRODUCTION_PROVIDER_MODE_BLOCKED"))
  else if mode = .sandbox then none
  else some (disabledResult (js "SANDBOX_PROVIDER_DISABLED"))

def acceptedResult (operation : JsString) (context : TelephonyProviderContext) :
    ProviderOperationResult where
  accepted := true
  providerReference := some <|
    js "sandbox:" ++ operation ++ 58 :: context.sessionId.getD context.cardId
  reasonCodes :=
    [js "SANDBOX_OPERATION_ACCEPTED", js "PRODUCTION_CALLING_DISABLED"]

/-! ## The payload -/

structure SandboxOperationInput where
  capability : JsString
  context : TelephonyProviderContext
  idempotencyKey : Option JsString
  payload : List (JsString × Json)

structure SandboxOperationRecord where
  payloadHash : JsString
  result : ProviderOperationResult
  deriving DecidableEq, Repr

abbrev SandboxOperationStore := InMemoryStore SandboxOperationRecord

def createInMemorySandboxOperationStore : SandboxOperationStore :=
  createInMemoryStore SandboxOperationRecord

def hashValue (value : JsString) : JsString :=
  sha256Bytes (utf8 value)

section Platform

variable (platform : Platform)

/-- `Object.fromEntries` enumerates the sorted entries in its own order. -/
def stableFieldsOf (input : List (JsString × Json)) : List (JsString × Json) :=
  ownPropertyOrder (localeSort platform input)

def stableJson (input : List (JsString × Json)) : JsString :=
  jsonStringify (.object (stableFieldsOf platform input))

def canonicalOperationFields (input : SandboxOperationInput) :
    List (JsString × Json) :=
  [(js "capability", .string input.capability),
    (js "cardId", .string input.context.cardId),
    (js "payload", .string (stableJson platform input.payload)),
    (js "sessionId", input.context.sessionId.elim .null .string),
    (js "tenantId", .string input.context.tenantId)]

def canonicalOperationPayload (input : SandboxOperationInput) : JsString :=
  stableJson platform (canonicalOperationFields platform input)

def payloadHashOf (input : SandboxOperationInput) : JsString :=
  hashValue (canonicalOperationPayload platform input)

/-! ## Executing an operation -/

/-- `!idempotencyKey` also holds of the empty text. -/
def executeSandboxOperation (mode : SandboxProviderMode)
    (operationStore : SandboxOperationStore) (input : SandboxOperationInput)
    (result : ProviderOperationResult) :
    ProviderOperationResult × SandboxOperationStore :=
  match rejectIfNotSandbox mode with
  | some modeDecision => (modeDecision, operationStore)
  | none =>
      match input.idempotencyKey.filter (!·.isEmpty) with
      | none =>
          (disabledResult (js "SANDBOX_IDEMPOTENCY_KEY_REQUIRED"),
            operationStore)
      | some idempotencyKey =>
          let payloadHash := payloadHashOf platform input
          match operationStore.get idempotencyKey with
          | some existing =>
              (if existing.payloadHash = payloadHash then existing.result
                else disabledResult (js "SANDBOX_IDEMPOTENCY_PAYLOAD_MISMATCH"),
                operationStore)
          | none =>
              (result,
                operationStore.remember idempotencyKey ⟨payloadHash, result⟩)

/-- The template of the key, for a session id that is not the empty text. -/
def sessionKey (operation : JsString) (context : TelephonyProviderContext) :
    Option JsString :=
  (context.sessionId.filter (!·.isEmpty)).map fun sessionId =>
    operation ++ 58 :: sessionId

/-! ## The operations -/

inductive SandboxCall where
  | requestHangup (context : TelephonyProviderContext)
  | requestInboundAnswer (context : TelephonyProviderContext)
  | requestOutboundDial (context : TelephonyProviderContext)
  | requestTransfer (context : TelephonyProviderContext)
      (destination : JsString)
  | sendMessage (context : TelephonyProviderContext)
      (destination message : JsString)
  deriving DecidableEq, Repr

namespace SandboxCall

def context : SandboxCall → TelephonyProviderContext
  | requestHangup context => context
  | requestInboundAnswer context => context
  | requestOutboundDial context => context
  | requestTransfer context _ => context
  | sendMessage context _ _ => context

/-- The first part of the idempotency key. -/
def keyName : SandboxCall → JsString
  | requestHangup _ => js "hangup"
  | requestInboundAnswer _ => js "answer"
  | requestOutboundDial _ => js "dial"
  | requestTransfer _ _ => js "transfer"
  | sendMessage _ _ _ => js "message"

def capability : SandboxCall → JsString
  | requestHangup _ => js "hangup"
  | requestInboundAnswer _ => js "inbound-answer"
  | requestOutboundDial _ => js "outbound-dial"
  | requestTransfer _ _ => js "transfer"
  | sendMessage _ _ _ => js "message"

def payload : SandboxCall → List (JsString × Json)
  | requestTransfer _ destination =>
      [(js "destination", .string destination)]
  | sendMessage _ destination message =>
      [(js "destination", .string destination),
        (js "messageHash", .string (hashValue message))]
  | _ => []

/-- The argument check before the operation is executed. -/
def refusal? : SandboxCall → Option ProviderOperationResult
  | requestTransfer _ destination =>
      if isBlank destination then
        some (disabledResult (js "SANDBOX_TRANSFER_DESTINATION_REQUIRED"))
      else none
  | sendMessage _ destination message =>
      if isBlank destination || isBlank message then
        some (disabledResult
          (js "SANDBOX_MESSAGE_DESTINATION_AND_BODY_REQUIRED"))
      else none
  | _ => none

def input (call : SandboxCall) : SandboxOperationInput where
  capability := call.capability
  context := call.context
  idempotencyKey := sessionKey call.keyName call.context
  payload := call.payload

def result (call : SandboxCall) : ProviderOperationResult :=
  acceptedResult call.capability call.context

end SandboxCall

/-- A call of the provider that `createSandboxTelephonyProvider` returns. -/
def operate (mode : SandboxProviderMode) (operationStore : SandboxOperationStore)
    (call : SandboxCall) : ProviderOperationResult × SandboxOperationStore :=
  match call.refusal? with
  | some refusal => (refusal, operationStore)
  | none =>
      executeSandboxOperation platform mode operationStore call.input
        call.result

end Platform

/-! ## The operations as requests for keys -/

namespace SandboxCall

/-- The call comes as far as the operation store. -/
def reachesStore (mode : SandboxProviderMode) (call : SandboxCall) : Bool :=
  mode = .sandbox && call.refusal?.isNone &&
    call.context.sessionId.any (!·.isEmpty)

/-- The key under which the call is recorded. -/
def recordKey (mode : SandboxProviderMode) (call : SandboxCall) :
    Option JsString :=
  if call.reachesStore mode then sessionKey call.keyName call.context else none

def recordOf (platform : Platform) (call : SandboxCall) :
    SandboxOperationRecord :=
  ⟨payloadHashOf platform call.input, call.result⟩

/-- The result when nothing is recorded under the key of the call. -/
def resultWhenNew (mode : SandboxProviderMode) (call : SandboxCall) :
    ProviderOperationResult :=
  if call.reachesStore mode then call.result
  else
    (call.refusal?.or (rejectIfNotSandbox mode)).getD
      (disabledResult (js "SANDBOX_IDEMPOTENCY_KEY_REQUIRED"))

/-- What a call asks of the operation store. -/
def protocol (platform : Platform) (mode : SandboxProviderMode) :
    Protocol SandboxCall JsString SandboxOperationRecord
      ProviderOperationResult where
  key := recordKey mode
  claim call := some (call.recordOf platform)
  answer call record :=
    match record with
    | none => call.resultWhenNew mode
    | some existing =>
        if existing.payloadHash = payloadHashOf platform call.input then
          existing.result
        else disabledResult (js "SANDBOX_IDEMPOTENCY_PAYLOAD_MISMATCH")

end SandboxCall

open SandboxCall

section Requests

variable {platform : Platform} {mode : SandboxProviderMode}
  {store : SandboxOperationStore} {call : SandboxCall}

theorem rejectIfNotSandbox_eq_none :
    rejectIfNotSandbox mode = none ↔ mode = .sandbox := by
  cases mode <;> decide

theorem filter_sessionKey {operation : JsString}
    {context : TelephonyProviderContext} :
    (sessionKey operation context).filter (!·.isEmpty) =
      sessionKey operation context := by
  unfold sessionKey
  cases context.sessionId.filter (!·.isEmpty) with
  | none =>
      rfl
  | some sessionId =>
      refine Option.filter_eq_some_iff.mpr ⟨rfl, ?_⟩
      cases operation <;> rfl

/-- Who comes as far as the store has a session id for its key. -/
theorem reachesStore_iff :
    call.reachesStore mode = true ↔
      mode = .sandbox ∧ call.refusal? = none ∧
        ∃ sessionId, call.context.sessionId = some sessionId ∧
          sessionId ≠ [] := by
  rw [reachesStore, Bool.and_eq_true, Bool.and_eq_true, decide_eq_true_iff,
    Option.isNone_iff_eq_none, Option.any_eq_true]
  simp [and_assoc]

theorem recordKey_eq_some {key : JsString} :
    call.recordKey mode = some key ↔
      call.reachesStore mode = true ∧
        ∃ sessionId, call.context.sessionId = some sessionId ∧
          key = call.keyName ++ 58 :: sessionId := by
  by_cases reaches : call.reachesStore mode = true
  · obtain ⟨_, _, sessionId, present, nonempty⟩ := reachesStore_iff.mp reaches
    have kept : call.context.sessionId.filter (!·.isEmpty) =
        some sessionId := by
      rw [present]
      exact Option.filter_eq_some_iff.mpr ⟨rfl, by simpa using nonempty⟩
    rw [recordKey, if_pos reaches, sessionKey, kept, Option.map_some]
    simp [reaches, present, eq_comm]
  · rw [recordKey, if_neg reaches]
    simp [reaches]

theorem operate_of_recordKey {key : JsString}
    (named : call.recordKey mode = some key) :
    operate platform mode store call =
      match store.get key with
      | some existing => ((protocol platform mode).answer call existing, store)
      | none =>
          (call.result, store.remember key (call.recordOf platform)) := by
  have reaches := (recordKey_eq_some.mp named).1
  obtain ⟨isSandbox, passes, _⟩ := reachesStore_iff.mp reaches
  have keyed : call.input.idempotencyKey.filter (!·.isEmpty) = some key := by
    rw [recordKey, if_pos reaches] at named
    exact filter_sessionKey.trans named
  rw [operate, passes]
  simp only [executeSandboxOperation, rejectIfNotSandbox_eq_none.mpr isSandbox,
    keyed]
  cases store.get key <;> rfl

theorem operate_of_unrecorded (unnamed : call.recordKey mode = none) :
    operate platform mode store call = (call.resultWhenNew mode, store) := by
  have stops : ¬call.reachesStore mode = true := by
    intro reaches
    obtain ⟨_, _, sessionId, present, _⟩ := reachesStore_iff.mp reaches
    exact nomatch unnamed.symm.trans
      (recordKey_eq_some.mpr ⟨reaches, sessionId, present, rfl⟩)
  rw [resultWhenNew, if_neg stops, operate]
  cases refused : call.refusal? with
  | some refusal =>
      rfl
  | none =>
      rw [executeSandboxOperation, Option.none_or]
      cases rejected : rejectIfNotSandbox mode with
      | some modeDecision =>
          rfl
      | none =>
          have unkeyed : call.input.idempotencyKey.filter (!·.isEmpty) =
              none := by
            refine filter_sessionKey.trans ?_
            rw [sessionKey, Option.map_eq_none_iff, Option.filter_eq_none_iff]
            intro sessionId present nonempty
            exact stops <| reachesStore_iff.mpr
              ⟨rejectIfNotSandbox_eq_none.mp rejected, refused, sessionId,
                present, by simpa using nonempty⟩
          simp only [unkeyed, Option.getD_none]

theorem operate_eq_perform :
    operate platform mode =
      perform (InMemoryStore.keyedStore SandboxOperationRecord)
        (protocol platform mode) := by
  funext store call
  cases named : call.recordKey mode with
  | none =>
      rw [operate_of_unrecorded named, perform_of_unnamed named]
      rfl
  | some key =>
      rw [operate_of_recordKey named]
      cases present : store.get key with
      | some existing =>
          rw [perform_of_present named present]
      | none =>
          have reaches := (recordKey_eq_some.mp named).1
          have fresh : call.resultWhenNew mode = call.result := if_pos reaches
          rw [perform_of_claimed named present rfl]
          exact congrArg (·, _) fresh.symm

end Requests

/-! ## The hash of a payload -/

/-- The bytes of the payloads that the calls hash. -/
def hashedPayloads (platform : Platform) (calls : List SandboxCall) :
    List (List UInt8) :=
  calls.map fun call => utf8 (canonicalOperationPayload platform call.input)

section Payloads

variable {platform : Platform}

theorem mem_stableFieldsOf {fields : List (JsString × Json)}
    {field : JsString × Json} :
    field ∈ stableFieldsOf platform fields ↔ field ∈ fields := by
  rw [stableFieldsOf, (ownPropertyOrder_perm _).mem_iff]
  exact (List.perm_insertionSort _ _).mem_iff

theorem stored_canonicalOperationFields (input : SandboxOperationInput) :
    (Json.object (stableFieldsOf platform
      (canonicalOperationFields platform input))).Stored := by
  have permuted : (stableFieldsOf platform
      (canonicalOperationFields platform input)).Perm
      (canonicalOperationFields platform input) :=
    (ownPropertyOrder_perm _).trans (List.perm_insertionSort _ _)
  refine ⟨?_, ownPropertyOrder_idem _, ?_⟩
  · have distinct : ((canonicalOperationFields platform input).map
        Prod.fst).Nodup := by
      change [js "capability", js "cardId", js "payload", js "sessionId",
        js "tenantId"].Nodup
      decide
    exact (permuted.map Prod.fst).nodup_iff.mpr distinct
  · rw [Json.storedFields_iff]
    intro field member
    rw [mem_stableFieldsOf] at member
    simp only [canonicalOperationFields, List.mem_cons, List.not_mem_nil,
      or_false] at member
    rcases member with rfl | rfl | rfl | rfl | rfl
    · trivial
    · trivial
    · trivial
    · cases input.context.sessionId <;> trivial
    · trivial

/-- The hash of a payload tells the tenant. -/
theorem tenantId_of_payloadHash {calls : List SandboxCall}
    (collisionFree : CollisionFree (hashedPayloads platform calls))
    {first later : SandboxCall} (firstMember : first ∈ calls)
    (laterMember : later ∈ calls)
    (same : payloadHashOf platform first.input =
      payloadHashOf platform later.input) :
    first.context.tenantId = later.context.tenantId := by
  have sameBytes := collisionFree _ (List.mem_map_of_mem firstMember) _
    (List.mem_map_of_mem laterMember) same
  have sameText := utf8_injective (jsonStringify_paired _)
    (jsonStringify_paired _) sameBytes
  have sameObject := jsonStringify_injective
    (stored_canonicalOperationFields first.input)
    (stored_canonicalOperationFields later.input) sameText
  injection sameObject with sameFields
  have listed : (js "tenantId", Json.string first.context.tenantId) ∈
      canonicalOperationFields platform first.input := by
    simp [canonicalOperationFields, SandboxCall.input]
  rw [← mem_stableFieldsOf, sameFields, mem_stableFieldsOf] at listed
  have distinct : ∀ key ∈ [js "capability", js "cardId", js "payload",
      js "sessionId"], js "tenantId" ≠ key := by
    decide
  simp only [List.forall_mem_cons] at distinct
  simpa [canonicalOperationFields, SandboxCall.input, distinct] using listed

end Payloads

/-! ## Runs over one store -/

/-- A repeated call returns what its first occurrence returned. -/
def RepeatsFirst (platform : Platform) (mode : SandboxProviderMode)
    (calls : List SandboxCall) : Prop :=
  (transcript (operate platform mode) createInMemorySandboxOperationStore
    calls).Pairwise fun first later => first.1 = later.1 → later.2 = first.2

/-- The calls of the other tenants make no difference to any tenant. -/
def TenantsIsolated (platform : Platform) (mode : SandboxProviderMode)
    (calls : List SandboxCall) : Prop :=
  ∀ tenant, Isolated (operate platform mode)
    (fun call => call.context.tenantId) tenant
    createInMemorySandboxOperationStore calls

structure IdempotentOperations (platform : Platform)
    (mode : SandboxProviderMode) (calls : List SandboxCall) : Prop where
  repeats : RepeatsFirst platform mode calls
  isolated : TenantsIsolated platform mode calls

/-- No two tenants come to the store with one operation and one session id. -/
def SessionsWithinTenants (mode : SandboxProviderMode)
    (calls : List SandboxCall) : Prop :=
  calls.Pairwise fun first later =>
    first.reachesStore mode = true → later.reachesStore mode = true →
    first.keyName = later.keyName →
    first.context.sessionId = later.context.sessionId →
    first.context.tenantId = later.context.tenantId

section Runs

variable {platform : Platform} {mode : SandboxProviderMode}
  {calls : List SandboxCall}

theorem repeats_operate (platform : Platform) (mode : SandboxProviderMode)
    (calls : List SandboxCall) : RepeatsFirst platform mode calls := by
  apply pairwise_transcript
  intro store call between later same
  change call = later at same
  subst same
  rw [operate_eq_perform]
  refine perform_again _ (protocol platform mode) rfl ?_ store between
  intro named
  have reaches : call.reachesStore mode = true := by
    by_contra stops
    have unnamed : call.recordKey mode = none := if_neg stops
    rw [show (protocol platform mode).key call = none from unnamed] at named
    exact nomatch named
  exact (if_pos rfl).trans (if_pos reaches).symm

theorem plain_keyName (call : SandboxCall) : 58 ∉ call.keyName := by
  cases call <;> exact of_decide_eq_true rfl

/-- The keys of two calls meet when operation and session id do. -/
theorem recordKey_meets {first later : SandboxCall} :
    (∃ key, first.recordKey mode = some key ∧
      later.recordKey mode = some key) ↔
      first.reachesStore mode = true ∧ later.reachesStore mode = true ∧
        first.keyName = later.keyName ∧
        first.context.sessionId = later.context.sessionId := by
  constructor
  · rintro ⟨key, firstNamed, laterNamed⟩
    obtain ⟨firstReaches, firstSession, firstPresent, rfl⟩ :=
      recordKey_eq_some.mp firstNamed
    obtain ⟨laterReaches, laterSession, laterPresent, same⟩ :=
      recordKey_eq_some.mp laterNamed
    obtain ⟨sameName, sameSession⟩ := Library.Separator.split_eq
      (plain_keyName first) (plain_keyName later) same
    refine ⟨firstReaches, laterReaches, sameName, ?_⟩
    rw [firstPresent, laterPresent, sameSession]
  · rintro ⟨firstReaches, laterReaches, sameName, sameSession⟩
    obtain ⟨_, _, sessionId, present, _⟩ := reachesStore_iff.mp firstReaches
    refine ⟨first.keyName ++ 58 :: sessionId,
      recordKey_eq_some.mpr ⟨firstReaches, sessionId, present, rfl⟩,
      recordKey_eq_some.mpr ⟨laterReaches, sessionId, ?_, ?_⟩⟩
    · rw [← sameSession, present]
    · rw [sameName]

theorem separate_iff_sessionsWithinTenants :
    Separate (protocol platform mode) (fun call => call.context.tenantId)
      calls ↔ SessionsWithinTenants mode calls := by
  refine List.Pairwise.iff fun {first later} => ?_
  have contends : Contends (protocol platform mode) first later ↔
      ∃ key, first.recordKey mode = some key ∧
        later.recordKey mode = some key := by
    refine exists_congr fun key => and_congr_left fun _ => ?_
    by_cases named : (protocol platform mode).key first = some key
    · rw [left, if_pos named]
      exact iff_of_true rfl named
    · rw [left, if_neg named]
      exact iff_of_false Bool.false_ne_true named
  rw [contends, recordKey_meets]
  constructor
  · intro sameTenant firstReaches laterReaches sameName sameSession
    exact sameTenant ⟨firstReaches, laterReaches, sameName, sameSession⟩
  · rintro sameTenant ⟨firstReaches, laterReaches, sameName, sameSession⟩
    exact sameTenant firstReaches laterReaches sameName sameSession

/-- Another tenant's record shows: its payload hash is another one. -/
theorem tells_of_collisionFree
    (collisionFree : CollisionFree (hashedPayloads platform calls)) :
    Tells (protocol platform mode) (fun call => call.context.tenantId)
      calls := by
  intro claimant claimantMember call member key record claimed named different
  have recorded : claimant.recordOf platform = record := by
    by_cases isKey : (protocol platform mode).key claimant = some key
    · rw [left, if_pos isKey] at claimed
      exact Option.some.inj claimed
    · rw [left, if_neg isKey] at claimed
      cases claimed
  have reaches := (recordKey_eq_some.mp named).1
  have mismatch : ¬record.payloadHash = payloadHashOf platform call.input := by
    intro same
    rw [← recorded] at same
    exact different
      (tenantId_of_payloadHash collisionFree claimantMember member same)
  have refused : (protocol platform mode).answer call (some record) =
      disabledResult (js "SANDBOX_IDEMPOTENCY_PAYLOAD_MISMATCH") :=
    if_neg mismatch
  have fresh : (protocol platform mode).answer call none = call.result :=
    if_pos reaches
  rw [refused, fresh]
  intro same
  have impossible := congrArg ProviderOperationResult.accepted same
  cases impossible

/-- No hash is needed for the operations to be isolated. -/
theorem isolated_of_sessionsWithinTenants
    (sessions : SessionsWithinTenants mode calls) (tenant : JsString) :
    Isolated (operate platform mode) (fun call => call.context.tenantId) tenant
      createInMemorySandboxOperationStore calls := by
  rw [operate_eq_perform]
  exact isolated_of_separate
    (separate_iff_sessionsWithinTenants.mpr sessions) fun _ _ _ => rfl

/-- Repeated calls return what the first ones did, in every run.  The tenants
are isolated exactly when no session id is shared between them. -/
theorem idempotentOperations_iff (platform : Platform)
    (mode : SandboxProviderMode) (calls : List SandboxCall) :
    RepeatsFirst platform mode calls ∧
      (CollisionFree (hashedPayloads platform calls) →
        (TenantsIsolated platform mode calls ↔
          SessionsWithinTenants mode calls)) := by
  refine ⟨repeats_operate platform mode calls, fun collisionFree => ?_⟩
  constructor
  · intro isolated
    rw [TenantsIsolated, operate_eq_perform] at isolated
    exact separate_iff_sessionsWithinTenants.mp <|
      (isolated_iff_separate (fun _ => rfl)
        (tells_of_collisionFree collisionFree)).mp isolated
  · exact fun sessions => isolated_of_sessionsWithinTenants sessions

end Runs

/-- A caller of the tenant hangs up the session. -/
def hangUp (tenantId sessionId : JsString) : SandboxCall :=
  .requestHangup ⟨tenantId, js "card-1", some sessionId⟩

theorem idempotentOperations_two_sessions :
    IdempotentOperations codeUnitPlatform .sandbox
      [hangUp (js "tenant-1") (js "session-1"),
        hangUp (js "tenant-2") (js "session-2"),
        hangUp (js "tenant-1") (js "session-1")] := by
  obtain ⟨repeats, isolated⟩ := idempotentOperations_iff codeUnitPlatform
    .sandbox [hangUp (js "tenant-1") (js "session-1"),
      hangUp (js "tenant-2") (js "session-2"),
      hangUp (js "tenant-1") (js "session-1")]
  refine ⟨repeats, (isolated (by decide +kernel)).mpr ?_⟩
  unfold SessionsWithinTenants
  decide +kernel

/-- Two tenants hang up a session of the same id. -/
theorem not_idempotentOperations_of_shared_session :
    ¬IdempotentOperations codeUnitPlatform .sandbox
      [hangUp (js "tenant-1") (js "session-1"),
        hangUp (js "tenant-2") (js "session-1")] := by
  intro idempotent
  have isolated := idempotent.isolated (js "tenant-2")
  exact absurd isolated (by
    unfold Library.ClaimedKeys.Isolated
    decide +kernel)

end BidayaxExecutive.Telephony
