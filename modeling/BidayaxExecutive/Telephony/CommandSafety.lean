import BidayaxExecutive.Library.ClaimedKeys
import BidayaxExecutive.Runtime.JsValue

/-!
# Telephony command safety

A command is accepted once for its idempotency key.  The store remembers the
key and nothing else, so a key that one tenant has used up is a duplicate for
every tenant.
-/

namespace BidayaxExecutive.Telephony

open BidayaxExecutive.Runtime JsString
open BidayaxExecutive.Library.ClaimedKeys

/-! ## Commands -/

structure TelephonyCommandContext where
  tenantId : JsString
  permissions : List JsString
  idempotencyKey : JsString
  expectedVersion : Option JsNumber
  telephonyEnabled : Bool
  adapterConfigured : Bool
  productionCallingEnabled : Bool
  deriving DecidableEq, Repr

/-- The arguments of one evaluation, the store apart. -/
structure TelephonyCommand where
  adapterRequired : Bool := true
  context : TelephonyCommandContext
  currentVersion : Option JsNumber
  permission : JsString
  deriving DecidableEq, Repr

inductive SafetyStatus where
  | accepted
  | denied
  | duplicate
  | staleVersion
  deriving DecidableEq, Repr

structure TelephonyCommandSafetyDecision where
  accepted : Bool
  reasonCodes : List JsString
  status : SafetyStatus
  deriving DecidableEq, Repr

/-! ## The idempotency store -/

/-- The keys of the set, in the order they were added. -/
structure TelephonyCommandIdempotencyStore where
  keys : List JsString
  deriving DecidableEq, Repr

namespace TelephonyCommandIdempotencyStore

def has (store : TelephonyCommandIdempotencyStore) (key : JsString) : Bool :=
  store.keys.contains key

def remember (store : TelephonyCommandIdempotencyStore) (key : JsString) :
    TelephonyCommandIdempotencyStore :=
  if store.has key then store else ⟨store.keys ++ [key]⟩

end TelephonyCommandIdempotencyStore

def createInMemoryTelephonyCommandIdempotencyStore :
    TelephonyCommandIdempotencyStore :=
  ⟨[]⟩

/-! ## The evaluation -/

namespace TelephonyCommand

def reasonCodes (command : TelephonyCommand) : List JsString :=
  (if command.context.telephonyEnabled then [] else [js "TELEPHONY_DISABLED"])
    ++ (if command.context.permissions.contains command.permission then []
        else [js "PERMISSION_DENIED"])
    ++ (if command.adapterRequired && !command.context.adapterConfigured then
          [js "PROVIDER_ADAPTER_NOT_CONFIGURED"]
        else [])
    ++ (if command.context.productionCallingEnabled then
          [js "PRODUCTION_CALLING_NOT_ALLOWED_IN_PHASE_6"]
        else [])

def isStale (command : TelephonyCommand) : Bool :=
  match command.currentVersion, command.context.expectedVersion with
  | some current, some expected => !expected.strictEquals current
  | _, _ => false

end TelephonyCommand

def duplicateDecision : TelephonyCommandSafetyDecision :=
  ⟨false, [js "DUPLICATE_COMMAND"], .duplicate⟩

def acceptedDecision : TelephonyCommandSafetyDecision :=
  ⟨true, [js "COMMAND_ACCEPTED"], .accepted⟩

def evaluateTelephonyCommandSafety (command : TelephonyCommand)
    (idempotencyStore : Option TelephonyCommandIdempotencyStore) :
    TelephonyCommandSafetyDecision ×
      Option TelephonyCommandIdempotencyStore :=
  let reasonCodes := command.reasonCodes
  if idempotencyStore.any (·.has command.context.idempotencyKey) then
    (duplicateDecision, idempotencyStore)
  else if command.isStale then
    (⟨false, [js "STALE_EXPECTED_VERSION"], .staleVersion⟩, idempotencyStore)
  else if reasonCodes.length > 0 then
    (⟨false, reasonCodes, .denied⟩, idempotencyStore)
  else
    (acceptedDecision,
      idempotencyStore.map (·.remember command.context.idempotencyKey))

/-- An evaluation over a store. -/
def evaluateOver (store : TelephonyCommandIdempotencyStore)
    (command : TelephonyCommand) :
    TelephonyCommandSafetyDecision × TelephonyCommandIdempotencyStore :=
  let evaluated := evaluateTelephonyCommandSafety command (some store)
  (evaluated.1, evaluated.2.getD store)

/-! ## The store as a store of keys -/

namespace TelephonyCommandIdempotencyStore

theorem has_iff {store : TelephonyCommandIdempotencyStore} {key : JsString} :
    store.has key = true ↔ key ∈ store.keys := by
  rw [has, List.contains_iff_mem]

theorem mem_remember {store : TelephonyCommandIdempotencyStore}
    {key other : JsString} :
    other ∈ (store.remember key).keys ↔ other ∈ store.keys ∨ other = key := by
  unfold remember
  by_cases present : store.has key = true
  · rw [if_pos present]
    constructor
    · exact Or.inl
    · rintro (member | rfl)
      · exact member
      · exact has_iff.mp present
  · rw [if_neg present, List.mem_append, List.mem_singleton]

/-- A key is there or it is not. -/
def keyedStore :
    KeyedStore TelephonyCommandIdempotencyStore JsString Unit where
  lookup store key := if store.has key then some () else none
  remember store key _ := store.remember key
  lookup_remember store key _ := by
    have member : key ∈ (store.remember key).keys :=
      mem_remember.mpr (Or.inr rfl)
    rw [if_pos (has_iff.mpr member)]
  lookup_of_ne store _ key other different := by
    have same : (store.remember key).has other = store.has other := by
      rw [Bool.eq_iff_iff, has_iff, has_iff, mem_remember]
      exact or_iff_left different
    rw [same]

end TelephonyCommandIdempotencyStore

open TelephonyCommandIdempotencyStore

namespace TelephonyCommand

/-- The command would be accepted over an empty store. -/
def isAdmissible (command : TelephonyCommand) : Bool :=
  !command.isStale && command.reasonCodes.isEmpty

/-- The decision on a command whose key is new. -/
def decisionWhenNew (command : TelephonyCommand) :
    TelephonyCommandSafetyDecision :=
  if command.isStale then
    ⟨false, [js "STALE_EXPECTED_VERSION"], .staleVersion⟩
  else if command.reasonCodes.length > 0 then
    ⟨false, command.reasonCodes, .denied⟩
  else acceptedDecision

/-- What a command asks of the store. -/
def protocol :
    Protocol TelephonyCommand JsString Unit TelephonyCommandSafetyDecision where
  key command := some command.context.idempotencyKey
  claim command := if command.isAdmissible then some () else none
  answer command record :=
    match record with
    | some _ => duplicateDecision
    | none => command.decisionWhenNew

theorem accepted_decisionWhenNew {command : TelephonyCommand} :
    command.decisionWhenNew.accepted = command.isAdmissible := by
  unfold decisionWhenNew isAdmissible
  cases command.isStale with
  | true =>
      rfl
  | false =>
      cases command.reasonCodes <;> rfl

theorem status_decisionWhenNew (command : TelephonyCommand) :
    command.decisionWhenNew.status ≠ .duplicate := by
  unfold decisionWhenNew
  cases command.isStale with
  | true =>
      exact nofun
  | false =>
      cases command.reasonCodes <;> exact nofun

end TelephonyCommand

open TelephonyCommand

section Evaluation

variable {store : TelephonyCommandIdempotencyStore} {command : TelephonyCommand}

theorem lookup_eq_none {key : JsString} (absent : ¬store.has key = true) :
    keyedStore.lookup store key = none :=
  if_neg absent

theorem evaluateOver_of_has
    (present : store.has command.context.idempotencyKey = true) :
    evaluateOver store command = (duplicateDecision, store) := by
  simp [evaluateOver, evaluateTelephonyCommandSafety, present]

theorem evaluateOver_of_not_isAdmissible
    (absent : ¬store.has command.context.idempotencyKey = true)
    (refused : ¬command.isAdmissible = true) :
    evaluateOver store command = (command.decisionWhenNew, store) := by
  by_cases stale : command.isStale = true
  · simp [evaluateOver, evaluateTelephonyCommandSafety, decisionWhenNew, absent,
      stale]
  · have reasons : ¬command.reasonCodes = [] := by
      intro none
      exact refused (by simp [isAdmissible, stale, none])
    have some : 0 < command.reasonCodes.length := List.length_pos_iff.mpr reasons
    simp [evaluateOver, evaluateTelephonyCommandSafety, decisionWhenNew, absent,
      stale, some]

theorem evaluateOver_of_isAdmissible
    (absent : ¬store.has command.context.idempotencyKey = true)
    (admissible : command.isAdmissible = true) :
    evaluateOver store command =
      (acceptedDecision, store.remember command.context.idempotencyKey) := by
  rw [isAdmissible, Bool.and_eq_true, List.isEmpty_iff] at admissible
  have fresh : command.isStale = false := by
    simpa using admissible.1
  simp [evaluateOver, evaluateTelephonyCommandSafety, absent, fresh,
    admissible.2]

theorem evaluateOver_eq_perform :
    evaluateOver store command =
      perform keyedStore protocol store command := by
  have named : protocol.key command = some command.context.idempotencyKey := rfl
  by_cases present : store.has command.context.idempotencyKey = true
  · have kept : keyedStore.lookup store command.context.idempotencyKey =
        some () := if_pos present
    rw [perform_of_present named kept]
    exact evaluateOver_of_has present
  · have absent := lookup_eq_none present
    by_cases admissible : command.isAdmissible = true
    · have claims : protocol.claim command = some () := if_pos admissible
      have accepted : command.decisionWhenNew = acceptedDecision := by
        rw [isAdmissible, Bool.and_eq_true, List.isEmpty_iff] at admissible
        simp [decisionWhenNew, by simpa using admissible.1, admissible.2]
      rw [perform_of_claimed named absent claims]
      refine (evaluateOver_of_isAdmissible present admissible).trans ?_
      rw [← accepted]
      rfl
    · have passes : protocol.claim command = none := if_neg admissible
      rw [perform_of_passed named absent passes]
      exact evaluateOver_of_not_isAdmissible present admissible

theorem accepted_evaluateOver :
    (evaluateOver store command).1.accepted = true ↔
      store.has command.context.idempotencyKey = false ∧
        command.isAdmissible = true := by
  by_cases present : store.has command.context.idempotencyKey = true
  · rw [evaluateOver_of_has present]
    simp [present, duplicateDecision]
  · by_cases admissible : command.isAdmissible = true
    · rw [evaluateOver_of_isAdmissible present admissible]
      simp [present, admissible, acceptedDecision]
    · rw [evaluateOver_of_not_isAdmissible present admissible,
        accepted_decisionWhenNew]
      simp [admissible]

end Evaluation

/-! ## Runs over one store -/

/-- The store after the commands. -/
def storeAfter (commands : List TelephonyCommand) :
    TelephonyCommandIdempotencyStore :=
  after evaluateOver createInMemoryTelephonyCommandIdempotencyStore commands

/-- The decision on a command after the commands before it. -/
def decisionAfter (before : List TelephonyCommand)
    (command : TelephonyCommand) : TelephonyCommandSafetyDecision :=
  (evaluateOver (storeAfter before) command).1

def SameKey (first later : TelephonyCommand) : Prop :=
  first.context.tenantId = later.context.tenantId ∧
    first.context.idempotencyKey = later.context.idempotencyKey

/-- A command that was denied or stale is accepted when its cause is gone and
no command of its tenant has used up its key in the meantime. -/
def RetriesSucceed (commands : List TelephonyCommand) : Prop :=
  ∀ before refused between retry later,
    commands = before ++ refused :: (between ++ retry :: later) →
    ((decisionAfter before refused).status = .denied ∨
      (decisionAfter before refused).status = .staleVersion) →
    SameKey refused retry → retry.isAdmissible = true →
    (∀ earlier command rest, between = earlier ++ command :: rest →
      SameKey refused command →
      (decisionAfter (before ++ refused :: earlier) command).accepted =
        false) →
    (decisionAfter (before ++ refused :: between) retry).accepted = true

structure IdempotentPerTenant (commands : List TelephonyCommand) : Prop where
  acceptsOnce : ∀ before first between later rest,
    commands = before ++ first :: (between ++ later :: rest) →
    SameKey first later → (decisionAfter before first).accepted = true →
    (decisionAfter (before ++ first :: between) later).accepted = false
  onlyAcceptedChange : ∀ before command later,
    commands = before ++ command :: later →
    (decisionAfter before command).accepted = false →
    storeAfter (before ++ [command]) = storeAfter before
  retriesSucceed : RetriesSucceed commands
  isolated : ∀ tenant, Isolated evaluateOver (·.context.tenantId) tenant
    createInMemoryTelephonyCommandIdempotencyStore commands

/-- No command that is acceptable by itself has the key of a later command of
another tenant. -/
def KeysWithinTenants (commands : List TelephonyCommand) : Prop :=
  commands.Pairwise fun first later =>
    first.isAdmissible = true →
    first.context.idempotencyKey = later.context.idempotencyKey →
    first.context.tenantId = later.context.tenantId

/-! ## Keys in a run -/

theorem evaluateOver_eq :
    evaluateOver = perform keyedStore protocol := by
  funext store command
  exact evaluateOver_eq_perform

theorem lookup_eq_some {store : TelephonyCommandIdempotencyStore}
    {key : JsString} :
    keyedStore.lookup store key = some () ↔ store.has key = true := by
  change (if store.has key then some () else none) = some () ↔ _
  cases store.has key <;> simp

theorem has_after {store : TelephonyCommandIdempotencyStore} {key : JsString}
    (present : store.has key = true) (commands : List TelephonyCommand) :
    (after evaluateOver store commands).has key = true := by
  rw [evaluateOver_eq, ← lookup_eq_some]
  exact lookup_after keyedStore protocol (lookup_eq_some.mpr present) commands

theorem storeAfter_append (before later : List TelephonyCommand) :
    storeAfter (before ++ later) =
      after evaluateOver (storeAfter before) later :=
  after_append evaluateOver _ before later

theorem has_of_accepted {before : List TelephonyCommand}
    {command : TelephonyCommand}
    (accepted : (decisionAfter before command).accepted = true)
    (later : List TelephonyCommand) :
    (storeAfter (before ++ command :: later)).has
      command.context.idempotencyKey = true := by
  have decided := accepted_evaluateOver.mp accepted
  have absent : ¬(storeAfter before).has command.context.idempotencyKey =
      true := by
    simp [decided.1]
  have remembered : ((storeAfter before).remember
      command.context.idempotencyKey).has command.context.idempotencyKey =
      true :=
    has_iff.mpr (mem_remember.mpr (Or.inr rfl))
  rw [storeAfter_append, after,
    evaluateOver_of_isAdmissible absent decided.2]
  exact has_after remembered later

/-- A key that is new before a command and used up later was accepted for some
command from there on. -/
theorem exists_accepted {before commands : List TelephonyCommand}
    {key : JsString} (absent : (storeAfter before).has key = false)
    (present : (storeAfter (before ++ commands)).has key = true) :
    ∃ earlier command rest, commands = earlier ++ command :: rest ∧
      command.context.idempotencyKey = key ∧
      command.isAdmissible = true ∧
      (decisionAfter (before ++ earlier) command).accepted = true := by
  have free : keyedStore.lookup (storeAfter before) key = none :=
    lookup_eq_none (by simp [absent])
  have taken := lookup_eq_some.mpr present
  rw [storeAfter_append, evaluateOver_eq] at taken
  obtain ⟨earlier, command, rest, splits, nothing, claimed⟩ :=
    exists_claimant keyedStore protocol free taken
  rw [left] at claimed
  by_cases named : protocol.key command = some key
  · rw [if_pos named] at claimed
    have sameKey : command.context.idempotencyKey = key :=
      Option.some.inj named
    have admissible : command.isAdmissible = true := by
      by_contra refused
      have impossible := (if_neg refused).symm.trans claimed
      cases impossible
    refine ⟨earlier, command, rest, splits, sameKey, admissible, ?_⟩
    refine accepted_evaluateOver.mpr ⟨?_, admissible⟩
    rw [storeAfter_append, evaluateOver_eq, sameKey]
    by_contra kept
    rw [lookup_eq_some.mpr (by simpa using kept)] at nothing
    cases nothing
  · rw [if_neg named] at claimed
    cases claimed

/-! ## Tenants -/

theorem acceptsOnce {before between : List TelephonyCommand}
    {first later : TelephonyCommand} (same : SameKey first later)
    (accepted : (decisionAfter before first).accepted = true) :
    (decisionAfter (before ++ first :: between) later).accepted = false := by
  have used := has_of_accepted accepted between
  rw [same.2] at used
  rw [decisionAfter, evaluateOver_of_has used]
  rfl

theorem storeAfter_of_not_accepted {before : List TelephonyCommand}
    {command : TelephonyCommand}
    (refused : (decisionAfter before command).accepted = false) :
    storeAfter (before ++ [command]) = storeAfter before := by
  rw [storeAfter_append]
  change (evaluateOver (storeAfter before) command).2 = storeAfter before
  by_cases present :
      (storeAfter before).has command.context.idempotencyKey = true
  · rw [evaluateOver_of_has present]
  · by_cases admissible : command.isAdmissible = true
    · rw [decisionAfter,
        evaluateOver_of_isAdmissible present admissible] at refused
      exact nomatch refused
    · rw [evaluateOver_of_not_isAdmissible present admissible]

/-- The duplicate check comes first: who is denied or stale has a new key. -/
theorem refused_of_status {before : List TelephonyCommand}
    {command : TelephonyCommand}
    (status : (decisionAfter before command).status = .denied ∨
      (decisionAfter before command).status = .staleVersion) :
    (storeAfter before).has command.context.idempotencyKey = false ∧
      (decisionAfter before command).accepted = false := by
  by_cases present :
      (storeAfter before).has command.context.idempotencyKey = true
  · rw [decisionAfter, evaluateOver_of_has present] at status
    rcases status with status | status <;> exact nomatch status
  · refine ⟨by simpa using present, ?_⟩
    by_cases admissible : command.isAdmissible = true
    · rw [decisionAfter,
        evaluateOver_of_isAdmissible present admissible] at status
      rcases status with status | status <;> exact nomatch status
    · rw [decisionAfter,
        evaluateOver_of_not_isAdmissible present admissible,
        accepted_decisionWhenNew]
      simpa using admissible

theorem retriesSucceed {commands : List TelephonyCommand}
    (keys : KeysWithinTenants commands) : RetriesSucceed commands := by
  intro before refused between retry later splits status same admissible
    noneAccepted
  obtain ⟨fresh, notAccepted⟩ := refused_of_status status
  have unchanged := storeAfter_of_not_accepted notAccepted
  refine accepted_evaluateOver.mpr ⟨?_, admissible⟩
  by_contra present
  have absent : (storeAfter (before ++ [refused])).has
      retry.context.idempotencyKey = false := by
    rw [unchanged, ← same.2]
    exact fresh
  have used : (storeAfter ((before ++ [refused]) ++ between)).has
      retry.context.idempotencyKey = true := by
    rw [List.append_assoc]
    simpa using present
  obtain ⟨earlier, command, rest, rfl, sameKey, acceptable, accepted⟩ :=
    exists_accepted absent used
  -- The command that took the key belongs to the tenant of the retry.
  have regrouped : commands =
      (before ++ refused :: earlier) ++ command :: (rest ++ retry :: later) := by
    rw [splits]
    simp only [List.append_assoc, List.cons_append]
  have keysFrom : KeysWithinTenants (command :: (rest ++ retry :: later)) := by
    refine List.Pairwise.sublist ?_ keys
    rw [regrouped]
    exact List.sublist_append_right _ _
  have sameTenant := List.rel_of_pairwise_cons keysFrom
    (List.mem_append_right rest List.mem_cons_self) acceptable sameKey
  have refusedHere := noneAccepted earlier command rest rfl
    ⟨same.1.trans sameTenant.symm, same.2.trans sameKey.symm⟩
  rw [List.append_assoc] at accepted
  exact nomatch refusedHere.symm.trans accepted

/-- What isolates the tenants is exactly that no two of them share a key. -/
theorem isolated_iff_keysWithinTenants {commands : List TelephonyCommand} :
    (∀ tenant, Isolated evaluateOver (·.context.tenantId) tenant
      createInMemoryTelephonyCommandIdempotencyStore commands) ↔
      KeysWithinTenants commands := by
  have tells : Tells protocol
      (fun command : TelephonyCommand => command.context.tenantId)
      commands := by
    intro _ _ command _ _ _ _ _ _ same
    exact status_decisionWhenNew command (congrArg (·.status) same).symm
  rw [evaluateOver_eq, isolated_iff_separate (fun _ => rfl) tells]
  refine List.Pairwise.iff fun {first later} => ?_
  constructor
  · intro sameOwner admissible sameKey
    have named : protocol.key first = some later.context.idempotencyKey :=
      congrArg some sameKey
    have claimed : left protocol first later.context.idempotencyKey =
        some () := by
      rw [left, if_pos named]
      exact if_pos admissible
    exact sameOwner ⟨_, by rw [claimed]; rfl, rfl⟩
  · rintro sameTenant ⟨key, claimed, named⟩
    rw [left] at claimed
    by_cases isKey : protocol.key first = some key
    · rw [if_pos isKey] at claimed
      have admissible : first.isAdmissible = true := by
        by_contra refused
        rw [show protocol.claim first = none from if_neg refused] at claimed
        cases claimed
      exact sameTenant admissible
        (Option.some.inj (isKey.trans named.symm))
    · rw [if_neg isKey] at claimed
      cases claimed

/-- A run keeps its tenants apart, with all that goes with it, exactly when no
command that is acceptable by itself has the key of a later command of another
tenant. -/
theorem idempotentPerTenant_iff (commands : List TelephonyCommand) :
    IdempotentPerTenant commands ↔ KeysWithinTenants commands := by
  constructor
  · intro idempotent
    exact isolated_iff_keysWithinTenants.mp idempotent.isolated
  · intro keys
    refine ⟨?_, ?_, retriesSucceed keys, isolated_iff_keysWithinTenants.mpr keys⟩
    · intro before first between later rest _ same accepted
      exact acceptsOnce same accepted
    · intro before command later _ refused
      exact storeAfter_of_not_accepted refused

/-- The request of a tenant that may call. -/
def callRequest (tenantId : JsString) : TelephonyCommand where
  context :=
    { tenantId
      permissions := [js "telephony.calls.request"]
      idempotencyKey := js "request-1"
      expectedVersion := none
      telephonyEnabled := true
      adapterConfigured := true
      productionCallingEnabled := false }
  currentVersion := none
  permission := js "telephony.calls.request"

/-- The second tenant's first command is a duplicate of the first tenant's. -/
theorem not_idempotentPerTenant_of_shared_key :
    ¬IdempotentPerTenant
      [callRequest (js "tenant-1"), callRequest (js "tenant-2")] := by
  intro idempotent
  have isolated := idempotent.isolated (js "tenant-2")
  exact absurd isolated (by unfold Isolated; decide +kernel)

end BidayaxExecutive.Telephony
