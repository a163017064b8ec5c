import BidayaxExecutive.Library.Guards
import BidayaxExecutive.Library.Runs
import BidayaxExecutive.Trust.CanonicalForm
import BidayaxExecutive.Trust.Validation

/-!
# The lifecycle of trust keys

A key is registered as pending and then moves through a fixed set of status
changes.  Signing and verification check the same key record separately, each
with its own list of statuses and its own end of the validity window.
-/

namespace BidayaxExecutive.Trust

open BidayaxExecutive.Runtime JsString
open BidayaxExecutive.Library.Guards BidayaxExecutive.Library.Runs

/-! ## Transitions -/

/-- The table of `transitionTrustKey`. -/
def transitions : TrustKeyStatus → List TrustKeyStatus
  | .pending => [.active, .revoked, .compromised]
  | .active => [.retiring, .revoked, .compromised]
  | .retiring => [.retired, .revoked, .compromised]
  | .retired => [.revoked, .compromised]
  | .revoked => [.compromised]
  | .compromised => []

/-- The record after a status change at a canonical timestamp. -/
def TrustKey.moved (key : TrustKey) (nextStatus : TrustKeyStatus)
    (timestamp : JsString) : TrustKey :=
  { key with
    compromisedAt :=
      if nextStatus = .compromised then some timestamp
      else key.compromisedAt
    revokedAt :=
      if nextStatus = .revoked then some timestamp else key.revokedAt
    status := nextStatus
    statusChangedAt := timestamp
    validUntil :=
      if nextStatus = .retiring then some timestamp else key.validUntil }

section Host

variable (host : Host)

/-- The source's `at`. -/
def atInstant (value : JsString) : Outcome TimeValue :=
  match host.dateParse value with
  | none =>
      .error <| .keyUse .malformedEnvelope <| js "Invalid timestamp: " ++ value
  | some instant => .ok instant

def transitionTrustKey (key : TrustKey) (nextStatus : TrustKeyStatus)
    (occurredAt : JsString) : Outcome TrustKey := do
  if nextStatus ∉ transitions key.status then
    throw <| .error <|
      js "Invalid key transition " ++ key.status.text ++ js " -> " ++
        nextStatus.text
  let timestamp ← canonicalUtcTimestamp host occurredAt
  .ok (key.moved nextStatus timestamp)

def activateTrustKey (key : TrustKey) (occurredAt : JsString) :
    Outcome TrustKey :=
  transitionTrustKey host key .active occurredAt

def beginKeyRetirement (key : TrustKey) (occurredAt : JsString) :
    Outcome TrustKey :=
  transitionTrustKey host key .retiring occurredAt

def completeKeyRetirement (key : TrustKey) (occurredAt : JsString) :
    Outcome TrustKey :=
  transitionTrustKey host key .retired occurredAt

def revokeTrustKey (key : TrustKey) (occurredAt : JsString) :
    Outcome TrustKey :=
  transitionTrustKey host key .revoked occurredAt

def compromiseTrustKey (key : TrustKey) (occurredAt : JsString) :
    Outcome TrustKey :=
  transitionTrustKey host key .compromised occurredAt

/-- A step of the lifecycle: the next status and the time it is entered. -/
abbrev KeyStep := TrustKeyStatus × JsString

def keyStep (key : TrustKey) (action : KeyStep) : Outcome TrustKey :=
  transitionTrustKey host key action.1 action.2

/-- Everything a transition can do. -/
theorem transitionTrustKey_eq_ok {key after : TrustKey}
    {nextStatus : TrustKeyStatus} {occurredAt : JsString} :
    transitionTrustKey host key nextStatus occurredAt = .ok after ↔
      nextStatus ∈ transitions key.status ∧
        ∃ timestamp,
          canonicalUtcTimestamp host occurredAt = .ok timestamp ∧
          key.moved nextStatus timestamp = after := by
  unfold transitionTrustKey
  rw [guard_eq_ok, not_not, bind_eq_ok]
  simp only [Except.ok.injEq]

/-! ## The two checks -/

def enforceKeyForSigning (key : TrustKey) (tenantId : JsString)
    (purpose : KeyPurpose) (signedAt : JsString) : Outcome Unit := do
  if !(validateTrustKey host key.toJson).valid then
    throw <| .keyUse .unknownKey <| js "Invalid key record"
  if key.tenantId ≠ tenantId then
    throw <| .keyUse .tenantMismatch <| js "Key tenant mismatch"
  if key.purpose ≠ purpose ∨ key.purpose = .verificationOnly then
    throw <| .keyUse .wrongKeyPurpose <| js "Wrong key purpose"
  if key.status = .revoked then
    throw <| .keyUse .keyRevoked <| js "Revoked key cannot sign"
  if key.status = .compromised then
    throw <| .keyUse .keyCompromised <| js "Compromised key cannot sign"
  if key.status ≠ .active then
    throw <| .keyUse .wrongKeyPurpose <| js "Only active keys can sign"
  let instant ← atInstant host signedAt
  let validFrom ← atInstant host key.validFrom
  if instant.milliseconds < validFrom.milliseconds then
    throw <| .keyUse .keyNotYetValid <| js "Key not yet valid"
  match key.validUntil with
  | none => .ok ()
  | some validUntil => do
      let closes ← atInstant host validUntil
      if closes.milliseconds < instant.milliseconds then
        throw <| .keyUse .keyExpired <| js "Key expired"
      .ok ()

structure VerificationUse where
  tenantId : JsString
  keyVersion : JsNumber
  purpose : KeyPurpose
  signedAt : JsString
  allowRetiredHistorical : Bool

/-- The `cutoff` of `enforceKeyForVerification`. -/
def TrustKey.cutoff (key : TrustKey) : Option JsString :=
  match key.validUntil with
  | some validUntil => some validUntil
  | none =>
      if key.status = .retiring ∨ key.status = .retired then
        some key.statusChangedAt
      else none

def enforceKeyForVerification (key : TrustKey) (input : VerificationUse) :
    Outcome Unit := do
  if key.tenantId ≠ input.tenantId then
    throw <| .keyUse .tenantMismatch <| js "Key tenant mismatch"
  if !key.keyVersion.strictEquals input.keyVersion then
    throw <| .keyUse .wrongKeyVersion <| js "Wrong key version"
  if key.purpose ≠ input.purpose ∧ key.purpose ≠ .verificationOnly then
    throw <| .keyUse .wrongKeyPurpose <| js "Wrong key purpose"
  if key.status = .revoked then
    throw <| .keyUse .keyRevoked <| js "Key revoked"
  if key.status = .compromised then
    throw <| .keyUse .keyCompromised <| js "Key compromised"
  if key.status = .pending then
    throw <| .keyUse .keyNotYetValid <|
      js "Pending keys cannot verify signatures"
  if key.status = .retired ∧ input.allowRetiredHistorical = false then
    throw <| .keyUse .keyRetiredPolicyDenied <|
      js "Retired-key verification requires explicit policy"
  let instant ← atInstant host input.signedAt
  let validFrom ← atInstant host key.validFrom
  if instant.milliseconds < validFrom.milliseconds then
    throw <| .keyUse .keyNotYetValid <| js "Signature predates key validity"
  match key.cutoff with
  | none => .ok ()
  | some cutoff => do
      let closes ← atInstant host cutoff
      if closes.milliseconds < instant.milliseconds then
        throw <| .keyUse .keyExpired <|
          js "Signature follows key signing validity"
      .ok ()

/-! ## The window of a key -/

/-- The instants from `validFrom` to the cutoff, both included; a cutoff that
is no date lets nothing through. -/
def InWindow (validFrom : JsString) (cutoff : Option JsString)
    (instant : TimeValue) : Prop :=
  (∃ opens, host.dateParse validFrom = some opens ∧
    opens.milliseconds ≤ instant.milliseconds) ∧
  ∀ text ∈ cutoff, ∃ closes, host.dateParse text = some closes ∧
    instant.milliseconds ≤ closes.milliseconds

theorem atInstant_eq_ok {value : JsString} {instant : TimeValue} :
    atInstant host value = .ok instant ↔
      host.dateParse value = some instant := by
  unfold atInstant
  cases host.dateParse value with
  | none => simp
  | some found => simp

/-- The end of both checks: the window of `validFrom` and a cutoff. -/
theorem window_eq_ok {signedAt validFrom : JsString}
    {cutoff : Option JsString} {early late : TrustError} :
    (do
      let instant ← atInstant host signedAt
      let opens ← atInstant host validFrom
      if instant.milliseconds < opens.milliseconds then throw early
      match cutoff with
      | none => .ok ()
      | some text => do
          let closes ← atInstant host text
          if closes.milliseconds < instant.milliseconds then throw late
          (.ok () : Outcome Unit)) = .ok () ↔
      ∃ instant, host.dateParse signedAt = some instant ∧
        InWindow host validFrom cutoff instant := by
  simp only [bind_eq_ok, guard_eq_ok, atInstant_eq_ok, not_lt, InWindow]
  cases cutoff with
  | none =>
      simp
  | some text =>
      simp only [bind_eq_ok, guard_eq_ok, atInstant_eq_ok, not_lt,
        Option.mem_def, Option.some.injEq, forall_eq']
      constructor
      · rintro ⟨instant, read, opens, readFrom, above, closes, rest⟩
        exact ⟨instant, read, ⟨opens, readFrom, above⟩, closes,
          rest.1, rest.2.1⟩
      · rintro ⟨instant, read, ⟨opens, readFrom, above⟩, closes, rest⟩
        exact ⟨instant, read, opens, readFrom, above, closes, rest.1,
          rest.2, trivial⟩

theorem enforceKeyForSigning_eq_ok {key : TrustKey} {tenantId : JsString}
    {purpose : KeyPurpose} {signedAt : JsString} :
    enforceKeyForSigning host key tenantId purpose signedAt = .ok () ↔
      (validateTrustKey host key.toJson).valid = true ∧
        key.tenantId = tenantId ∧
        (key.purpose = purpose ∧ key.purpose ≠ .verificationOnly) ∧
        key.status = .active ∧
        ∃ instant, host.dateParse signedAt = some instant ∧
          InWindow host key.validFrom key.validUntil instant := by
  unfold enforceKeyForSigning
  rw [guard_eq_ok, guard_eq_ok, guard_eq_ok, guard_eq_ok, guard_eq_ok,
    guard_eq_ok, window_eq_ok]
  simp only [Bool.not_eq_true', Bool.not_eq_false, not_or, not_not]
  constructor
  · rintro ⟨valid, tenant, rightPurpose, _, _, active, window⟩
    exact ⟨valid, tenant, rightPurpose, active, window⟩
  · rintro ⟨valid, tenant, rightPurpose, active, window⟩
    refine ⟨valid, tenant, rightPurpose, ?_, ?_, active, window⟩
    · simp [active]
    · simp [active]

/-- The statuses in which a key still vouches for signatures. -/
def Vouching (status : TrustKeyStatus) (allowRetiredHistorical : Bool) :
    Prop :=
  status = .active ∨ status = .retiring ∨
    (status = .retired ∧ allowRetiredHistorical = true)

theorem enforceKeyForVerification_eq_ok {key : TrustKey}
    {input : VerificationUse} :
    enforceKeyForVerification host key input = .ok () ↔
      key.tenantId = input.tenantId ∧
        key.keyVersion.strictEquals input.keyVersion = true ∧
        (key.purpose = input.purpose ∨ key.purpose = .verificationOnly) ∧
        Vouching key.status input.allowRetiredHistorical ∧
        ∃ instant, host.dateParse input.signedAt = some instant ∧
          InWindow host key.validFrom key.cutoff instant := by
  unfold enforceKeyForVerification
  rw [guard_eq_ok, guard_eq_ok, guard_eq_ok, guard_eq_ok, guard_eq_ok,
    guard_eq_ok, guard_eq_ok, window_eq_ok]
  have statuses :
      (¬key.status = .revoked ∧ ¬key.status = .compromised ∧
        ¬key.status = .pending ∧
        ¬(key.status = .retired ∧ input.allowRetiredHistorical = false)) ↔
        Vouching key.status input.allowRetiredHistorical := by
    unfold Vouching
    cases key.status <;> simp
  rw [← statuses]
  simp only [Bool.not_eq_true', Bool.not_eq_false, not_not, not_and_or,
    and_assoc]

end Host

end BidayaxExecutive.Trust
