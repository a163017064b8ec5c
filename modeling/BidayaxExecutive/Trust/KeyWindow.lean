import BidayaxExecutive.Trust.KeyLifecycle
import BidayaxExecutive.Trust.Timestamps

/-!
# What a key vouches for, over its life

Beginning and completing the retirement of a key writes the end of its window
anew.  The new end lies after every signature made before, so orderly
retirement loses none of them.  It may also lie after an end that was set
already: then instants that the key had refused are accepted again, and these
are the only steps that let anything in.
-/

namespace BidayaxExecutive.Trust

open BidayaxExecutive.Runtime JsString
open BidayaxExecutive.Library.Guards BidayaxExecutive.Library.Runs

/-! ## Transitions and the window -/

/-- The end that a status change takes out of force and replaces with the time
of the change. -/
def TrustKey.replacedCutoff (key : TrustKey) :
    TrustKeyStatus → Option JsString
  | .retiring => key.validUntil
  | .retired =>
      if key.validUntil = none then some key.statusChangedAt else none
  | _ => none

section Host

variable (host : Host)

/-- The status change puts off the end of the window: the replaced end is
earlier than the time of the change, or no date at all, and the change does
not precede the start of the window. -/
structure Widens (key : TrustKey) (action : KeyStep) : Prop where
  readable : key.keyVersion.strictEquals key.keyVersion = true
  later : ∃ replaced ∈ key.replacedCutoff action.1,
    ∃ time, occurrence host action.2 = some time ∧
      InWindow host key.validFrom none time ∧
      ¬InWindow host key.validFrom (some replaced) time

/-- The step is not recorded before the instant of the signature. -/
def NotBefore (signedAt occurredAt : JsString) : Prop :=
  ∀ instant ∈ host.dateParse signedAt, ∀ time ∈ occurrence host occurredAt,
    instant.milliseconds ≤ time.milliseconds

theorem keyStep_eq_ok {key after : TrustKey} {action : KeyStep}
    (stepped : keyStep host key action = .ok after) :
    action.1 ∈ transitions key.status ∧
      ∃ time, occurrence host action.2 = some time ∧
        after = key.moved action.1 (toISOString time) := by
  rcases (transitionTrustKey_eq_ok host).mp stepped with
    ⟨allowed, timestamp, canonical, moved⟩
  rcases (canonicalUtcTimestamp_eq_ok host).mp canonical with
    ⟨_, time, read, rfl⟩
  exact ⟨allowed, time, read, moved.symm⟩

/-- A step into retirement either leaves the end of the window as it is, or
replaces it with the time of the step. -/
theorem cutoff_moved {key : TrustKey} {nextStatus : TrustKeyStatus}
    (timestamp : JsString) (allowed : nextStatus ∈ transitions key.status)
    (retirement : nextStatus = .retiring ∨ nextStatus = .retired) :
    ((key.moved nextStatus timestamp).cutoff = key.cutoff ∧
      key.replacedCutoff nextStatus = none) ∨
    ((key.moved nextStatus timestamp).cutoff = some timestamp ∧
      key.cutoff = key.replacedCutoff nextStatus) := by
  rcases retirement with rfl | rfl
  · have active : key.status = .active := by
      revert allowed
      cases key.status <;> simp [transitions]
    refine Or.inr ⟨rfl, ?_⟩
    cases validUntil : key.validUntil with
    | none =>
        simp [TrustKey.cutoff, TrustKey.replacedCutoff, validUntil, active]
    | some text =>
        simp [TrustKey.cutoff, TrustKey.replacedCutoff, validUntil]
  · have retiring : key.status = .retiring := by
      revert allowed
      cases key.status <;> simp [transitions]
    cases validUntil : key.validUntil with
    | none =>
        refine Or.inr ?_
        simp [TrustKey.cutoff, TrustKey.moved, TrustKey.replacedCutoff,
          validUntil, retiring]
    | some text =>
        refine Or.inl ?_
        simp [TrustKey.cutoff, TrustKey.moved, TrustKey.replacedCutoff,
          validUntil]

/-- A key that has left the pending state and still vouches after a step is
on its way into retirement. -/
theorem retirement_of_vouching {status nextStatus : TrustKeyStatus}
    {allowRetiredHistorical : Bool}
    (started : status ≠ .pending)
    (allowed : nextStatus ∈ transitions status)
    (vouching : Vouching nextStatus allowRetiredHistorical) :
    (nextStatus = .retiring ∨ nextStatus = .retired) ∧
      Vouching status allowRetiredHistorical := by
  rcases vouching with rfl | rfl | ⟨rfl, policy⟩
  · revert started allowed
    cases status <;> simp [transitions]
  · revert allowed
    cases status <;> simp [transitions, Vouching]
  · revert allowed
    cases status <;> simp [transitions, Vouching]

theorem inWindow_toISOString {validFrom : JsString}
    {time instant : TimeValue} :
    InWindow host validFrom (some (toISOString time)) instant ↔
      InWindow host validFrom none instant ∧
        instant.milliseconds ≤ time.milliseconds := by
  simp [InWindow, host.dateParse_toISOString]

/-- A window without an end before the given time contains all that comes
before it. -/
theorem inWindow_of_le {validFrom cutoff : JsString}
    {instant time : TimeValue}
    (opened : InWindow host validFrom none instant)
    (contained : InWindow host validFrom (some cutoff) time)
    (before : instant.milliseconds ≤ time.milliseconds) :
    InWindow host validFrom (some cutoff) instant := by
  refine ⟨opened.1, fun text member => ?_⟩
  rcases contained.2 text member with ⟨closes, read, below⟩
  exact ⟨closes, read, before.trans below⟩

theorem inWindow_none_of_le {validFrom : JsString}
    {instant time : TimeValue}
    (opened : InWindow host validFrom none instant)
    (before : instant.milliseconds ≤ time.milliseconds) :
    InWindow host validFrom none time := by
  rcases opened.1 with ⟨opens, read, above⟩
  exact ⟨⟨opens, read, above.trans before⟩, by simp⟩

/-! ## Which steps let an instant in -/

theorem narrows_of_not_widens {key after : TrustKey} {action : KeyStep}
    {input : VerificationUse} (started : key.status ≠ .pending)
    (kept : ¬Widens host key action)
    (stepped : keyStep host key action = .ok after)
    (accepted : enforceKeyForVerification host after input = .ok ()) :
    enforceKeyForVerification host key input = .ok () := by
  rcases keyStep_eq_ok host stepped with ⟨allowed, time, read, rfl⟩
  rw [enforceKeyForVerification_eq_ok] at accepted ⊢
  rcases accepted with
    ⟨tenant, version, purpose, vouching, instant, parsed, window⟩
  have retirement := retirement_of_vouching started allowed vouching
  refine ⟨tenant, version, purpose, retirement.2, instant, parsed, ?_⟩
  rcases cutoff_moved (toISOString time) allowed retirement.1 with
    ⟨same, _⟩ | ⟨moved, replaced⟩
  · rw [same] at window
    exact window
  · rw [moved, inWindow_toISOString] at window
    cases cutoff : key.cutoff with
    | none =>
        exact window.1
    | some text =>
        refine inWindow_of_le host window.1 ?_ window.2
        by_contra outside
        apply kept
        exact ⟨JsNumber.strictEquals_self version, text,
          by rw [← replaced, cutoff]; rfl, time, read,
          inWindow_none_of_le host window.1 window.2, outside⟩

/-- The time of a widening step is accepted after the step only. -/
theorem exists_newly_accepted {key after : TrustKey} {action : KeyStep}
    (widens : Widens host key action)
    (stepped : keyStep host key action = .ok after) :
    ∃ input, enforceKeyForVerification host after input = .ok () ∧
      enforceKeyForVerification host key input ≠ .ok () := by
  rcases keyStep_eq_ok host stepped with ⟨allowed, time, read, rfl⟩
  rcases widens.later with
    ⟨text, member, time', read', opened, outside⟩
  obtain rfl : time = time' := Option.some.inj (read.symm.trans read')
  have retirement : action.1 = .retiring ∨ action.1 = .retired := by
    revert member
    cases action.1 <;> simp [TrustKey.replacedCutoff]
  have cutoffs : (key.moved action.1 (toISOString time)).cutoff =
      some (toISOString time) ∧ key.cutoff = some text := by
    rcases cutoff_moved (toISOString time) allowed retirement with
      ⟨_, unreplaced⟩ | ⟨moved, replaced⟩
    · simp [unreplaced] at member
    · exact ⟨moved, replaced.trans member⟩
  refine ⟨⟨key.tenantId, key.keyVersion, key.purpose, toISOString time,
    true⟩, ?_, ?_⟩
  · rw [enforceKeyForVerification_eq_ok]
    refine ⟨rfl, widens.readable, Or.inl rfl, ?_, time,
      host.dateParse_toISOString time, ?_⟩
    · rcases retirement with retiring | retired
      · exact Or.inr (Or.inl retiring)
      · exact Or.inr (Or.inr ⟨retired, rfl⟩)
    · rw [cutoffs.1, inWindow_toISOString]
      exact ⟨opened, le_rfl⟩
  · intro accepted
    rw [enforceKeyForVerification_eq_ok] at accepted
    rcases accepted with ⟨_, _, _, _, instant, parsed, window⟩
    have sameInstant : time = instant := Option.some.inj
      ((host.dateParse_toISOString time).symm.trans parsed)
    rw [cutoffs.2, ← sameInstant] at window
    exact outside window

/-- Leaving the active state keeps the accepted requests within what they were
exactly when the step does not put off the end of the window; along a run of
such steps they only shrink. -/
theorem transitionTrustKey_narrows_iff :
    (∀ (key after : TrustKey) (action : KeyStep), key.status ≠ .pending →
      keyStep host key action = .ok after →
      ((∀ input, enforceKeyForVerification host after input = .ok () →
        enforceKeyForVerification host key input = .ok ()) ↔
        ¬Widens host key action)) ∧
    ∀ (key last : TrustKey) (actions : List KeyStep),
      key.status ≠ .pending →
      run (keyStep host) key actions = .ok last →
      Along (keyStep host) (fun key action => ¬Widens host key action)
        key actions →
      ∀ input, enforceKeyForVerification host last input = .ok () →
        enforceKeyForVerification host key input = .ok () := by
  constructor
  · intro key after action started stepped
    constructor
    · intro narrows widens
      rcases exists_newly_accepted host widens stepped with
        ⟨input, accepted, refused⟩
      exact refused (narrows input accepted)
    · intro kept input
      exact narrows_of_not_widens host started kept stepped
  · intro key last actions started ran kept
    apply run_relates (keyStep host) (fun key => key.status ≠ .pending)
      (fun before after => ∀ input,
        enforceKeyForVerification host after input = .ok () →
        enforceKeyForVerification host before input = .ok ())
    · exact fun _ _ accepted => accepted
    · exact fun first second input accepted =>
        first input (second input accepted)
    · intro before action after waiting unwidened stepped
      refine ⟨?_, fun input =>
        narrows_of_not_widens host waiting unwidened stepped⟩
      rcases keyStep_eq_ok host stepped with ⟨allowed, time, _, rfl⟩
      intro pending
      have reached : action.1 = .pending := pending
      rw [reached] at allowed
      revert allowed
      cases before.status <;> simp [transitions]
    · exact started
    · exact kept
    · exact ran

/-! ## Orderly retirement -/

/-- A step into retirement that is not recorded before the signature. -/
def Orderly (signedAt : JsString) (action : KeyStep) : Prop :=
  (action.1 = .retiring ∨ action.1 = .retired) ∧
    NotBefore host signedAt action.2

instance (signedAt : JsString) (action : KeyStep) :
    Decidable (Orderly host signedAt action) :=
  inferInstanceAs <| Decidable <| (_ = _ ∨ _ = _) ∧
    ∀ instant ∈ host.dateParse signedAt, ∀ time ∈ _, _

/-- The key has the version, the tenant and the purpose it was registered with,
has not left the way to retirement, and its window contains the instant. -/
structure StillVouching (registered : TrustKey) (instant : TimeValue)
    (key : TrustKey) : Prop where
  tenant : key.tenantId = registered.tenantId
  version : key.keyVersion = registered.keyVersion
  purpose : key.purpose = registered.purpose
  vouching : Vouching key.status true
  window : InWindow host key.validFrom key.cutoff instant

theorem stillVouching_step {registered key after : TrustKey}
    {signedAt : JsString} {instant : TimeValue} {action : KeyStep}
    (parsed : host.dateParse signedAt = some instant)
    (vouching : StillVouching host registered instant key)
    (orderly : Orderly host signedAt action)
    (stepped : keyStep host key action = .ok after) :
    StillVouching host registered instant after := by
  rcases keyStep_eq_ok host stepped with ⟨allowed, time, read, rfl⟩
  refine ⟨vouching.tenant, vouching.version, vouching.purpose, ?_, ?_⟩
  · rcases orderly.1 with retiring | retired
    · exact Or.inr (Or.inl retiring)
    · exact Or.inr (Or.inr ⟨retired, rfl⟩)
  · have opened : InWindow host key.validFrom none instant :=
      ⟨vouching.window.1, by simp⟩
    rcases cutoff_moved (toISOString time) allowed orderly.1 with
      ⟨same, _⟩ | ⟨moved, _⟩
    · rw [same]
      exact vouching.window
    · rw [moved]
      exact (inWindow_toISOString host).mpr
        ⟨opened, orderly.2 instant parsed time read⟩

/-- What could be signed is verified at every later point of an orderly
retirement. -/
theorem enforceKeyForVerification_of_retired {key last : TrustKey}
    {tenantId signedAt : JsString} {purpose : KeyPurpose}
    {actions : List KeyStep}
    (signed :
      enforceKeyForSigning host key tenantId purpose signedAt = .ok ())
    (orderly : ∀ action ∈ actions, Orderly host signedAt action)
    (ran : run (keyStep host) key actions = .ok last) :
    enforceKeyForVerification host last
        ⟨tenantId, key.keyVersion, purpose, signedAt, true⟩ = .ok () ∧
      (last.status ≠ .retired →
        enforceKeyForVerification host last
          ⟨tenantId, key.keyVersion, purpose, signedAt, false⟩ = .ok ()) := by
  rw [enforceKeyForSigning_eq_ok] at signed
  rcases signed with
    ⟨valid, tenant, rightPurpose, active, instant, parsed, window⟩
  have started : StillVouching host key instant key := by
    refine ⟨rfl, rfl, rfl, Or.inl active, ?_⟩
    have sameEnd : key.cutoff = key.validUntil := by
      cases validUntil : key.validUntil <;>
        simp [TrustKey.cutoff, validUntil, active]
    rw [sameEnd]
    exact window
  have ended : StillVouching host key instant last :=
    run_invariant (keyStep host) (StillVouching host key instant)
      (fun vouching orderly => stillVouching_step host parsed vouching orderly)
      started
      (along_of_forall (keyStep host)
        (fun _ action member => orderly action member) key)
      ran
  rcases JsNumber.toInt?_of_isSafeInteger
    (isSafeInteger_of_validateTrustKey host valid) with ⟨version, integral⟩
  have sameVersion : last.keyVersion.strictEquals key.keyVersion = true := by
    rw [ended.version, JsNumber.strictEquals_of_toInt? integral integral]
    simp
  have accepts : ∀ policy, Vouching last.status policy →
      enforceKeyForVerification host last
        ⟨tenantId, key.keyVersion, purpose, signedAt, policy⟩ = .ok () := by
    intro policy vouching
    rw [enforceKeyForVerification_eq_ok]
    exact ⟨ended.tenant.trans tenant, sameVersion,
      Or.inl (ended.purpose.trans rightPurpose.1), vouching, instant,
      parsed, ended.window⟩
  refine ⟨accepts true ended.vouching, fun unretired => accepts false ?_⟩
  rcases ended.vouching with active | retiring | retired
  · exact Or.inl active
  · exact Or.inr (Or.inl retiring)
  · exact absurd retired.1 unretired

end Host

/-! ## A lapsed key -/

/-- A signing key whose validity ended in January. -/
def lapsedKey : TrustKey where
  structureVersion := js "1"
  keyId := js "key-1"
  keyVersion := .integer 1
  tenantId := js "tenant-1"
  identityId := js "identity-1"
  algorithm := .ed25519
  publicKey := js "MCowBQYDK2VwAyEA"
  publicKeyEncoding := js "spki-der-base64url"
  purpose := .settingsSigning
  scopeId := js "settings"
  providerType := .kms
  providerKeyReference := js "kms/1"
  status := .active
  validFrom := js "2026-01-01T00:00:00.000Z"
  validUntil := some (js "2026-01-31T00:00:00.000Z")
  statusChangedAt := js "2026-01-01T00:00:00.000Z"
  replacesKeyId := none
  replacesKeyVersion := none
  revokedAt := none
  compromisedAt := none
  createdAt := js "2026-01-01T00:00:00.000Z"
  metadata := .object []

/-- A settings signature of the key, dated by its second argument. -/
def signatureOf (key : TrustKey) (signedAt : JsString)
    (allowRetiredHistorical : Bool) : VerificationUse :=
  ⟨key.tenantId, key.keyVersion, key.purpose, signedAt,
    allowRetiredHistorical⟩

/-- Retired in March, the key vouches for a signature of February that it
refused before. -/
theorem lapsedKey_widens :
    ∃ after, keyStep (recordedHost []) lapsedKey
        (.retiring, js "2026-03-01T00:00:00.000Z") = .ok after ∧
      enforceKeyForVerification (recordedHost []) after
        (signatureOf lapsedKey (js "2026-02-15T00:00:00.000Z") false) =
          .ok () ∧
      enforceKeyForVerification (recordedHost []) lapsedKey
        (signatureOf lapsedKey (js "2026-02-15T00:00:00.000Z") false) ≠
          .ok () :=
  ⟨_, rfl, by decide +kernel, by decide +kernel⟩

/-- The retirement of a lapsed key in two steps. -/
def retirementOfMarch : List KeyStep :=
  [(.retiring, js "2026-03-01T00:00:00.000Z"),
    (.retired, js "2026-03-02T00:00:00.000Z")]

/-- A step without a replaced end widens nothing. -/
theorem transitionTrustKey_narrows_iff_lapsed :
    ∃ last, run (keyStep (recordedHost []))
        { lapsedKey with validUntil := none } retirementOfMarch = .ok last ∧
      ∀ input,
        enforceKeyForVerification (recordedHost []) last input = .ok () →
        enforceKeyForVerification (recordedHost [])
          { lapsedKey with validUntil := none } input = .ok () := by
  refine ⟨_, rfl, ?_⟩
  apply (transitionTrustKey_narrows_iff (recordedHost [])).2 _ _
    retirementOfMarch (by decide) rfl
  refine ⟨?_, fun next stepped => ⟨?_, fun _ _ => trivial⟩⟩
  · intro widens
    rcases widens.later with ⟨replaced, member, _⟩
    simp [TrustKey.replacedCutoff] at member
  · rcases keyStep_eq_ok _ stepped with ⟨_, time, _, rfl⟩
    intro widens
    rcases widens.later with ⟨replaced, member, _⟩
    simp [TrustKey.replacedCutoff, TrustKey.moved] at member

theorem enforceKeyForVerification_of_retired_lapsed :
    ∃ last, run (keyStep (recordedHost [])) lapsedKey retirementOfMarch =
        .ok last ∧
      enforceKeyForVerification (recordedHost []) last
        (signatureOf lapsedKey (js "2026-01-31T00:00:00.000Z") true) =
          .ok () := by
  refine ⟨_, rfl, ?_⟩
  have signed : enforceKeyForSigning (recordedHost []) lapsedKey
      (js "tenant-1") .settingsSigning (js "2026-01-31T00:00:00.000Z") =
        .ok () := by
    decide +kernel
  have orderly : ∀ action ∈ retirementOfMarch,
      Orderly (recordedHost []) (js "2026-01-31T00:00:00.000Z") action := by
    decide +kernel
  exact (enforceKeyForVerification_of_retired (recordedHost []) signed orderly
    rfl).1

end BidayaxExecutive.Trust
