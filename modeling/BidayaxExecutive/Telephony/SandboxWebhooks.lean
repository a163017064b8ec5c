import BidayaxExecutive.Library.Guards
import BidayaxExecutive.Runtime.Sha256
import BidayaxExecutive.Runtime.Instant
import BidayaxExecutive.Telephony.SandboxOperations

/-!
# Webhooks of the sandbox provider

The signature of a webhook covers its timestamp, event id and body joined with
dots.  Freshness and replay look at the parts, and a body or an event id may
contain dots itself: the signed text of one webhook can be cut into others.
-/

namespace BidayaxExecutive.Telephony

open BidayaxExecutive.Runtime JsString
open BidayaxExecutive.Trust
open BidayaxExecutive.Library.ClaimedKeys
open BidayaxExecutive.Library.Guards

/-! ## Signatures -/

def sandboxSignatureVersion : JsString :=
  js "v1"

def sandboxSignatureAlgorithm : JsString :=
  js "hmac-sha256"

structure SandboxWebhook where
  eventId : JsString
  rawBody : JsString
  timestamp : JsString
  deriving DecidableEq, Repr

def createSandboxSignedPayload (webhook : SandboxWebhook) : JsString :=
  sandboxSignatureVersion ++ 46 :: (webhook.timestamp ++ 46 ::
    (webhook.eventId ++ 46 :: webhook.rawBody))

/-- The bytes that are signed. -/
def signedBytes (webhook : SandboxWebhook) : List UInt8 :=
  utf8 (createSandboxSignedPayload webhook)

def computeSandboxSignature (secret : JsString) (webhook : SandboxWebhook) :
    JsString :=
  hmacSha256Hex (utf8 secret) (signedBytes webhook)

def signSandboxWebhook (secret : JsString) (webhook : SandboxWebhook) :
    JsString :=
  sandboxSignatureVersion ++ js ";alg=" ++ sandboxSignatureAlgorithm ++
    js ";sig=" ++ computeSandboxSignature secret webhook

/-- `part?.startsWith(mark) ? part.slice(mark.length) : null`. -/
def afterMark (mark part : JsString) : Option JsString :=
  if mark.isPrefixOf part then some (part.drop mark.length) else none

/-- The digest of a well-formed signature. -/
def parseSandboxSignature (signature : Option JsString) : Option JsString :=
  match signature.map (List.splitOn 59) with
  | some [version, algorithm, digest] =>
      if version = sandboxSignatureVersion ∧
          afterMark (js "alg=") algorithm = some sandboxSignatureAlgorithm then
        (afterMark (js "sig=") digest).filter isHexDigest
      else none
  | _ => none

/-- The bytes of two lower-case hexadecimal texts are equal when the texts
are. -/
def safeCompareHex (value expected : JsString) : Bool :=
  isHexDigest value && isHexDigest expected && value == expected

/-! ## The secret -/

def isStrongSandboxSecret (secret : Option JsString) : Bool :=
  match secret with
  | none => false
  | some secret =>
      !secret.isEmpty && 16 ≤ (trim secret).length &&
        !([js "change-me", js "changeme", js "placeholder", js "test",
          js "secret", js "sandbox-secret"].contains
            (lowerCase (trim secret)))

/-! ## Calls -/

structure SandboxWebhookConfig where
  maxBodyBytes : Int := 16 * 1024
  mode : SandboxProviderMode
  timestampToleranceMs : Int := 5 * 60 * 1000
  webhookSigningSecret : Option JsString

/-- A call of `verifyWebhook`, with what `now()` returns during it. -/
structure WebhookCall where
  headers : List (JsString × Option JsString)
  rawBody : JsString
  now : JsString
  deriving DecidableEq, Repr

/-- Header names are compared without regard to case.  No letter of the names
asked for is the lower case of a letter outside ASCII. -/
def getHeader (headers : List (JsString × Option JsString))
    (name : JsString) : Option JsString :=
  (headers.find? fun header => lowerCase header.1 == lowerCase name).bind
    (·.2)

namespace WebhookCall

/-- A header that is there and not empty. -/
def header (call : WebhookCall) (name : JsString) : Option JsString :=
  (getHeader call.headers name).filter (!·.isEmpty)

theorem header_eq_some {call : WebhookCall} {name value : JsString}
    (found : getHeader call.headers name = some value) (nonempty : value ≠ []) :
    call.header name = some value := by
  rw [header, found]
  exact Option.filter_eq_some_iff.mpr ⟨rfl, by simpa using nonempty⟩

def eventId (call : WebhookCall) : Option JsString :=
  call.header (js "x-bidayax-sandbox-event-id")

def timestamp (call : WebhookCall) : Option JsString :=
  call.header (js "x-bidayax-sandbox-timestamp")

def signature (call : WebhookCall) : Option JsString :=
  call.header (js "x-bidayax-sandbox-signature")

/-- The webhook the call presents. -/
def presented (call : WebhookCall) : Option SandboxWebhook := do
  let eventId ← call.eventId
  let timestamp ← call.timestamp
  return { eventId, rawBody := call.rawBody, timestamp }

end WebhookCall

structure WebhookVerification where
  reasonCodes : List JsString
  valid : Bool
  deriving DecidableEq, Repr

section Host

variable (host : Host)

/-- `none` when the timestamp is fresh. -/
def validateTimestamp (now : JsString) (timestamp : Option JsString)
    (toleranceMs : Int) : Option JsString :=
  match timestamp with
  | none => some (js "SANDBOX_WEBHOOK_TIMESTAMP_MISSING")
  | some timestamp =>
      match host.dateParse timestamp, host.dateParse now with
      | some timestampMs, some nowMs =>
          let delta := timestampMs.milliseconds - nowMs.milliseconds
          if delta < -toleranceMs then
            some (js "SANDBOX_WEBHOOK_TIMESTAMP_STALE")
          else if delta > toleranceMs then
            some (js "SANDBOX_WEBHOOK_TIMESTAMP_FUTURE")
          else none
      | _, _ => some (js "SANDBOX_WEBHOOK_TIMESTAMP_INVALID")

/-- The checks before the replay check, down to the event id. -/
def authenticateWebhook (config : SandboxWebhookConfig) (call : WebhookCall) :
    Except JsString JsString := do
  if config.mode ≠ .sandbox then
    throw (js "SANDBOX_WEBHOOK_MODE_DISABLED")
  if !isStrongSandboxSecret config.webhookSigningSecret then
    throw (js "SANDBOX_WEBHOOK_SECRET_WEAK_OR_MISSING")
  if (utf8 call.rawBody).length > config.maxBodyBytes then
    throw (js "SANDBOX_WEBHOOK_BODY_TOO_LARGE")
  if !(getHeader call.headers (js "content-type")).any fun contentType =>
      (js "application/json").isPrefixOf (lowerCase contentType) then
    throw (js "SANDBOX_WEBHOOK_CONTENT_TYPE_INVALID")
  let some eventId := call.eventId
    | throw (js "SANDBOX_WEBHOOK_EVENT_ID_MISSING")
  if let some timestampFailure :=
      validateTimestamp host call.now call.timestamp
        config.timestampToleranceMs then
    throw timestampFailure
  let some digest := parseSandboxSignature call.signature
    | throw (js "SANDBOX_WEBHOOK_SIGNATURE_MALFORMED")
  let expected := computeSandboxSignature
    (config.webhookSigningSecret.getD [])
    { eventId, rawBody := call.rawBody, timestamp := call.timestamp.getD [] }
  if !safeCompareHex digest expected then
    throw (js "SANDBOX_WEBHOOK_SIGNATURE_INVALID")
  return eventId

abbrev SandboxWebhookReplayStore := InMemoryStore Unit

def createInMemorySandboxWebhookReplayStore : SandboxWebhookReplayStore :=
  createInMemoryStore Unit

def verifyWebhook (config : SandboxWebhookConfig)
    (replayStore : SandboxWebhookReplayStore) (call : WebhookCall) :
    WebhookVerification × SandboxWebhookReplayStore :=
  match authenticateWebhook host config call with
  | .error reasonCode => (⟨[reasonCode], false⟩, replayStore)
  | .ok eventId =>
      if replayStore.has eventId then
        (⟨[js "SANDBOX_WEBHOOK_REPLAY_DETECTED"], false⟩, replayStore)
      else
        (⟨[js "SANDBOX_WEBHOOK_SIGNATURE_VALID"], true⟩,
          replayStore.remember eventId ())

end Host

/-! ## Issued signatures -/

theorem isHexDigest_computeSandboxSignature (secret : JsString)
    (webhook : SandboxWebhook) :
    isHexDigest (computeSandboxSignature secret webhook) = true :=
  isHexDigest_sha256Bytes _

theorem signSandboxWebhook_ne_nil (secret : JsString)
    (webhook : SandboxWebhook) : signSandboxWebhook secret webhook ≠ [] := by
  have version : sandboxSignatureVersion ≠ [] := by
    decide
  simp [signSandboxWebhook, version]

/-- What is signed reads back as its digest. -/
theorem parseSandboxSignature_signSandboxWebhook (secret : JsString)
    (webhook : SandboxWebhook) :
    parseSandboxSignature (some (signSandboxWebhook secret webhook)) =
      some (computeSandboxSignature secret webhook) := by
  have isDigest := isHexDigest_computeSandboxSignature secret webhook
  rw [signSandboxWebhook]
  generalize computeSandboxSignature secret webhook = digest at isDigest ⊢
  have plain : (59 : UInt16) ∉ js "sig=" ++ digest := by
    intro member
    rcases List.mem_append.mp member with inMark | inDigest
    · exact absurd inMark (by decide)
    · rw [isHexDigest, Bool.and_eq_true, List.all_eq_true] at isDigest
      exact absurd (isDigest.2 59 inDigest) (by decide)
  have marks : sandboxSignatureVersion ++ js ";alg=" ++
      sandboxSignatureAlgorithm ++ js ";sig=" =
      js "v1" ++ 59 :: (js "alg=hmac-sha256" ++ 59 :: js "sig=") := by
    decide
  have parts : List.splitOn 59 (sandboxSignatureVersion ++ js ";alg=" ++
      sandboxSignatureAlgorithm ++ js ";sig=" ++ digest) =
      [js "v1", js "alg=hmac-sha256", js "sig=" ++ digest] := by
    rw [marks, List.append_assoc, List.cons_append, List.append_assoc,
      List.cons_append,
      List.splitOn_append_cons_self_of_not_mem (by decide),
      List.splitOn_append_cons_self_of_not_mem (by decide),
      List.splitOn_eq_singleton plain]
  have version : js "v1" = sandboxSignatureVersion ∧
      afterMark (js "alg=") (js "alg=hmac-sha256") =
        some sandboxSignatureAlgorithm := by
    decide
  have afterSig : afterMark (js "sig=") (js "sig=" ++ digest) =
      some digest := by
    rw [afterMark, if_pos (by simp), List.drop_left]
  simp only [parseSandboxSignature, Option.map_some, parts, if_pos version,
    afterSig, Option.filter_some, isDigest, if_true]

section Host

variable {host : Host} {config : SandboxWebhookConfig}
  {call : WebhookCall}

theorem timestamp_of_validateTimestamp {now : JsString}
    {timestamp : Option JsString} {toleranceMs : Int}
    (fresh : validateTimestamp host now timestamp toleranceMs = none) :
    ∃ text, timestamp = some text := by
  cases timestamp with
  | none =>
      exact nomatch fresh
  | some text =>
      exact ⟨text, rfl⟩

theorem eq_of_safeCompareHex {value expected : JsString}
    (compares : safeCompareHex value expected = true) : value = expected := by
  rw [safeCompareHex, Bool.and_eq_true, beq_iff_eq] at compares
  exact compares.2

/-- What a call has to carry besides a signature: nothing here depends on what
was signed. -/
structure Presentable (host : Host) (config : SandboxWebhookConfig)
    (webhook : SandboxWebhook) : Prop where
  named : webhook.eventId ≠ []
  stamped : webhook.timestamp ≠ []
  dated : ∃ instant, host.dateParse webhook.timestamp = some instant
  fits : ((utf8 webhook.rawBody).length : Int) ≤ config.maxBodyBytes

/-- The provider takes webhooks at all. -/
structure Enabled (config : SandboxWebhookConfig) : Prop where
  mode : config.mode = .sandbox
  secret : isStrongSandboxSecret config.webhookSigningSecret = true
  tolerance : 0 ≤ config.timestampToleranceMs

theorem within_of_validateTimestamp {now text : JsString}
    {toleranceMs : Int}
    (fresh : validateTimestamp host now (some text) toleranceMs = none) :
    (∃ instant, host.dateParse text = some instant) ∧ 0 ≤ toleranceMs := by
  rw [validateTimestamp] at fresh
  cases stamped : host.dateParse text with
  | none =>
      simp [stamped] at fresh
  | some instant =>
      cases dated : host.dateParse now with
      | none =>
          simp [stamped, dated] at fresh
      | some moment =>
          simp only [stamped, dated] at fresh
          split_ifs at fresh with stale future
          exact ⟨⟨instant, rfl⟩, by omega⟩

/-- What passes the checks before the replay check. -/
structure Authentic (host : Host) (config : SandboxWebhookConfig)
    (call : WebhookCall) (webhook : SandboxWebhook) : Prop where
  enabled : Enabled config
  presentable : Presentable host config webhook
  presented : call.presented = some webhook
  signature : parseSandboxSignature call.signature =
    some (computeSandboxSignature (config.webhookSigningSecret.getD [])
      webhook)

theorem WebhookCall.header_ne_nil {name value : JsString}
    (found : call.header name = some value) : value ≠ [] := by
  have nonempty := (Option.filter_eq_some_iff.mp found).2
  simpa using nonempty

/-- A call that passes the checks presents a webhook under the signature of its
own text. -/
theorem authentic_of_authenticateWebhook {eventId : JsString}
    (passes : authenticateWebhook host config call = .ok eventId) :
    ∃ webhook, Authentic host config call webhook ∧
      webhook.eventId = eventId := by
  simp only [authenticateWebhook, guard_eq_ok] at passes
  obtain ⟨mode, secret, size, _, passes⟩ := passes
  cases named : call.eventId with
  | none =>
      rw [named] at passes
      cases passes
  | some name =>
      rw [named] at passes
      cases timed : validateTimestamp host call.now call.timestamp
          config.timestampToleranceMs with
      | some timestampFailure =>
          rw [timed] at passes
          cases passes
      | none =>
          obtain ⟨timestamp, stamped⟩ := timestamp_of_validateTimestamp timed
          rw [timed] at passes
          cases signed : parseSandboxSignature call.signature with
          | none =>
              rw [signed] at passes
              cases passes
          | some digest =>
              rw [signed] at passes
              simp only [stamped, Option.getD_some, guard_eq_ok] at passes
              obtain ⟨compares, same⟩ := passes
              rw [stamped] at timed
              obtain ⟨dated, tolerance⟩ := within_of_validateTimestamp timed
              refine ⟨⟨name, call.rawBody, timestamp⟩,
                { enabled := ⟨not_not.mp mode, by simpa using secret,
                    tolerance⟩
                  presentable :=
                    { named := WebhookCall.header_ne_nil named
                      stamped := WebhookCall.header_ne_nil stamped
                      dated
                      fits := not_lt.mp size }
                  presented := ?_
                  signature := ?_ }, Except.ok.inj same⟩
              · simp [WebhookCall.presented, named, stamped]
              · have matched : safeCompareHex digest
                    (computeSandboxSignature
                      (config.webhookSigningSecret.getD [])
                      ⟨name, call.rawBody, timestamp⟩) = true := by
                  simpa using compares
                rw [signed, eq_of_safeCompareHex matched]

/-- A call that passes the checks names an event id, and claims it. -/
def webhookProtocol (host : Host) (config : SandboxWebhookConfig) :
    Protocol WebhookCall JsString Unit WebhookVerification where
  key call := (authenticateWebhook host config call).toOption
  claim _ := some ()
  answer call record :=
    match authenticateWebhook host config call, record with
    | .error reasonCode, _ => ⟨[reasonCode], false⟩
    | .ok _, some _ => ⟨[js "SANDBOX_WEBHOOK_REPLAY_DETECTED"], false⟩
    | .ok _, none => ⟨[js "SANDBOX_WEBHOOK_SIGNATURE_VALID"], true⟩

theorem verifyWebhook_eq_perform :
    verifyWebhook host config =
      perform (InMemoryStore.keyedStore Unit) (webhookProtocol host config) := by
  funext store call
  cases checked : authenticateWebhook host config call with
  | error reasonCode =>
      have unnamed : (webhookProtocol host config).key call = none := by
        change (authenticateWebhook host config call).toOption = none
        rw [checked]
        rfl
      rw [perform_of_unnamed unnamed, verifyWebhook, checked]
      simp only [webhookProtocol, checked]
  | ok eventId =>
      have named : (webhookProtocol host config).key call = some eventId := by
        change (authenticateWebhook host config call).toOption = some eventId
        rw [checked]
        rfl
      cases present : store.get eventId with
      | some record =>
          have seen : store.has eventId = true := by
            change (store.get eventId).isSome = true
            rw [present]
            rfl
          rw [perform_of_present named present, verifyWebhook, checked]
          simp only [seen, if_true, webhookProtocol, checked]
      | none =>
          have unseen : ¬store.has eventId = true := by
            change ¬(store.get eventId).isSome = true
            rw [present]
            exact nofun
          rw [perform_of_claimed named present rfl, verifyWebhook, checked]
          simp only [unseen, webhookProtocol, checked]
          rfl

end Host

/-! ## A webhook and a cut of it -/

def sandboxConfig : SandboxWebhookConfig where
  mode := .sandbox
  webhookSigningSecret := some (js "test-sandbox-secret-32-bytes")

def answeredWebhook : SandboxWebhook where
  eventId := js "sandbox-event-1"
  rawBody := js "\x7b\"eventType\":\"call.answered\"\x7d"
  timestamp := js "2026-07-14T00:00:00.000Z"

/-- The same signed text with the first part of the body in the event id. -/
def cutWebhook : SandboxWebhook where
  eventId := js "sandbox-event-1.\x7b\"eventType\":\"call"
  rawBody := js "answered\"\x7d"
  timestamp := js "2026-07-14T00:00:00.000Z"

/-- A call that presents a webhook under the signature of another one. -/
def deliverUnder (secret now : JsString) (presented signed : SandboxWebhook) :
    WebhookCall where
  headers :=
    [(js "content-type", some (js "application/json")),
      (js "x-bidayax-sandbox-event-id", some presented.eventId),
      (js "x-bidayax-sandbox-signature", some <|
        signSandboxWebhook secret signed),
      (js "x-bidayax-sandbox-timestamp", some presented.timestamp)]
  rawBody := presented.rawBody
  now := now

section Deliveries

variable {secret now : JsString} {presented : SandboxWebhook}

theorem eventId_deliverUnder (named : presented.eventId ≠ [])
    (signed : SandboxWebhook) :
    (deliverUnder secret now presented signed).eventId =
      some presented.eventId :=
  WebhookCall.header_eq_some rfl named

theorem timestamp_deliverUnder (stamped : presented.timestamp ≠ [])
    (signed : SandboxWebhook) :
    (deliverUnder secret now presented signed).timestamp =
      some presented.timestamp :=
  WebhookCall.header_eq_some rfl stamped

theorem signature_deliverUnder (presented signed : SandboxWebhook) :
    (deliverUnder secret now presented signed).signature =
      some (signSandboxWebhook secret signed) :=
  WebhookCall.header_eq_some rfl (signSandboxWebhook_ne_nil _ signed)

/-- A call presents the webhook it was made from. -/
theorem presented_deliverUnder (named : presented.eventId ≠ [])
    (stamped : presented.timestamp ≠ []) (signed : SandboxWebhook) :
    (deliverUnder secret now presented signed).presented =
      some presented := by
  simp only [WebhookCall.presented, eventId_deliverUnder named,
    timestamp_deliverUnder stamped]
  rfl

/-- What can be presented passes the checks under the signature of any webhook
with its bytes, at the instant of its own timestamp. -/
theorem authenticateWebhook_deliverUnder {host : Host}
    {config : SandboxWebhookConfig} {signed : SandboxWebhook}
    (enabled : Enabled config)
    (isSecret : config.webhookSigningSecret = some secret)
    (presentable : Presentable host config presented)
    (sameBytes : signedBytes signed = signedBytes presented) :
    authenticateWebhook host config
        (deliverUnder secret presented.timestamp presented signed) =
      .ok presented.eventId := by
  obtain ⟨instant, dated⟩ := presentable.dated
  have sameDigest : computeSandboxSignature secret signed =
      computeSandboxSignature secret presented := by
    rw [computeSandboxSignature, sameBytes, ← computeSandboxSignature]
  have fresh : validateTimestamp host presented.timestamp
      (some presented.timestamp) config.timestampToleranceMs = none := by
    have tolerance := enabled.tolerance
    have notStale : ¬(0 : Int) < -config.timestampToleranceMs := by omega
    have notFuture : ¬config.timestampToleranceMs < 0 := by omega
    simp only [validateTimestamp, dated, sub_self, gt_iff_lt, if_neg notStale,
      if_neg notFuture]
  have compares : safeCompareHex (computeSandboxSignature secret presented)
      (computeSandboxSignature secret presented) = true := by
    simp [safeCompareHex, isHexDigest_computeSandboxSignature]
  have contentType : getHeader
      (deliverUnder secret presented.timestamp presented signed).headers
      (js "content-type") = some (js "application/json") := rfl
  have isJson : (js "application/json").isPrefixOf
      (lowerCase (js "application/json")) = true := by
    decide
  have now : (deliverUnder secret presented.timestamp presented signed).now =
      presented.timestamp := rfl
  have rawBody : (deliverUnder secret presented.timestamp presented
      signed).rawBody = presented.rawBody := rfl
  simp only [authenticateWebhook, guard_eq_ok]
  refine ⟨not_not.mpr enabled.mode, by simp [enabled.secret],
    not_lt.mpr presentable.fits, by simp [contentType, isJson], ?_⟩
  simp only [eventId_deliverUnder presentable.named,
    timestamp_deliverUnder presentable.stamped, signature_deliverUnder, now,
    rawBody, fresh, parseSandboxSignature_signSandboxWebhook, sameDigest,
    isSecret, Option.getD_some, compares]
  rfl

end Deliveries

/-! ## Runs over one replay store -/

section Runs

variable (host : Host) (config : SandboxWebhookConfig)

/-- The call is accepted after the calls before it. -/
def AcceptedAfter (before : List WebhookCall) (call : WebhookCall) : Prop :=
  (verifyWebhook host config
    (after (verifyWebhook host config) createInMemorySandboxWebhookReplayStore
      before) call).1.valid = true

/-- The call passes every check before the replay check, with an event id that
no earlier call has passed them with. -/
def FreshlyAuthentic (before : List WebhookCall) (call : WebhookCall) : Prop :=
  ∃ eventId, authenticateWebhook host config call = .ok eventId ∧
    ∀ earlier ∈ before, authenticateWebhook host config earlier ≠ .ok eventId

variable {host config} {before : List WebhookCall} {call : WebhookCall}

theorem has_after_iff {eventId : JsString} :
    (after (verifyWebhook host config) createInMemorySandboxWebhookReplayStore
      before).has eventId = true ↔
      ∃ earlier ∈ before,
        authenticateWebhook host config earlier = .ok eventId := by
  have seen : (after (perform (InMemoryStore.keyedStore Unit)
        (webhookProtocol host config)) createInMemorySandboxWebhookReplayStore
        before).has eventId = true ↔
      ∃ earlier ∈ before, (left (webhookProtocol host config) earlier
        eventId).isSome = true := by
    have isEmpty : (InMemoryStore.keyedStore Unit).lookup
        createInMemorySandboxWebhookReplayStore eventId = none := rfl
    exact present_after_iff _ (webhookProtocol host config) isEmpty
  rw [verifyWebhook_eq_perform, seen]
  refine exists_congr fun earlier => and_congr_right fun _ => ?_
  change (if (authenticateWebhook host config earlier).toOption = some eventId
    then some () else none).isSome = true ↔ _
  cases authenticateWebhook host config earlier with
  | error reasonCode =>
      simp [Except.toOption]
  | ok named =>
      simp [Except.toOption]

theorem acceptedAfter_iff :
    AcceptedAfter host config before call ↔
      FreshlyAuthentic host config before call := by
  unfold AcceptedAfter FreshlyAuthentic
  cases checked : authenticateWebhook host config call with
  | error reasonCode =>
      rw [verifyWebhook, checked]
      exact iff_of_false nofun fun ⟨_, same, _⟩ => nomatch same
  | ok eventId =>
      rw [verifyWebhook, checked]
      by_cases seen : (after (verifyWebhook host config)
          createInMemorySandboxWebhookReplayStore before).has eventId = true
      · obtain ⟨earlier, member, same⟩ := has_after_iff.mp seen
        simp only [seen, if_true]
        refine iff_of_false nofun ?_
        rintro ⟨named, isNamed, fresh⟩
        exact fresh earlier member (same.trans isNamed)
      · simp only [seen]
        refine iff_of_true rfl ⟨eventId, rfl, fun earlier member same => ?_⟩
        exact seen (has_after_iff.mpr ⟨earlier, member, same⟩)

/-! ## What accepted calls present -/

/-- Every accepted call presents a webhook that was signed, and no webhook is
accepted twice. -/
structure AcceptsAsSigned (host : Host) (config : SandboxWebhookConfig)
    (signed : List SandboxWebhook) (calls : List WebhookCall) : Prop where
  asSigned : ∀ before call later, calls = before ++ call :: later →
    AcceptedAfter host config before call →
    ∃ webhook ∈ signed, call.presented = some webhook
  once : ∀ before first between later rest,
    calls = before ++ first :: (between ++ later :: rest) →
    AcceptedAfter host config before first →
    AcceptedAfter host config (before ++ first :: between) later →
    first.presented ≠ later.presented

/-- The signatures of the calls are those issued for the signed webhooks. -/
def OnlyIssued (secret : JsString) (signed : List SandboxWebhook)
    (calls : List WebhookCall) : Prop :=
  ∀ call ∈ calls, ∀ digest, parseSandboxSignature call.signature = some digest →
    ∃ webhook ∈ signed, parseSandboxSignature
      (some (signSandboxWebhook secret webhook)) = some digest

/-- The signatures of a signed and a presented text tell the texts apart. -/
def SignaturesApart (secret : JsString) (signed : List SandboxWebhook)
    (calls : List WebhookCall) : Prop :=
  ∀ webhook ∈ signed, ∀ call ∈ calls, ∀ presented,
    call.presented = some presented →
    computeSandboxSignature secret webhook =
      computeSandboxSignature secret presented →
    signedBytes webhook = signedBytes presented

/-- The signatures of the signed texts tell them apart. -/
def SignedApart (secret : JsString) (signed : List SandboxWebhook) : Prop :=
  ∀ first ∈ signed, ∀ second ∈ signed,
    computeSandboxSignature secret first =
      computeSandboxSignature secret second →
    signedBytes first = signedBytes second

/-- The call does not cut the signed text of a webhook into another one. -/
def PresentsUncut (signed : List SandboxWebhook) (call : WebhookCall) :
    Prop :=
  ∀ presented, call.presented = some presented →
    (∃ webhook ∈ signed, signedBytes webhook = signedBytes presented) →
    presented ∈ signed

/-- No signed text can be cut into another webhook that a call may carry. -/
def Uncut (host : Host) (config : SandboxWebhookConfig)
    (signed : List SandboxWebhook) : Prop :=
  ∀ webhook ∈ signed, ∀ other, signedBytes webhook = signedBytes other →
    Presentable host config other → other ∈ signed

/-- Texts joined with dots come apart again when the timestamps have one length
and no event id has a dot. -/
theorem eq_of_createSandboxSignedPayload {first second : SandboxWebhook}
    (sameLength : first.timestamp.length = second.timestamp.length)
    (firstPlain : 46 ∉ first.eventId) (secondPlain : 46 ∉ second.eventId)
    (same : createSandboxSignedPayload first =
      createSandboxSignedPayload second) :
    first = second := by
  unfold createSandboxSignedPayload at same
  have afterVersion := (List.cons.inj (List.append_cancel_left same)).2
  obtain ⟨sameTimestamp, rest⟩ :=
    List.append_inj afterVersion sameLength
  obtain ⟨sameId, sameBody⟩ := Library.Separator.split_eq firstPlain secondPlain
    (List.cons.inj rest).2
  cases first
  cases second
  simp only at sameTimestamp sameId sameBody
  rw [sameTimestamp, sameId, sameBody]

/-- A webhook whose text can be cut in one way only. -/
structure Plain (webhook : SandboxWebhook) : Prop where
  timestamp : webhook.timestamp.length = 24
  eventId : 46 ∉ webhook.eventId
  paired : Paired (createSandboxSignedPayload webhook)

theorem presentsUncut_of_plain {signed : List SandboxWebhook}
    {call : WebhookCall} (signedPlain : ∀ webhook ∈ signed, Plain webhook)
    (presentedPlain : ∀ presented, call.presented = some presented →
      Plain presented) : PresentsUncut signed call := by
  rintro presented presents ⟨webhook, member, same⟩
  have plain := presentedPlain presented presents
  have webhookPlain := signedPlain webhook member
  have sameText := utf8_injective webhookPlain.paired plain.paired same
  have sameWebhook := eq_of_createSandboxSignedPayload
    (webhookPlain.timestamp.trans plain.timestamp.symm) webhookPlain.eventId
    plain.eventId sameText
  exact sameWebhook ▸ member

/-- Calls that carry the headers of `signSandboxWebhook`. -/
theorem onlyIssued_of_signature {secret : JsString}
    {signed : List SandboxWebhook} {calls : List WebhookCall}
    (signatures : ∀ call ∈ calls, ∃ webhook ∈ signed,
      call.signature = some (signSandboxWebhook secret webhook)) :
    OnlyIssued secret signed calls := by
  intro call member digest parsed
  obtain ⟨webhook, webhookMember, carries⟩ := signatures call member
  rw [carries] at parsed
  exact ⟨webhook, webhookMember, parsed⟩

/-- Where no call that passes the checks cuts a signed text, every accepted
call presents what was signed. -/
theorem acceptsAsSigned_of_authentic {signed : List SandboxWebhook}
    {calls : List WebhookCall}
    (issued : OnlyIssued (config.webhookSigningSecret.getD []) signed calls)
    (apart : SignaturesApart (config.webhookSigningSecret.getD []) signed
      calls)
    (uncut : ∀ call ∈ calls, ∀ webhook, Authentic host config call webhook →
      PresentsUncut signed call) :
    AcceptsAsSigned host config signed calls := by
  constructor
  · intro before call later splits accepted
    obtain ⟨eventId, passes, _⟩ := acceptedAfter_iff.mp accepted
    obtain ⟨presented, authentic, _⟩ := authentic_of_authenticateWebhook passes
    have member : call ∈ calls := by
      rw [splits]
      exact List.mem_append_right _ List.mem_cons_self
    obtain ⟨webhook, webhookMember, reads⟩ :=
      issued call member _ authentic.signature
    rw [parseSandboxSignature_signSandboxWebhook] at reads
    have sameBytes := apart webhook webhookMember call member presented
      authentic.presented (Option.some.inj reads)
    exact ⟨presented, uncut call member presented authentic presented
      authentic.presented ⟨webhook, webhookMember, sameBytes⟩,
      authentic.presented⟩
  · intro before first between later rest _ firstAccepted laterAccepted same
    obtain ⟨firstId, firstPasses, _⟩ := acceptedAfter_iff.mp firstAccepted
    obtain ⟨laterId, laterPasses, laterFresh⟩ :=
      acceptedAfter_iff.mp laterAccepted
    obtain ⟨firstWebhook, firstAuthentic, firstNamed⟩ :=
      authentic_of_authenticateWebhook firstPasses
    obtain ⟨laterWebhook, laterAuthentic, laterNamed⟩ :=
      authentic_of_authenticateWebhook laterPasses
    have sameWebhook : firstWebhook = laterWebhook :=
      Option.some.inj <|
        firstAuthentic.presented.symm.trans
          (same.trans laterAuthentic.presented)
    have sameId : firstId = laterId := by
      rw [← firstNamed, ← laterNamed, sameWebhook]
    refine laterFresh first ?_ (sameId ▸ firstPasses)
    exact List.mem_append_right _ List.mem_cons_self

/-- Another cut of a signed text that can be presented is accepted at the
instant of its timestamp. -/
theorem mem_of_acceptsAsSigned {signed : List SandboxWebhook}
    (signedApart : SignedApart (config.webhookSigningSecret.getD []) signed)
    (accepts : ∀ calls,
      OnlyIssued (config.webhookSigningSecret.getD []) signed calls →
      SignaturesApart (config.webhookSigningSecret.getD []) signed calls →
      AcceptsAsSigned host config signed calls)
    (enabled : Enabled config) : Uncut host config signed := by
  intro webhook member other sameBytes presentable
  cases isSecret : config.webhookSigningSecret with
  | none =>
      have strong := enabled.secret
      rw [isSecret] at strong
      exact absurd strong Bool.false_ne_true
  | some secret =>
      rw [isSecret, Option.getD_some] at signedApart accepts
      have presents : (deliverUnder secret other.timestamp other
          webhook).presented = some other :=
        presented_deliverUnder presentable.named presentable.stamped _
      have issued : OnlyIssued secret signed
          [deliverUnder secret other.timestamp other webhook] := by
        refine onlyIssued_of_signature fun call isCall => ?_
        rw [List.mem_singleton.mp isCall]
        exact ⟨webhook, member, signature_deliverUnder _ _⟩
      have apart : SignaturesApart secret signed
          [deliverUnder secret other.timestamp other webhook] := by
        intro first firstMember call isCall presented isPresented sameDigest
        rw [List.mem_singleton.mp isCall, presents] at isPresented
        rw [← Option.some.inj isPresented] at sameDigest ⊢
        rw [← sameBytes]
        refine signedApart first firstMember webhook member ?_
        rw [sameDigest, computeSandboxSignature, ← sameBytes,
          ← computeSandboxSignature]
      have passes : AcceptedAfter host config []
          (deliverUnder secret other.timestamp other webhook) := by
        rw [acceptedAfter_iff]
        exact ⟨_, authenticateWebhook_deliverUnder enabled isSecret
          presentable sameBytes, fun _ absurdity =>
            (List.not_mem_nil absurdity).elim⟩
      obtain ⟨found, isSigned, same⟩ :=
        (accepts _ issued apart).asSigned [] _ [] rfl passes
      rw [Option.some.inj (presents.symm.trans same)]
      exact isSigned

/-- Runs whose calls cut no signed text are accepted as signed.  Every run is,
exactly when no signed text can be cut into another webhook that a call may
carry. -/
theorem acceptsAsSigned_iff {signed : List SandboxWebhook}
    (signedApart : SignedApart (config.webhookSigningSecret.getD []) signed) :
    (∀ calls,
      OnlyIssued (config.webhookSigningSecret.getD []) signed calls →
      SignaturesApart (config.webhookSigningSecret.getD []) signed calls →
      (∀ call ∈ calls, PresentsUncut signed call) →
      AcceptsAsSigned host config signed calls) ∧
    ((∀ calls,
      OnlyIssued (config.webhookSigningSecret.getD []) signed calls →
      SignaturesApart (config.webhookSigningSecret.getD []) signed calls →
      AcceptsAsSigned host config signed calls) ↔
        (Enabled config → Uncut host config signed)) := by
  refine ⟨fun calls issued apart uncut => ?_,
    mem_of_acceptsAsSigned signedApart, fun uncut calls issued apart => ?_⟩
  · exact acceptsAsSigned_of_authentic issued apart
      fun call member _ _ => uncut call member
  · refine acceptsAsSigned_of_authentic issued apart ?_
    rintro call _ webhook authentic presented isPresented ⟨first, member, same⟩
    rw [Option.some.inj (isPresented.symm.trans authentic.presented)]
      at same ⊢
    exact uncut authentic.enabled first member webhook same
      authentic.presentable

/-- An ASCII text whose parts have no dots is cut at its dots in one way. -/
theorem uncut_of_dotless {signed : List SandboxWebhook}
    (dotless : ∀ webhook ∈ signed,
      isAscii (createSandboxSignedPayload webhook) = true ∧
        46 ∉ webhook.timestamp ∧ 46 ∉ webhook.eventId ∧
        46 ∉ webhook.rawBody) : Uncut host config signed := by
  intro webhook member other sameBytes _
  obtain ⟨ascii, stamp, name, body⟩ := dotless webhook member
  have sameText := eq_of_utf8_eq ascii sameBytes.symm
  have dots := congrArg (List.count 46) sameText
  unfold createSandboxSignedPayload at sameText dots
  simp only [List.count_append, List.count_cons_self,
    List.count_eq_zero_of_not_mem stamp, List.count_eq_zero_of_not_mem name,
    List.count_eq_zero_of_not_mem body] at dots
  have otherStamp : 46 ∉ other.timestamp :=
    List.count_eq_zero.mp (by omega)
  have otherName : 46 ∉ other.eventId := List.count_eq_zero.mp (by omega)
  have afterVersion := (List.cons.inj (List.append_cancel_left sameText)).2
  obtain ⟨sameStamp, rest⟩ :=
    Library.Separator.split_eq otherStamp stamp afterVersion
  obtain ⟨sameName, sameBody⟩ :=
    Library.Separator.split_eq otherName name rest
  cases other
  cases webhook
  simp only at sameStamp sameName sameBody
  rw [sameStamp, sameName, sameBody]
  exact member

end Runs

/-! ## Deliveries, and a cut of one -/

def sandboxSecret : JsString :=
  js "test-sandbox-secret-32-bytes"

/-- A call at the instant of the webhooks. -/
def deliver (presented signed : SandboxWebhook) : WebhookCall :=
  deliverUnder sandboxSecret (js "2026-07-14T00:00:00.000Z") presented signed

def ringingWebhook : SandboxWebhook where
  eventId := js "sandbox-event-2"
  rawBody := js "\x7b\"eventType\":\"call.ringing\"\x7d"
  timestamp := js "2026-07-14T00:00:00.000Z"

/-- The ringing of one call under the event id of another one. -/
def alteredWebhook : SandboxWebhook :=
  { ringingWebhook with eventId := answeredWebhook.eventId }

/-- Two webhooks, one of them altered and one presented again. -/
def deliveries : List WebhookCall :=
  [deliver ringingWebhook ringingWebhook,
    deliver alteredWebhook answeredWebhook,
    deliver answeredWebhook answeredWebhook,
    deliver answeredWebhook answeredWebhook]

theorem presented_deliveries : ∀ call ∈ deliveries, ∃ presented,
    call.presented = some presented ∧
      presented ∈ [answeredWebhook, ringingWebhook, alteredWebhook] := by
  intro call member
  simp only [deliveries, List.mem_cons, List.not_mem_nil, or_false] at member
  rcases member with rfl | rfl | rfl | rfl
  · exact ⟨_, presented_deliverUnder (by decide) (by decide) _, by decide⟩
  · exact ⟨_, presented_deliverUnder (by decide) (by decide) _, by decide⟩
  · exact ⟨_, presented_deliverUnder (by decide) (by decide) _, by decide⟩
  · exact ⟨_, presented_deliverUnder (by decide) (by decide) _, by decide⟩

/-- A webhook with no dots of its own. -/
def dotlessWebhook : SandboxWebhook where
  eventId := js "sandbox-event-3"
  rawBody := js "\x7b\"eventType\":\"ping\"\x7d"
  timestamp := js "2026-07-14T00:00:00Z"

/-- Both webhooks are accepted once, and no run misuses the signature of one
without dots. -/
theorem acceptsAsSigned_deliveries :
    AcceptsAsSigned (recordedHost []) sandboxConfig
        [answeredWebhook, ringingWebhook] deliveries ∧
      (transcript (verifyWebhook (recordedHost []) sandboxConfig)
        createInMemorySandboxWebhookReplayStore deliveries).map (·.2.valid) =
          [true, false, true, false] ∧
      ∀ calls, OnlyIssued sandboxSecret [dotlessWebhook] calls →
        SignaturesApart sandboxSecret [dotlessWebhook] calls →
        AcceptsAsSigned (recordedHost []) sandboxConfig [dotlessWebhook]
          calls := by
  have apart : ∀ first ∈ [answeredWebhook, ringingWebhook],
      ∀ second ∈ [answeredWebhook, ringingWebhook, alteredWebhook],
        computeSandboxSignature sandboxSecret first =
          computeSandboxSignature sandboxSecret second →
        signedBytes first = signedBytes second := by
    decide +kernel
  have plain : ∀ webhook ∈ [answeredWebhook, ringingWebhook, alteredWebhook],
      Plain webhook := by
    intro webhook member
    have written : webhook.timestamp.length = 24 ∧ 46 ∉ webhook.eventId ∧
        isAscii (createSandboxSignedPayload webhook) = true := by
      revert webhook
      decide +kernel
    exact ⟨written.1, written.2.1, .of_isAscii written.2.2⟩
  have signed : [answeredWebhook, ringingWebhook] ⊆
      [answeredWebhook, ringingWebhook, alteredWebhook] := by
    decide +kernel
  have verified : (transcript (verifyWebhook (recordedHost []) sandboxConfig)
      createInMemorySandboxWebhookReplayStore deliveries).map (·.2.valid) =
        [true, false, true, false] := by
    decide +kernel
  have signedApart : SignedApart
      (sandboxConfig.webhookSigningSecret.getD [])
      [answeredWebhook, ringingWebhook] := fun first isFirst second isSecond =>
    apart first isFirst second (signed isSecond)
  have dotlessApart : SignedApart
      (sandboxConfig.webhookSigningSecret.getD []) [dotlessWebhook] := by
    intro first isFirst second isSecond _
    rw [List.mem_singleton.mp isFirst, List.mem_singleton.mp isSecond]
  have uncut : Uncut (recordedHost []) sandboxConfig [dotlessWebhook] := by
    refine uncut_of_dotless fun webhook member => ?_
    rw [List.mem_singleton.mp member]
    decide +kernel
  refine ⟨(acceptsAsSigned_iff signedApart).1 deliveries ?_ ?_ ?_, verified,
    (acceptsAsSigned_iff dotlessApart).2.mpr fun _ => uncut⟩
  · refine onlyIssued_of_signature fun call member => ?_
    simp only [deliveries, List.mem_cons, List.not_mem_nil, or_false]
      at member
    rcases member with rfl | rfl | rfl | rfl
    · exact ⟨_, by decide, signature_deliverUnder _ ringingWebhook⟩
    · exact ⟨_, by decide, signature_deliverUnder _ answeredWebhook⟩
    · exact ⟨_, by decide, signature_deliverUnder _ answeredWebhook⟩
    · exact ⟨_, by decide, signature_deliverUnder _ answeredWebhook⟩
  · intro webhook isSigned call member presented isPresented
    obtain ⟨other, isOther, known⟩ := presented_deliveries call member
    rw [Option.some.inj (isPresented.symm.trans isOther)]
    exact apart webhook isSigned other known
  · intro call member
    refine presentsUncut_of_plain (fun webhook isSigned =>
      plain webhook (signed isSigned)) fun presented isPresented => ?_
    obtain ⟨other, isOther, known⟩ := presented_deliveries call member
    rw [Option.some.inj (isPresented.symm.trans isOther)]
    exact plain other known

/-- The signature of one webhook is accepted a second time, for a cut of it. -/
theorem not_acceptsAsSigned_cut :
    OnlyIssued (js "test-sandbox-secret-32-bytes") [answeredWebhook]
        [deliver answeredWebhook answeredWebhook,
          deliver cutWebhook answeredWebhook] ∧
      SignaturesApart (js "test-sandbox-secret-32-bytes") [answeredWebhook]
        [deliver answeredWebhook answeredWebhook,
          deliver cutWebhook answeredWebhook] ∧
      ¬AcceptsAsSigned (recordedHost []) sandboxConfig [answeredWebhook]
        [deliver answeredWebhook answeredWebhook,
          deliver cutWebhook answeredWebhook] := by
  have cutPresents : (deliver cutWebhook answeredWebhook).presented =
      some cutWebhook :=
    presented_deliverUnder (by decide +kernel) (by decide +kernel) _
  have sameBytes : signedBytes answeredWebhook = signedBytes cutWebhook := by
    decide +kernel
  refine ⟨?_, ?_, ?_⟩
  · refine onlyIssued_of_signature fun call member => ?_
    have carries : call.signature = some
        (signSandboxWebhook (js "test-sandbox-secret-32-bytes")
          answeredWebhook) := by
      rcases List.mem_pair.mp member with rfl | rfl
      · exact signature_deliverUnder _ _
      · exact signature_deliverUnder _ _
    exact ⟨answeredWebhook, List.mem_cons_self, carries⟩
  · intro webhook webhookMember call member presented presents _
    rw [List.mem_singleton.mp webhookMember]
    rcases List.mem_pair.mp member with rfl | rfl
    · rw [deliver, presented_deliverUnder (by decide) (by decide)] at presents
      rw [Option.some.inj presents]
    · rw [cutPresents] at presents
      rw [← Option.some.inj presents]
      exact sameBytes
  · intro accepts
    have accepted : AcceptedAfter (recordedHost []) sandboxConfig
        [deliver answeredWebhook answeredWebhook]
        (deliver cutWebhook answeredWebhook) := by
      unfold AcceptedAfter
      decide +kernel
    obtain ⟨webhook, member, presents⟩ := accepts.asSigned
      [deliver answeredWebhook answeredWebhook]
      (deliver cutWebhook answeredWebhook) [] rfl accepted
    rw [cutPresents, List.mem_singleton.mp member] at presents
    exact absurd presents (by decide +kernel)

end BidayaxExecutive.Telephony
