import BidayaxExecutive.Identity.SessionRuns
import BidayaxExecutive.Library.Schedules

/-!
# Revocation by the provider

The webhook of a revoked provider session revokes its sessions in one step, but
a refresh takes two: it revokes a session and then issues the next one.  No
session of the provider session is left as long as the webhook does not take
its step between the two.
-/

namespace BidayaxExecutive.Identity

open BidayaxExecutive.Runtime JsString
open BidayaxExecutive.Library.Guards
open BidayaxExecutive.Library.Transactions
open BidayaxExecutive.Library.Scripts
open BidayaxExecutive.Library.Schedules

/-! ## The calls and their parts -/

def webhookScript (input : WebhookInput) : Service Unit :=
  discard (processIdentityWebhook input)

def rotationScript (input : RotationInput) : Service Unit :=
  discard (rotateApplicationSession input)

/-- What is left of the webhook when its receipt has been saved. -/
def afterReceipt (input : WebhookInput) (event : VerifiedProviderWebhook) :
    Service Unit :=
  discard do
    revokeProviderSession event input.now
    saveAuditEvents
      [{ eventType := .providerWebhookReceived
         metadata :=
           [(js "providerEventId", .string event.eventId),
             (js "providerEventType", .string event.eventType)]
         occurredAt := toISOString input.now
         reasonCode := js "WEBHOOK_VERIFIED"
         result := .succeeded }]
    return { duplicate := false, eventType := event.eventType : WebhookOutcome }

/-- What is left of the refresh when the old session has been revoked. -/
def afterRevocation (input : RotationInput) : Service Unit :=
  discard do
    let issued ← issueApplicationSession (rotatedIssue input)
    saveAuditEvents (rotationEvents input issued.session)
    return issued

/-- The webhook revokes the sessions only while no refresh has revoked its
session and not yet issued the next one. -/
def RevokesBetween (input : WebhookInput) (event : VerifiedProviderWebhook)
    (rotations : List RotationInput) (scripts : List (Service Unit))
    (position : Nat) : Prop :=
  scripts[position]? = some (afterReceipt input event) →
    ∀ script ∈ scripts.eraseIdx position, isDone script = false →
      ∀ rotation ∈ rotations, script ≠ afterRevocation rotation

/-- The provider has revoked the provider session, and says so for the first
time. -/
structure Announces (input : WebhookInput) (event : VerifiedProviderWebhook)
    (providerSessionId : JsString) (database : IdentityDatabase) : Prop where
  verified : input.event = .ok event
  eventType : event.eventType = js "session.revoked"
  names : providerSessionFromWebhook event.data = some providerSessionId
  nonempty : providerSessionId ≠ []
  fresh : ∀ receipt ∈ database.webhookReceipts,
    receipt.providerEventId ≠ event.eventId

/-- The refreshes are of sessions of the provider session. -/
structure RotatesSessionsOf (providerSessionId : JsString)
    (rotations : List RotationInput)
    (sessions : List StoredApplicationSession) : Prop where
  references : ∀ rotation ∈ rotations,
    rotation.session.providerSessionId = some providerSessionId
  rows : ∀ rotation ∈ rotations, ∀ session ∈ sessions,
    session.sessionId = rotation.session.sessionId →
      session.providerSessionId = some providerSessionId

/-- Every row satisfies the CHECK constraints. -/
def RowsChecked (sessions : List StoredApplicationSession) : Prop :=
  ∀ session ∈ sessions, checkSession session = .ok ()

def AllRevoked (providerSessionId : JsString)
    (sessions : List StoredApplicationSession) : Prop :=
  ∀ session ∈ sessions, session.providerSessionId = some providerSessionId →
    session.revokedAt.isSome = true

/-! ## Single steps -/

section Steps

variable {input : WebhookInput} {event : VerifiedProviderWebhook}
  {providerSessionId : JsString} {rotation : RotationInput}

/-- A script that begins with a statement. -/
theorem discard_execute_bind {α β : Type} (operation : Statement α)
    (next : α → Service β) :
    discard (execute operation >>= next) =
      .step
        (fun world =>
          { world with database := (operation world.database).2 })
        fun world =>
          match (operation world.database).1 with
          | .ok value => discard (next value)
          | .error failure => .done (.error failure) := by
  refine congrArg (Script.step _) (funext fun world => ?_)
  change Script.bind (Script.bind (.done (operation world.database).1) next)
    _ = _
  cases (operation world.database).1 with
  | error failure =>
      rfl
  | ok value =>
      rfl

theorem webhookScript_eq (verified : input.event = .ok event)
    (eventType : event.eventType = js "session.revoked") :
    webhookScript input =
      .step
        (fun world =>
          { world with
            database := (saveWebhookReceipt event (sha256 input.payload)
              input.now world.database).2 })
        fun world =>
          match (saveWebhookReceipt event (sha256 input.payload) input.now
            world.database).1 with
          | .ok true => afterReceipt input event
          | .ok false => .done (.ok ())
          | .error failure => .done (.error failure) := by
  unfold webhookScript processIdentityWebhook
  rw [verified]
  have other : event.eventType ≠ js "user.deleted" := by
    rw [eventType]
    decide
  refine (discard_execute_bind _ _).trans ?_
  refine congrArg (Script.step _) (funext fun world => ?_)
  rcases (saveWebhookReceipt event (sha256 input.payload) input.now
    world.database).1 with failure | saved
  · rfl
  · cases saved with
    | false =>
        rfl
    | true =>
        simp only [Bool.not_true, Bool.false_eq_true, if_false,
          if_pos eventType, if_neg other]
        rfl

theorem rotationScript_eq :
    rotationScript rotation =
      .step
        (fun world =>
          { world with
            database := (revokeSession rotation.session.sessionId rotation.now
              world.database).2 })
        fun world =>
          match (revokeSession rotation.session.sessionId rotation.now
            world.database).1 with
          | .ok true => afterRevocation rotation
          | .ok false => .done (.error (.service .sessionRotationReplayed
              (js "Application session refresh was already consumed.")))
          | .error failure => .done (.error failure) := by
  refine (discard_execute_bind _ _).trans ?_
  refine congrArg (Script.step _) (funext fun world => ?_)
  rcases (revokeSession rotation.session.sessionId rotation.now
    world.database).1 with failure | revoked
  · rfl
  · cases revoked <;> rfl

/-- The part of the database that the calls share. -/
def sharedPart (world : World) :
    List StoredApplicationSession × List WebhookReceipt :=
  (world.database.sessions, world.database.webhookReceipts)

/-- The script neither writes sessions nor receipts any more. -/
abbrev Quiet {α : Type} (script : Service α) : Prop :=
  Script.Leaves sharedPart script

theorem quiet_saveAuditEvents (inputs : List IdentityAuditInput) :
    Quiet (saveAuditEvents inputs) := by
  induction inputs with
  | nil =>
      exact trivial
  | cons input rest inductionHypothesis =>
      apply Script.leaves_bind
      · apply Script.leaves_perform
        intro world
        apply statement_keeps fun database =>
          (database.sessions, database.webhookReceipts)
        intro database value written outcome
        split_ifs at outcome <;>
          rw [← (Prod.mk.inj (Except.ok.inj outcome)).2]
      · exact fun _ => inductionHypothesis

/-- The script executes the statement and is quiet from then on. -/
def Begins {α β : Type} (operation : Statement α) (script : Service β) :
    Prop :=
  ∃ rest : World → Service β,
    script = .step
        (fun world =>
          { world with database := (operation world.database).2 }) rest ∧
      ∀ world, Quiet (rest world)

theorem begins_execute {α : Type} (operation : Statement α) :
    Begins operation (execute operation) :=
  ⟨_, rfl, fun _ => trivial⟩

theorem begins_bind {α β γ : Type} {operation : Statement α}
    {script : Service β} {next : β → Service γ}
    (begins : Begins operation script) (quiet : ∀ value, Quiet (next value)) :
    Begins operation (script >>= next) := by
  rcases begins with ⟨rest, same, quietRest⟩
  rw [same]
  exact ⟨_, rfl, fun world => Script.leaves_bind (quietRest world) quiet⟩

theorem begins_discard {α β : Type} {operation : Statement α}
    {script : Service β} (begins : Begins operation script) :
    Begins operation (discard script) :=
  begins_bind begins fun _ => trivial

theorem begins_afterReceipt (input : WebhookInput)
    (names : providerSessionFromWebhook event.data = some providerSessionId)
    (nonempty : providerSessionId ≠ []) :
    Begins (revokeSessionsByProviderSession providerSessionId input.now)
      (afterReceipt input event) := by
  have named : (providerSessionFromWebhook event.data).filter
      (!·.isEmpty) = some providerSessionId := by
    rw [names]
    simp [nonempty]
  apply begins_discard
  apply begins_bind
  · unfold revokeProviderSession
    rw [named]
    exact begins_bind (begins_execute _) fun _ => quiet_saveAuditEvents _
  · intro _
    exact Script.leaves_bind (quiet_saveAuditEvents _) fun _ => trivial

/-- A refresh goes on with an insert, unless its limits are no dates. -/
theorem begins_afterRevocation (rotation : RotationInput) :
    isDone (afterRevocation rotation) = true ∨
      ∃ session, newApplicationSession (rotatedIssue rotation) =
          .ok session ∧
        Begins (createSession session) (afterRevocation rotation) := by
  unfold afterRevocation issueApplicationSession
  cases new : newApplicationSession (rotatedIssue rotation) with
  | error failure =>
      exact .inl rfl
  | ok session =>
      right
      refine ⟨session, rfl, begins_discard ?_⟩
      change Begins (createSession session)
        ((execute (createSession session) >>= _) >>= _)
      apply begins_bind
      · exact begins_bind (begins_execute _) fun _ => trivial
      · intro issued
        exact Script.leaves_bind (quiet_saveAuditEvents _) fun _ => trivial

end Steps

/-! ## What the statements do -/

section Statements

variable {providerSessionId : JsString} {rotations : List RotationInput}
  {database : IdentityDatabase} {sessions : List StoredApplicationSession}

/-- The rows that the refreshes of a provider session work on. -/
structure Lawful (providerSessionId : JsString)
    (rotations : List RotationInput)
    (sessions : List StoredApplicationSession) : Prop where
  rowsChecked : RowsChecked sessions
  rotatesSessionsOf : RotatesSessionsOf providerSessionId rotations sessions

theorem checkSession_eq_ok {session : StoredApplicationSession} :
    checkSession session = .ok () ↔
      session.createdAt.milliseconds < session.idleExpiresAt.milliseconds ∧
        session.idleExpiresAt.milliseconds ≤
          session.absoluteExpiresAt.milliseconds := by
  unfold checkSession
  by_cases begins : session.createdAt.milliseconds <
      session.idleExpiresAt.milliseconds
  · by_cases ends : session.idleExpiresAt.milliseconds ≤
        session.absoluteExpiresAt.milliseconds
    · simp [begins, ends]
    · simp [begins, ends]
  · simp [begins]

theorem Revised.checkSession {environment : IdentityEnvironment}
    {old new : StoredApplicationSession}
    (revised : Revised environment old new)
    (checked : checkSession old = .ok ()) :
    checkSession new = .ok () := by
  rw [checkSession_eq_ok] at checked ⊢
  cases revised.window with
  | inr window =>
      exact ⟨window.begins, window.ends⟩
  | inl same =>
      rw [revised.createdAt, same.2, revised.absoluteExpiresAt]
      exact checked

theorem stable_lawful {environment : IdentityEnvironment} :
    Stable environment (Lawful providerSessionId rotations) := by
  intro sessions revised revisions lawful
  refine ⟨?_, lawful.rotatesSessionsOf.references, ?_⟩
  · intro session member
    rcases exists_of_revised revisions member with ⟨old, oldMember, revision⟩
    exact revision.checkSession (lawful.rowsChecked old oldMember)
  · intro rotation isRotation session member sameId
    rcases exists_of_revised revisions member with ⟨old, oldMember, revision⟩
    rw [revision.sessionId] at sameId
    rw [revision.providerSessionId]
    exact lawful.rotatesSessionsOf.rows rotation isRotation old oldMember
      sameId

theorem lawful_insert {rotation : RotationInput}
    {session : StoredApplicationSession}
    (lawful : Lawful providerSessionId rotations sessions)
    (member : rotation ∈ rotations)
    (new : newApplicationSession (rotatedIssue rotation) = .ok session)
    (checked : checkSession session = .ok ()) :
    Lawful providerSessionId rotations (sessions ++ [session]) := by
  have provider : session.providerSessionId = some providerSessionId := by
    rw [(newSession_of_eq_ok new).providerSessionId]
    exact lawful.rotatesSessionsOf.references rotation member
  refine ⟨?_, lawful.rotatesSessionsOf.references, ?_⟩
  · intro other isOther
    cases List.mem_append.mp isOther with
    | inl earlier =>
        exact lawful.rowsChecked other earlier
    | inr added =>
        rw [List.mem_singleton.mp added]
        exact checked
  · intro later isRotation other isOther sameId
    cases List.mem_append.mp isOther with
    | inl earlier =>
        exact lawful.rotatesSessionsOf.rows later isRotation other earlier
          sameId
    | inr added =>
        rw [List.mem_singleton.mp added]
        exact provider

theorem webhookReceipts_updateSessions
    (selected : StoredApplicationSession → Bool)
    (set : StoredApplicationSession → StoredApplicationSession)
    (database : IdentityDatabase) :
    (updateSessions selected set database).2.webhookReceipts =
      database.webhookReceipts := by
  apply statement_keeps (·.webhookReceipts)
  intro database value written outcome
  rcases bind_eq_ok.mp outcome with ⟨_, _, result⟩
  rw [← (Prod.mk.inj (Except.ok.inj result)).2]

theorem webhookReceipts_revokeSession (sessionId : JsString)
    (revokedAt : TimeValue) (database : IdentityDatabase) :
    (revokeSession sessionId revokedAt database).2.webhookReceipts =
      database.webhookReceipts := by
  rw [← webhookReceipts_updateSessions (isLive sessionId)
    (fun session => { session with revokedAt := some revokedAt }) database]
  unfold revokeSession
  rw [bind_apply]
  cases updateSessions (isLive sessionId)
      (fun session => { session with revokedAt := some revokedAt })
      database with
  | mk outcome written =>
      cases outcome <;> rfl

theorem webhookReceipts_createSession (session : StoredApplicationSession)
    (database : IdentityDatabase) :
    (createSession session database).2.webhookReceipts =
      database.webhookReceipts := by
  apply statement_keeps (·.webhookReceipts)
  intro database value written outcome
  rcases bind_eq_ok.mp outcome with ⟨_, _, rest⟩
  rcases bind_eq_ok.mp rest with ⟨_, _, rest⟩
  rcases bind_eq_ok.mp rest with ⟨_, _, result⟩
  rw [← (Prod.mk.inj (Except.ok.inj result)).2]

/-- The bulk revocation leaves no live session of the provider session. -/
theorem allRevoked_revokeSessionsByProviderSession {now : TimeValue}
    (checked : RowsChecked database.sessions) :
    AllRevoked providerSessionId
      (revokeSessionsByProviderSession providerSessionId now
        database).2.sessions := by
  have passes : ∀ session ∈ database.sessions.filter (fun session =>
        session.providerSessionId == some providerSessionId &&
          session.revokedAt.isNone),
      checkSession { session with revokedAt := some now } = .ok () :=
    fun session member => checked session (List.mem_filter.mp member).1
  unfold revokeSessionsByProviderSession
  rw [updateSessions_of_checked passes]
  intro session member provider
  rcases List.mem_map.mp member with ⟨old, _, same⟩
  by_cases selected : (old.providerSessionId == some providerSessionId &&
      old.revokedAt.isNone) = true
  · rw [if_pos selected] at same
    rw [← same]
    rfl
  · rw [if_neg selected] at same
    rw [← same] at provider ⊢
    simpa [provider, Option.isSome_iff_ne_none] using selected

end Statements

/-! ## The scripts of the pool -/

section Pool

variable {input : WebhookInput} {event : VerifiedProviderWebhook}
  {providerSessionId : JsString} {rotations : List RotationInput}
  {write : World → World} {next : World → Service Unit} {world : World}

/-- How far a refresh has come. -/
def RotationPhase (rotations : List RotationInput) (script : Service Unit) :
    Prop :=
  (∃ rotation ∈ rotations, script = rotationScript rotation) ∨
    (∃ rotation ∈ rotations, script = afterRevocation rotation) ∨
      Quiet script

/-- The refresh has not begun or is as good as over. -/
def Settled (rotations : List RotationInput) (script : Service Unit) :
    Prop :=
  (∃ rotation ∈ rotations, script = rotationScript rotation) ∨ Quiet script

theorem lawful_createSession {rotation : RotationInput}
    {session : StoredApplicationSession} {database : IdentityDatabase}
    (lawful : Lawful providerSessionId rotations database.sessions)
    (member : rotation ∈ rotations)
    (new : newApplicationSession (rotatedIssue rotation) = .ok session) :
    Lawful providerSessionId rotations
      (createSession session database).2.sessions := by
  cases createSession_cases session database with
  | inl unchanged =>
      rw [unchanged]
      exact lawful
  | inr inserted =>
      rw [inserted.2.2]
      exact lawful_insert lawful member new inserted.1

/-- A step of a refresh takes it to its next phase. -/
theorem rotationPhase_step
    (phase : RotationPhase rotations (.step write next))
    (lawful : Lawful providerSessionId rotations world.database.sessions) :
    RotationPhase rotations (next world) ∧
      Lawful providerSessionId rotations (write world).database.sessions ∧
      (write world).database.webhookReceipts =
        world.database.webhookReceipts := by
  rcases phase with ⟨rotation, member, same⟩ | ⟨rotation, member, same⟩ |
    quiet
  · rw [rotationScript_eq] at same
    rcases Script.step.inj same with ⟨rfl, rfl⟩
    refine ⟨?_, ?_, webhookReceipts_revokeSession _ _ _⟩
    · simp only
      split
      · exact .inr (.inl ⟨rotation, member, rfl⟩)
      · exact .inr (.inr trivial)
      · exact .inr (.inr trivial)
    · have stable : Stable rotation.environment
          (Lawful providerSessionId rotations) := stable_lawful
      exact stable _ _ (revises_revokeSession _ _ _) lawful
  · have begins := begins_afterRevocation rotation
    cases begins with
    | inl finished =>
        rw [← same] at finished
        exact nomatch finished
    | inr begins =>
        rcases begins with ⟨session, new, rest, isRest, quiet⟩
        rw [isRest] at same
        rcases Script.step.inj same with ⟨rfl, rfl⟩
        exact ⟨.inr (.inr (quiet world)),
          lawful_createSession lawful member new,
          webhookReceipts_createSession _ _⟩
  · rcases quiet world with ⟨unchanged, later⟩
    rcases Prod.mk.inj unchanged with ⟨sameSessions, sameReceipts⟩
    refine ⟨.inr (.inr later), ?_, sameReceipts⟩
    rw [sameSessions]
    exact lawful

/-- Once the provider session is revoked, no refresh gets beyond its first
step. -/
theorem settled_step (settled : Settled rotations (.step write next))
    (lawful : Lawful providerSessionId rotations world.database.sessions)
    (allRevoked : AllRevoked providerSessionId world.database.sessions) :
    Settled rotations (next world) ∧
      (write world).database.sessions = world.database.sessions := by
  rcases settled with ⟨rotation, member, same⟩ | quiet
  · rw [rotationScript_eq] at same
    rcases Script.step.inj same with ⟨rfl, rfl⟩
    have dead : ∀ session ∈ world.database.sessions,
        isLive rotation.session.sessionId session = false := by
      intro session isSession
      by_cases sameId : session.sessionId = rotation.session.sessionId
      · have provider := lawful.rotatesSessionsOf.rows rotation member session
          isSession sameId
        have revoked := allRevoked session isSession provider
        rcases Option.isSome_iff_exists.mp revoked with ⟨revokedAt, isRevoked⟩
        simp [isLive, isRevoked]
      · simp [isLive, sameId]
    simp only [revokeSession_of_dead dead]
    exact ⟨.inr trivial, trivial⟩
  · rcases quiet world with ⟨unchanged, later⟩
    exact ⟨.inr later, (Prod.mk.inj unchanged).1⟩

theorem saveWebhookReceipt_of_fresh {database : IdentityDatabase}
    (fresh : ∀ receipt ∈ database.webhookReceipts,
      receipt.providerEventId ≠ event.eventId)
    (payloadHash : JsString) (receivedAt : TimeValue) :
    (saveWebhookReceipt event payloadHash receivedAt database).1 = .ok true ∧
      (saveWebhookReceipt event payloadHash receivedAt
        database).2.sessions = database.sessions := by
  have unknown : database.webhookReceipts.any
      (·.providerEventId == event.eventId) = false := by
    simpa using fresh
  unfold saveWebhookReceipt statement
  simp only [unknown, Bool.false_eq_true, if_false, and_self]

/-! ## The pool -/

/-- The webhook has not revoked the sessions yet. -/
structure BeforeRevocation (input : WebhookInput)
    (event : VerifiedProviderWebhook) (providerSessionId : JsString)
    (rotations : List RotationInput) (webhook : Service Unit)
    (scripts : List (Service Unit)) (world : World) : Prop where
  webhook : webhook = webhookScript input ∧
      (∀ receipt ∈ world.database.webhookReceipts,
        receipt.providerEventId ≠ event.eventId) ∨
    webhook = afterReceipt input event
  phases : ∀ script ∈ scripts, RotationPhase rotations script
  lawful : Lawful providerSessionId rotations world.database.sessions

/-- It has, and no session of the provider session is left. -/
structure AfterRevocation (providerSessionId : JsString)
    (rotations : List RotationInput) (webhook : Service Unit)
    (scripts : List (Service Unit)) (world : World) : Prop where
  quiet : Quiet webhook
  settled : ∀ script ∈ scripts, Settled rotations script
  lawful : Lawful providerSessionId rotations world.database.sessions
  allRevoked : AllRevoked providerSessionId world.database.sessions

/-- The webhook stands first, and the refreshes after it. -/
def PoolHolds (input : WebhookInput) (event : VerifiedProviderWebhook)
    (providerSessionId : JsString) (rotations : List RotationInput) :
    List (Service Unit) → World → Prop
  | [], _ => False
  | webhook :: scripts, world =>
      BeforeRevocation input event providerSessionId rotations webhook scripts
          world ∨
        AfterRevocation providerSessionId rotations webhook scripts world

theorem forall_mem_set {holds : Service Unit → Prop}
    {scripts : List (Service Unit)} {script : Service Unit}
    (all : ∀ script ∈ scripts, holds script) (new : holds script)
    (position : Nat) : ∀ other ∈ scripts.set position script, holds other := by
  intro other member
  cases List.mem_or_eq_of_mem_set member with
  | inl old =>
      exact all other old
  | inr isNew =>
      rw [isNew]
      exact new

variable {webhook : Service Unit} {scripts : List (Service Unit)}

/-- A step of a refresh before the revocation. -/
theorem BeforeRevocation.rotate {position : Nat}
    (before : BeforeRevocation input event providerSessionId rotations
      webhook scripts world)
    (found : scripts[position]? = some (.step write next)) :
    BeforeRevocation input event providerSessionId rotations webhook
      (scripts.set position (next world)) (write world) := by
  have member := List.mem_of_getElem? found
  rcases rotationPhase_step (before.phases _ member) before.lawful with
    ⟨phase, lawful, sameReceipts⟩
  refine ⟨?_, forall_mem_set before.phases phase position, lawful⟩
  rw [sameReceipts]
  exact before.webhook

/-- A step of a refresh after the revocation. -/
theorem AfterRevocation.rotate {position : Nat}
    (after : AfterRevocation providerSessionId rotations webhook scripts
      world)
    (found : scripts[position]? = some (.step write next)) :
    AfterRevocation providerSessionId rotations webhook
      (scripts.set position (next world)) (write world) := by
  have member := List.mem_of_getElem? found
  rcases settled_step (after.settled _ member) after.lawful
    after.allRevoked with ⟨settled, sameSessions⟩
  refine ⟨after.quiet, forall_mem_set after.settled settled position, ?_, ?_⟩
  · rw [sameSessions]
    exact after.lawful
  · rw [sameSessions]
    exact after.allRevoked

/-- The step that revokes the sessions, while no refresh is halfway. -/
theorem afterRevocation_of_revokes
    (announces : providerSessionFromWebhook event.data =
      some providerSessionId) (nonempty : providerSessionId ≠ [])
    (before : BeforeRevocation input event providerSessionId rotations
      (.step write next) scripts world)
    (revokes : .step write next = afterReceipt input event)
    (between : ∀ script ∈ scripts, isDone script = false →
      ∀ rotation ∈ rotations, script ≠ afterRevocation rotation) :
    AfterRevocation providerSessionId rotations (next world) scripts
      (write world) := by
  rcases begins_afterReceipt input announces nonempty with
    ⟨rest, isRest, quiet⟩
  rw [isRest] at revokes
  rcases Script.step.inj revokes with ⟨rfl, rfl⟩
  have stable : Stable hourEnvironment
      (Lawful providerSessionId rotations) := stable_lawful
  refine ⟨quiet world, ?_, ?_, ?_⟩
  · intro script member
    rcases before.phases script member with waiting | replacing | isQuiet
    · exact .inl waiting
    · rcases replacing with ⟨rotation, isRotation, same⟩
      by_cases finished : isDone script = true
      · cases script with
        | done outcome =>
            exact .inr trivial
        | step write next =>
            exact nomatch finished
      · exact absurd same (between script member
          (eq_false_of_ne_true finished) rotation isRotation)
    · exact .inr isQuiet
  · exact stable _ _ (revises_revokeSessionsByProviderSession _ _ _)
      before.lawful
  · exact allRevoked_revokeSessionsByProviderSession before.lawful.rowsChecked

theorem poolHolds_step {database : IdentityDatabase} {position : Nat}
    (announces : Announces input event providerSessionId database)
    (holds : PoolHolds input event providerSessionId rotations scripts world)
    (found : scripts[position]? = some (.step write next))
    (between : RevokesBetween input event rotations scripts position) :
    PoolHolds input event providerSessionId rotations
      (scripts.set position (next world)) (write world) := by
  cases scripts with
  | nil =>
      exact holds
  | cons webhook rest =>
      cases position with
      | succ position =>
          cases holds with
          | inl before =>
              exact .inl (before.rotate found)
          | inr after =>
              exact .inr (after.rotate found)
      | zero =>
          have isWebhook : webhook = .step write next :=
            Option.some.inj found
          rw [isWebhook] at holds between
          cases holds with
          | inl before =>
              rcases before.webhook with first | second
              · rcases first with ⟨same, fresh⟩
                rw [webhookScript_eq announces.verified announces.eventType]
                  at same
                rcases Script.step.inj same with ⟨rfl, rfl⟩
                rcases saveWebhookReceipt_of_fresh fresh
                  (sha256 input.payload) input.now with
                  ⟨saved, sameSessions⟩
                refine .inl ⟨.inr ?_, before.phases, ?_⟩
                · simp only [saved]
                · simp only [sameSessions]
                  exact before.lawful
              · refine .inr (afterRevocation_of_revokes announces.names
                  announces.nonempty before second ?_)
                exact between (congrArg some second)
          | inr after =>
              rcases after.quiet world with ⟨unchanged, later⟩
              have sameSessions := (Prod.mk.inj unchanged).1
              refine .inr ⟨later, after.settled, ?_, ?_⟩
              · rw [sameSessions]
                exact after.lawful
              · rw [sameSessions]
                exact after.allRevoked

end Pool

/-- When all calls have finished, no session of the provider session is live,
in every interleaving in which the webhook does not revoke the sessions in the
middle of a refresh. -/
theorem processIdentityWebhook_allRevoked (input : WebhookInput)
    (event : VerifiedProviderWebhook) (providerSessionId : JsString)
    (rotations : List RotationInput) (start final : World)
    (announces : Announces input event providerSessionId start.database)
    (checked : RowsChecked start.database.sessions)
    (rotates : RotatesSessionsOf providerSessionId rotations
      start.database.sessions)
    (schedule : Schedule (RevokesBetween input event rotations)
      (webhookScript input :: rotations.map rotationScript) start final) :
    AllRevoked providerSessionId final.database.sessions := by
  have initially : PoolHolds input event providerSessionId rotations
      (webhookScript input :: rotations.map rotationScript) start := by
    refine .inl ⟨.inl ⟨rfl, announces.fresh⟩, ?_, ⟨checked, rotates⟩⟩
    intro script member
    rcases List.mem_map.mp member with ⟨rotation, isRotation, same⟩
    exact .inl ⟨rotation, isRotation, same.symm⟩
  rcases Schedule.invariant (poolHolds_step announces) initially schedule with
    ⟨ended, holds, _, finished⟩
  cases ended with
  | nil =>
      exact holds.elim
  | cons webhook rest =>
      have isFinished := finished webhook List.mem_cons_self
      cases holds with
      | inr after =>
          exact after.allRevoked
      | inl before =>
          rcases before.webhook with first | second
          · rw [first.1, webhookScript_eq announces.verified
              announces.eventType] at isFinished
            exact nomatch isFinished
          · rcases begins_afterReceipt input announces.names
              announces.nonempty with ⟨next, same, _⟩
            rw [second, same] at isFinished
            exact nomatch isFinished

/-! ## A refresh in the middle of which the webhook comes -/

def sessionRevoked : VerifiedProviderWebhook where
  eventId := js "event"
  eventType := js "session.revoked"
  occurredAt := js "1970-01-01T00:00:01.000Z"
  data := .object [(js "id", .string (js "session_p"))]

def sessionRevokedWebhook : WebhookInput where
  now := secondsIn 2 (by decide)
  payload := js "payload"
  event := .ok sessionRevoked

/-- The member has logged in. -/
def loggedInWorld : World :=
  ((completeIdentityLogin plainPlatform memberLogin).run memberWorld).2

def memberRotation : RotationInput where
  environment := hourEnvironment
  now := secondsIn 1 (by decide)
  drawn := ⟨js "second token", js "second csrf", js "second"⟩
  session :=
    { authenticationMethod := js "Passkey"
      providerSessionId := some (js "session_p")
      sessionId := js "ses_first"
      tenantId := js "tenant"
      userId := js "usr_member" }

theorem sessionRevoked_announced :
    Announces sessionRevokedWebhook sessionRevoked (js "session_p")
      loggedInWorld.database where
  verified := rfl
  eventType := rfl
  names := by decide
  nonempty := by decide
  fresh := by decide +kernel

theorem memberRotation_rotates :
    RotatesSessionsOf (js "session_p") [memberRotation]
      loggedInWorld.database.sessions where
  references := by decide
  rows := by decide +kernel

theorem loggedInWorld_checked :
    RowsChecked loggedInWorld.database.sessions := by
  unfold RowsChecked
  decide +kernel

/-- The sessions after the first step of a script. -/
def sessionsAfterStep (world : World) :
    Service Unit → List StoredApplicationSession
  | .done _ => []
  | .step write _ => (write world).database.sessions

/-- A refresh that waits is in nobody's way. -/
theorem memberRotation_between (webhook : Service Unit) {position : Nat} :
    RevokesBetween sessionRevokedWebhook sessionRevoked [memberRotation]
      [webhook, rotationScript memberRotation] position := by
  intro found script member _ rotation isRotation same
  rw [List.mem_singleton.mp isRotation] at same
  match position with
  | 0 =>
      rw [List.mem_singleton.mp member] at same
      have sameSessions := congrArg (sessionsAfterStep loggedInWorld) same
      exact absurd sameSessions (by decide +kernel)
  | 1 =>
      have sameSessions := congrArg (sessionsAfterStep loggedInWorld)
        (Option.some.inj found)
      exact absurd sameSessions (by decide +kernel)
  | _ + 2 =>
      exact nomatch found

/-- The webhook comes first, and the refresh fails. -/
def orderedPicks : List Nat :=
  [0, 0, 0, 0, 1]

theorem orderedPicks_allowed (webhook : Service Unit) (world : World) :
    PicksAllowed
      (RevokesBetween sessionRevokedWebhook sessionRevoked [memberRotation])
      orderedPicks [webhook, rotationScript memberRotation] world :=
  ⟨memberRotation_between _, fun _ _ _ =>
    ⟨memberRotation_between _, fun _ _ _ =>
      ⟨memberRotation_between _, fun _ _ _ =>
        ⟨memberRotation_between _, fun _ _ _ =>
          ⟨memberRotation_between _, fun _ _ _ => trivial⟩⟩⟩⟩⟩

theorem orderedPicks_finish :
    ((pickSteps orderedPicks
        [webhookScript sessionRevokedWebhook, rotationScript memberRotation]
        loggedInWorld).map fun (ended, _) => ended.all isDone) =
      some true := by
  decide +kernel

theorem memberRotation_allRevoked :
    ∃ final,
      Schedule
          (RevokesBetween sessionRevokedWebhook sessionRevoked
            [memberRotation])
          [webhookScript sessionRevokedWebhook,
            rotationScript memberRotation] loggedInWorld final ∧
        AllRevoked (js "session_p") final.database.sessions := by
  rcases Option.map_eq_some_iff.mp orderedPicks_finish with
    ⟨⟨ended, final⟩, picked, finished⟩
  have schedule := schedule_of_pickSteps
    (orderedPicks_allowed _ _) picked finished
  exact ⟨final, schedule,
    processIdentityWebhook_allRevoked sessionRevokedWebhook sessionRevoked
      (js "session_p") [memberRotation] loggedInWorld final
      sessionRevoked_announced loggedInWorld_checked memberRotation_rotates
      schedule⟩

/-- The refresh revokes the old session, the webhook comes, and the refresh
issues the next one. -/
def straddlingPicks : List Nat :=
  [1, 0, 0, 0, 0, 1, 1, 1]

theorem straddlingPicks_issue :
    ((pickSteps straddlingPicks
        [webhookScript sessionRevokedWebhook, rotationScript memberRotation]
        loggedInWorld).map fun (ended, final) =>
      (ended.all isDone, final.database.sessions.map fun session =>
        (session.sessionId, session.providerSessionId,
          session.revokedAt.isSome))) =
      some (true,
        [(js "ses_first", some (js "session_p"), true),
          (js "ses_second", some (js "session_p"), false)]) := by
  decide +kernel

/-- The session that is issued after the revocation is live. -/
theorem memberRotation_not_allRevoked :
    ¬∀ (input : WebhookInput) (event : VerifiedProviderWebhook)
        (providerSessionId : JsString) (rotations : List RotationInput)
        (start final : World),
      Announces input event providerSessionId start.database →
      RowsChecked start.database.sessions →
      RotatesSessionsOf providerSessionId rotations
        start.database.sessions →
      Schedule (fun _ _ => True)
        (webhookScript input :: rotations.map rotationScript) start final →
      AllRevoked providerSessionId final.database.sessions := by
  intro claim
  rcases Option.map_eq_some_iff.mp straddlingPicks_issue with
    ⟨⟨ended, final⟩, picked, issues⟩
  rcases Prod.mk.inj issues with ⟨finished, rows⟩
  have schedule := schedule_of_pickSteps
    (picksAllowed_of_forall (fun _ _ => trivial) _ _ _) picked finished
  have allRevoked := claim sessionRevokedWebhook sessionRevoked
    (js "session_p") [memberRotation] loggedInWorld final
    sessionRevoked_announced loggedInWorld_checked memberRotation_rotates
    schedule
  have live : (js "ses_second", some (js "session_p"), false) ∈
      final.database.sessions.map fun session =>
        (session.sessionId, session.providerSessionId,
          session.revokedAt.isSome) := by
    simp only [rows]
    exact List.mem_cons_of_mem _ List.mem_cons_self
  rcases List.mem_map.mp live with ⟨session, member, same⟩
  rcases Prod.mk.inj same with ⟨_, same⟩
  rcases Prod.mk.inj same with ⟨provider, revoked⟩
  rw [allRevoked session member provider] at revoked
  exact nomatch revoked

end BidayaxExecutive.Identity
