import BidayaxExecutive.Identity.Service
import BidayaxExecutive.Library.Guards

/-!
# What statements do to the session table

A statement revises rows, or inserts one.  A revision keeps what identifies a
session, the instant it was issued at and its absolute limit, never takes a
revocation back, and moves the idle limit only within its window.  Whatever is
preserved by revisions is therefore preserved by every service that issues no
session, and by the others when the session they issue preserves it.
-/

namespace BidayaxExecutive.Identity

open BidayaxExecutive.Runtime JsString
open BidayaxExecutive.Library.Transactions
open BidayaxExecutive.Library.Guards
open BidayaxExecutive.Library.Scripts

/-! ## Revisions -/

/-- The limits of a session, under the timeout it is kept alive with. -/
structure InWindow (environment : IdentityEnvironment)
    (session : ApplicationSession) : Prop where
  begins : session.createdAt.milliseconds < session.idleExpiresAt.milliseconds
  ends : session.idleExpiresAt.milliseconds ≤
    session.absoluteExpiresAt.milliseconds
  idle : session.idleExpiresAt.milliseconds ≤
    session.lastSeenAt.milliseconds + environment.idleTimeoutSeconds * 1000

structure Revised (environment : IdentityEnvironment)
    (old new : StoredApplicationSession) : Prop where
  sessionId : new.sessionId = old.sessionId
  sessionTokenHash : new.sessionTokenHash = old.sessionTokenHash
  providerSessionId : new.providerSessionId = old.providerSessionId
  rotatedFromSessionId : new.rotatedFromSessionId = old.rotatedFromSessionId
  createdAt : new.createdAt = old.createdAt
  absoluteExpiresAt : new.absoluteExpiresAt = old.absoluteExpiresAt
  revoked : old.revokedAt.isSome = true → new.revokedAt.isSome = true
  window : new.lastSeenAt = old.lastSeenAt ∧
      new.idleExpiresAt = old.idleExpiresAt ∨
    InWindow environment new.toApplicationSession

variable {environment : IdentityEnvironment}

theorem Revised.refl (session : StoredApplicationSession) :
    Revised environment session session :=
  ⟨rfl, rfl, rfl, rfl, rfl, rfl, id, .inl ⟨rfl, rfl⟩⟩

theorem Revised.revoke (session : StoredApplicationSession)
    (revokedAt : TimeValue) :
    Revised environment session
      { session with revokedAt := some revokedAt } :=
  ⟨rfl, rfl, rfl, rfl, rfl, rfl, fun _ => rfl, .inl ⟨rfl, rfl⟩⟩

theorem Revised.trans {first second third : StoredApplicationSession}
    (earlier : Revised environment first second)
    (later : Revised environment second third) :
    Revised environment first third where
  sessionId := later.sessionId.trans earlier.sessionId
  sessionTokenHash := later.sessionTokenHash.trans earlier.sessionTokenHash
  providerSessionId :=
    later.providerSessionId.trans earlier.providerSessionId
  rotatedFromSessionId :=
    later.rotatedFromSessionId.trans earlier.rotatedFromSessionId
  createdAt := later.createdAt.trans earlier.createdAt
  absoluteExpiresAt :=
    later.absoluteExpiresAt.trans earlier.absoluteExpiresAt
  revoked revoked := later.revoked (earlier.revoked revoked)
  window := by
    cases later.window with
    | inr window =>
        exact .inr window
    | inl same =>
        cases earlier.window with
        | inl sameEarlier =>
            exact .inl ⟨same.1.trans sameEarlier.1,
              same.2.trans sameEarlier.2⟩
        | inr window =>
            right
            refine ⟨?_, ?_, ?_⟩
            · rw [later.createdAt, same.2]
              exact window.begins
            · rw [same.2, later.absoluteExpiresAt]
              exact window.ends
            · rw [same.1, same.2]
              exact window.idle

abbrev RevisedRows (environment : IdentityEnvironment) :
    List StoredApplicationSession → List StoredApplicationSession → Prop :=
  List.Forall₂ (Revised environment)

theorem RevisedRows.refl (sessions : List StoredApplicationSession) :
    RevisedRows environment sessions sessions :=
  List.forall₂_same.mpr fun session _ => Revised.refl session

theorem RevisedRows.trans {first second third :
      List StoredApplicationSession}
    (earlier : RevisedRows environment first second)
    (later : RevisedRows environment second third) :
    RevisedRows environment first third := by
  induction earlier generalizing third with
  | nil =>
      cases later
      exact .nil
  | cons revised _ inductionHypothesis =>
      cases later with
      | cons next rest =>
          exact .cons (revised.trans next) (inductionHypothesis rest)

theorem revisedRows_map {revise : StoredApplicationSession →
      StoredApplicationSession} {sessions : List StoredApplicationSession}
    (revised : ∀ session ∈ sessions,
      Revised environment session (revise session)) :
    RevisedRows environment sessions (sessions.map revise) := by
  refine List.forall₂_map_right_iff.mpr ?_
  exact List.forall₂_same.mpr revised

theorem exists_of_revised {sessions revised : List StoredApplicationSession}
    (revisions : RevisedRows environment sessions revised)
    {session : StoredApplicationSession} (member : session ∈ revised) :
    ∃ old ∈ sessions, Revised environment old session := by
  induction revisions with
  | nil =>
      exact nomatch member
  | cons first _ inductionHypothesis =>
      cases List.mem_cons.mp member with
      | inl same =>
          rw [same]
          exact ⟨_, List.mem_cons_self, first⟩
      | inr later =>
          rcases inductionHypothesis later with ⟨old, oldMember, revision⟩
          exact ⟨old, List.mem_cons_of_mem _ oldMember, revision⟩

/-- The statement inserts no session. -/
def Revises (environment : IdentityEnvironment) {α : Type}
    (operation : Statement α) : Prop :=
  ∀ database, RevisedRows environment database.sessions
    (operation database).2.sessions

theorem revises_of_keeps {α : Type} {operation : Statement α}
    (keeps : ∀ database,
      (operation database).2.sessions = database.sessions) :
    Revises environment operation := by
  intro database
  rw [keeps]
  exact RevisedRows.refl _

theorem revises_query {α : Type} (read : IdentityDatabase → α) :
    Revises environment (query read) :=
  revises_of_keeps fun _ => rfl

theorem revises_statement {α : Type} {effect : IdentityDatabase →
      Except Violation (α × IdentityDatabase)}
    (effective : ∀ {database value written},
      effect database = .ok (value, written) →
      RevisedRows environment database.sessions written.sessions) :
    Revises environment (statement effect) := by
  intro database
  unfold statement
  cases outcome : effect database with
  | error violation =>
      exact RevisedRows.refl _
  | ok result =>
      exact effective outcome

theorem revises_updateSessions
    {selected : StoredApplicationSession → Bool}
    {set : StoredApplicationSession → StoredApplicationSession}
    (revised : ∀ session, checkSession (set session) = .ok () →
      Revised environment session (set session)) :
    Revises environment (updateSessions selected set) := by
  apply revises_statement
  intro database value written outcome
  rcases bind_eq_ok.mp outcome with ⟨_, checked, result⟩
  rw [← (Prod.mk.inj (Except.ok.inj result)).2]
  apply revisedRows_map
  intro session member
  by_cases isSelected : selected session = true
  · rw [if_pos isSelected]
    exact revised session (forM_eq_ok.mp checked session
      (List.mem_filter.mpr ⟨member, isSelected⟩))
  · rw [if_neg isSelected]
    exact Revised.refl session

theorem revises_bind {α β : Type} {first : Statement α}
    {next : α → Statement β} (revises : Revises environment first)
    (keeps : ∀ value database, (next value database).2 = database) :
    Revises environment (first >>= next) := by
  intro database
  have revised := revises database
  rw [bind_apply]
  rcases ran : first database with ⟨outcome, middle⟩
  rw [ran] at revised
  cases outcome with
  | error failure =>
      exact revised
  | ok value =>
      simp only [keeps]
      exact revised

theorem inWindow_of_checkSession {session : StoredApplicationSession}
    (checked : checkSession session = .ok ())
    (idle : session.idleExpiresAt.milliseconds ≤
      session.lastSeenAt.milliseconds +
        environment.idleTimeoutSeconds * 1000) :
    InWindow environment session.toApplicationSession := by
  unfold checkSession at checked
  by_cases begins : session.createdAt.milliseconds <
      session.idleExpiresAt.milliseconds
  · by_cases ends : session.idleExpiresAt.milliseconds ≤
        session.absoluteExpiresAt.milliseconds
    · exact ⟨begins, ends, idle⟩
    · simp [begins, ends] at checked
  · simp [begins] at checked

theorem revises_touchSession {sessionId : JsString}
    {lastSeenAt idleExpiresAt : TimeValue}
    (idle : idleExpiresAt.milliseconds ≤
      lastSeenAt.milliseconds + environment.idleTimeoutSeconds * 1000) :
    Revises environment
      (touchSession sessionId lastSeenAt idleExpiresAt) := by
  apply revises_bind
  · apply revises_updateSessions
    intro session checked
    refine ⟨rfl, rfl, rfl, rfl, rfl, rfl, id, .inr ?_⟩
    apply inWindow_of_checkSession checked
    by_cases earlier : idleExpiresAt.milliseconds ≤
        session.absoluteExpiresAt.milliseconds
    · simp only [if_pos earlier]
      exact idle
    · simp only [if_neg earlier]
      omega
  · exact fun _ _ => rfl

theorem revises_revokeSession (sessionId : JsString)
    (revokedAt : TimeValue) :
    Revises environment (revokeSession sessionId revokedAt) := by
  apply revises_bind
  · exact revises_updateSessions fun session _ =>
      Revised.revoke session revokedAt
  · exact fun _ _ => rfl

theorem revises_revokeSessionsByProviderSession
    (providerSessionId : JsString) (revokedAt : TimeValue) :
    Revises environment
      (revokeSessionsByProviderSession providerSessionId revokedAt) :=
  revises_updateSessions fun session _ => Revised.revoke session revokedAt

theorem revisedRows_accessChange (identity : UserIdentityRow)
    {database : IdentityDatabase} {sessions : List StoredApplicationSession}
    (same : database.sessions = sessions) :
    RevisedRows environment sessions
      (revokeIdentitySessionsOnAccessChange identity database).sessions := by
  rw [← same]
  unfold revokeIdentitySessionsOnAccessChange
  by_cases disabled : identity.status = .disabled
  · rw [if_pos disabled]
    apply revisedRows_map
    intro session _
    by_cases selected : session.userId = identity.userId ∧
        session.revokedAt = none
    · rw [if_pos selected]
      exact Revised.revoke session database.now
    · rw [if_neg selected]
      exact Revised.refl session
  · rw [if_neg disabled]
    exact RevisedRows.refl _

theorem revises_upsertProviderIdentity (lower : JsString → JsString)
    (identity : ProviderIdentity) (now : TimeValue) :
    Revises environment (upsertProviderIdentity lower identity now) := by
  apply revises_statement
  intro database value written outcome
  simp only at outcome
  split at outcome
  · split at outcome
    · exact nomatch outcome
    · rw [← (Prod.mk.inj (Except.ok.inj outcome)).2]
      exact revisedRows_accessChange _ rfl
  · split at outcome
    · exact nomatch outcome
    · split at outcome
      · exact nomatch outcome
      · rw [← (Prod.mk.inj (Except.ok.inj outcome)).2]
        exact RevisedRows.refl _

theorem revises_disableIdentityByProviderSubject
    (providerSubject : JsString) (now : TimeValue) :
    Revises environment
      (disableIdentityByProviderSubject providerSubject now) := by
  apply revises_statement
  intro database value written outcome
  simp only at outcome
  split at outcome
  · rw [← (Prod.mk.inj (Except.ok.inj outcome)).2]
    exact RevisedRows.refl _
  · rw [← (Prod.mk.inj (Except.ok.inj outcome)).2]
    exact revisedRows_accessChange _ rfl

theorem revises_saveProviderAccount (account : IdentityProviderAccount) :
    Revises environment (saveProviderAccount account) := by
  apply revises_statement
  intro database value written outcome
  split_ifs at outcome <;>
    rw [← (Prod.mk.inj (Except.ok.inj outcome)).2] <;>
    exact RevisedRows.refl _

theorem revises_consumeOAuthTransaction
    (transactionTokenHash stateHash : JsString) (now : TimeValue) :
    Revises environment
      (consumeOAuthTransaction transactionTokenHash stateHash now) :=
  revises_of_keeps fun _ => rfl

theorem revises_saveAuditEvent (event : IdentityAuditEvent) :
    Revises environment (saveAuditEvent event) := by
  apply revises_statement
  intro database value written outcome
  split_ifs at outcome <;>
    rw [← (Prod.mk.inj (Except.ok.inj outcome)).2] <;>
    exact RevisedRows.refl _

theorem revises_saveWebhookReceipt (webhook : VerifiedProviderWebhook)
    (payloadHash : JsString) (receivedAt : TimeValue) :
    Revises environment
      (saveWebhookReceipt webhook payloadHash receivedAt) := by
  apply revises_statement
  intro database value written outcome
  split_ifs at outcome <;>
    rw [← (Prod.mk.inj (Except.ok.inj outcome)).2] <;>
    exact RevisedRows.refl _

/-! ## Insertions -/

theorem statement_eq_ok {α : Type} {effect : IdentityDatabase →
      Except Violation (α × IdentityDatabase)} {value : α}
    {database written : IdentityDatabase} :
    statement effect database = (.ok value, written) ↔
      effect database = .ok (value, written) := by
  unfold statement
  cases effect database with
  | error violation =>
      simp
  | ok result =>
      simp [Prod.ext_iff]

/-- What no effect changes, the statement does not change. -/
theorem statement_keeps {α Part : Type} (read : IdentityDatabase → Part)
    {effect : IdentityDatabase → Except Violation (α × IdentityDatabase)}
    (keeps : ∀ {database value written},
      effect database = .ok (value, written) → read written = read database)
    (database : IdentityDatabase) :
    read (statement effect database).2 = read database := by
  unfold statement
  cases outcome : effect database with
  | error violation =>
      rfl
  | ok result =>
      exact keeps outcome

theorem createSession_eq_ok {session : StoredApplicationSession}
    {result : ApplicationSession} {database written : IdentityDatabase} :
    createSession session database = (.ok result, written) ↔
      enforceActiveIdentitySession database session = .ok () ∧
        checkSession session = .ok () ∧
        sessionReferences database session = .ok () ∧
        result = session.toApplicationSession ∧
        written =
          { database with sessions := database.sessions ++ [session] } := by
  unfold createSession
  rw [statement_eq_ok, bind_eq_ok]
  simp only [bind_eq_ok, Except.ok.injEq, Prod.mk.injEq]
  constructor
  · intro created
    rcases created with ⟨_, active, _, checked, _, references, same, wrote⟩
    exact ⟨active, checked, references, same.symm, wrote.symm⟩
  · intro created
    rcases created with ⟨active, checked, references, same, wrote⟩
    exact ⟨(), active, (), checked, (), references, same.symm, wrote.symm⟩

theorem createSession_cases (session : StoredApplicationSession)
    (database : IdentityDatabase) :
    (createSession session database).2 = database ∨
      checkSession session = .ok () ∧
        sessionReferences database session = .ok () ∧
        (createSession session database).2.sessions =
          database.sessions ++ [session] := by
  rcases ended : createSession session database with ⟨outcome, written⟩
  cases outcome with
  | ok result =>
      rcases createSession_eq_ok.mp ended with
        ⟨_, checked, references, _, rfl⟩
      exact .inr ⟨checked, references, rfl⟩
  | error failure =>
      left
      unfold createSession statement at ended
      split at ended
      · exact nomatch (Prod.mk.inj ended).1
      · exact (Prod.mk.inj ended).2.symm

/-- A new session has an id and a token of its own, and a known parent. -/
structure Insertable (sessions : List StoredApplicationSession)
    (session : StoredApplicationSession) : Prop where
  freshId : ∀ old ∈ sessions, old.sessionId ≠ session.sessionId
  freshToken : ∀ old ∈ sessions,
    old.sessionTokenHash ≠ session.sessionTokenHash
  parentKnown : ∀ parent, session.rotatedFromSessionId = some parent →
    parent ≠ session.sessionId → ∃ old ∈ sessions, old.sessionId = parent

theorem insertable_of_sessionReferences {database : IdentityDatabase}
    {session : StoredApplicationSession}
    (references : sessionReferences database session = .ok ()) :
    Insertable database.sessions session := by
  unfold sessionReferences at references
  split_ifs at references with idUsed tokenUsed orphan
  refine ⟨?_, ?_, ?_⟩
  · simpa using idUsed
  · simpa using tokenUsed
  · intro parent isParent different
    rw [isParent] at orphan
    simpa [different] using orphan

/-! ## Services -/

/-- Revisions keep the property of the session table. -/
def Stable (environment : IdentityEnvironment)
    (invariant : List StoredApplicationSession → Prop) : Prop :=
  ∀ sessions revised, RevisedRows environment sessions revised →
    invariant sessions → invariant revised

theorem stable_revisedRows (sessions : List StoredApplicationSession) :
    Stable environment (RevisedRows environment sessions) :=
  fun _ _ later earlier => earlier.trans later

abbrev OnSessions (invariant : List StoredApplicationSession → Prop)
    (world : World) : Prop :=
  invariant world.database.sessions

/-- The session of this input may be inserted into any table with the
property. -/
def Admits (invariant : List StoredApplicationSession → Prop)
    (input : IssueInput) : Prop :=
  ∀ session, newApplicationSession input = .ok session →
    ∀ sessions, invariant sessions → checkSession session = .ok () →
      Insertable sessions session → invariant (sessions ++ [session])

/-- A step of a service revises sessions, or issues one that is permitted. -/
inductive TableStep (environment : IdentityEnvironment)
    (permitted : IssueInput → Prop)
    (sessions later : List StoredApplicationSession) : Prop
  | revises : RevisedRows environment sessions later →
      TableStep environment permitted sessions later
  | issues {input : IssueInput} {session : StoredApplicationSession} :
      permitted input → newApplicationSession input = .ok session →
      checkSession session = .ok () → Insertable sessions session →
      later = sessions ++ [session] →
      TableStep environment permitted sessions later

abbrev StepsTable (environment : IdentityEnvironment)
    (permitted : IssueInput → Prop) {α : Type} (script : Service α) : Prop :=
  Script.Steps (fun world next => TableStep environment permitted
    world.database.sessions next.database.sessions) script

/-- Such steps preserve what is stable and admits the permitted sessions. -/
theorem preserves_of_steps {permitted : IssueInput → Prop}
    {invariant : List StoredApplicationSession → Prop} {α : Type}
    {script : Service α} (steps : StepsTable environment permitted script)
    (stable : Stable environment invariant)
    (admits : ∀ input, permitted input → Admits invariant input) :
    Script.Preserves (OnSessions invariant) script := by
  apply steps.preserves
  intro world next step holds
  cases step with
  | revises revisions =>
      exact stable _ _ revisions holds
  | issues isPermitted new checked insertable same =>
      rw [OnSessions, same]
      exact admits _ isPermitted _ new _ holds checked insertable

section Stepping

variable {permitted : IssueInput → Prop}

theorem steps_compute_bind {α β : Type}
    {outcome : Except IdentityFailure α} {next : α → Service β}
    (steps : ∀ value, outcome = .ok value →
      StepsTable environment permitted (next value)) :
    StepsTable environment permitted (compute outcome >>= next) := by
  cases outcome with
  | error failure =>
      exact trivial
  | ok value =>
      exact steps value rfl

theorem steps_execute {α : Type} {operation : Statement α}
    (revises : Revises environment operation) :
    StepsTable environment permitted (execute operation) :=
  Script.steps_perform fun world => .revises (revises world.database)

theorem steps_saveAuditEvents
    (inputs : List IdentityAuditInput) :
    StepsTable environment permitted (saveAuditEvents inputs) := by
  induction inputs with
  | nil =>
      exact trivial
  | cons input rest inductionHypothesis =>
      apply Script.steps_bind
      · exact steps_execute (revises_saveAuditEvent _)
      · exact fun _ => inductionHypothesis

theorem steps_issueApplicationSession {input : IssueInput}
    (isPermitted : permitted input) :
    StepsTable environment permitted (issueApplicationSession input) := by
  apply steps_compute_bind
  intro session issued
  apply Script.steps_bind
  · apply Script.steps_perform
    intro world
    cases createSession_cases session world.database with
    | inl unchanged =>
        simp only [unchanged]
        exact .revises (RevisedRows.refl _)
    | inr inserted =>
        exact .issues isPermitted issued inserted.1
          (insertable_of_sessionReferences inserted.2.1) inserted.2.2
  · exact fun _ => trivial

theorem renewedIdleExpiry_le {session : ApplicationSession}
    {now renewed : TimeValue}
    (computed : renewedIdleExpiry environment session now = .ok renewed) :
    renewed.milliseconds ≤
      now.milliseconds + environment.idleTimeoutSeconds * 1000 := by
  unfold renewedIdleExpiry secondsAfter TimeValue.ofMilliseconds?
    at computed
  simp only at computed
  split_ifs at computed with earlier inRange
  · rw [← Except.ok.inj computed]
  · rw [← Except.ok.inj computed]
    omega

section Host

variable {host : Host}

theorem steps_admitSession (session : ApplicationSession) (now : TimeValue) :
    StepsTable environment permitted
      (admitSession host environment session now) := by
  apply Script.steps_bind
  · exact steps_execute (revises_query _)
  · intro found
    cases found with
    | none =>
        exact trivial
    | some identity =>
        by_cases active : identity.status ≠ .active
        · simp only [if_pos active]
          exact trivial
        · simp only [if_neg active]
          apply Script.steps_bind
          · exact steps_execute (revises_query _)
          · intro memberships
            cases selectMembership memberships session.tenantId with
            | none =>
                exact trivial
            | some membership =>
                apply Script.steps_bind
                · exact steps_execute (revises_query _)
                · intro grants
                  apply steps_compute_bind
                  intro renewed computed
                  apply Script.steps_bind
                  · exact steps_execute
                      (revises_touchSession (renewedIdleExpiry_le computed))
                  · exact fun _ => steps_compute_bind
                      fun _ _ => trivial

theorem steps_resolveApplicationSession
    (now : TimeValue)
    (sessionToken : Option JsString) :
    StepsTable environment permitted
      (resolveApplicationSession host environment now sessionToken) := by
  unfold resolveApplicationSession
  cases sessionToken.filter (!·.isEmpty) with
  | none =>
      exact trivial
  | some token =>
      apply Script.steps_bind
      · exact steps_execute (revises_query _)
      · intro found
        cases found with
        | none =>
            exact trivial
        | some session =>
            by_cases expired : isExpired session now = true
            · simp only [if_pos expired]
              apply Script.steps_bind
              · exact steps_execute (revises_revokeSession _ _)
              · exact fun _ => trivial
            · simp only [if_neg expired]
              exact steps_admitSession session now

end Host

theorem steps_revokeApplicationSession
    (input : RevocationInput) :
    StepsTable environment permitted
      (revokeApplicationSession input) := by
  apply Script.steps_bind
  · exact steps_execute (revises_revokeSession _ _)
  · exact fun _ => steps_saveAuditEvents _

theorem steps_rotateApplicationSession
    {input : RotationInput}
    (isPermitted : permitted (rotatedIssue input)) :
    StepsTable environment permitted
      (rotateApplicationSession input) := by
  apply Script.steps_bind
  · exact steps_execute (revises_revokeSession _ _)
  · intro revoked
    cases revoked with
    | false =>
        exact trivial
    | true =>
        apply Script.steps_bind
        · exact steps_issueApplicationSession isPermitted
        · intro issued
          apply Script.steps_bind
          · exact steps_saveAuditEvents _
          · exact fun _ => trivial

section Platform

variable {platform : IdentityPlatform}

theorem steps_persistProviderIdentity
    (identity : ProviderIdentity)
    (now : TimeValue) :
    StepsTable environment permitted
      (persistProviderIdentity platform identity now) := by
  unfold persistProviderIdentity
  by_cases verified : (!identity.emailVerified) = true
  · rw [if_pos verified]
    exact trivial
  · rw [if_neg verified]
    apply Script.steps_bind
    · exact steps_execute (revises_upsertProviderIdentity _ _ _)
    · intro user
      by_cases active : user.status ≠ .active
      · rw [if_pos active]
        exact trivial
      · rw [if_neg active]
        apply Script.steps_bind
        · exact steps_execute (revises_saveProviderAccount _)
        · exact fun _ => trivial

theorem steps_resolveProviderTenant
    (identity : ProviderIdentity) :
    StepsTable environment permitted
      (resolveProviderTenant identity) := by
  unfold resolveProviderTenant
  cases identity.providerTenantId.filter (!·.isEmpty) with
  | none =>
      exact trivial
  | some providerTenantId =>
      exact steps_execute (revises_query _)

theorem steps_completeCallback
    (provider : ProviderCallbackInput → Except JsString ProviderIdentity)
    (transactionId : JsString) (call : ProviderCallbackInput) :
    StepsTable environment permitted
      (completeCallback provider transactionId call) :=
  Script.steps_perform fun _ => .revises (RevisedRows.refl _)

end Platform

section Webhook

theorem steps_revokeProviderSession
    (event : VerifiedProviderWebhook)
    (now : TimeValue) :
    StepsTable environment permitted
      (revokeProviderSession event now) := by
  unfold revokeProviderSession
  cases (providerSessionFromWebhook event.data).filter (!·.isEmpty) with
  | none =>
      exact trivial
  | some providerSessionId =>
      apply Script.steps_bind
      · exact steps_execute
          (revises_revokeSessionsByProviderSession _ _)
      · exact fun _ => steps_saveAuditEvents _

theorem steps_disableProviderUser
    (event : VerifiedProviderWebhook)
    (now : TimeValue) :
    StepsTable environment permitted
      (disableProviderUser event now) := by
  unfold disableProviderUser
  cases (providerSubjectFromWebhook event.data).filter (!·.isEmpty) with
  | none =>
      exact trivial
  | some subject =>
      apply Script.steps_bind
      · exact steps_execute
          (revises_disableIdentityByProviderSubject _ _)
      · intro found
        cases found with
        | none =>
            exact trivial
        | some userId =>
            by_cases empty : userId.isEmpty = true
            · simp only [if_pos empty]
              exact trivial
            · simp only [if_neg empty]
              exact steps_saveAuditEvents _

theorem steps_processIdentityWebhook
    (input : WebhookInput) :
    StepsTable environment permitted
      (processIdentityWebhook input) := by
  apply steps_compute_bind
  intro event _
  apply Script.steps_bind
  · exact steps_execute (revises_saveWebhookReceipt _ _ _)
  · intro saved
    cases saved with
    | false =>
        exact trivial
    | true =>
        have deletes {rest : Service WebhookOutcome}
            (steps : StepsTable environment permitted rest) :
            StepsTable environment permitted
              (if event.eventType = js "user.deleted" then do
                disableProviderUser event input.now
                rest
              else rest) := by
          by_cases deleted : event.eventType = js "user.deleted"
          · rw [if_pos deleted]
            apply Script.steps_bind
            · exact steps_disableProviderUser event input.now
            · exact fun _ => steps
          · rw [if_neg deleted]
            exact steps
        have ends {inputs : List IdentityAuditInput}
            {outcome : WebhookOutcome} :
            StepsTable environment permitted (do
              saveAuditEvents inputs
              return outcome) :=
          Script.steps_bind (steps_saveAuditEvents inputs)
            fun _ => trivial
        by_cases revoked : event.eventType = js "session.revoked"
        · simp only [Bool.not_true, Bool.false_eq_true, if_false,
            if_pos revoked]
          apply Script.steps_bind
          · exact steps_revokeProviderSession event input.now
          · exact fun _ => deletes ends
        · simp only [Bool.not_true, Bool.false_eq_true, if_false,
            if_neg revoked]
          exact deletes ends

end Webhook

end Stepping

section Preserving

variable {invariant : List StoredApplicationSession → Prop}

/-- What issues no session preserves what is stable. -/
theorem preserves_of_revisions {α : Type} {script : Service α}
    (stable : Stable environment invariant)
    (steps : StepsTable environment (fun _ => False) script) :
    Script.Preserves (OnSessions invariant) script :=
  preserves_of_steps steps stable fun _ never => never.elim

/-- What issues sessions of one input preserves what admits them. -/
theorem preserves_of_issues {α : Type} {script : Service α}
    {input : IssueInput} (stable : Stable environment invariant)
    (admits : Admits invariant input)
    (steps : StepsTable environment (· = input) script) :
    Script.Preserves (OnSessions invariant) script :=
  preserves_of_steps steps stable fun _ same => same ▸ admits

theorem preserves_issueApplicationSession
    (stable : Stable environment invariant) {input : IssueInput}
    (admits : Admits invariant input) :
    Script.Preserves (OnSessions invariant)
      (issueApplicationSession input) :=
  preserves_of_issues stable admits (steps_issueApplicationSession rfl)

theorem preserves_resolveApplicationSession {host : Host}
    (stable : Stable environment invariant) (now : TimeValue)
    (sessionToken : Option JsString) :
    Script.Preserves (OnSessions invariant)
      (resolveApplicationSession host environment now sessionToken) :=
  preserves_of_revisions stable
    (steps_resolveApplicationSession now sessionToken)

theorem preserves_revokeApplicationSession
    (stable : Stable environment invariant) (input : RevocationInput) :
    Script.Preserves (OnSessions invariant)
      (revokeApplicationSession input) :=
  preserves_of_revisions stable (steps_revokeApplicationSession input)

theorem preserves_rotateApplicationSession
    (stable : Stable environment invariant) {input : RotationInput}
    (admits : Admits invariant (rotatedIssue input)) :
    Script.Preserves (OnSessions invariant)
      (rotateApplicationSession input) :=
  preserves_of_issues stable admits (steps_rotateApplicationSession rfl)

theorem preserves_processIdentityWebhook
    (stable : Stable environment invariant) (input : WebhookInput) :
    Script.Preserves (OnSessions invariant)
      (processIdentityWebhook input) :=
  preserves_of_revisions stable (steps_processIdentityWebhook input)

end Preserving

/-! ## Single statements -/

theorem yields_execute {α : Type} {operation : Statement α} {value : α}
    {world final : World} :
    Yields (execute operation).run world value final ↔
      operation world.database = (.ok value, final.database) ∧
        world.exchanges = final.exchanges := by
  change ((operation world.database).1,
    { world with database := (operation world.database).2 }) =
      (Except.ok value, final) ↔ _
  rcases operation world.database with ⟨outcome, database⟩
  rcases final with ⟨finalDatabase, exchanges⟩
  simp only [Prod.mk.injEq, World.mk.injEq]
  exact and_assoc.symm

theorem yields_execute_of_eq {α : Type} {operation : Statement α}
    {value : α} {database written : IdentityDatabase}
    (succeeds : operation database = (.ok value, written))
    (exchanges : List ProviderExchange) :
    Yields (execute operation).run ⟨database, exchanges⟩ value
      ⟨written, exchanges⟩ :=
  yields_execute.mpr ⟨succeeds, rfl⟩

theorem updateSessions_of_checked
    {selected : StoredApplicationSession → Bool}
    {set : StoredApplicationSession → StoredApplicationSession}
    {database : IdentityDatabase}
    (checked : ∀ session ∈ database.sessions.filter selected,
      checkSession (set session) = .ok ()) :
    updateSessions selected set database =
      (.ok (database.sessions.filter selected).length,
        { database with
          sessions := database.sessions.map fun session =>
            if selected session then set session else session }) :=
  statement_eq_ok.mpr (bind_eq_ok.mpr ⟨(), forM_eq_ok.mpr checked, rfl⟩)

/-! ## Sessions that are not live -/

theorem revokeSession_of_dead {sessionId : JsString} {revokedAt : TimeValue}
    {database : IdentityDatabase}
    (dead : ∀ session ∈ database.sessions,
      isLive sessionId session = false) :
    revokeSession sessionId revokedAt database = (.ok false, database) := by
  have none_selected : database.sessions.filter (isLive sessionId) = [] := by
    simpa using dead
  have unchanged : (database.sessions.map fun session =>
      if isLive sessionId session then
        { session with revokedAt := some revokedAt } else session) =
      database.sessions := by
    refine (List.map_congr_left fun session member => ?_).trans
      (List.map_id _)
    rw [dead session member]
    rfl
  have updated : updateSessions (isLive sessionId)
      (fun session => { session with revokedAt := some revokedAt })
      database = (.ok 0, database) := by
    refine statement_eq_ok.mpr ?_
    rw [none_selected, unchanged]
    rfl
  unfold revokeSession
  rw [bind_apply, updated]
  rfl

/-- A session that is revoked already is not rotated. -/
theorem rotateApplicationSession_of_dead (input : RotationInput)
    {world : World}
    (dead : ∀ session ∈ world.database.sessions,
      isLive input.session.sessionId session = false) :
    (rotateApplicationSession input).run world =
      (.error (.service .sessionRotationReplayed
        (js "Application session refresh was already consumed.")),
        world) := by
  have revoked : (execute (revokeSession input.session.sessionId
      input.now)).run world = (.ok false, world) := by
    refine yields_execute.mpr ⟨?_, rfl⟩
    exact revokeSession_of_dead dead
  unfold rotateApplicationSession
  rw [Script.run_bind, bind_apply, revoked]
  rfl

/-! ## Sessions that are issued -/

theorem secondsAfter_milliseconds {instant later : TimeValue} {seconds : Nat}
    (computed : secondsAfter instant seconds = .ok later) :
    later.milliseconds = instant.milliseconds + seconds * 1000 := by
  unfold secondsAfter TimeValue.ofMilliseconds? at computed
  split_ifs at computed with inRange
  rw [← Except.ok.inj computed]

theorem secondsAfter_of_reachable {seconds : Nat} {instant : TimeValue}
    (early : instant.milliseconds + seconds * 1000 ≤ 8640000000000000) :
    ∃ later, secondsAfter instant seconds = .ok later := by
  have lowest := instant.lower
  unfold secondsAfter TimeValue.ofMilliseconds?
  rw [dif_pos ⟨by omega, early⟩]
  exact ⟨_, rfl⟩

/-- What the input decides about the session that is issued. -/
structure NewSession (input : IssueInput)
    (session : StoredApplicationSession) : Prop where
  createdAt : session.createdAt = input.now
  lastSeenAt : session.lastSeenAt = input.now
  idleExpiresAt : session.idleExpiresAt.milliseconds =
    input.now.milliseconds + input.environment.idleTimeoutSeconds * 1000
  absoluteExpiresAt : session.absoluteExpiresAt.milliseconds =
    input.now.milliseconds + input.environment.absoluteTimeoutSeconds * 1000
  sessionId : session.sessionId = js "ses_" ++ input.drawn.sessionIdToken
  providerSessionId : session.providerSessionId = input.providerSessionId
  rotatedFromSessionId :
    session.rotatedFromSessionId = input.rotatedFromSessionId
  revokedAt : session.revokedAt = none

theorem newSession_of_eq_ok {input : IssueInput}
    {session : StoredApplicationSession}
    (new : newApplicationSession input = .ok session) :
    NewSession input session := by
  rcases bind_eq_ok.mp new with ⟨idleExpiresAt, idle, rest⟩
  rcases bind_eq_ok.mp rest with ⟨absoluteExpiresAt, absolute, built⟩
  rw [← Except.ok.inj built]
  exact ⟨rfl, rfl, secondsAfter_milliseconds idle,
    secondsAfter_milliseconds absolute, rfl, rfl, rfl, rfl⟩

theorem yields_issueApplicationSession {input : IssueInput}
    {issued : IssuedApplicationSession} {world final : World}
    (yields : Yields (issueApplicationSession input).run world issued final) :
    ∃ session, newApplicationSession input = .ok session ∧
      checkSession session = .ok () ∧
      Insertable world.database.sessions session ∧
      issued.session = session.toApplicationSession ∧
      final.database.sessions = world.database.sessions ++ [session] := by
  rcases Script.yields_run_bind.mp yields with
    ⟨session, middle, computed, rest⟩
  rcases Script.yields_run_done.mp computed with ⟨new, rfl⟩
  rcases Script.yields_run_bind.mp rest with
    ⟨created, last, inserted, returned⟩
  rcases Script.yields_run_pure.mp returned with ⟨rfl, rfl⟩
  rcases createSession_eq_ok.mp (yields_execute.mp inserted).1 with
    ⟨_, checked, references, rfl, wrote⟩
  exact ⟨session, new, checked, insertable_of_sessionReferences references,
    rfl, congrArg IdentityDatabase.sessions wrote⟩

theorem yields_issueApplicationSession_of_new {input : IssueInput}
    {session : StoredApplicationSession} {database : IdentityDatabase}
    (new : newApplicationSession input = .ok session)
    (active : enforceActiveIdentitySession database session = .ok ())
    (checked : checkSession session = .ok ())
    (references : sessionReferences database session = .ok ())
    (exchanges : List ProviderExchange) :
    Yields (issueApplicationSession input).run ⟨database, exchanges⟩
      { csrfToken := input.drawn.csrfToken
        session := session.toApplicationSession
        sessionToken := input.drawn.sessionToken }
      ⟨{ database with sessions := database.sessions ++ [session] },
        exchanges⟩ := by
  have creates := createSession_eq_ok.mpr
    ⟨active, checked, references, rfl, rfl⟩
  refine Script.yields_run_bind.mpr
    ⟨session, _, Script.yields_run_done.mpr ⟨new, rfl⟩, ?_⟩
  exact Script.yields_run_bind.mpr
    ⟨_, _, yields_execute_of_eq creates exchanges,
      Script.yields_run_pure.mpr ⟨rfl, rfl⟩⟩

/-- Positive timeouts in this order pass the CHECK constraints. -/
theorem checkSession_of_le {input : IssueInput}
    {session : StoredApplicationSession}
    (positive : 0 < input.environment.idleTimeoutSeconds)
    (ordered : input.environment.idleTimeoutSeconds ≤
      input.environment.absoluteTimeoutSeconds)
    (new : newApplicationSession input = .ok session) :
    checkSession session = .ok () := by
  have built := newSession_of_eq_ok new
  unfold checkSession
  rw [built.createdAt, built.idleExpiresAt, built.absoluteExpiresAt]
  rw [if_neg (by omega), if_neg (by omega)]

/-! ## Logins -/

section Login

variable {invariant : List StoredApplicationSession → Prop}
  {platform : IdentityPlatform} {login : LoginInput}

/-- A login revises sessions, issues one and revises them again. -/
structure IssuedWithin (environment : IdentityEnvironment)
    (invariant : List StoredApplicationSession → Prop) (login : LoginInput)
    (issued : IssuedApplicationSession) (final : World) (issue : IssueInput)
    (before after : World) : Prop where
  sameInstant : issue.now = login.now
  sameEnvironment : issue.environment = login.environment
  holds : invariant before.database.sessions
  issues : Yields (issueApplicationSession issue).run before issued after
  revisions : RevisedRows environment after.database.sessions
    final.database.sessions

theorem yields_admitIdentity (stable : Stable environment invariant)
    {identity : ProviderIdentity} {issued : IssuedApplicationSession}
    {world final : World}
    (yields : Yields (admitIdentity platform login identity).run world issued
      final)
    (holds : invariant world.database.sessions) :
    ∃ issue before after,
      IssuedWithin environment invariant login issued final issue before
        after := by
  rcases Script.yields_run_bind.mp yields with ⟨user, known, persists, rest⟩
  have holds := (preserves_of_revisions stable
    (steps_persistProviderIdentity identity login.now)).yields persists holds
  rcases Script.yields_run_bind.mp rest with ⟨memberships, _, lists, rest⟩
  have holds := (preserves_of_revisions stable
    (steps_execute (revises_query _))).yields lists holds
  rcases Script.yields_run_bind.mp rest with ⟨tenant, _, links, rest⟩
  have holds := (preserves_of_revisions stable
    (steps_resolveProviderTenant identity)).yields links holds
  rcases Script.yields_run_bind.mp rest with ⟨membership, _, chosen, rest⟩
  rcases Script.yields_run_done.mp chosen with ⟨_, rfl⟩
  rcases Script.yields_run_bind.mp rest with ⟨session, _, issues, rest⟩
  rcases Script.yields_run_bind.mp rest with ⟨_, _, saves, returned⟩
  rcases Script.yields_run_pure.mp returned with ⟨same, rfl⟩
  rw [← same]
  refine ⟨_, _, _, ⟨?_, ?_, holds, issues, ?_⟩⟩
  · rfl
  · rfl
  · exact (preserves_of_revisions (stable_revisedRows _)
      (steps_saveAuditEvents _)).yields saves (RevisedRows.refl _)

theorem yields_completeIdentityLogin (stable : Stable environment invariant)
    {completed : CompletedLogin} {world final : World}
    (yields : Yields (completeIdentityLogin platform login).run world
      completed final)
    (holds : invariant world.database.sessions) :
    ∃ issue before after,
      IssuedWithin environment invariant login completed.issued final issue
        before after := by
  rcases Script.yields_run_bind.mp yields with ⟨found, _, consumes, rest⟩
  have holds := (preserves_of_revisions stable
    (steps_execute (revises_consumeOAuthTransaction _ _ _))).yields consumes
      holds
  cases found with
  | none =>
      exact absurd rest Script.not_yields_run_fail
  | some transaction =>
      rcases Script.yields_run_bind.mp rest with ⟨verifier, _, reads, rest⟩
      rcases Script.yields_run_done.mp reads with ⟨_, rfl⟩
      rcases Script.yields_run_bind.mp rest with ⟨identity, _, calls, rest⟩
      have holds := (preserves_of_revisions stable
        (steps_completeCallback _ _ _)).yields calls holds
      rcases Script.yields_run_bind.mp rest with ⟨issued, _, admits, returned⟩
      rcases Script.yields_run_pure.mp returned with ⟨same, rfl⟩
      rw [← same]
      exact yields_admitIdentity stable admits holds

end Login

end BidayaxExecutive.Identity
