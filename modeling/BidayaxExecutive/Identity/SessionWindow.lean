import BidayaxExecutive.Identity.SessionRuns

/-!
# The window of a session

A stored session is idle at the latest when its absolute limit is reached, by a
CHECK constraint of its table.  A resolution clamps the idle limit before the
database sees it; the issuing of a session computes the two limits apart, so
it violates the constraint when the idle timeout is the longer one.
-/

namespace BidayaxExecutive.Identity

open BidayaxExecutive.Runtime JsString
open BidayaxExecutive.Library.Guards
open BidayaxExecutive.Library.Transactions
open BidayaxExecutive.Library.Scripts
open BidayaxExecutive.Library.Runs

/-! ## Runs -/

/-- What is asked for when a session is issued, apart from the environment and
the instant. -/
structure SessionRequest where
  authenticationMethod : JsString
  drawn : DrawnTokens
  providerSessionId : Option JsString
  rotatedFromSessionId : Option JsString
  tenantId : JsString
  userId : JsString

def SessionRequest.input (request : SessionRequest)
    (environment : IdentityEnvironment) (now : TimeValue) : IssueInput where
  authenticationMethod := request.authenticationMethod
  environment := environment
  now := now
  drawn := request.drawn
  providerSessionId := request.providerSessionId
  rotatedFromSessionId := request.rotatedFromSessionId
  tenantId := request.tenantId
  userId := request.userId

/-- A webhook revokes the sessions of a provider session or of a user. -/
inductive TableCall where
  | issue (request : SessionRequest)
  | session (call : SessionCall)
  | webhook (payload : JsString)
      (event : Except JsString VerifiedProviderWebhook)

section Host

variable (host : Host) (environment : IdentityEnvironment)

def tableService (now : TimeValue) : TableCall → Service Unit
  | .issue request =>
      discard (issueApplicationSession (request.input environment now))
  | .session call => callService host environment now call
  | .webhook payload event =>
      discard (processIdentityWebhook
        { now := now
          payload := payload
          event := event })

def afterTableCall (world : World) (timed : Timed TableCall) :
    Except IdentityFailure World :=
  .ok (afterService timed.transactional
    (tableService host environment timed.now timed.call) world)

def RowsInWindow (sessions : List StoredApplicationSession) : Prop :=
  ∀ session ∈ sessions, InWindow environment session.toApplicationSession

/-- Along every run the stored sessions are in their windows, and no session
that is issued next violates a CHECK constraint. -/
def WindowKept : Prop :=
  ∀ (start final : World) (calls : List (Timed TableCall)) (now : TimeValue),
    RowsInWindow environment start.database.sessions →
    InOrder (calls.map (·.now) ++ [now]) →
    run (afterTableCall host environment) start calls = .ok final →
    RowsInWindow environment final.database.sessions ∧
      ∀ (request : SessionRequest) (constraint : JsString),
        ((issueApplicationSession (request.input environment now)).run
          final).1 ≠ .error (.database (.check constraint))

end Host

/-! ## The stored sessions -/

section Rows

variable {host : Host} {environment : IdentityEnvironment}

theorem Revised.inWindow {old new : StoredApplicationSession}
    (revised : Revised environment old new)
    (window : InWindow environment old.toApplicationSession) :
    InWindow environment new.toApplicationSession := by
  cases revised.window with
  | inr moved =>
      exact moved
  | inl same =>
      refine ⟨?_, ?_, ?_⟩
      · rw [revised.createdAt, same.2]
        exact window.begins
      · rw [same.2, revised.absoluteExpiresAt]
        exact window.ends
      · rw [same.1, same.2]
        exact window.idle

theorem stable_rowsInWindow :
    Stable environment (RowsInWindow environment) := by
  intro sessions revised revisions window session member
  rcases exists_of_revised revisions member with ⟨old, oldMember, revision⟩
  exact revision.inWindow (window old oldMember)

/-- The CHECK constraints admit only sessions in their windows. -/
theorem admits_rowsInWindow {input : IssueInput}
    (same : input.environment = environment) :
    Admits (RowsInWindow environment) input := by
  intro new isNew sessions window checked _ session member
  have built := newSession_of_eq_ok isNew
  cases List.mem_append.mp member with
  | inl older =>
      exact window session older
  | inr added =>
      rw [List.mem_singleton.mp added]
      apply inWindow_of_checkSession checked
      rw [built.lastSeenAt, built.idleExpiresAt, same]

theorem preserves_tableService (now : TimeValue) (call : TableCall) :
    Script.Preserves (OnSessions (RowsInWindow environment))
      (tableService host environment now call) := by
  have stable : Stable environment (RowsInWindow environment) :=
    stable_rowsInWindow
  cases call with
  | issue request =>
      exact preserves_discard
        (preserves_issueApplicationSession stable (admits_rowsInWindow rfl))
  | session call =>
      exact preserves_callService stable
        (fun _ _ => admits_rowsInWindow rfl) call
  | webhook payload event =>
      exact preserves_discard (preserves_processIdentityWebhook stable _)

theorem rowsInWindow_of_run {start final : World}
    {calls : List (Timed TableCall)}
    (window : RowsInWindow environment start.database.sessions)
    (ran : run (afterTableCall host environment) start calls = .ok final) :
    RowsInWindow environment final.database.sessions := by
  apply run_preserves (afterTableCall host environment)
    (OnSessions (RowsInWindow environment)) ?_ window ran
  intro world timed next window stepped
  rw [← Except.ok.inj stepped]
  have preserves : Script.Preserves (OnSessions (RowsInWindow environment))
      (tableService host environment timed.now timed.call) :=
    preserves_tableService timed.now timed.call
  exact afterService_invariant (preserves.run window) window

end Rows

/-! ## The sessions that are issued -/

section Issued

variable {host : Host} {environment : IdentityEnvironment}

/-- From no instant on is the limit a date. -/
def Unreachable (seconds : Nat) : Prop :=
  17280000000000 < seconds

theorem secondsAfter_of_unreachable {seconds : Nat}
    (unreachable : Unreachable seconds) (instant : TimeValue) :
    secondsAfter instant seconds = .error .invalidTime := by
  have lowest := instant.lower
  unfold Unreachable at unreachable
  unfold secondsAfter TimeValue.ofMilliseconds?
  rw [dif_neg (by omega)]

theorem invalidTime_of_secondsAfter {instant : TimeValue} {seconds : Nat}
    {failure : IdentityFailure}
    (late : secondsAfter instant seconds = .error failure) :
    failure = .invalidTime := by
  unfold secondsAfter at late
  split at late
  · exact nomatch late
  · exact (Except.error.inj late).symm

theorem invalidTime_of_newApplicationSession {input : IssueInput}
    {failure : IdentityFailure}
    (late : newApplicationSession input = .error failure) :
    failure = .invalidTime := by
  unfold newApplicationSession at late
  cases idle : secondsAfter input.now
      input.environment.idleTimeoutSeconds with
  | error first =>
      rw [idle] at late
      rw [← Except.error.inj late]
      exact invalidTime_of_secondsAfter idle
  | ok idleExpiresAt =>
      cases absolute : secondsAfter input.now
          input.environment.absoluteTimeoutSeconds with
      | error second =>
          rw [idle, absolute] at late
          rw [← Except.error.inj late]
          exact invalidTime_of_secondsAfter absolute
      | ok absoluteExpiresAt =>
          rw [idle, absolute] at late
          exact nomatch late

theorem issueApplicationSession_of_new {input : IssueInput}
    {session : StoredApplicationSession} {world : World}
    (new : newApplicationSession input = .ok session) :
    ((issueApplicationSession input).run world).1 =
      (createSession session world.database).1.map fun created =>
        { csrfToken := input.drawn.csrfToken
          session := created
          sessionToken := input.drawn.sessionToken } := by
  unfold issueApplicationSession
  rw [new]
  rcases ended : createSession session world.database with ⟨outcome, written⟩
  have inserts : (execute (createSession session)).run world =
      (outcome, { world with database := written }) := by
    change ((createSession session world.database).1,
      { world with database := (createSession session world.database).2 }) = _
    rw [ended]
  change ((execute (createSession session) >>= _).run world).1 = _
  rw [Script.run_bind, bind_apply, inserts]
  cases outcome with
  | error failure =>
      rfl
  | ok created =>
      rfl

theorem issueApplicationSession_of_late {input : IssueInput} {world : World}
    {failure : IdentityFailure}
    (late : newApplicationSession input = .error failure) :
    ((issueApplicationSession input).run world).1 = .error failure := by
  unfold issueApplicationSession
  rw [late]
  rfl

/-- An insert violates a CHECK constraint only when the row does. -/
theorem checkSession_of_createSession {session : StoredApplicationSession}
    {database : IdentityDatabase} {constraint : JsString}
    (violated : (createSession session database).1 =
      .error (.database (.check constraint))) :
    checkSession session ≠ .ok () := by
  intro checked
  unfold createSession statement at violated
  rw [checked] at violated
  simp only [enforceActiveIdentitySession, sessionReferences, bind,
    Except.bind] at violated
  split_ifs at violated <;> simp at violated

theorem issue_not_violated {input : IssueInput} {world : World}
    {constraint : JsString}
    (positive : 0 < input.environment.idleTimeoutSeconds)
    (tidy : input.environment.idleTimeoutSeconds ≤
        input.environment.absoluteTimeoutSeconds ∨
      Unreachable input.environment.idleTimeoutSeconds) :
    ((issueApplicationSession input).run world).1 ≠
      .error (.database (.check constraint)) := by
  intro violated
  cases outcome : newApplicationSession input with
  | error failure =>
      rw [issueApplicationSession_of_late outcome] at violated
      rw [invalidTime_of_newApplicationSession outcome] at violated
      exact nomatch violated
  | ok session =>
      rw [issueApplicationSession_of_new outcome] at violated
      cases tidy with
      | inl ordered =>
          cases created : (createSession session world.database).1 with
          | ok result =>
              rw [created] at violated
              exact nomatch violated
          | error failure =>
              rw [created] at violated
              rw [Except.error.inj violated] at created
              exact checkSession_of_createSession created
                (checkSession_of_le positive ordered outcome)
      | inr unreachable =>
          unfold newApplicationSession at outcome
          rw [secondsAfter_of_unreachable unreachable] at outcome
          exact nomatch outcome

/-- With an idle timeout that is longer, the limits of a session violate the
second constraint. -/
theorem checkSession_of_lt {input : IssueInput}
    {session : StoredApplicationSession}
    (longer : input.environment.absoluteTimeoutSeconds <
      input.environment.idleTimeoutSeconds)
    (new : newApplicationSession input = .ok session) :
    checkSession session =
      .error (.check (js "application_sessions_check1")) := by
  have built := newSession_of_eq_ok new
  unfold checkSession
  rw [built.createdAt, built.idleExpiresAt, built.absoluteExpiresAt]
  rw [if_neg (by omega), if_pos (by omega)]

/-- The earliest instant. -/
def earliest : TimeValue :=
  ⟨-8640000000000000, by decide, by decide⟩

def memberRequest : SessionRequest where
  authenticationMethod := js "Passkey"
  drawn := ⟨js "first token", js "first csrf", js "first"⟩
  providerSessionId := none
  rotatedFromSessionId := none
  tenantId := js "tenant"
  userId := js "usr_member"

theorem memberRequest_violates
    (longer : environment.absoluteTimeoutSeconds <
      environment.idleTimeoutSeconds)
    (reachable : ¬Unreachable environment.idleTimeoutSeconds) :
    ((issueApplicationSession
        (memberRequest.input environment earliest)).run memberWorld).1 =
      .error (.database (.check (js "application_sessions_check1"))) := by
  unfold Unreachable at reachable
  have idle : ∃ later,
      secondsAfter earliest environment.idleTimeoutSeconds = .ok later :=
    secondsAfter_of_reachable (by simp only [earliest]; omega)
  have absolute : ∃ later,
      secondsAfter earliest environment.absoluteTimeoutSeconds =
        .ok later :=
    secondsAfter_of_reachable (by simp only [earliest]; omega)
  rcases idle with ⟨idleExpiresAt, idle⟩
  rcases absolute with ⟨absoluteExpiresAt, absolute⟩
  have new : ∃ session, newApplicationSession
        (memberRequest.input environment earliest) = .ok session ∧
      session.userId = js "usr_member" ∧
      session.tenantId = js "tenant" := by
    unfold newApplicationSession SessionRequest.input
    rw [idle, absolute]
    exact ⟨_, rfl, rfl, rfl⟩
  rcases new with ⟨session, new, isMember, isTenant⟩
  rw [issueApplicationSession_of_new new]
  have active : enforceActiveIdentitySession memberDatabase session =
      .ok () := by
    unfold enforceActiveIdentitySession
    rw [isMember, isTenant]
    decide
  have violated : checkSession session =
      .error (.check (js "application_sessions_check1")) :=
    checkSession_of_lt longer new
  have fails : createSession session memberDatabase =
      (.error (.database (.check (js "application_sessions_check1"))),
        memberDatabase) := by
    simp only [createSession, statement, active, violated, bind, Except.bind]
  change (createSession session memberDatabase).1.map _ = _
  rw [fails]
  rfl

theorem windowKept_of_tidy
    (positive : 0 < environment.idleTimeoutSeconds)
    (tidy : environment.idleTimeoutSeconds ≤
        environment.absoluteTimeoutSeconds ∨
      Unreachable environment.idleTimeoutSeconds) :
    WindowKept host environment := by
  intro start final calls now window _ ran
  refine ⟨rowsInWindow_of_run window ran, fun request constraint => ?_⟩
  exact issue_not_violated positive tidy

theorem not_windowKept
    (longer : environment.absoluteTimeoutSeconds <
      environment.idleTimeoutSeconds)
    (reachable : ¬Unreachable environment.idleTimeoutSeconds) :
    ¬WindowKept host environment := by
  intro kept
  have next := (kept memberWorld memberWorld [] earliest
    (fun _ member => nomatch member) (List.pairwise_singleton _ _) rfl).2
  exact next memberRequest _ (memberRequest_violates longer reachable)

end Issued

/-- An accepted environment keeps the windows exactly when its idle timeout is
not the longer one, or so long that no session is ever issued. -/
theorem readIdentityEnvironment_windowKept
    (origin : JsString → Option JsString) (env : EnvironmentMap)
    (environment : IdentityEnvironment) (host : Host)
    (accepted : readIdentityEnvironment origin env = .ok environment) :
    WindowKept host environment ↔
      environment.idleTimeoutSeconds ≤ environment.absoluteTimeoutSeconds ∨
        Unreachable environment.idleTimeoutSeconds := by
  constructor
  · intro kept
    by_contra untidy
    rw [not_or, not_le] at untidy
    exact not_windowKept untidy.1 untidy.2 kept
  · exact windowKept_of_tidy (timeouts_pos accepted).1

/-! ## A short absolute timeout -/

/-- The origin of an URL of the dashboard. -/
def dashboardOrigin (url : JsString) : Option JsString :=
  if (js "https://dashboard.example.test").isPrefixOf url then
    some (js "https://dashboard.example.test")
  else none

/-- The variables of a development environment, with an absolute timeout. -/
def dashboardVariables (absoluteSeconds : JsString) : EnvironmentMap :=
  fun name =>
    ([(js "DASHBOARD_BASE_URL", js "https://dashboard.example.test"),
      (js "WORKOS_CLIENT_ID", js "client"),
      (js "WORKOS_API_KEY", js "key"),
      (js "WORKOS_WEBHOOK_SECRET", js "secret"),
      (js "WORKOS_REDIRECT_URI",
        js "https://dashboard.example.test/auth/callback"),
      (js "IDENTITY_TRANSACTION_ENCRYPTION_KEY",
        js "0123456789abcdef0123456789abcdef"),
      (js "IDENTITY_SESSION_ABSOLUTE_SECONDS", absoluteSeconds)].lookup name)

theorem readIdentityEnvironment_of_tidy
    {origin : JsString → Option JsString} {env : EnvironmentMap}
    (tidy : environmentErrors origin env = []) :
    readIdentityEnvironment origin env =
      .ok (configuredEnvironment origin env) := by
  unfold readIdentityEnvironment
  rw [tidy]
  rfl

theorem dashboardVariables_windowKept :
    WindowKept (recordedHost []) (configuredEnvironment dashboardOrigin
      (dashboardVariables (js "3600"))) :=
  (readIdentityEnvironment_windowKept dashboardOrigin
    (dashboardVariables (js "3600")) _ (recordedHost [])
    (readIdentityEnvironment_of_tidy (by decide +kernel))).mpr
    (.inl (by decide +kernel))

/-- The default idle timeout is half an hour, so an absolute timeout of ten
minutes is enough for every insert to fail. -/
theorem shortAbsoluteTimeout_not_kept :
    ¬∀ (origin : JsString → Option JsString) (env : EnvironmentMap)
        (environment : IdentityEnvironment) (host : Host),
      readIdentityEnvironment origin env = .ok environment →
      WindowKept host environment := by
  intro claim
  refine not_windowKept (by decide +kernel) ?_
    (claim dashboardOrigin (dashboardVariables (js "600")) _
      (recordedHost []) (readIdentityEnvironment_of_tidy (by decide +kernel)))
  unfold Unreachable
  decide +kernel

end BidayaxExecutive.Identity
