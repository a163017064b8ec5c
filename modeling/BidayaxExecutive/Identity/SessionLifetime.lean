import BidayaxExecutive.Identity.SessionRuns
import BidayaxExecutive.Library.Lineage

/-!
# How long a login lasts

A refresh revokes a session and issues another one, whose absolute limit is
counted from the refresh.  So the sessions that descend from a login end with
the absolute timeout of the login exactly as long as none of them is refreshed
at a later instant.
-/

namespace BidayaxExecutive.Identity

open BidayaxExecutive.Runtime JsString
open BidayaxExecutive.Library.Guards
open BidayaxExecutive.Library.Transactions
open BidayaxExecutive.Library.Scripts
open BidayaxExecutive.Library.Lineage
open BidayaxExecutive.Library.Runs

/-! ## Descendants -/

def sessionLineage (sessions : List StoredApplicationSession) :
    List (JsString × Option JsString) :=
  sessions.map fun session =>
    (session.sessionId, session.rotatedFromSessionId)

/-- The foreign key of `rotated_from_session_id`. -/
def ParentsStored (sessions : List StoredApplicationSession) : Prop :=
  ParentsKnown (sessionLineage sessions)

/-- Along the run, and at the resolution after it, no session that descends
from the login resolves once the absolute timeout of the login is over. -/
def LifetimeBounded (host : Host) (login : LoginInput)
    (completed : CompletedLogin) (start : World) (calls : List (Timed SessionCall)) :
    Prop :=
  ∀ final now token context session world,
    InOrder (login.now :: calls.map (·.now) ++ [now]) →
    run (afterCall host login.environment) start calls = .ok final →
    (resolveApplicationSession host login.environment now token).run final =
      (.ok (.ok context session), world) →
    Descends (sessionLineage final.database.sessions)
      completed.issued.session.sessionId session.sessionId →
    now.milliseconds < login.now.milliseconds +
      login.environment.absoluteTimeoutSeconds * 1000

/-- A live descendant of the login is rotated at the instant of the login
only. -/
def RotatedAtLogin (login : LoginInput) (completed : CompletedLogin)
    (world : World) (timed : Timed SessionCall) : Prop :=
  ∀ drawn session, timed.call = .rotate drawn session →
    Descends (sessionLineage world.database.sessions)
      completed.issued.session.sessionId session.sessionId →
    (∃ stored ∈ world.database.sessions,
      isLive session.sessionId stored = true) →
    timed.now.milliseconds ≤ login.now.milliseconds

/-! ## The invariant -/

/-- No descendant of the root outlives the bound. -/
structure Bounded (root : JsString) (bound : Int)
    (sessions : List StoredApplicationSession) : Prop where
  parents : ParentsStored sessions
  limits : ∀ session ∈ sessions,
    Descends (sessionLineage sessions) root session.sessionId →
    session.absoluteExpiresAt.milliseconds ≤ bound

section Invariant

variable {environment : IdentityEnvironment} {root : JsString} {bound : Int}
  {sessions revised : List StoredApplicationSession}

theorem sessionLineage_revised
    (revisions : RevisedRows environment sessions revised) :
    sessionLineage revised = sessionLineage sessions := by
  induction revisions with
  | nil =>
      rfl
  | cons first _ inductionHypothesis =>
      unfold sessionLineage at inductionHypothesis ⊢
      rw [List.map_cons, List.map_cons, inductionHypothesis,
        first.sessionId, first.rotatedFromSessionId]

theorem stable_bounded : Stable environment (Bounded root bound) := by
  intro sessions revised revisions bounded
  have lineage := sessionLineage_revised revisions
  refine ⟨?_, ?_⟩
  · unfold ParentsStored
    rw [lineage]
    exact bounded.parents
  · intro session member descends
    rw [lineage] at descends
    rcases exists_of_revised revisions member with ⟨old, oldMember, revision⟩
    rw [revision.absoluteExpiresAt]
    rw [revision.sessionId] at descends
    exact bounded.limits old oldMember descends

theorem not_mem_sessionLineage {session : StoredApplicationSession}
    (insertable : Insertable sessions session) :
    session.sessionId ∉ (sessionLineage sessions).map Prod.fst := by
  intro used
  simp only [sessionLineage, List.map_map, List.mem_map,
    Function.comp_apply] at used
  rcases used with ⟨old, member, same⟩
  exact insertable.freshId old member same

theorem parentsStored_insert {session : StoredApplicationSession}
    (parents : ParentsStored sessions)
    (insertable : Insertable sessions session) :
    ParentsStored (sessions ++ [session]) := by
  unfold ParentsStored sessionLineage
  rw [List.map_append]
  apply ParentsKnown.insert parents
  intro parent isParent different
  rcases insertable.parentKnown parent isParent different with
    ⟨old, member, same⟩
  rw [← same]
  exact List.mem_map.mpr ⟨_, List.mem_map.mpr ⟨old, member, rfl⟩, rfl⟩

theorem bounded_insert {session : StoredApplicationSession}
    (bounded : Bounded root bound sessions)
    (insertable : Insertable sessions session)
    (limit : session.sessionId = root ∨
        (∃ parent, session.rotatedFromSessionId = some parent ∧
          Descends (sessionLineage sessions) root parent) →
      session.absoluteExpiresAt.milliseconds ≤ bound) :
    Bounded root bound (sessions ++ [session]) := by
  refine ⟨parentsStored_insert bounded.parents insertable, ?_⟩
  intro other member descends
  unfold sessionLineage at descends
  rw [List.map_append] at descends
  have unused := not_mem_sessionLineage insertable
  have origin := descends_insert bounded.parents unused descends
  cases List.mem_append.mp member with
  | inl older =>
      cases origin with
      | inl descends =>
          exact bounded.limits other older descends
      | inr isFresh =>
          exact absurd isFresh.1 (insertable.freshId other older)
  | inr added =>
      rw [List.mem_singleton.mp added] at origin ⊢
      cases origin with
      | inl descends =>
          cases descends.eq_or_mem with
          | inl isRoot =>
              exact limit (.inl isRoot)
          | inr used =>
              exact absurd used unused
      | inr isFresh =>
          exact limit (.inr isFresh.2)

theorem bounded_of_unused (parents : ParentsStored sessions)
    (unused : root ∉ (sessionLineage sessions).map Prod.fst) :
    Bounded root bound sessions := by
  refine ⟨parents, ?_⟩
  intro session member descends
  have isRoot := eq_of_descends parents unused descends
  refine absurd (List.mem_map.mpr ⟨_, List.mem_map.mpr
    ⟨session, member, rfl⟩, ?_⟩) unused
  exact isRoot

end Invariant

/-! ## Steps and runs -/

section Steps

variable {host : Host} {login : LoginInput} {completed : CompletedLogin}

/-- The limit of the login. -/
def loginLimit (login : LoginInput) : Int :=
  login.now.milliseconds + login.environment.absoluteTimeoutSeconds * 1000

/-- The session of the login is stored, and its limit holds for all of its
descendants. -/
structure LoginBounded (login : LoginInput) (completed : CompletedLogin)
    (sessions : List StoredApplicationSession) : Prop where
  stored : completed.issued.session.sessionId ∈
    (sessionLineage sessions).map Prod.fst
  bounded : Bounded completed.issued.session.sessionId (loginLimit login)
    sessions

theorem stable_loginBounded :
    Stable login.environment (LoginBounded login completed) := by
  intro sessions revised revisions holds
  refine ⟨?_, stable_bounded sessions revised revisions holds.bounded⟩
  rw [sessionLineage_revised revisions]
  exact holds.stored

/-- The property that carries a rotation from its first step to its last. -/
def RotationBounded (login : LoginInput) (completed : CompletedLogin)
    (now : TimeValue) (session : SessionReference)
    (sessions : List StoredApplicationSession) : Prop :=
  LoginBounded login completed sessions ∧
    (Descends (sessionLineage sessions) completed.issued.session.sessionId
      session.sessionId → now.milliseconds ≤ login.now.milliseconds)

theorem stable_rotationBounded {now : TimeValue}
    {session : SessionReference} :
    Stable login.environment
      (RotationBounded login completed now session) := by
  intro sessions revised revisions holds
  refine ⟨stable_loginBounded sessions revised revisions holds.1, ?_⟩
  rw [sessionLineage_revised revisions]
  exact holds.2

theorem admits_rotationBounded {now : TimeValue} {drawn : DrawnTokens}
    {session : SessionReference} :
    Admits (RotationBounded login completed now session)
      (rotatedIssue
        { environment := login.environment
          now := now
          drawn := drawn
          session := session }) := by
  intro new isNew sessions holds _ insertable
  have limit := (newSession_of_eq_ok isNew).absoluteExpiresAt
  have parent := (newSession_of_eq_ok isNew).rotatedFromSessionId
  change new.absoluteExpiresAt.milliseconds = now.milliseconds +
    login.environment.absoluteTimeoutSeconds * 1000 at limit
  change new.rotatedFromSessionId = some session.sessionId at parent
  rcases holds with ⟨⟨stored, bounded⟩, early⟩
  have unused := not_mem_sessionLineage insertable
  refine ⟨⟨?_, ?_⟩, ?_⟩
  · unfold sessionLineage
    rw [List.map_append, List.map_append]
    exact List.mem_append_left _ stored
  · apply bounded_insert bounded insertable
    intro origin
    cases origin with
    | inl isRoot =>
        rw [isRoot] at unused
        exact absurd stored unused
    | inr rotated =>
        rcases rotated with ⟨ancestor, isAncestor, descends⟩
        rw [parent] at isAncestor
        rw [← Option.some.inj isAncestor] at descends
        have early := early descends
        unfold loginLimit
        omega
  · intro descends
    apply early
    unfold sessionLineage at descends
    rw [List.map_append] at descends
    cases descends_insert bounded.parents unused descends with
    | inl descends =>
        exact descends
    | inr isFresh =>
        rcases isFresh with ⟨_, origin, isOrigin, descends⟩
        rw [parent] at isOrigin
        rw [Option.some.inj isOrigin]
        exact descends

/-- A call preserves the bound of the login, unless it rotates a descendant
too late. -/
theorem loginBounded_callService {world : World} {timed : Timed SessionCall}
    (holds : LoginBounded login completed world.database.sessions)
    (early : RotatedAtLogin login completed world timed) :
    LoginBounded login completed
      ((callService host login.environment timed.now timed.call).run
        world).2.database.sessions := by
  rcases timed with ⟨now, transactional, call⟩
  cases call with
  | resolve sessionToken =>
      exact (preserves_discard (preserves_resolveApplicationSession
        stable_loginBounded now sessionToken)).run holds
  | rotate drawn session =>
      by_cases live : ∃ stored ∈ world.database.sessions,
          isLive session.sessionId stored = true
      · have rotation : RotationBounded login completed now session
            world.database.sessions :=
          ⟨holds, fun descends => early drawn session rfl descends live⟩
        exact ((preserves_discard (preserves_rotateApplicationSession
          stable_rotationBounded admits_rotationBounded)).run rotation).1
      · have replayed := rotateApplicationSession_of_dead
          ⟨login.environment, now, drawn, session⟩
          fun stored member => eq_false_of_ne_true fun isLive =>
            live ⟨stored, member, isLive⟩
        simp only [callService, discard, Script.run_bind, bind_apply,
          replayed]
        exact holds
  | revoke sessionId tenantId userId =>
      exact (preserves_revokeApplicationSession stable_loginBounded _).run
        holds

theorem loginBounded_afterCall {world next : World}
    {timed : Timed SessionCall}
    (holds : LoginBounded login completed world.database.sessions)
    (early : RotatedAtLogin login completed world timed)
    (stepped : afterCall host login.environment world timed = .ok next) :
    LoginBounded login completed next.database.sessions := by
  rw [← Except.ok.inj stepped]
  exact afterService_invariant (loginBounded_callService holds early) holds

end Steps

/-! ## The login -/

section Login

variable {platform : IdentityPlatform} {login : LoginInput}
  {completed : CompletedLogin}

theorem stable_parentsStored {environment : IdentityEnvironment} :
    Stable environment ParentsStored := by
  intro sessions revised revisions parents
  unfold ParentsStored
  rw [sessionLineage_revised revisions]
  exact parents

/-- The session that a login issues is the first of its descendants. -/
theorem loginBounded_of_login {world start : World}
    (parents : ParentsStored world.database.sessions)
    (loggedIn : (completeIdentityLogin platform login).run world =
      (.ok completed, start)) :
    LoginBounded login completed start.database.sessions := by
  have stable : Stable login.environment ParentsStored :=
    stable_parentsStored
  rcases yields_completeIdentityLogin stable loggedIn parents with
    ⟨issue, before, after, within⟩
  rcases yields_issueApplicationSession within.issues with
    ⟨session, new, _, insertable, isSession, sessions⟩
  have parents := within.holds
  have unused := not_mem_sessionLineage insertable
  have limit := (newSession_of_eq_ok new).absoluteExpiresAt
  rw [within.sameInstant, within.sameEnvironment] at limit
  apply stable_loginBounded _ _ within.revisions
  rw [sessions]
  refine ⟨?_, ?_⟩
  · rw [isSession]
    unfold sessionLineage
    rw [List.map_append, List.map_append]
    exact List.mem_append_right _ List.mem_cons_self
  · rw [isSession]
    exact bounded_insert (bounded_of_unused parents unused) insertable
      fun _ => limit.le

end Login

/-! ## Resolved sessions -/

section Resolved

variable {host : Host} {environment : IdentityEnvironment}
  {now : TimeValue} {context : TrustedSettingsAuthorizationContext}
  {session stored : ApplicationSession} {world final : World}

theorem sessionId_of_admitted
    (admitted : Yields (admitSession host environment stored now).run world
      (.ok context session) final) :
    session.sessionId = stored.sessionId := by
  rcases Script.yields_run_bind.mp admitted with ⟨found, _, _, rest⟩
  cases found with
  | none =>
      exact nomatch (Script.yields_run_pure.mp rest).1
  | some identity =>
      by_cases active : identity.status ≠ .active
      · simp only [if_pos active] at rest
        exact nomatch (Script.yields_run_pure.mp rest).1
      · simp only [if_neg active] at rest
        rcases Script.yields_run_bind.mp rest with ⟨memberships, _, _, rest⟩
        split at rest
        · exact nomatch (Script.yields_run_pure.mp rest).1
        · rcases Script.yields_run_bind.mp rest with ⟨_, _, _, rest⟩
          rcases Script.yields_run_bind.mp rest with ⟨_, _, _, rest⟩
          rcases Script.yields_run_bind.mp rest with ⟨_, _, _, rest⟩
          rcases Script.yields_run_bind.mp rest with ⟨_, _, _, rest⟩
          have same := (Script.yields_run_pure.mp rest).1
          rw [← (SessionResolution.ok.inj same).2]

/-- Only a stored session that has not expired resolves. -/
theorem exists_of_resolved {token : Option JsString}
    (resolved : (resolveApplicationSession host environment now token).run
      world = (.ok (.ok context session), final)) :
    ∃ stored ∈ world.database.sessions,
      stored.sessionId = session.sessionId ∧
        isExpired stored.toApplicationSession now = false := by
  have yields : Yields (resolveApplicationSession host environment now
    token).run world (.ok context session) final := resolved
  unfold resolveApplicationSession at yields
  split at yields
  · exact nomatch (Script.yields_run_pure.mp yields).1
  · rcases Script.yields_run_bind.mp yields with ⟨found, _, reads, rest⟩
    cases found with
    | none =>
        exact nomatch (Script.yields_run_pure.mp rest).1
    | some found =>
        have row := Except.ok.inj (Prod.mk.inj (yields_execute.mp reads).1).1
        rcases Option.map_eq_some_iff.mp row with ⟨stored, search, same⟩
        by_cases expired : isExpired found now = true
        · simp only [if_pos expired] at rest
          rcases Script.yields_run_bind.mp rest with ⟨_, _, _, rest⟩
          exact nomatch (Script.yields_run_pure.mp rest).1
        · simp only [if_neg expired] at rest
          refine ⟨stored, List.mem_of_find?_eq_some search, ?_, ?_⟩
          · rw [sessionId_of_admitted rest, ← same]
          · rw [same]
            exact eq_false_of_ne_true expired

end Resolved

/-! ## The bound -/

/-- The sessions of a login end with its absolute timeout in every run that
rotates its descendants at the instant of the login only. -/
theorem completeIdentityLogin_lifetimeBounded (host : Host)
    (platform : IdentityPlatform) (login : LoginInput)
    (completed : CompletedLogin) (world start : World)
    (calls : List (Timed SessionCall))
    (parents : ParentsStored world.database.sessions)
    (loggedIn : (completeIdentityLogin platform login).run world =
      (.ok completed, start))
    (early : Along (afterCall host login.environment)
      (RotatedAtLogin login completed) start calls) :
    LifetimeBounded host login completed start calls := by
  intro final now token context session last _ ran resolved descends
  have bounded : LoginBounded login completed final.database.sessions :=
    run_invariant (afterCall host login.environment)
      (fun world => LoginBounded login completed world.database.sessions)
      loginBounded_afterCall (loginBounded_of_login parents loggedIn) early
      ran
  rcases exists_of_resolved resolved with ⟨stored, member, same, alive⟩
  rw [← same] at descends
  have limit := bounded.bounded.limits stored member descends
  simp only [isExpired, Bool.or_eq_false_iff, decide_eq_false_iff_not,
    not_le] at alive
  unfold loginLimit at limit
  omega

/-! ## A refreshed login -/

/-- A refresh of the session of that login. -/
def memberRefresh (now : TimeValue) : Timed SessionCall where
  now := now
  transactional := true
  call := .rotate ⟨js "second token", js "second csrf", js "second"⟩
    { authenticationMethod := js "Passkey"
      providerSessionId := some (js "session_p")
      sessionId := js "ses_first"
      tenantId := js "tenant"
      userId := js "usr_member" }

def loggedInId (outcome : Except IdentityFailure CompletedLogin) :
    Option JsString :=
  match outcome with
  | .ok completed => some completed.issued.session.sessionId
  | .error _ => none

theorem memberLogin_completes :
    loggedInId
        ((completeIdentityLogin plainPlatform memberLogin).run
          memberWorld).1 =
      some (js "ses_first") := by
  decide +kernel

theorem exists_memberLogin :
    ∃ completed, (completeIdentityLogin plainPlatform memberLogin).run
        memberWorld =
      (.ok completed, ((completeIdentityLogin plainPlatform memberLogin).run
        memberWorld).2) ∧
      completed.issued.session.sessionId = js "ses_first" := by
  have completes := memberLogin_completes
  rcases ran : (completeIdentityLogin plainPlatform memberLogin).run
    memberWorld with ⟨outcome, start⟩
  rw [ran] at completes
  cases outcome with
  | error failure =>
      exact nomatch completes
  | ok completed =>
      exact ⟨completed, rfl, Option.some.inj completes⟩

/-- A refresh at once does not move the limit. -/
theorem memberLogin_lifetimeBounded :
    ∃ completed start,
      (completeIdentityLogin plainPlatform memberLogin).run memberWorld =
        (.ok completed, start) ∧
      LifetimeBounded (recordedHost []) memberLogin completed start
        [memberRefresh .epoch] := by
  rcases exists_memberLogin with ⟨completed, ran, _⟩
  refine ⟨completed, _, ran, ?_⟩
  apply completeIdentityLogin_lifetimeBounded (recordedHost [])
    plainPlatform memberLogin completed memberWorld _ [memberRefresh .epoch]
    (fun _ _ member => nomatch member) ran
  exact ⟨fun _ _ _ _ _ => le_rfl, fun _ _ => trivial⟩

/-- The world after the member has logged in and refreshed half an hour
later. -/
def refreshedWorld : World :=
  afterService true
    (callService (recordedHost []) hourEnvironment
      (secondsIn 1800 (by decide)) (memberRefresh .epoch).call)
    ((completeIdentityLogin plainPlatform memberLogin).run memberWorld).2

def resolvedId (outcome : Except IdentityFailure SessionResolution) :
    Option JsString :=
  match outcome with
  | .ok (.ok _ session) => some session.sessionId
  | _ => none

theorem refreshedWorld_resolves :
    resolvedId ((resolveApplicationSession (recordedHost []) hourEnvironment
        (secondsIn 3600 (by decide)) (some (js "second token"))).run
        refreshedWorld).1 = some (js "ses_second") ∧
      (js "ses_second", some (js "ses_first")) ∈
        sessionLineage refreshedWorld.database.sessions := by
  decide +kernel

theorem exists_refreshedResolution :
    ∃ context session world,
      (resolveApplicationSession (recordedHost []) hourEnvironment
          (secondsIn 3600 (by decide)) (some (js "second token"))).run
          refreshedWorld =
        (.ok (.ok context session), world) ∧
      session.sessionId = js "ses_second" := by
  have resolves := refreshedWorld_resolves.1
  rcases ran : (resolveApplicationSession (recordedHost []) hourEnvironment
    (secondsIn 3600 (by decide)) (some (js "second token"))).run
    refreshedWorld with ⟨outcome, world⟩
  rw [ran] at resolves
  rcases outcome with failure | ⟨context, session⟩ | refusal
  · exact nomatch resolves
  · exact ⟨context, session, world, rfl, Option.some.inj resolves⟩
  · exact nomatch resolves

/-- The refreshed session resolves an hour after the login, which is when the
login is over. -/
theorem refreshedLogin_not_bounded :
    ¬∀ (host : Host) (platform : IdentityPlatform) (login : LoginInput)
        (completed : CompletedLogin) (world start : World)
        (calls : List (Timed SessionCall)),
      ParentsStored world.database.sessions →
      (completeIdentityLogin platform login).run world =
        (.ok completed, start) →
      LifetimeBounded host login completed start calls := by
  intro claim
  rcases exists_memberLogin with ⟨completed, ran, isFirst⟩
  rcases exists_refreshedResolution with
    ⟨context, session, world, resolved, isSecond⟩
  have bounded := claim (recordedHost []) plainPlatform memberLogin completed
    memberWorld _ [memberRefresh (secondsIn 1800 (by decide))]
    (fun _ _ member => nomatch member) ran
  have late := bounded refreshedWorld (secondsIn 3600 (by decide)) _ context
    session world (by decide) rfl resolved
  rw [isFirst, isSecond] at late
  exact absurd (late (.child refreshedWorld_resolves.2 .root)) (by decide)

end BidayaxExecutive.Identity
