import BidayaxExecutive.Identity.AuditTrail
import BidayaxExecutive.Identity.SessionTable

/-!
# Admission of identities

After the provider has answered, the login writes the user and the account,
chooses a membership, issues a session and records what it did.  All of this
succeeds when the database admits the identity.
-/

namespace BidayaxExecutive.Identity

open BidayaxExecutive.Runtime JsString
open BidayaxExecutive.Library.Transactions
open BidayaxExecutive.Library.Scripts

/-- The tenant that the organisation of the identity is linked with. -/
def linkedTenant (database : IdentityDatabase)
    (identity : ProviderIdentity) : Option JsString :=
  (identity.providerTenantId.filter (!·.isEmpty)).bind
    fun providerTenantId => (database.tenantLinks.find?
      (·.providerTenantId == providerTenantId)).map (·.tenantId)

/-- The database admits the identity: it is verified, belongs to an active
user or to nobody, collides with no other row, and has a membership to issue a
session for. -/
structure Admissible (platform : IdentityPlatform) (input : LoginInput) (database : IdentityDatabase)
    (identity : ProviderIdentity) (userId : JsString)
    (membership : TenantMembershipRow) : Prop where
  verified : identity.emailVerified = true
  known :
    (∃ row, database.identities.find?
        (·.providerSubject == identity.providerSubject) = some row ∧
      row.userId = userId ∧ row.status = .active) ∨
    (database.identities.find?
        (·.providerSubject == identity.providerSubject) = none ∧
      userId = js "usr_" ++ identity.providerSubject ∧
      ∀ row ∈ database.identities, row.userId ≠ userId)
  email : ∀ row ∈ database.identities, row.userId ≠ userId →
    row.normalizedEmail ≠ normalizeEmail platform.lower identity.email
  account : database.providerAccounts.any
      (·.providerSubject == identity.providerSubject) = true ∨
    ∀ account ∈ database.providerAccounts, account.providerAccountId ≠
      (providerAccount identity userId input.now).providerAccountId
  chosen : chooseMembership
    (database.memberships.filter fun membership =>
      membership.userId == userId && membership.status == .active &&
        membership.revokedAt.isNone)
    (linkedTenant database identity) = .ok membership
  active : ∀ row ∈ database.memberships,
    row.tenantId = membership.tenantId → row.userId = userId →
    row.status = .active ∧ row.revokedAt = none
  tenant : membership.tenantId ∈ database.tenants
  positive : 0 < input.environment.idleTimeoutSeconds
  ordered : input.environment.idleTimeoutSeconds ≤
    input.environment.absoluteTimeoutSeconds
  expires : input.now.milliseconds +
    input.environment.absoluteTimeoutSeconds * 1000 ≤ 8640000000000000
  fresh : ∀ session ∈ database.sessions,
    session.sessionId ≠ js "ses_" ++ input.drawn.sessionIdToken ∧
      session.sessionTokenHash ≠ sha256 input.drawn.sessionToken

/-! ## Statements that succeed -/

section Admitted

variable {platform : IdentityPlatform} {input : LoginInput}
  {database : IdentityDatabase} {identity : ProviderIdentity}
  {userId : JsString} {membership : TenantMembershipRow}

/-- The user is stored as an active one. -/
def StoredActive (identities : List UserIdentityRow) (userId : JsString) :
    Prop :=
  ∃ row, identities.find? (·.userId == userId) = some row ∧
    row.status = .active

theorem find?_map_replace (row : UserIdentityRow)
    {existing : UserIdentityRow} {identities : List UserIdentityRow}
    (member : existing ∈ identities)
    (same : row.userId = existing.userId) :
    (identities.map fun other =>
        if other.userId = existing.userId then row else other).find?
      (·.userId == existing.userId) = some row := by
  induction identities with
  | nil =>
      exact nomatch member
  | cons first rest inductionHypothesis =>
      rw [List.map_cons, List.find?_cons]
      by_cases isIt : first.userId = existing.userId
      · rw [if_pos isIt, same, beq_self_eq_true]
      · rw [if_neg isIt, beq_eq_false_iff_ne.mpr isIt]
        apply inductionHypothesis
        cases List.mem_cons.mp member with
        | inl isFirst =>
            rw [isFirst] at isIt
            exact absurd rfl isIt
        | inr later =>
            exact later

/-- The database after the identity has been written. -/
abbrev withUser (database : IdentityDatabase)
    (identities : List UserIdentityRow)
    (accounts : List IdentityProviderAccount) : IdentityDatabase :=
  { database with
    identities := identities
    providerAccounts := accounts }

/-- The row of a user who logs in again. -/
def updatedIdentity (lower : JsString → JsString)
    (identity : ProviderIdentity) (now : TimeValue)
    (existing : UserIdentityRow) : UserIdentityRow :=
  { existing with
    email := identity.email
    normalizedEmail := normalizeEmail lower identity.email
    emailVerified := identity.emailVerified
    displayName := identity.displayName
    avatarUrl := identity.avatarUrl
    updatedAt := now
    lastAuthenticatedAt := now }

/-- The row of a user who logs in for the first time. -/
def createdIdentity (lower : JsString → JsString)
    (identity : ProviderIdentity) (now : TimeValue) : UserIdentityRow where
  userId := js "usr_" ++ identity.providerSubject
  displayName := identity.displayName
  status := .active
  providerSubject := identity.providerSubject
  email := identity.email
  normalizedEmail := normalizeEmail lower identity.email
  emailVerified := identity.emailVerified
  avatarUrl := identity.avatarUrl
  createdAt := now
  updatedAt := now
  lastAuthenticatedAt := now

theorem upsertProviderIdentity_of_existing {existing : UserIdentityRow}
    (found : database.identities.find?
      (·.providerSubject == identity.providerSubject) = some existing)
    (active : existing.status = .active)
    (free : ∀ row ∈ database.identities, row.userId ≠ existing.userId →
      row.normalizedEmail ≠ normalizeEmail platform.lower identity.email) :
    upsertProviderIdentity platform.lower identity input.now database =
      (.ok (updatedIdentity platform.lower identity input.now existing),
        { database with
          identities := database.identities.map fun other =>
            if other.userId = existing.userId then
              updatedIdentity platform.lower identity input.now existing
            else other }) := by
  have untaken : ¬database.identities.any (fun other =>
      other.userId ≠ existing.userId ∧ other.normalizedEmail =
        normalizeEmail platform.lower identity.email) = true := by
    intro taken
    rcases List.any_eq_true.mp taken with ⟨other, member, collides⟩
    have collides := of_decide_eq_true collides
    exact free other member collides.1 collides.2
  apply statement_eq_ok.mpr
  simp only [found, if_neg untaken]
  unfold revokeIdentitySessionsOnAccessChange
  rw [if_neg (by rw [active]; decide)]
  rfl

theorem upsertProviderIdentity_of_missing
    (found : database.identities.find?
      (·.providerSubject == identity.providerSubject) = none)
    (unused : ∀ row ∈ database.identities,
      row.userId ≠ js "usr_" ++ identity.providerSubject)
    (free : ∀ row ∈ database.identities,
      row.normalizedEmail ≠ normalizeEmail platform.lower identity.email) :
    upsertProviderIdentity platform.lower identity input.now database =
      (.ok (createdIdentity platform.lower identity input.now),
        { database with
          identities := database.identities ++
            [createdIdentity platform.lower identity input.now] }) := by
  have unusedId : ¬database.identities.any (fun row =>
      row.userId == js "usr_" ++ identity.providerSubject) = true := by
    simpa using unused
  have untaken : ¬database.identities.any (fun row =>
      row.normalizedEmail ==
        normalizeEmail platform.lower identity.email) = true := by
    simpa using free
  apply statement_eq_ok.mpr
  simp only [found, if_neg unusedId, if_neg untaken]
  rfl

theorem upsertProviderIdentity_of_admissible
    (admissible : Admissible platform input database identity userId
      membership) :
    ∃ user identities,
      upsertProviderIdentity platform.lower identity input.now database =
          (.ok user, { database with identities := identities }) ∧
        user.userId = userId ∧ user.status = .active ∧
        StoredActive identities userId := by
  cases admissible.known with
  | inl existing =>
      rcases existing with ⟨row, found, isIt, active⟩
      have free := admissible.email
      rw [← isIt] at free ⊢
      have stored := find?_map_replace
        (updatedIdentity platform.lower identity input.now row)
        (List.mem_of_find?_eq_some found) rfl
      exact ⟨_, _, upsertProviderIdentity_of_existing found active free, rfl,
        active, _, stored, active⟩
  | inr missing =>
      rcases missing with ⟨found, isNew, unused⟩
      have free : ∀ row ∈ database.identities, row.normalizedEmail ≠
          normalizeEmail platform.lower identity.email :=
        fun row member => admissible.email row member (unused row member)
      rw [isNew] at unused ⊢
      have absent : database.identities.find?
          (·.userId == js "usr_" ++ identity.providerSubject) = none := by
        simpa using unused
      refine ⟨_, _, upsertProviderIdentity_of_missing found unused free, rfl,
        rfl, createdIdentity platform.lower identity input.now, ?_, rfl⟩
      rw [List.find?_append, absent]
      simp [createdIdentity]

theorem saveProviderAccount_of_admissible {identities : List UserIdentityRow}
    (admissible : Admissible platform input database identity userId
      membership)
    (stored : StoredActive identities userId) :
    ∃ accounts,
      saveProviderAccount (providerAccount identity userId input.now)
          { database with identities := identities } =
        (.ok (), withUser database identities accounts) := by
  unfold saveProviderAccount statement
  by_cases known : database.providerAccounts.any
      (·.providerSubject == identity.providerSubject) = true
  · simp only [providerAccount, known, if_true]
    exact ⟨_, rfl⟩
  · have unused : ¬database.providerAccounts.any (fun account =>
        account.providerAccountId ==
          (providerAccount identity userId input.now).providerAccountId) =
        true := by
      simpa using admissible.account.resolve_left known
    rcases stored with ⟨row, found, _⟩
    have isIt := List.find?_some found
    have isUser : (!identities.any (·.userId == userId)) = false := by
      simpa using ⟨row, List.mem_of_find?_eq_some found,
        eq_of_beq isIt⟩
    rw [providerAccount] at unused
    simp only [providerAccount, if_neg known, if_neg unused, isUser,
      Bool.false_eq_true, if_false]
    exact ⟨_, rfl⟩

/-! ## Services that succeed -/

theorem yields_persistProviderIdentity
    (admissible : Admissible platform input database identity userId
      membership) (exchanges : List ProviderExchange) :
    ∃ user identities accounts,
      Yields (persistProviderIdentity platform identity input.now).run
          ⟨database, exchanges⟩ user
          ⟨withUser database identities accounts, exchanges⟩ ∧
        user.userId = userId ∧ StoredActive identities userId := by
  rcases upsertProviderIdentity_of_admissible admissible with
    ⟨user, identities, upserts, isUser, active, stored⟩
  rcases saveProviderAccount_of_admissible admissible stored with
    ⟨accounts, saves⟩
  refine ⟨user, identities, accounts, ?_, isUser, stored⟩
  unfold persistProviderIdentity
  rw [if_neg (by rw [admissible.verified]; decide)]
  refine Script.yields_run_bind.mpr
    ⟨user, _, yields_execute_of_eq upserts exchanges, ?_⟩
  rw [if_neg (not_not.mpr active), isUser]
  exact Script.yields_run_bind.mpr
    ⟨(), _, yields_execute_of_eq saves exchanges,
      Script.yields_run_pure.mpr ⟨rfl, rfl⟩⟩

theorem yields_resolveProviderTenant (identity : ProviderIdentity)
    (world : World) :
    Yields (resolveProviderTenant identity).run world
      (linkedTenant world.database identity) world := by
  unfold resolveProviderTenant linkedTenant
  cases identity.providerTenantId.filter (!·.isEmpty) with
  | none =>
      exact Script.yields_run_pure.mpr ⟨rfl, rfl⟩
  | some providerTenantId =>
      exact yields_execute.mpr ⟨rfl, rfl⟩

theorem mem_of_chooseMembership {memberships : List TenantMembershipRow}
    {linked : Option JsString}
    (chosen : chooseMembership memberships linked = .ok membership) :
    membership ∈ memberships := by
  unfold chooseMembership at chosen
  split at chosen
  · split at chosen
    · rename_i found
      rw [← Except.ok.inj chosen]
      exact List.mem_of_find?_eq_some found
    · exact nomatch chosen
  · split at chosen
    · exact nomatch chosen
    · rw [← Except.ok.inj chosen]
      exact List.mem_cons_self
    · exact nomatch chosen

theorem exists_saveAuditEvent {event : IdentityAuditInput}
    (stored : ReferencesStored database event) :
    ∃ events, saveAuditEvent (createIdentityAuditEvent event) database =
      (.ok (), { database with auditEvents := events }) := by
  by_cases known : database.auditEvents.any
      (·.eventId == (createIdentityAuditEvent event).eventId) = true
  · exact ⟨_, saveAuditEvent_of_known known⟩
  · exact ⟨_, saveAuditEvent_of_referencesStored known stored⟩

theorem yields_saveAuditEvents {events : List IdentityAuditInput}
    (stored : ∀ event ∈ events, ReferencesStored database event)
    (exchanges : List ProviderExchange) :
    ∃ final, Yields (saveAuditEvents events).run ⟨database, exchanges⟩ ()
      final := by
  induction events generalizing database with
  | nil =>
      exact ⟨_, Script.yields_run_pure.mpr ⟨rfl, rfl⟩⟩
  | cons event rest inductionHypothesis =>
      rcases exists_saveAuditEvent
          (stored event List.mem_cons_self) with ⟨rows, saves⟩
      have later : ∀ event ∈ rest, ReferencesStored
          { database with auditEvents := rows } event := by
        intro event member
        have references := stored event (List.mem_cons_of_mem _ member)
        exact ⟨references.user, references.tenant, references.session⟩
      rcases inductionHypothesis later with ⟨final, yields⟩
      exact ⟨final, Script.yields_run_bind.mpr
        ⟨(), _, yields_execute_of_eq saves exchanges, yields⟩⟩

/-! ## The session of the login -/

/-- What the login asks for when its session is issued. -/
structure LoginIssue (input : LoginInput) (userId : JsString)
    (membership : TenantMembershipRow) (issue : IssueInput) : Prop where
  now : issue.now = input.now
  sameEnvironment : issue.environment = input.environment
  drawn : issue.drawn = input.drawn
  rotatedFromSessionId : issue.rotatedFromSessionId = none
  tenantId : issue.tenantId = membership.tenantId
  userId : issue.userId = userId

theorem newApplicationSession_of_admissible {issue : IssueInput}
    (admissible : Admissible platform input database identity userId
      membership) (isLogin : LoginIssue input userId membership issue) :
    ∃ session, newApplicationSession issue = .ok session ∧
      checkSession session = .ok () ∧
      session.tenantId = membership.tenantId ∧ session.userId = userId ∧
      session.sessionTokenHash = sha256 input.drawn.sessionToken := by
  have positive := admissible.positive
  have ordered := admissible.ordered
  have expires := admissible.expires
  rw [← isLogin.now, ← isLogin.sameEnvironment] at expires
  rw [← isLogin.sameEnvironment] at positive ordered
  have idle : ∃ later, secondsAfter issue.now
      issue.environment.idleTimeoutSeconds = .ok later :=
    secondsAfter_of_reachable (by omega)
  rcases idle with ⟨idleExpiresAt, idle⟩
  rcases secondsAfter_of_reachable expires with
    ⟨absoluteExpiresAt, absolute⟩
  have new : ∃ session, newApplicationSession issue = .ok session ∧
      session.tenantId = issue.tenantId ∧ session.userId = issue.userId ∧
      session.sessionTokenHash = sha256 issue.drawn.sessionToken := by
    unfold newApplicationSession
    rw [idle, absolute]
    exact ⟨_, rfl, rfl, rfl, rfl⟩
  rcases new with ⟨session, new, tenant, user, token⟩
  rw [isLogin.tenantId] at tenant
  rw [isLogin.userId] at user
  rw [isLogin.drawn] at token
  exact ⟨session, new, checkSession_of_le positive ordered new, tenant, user,
    token⟩

theorem enforceActive_of_admissible {identities : List UserIdentityRow}
    (accounts : List IdentityProviderAccount) {session : StoredApplicationSession}
    (admissible : Admissible platform input database identity userId
      membership)
    (stored : StoredActive identities userId)
    (tenant : session.tenantId = membership.tenantId)
    (user : session.userId = userId) :
    enforceActiveIdentitySession (withUser database identities accounts)
        session =
      .ok () := by
  rcases stored with ⟨row, found, active⟩
  have notInactive : ¬(identities.find? (·.userId == session.userId)).any
      (·.status ≠ .active) = true := by
    rw [user, found]
    simp [active]
  have notRevoked : ¬(database.memberships.find? fun membership =>
      membership.tenantId == session.tenantId &&
        membership.userId == session.userId).any (fun membership =>
      membership.status ≠ .active ∨ membership.revokedAt.isSome) = true := by
    cases search : database.memberships.find? fun membership =>
        membership.tenantId == session.tenantId &&
          membership.userId == session.userId with
    | none =>
        simp
    | some other =>
        have isIt := List.find?_some search
        simp only [Bool.and_eq_true, beq_iff_eq] at isIt
        rw [tenant, user] at isIt
        have unrevoked := admissible.active other
          (List.mem_of_find?_eq_some search) isIt.1 isIt.2
        simp [unrevoked.1, unrevoked.2]
  exact (if_neg notInactive).trans (if_neg notRevoked)

theorem sessionReferences_of_admissible
    (identities : List UserIdentityRow)
    (accounts : List IdentityProviderAccount)
    {session : StoredApplicationSession}
    (admissible : Admissible platform input database identity userId
      membership)
    (tenant : session.tenantId = membership.tenantId)
    (user : session.userId = userId)
    (sessionId : session.sessionId =
      js "ses_" ++ input.drawn.sessionIdToken)
    (token : session.sessionTokenHash = sha256 input.drawn.sessionToken)
    (noParent : session.rotatedFromSessionId = none) :
    sessionReferences (withUser database identities accounts) session =
      .ok () := by
  have unusedId : ¬database.sessions.any
      (·.sessionId == session.sessionId) = true := by
    rw [sessionId]
    simpa using fun row member => (admissible.fresh row member).1
  have unusedToken : ¬database.sessions.any
      (·.sessionTokenHash == session.sessionTokenHash) = true := by
    rw [token]
    simpa using fun row member => (admissible.fresh row member).2
  have member := List.mem_filter.mp
    (mem_of_chooseMembership admissible.chosen)
  have isMember : ¬(!database.memberships.any fun membership =>
      membership.tenantId == session.tenantId &&
        membership.userId == session.userId) = true := by
    have isUser := member.2
    simp only [Bool.and_eq_true, beq_iff_eq] at isUser
    rw [tenant, user]
    simpa using ⟨membership, member.1, rfl, isUser.1.1⟩
  unfold sessionReferences
  rw [if_neg unusedId, if_neg unusedToken, noParent]
  exact if_neg isMember

theorem completes_issueApplicationSession {issue : IssueInput}
    {identities : List UserIdentityRow}
    (accounts : List IdentityProviderAccount)
    (admissible : Admissible platform input database identity userId
      membership)
    (stored : StoredActive identities userId)
    (isLogin : LoginIssue input userId membership issue)
    (exchanges : List ProviderExchange) :
    ∃ issued session,
      Yields (issueApplicationSession issue).run
          ⟨withUser database identities accounts, exchanges⟩ issued
          ⟨{ withUser database identities accounts with
              sessions := database.sessions ++ [session] }, exchanges⟩ ∧
        issued.session.sessionId = session.sessionId := by
  rcases newApplicationSession_of_admissible admissible isLogin with
    ⟨session, new, checked, tenant, user, token⟩
  have built := newSession_of_eq_ok new
  have sessionId := built.sessionId
  have noParent := built.rotatedFromSessionId
  rw [isLogin.drawn] at sessionId
  rw [isLogin.rotatedFromSessionId] at noParent
  have active := enforceActive_of_admissible accounts admissible stored
    tenant user
  have references := sessionReferences_of_admissible identities accounts
    admissible tenant user sessionId token noParent
  exact ⟨_, session, yields_issueApplicationSession_of_new new active checked
    references exchanges, rfl⟩

/-- The audit events of a login. -/
def loginEvents (input : LoginInput) (sessionId tenantId userId : JsString) :
    List IdentityAuditInput :=
  [(.loginSucceeded, js "LOGIN_VERIFIED"),
    (.sessionCreated, js "APPLICATION_SESSION_CREATED")].map
    fun (eventType, reasonCode) =>
      { eventType := eventType
        occurredAt := toISOString input.now
        reasonCode := reasonCode
        result := .succeeded
        sessionId := some sessionId
        tenantId := some tenantId
        userId := some userId }

theorem completes_admitIdentity
    (admissible : Admissible platform input database identity userId
      membership) (exchanges : List ProviderExchange) :
    ∃ issued final,
      Yields (admitIdentity platform input identity).run
        ⟨database, exchanges⟩ issued final := by
  rcases yields_persistProviderIdentity admissible exchanges with
    ⟨user, identities, accounts, persists, isUser, stored⟩
  have isLogin : LoginIssue input userId membership
      { authenticationMethod := identity.authenticationMethod
        environment := input.environment
        now := input.now
        drawn := input.drawn
        providerSessionId := identity.providerSessionId
        rotatedFromSessionId := none
        tenantId := membership.tenantId
        userId := userId } :=
    ⟨rfl, rfl, rfl, rfl, rfl, rfl⟩
  rcases completes_issueApplicationSession accounts admissible stored isLogin
    exchanges with ⟨issued, session, issues, isSession⟩
  rcases stored with ⟨row, found, _⟩
  have isRow := List.find?_some found
  have references : ∀ event ∈ loginEvents input issued.session.sessionId
        membership.tenantId userId,
      ReferencesStored
        { withUser database identities accounts with
          sessions := database.sessions ++ [session] } event := by
    intro event member
    rcases List.mem_map.mp member with ⟨kind, _, rfl⟩
    refine ⟨?_, ?_, ?_⟩
    · intro other isOther
      rw [← Option.some.inj isOther]
      exact List.any_eq_true.mpr ⟨row, List.mem_of_find?_eq_some found, isRow⟩
    · intro other isOther
      rw [← Option.some.inj isOther]
      exact List.contains_iff_mem.mpr admissible.tenant
    · intro other isOther
      rw [← Option.some.inj isOther, isSession]
      simp
  rcases yields_saveAuditEvents references exchanges with ⟨final, saves⟩
  refine ⟨issued, final, Script.yields_run_bind.mpr
    ⟨user, _, persists, Script.yields_run_bind.mpr
      ⟨_, _, yields_execute_of_eq rfl exchanges, ?_⟩⟩⟩
  refine Script.yields_run_bind.mpr
    ⟨_, _, yields_resolveProviderTenant identity _, ?_⟩
  rw [isUser]
  refine Script.yields_run_bind.mpr
    ⟨membership, _, Script.yields_run_done.mpr ⟨admissible.chosen, rfl⟩, ?_⟩
  exact Script.yields_run_bind.mpr ⟨issued, _, issues,
    Script.yields_run_bind.mpr ⟨(), final, saves,
      Script.yields_run_pure.mpr ⟨rfl, rfl⟩⟩⟩

end Admitted

end BidayaxExecutive.Identity
