import BidayaxExecutive.Identity.LoginTransaction

/-!
# The tenant of a login

A login opens its session in a tenant in which the user has an active
membership.  The organisation of the identity selects the tenant only as far
as it is linked with one; without a link the user needs exactly one membership.
-/

namespace BidayaxExecutive.Identity

open BidayaxExecutive.Runtime JsString
open BidayaxExecutive.Library.Transactions
open BidayaxExecutive.Library.Guards
open BidayaxExecutive.Library.Scripts

/-- The callback finds its login transaction, and the provider answers with
the identity. -/
def Identifies (platform : IdentityPlatform) (world : World)
    (input : LoginInput) (identity : ProviderIdentity) : Prop :=
  ∃ transaction codeVerifier,
    Reaches platform world input transaction codeVerifier ∧
      input.provider (callbackInput input transaction codeVerifier) =
        .ok identity

def activeMemberships (database : IdentityDatabase) (userId : JsString) :
    List TenantMembershipRow :=
  database.memberships.filter fun membership =>
    membership.userId == userId && membership.status == .active &&
      membership.revokedAt.isNone

def HasActiveMembership (database : IdentityDatabase)
    (userId tenantId : JsString) : Prop :=
  ∃ membership ∈ activeMemberships database userId,
    membership.tenantId = tenantId

/-- The tenant id that a link row gives the organisation of the identity; an
empty id counts as none. -/
def selectedTenant (database : IdentityDatabase)
    (identity : ProviderIdentity) : Option JsString :=
  (linkedTenant database identity).filter (!·.isEmpty)

/-! ## The choice of the membership -/

section Choice

variable {memberships : List TenantMembershipRow}
  {linked : Option JsString} {membership : TenantMembershipRow}

theorem chooseMembership_linked {tenantId : JsString}
    (isLinked : linked.filter (!·.isEmpty) = some tenantId)
    (chosen : chooseMembership memberships linked = .ok membership) :
    membership.tenantId = tenantId := by
  unfold chooseMembership at chosen
  simp only [isLinked] at chosen
  cases found : memberships.find? (·.tenantId == tenantId) with
  | none =>
      rw [found] at chosen
      exact nomatch chosen
  | some first =>
      rw [found] at chosen
      rw [← Except.ok.inj chosen]
      have isIt := List.find?_some found
      exact eq_of_beq isIt

theorem chooseMembership_unlinked
    (unlinked : linked.filter (!·.isEmpty) = none)
    (chosen : chooseMembership memberships linked = .ok membership) :
    memberships = [membership] := by
  unfold chooseMembership at chosen
  simp only [unlinked] at chosen
  cases memberships with
  | nil =>
      exact nomatch chosen
  | cons first rest =>
      cases rest with
      | nil =>
          rw [Except.ok.inj chosen]
      | cons second rest =>
          exact nomatch chosen

end Choice

/-! ## What a login reads -/

section Login

variable {platform : IdentityPlatform} {input : LoginInput}
  {world final : World} {identity : ProviderIdentity}

/-- What the choice of the membership reads. -/
def accessRecord (database : IdentityDatabase) :
    List TenantMembershipRow × List ProviderTenantLink :=
  (database.memberships, database.tenantLinks)

theorem keepsAccess_execute {α : Type} {operation : Statement α}
    (keeps : ∀ database,
      accessRecord (operation database).2 = accessRecord database) :
    Script.Keeps (fun world => accessRecord world.database)
      (execute operation) :=
  fun world => keeps world.database

theorem keepsAccess_persistProviderIdentity (identity : ProviderIdentity)
    (now : TimeValue) :
    Script.Keeps (fun world => accessRecord world.database)
      (persistProviderIdentity platform identity now) := by
  unfold persistProviderIdentity
  by_cases unverified : (!identity.emailVerified) = true
  · rw [if_pos unverified]
    exact Script.keeps_done _
  · rw [if_neg unverified]
    apply Script.keeps_bind
    · apply keepsAccess_execute
      intro database
      obtain ⟨identities, sessions, wrote⟩ :=
        upsertProviderIdentity_writes platform.lower identity now database
      rw [wrote]
      rfl
    · intro user
      by_cases inactive : user.status ≠ .active
      · rw [if_pos inactive]
        exact Script.keeps_done _
      · rw [if_neg inactive]
        apply Script.keeps_bind
        · apply keepsAccess_execute
          intro database
          obtain ⟨accounts, wrote⟩ := saveProviderAccount_writes
            (providerAccount identity user.userId now) database
          rw [wrote]
          rfl
        · exact fun _ => Script.keeps_done _

theorem linkedTenant_eq {database other : IdentityDatabase}
    (same : accessRecord database = accessRecord other) :
    linkedTenant database identity = linkedTenant other identity := by
  have sameLinks : database.tenantLinks = other.tenantLinks :=
    (Prod.mk.inj same).2
  unfold linkedTenant
  rw [sameLinks]

theorem issued_tenant {issue : IssueInput}
    {issued : IssuedApplicationSession}
    (yields : Yields (issueApplicationSession issue).run world issued final) :
    issued.session.tenantId = issue.tenantId ∧
      issued.session.userId = issue.userId := by
  obtain ⟨session, new, _, _, isSession, _⟩ :=
    yields_issueApplicationSession yields
  obtain ⟨_, _, rest⟩ := bind_eq_ok.mp new
  obtain ⟨_, _, built⟩ := bind_eq_ok.mp rest
  rw [isSession, ← Except.ok.inj built]
  exact ⟨rfl, rfl⟩

/-- An identity is admitted with the membership that is chosen for it. -/
theorem admitIdentity_chooses {issued : IssuedApplicationSession}
    (yields : Yields (admitIdentity platform input identity).run world issued
      final) :
    ∃ membership,
      chooseMembership
          (activeMemberships world.database issued.session.userId)
          (linkedTenant world.database identity) = .ok membership ∧
        issued.session.tenantId = membership.tenantId := by
  obtain ⟨user, persisted, persists, yields⟩ :=
    Script.yields_run_bind.mp yields
  have same := (keepsAccess_persistProviderIdentity identity
    input.now).yields persists
  obtain ⟨memberships, _, lists, yields⟩ := Script.yields_run_bind.mp yields
  cases lists
  obtain ⟨linked, _, resolves, yields⟩ := Script.yields_run_bind.mp yields
  have resolved := (yields_resolveProviderTenant identity persisted).symm.trans
    resolves
  obtain ⟨isLinked, isPersisted⟩ := Prod.mk.inj resolved
  obtain ⟨membership, _, chooses, yields⟩ := Script.yields_run_bind.mp yields
  obtain ⟨chosen, _⟩ := Script.yields_run_done.mp chooses
  obtain ⟨result, afterIssue, issues, yields⟩ :=
    Script.yields_run_bind.mp yields
  obtain ⟨_, _, _, yields⟩ := Script.yields_run_bind.mp yields
  obtain ⟨isResult, _⟩ := Script.yields_run_pure.mp yields
  obtain ⟨tenant, userId⟩ := issued_tenant issues
  rw [isResult] at tenant userId
  have sameMemberships : activeMemberships persisted.database user.userId =
      activeMemberships world.database user.userId :=
    congrArg (List.filter _) (Prod.mk.inj same).1
  refine ⟨membership, ?_, tenant⟩
  rw [userId, ← linkedTenant_eq same, Except.ok.inj isLinked,
    ← sameMemberships]
  exact chosen

/-- A login that succeeds has been told an identity, and admits it. -/
theorem completeIdentityLogin_admits {login : CompletedLogin}
    (yields : Yields (completeIdentityLogin platform input).run world login
      final) :
    ∃ transaction codeVerifier identity,
      Reaches platform world input transaction codeVerifier ∧
        input.provider (callbackInput input transaction codeVerifier) =
          .ok identity ∧
        Yields (admitIdentity platform input identity).run
          (asked world input transaction codeVerifier) login.issued final := by
  by_cases reached : ∃ transaction codeVerifier,
      Reaches platform world input transaction codeVerifier
  · obtain ⟨transaction, codeVerifier, reaches⟩ := reached
    unfold Yields at yields
    rw [run_of_reaches reaches] at yields
    cases answer : input.provider
        (callbackInput input transaction codeVerifier) with
    | error message =>
        rw [answer] at yields
        exact absurd yields Script.not_yields_run_fail
    | ok identity =>
        rw [answer] at yields
        obtain ⟨issued, _, admits, yields⟩ :=
          Script.yields_run_bind.mp yields
        obtain ⟨isLogin, isFinal⟩ := Script.yields_run_pure.mp yields
        rw [isFinal] at admits
        rw [← isLogin]
        exact ⟨transaction, codeVerifier, identity, reaches, answer, admits⟩
  · obtain ⟨failure, last, ran, _⟩ := run_of_not_reaches
      (fun transaction codeVerifier reaches =>
        reached ⟨transaction, codeVerifier, reaches⟩)
    unfold Yields at yields
    rw [ran] at yields
    exact nomatch (Prod.mk.inj yields).1

/-- A login opens its session in a tenant in which the user has an active
membership: in the tenant that the organisation of the identity is linked with,
if it is linked, and else in the tenant of the only membership. -/
theorem completeIdentityLogin_tenant {login : CompletedLogin}
    (yields : Yields (completeIdentityLogin platform input).run world login
      final) :
    ∃ identity, Identifies platform world input identity ∧
      HasActiveMembership world.database login.issued.session.userId
        login.issued.session.tenantId ∧
      match selectedTenant world.database identity with
      | some tenantId => login.issued.session.tenantId = tenantId
      | none => ∃ membership,
          activeMemberships world.database login.issued.session.userId =
              [membership] ∧
            membership.tenantId = login.issued.session.tenantId := by
  obtain ⟨transaction, codeVerifier, identity, reaches, answer, admits⟩ :=
    completeIdentityLogin_admits yields
  obtain ⟨membership, chosen, tenant⟩ := admitIdentity_chooses admits
  change chooseMembership
    (activeMemberships world.database login.issued.session.userId)
    (linkedTenant world.database identity) = .ok membership at chosen
  refine ⟨identity, ⟨transaction, codeVerifier, reaches, answer⟩,
    ⟨membership, mem_of_chooseMembership chosen, tenant.symm⟩, ?_⟩
  cases selected : selectedTenant world.database identity with
  | some tenantId =>
      exact tenant.trans (chooseMembership_linked selected chosen)
  | none =>
      exact ⟨membership, chooseMembership_unlinked selected chosen,
        tenant.symm⟩

end Login

/-! ## Organisations with a link and without one -/

/-- The organisation of the member has no link. -/
def unlinkedLogin : LoginInput :=
  { memberLogin with
    provider := fun _ => .ok
      { memberIdentity with providerTenantId := some (js "org_unlinked") } }

theorem unlinkedLogin_completes :
    ∃ login final,
      Yields (completeIdentityLogin plainPlatform unlinkedLogin).run
        memberWorld login final := by
  have reaches : Reaches plainPlatform memberWorld unlinkedLogin _ _ :=
    ⟨rfl, rfl⟩
  have admissible : Admissible plainPlatform unlinkedLogin
      memberWorld.database
      { memberIdentity with providerTenantId := some (js "org_unlinked") }
      (js "usr_member")
      { tenantId := js "tenant"
        role := .tenantAdmin
        status := .active
        revokedAt := none
        membershipId := js "membership"
        userId := js "usr_member" } :=
    { verified := rfl
      known := .inl ⟨_, rfl, rfl, rfl⟩
      email := by decide
      account := .inr fun _ member => nomatch member
      chosen := rfl
      active := by decide
      tenant := by decide
      positive := by decide
      ordered := by decide
      expires := by decide
      fresh := fun _ member => nomatch member }
  exact completes_completeIdentityLogin reaches rfl admissible

/-- A member of two tenants, with an organisation that is linked with the
second one. -/
def linkedWorld : World :=
  { memberWorld with
    database := { memberDatabase with
      tenants := [js "tenant", js "tenant-2"]
      tenantLinks := [⟨js "org_linked", js "tenant-2"⟩]
      memberships := memberDatabase.memberships ++
        [{ tenantId := js "tenant-2"
           role := .tenantAdmin
           status := .active
           revokedAt := none
           membershipId := js "membership-2"
           userId := js "usr_member" }] } }

def linkedIdentity : ProviderIdentity :=
  { memberIdentity with providerTenantId := some (js "org_linked") }

def linkedLogin : LoginInput :=
  { memberLogin with provider := fun _ => .ok linkedIdentity }

theorem linkedLogin_completes :
    ∃ login final,
      Yields (completeIdentityLogin plainPlatform linkedLogin).run linkedWorld
        login final := by
  have reaches : Reaches plainPlatform linkedWorld linkedLogin _ _ :=
    ⟨rfl, rfl⟩
  have admissible : Admissible plainPlatform linkedLogin linkedWorld.database
      linkedIdentity (js "usr_member")
      { tenantId := js "tenant-2"
        role := .tenantAdmin
        status := .active
        revokedAt := none
        membershipId := js "membership-2"
        userId := js "usr_member" } :=
    { verified := rfl
      known := .inl ⟨_, rfl, rfl, rfl⟩
      email := by decide
      account := .inr fun _ member => nomatch member
      chosen := rfl
      active := by decide
      tenant := by decide
      positive := by decide
      ordered := by decide
      expires := by decide
      fresh := fun _ member => nomatch member }
  exact completes_completeIdentityLogin reaches rfl admissible

/-- Without a link the only membership counts, and with one the link. -/
theorem logins_tenant :
    (∃ login final,
      Yields (completeIdentityLogin plainPlatform unlinkedLogin).run
          memberWorld login final ∧
        ∃ membership, activeMemberships memberWorld.database
            login.issued.session.userId = [membership] ∧
          membership.tenantId = login.issued.session.tenantId) ∧
      ∃ login final,
        Yields (completeIdentityLogin plainPlatform linkedLogin).run
            linkedWorld login final ∧
          HasActiveMembership linkedWorld.database
            login.issued.session.userId login.issued.session.tenantId ∧
          login.issued.session.tenantId = js "tenant-2" := by
  constructor
  · obtain ⟨login, final, yields⟩ := unlinkedLogin_completes
    obtain ⟨identity, ⟨_, _, _, answer⟩, _, tenant⟩ :=
      completeIdentityLogin_tenant yields
    rw [← Except.ok.inj answer] at tenant
    exact ⟨login, final, yields, tenant⟩
  · obtain ⟨login, final, yields⟩ := linkedLogin_completes
    obtain ⟨identity, ⟨_, _, _, answer⟩, isMember, tenant⟩ :=
      completeIdentityLogin_tenant yields
    rw [← Except.ok.inj answer] at tenant
    exact ⟨login, final, yields, isMember, tenant⟩

theorem unlinkedLogin_not_linked :
    ¬∀ (platform : IdentityPlatform) (input : LoginInput)
        (world final : World) (login : CompletedLogin)
        (identity : ProviderIdentity) (organisation : JsString),
      Yields (completeIdentityLogin platform input).run world login final →
      Identifies platform world input identity →
      identity.providerTenantId = some organisation → organisation ≠ [] →
      HasActiveMembership world.database login.issued.session.userId
          login.issued.session.tenantId ∧
        linkedTenant world.database identity =
          some login.issued.session.tenantId := by
  intro claim
  obtain ⟨login, final, yields⟩ := unlinkedLogin_completes
  have identifies : Identifies plainPlatform memberWorld unlinkedLogin
      { memberIdentity with providerTenantId := some (js "org_unlinked") } :=
    ⟨_, _, ⟨rfl, rfl⟩, rfl⟩
  have linked := claim _ _ _ _ _ _ (js "org_unlinked") yields identifies rfl
    (by decide)
  exact nomatch linked.2

end BidayaxExecutive.Identity
