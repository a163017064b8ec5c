import BidayaxExecutive.Runtime.Instant

/-!
# Settings authorization

A session context is resolved from the identity, the membership and the card
grants of a user, and every settings request is checked against it.  The
context keeps one flat list of permissions and one list of card ids: which
grant gave which permission is forgotten when it is built.
-/

namespace BidayaxExecutive.Identity

open BidayaxExecutive.Runtime JsString

/-! ## Records -/

inductive TenantMembershipRole where
  | tenantOwner
  | tenantAdmin
  | executive
  | settingsEditor
  | receptionistManager
  | viewer
  deriving DecidableEq, Repr

inductive IdentityPermission where
  | settingsRead
  | settingsUpdate
  | settingsPreview
  | settingsPublish
  | settingsHistoryRead
  | settingsAssetWrite
  | receptionistConfigure
  | auditRead
  | membersManage
  | sessionsRevoke
  | cardAccessManage
  | trustVerify
  | trustKeysRead
  | trustKeysManage
  | trustProvenanceRead
  | trustAuditVerify
  | trustMerkleVerify
  | trustRevocationsRead
  deriving DecidableEq, Repr

def IdentityPermission.text : IdentityPermission → JsString
  | .settingsRead => js "settings:read"
  | .settingsUpdate => js "settings:update"
  | .settingsPreview => js "settings:preview"
  | .settingsPublish => js "settings:publish"
  | .settingsHistoryRead => js "settings:history:read"
  | .settingsAssetWrite => js "settings:asset:write"
  | .receptionistConfigure => js "receptionist:configure"
  | .auditRead => js "audit:read"
  | .membersManage => js "members:manage"
  | .sessionsRevoke => js "sessions:revoke"
  | .cardAccessManage => js "card-access:manage"
  | .trustVerify => js "trust.verify"
  | .trustKeysRead => js "trust.keys.read"
  | .trustKeysManage => js "trust.keys.manage"
  | .trustProvenanceRead => js "trust.provenance.read"
  | .trustAuditVerify => js "trust.audit.verify"
  | .trustMerkleVerify => js "trust.merkle.verify"
  | .trustRevocationsRead => js "trust.revocations.read"

inductive UserIdentityStatus where
  | active
  | disabled
  deriving DecidableEq, Repr

inductive IdentityRecordStatus where
  | active
  | revoked
  deriving DecidableEq, Repr

structure UserIdentity where
  userId : JsString
  displayName : JsString
  status : UserIdentityStatus
  deriving DecidableEq

/-- A missing `revokedAt` is `none`, like a null one. -/
structure TenantMembership where
  tenantId : JsString
  role : TenantMembershipRole
  status : IdentityRecordStatus
  revokedAt : Option JsString
  deriving DecidableEq

structure CardAccessGrant where
  tenantId : JsString
  cardId : JsString
  userId : JsString
  permissionSet : List IdentityPermission
  expiresAt : Option JsString
  revokedAt : Option JsString
  deriving DecidableEq

inductive AuditActorType where
  | user
  | admin
  deriving DecidableEq, Repr

structure AuditActor where
  actorId : JsString
  actorType : AuditActorType
  displayName : JsString
  deriving DecidableEq

structure TrustedSettingsAuthorizationContext where
  userId : JsString
  tenantId : JsString
  role : TenantMembershipRole
  permittedCardIds : List JsString
  permissions : List IdentityPermission
  sessionId : JsString
  issuedAt : JsString
  expiresAt : JsString
  authenticationMethod : JsString
  provider : JsString
  auditActor : AuditActor
  deriving DecidableEq

/-! ## Role policy -/

def tenantAdministration : List IdentityPermission :=
  [.settingsRead, .settingsUpdate, .settingsPreview, .settingsPublish,
    .settingsHistoryRead, .settingsAssetWrite, .receptionistConfigure,
    .auditRead, .membersManage, .sessionsRevoke, .cardAccessManage,
    .trustVerify, .trustKeysRead, .trustKeysManage, .trustProvenanceRead,
    .trustAuditVerify, .trustMerkleVerify, .trustRevocationsRead]

def rolePermissionPolicy : TenantMembershipRole → List IdentityPermission
  | .tenantOwner => tenantAdministration
  | .tenantAdmin => tenantAdministration
  | .executive =>
      [.settingsRead, .settingsUpdate, .settingsPreview,
        .settingsHistoryRead, .receptionistConfigure, .auditRead,
        .trustVerify, .trustKeysRead, .trustProvenanceRead,
        .trustAuditVerify, .trustMerkleVerify, .trustRevocationsRead]
  | .settingsEditor =>
      [.settingsRead, .settingsUpdate, .settingsPreview,
        .settingsHistoryRead, .settingsAssetWrite]
  | .receptionistManager =>
      [.settingsRead, .settingsHistoryRead, .receptionistConfigure]
  | .viewer =>
      [.settingsRead, .settingsHistoryRead, .trustVerify, .trustKeysRead,
        .trustProvenanceRead, .trustAuditVerify, .trustMerkleVerify,
        .trustRevocationsRead]

def isPrivileged (role : TenantMembershipRole) : Bool :=
  role == .tenantOwner || role == .tenantAdmin

/-! ## Failures -/

inductive IdentityAuthorizationErrorCode where
  | accountDisabled
  | membershipDenied
  | cardAccessDenied
  | permissionDenied
  deriving DecidableEq, Repr

structure IdentityAuthorizationError where
  code : IdentityAuthorizationErrorCode
  message : JsString
  deriving DecidableEq

abbrev Authorized := Except IdentityAuthorizationError

/-! ## Operations -/

/-- A nullable text that is present and not empty. -/
def isGiven : Option JsString → Bool
  | none => false
  | some text => !text.isEmpty

structure AuthorizationInput where
  authenticationMethod : JsString
  expiresAt : JsString
  grants : List CardAccessGrant
  identity : UserIdentity
  issuedAt : JsString
  membership : TenantMembership
  provider : JsString
  sessionId : JsString

section Host

variable (host : Host)

/-- `Date.parse(text) > now`, which no `NaN` satisfies. -/
def isAfter (text : JsString) (now : Option TimeValue) : Bool :=
  match host.dateParse text, now with
  | some instant, some now => now.milliseconds < instant.milliseconds
  | _, _ => false

def activeGrant (grant : CardAccessGrant) (now : Option TimeValue) : Bool :=
  !isGiven grant.revokedAt &&
    match grant.expiresAt with
    | none => true
    | some expiresAt => expiresAt.isEmpty || isAfter host expiresAt now

/-- The grants of the tenant and user that are neither revoked nor expired. -/
def validGrants (input : AuthorizationInput) : List CardAccessGrant :=
  input.grants.filter fun grant =>
    grant.tenantId == input.membership.tenantId &&
      grant.userId == input.identity.userId &&
      activeGrant host grant (host.dateParse input.issuedAt)

def resolveTrustedSettingsAuthorizationContext (input : AuthorizationInput) :
    Authorized TrustedSettingsAuthorizationContext := do
  if input.identity.status ≠ .active then
    throw ⟨.accountDisabled, js "Identity is disabled."⟩
  if input.membership.status ≠ .active ∨
      isGiven input.membership.revokedAt = true then
    throw ⟨.membershipDenied, js "Tenant membership is not active."⟩
  let valid := validGrants host input
  let privileged := isPrivileged input.membership.role
  .ok
    { auditActor :=
        { actorId := input.identity.userId
          actorType := if privileged then .admin else .user
          displayName := input.identity.displayName }
      authenticationMethod := input.authenticationMethod
      expiresAt := input.expiresAt
      issuedAt := input.issuedAt
      permissions :=
        (rolePermissionPolicy input.membership.role ++
          valid.flatMap (·.permissionSet)).eraseDups
      permittedCardIds := if privileged then [] else valid.map (·.cardId)
      provider := input.provider
      role := input.membership.role
      sessionId := input.sessionId
      tenantId := input.membership.tenantId
      userId := input.identity.userId }

end Host

def requireIdentityPermission (context : TrustedSettingsAuthorizationContext)
    (permission : IdentityPermission) (cardId : Option JsString) :
    Authorized Unit := do
  if !context.permissions.contains permission then
    throw ⟨.permissionDenied,
      js "Permission " ++ permission.text ++ js " is required."⟩
  match cardId with
  | none => .ok ()
  | some cardId =>
      if !cardId.isEmpty && !isPrivileged context.role &&
          !context.permittedCardIds.contains cardId then
        throw ⟨.cardAccessDenied,
          js "The authenticated user is not authorized for this card."⟩
      .ok ()

end BidayaxExecutive.Identity
