import BidayaxExecutive.Identity.Authorization
import BidayaxExecutive.Library.Guards

/-!
# Permissions and the cards they were given for

A request on a card is allowed when the context has the permission and lists
the card.  Since both lists are collected over all valid grants, a permission
of one card's grant serves on every other card with a grant.  The requests for
which this happens are exactly the borrowed ones below.
-/

namespace BidayaxExecutive.Identity

open BidayaxExecutive.Runtime JsString
open BidayaxExecutive.Library.Guards

section Host

variable (host : Host) (input : AuthorizationInput)
  (permission : IdentityPermission) (card : JsString)

/-- The request is let through. -/
def Permitted : Prop :=
  ∃ context,
    resolveTrustedSettingsAuthorizationContext host input = .ok context ∧
    requireIdentityPermission context permission (some card) = .ok ()

/-- A grant of the same tenant and user, for this very card and neither
revoked nor expired, that together with the role gives the permission. -/
def CardGranted : Prop :=
  ∃ grant ∈ input.grants, grant.cardId = card ∧
    grant.tenantId = input.membership.tenantId ∧
    grant.userId = input.identity.userId ∧
    activeGrant host grant (host.dateParse input.issuedAt) = true ∧
    (permission ∈ rolePermissionPolicy input.membership.role ∨
      permission ∈ grant.permissionSet)

instance : Decidable (CardGranted host input permission card) :=
  inferInstanceAs <| Decidable <| ∃ grant ∈ input.grants, _

/-- Identity and membership are in force. -/
def InForce : Prop :=
  input.identity.status = .active ∧ input.membership.status = .active ∧
    isGiven input.membership.revokedAt = false

/-- Neither the role nor a grant of the card has the permission, but a grant of
another card does, and the card is listed or empty. -/
structure Borrowed : Prop where
  notOfRole : permission ∉ rolePermissionPolicy input.membership.role
  elsewhere : ∃ grant ∈ validGrants host input,
    permission ∈ grant.permissionSet
  notOfCard : ∀ grant ∈ validGrants host input, grant.cardId = card →
    permission ∉ grant.permissionSet
  listed : card = [] ∨ ∃ grant ∈ validGrants host input, grant.cardId = card

/-- An empty card id counts as no card, so the role alone decides. -/
structure Unbound : Prop where
  noCard : card = []
  ofRole : permission ∈ rolePermissionPolicy input.membership.role
  ungranted : ∀ grant ∈ validGrants host input, grant.cardId ≠ []

/-! ## The two checks -/

theorem mem_validGrants {grant : CardAccessGrant} :
    grant ∈ validGrants host input ↔
      grant ∈ input.grants ∧
        grant.tenantId = input.membership.tenantId ∧
        grant.userId = input.identity.userId ∧
        activeGrant host grant (host.dateParse input.issuedAt) = true := by
  simp only [validGrants, List.mem_filter, Bool.and_eq_true, beq_iff_eq,
    and_assoc]

theorem cardGranted_iff :
    CardGranted host input permission card ↔
      ∃ grant ∈ validGrants host input, grant.cardId = card ∧
        (permission ∈ rolePermissionPolicy input.membership.role ∨
          permission ∈ grant.permissionSet) := by
  simp only [CardGranted, mem_validGrants]
  constructor
  · rintro ⟨grant, member, sameCard, tenant, user, active, given⟩
    exact ⟨grant, ⟨member, tenant, user, active⟩, sameCard, given⟩
  · rintro ⟨grant, ⟨member, tenant, user, active⟩, sameCard, given⟩
    exact ⟨grant, member, sameCard, tenant, user, active, given⟩

/-- A context is resolved exactly for an identity and a membership in force,
and carries what the valid grants give. -/
theorem resolve_eq_ok {context : TrustedSettingsAuthorizationContext}
    (resolved : resolveTrustedSettingsAuthorizationContext host input =
      .ok context) :
    InForce input ∧ context.role = input.membership.role ∧
      context.permissions =
        (rolePermissionPolicy input.membership.role ++
          (validGrants host input).flatMap (·.permissionSet)).eraseDups ∧
      context.permittedCardIds =
        if isPrivileged input.membership.role then []
        else (validGrants host input).map (·.cardId) := by
  unfold resolveTrustedSettingsAuthorizationContext at resolved
  rw [guard_eq_ok, guard_eq_ok, not_not, not_or, not_not,
    Bool.not_eq_true] at resolved
  rcases resolved with ⟨enabled, ⟨member, unrevoked⟩, shape⟩
  rw [← Except.ok.inj shape]
  exact ⟨⟨enabled, member, unrevoked⟩, rfl, rfl, rfl⟩

theorem exists_resolved (inForce : InForce input) :
    ∃ context,
      resolveTrustedSettingsAuthorizationContext host input = .ok context := by
  rcases inForce with ⟨enabled, member, unrevoked⟩
  unfold resolveTrustedSettingsAuthorizationContext
  rw [enabled, member, unrevoked]
  exact ⟨_, rfl⟩

/-- The two checks of a request on a card. -/
theorem require_eq_ok {context : TrustedSettingsAuthorizationContext} :
    requireIdentityPermission context permission (some card) = .ok () ↔
      permission ∈ context.permissions ∧
        (card = [] ∨ isPrivileged context.role = true ∨
          card ∈ context.permittedCardIds) := by
  unfold requireIdentityPermission
  simp only [guard_eq_ok, Bool.not_eq_true', Bool.not_eq_false,
    List.contains_iff_mem, Bool.and_eq_true, List.isEmpty_eq_false_iff,
    and_true]
  apply and_congr_right
  intro _
  by_cases empty : card = []
  · simp [empty]
  · by_cases privileged : isPrivileged context.role = true
    · simp [privileged]
    · simp [empty, privileged]

/-- Requests of a role without privileges, read off the valid grants. -/
theorem permitted_iff
    (nonPrivileged : isPrivileged input.membership.role = false) :
    Permitted host input permission card ↔
      InForce input ∧
        (permission ∈ rolePermissionPolicy input.membership.role ∨
          ∃ grant ∈ validGrants host input,
            permission ∈ grant.permissionSet) ∧
        (card = [] ∨
          ∃ grant ∈ validGrants host input, grant.cardId = card) := by
  constructor
  · rintro ⟨context, resolved, required⟩
    rcases resolve_eq_ok host input resolved with
      ⟨inForce, role, permissions, cards⟩
    rw [require_eq_ok, role, permissions, cards, nonPrivileged,
      List.mem_eraseDups, List.mem_append, List.mem_flatMap] at required
    refine ⟨inForce, required.1, ?_⟩
    simpa using required.2
  · rintro ⟨inForce, given, listed⟩
    rcases exists_resolved host input inForce with ⟨context, resolved⟩
    rcases resolve_eq_ok host input resolved with
      ⟨_, role, permissions, cards⟩
    refine ⟨context, resolved, ?_⟩
    rw [require_eq_ok, role, permissions, cards, nonPrivileged,
      List.mem_eraseDups, List.mem_append, List.mem_flatMap]
    refine ⟨given, ?_⟩
    simpa using listed

/-- A request that is let through rests on a grant of the card itself unless
it is borrowed or unbound. -/
theorem permitted_cardGranted_iff
    (nonPrivileged : isPrivileged input.membership.role = false) :
    (Permitted host input permission card →
        CardGranted host input permission card) ↔
      ¬(InForce input ∧ (Borrowed host input permission card ∨
        Unbound host input permission card)) := by
  rw [permitted_iff host input permission card nonPrivileged, cardGranted_iff]
  constructor
  · rintro confined ⟨inForce, borrowed | unbound⟩
    · rcases confined ⟨inForce, Or.inr borrowed.elsewhere, borrowed.listed⟩ with
        ⟨grant, member, sameCard, ofRole | given⟩
      · exact borrowed.notOfRole ofRole
      · exact borrowed.notOfCard grant member sameCard given
    · rcases confined ⟨inForce, Or.inl unbound.ofRole, Or.inl unbound.noCard⟩
        with ⟨grant, member, sameCard, _⟩
      exact unbound.ungranted grant member (sameCard.trans unbound.noCard)
  · rintro sound ⟨inForce, given, listed⟩
    by_contra missing
    apply sound
    refine ⟨inForce, ?_⟩
    by_cases ofRole : permission ∈ rolePermissionPolicy input.membership.role
    · -- the role has it, so the card has no grant and must be empty
      have ungranted : ∀ grant ∈ validGrants host input,
          grant.cardId ≠ card := fun grant member sameCard =>
        missing ⟨grant, member, sameCard, Or.inl ofRole⟩
      rcases listed with empty | ⟨grant, member, sameCard⟩
      · rw [empty] at ungranted
        exact Or.inr ⟨empty, ofRole, ungranted⟩
      · exact absurd sameCard (ungranted grant member)
    · have elsewhere := given.resolve_left ofRole
      refine Or.inl ⟨ofRole, elsewhere, ?_, listed⟩
      intro grant member sameCard held
      exact missing ⟨grant, member, sameCard, Or.inr held⟩

end Host

/-! ## Two grants of one viewer -/

/-- A viewer who may publish one card and read another. -/
def twoCardInput : AuthorizationInput where
  authenticationMethod := js "workos"
  expiresAt := js "2026-07-17T18:00:00.000Z"
  grants :=
    [⟨js "tenant-1", js "card-a", js "user-1", [.settingsPublish], none, none⟩,
      ⟨js "tenant-1", js "card-b", js "user-1", [.settingsRead], none, none⟩]
  identity := ⟨js "user-1", js "User One", .active⟩
  issuedAt := js "2026-07-17T10:00:00.000Z"
  membership := ⟨js "tenant-1", .viewer, .active, none⟩
  provider := js "workos"
  sessionId := js "session-1"

/-- The permission to publish one card publishes the other. -/
theorem permitted_on_other_card :
    ¬(Permitted (recordedHost []) twoCardInput .settingsPublish
        (js "card-b") →
      CardGranted (recordedHost []) twoCardInput .settingsPublish
        (js "card-b")) := by
  intro confined
  have permitted : Permitted (recordedHost []) twoCardInput .settingsPublish
      (js "card-b") :=
    ⟨_, rfl, by decide +kernel⟩
  have granted := confined permitted
  revert granted
  decide +kernel

theorem permitted_cardGranted_iff_two :
    (Permitted (recordedHost []) twoCardInput .settingsPublish
        (js "card-a") →
      CardGranted (recordedHost []) twoCardInput .settingsPublish
        (js "card-a")) ↔
      ¬(InForce twoCardInput ∧
        (Borrowed (recordedHost []) twoCardInput .settingsPublish
            (js "card-a") ∨
          Unbound (recordedHost []) twoCardInput .settingsPublish
            (js "card-a"))) :=
  permitted_cardGranted_iff (recordedHost []) twoCardInput .settingsPublish
    (js "card-a") rfl

end BidayaxExecutive.Identity
