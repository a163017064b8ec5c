import Mathlib.Data.List.Pairwise
import BidayaxExecutive.Library.Transactions
import BidayaxExecutive.Trust.KeyWindow

/-!
# Rotation of keys

A rotation retires the active key of a scope and activates its successor, in
one transaction of the key repository.  The repository is any store with the
operations of the source and their contracts; a table of keys is one.
-/

namespace BidayaxExecutive.Trust

open BidayaxExecutive.Runtime JsString
open BidayaxExecutive.Library.Guards BidayaxExecutive.Library.Transactions

/-! ## The repository -/

/-- Two records with the same key id and version. -/
def SameIdentity (left right : TrustKey) : Prop :=
  left.keyId = right.keyId ∧
    left.keyVersion.strictEquals right.keyVersion = true

instance (left right : TrustKey) : Decidable (SameIdentity left right) :=
  inferInstanceAs (Decidable (_ ∧ _))

theorem SameIdentity.symm {left right : TrustKey}
    (same : SameIdentity left right) : SameIdentity right left :=
  ⟨same.1.symm, JsNumber.strictEquals_symm same.2⟩

theorem SameIdentity.trans {first second third : TrustKey}
    (same : SameIdentity first second) (next : SameIdentity second third) :
    SameIdentity first third :=
  ⟨same.1.trans next.1, JsNumber.strictEquals_trans same.2 next.2⟩

def DistinctIdentity (left right : TrustKey) : Prop :=
  ¬SameIdentity left right

instance : Std.Symm DistinctIdentity :=
  ⟨fun _ _ distinct same => distinct same.symm⟩

/-- `get` is left out: no operation here calls it. -/
structure TrustKeyRepository (Store : Type) where
  keys : Store → List TrustKey
  getActive : JsString → KeyPurpose → JsString →
    Transaction Store TrustError (Option TrustKey)
  insert : TrustKey → Transaction Store TrustError Unit
  update : TrustKey → TrustKeyStatus → Transaction Store TrustError Unit
  distinct : ∀ store, (keys store).Pairwise DistinctIdentity
  getActive_yields : ∀ {tenantId purpose scopeId store found final},
    Yields (getActive tenantId purpose scopeId) store found final →
      store = final ∧ ∀ key ∈ found, key ∈ keys store ∧
        key.status = .active ∧ key.tenantId = tenantId ∧
        key.purpose = purpose ∧ key.scopeId = scopeId
  insert_yields : ∀ {key store done final},
    Yields (insert key) store done final →
      (keys final).Perm (key :: keys store)
  update_yields : ∀ {key expected store done final},
    Yields (update key expected) store done final →
      ∃ old others, SameIdentity old key ∧ old.status = expected ∧
        (keys store).Perm (old :: others) ∧
        (keys final).Perm (key :: others)

section Host

variable (host : Host) {Store : Type}
  (repository : TrustKeyRepository Store)

/-- The callback of the rotation. -/
def rotation (replacement : TrustKey) (occurredAt : JsString) :
    Transaction Store TrustError TrustKey := do
  if replacement.status ≠ .pending ∨ replacement.replacesKeyId = none ∨
      replacement.replacesKeyVersion = none then
    throw <| TrustError.error <|
      js "Replacement must be pending and identify the prior key/version"
  let active ← repository.getActive replacement.tenantId replacement.purpose
    replacement.scopeId
  match active with
  | none =>
      throw <| TrustError.error <| js "Active replacement predecessor mismatch"
  | some active => do
      if some active.keyId ≠ replacement.replacesKeyId ∨
          ¬replacement.replacesKeyVersion.any
            (active.keyVersion.strictEquals ·) then
        throw <| TrustError.error <|
          js "Active replacement predecessor mismatch"
      if ¬replacement.keyVersion.strictEquals active.keyVersion.increment ∨
          replacement.identityId ≠ active.identityId then
        throw <| TrustError.error <|
          js "Replacement version or identity mismatch"
      let retiring ← attempt
        (transitionTrustKey host active .retiring occurredAt)
      repository.update retiring .active
      repository.insert replacement
      let activated ← attempt (activateTrustKey host replacement occurredAt)
      repository.update activated .pending
      pure activated

def rotateTrustKeyTransactional (replacement : TrustKey)
    (occurredAt : JsString) (store : Store) :
    Outcome TrustKey × Store :=
  transaction (rotation host repository replacement occurredAt) store

/-- The store after any run of rotations, given by their replacements and
times. -/
def afterRotations (store : Store) (requests : List (TrustKey × JsString)) :
    Store :=
  afterTransactions store <|
    requests.map fun request => rotation host repository request.1 request.2

/-! ## What a rotation does -/

/-- Two active keys for the same tenant, purpose and scope. -/
def Rival (left right : TrustKey) : Prop :=
  left.status = .active ∧ right.status = .active ∧
    left.tenantId = right.tenantId ∧ left.purpose = right.purpose ∧
    left.scopeId = right.scopeId

def AtMostOneActive (keys : List TrustKey) : Prop :=
  keys.Pairwise fun left right => ¬Rival left right

/-- From `before` to `after` the predecessor retires, the replacement becomes
active and the other keys stay. -/
structure Rotated (replacement : TrustKey) (occurredAt : JsString)
    (before after : List TrustKey) (activated : TrustKey) : Prop where
  replaced : ∃ predecessor others timestamp,
    canonicalUtcTimestamp host occurredAt = .ok timestamp ∧
    before.Perm (predecessor :: others) ∧
    after.Perm (activated :: predecessor.moved .retiring timestamp :: others) ∧
    predecessor.status = .active ∧
    activated = replacement.moved .active timestamp ∧
    activated.keyVersion.strictEquals predecessor.keyVersion.increment =
      true ∧
    activated.tenantId = predecessor.tenantId ∧
    activated.purpose = predecessor.purpose ∧
    activated.scopeId = predecessor.scopeId ∧
    activated.identityId = predecessor.identityId

theorem Rival.symm {left right : TrustKey} (rival : Rival left right) :
    Rival right left :=
  ⟨rival.2.1, rival.1, rival.2.2.1.symm, rival.2.2.2.1.symm,
    rival.2.2.2.2.symm⟩

theorem atMostOneActive_perm {left right : List TrustKey}
    (permutation : left.Perm right) :
    AtMostOneActive left ↔ AtMostOneActive right :=
  permutation.pairwise_iff fun distinct rival => distinct rival.symm

/-- Two records of one store with the same identity are one record. -/
theorem eq_of_sameIdentity {store : Store} {left right : TrustKey}
    (leftMember : left ∈ repository.keys store)
    (rightMember : right ∈ repository.keys store)
    (same : SameIdentity left right) : left = right := by
  by_contra different
  exact (repository.distinct store).forall leftMember rightMember
    different same

/-- An update of a key that is in the store replaces this very key. -/
theorem update_yields_of_mem {store final : Store} {done : Unit}
    {key changed : TrustKey} {others : List TrustKey}
    {expected : TrustKeyStatus}
    (stored : (repository.keys store).Perm (key :: others))
    (updated : Yields (repository.update changed expected) store done final)
    (sameId : changed.keyId = key.keyId)
    (sameVersion : changed.keyVersion = key.keyVersion) :
    (repository.keys final).Perm (changed :: others) := by
  rcases repository.update_yields updated with
    ⟨old, rest, identity, _, before, after⟩
  have oldMember : old ∈ repository.keys store :=
    before.mem_iff.mpr List.mem_cons_self
  have keyMember : key ∈ repository.keys store :=
    stored.mem_iff.mpr List.mem_cons_self
  rw [SameIdentity, sameId, sameVersion] at identity
  have oldIsKey : old = key :=
    eq_of_sameIdentity repository oldMember keyMember identity
  rw [oldIsKey] at before
  have restIsOthers : rest.Perm others :=
    (before.symm.trans stored).cons_inv
  exact after.trans (restIsOthers.cons changed)

theorem rotation_yields {replacement activated : TrustKey}
    {occurredAt : JsString} {store final : Store}
    (rotated : Yields (rotation host repository replacement occurredAt)
      store activated final) :
    Rotated host replacement occurredAt (repository.keys store)
      (repository.keys final) activated := by
  unfold rotation at rotated
  rcases yields_guard.mp rotated with ⟨_, afterCheck⟩
  rcases yields_bind.mp afterCheck with ⟨found, middle, active, rest⟩
  rcases repository.getActive_yields active with ⟨rfl, isActive⟩
  cases found with
  | none =>
      exact absurd rest not_yields_throw
  | some predecessor =>
      rcases isActive predecessor rfl with
        ⟨member, status, tenant, purpose, scope⟩
      rcases yields_guard.mp rest with ⟨_, afterMatch⟩
      rcases yields_guard.mp afterMatch with ⟨matching, changes⟩
      simp only [not_or, not_not] at matching
      rcases yields_bind.mp changes with ⟨retiring, _, retiringYields, changes⟩
      rcases yields_attempt.mp retiringYields with ⟨retired, rfl⟩
      rcases yields_bind.mp changes with ⟨_, first, updated, changes⟩
      rcases yields_bind.mp changes with ⟨_, second, inserted, changes⟩
      rcases yields_bind.mp changes with ⟨key, _, movedYields, changes⟩
      rcases yields_attempt.mp movedYields with ⟨moved, rfl⟩
      rcases yields_bind.mp changes with ⟨_, third, replaced, changes⟩
      rcases yields_pure.mp changes with ⟨rfl, rfl⟩
      rcases (transitionTrustKey_eq_ok host).mp retired with
        ⟨_, timestamp, canonical, rfl⟩
      rcases (transitionTrustKey_eq_ok host).mp moved with
        ⟨_, sameTime, sameCanonical, rfl⟩
      have oneTime : sameTime = timestamp :=
        Except.ok.inj (sameCanonical.symm.trans canonical)
      subst oneTime
      rcases List.append_of_mem member with ⟨earlier, later, split⟩
      have before : (repository.keys store).Perm
          (predecessor :: (earlier ++ later)) := by
        rw [split]
        exact List.perm_middle
      have afterUpdate := update_yields_of_mem repository before updated rfl rfl
      have afterInsert :=
        (repository.insert_yields inserted).trans (afterUpdate.cons replacement)
      have after :=
        update_yields_of_mem repository afterInsert replaced rfl rfl
      exact ⟨predecessor, earlier ++ later, _, canonical, before, after, status,
        rfl, matching.1, tenant.symm, purpose.symm, scope.symm, matching.2⟩

/-- A rotation leaves no rival to the activated key. -/
theorem Rotated.atMostOneActive {replacement activated : TrustKey}
    {occurredAt : JsString} {before after : List TrustKey}
    (rotated : Rotated host replacement occurredAt before after activated)
    (one : AtMostOneActive before) : AtMostOneActive after := by
  rcases rotated.replaced with
    ⟨predecessor, others, timestamp, _, beforePerm, afterPerm, active, _, _,
      tenant, purpose, scope, _⟩
  rw [atMostOneActive_perm beforePerm, AtMostOneActive,
    List.pairwise_cons] at one
  rw [atMostOneActive_perm afterPerm, AtMostOneActive,
    List.pairwise_cons, List.pairwise_cons]
  refine ⟨?_, ?_, one.2⟩
  · intro other member rival
    rcases List.mem_cons.mp member with rfl | later
    · exact absurd rival.2.1 (by simp [TrustKey.moved])
    · apply one.1 other later
      exact ⟨active, rival.2.1, tenant.symm.trans rival.2.2.1,
        purpose.symm.trans rival.2.2.2.1, scope.symm.trans rival.2.2.2.2⟩
  · intro other _ rival
    exact absurd rival.1 (by simp [TrustKey.moved])

/-- A rotation either does what it should or nothing, and over any run of
rotations no scope ever has two active keys. -/
theorem rotateTrustKeyTransactional_rotated :
    (∀ (store final : Store) (replacement activated : TrustKey)
      (occurredAt : JsString),
      AtMostOneActive (repository.keys store) →
      rotateTrustKeyTransactional host repository replacement occurredAt
          store = (.ok activated, final) →
        AtMostOneActive (repository.keys final) ∧
          Rotated host replacement occurredAt (repository.keys store)
            (repository.keys final) activated) ∧
    (∀ (store final : Store) (replacement : TrustKey) (occurredAt : JsString)
      (failure : TrustError),
      rotateTrustKeyTransactional host repository replacement occurredAt
          store = (.error failure, final) →
        final = store) ∧
    ∀ (store : Store) (requests : List (TrustKey × JsString)),
      AtMostOneActive (repository.keys store) →
        AtMostOneActive
          (repository.keys (afterRotations host repository store requests)) := by
  refine ⟨?_, ?_, ?_⟩
  · intro store final replacement activated occurredAt one succeeded
    have rotated := rotation_yields host repository
      (transaction_eq_ok.mp succeeded)
    exact ⟨rotated.atMostOneActive host one, rotated⟩
  · intro store final replacement occurredAt failure threw
    exact transaction_eq_error threw
  · intro store requests one
    apply afterTransactions_invariant
      (fun store => AtMostOneActive (repository.keys store))
    · intro operation member state activated final one yields
      rcases List.mem_map.mp member with ⟨request, _, rfl⟩
      exact (rotation_yields host repository yields).atMostOneActive host one
    · exact one

end Host

/-! ## A table of keys -/

/-- The key in the place of the one with its identity, if that one has the
expected status. -/
def replaceKey (key : TrustKey) (expected : TrustKeyStatus) :
    List TrustKey → Option (List TrustKey)
  | [] => none
  | old :: rest =>
      if SameIdentity old key then
        if old.status = expected then some (key :: rest) else none
      else (replaceKey key expected rest).map (old :: ·)

theorem replaceKey_eq_some {key : TrustKey} {expected : TrustKeyStatus}
    {keys changed : List TrustKey}
    (replaced : replaceKey key expected keys = some changed) :
    ∃ old others, SameIdentity old key ∧ old.status = expected ∧
      keys.Perm (old :: others) ∧ changed.Perm (key :: others) := by
  induction keys generalizing changed with
  | nil =>
      simp [replaceKey] at replaced
  | cons first rest inductionHypothesis =>
      rw [replaceKey] at replaced
      by_cases same : SameIdentity first key
      · by_cases status : first.status = expected
        · simp only [same, status, if_true, Option.some.injEq] at replaced
          rw [← replaced]
          exact ⟨first, rest, same, status, List.Perm.refl _,
            List.Perm.refl _⟩
        · simp [same, status] at replaced
      · simp only [same, if_false, Option.map_eq_some_iff] at replaced
        rcases replaced with ⟨changedRest, replacedRest, rfl⟩
        rcases inductionHypothesis replacedRest with
          ⟨old, others, identity, status, before, after⟩
        exact ⟨old, first :: others, identity, status,
          (before.cons first).trans (List.Perm.swap old first others),
          (after.cons first).trans (List.Perm.swap key first others)⟩

theorem distinct_of_replaced {key old : TrustKey}
    {others keys changed : List TrustKey}
    (distinct : keys.Pairwise DistinctIdentity)
    (same : SameIdentity old key) (before : keys.Perm (old :: others))
    (after : changed.Perm (key :: others)) :
    changed.Pairwise DistinctIdentity := by
  have symmetric : ∀ {left right : TrustKey},
      DistinctIdentity left right → DistinctIdentity right left :=
    fun apart identity => apart identity.symm
  rw [before.pairwise_iff symmetric, List.pairwise_cons] at distinct
  rw [after.pairwise_iff symmetric, List.pairwise_cons]
  refine ⟨fun other member identity => ?_, distinct.2⟩
  exact distinct.1 other member (same.trans identity)

structure KeyTable where
  keys : List TrustKey
  distinct : keys.Pairwise DistinctIdentity

def KeyTable.insert (key : TrustKey) (table : KeyTable) :
    Outcome Unit × KeyTable :=
  if stored : ∃ old ∈ table.keys, SameIdentity key old then
    (.error .rejected, table)
  else
    (.ok (), ⟨key :: table.keys, List.pairwise_cons.mpr
      ⟨fun old member same => stored ⟨old, member, same⟩, table.distinct⟩⟩)

def KeyTable.update (key : TrustKey) (expected : TrustKeyStatus)
    (table : KeyTable) : Outcome Unit × KeyTable :=
  match replaced : replaceKey key expected table.keys with
  | none => (.error .rejected, table)
  | some changed =>
      (.ok (), ⟨changed, by
        rcases replaceKey_eq_some replaced with
          ⟨old, others, same, _, before, after⟩
        exact distinct_of_replaced table.distinct same before after⟩)

def KeyTable.getActive (tenantId : JsString) (purpose : KeyPurpose)
    (scopeId : JsString) (table : KeyTable) :
    Outcome (Option TrustKey) × KeyTable :=
  (.ok (table.keys.find? fun key => key.status = .active ∧
    key.tenantId = tenantId ∧ key.purpose = purpose ∧ key.scopeId = scopeId),
    table)

def keyTableRepository : TrustKeyRepository KeyTable where
  keys := KeyTable.keys
  getActive := KeyTable.getActive
  insert := KeyTable.insert
  update := KeyTable.update
  distinct := KeyTable.distinct
  getActive_yields yields := by
    simp only [Yields, KeyTable.getActive, Prod.mk.injEq, Except.ok.injEq]
      at yields
    refine ⟨yields.2, fun key found => ?_⟩
    rw [Option.mem_def, ← yields.1] at found
    have holds := List.find?_some found
    simp only [decide_eq_true_eq] at holds
    exact ⟨List.mem_of_find?_eq_some found, holds⟩
  insert_yields {key store done final} yields := by
    unfold Yields KeyTable.insert at yields
    by_cases stored : ∃ old ∈ store.keys, SameIdentity key old
    · simp [stored] at yields
    · rw [dif_neg stored] at yields
      rw [← (Prod.mk.inj yields).2]
  update_yields {key expected store done final} yields := by
    unfold Yields KeyTable.update at yields
    split at yields
    · simp at yields
    · rename_i changed replaced
      rw [← (Prod.mk.inj yields).2]
      exact replaceKey_eq_some replaced

def successorKey : TrustKey :=
  { lapsedKey with
    keyId := js "key-2"
    keyVersion := .integer 2
    status := .pending
    validUntil := none
    replacesKeyId := some (js "key-1")
    replacesKeyVersion := some (.integer 1) }

def oneKeyTable : KeyTable :=
  ⟨[lapsedKey], List.pairwise_singleton _ _⟩

theorem rotateTrustKeyTransactional_rotated_table :
    ∃ activated final,
      rotateTrustKeyTransactional (recordedHost []) keyTableRepository
          successorKey (js "2026-01-20T00:00:00.000Z") oneKeyTable =
        (.ok activated, final) ∧
      AtMostOneActive final.keys ∧
      Rotated (recordedHost []) successorKey (js "2026-01-20T00:00:00.000Z")
        oneKeyTable.keys final.keys activated := by
  have one : AtMostOneActive oneKeyTable.keys := List.pairwise_singleton _ _
  refine ⟨_, _, rfl, ?_⟩
  exact (rotateTrustKeyTransactional_rotated (recordedHost [])
    keyTableRepository).1 oneKeyTable _ successorKey _
    (js "2026-01-20T00:00:00.000Z") one rfl

end BidayaxExecutive.Trust
