import BidayaxExecutive.Library.Runs
import BidayaxExecutive.TrustStore.AuditStreams
import BidayaxExecutive.TrustStore.KeyTable
import Mathlib.Data.List.Pairwise
import Mathlib.Logic.Relation

/-!
# Runs of statements on the key table

Over every run of statements a key keeps its public metadata, its status only
moves along the lifecycle, and each change is later than the one before.  A key
that was replaced is never active again, and a scope has one active key.
-/

namespace BidayaxExecutive.TrustStore

open BidayaxExecutive.Communications (Refusal Timestamptz)
open BidayaxExecutive.Library.Guards
open BidayaxExecutive.Library.KeyedRows
open BidayaxExecutive.Library.Runs
open BidayaxExecutive.Library.Tables
open BidayaxExecutive.Runtime
open BidayaxExecutive.Trust

/-! ## Two rows of one key -/

/-- The trigger and `transitionTrustKey` have one lifecycle. -/
theorem lifecycleAllows_iff {earlier later : TrustKeyStatus} :
    lifecycleAllows earlier later = true ↔ later ∈ transitions earlier := by
  cases earlier <;> cases later <;> decide

/-- One status after another on the lifecycle. -/
def LaterStatus : TrustKeyStatus → TrustKeyStatus → Prop :=
  Relation.TransGen fun earlier later => later ∈ transitions earlier

/-- The key was activated or ended, and is never activated again. -/
def HasLeft (status : TrustKeyStatus) : Prop :=
  status ≠ .pending ∧ status ≠ .active

/-- A later row of a key. -/
structure KeyMoved (old new : TrustKeyRow) : Prop where
  identityId : new.identityId = old.identityId
  algorithm : new.algorithm = old.algorithm
  publicKey : new.publicKey = old.publicKey
  publicKeyEncoding : new.publicKeyEncoding = old.publicKeyEncoding
  purpose : new.purpose = old.purpose
  scopeId : new.scopeId = old.scopeId
  providerType : new.providerType = old.providerType
  providerKeyReference : new.providerKeyReference = old.providerKeyReference
  validFrom : new.validFrom = old.validFrom
  validUntil : new.validUntil = old.validUntil ∨
    ¬HasLeft old.status ∧ HasLeft new.status
  predecessor : new.predecessor? = old.predecessor?
  createdAt : new.createdAt = old.createdAt
  status : LaterStatus old.status new.status
  time : old.statusChangedAt < new.statusChangedAt

def KeyFollows (old new : TrustKeyRow) : Prop :=
  new = old ∨ KeyMoved old new

/-- No status leads back to one that a key has left. -/
theorem hasLeft_of_laterStatus {earlier later : TrustKeyStatus}
    (reached : LaterStatus earlier later) (left : HasLeft earlier) :
    HasLeft later := by
  induction reached with
  | single allowed =>
      rename_i later
      cases earlier <;> cases later <;>
        simp_all [transitions, HasLeft]
  | tail reached allowed inductionHypothesis =>
      rename_i middle last
      cases middle <;> cases last <;>
        simp_all [transitions, HasLeft]

/-- A compromised key has no later status, and a revoked one only that. -/
theorem laterStatus_of_revoked {earlier later : TrustKeyStatus}
    (reached : LaterStatus earlier later)
    (ended : earlier = .revoked ∨ earlier = .compromised) :
    earlier = .revoked ∧ later = .compromised := by
  induction reached with
  | single allowed =>
      rename_i later
      rcases ended with rfl | rfl <;> cases later <;>
        simp_all [transitions]
  | tail reached allowed inductionHypothesis =>
      rename_i last
      rw [inductionHypothesis.2] at allowed
      cases last <;> simp [transitions] at allowed

theorem KeyMoved.trans {first second third : TrustKeyRow}
    (moved : KeyMoved first second) (next : KeyMoved second third) :
    KeyMoved first third where
  identityId := next.identityId.trans moved.identityId
  algorithm := next.algorithm.trans moved.algorithm
  publicKey := next.publicKey.trans moved.publicKey
  publicKeyEncoding := next.publicKeyEncoding.trans moved.publicKeyEncoding
  purpose := next.purpose.trans moved.purpose
  scopeId := next.scopeId.trans moved.scopeId
  providerType := next.providerType.trans moved.providerType
  providerKeyReference :=
    next.providerKeyReference.trans moved.providerKeyReference
  validFrom := next.validFrom.trans moved.validFrom
  validUntil := by
    rcases next.validUntil with same | ⟨before, after⟩
    · rw [same]
      refine moved.validUntil.imp_right fun changed => ?_
      exact ⟨changed.1, hasLeft_of_laterStatus next.status changed.2⟩
    · refine .inr ⟨fun left => before ?_, after⟩
      exact hasLeft_of_laterStatus moved.status left
  predecessor := next.predecessor.trans moved.predecessor
  createdAt := next.createdAt.trans moved.createdAt
  status := Relation.TransGen.trans moved.status next.status
  time := moved.time.trans next.time

theorem keyFollows_refl (row : TrustKeyRow) : KeyFollows row row :=
  .inl rfl

theorem keyFollows_trans (first second third : TrustKeyRow)
    (follows : KeyFollows first second) (next : KeyFollows second third) :
    KeyFollows first third := by
  rcases follows with rfl | moved
  · exact next
  · rcases next with rfl | later
    · exact .inr moved
    · exact .inr (moved.trans later)

theorem KeyFollows.hasLeft {old new : TrustKeyRow}
    (follows : KeyFollows old new) (left : HasLeft old.status) :
    HasLeft new.status := by
  rcases follows with rfl | moved
  · exact left
  · exact hasLeft_of_laterStatus moved.status left

theorem KeyFollows.purpose {old new : TrustKeyRow}
    (follows : KeyFollows old new) :
    new.identityId = old.identityId ∧ new.purpose = old.purpose ∧
      new.scopeId = old.scopeId ∧ new.predecessor? = old.predecessor? := by
  rcases follows with rfl | moved
  · exact ⟨rfl, rfl, rfl, rfl⟩
  · exact ⟨moved.identityId, moved.purpose, moved.scopeId,
      moved.predecessor⟩

/-! ## The table -/

/-- The key that a replacement replaces. -/
structure Succeeds (predecessor row : TrustKeyRow) : Prop where
  version : row.keyVersion = predecessor.keyVersion + 1
  identityId : row.identityId = predecessor.identityId
  purpose : row.purpose = predecessor.purpose
  scopeId : row.scopeId = predecessor.scopeId
  left : HasLeft predecessor.status

structure KeysConsistent (keys : List TrustKeyRow) : Prop where
  checked : ∀ row ∈ keys, row.checks = true
  unshared : keys.Pairwise fun earlier row => row.sharesKey earlier = false
  lineage : ∀ row ∈ keys, ∀ wanted ∈ row.predecessor?,
    ∃ predecessor ∈ keys, predecessor.identity = wanted ∧
      Succeeds predecessor row

theorem sharesKey_comm (left right : TrustKeyRow) :
    left.sharesKey right = right.sharesKey left := by
  rw [Bool.eq_iff_iff]
  simp only [TrustKeyRow.sharesKey, Bool.or_eq_true, Bool.and_eq_true,
    beq_iff_eq]
  constructor <;>
  · rintro (((same | provider) | active) | predecessor)
    · exact .inl (.inl (.inl same.symm))
    · exact .inl (.inl (.inr ⟨⟨⟨provider.1.1.1.symm, provider.1.1.2.symm⟩,
        provider.1.2.symm⟩, provider.2.symm⟩))
    · exact .inl (.inr ⟨⟨⟨⟨active.1.1.1.2, active.1.1.1.1⟩,
        active.1.1.2.symm⟩, active.1.2.symm⟩, active.2.symm⟩)
    · exact .inr ⟨predecessor.2 ▸ predecessor.1, predecessor.2.symm⟩

theorem KeysConsistent.distinct {keys : List TrustKeyRow}
    (consistent : KeysConsistent keys) :
    (keys.map TrustKeyRow.identity).Nodup := by
  rw [List.Nodup, List.pairwise_map]
  refine consistent.unshared.imp ?_
  intro earlier row unshared same
  rw [TrustKeyRow.sharesKey, same, beq_self_eq_true] at unshared
  simp at unshared

/-- A scope has one active key. -/
theorem KeysConsistent.oneActive {keys : List TrustKeyRow}
    (consistent : KeysConsistent keys) {first second : TrustKeyRow}
    (isFirst : first ∈ keys) (isSecond : second ∈ keys)
    (firstActive : first.status = .active)
    (secondActive : second.status = .active)
    (sameTenant : first.tenantId = second.tenantId)
    (samePurpose : first.purpose = second.purpose)
    (sameScope : first.scopeId = second.scopeId) : first = second := by
  by_contra different
  have symmetric : Std.Symm fun earlier row : TrustKeyRow =>
      row.sharesKey earlier = false :=
    ⟨fun left right unshared => (sharesKey_comm left right).trans unshared⟩
  have unshared := consistent.unshared.forall isFirst isSecond different
  simp [TrustKeyRow.sharesKey, firstActive, secondActive, sameTenant,
    samePurpose, sameScope] at unshared

theorem findKey_eq_some {database : TrustDatabase} {wanted : KeyIdentity}
    {row : TrustKeyRow} (found : findKey database wanted = some row) :
    row ∈ database.keys ∧ row.identity = wanted :=
  ⟨List.mem_of_find?_eq_some found, by
    simpa using List.find?_some found⟩

/-! ## What an accepted statement has passed -/

section Steps

variable {database next : TrustDatabase} {old new : TrustKeyRow}
  {wanted : KeyIdentity}

structure KeyAdmitted (database : TrustDatabase) (new : TrustKeyRow) :
    Prop where
  registered : ∀ identity ∈ new.predecessor?,
    ∃ predecessor ∈ database.keys, predecessor.identity = identity ∧
      Succeeds predecessor new
  checked : new.checks = true
  unshared : ∀ row ∈ database.keys, new.sharesKey row = false

theorem nextVersion_eq_ok {version following : Int} :
    nextVersion version = .ok following ↔
      version ≠ 2147483647 ∧ following = version + 1 := by
  unfold nextVersion
  by_cases largest : version = 2147483647
  · simp [largest]
  · rw [if_neg largest]
    simp [pure, Except.pure, largest, eq_comm]

theorem succeeds_of_enforceTrustKeyRegistration
    (enforced : enforceTrustKeyRegistration database new = .ok ()) :
    ∀ identity ∈ new.predecessor?, ∃ predecessor ∈ database.keys,
      predecessor.identity = identity ∧ Succeeds predecessor new := by
  intro identity isPredecessor
  have given : new.replacesKeyId.isSome = true := by
    rw [TrustKeyRow.predecessor?] at isPredecessor
    cases replaced : new.replacesKeyId with
    | none =>
        rw [replaced] at isPredecessor
        exact nomatch isPredecessor
    | some _ =>
        rfl
  rcases Option.isSome_iff_exists.mp given with ⟨keyId, replaced⟩
  rw [enforceTrustKeyRegistration, replaced] at enforced
  simp only [Option.mem_def.mp isPredecessor, Option.bind_some] at enforced
  cases found : findKey database identity with
  | none =>
      rw [found] at enforced
      exact nomatch enforced
  | some predecessor =>
      simp only [found] at enforced
      rcases bind_eq_ok.mp enforced with ⟨following, isNext, matched⟩
      rw [lastGuard_eq_ok] at matched
      rw [(nextVersion_eq_ok.mp isNext).2] at matched
      simp only [Bool.or_eq_true, bne_iff_ne, not_or, not_not] at matched
      rcases matched with
        ⟨⟨⟨⟨⟨retiring, _⟩, version⟩, identityId⟩, purpose⟩, scope⟩
      rcases findKey_eq_some found with ⟨member, isWanted⟩
      refine ⟨predecessor, member, isWanted, version, identityId, purpose,
        scope, ?_⟩
      rw [HasLeft, retiring]
      exact ⟨nofun, nofun⟩

theorem insertTrustKey_eq_ok
    (inserted : insertTrustKey database new = .ok next) :
    KeyAdmitted database new ∧
      next = { database with keys := database.keys ++ [new] } := by
  unfold insertTrustKey at inserted
  rcases bind_eq_ok.mp inserted with ⟨_, enforced, inserted⟩
  rw [guard_eq_ok, guard_eq_ok, guard_eq_ok] at inserted
  rcases inserted with ⟨checked, unshared, _, isNext⟩
  refine ⟨⟨succeeds_of_enforceTrustKeyRegistration enforced, ?_, ?_⟩,
    (Except.ok.inj isNext).symm⟩
  · simpa using checked
  · intro row member
    rw [List.any_eq_true] at unshared
    exact Bool.eq_false_of_not_eq_true
      fun shared => unshared ⟨row, member, shared⟩

/-- What the lifecycle trigger lets pass. -/
theorem keyMoved_of_enforceTrustKeyLifecycle
    (enforced : enforceTrustKeyLifecycle old new = .ok ()) :
    new.identity = old.identity ∧ KeyMoved old new := by
  unfold enforceTrustKeyLifecycle at enforced
  rw [guard_eq_ok, guard_eq_ok, lastGuard_eq_ok] at enforced
  rcases enforced with ⟨kept, allowed, later⟩
  simp only [TrustKeyRow.keepsMetadata, Bool.not_eq_true,
    Bool.not_eq_false', Bool.and_eq_true, Bool.or_eq_true,
    beq_iff_eq] at kept allowed
  rcases kept with ⟨⟨⟨⟨⟨⟨⟨⟨⟨⟨⟨⟨⟨⟨⟨keyId, version⟩, tenant⟩, identityId⟩,
    algorithm⟩, publicKey⟩, encoding⟩, purpose⟩, scope⟩, provider⟩,
    reference⟩, validFrom⟩, validUntil⟩, replacesId⟩, replacesVersion⟩,
    createdAt⟩
  refine ⟨?_, ?_⟩
  · rw [TrustKeyRow.identity, keyId, version, tenant]
    rfl
  · refine
      { identityId, algorithm, publicKey, purpose, validFrom, createdAt
        publicKeyEncoding := encoding
        scopeId := scope
        providerType := provider
        providerKeyReference := reference
        validUntil := ?_
        predecessor := ?_
        status := .single (lifecycleAllows_iff.mp allowed)
        time := not_le.mp later }
    · refine validUntil.imp_right fun retires => ?_
      rw [HasLeft, HasLeft, retires.1.1, retires.1.2]
      exact ⟨fun left => left.2 rfl, nofun, nofun⟩
    · rw [TrustKeyRow.predecessor?, replacesId, replacesVersion, tenant]
      rfl

/-- An update of a key that is there. -/
structure KeyUpdated (database : TrustDatabase) (wanted : KeyIdentity)
    (old new : TrustKeyRow) : Prop where
  member : old ∈ database.keys
  isWanted : old.identity = wanted
  sameIdentity : new.identity = wanted
  moved : KeyMoved old new
  checked : new.checks = true
  unshared : ∀ row ∈ database.keys, row.identity ≠ wanted →
    new.sharesKey row = false

theorem updateTrustKey_eq_ok
    (updated : updateTrustKey database wanted new = .ok next) :
    next = database ∨
      (∃ old, KeyUpdated database wanted old new) ∧
        next = { database with
          keys := replace TrustKeyRow.identity wanted new database.keys } := by
  unfold updateTrustKey at updated
  cases found : findKey database wanted with
  | none =>
      rw [found] at updated
      exact .inl (Except.ok.inj updated).symm
  | some old =>
      simp only [found] at updated
      rcases bind_eq_ok.mp updated with ⟨_, enforced, updated⟩
      rw [guard_eq_ok, guard_eq_ok] at updated
      rcases updated with ⟨checked, unshared, isNext⟩
      rcases findKey_eq_some found with ⟨member, isWanted⟩
      rcases keyMoved_of_enforceTrustKeyLifecycle enforced with
        ⟨sameIdentity, moved⟩
      refine .inr ⟨⟨old, member, isWanted, sameIdentity.trans isWanted, moved,
        by simpa using checked, ?_⟩, (Except.ok.inj isNext).symm⟩
      intro row inKeys other
      rw [List.any_eq_true] at unshared
      refine Bool.eq_false_of_not_eq_true fun shared => unshared ?_
      exact ⟨row, inKeys, by simp [other, shared]⟩

/-- The evidence agrees with its key when it is recorded. -/
def Evidences (evidence : KeyRevocationRow) (key : TrustKeyRow) : Prop :=
  key.identity = (evidence.tenantId, evidence.keyId, evidence.keyVersion) ∧
    match evidence.revocationType with
    | .revoked => key.status = .revoked ∧
        key.revokedAt = some evidence.effectiveAt
    | .compromised => key.status = .compromised ∧
        key.compromisedAt = some evidence.effectiveAt

theorem insertKeyRevocation_eq_ok {evidence : KeyRevocationRow}
    (inserted : insertKeyRevocation database evidence = .ok next) :
    (∃ key ∈ database.keys, Evidences evidence key) ∧
      next = { database with
        revocations := database.revocations ++ [evidence] } := by
  unfold insertKeyRevocation at inserted
  rcases bind_eq_ok.mp inserted with ⟨_, enforced, inserted⟩
  rw [guard_eq_ok, guard_eq_ok, guard_eq_ok] at inserted
  refine ⟨?_, (Except.ok.inj inserted.2.2.2).symm⟩
  unfold enforceTrustRevocationEvidence at enforced
  cases found : findKey database
      (evidence.tenantId, evidence.keyId, evidence.keyVersion) with
  | none =>
      simp only [found] at enforced
      exact nomatch enforced
  | some key =>
      simp only [found, Option.any_some] at enforced
      split_ifs at enforced with matched
      rcases findKey_eq_some found with ⟨member, isWanted⟩
      refine ⟨key, member, isWanted, ?_⟩
      cases isType : evidence.revocationType with
      | revoked =>
          simpa [isType] using matched
      | compromised =>
          simpa [isType] using matched

end Steps

/-! ## What a statement keeps -/

section Keeps

variable {keys after : List TrustKeyRow} {old new : TrustKeyRow}
  {wanted : KeyIdentity}

/-- A replacement still succeeds its key when both have moved. -/
theorem Succeeds.follows {predecessor row laterPredecessor later :
      TrustKeyRow} (succeeds : Succeeds predecessor row)
    (sameIdentity : laterPredecessor.identity = predecessor.identity)
    (sameRow : later.identity = row.identity)
    (follows : KeyFollows predecessor laterPredecessor)
    (rowFollows : KeyFollows row later) :
    Succeeds laterPredecessor later := by
  have version : laterPredecessor.keyVersion = predecessor.keyVersion :=
    congrArg (fun identity => identity.2.2) sameIdentity
  have rowVersion : later.keyVersion = row.keyVersion :=
    congrArg (fun identity => identity.2.2) sameRow
  rcases follows.purpose with ⟨identityId, purpose, scope, _⟩
  rcases rowFollows.purpose with ⟨rowIdentity, rowPurpose, rowScope, _⟩
  exact
    { version := by rw [rowVersion, version, succeeds.version]
      identityId := by rw [rowIdentity, identityId, succeeds.identityId]
      purpose := by rw [rowPurpose, purpose, succeeds.purpose]
      scopeId := by rw [rowScope, scope, succeeds.scopeId]
      left := follows.hasLeft succeeds.left }

/-- Every row follows an earlier one or was registered. -/
theorem lineage_of_evolves
    (evolves : Evolves TrustKeyRow.identity KeyFollows keys after)
    (consistent : KeysConsistent keys)
    (rows : ∀ row ∈ after,
      (∃ earlier ∈ keys, row.identity = earlier.identity) ∨
        ∀ wanted ∈ row.predecessor?, ∃ predecessor ∈ keys,
          predecessor.identity = wanted ∧ Succeeds predecessor row) :
    ∀ row ∈ after, ∀ wanted ∈ row.predecessor?, ∃ predecessor ∈ after,
      predecessor.identity = wanted ∧ Succeeds predecessor row := by
  intro row member wanted isWanted
  rcases rows row member with ⟨earlier, inKeys, same⟩ | registered
  · have rowFollows := evolves.follows earlier inKeys row member same
    rw [rowFollows.purpose.2.2.2] at isWanted
    rcases consistent.lineage earlier inKeys wanted isWanted with
      ⟨predecessor, wasThere, isPredecessor, succeeds⟩
    rcases evolves.kept predecessor wasThere with ⟨later, isThere, sameKey⟩
    have follows := evolves.follows predecessor wasThere later isThere sameKey
    exact ⟨later, isThere, sameKey.trans isPredecessor,
      succeeds.follows sameKey same follows rowFollows⟩
  · rcases registered wanted isWanted with
      ⟨predecessor, wasThere, isPredecessor, succeeds⟩
    rcases evolves.kept predecessor wasThere with ⟨later, isThere, sameKey⟩
    have follows := evolves.follows predecessor wasThere later isThere sameKey
    exact ⟨later, isThere, sameKey.trans isPredecessor,
      succeeds.follows sameKey rfl follows (keyFollows_refl row)⟩

theorem KeysConsistent.insert {database : TrustDatabase}
    (consistent : KeysConsistent database.keys)
    (admitted : KeyAdmitted database new) :
    KeysConsistent (database.keys ++ [new]) ∧
      Evolves TrustKeyRow.identity KeyFollows database.keys
        (database.keys ++ [new]) := by
  have free : ∀ row ∈ database.keys, row.identity ≠ new.identity := by
    intro row member same
    have unshared := admitted.unshared row member
    rw [TrustKeyRow.sharesKey, same, beq_self_eq_true] at unshared
    simp at unshared
  have evolves : Evolves TrustKeyRow.identity KeyFollows database.keys
      (database.keys ++ [new]) :=
    Evolves.insert keyFollows_refl consistent.distinct free
  refine ⟨⟨?_, ?_, lineage_of_evolves evolves consistent ?_⟩, evolves⟩
  · intro row member
    rcases List.mem_append.mp member with wasThere | isNew
    · exact consistent.checked row wasThere
    · rw [List.mem_singleton.mp isNew]
      exact admitted.checked
  · refine List.pairwise_append.mpr
      ⟨consistent.unshared, List.pairwise_singleton _ _, ?_⟩
    intro row member other isNew
    rw [List.mem_singleton.mp isNew]
    exact admitted.unshared row member
  · intro row member
    rcases List.mem_append.mp member with wasThere | isNew
    · exact .inl ⟨row, wasThere, rfl⟩
    · rw [List.mem_singleton.mp isNew]
      exact .inr admitted.registered

theorem KeysConsistent.update {database : TrustDatabase}
    (consistent : KeysConsistent database.keys)
    (updated : KeyUpdated database wanted old new) :
    KeysConsistent (replace TrustKeyRow.identity wanted new
        database.keys) ∧
      Evolves TrustKeyRow.identity KeyFollows database.keys
        (replace TrustKeyRow.identity wanted new database.keys) := by
  have evolves := Evolves.replace keyFollows_refl consistent.distinct
    updated.member updated.isWanted updated.sameIdentity (.inr updated.moved)
  refine ⟨⟨?_, ?_, lineage_of_evolves evolves consistent ?_⟩, evolves⟩
  · intro row member
    rcases mem_replace member with rfl | ⟨wasThere, _⟩
    · exact updated.checked
    · exact consistent.checked row wasThere
  · rw [replace, List.pairwise_map]
    refine consistent.unshared.imp_of_mem ?_
    intro earlier row earlierMember member unshared
    by_cases earlierWanted : earlier.identity = wanted
    · by_cases rowWanted : row.identity = wanted
      · rw [TrustKeyRow.sharesKey, earlierWanted, rowWanted,
          beq_self_eq_true] at unshared
        simp at unshared
      · rw [if_pos earlierWanted, if_neg rowWanted, sharesKey_comm]
        exact updated.unshared row member rowWanted
    · by_cases rowWanted : row.identity = wanted
      · rw [if_neg earlierWanted, if_pos rowWanted]
        exact updated.unshared earlier earlierMember earlierWanted
      · rw [if_neg earlierWanted, if_neg rowWanted]
        exact unshared
  · intro row member
    rcases mem_replace member with rfl | ⟨wasThere, _⟩
    · exact .inl ⟨old, updated.member,
        updated.sameIdentity.trans updated.isWanted.symm⟩
    · exact .inl ⟨row, wasThere, rfl⟩

end Keeps

/-- What a statement does to the keys. -/
theorem keys_of_keyStatementStep {database next : TrustDatabase}
    {statement : KeyStatement}
    (consistent : KeysConsistent database.keys)
    (stepped : keyStatementStep database statement = .ok next) :
    KeysConsistent next.keys ∧
      Evolves TrustKeyRow.identity KeyFollows database.keys next.keys := by
  have unchanged : next.keys = database.keys →
      KeysConsistent next.keys ∧
        Evolves TrustKeyRow.identity KeyFollows database.keys next.keys := by
    intro same
    rw [same]
    exact ⟨consistent, .refl keyFollows_refl consistent.distinct⟩
  cases statement with
  | insertKey new =>
      rcases insertTrustKey_eq_ok stepped with ⟨admitted, rfl⟩
      exact consistent.insert admitted
  | updateKey wanted new =>
      rcases updateTrustKey_eq_ok stepped with rfl | ⟨⟨old, updated⟩, rfl⟩
      · exact unchanged rfl
      · exact consistent.update updated
  | deleteKeys concerns =>
      unfold keyStatementStep deleteTrustKeys at stepped
      rw [guard_eq_ok] at stepped
      rw [← Except.ok.inj stepped.2] at unchanged ⊢
      exact unchanged rfl
  | insertRevocation new =>
      have isNext := (insertKeyRevocation_eq_ok stepped).2
      rw [isNext] at unchanged ⊢
      exact unchanged rfl
  | changeRevocations concerns =>
      rcases bind_eq_ok.mp stepped with ⟨_, _, same⟩
      rw [← Except.ok.inj same] at unchanged ⊢
      exact unchanged rfl

/-- Over every run of statements the table of the keys stays consistent, a
scope has one active key, no key is lost, and each key only moves along its
lifecycle. -/
theorem trustKeys_evolve {database next : TrustDatabase}
    {statements : List KeyStatement}
    (consistent : KeysConsistent database.keys)
    (ran : run keyStatementStep database statements = .ok next) :
    KeysConsistent next.keys ∧
      Evolves TrustKeyRow.identity KeyFollows database.keys next.keys ∧
      ∀ first ∈ next.keys, ∀ second ∈ next.keys,
        first.status = .active → second.status = .active →
          first.tenantId = second.tenantId →
            first.purpose = second.purpose →
              first.scopeId = second.scopeId → first = second := by
  have reached : KeysConsistent next.keys ∧
      Evolves TrustKeyRow.identity KeyFollows database.keys next.keys := by
    refine run_preserves keyStatementStep (fun state =>
      KeysConsistent state.keys ∧
        Evolves TrustKeyRow.identity KeyFollows database.keys state.keys) ?_
      ⟨consistent, .refl keyFollows_refl consistent.distinct⟩ ran
    intro state statement after before stepped
    rcases keys_of_keyStatementStep before.1 stepped with ⟨kept, evolves⟩
    exact ⟨kept, before.2.trans keyFollows_trans evolves⟩
  refine ⟨reached.1, reached.2, ?_⟩
  intro first isFirst second isSecond
  exact reached.1.oneActive isFirst isSecond

/-! ## A key that is replaced and revoked -/

def platformTables : TrustDatabase :=
  { oneTenant with
    cryptoIdentities := [(js "identity-1", js "tenant-1")]
    algorithms := [(js "ed25519", js "signature")] }

def firstKey : TrustKeyRow where
  keyId := js "key-1"
  keyVersion := 1
  tenantId := js "tenant-1"
  structureVersion := js "1"
  identityId := js "identity-1"
  algorithm := js "ed25519"
  operation := js "signature"
  publicKey := js "MCow"
  publicKeyEncoding := js "spki-der-base64url"
  purpose := .settingsSigning
  scopeId := js "settings"
  providerType := .kms
  providerKeyReference := js "provider-1"
  status := .pending
  validFrom := 0
  validUntil := none
  statusChangedAt := 0
  replacesKeyId := none
  replacesKeyVersion := none
  revokedAt := none
  compromisedAt := none
  metadata := .object []
  createdAt := 0

def activeKey : TrustKeyRow :=
  { firstKey with status := .active, statusChangedAt := 1 }

def retiringKey : TrustKeyRow :=
  { activeKey with
    status := .retiring, statusChangedAt := 2, validUntil := some 2 }

def secondKey : TrustKeyRow :=
  { firstKey with
    keyVersion := 2
    providerKeyReference := js "provider-2"
    statusChangedAt := 3
    replacesKeyId := some (js "key-1")
    replacesKeyVersion := some 1 }

def revokedKey : TrustKeyRow :=
  { retiringKey with
    status := .revoked, statusChangedAt := 5, revokedAt := some 5 }

def revocation : KeyRevocationRow where
  revocationId := js "revocation-1"
  tenantId := js "tenant-1"
  keyId := js "key-1"
  keyVersion := 1
  revocationType := .revoked
  reasonCode := js "superseded"
  effectiveAt := 5
  recordedAt := 6
  actorIdentityId := none
  idempotencyKey := js "revoke-key-1"
  metadata := .object []

def rotation : List KeyStatement :=
  [.insertKey firstKey,
    .updateKey firstKey.identity activeKey,
    .updateKey firstKey.identity retiringKey,
    .insertKey secondKey,
    .updateKey secondKey.identity
      { secondKey with status := .active, statusChangedAt := 4 },
    .updateKey firstKey.identity revokedKey,
    .insertRevocation revocation]

theorem keysConsistent_nil : KeysConsistent [] :=
  ⟨by simp, .nil, by simp⟩

theorem rotation_accepted :
    ∃ next, run keyStatementStep platformTables rotation = .ok next := by
  have succeeds :
      (run keyStatementStep platformTables rotation).isOk = true := by
    decide +kernel
  exact isOk_iff.mp succeeds

theorem trustKeys_evolve_rotation :
    ∃ next, run keyStatementStep platformTables rotation = .ok next ∧
      KeysConsistent next.keys := by
  rcases rotation_accepted with ⟨next, ran⟩
  exact ⟨next, ran, (trustKeys_evolve keysConsistent_nil ran).1⟩

/-! ## The evidence of revocations -/

/-- What evidence still says of its key: that a key that was revoked may have
been compromised since, and nothing else. -/
def StillEvidences (evidence : KeyRevocationRow) (key : TrustKeyRow) :
    Prop :=
  Evidences evidence key ∨
    evidence.revocationType = .revoked ∧ key.status = .compromised ∧
      key.identity = (evidence.tenantId, evidence.keyId, evidence.keyVersion)

theorem StillEvidences.follows {evidence : KeyRevocationRow}
    {key later : TrustKeyRow} (evidences : StillEvidences evidence key)
    (sameIdentity : later.identity = key.identity)
    (follows : KeyFollows key later) : StillEvidences evidence later := by
  rcases follows with rfl | moved
  · exact evidences
  · rcases evidences with ⟨isKey, evidences⟩ | ⟨_, compromised, _⟩
    · cases isType : evidence.revocationType with
      | revoked =>
          simp only [isType] at evidences
          have ended := laterStatus_of_revoked moved.status
            (.inl evidences.1)
          exact .inr ⟨isType, ended.2, sameIdentity.trans isKey⟩
      | compromised =>
          simp only [isType] at evidences
          have ended := laterStatus_of_revoked moved.status
            (.inr evidences.1)
          rw [evidences.1] at ended
          exact nomatch ended.1
    · have ended := laterStatus_of_revoked moved.status (.inr compromised)
      rw [compromised] at ended
      exact nomatch ended.1

structure EvidenceConsistent (database : TrustDatabase) : Prop where
  keys : KeysConsistent database.keys
  evidenced : ∀ evidence ∈ database.revocations,
    ∃ key ∈ database.keys, StillEvidences evidence key

/-- Recorded evidence is never lost, and always says what is true of its
key. -/
theorem revocationEvidence_stands {database next : TrustDatabase}
    {statements : List KeyStatement}
    (consistent : EvidenceConsistent database)
    (ran : run keyStatementStep database statements = .ok next) :
    EvidenceConsistent next ∧
      database.revocations <+: next.revocations := by
  refine run_preserves keyStatementStep (fun state =>
    EvidenceConsistent state ∧
      database.revocations <+: state.revocations) ?_
    ⟨consistent, List.prefix_rfl⟩ ran
  intro state statement after before stepped
  rcases keys_of_keyStatementStep before.1.keys stepped with
    ⟨keys, evolves⟩
  have evidenced : ∀ evidence ∈ state.revocations,
      ∃ key ∈ after.keys, StillEvidences evidence key := by
    intro evidence member
    rcases before.1.evidenced evidence member with
      ⟨key, wasThere, evidences⟩
    rcases evolves.kept key wasThere with ⟨later, isThere, sameIdentity⟩
    exact ⟨later, isThere, evidences.follows sameIdentity
      (evolves.follows key wasThere later isThere sameIdentity)⟩
  have unchanged : after.revocations = state.revocations →
      EvidenceConsistent after ∧
        database.revocations <+: after.revocations := by
    intro same
    refine ⟨⟨keys, ?_⟩, ?_⟩
    · rw [same]
      exact evidenced
    · rw [same]
      exact before.2
  cases statement with
  | insertKey new =>
      refine unchanged ?_
      rw [(insertTrustKey_eq_ok stepped).2]
  | updateKey wanted new =>
      refine unchanged ?_
      rcases updateTrustKey_eq_ok stepped with same | ⟨_, same⟩
      · rw [same]
      · rw [same]
  | deleteKeys concerns =>
      refine unchanged ?_
      unfold keyStatementStep deleteTrustKeys at stepped
      rw [guard_eq_ok] at stepped
      rw [← Except.ok.inj stepped.2]
  | insertRevocation new =>
      rcases insertKeyRevocation_eq_ok stepped with
        ⟨⟨key, member, evidences⟩, rfl⟩
      refine ⟨⟨keys, ?_⟩, before.2.trans (List.prefix_append _ _)⟩
      intro evidence isRecorded
      rcases List.mem_append.mp isRecorded with wasThere | isNew
      · exact evidenced evidence wasThere
      · rw [List.mem_singleton.mp isNew]
        exact ⟨key, member, .inl evidences⟩
  | changeRevocations concerns =>
      refine unchanged ?_
      rcases bind_eq_ok.mp stepped with ⟨_, _, same⟩
      rw [← Except.ok.inj same]

theorem revocationEvidence_stands_rotation :
    ∃ next, run keyStatementStep platformTables rotation = .ok next ∧
      EvidenceConsistent next := by
  rcases rotation_accepted with ⟨next, ran⟩
  have consistent : EvidenceConsistent platformTables :=
    ⟨keysConsistent_nil, by simp [platformTables, oneTenant]⟩
  exact ⟨next, ran, (revocationEvidence_stands consistent ran).1⟩

end BidayaxExecutive.TrustStore
