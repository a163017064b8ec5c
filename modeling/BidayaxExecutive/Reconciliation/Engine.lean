import BidayaxExecutive.Reconciliation.SchemaObjects
import BidayaxExecutive.Runtime.JsMap
import BidayaxExecutive.Library.Selections

/-!
# Reconciliation of a migration

The objects of a migration's manifest are looked up in the live inventory by
their keys and compared; the counts of what was found, and whether the ledger
names the migration, decide its classification.
-/

namespace BidayaxExecutive.Reconciliation

open BidayaxExecutive.Runtime JsString
open BidayaxExecutive.Library.Selections

inductive RiskLevel where
  | low
  | moderate
  | high
  | critical
  deriving DecidableEq, Repr

/-- Of a `CanonicalMigrationManifest`, what the reconciliation reads. -/
structure CanonicalMigrationManifest where
  migrationId : JsString
  objects : List SchemaObject
  lockRiskClassification : RiskLevel

inductive LedgerStatus where
  | recorded
  | notRecorded
  | unknown
  deriving DecidableEq, Repr

inductive SchemaStatus where
  | exact
  | partly
  | absent
  | drift
  | unknown
  deriving DecidableEq, Repr

inductive MigrationClassification where
  | alreadyAppliedAndRecorded
  | alreadyAppliedNotRecorded
  | partiallyApplied
  | notApplied
  | schemaDrift
  | unsafeToReplay
  | requiresManualBaseline
  | requiresCorrectiveMigration
  | blocked
  deriving DecidableEq, Repr

inductive RecommendedAction where
  | baselineLedgerOnly
  | createCorrectiveMigration
  | eligibleForControlledApplication
  | manualReviewRequired
  | block
  deriving DecidableEq, Repr

structure MigrationReconciliationResult where
  migrationId : JsString
  ledgerStatus : LedgerStatus
  schemaStatus : SchemaStatus
  classification : MigrationClassification
  recommendedAction : RecommendedAction
  compatibilityRisk : RiskLevel
  evidence : List JsString
  deriving DecidableEq, Repr

/-! ## Scope -/

def tableScopedObjectTypes : List SchemaDefinitionObjectType :=
  [.column, .primaryKey, .foreignKey, .uniqueConstraint, .checkConstraint,
    .index, .trigger, .policy, .comment, .rowLevelSecurity]

def getTableScopeName (object : SchemaObject) : Option JsString :=
  if object.objectType ∉ tableScopedObjectTypes then none
  else
    match object.parentObject with
    | some (unit :: rest) => some (unit :: rest)
    | _ =>
        if object.objectType = .comment ∨
            object.objectType = .rowLevelSecurity then
          some object.objectName
        else none

/-- An empty scope name names no table. -/
def tablesOf (object : SchemaObject) : List JsString :=
  (if object.objectType = .table then [object.objectName] else []) ++
    (getTableScopeName object).toList.filter fun tableName =>
      !tableName.isEmpty

def collectCanonicalTables (manifest : CanonicalMigrationManifest) :
    List JsString :=
  manifest.objects.flatMap tablesOf

def isWithinCanonicalScope (object : SchemaObject)
    (canonicalTables : List JsString) : Bool :=
  (getTableScopeName object).any fun tableName => tableName ∈ canonicalTables

/-! ## Counts -/

structure ReconciliationCounts where
  evidence : List JsString
  exactMatches : Nat
  missingObjects : Nat
  mismatchedObjects : Nat
  unknownObjects : Nat
  extraScopedObjects : Nat

namespace ReconciliationCounts

def empty : ReconciliationCounts :=
  ⟨[], 0, 0, 0, 0, 0⟩

def note (counts : ReconciliationCounts) (object : SchemaObject)
    (finding : JsString) : ReconciliationCounts :=
  { counts with
    evidence := counts.evidence ++
      [object.objectType.text ++ js " " ++ object.objectName ++ finding] }

def missing (counts : ReconciliationCounts) (object : SchemaObject) :
    ReconciliationCounts :=
  { counts.note object (js " missing") with
    missingObjects := counts.missingObjects + 1 }

def compared (counts : ReconciliationCounts) (object : SchemaObject) :
    ObjectComparisonResult → ReconciliationCounts
  | .exact => { counts with exactMatches := counts.exactMatches + 1 }
  | .unknown =>
      { counts.note object
          (js " lacks sufficient definition evidence for safe equivalence") with
        unknownObjects := counts.unknownObjects + 1 }
  | .mismatched =>
      { counts.note object (js " differs from canonical expectation") with
        mismatchedObjects := counts.mismatchedObjects + 1 }

def extra (counts : ReconciliationCounts) (object : SchemaObject) :
    ReconciliationCounts :=
  { counts.note object
      (js " is unexpectedly present in canonical scope") with
    extraScopedObjects := counts.extraScopedObjects + 1 }

end ReconciliationCounts

section Platform

variable (platform : SchemaPlatform)

/-- The first loop, over the objects of the manifest. -/
def countObject (byKey : JsMap JsString SchemaObject)
    (counts : ReconciliationCounts) (object : SchemaObject) :
    ReconciliationCounts :=
  match byKey.get (makeKey object) with
  | none => counts.missing object
  | some liveObject =>
      counts.compared object (compareObjects platform object liveObject)

/-- The second loop, over the inventory. -/
def countLive (manifestKeys knownCanonicalKeys canonicalTables : List JsString)
    (counts : ReconciliationCounts) (liveObject : SchemaObject) :
    ReconciliationCounts :=
  if makeKey liveObject ∈ manifestKeys ∨
      makeKey liveObject ∈ knownCanonicalKeys then counts
  else if !isWithinCanonicalScope liveObject canonicalTables then counts
  else counts.extra liveObject

def reconciliationCounts (manifest : CanonicalMigrationManifest)
    (inventory knownCanonicalObjects : List SchemaObject) :
    ReconciliationCounts :=
  let byKey := JsMap.ofEntries <|
    inventory.map fun object => (makeKey object, object)
  let manifestKeys := manifest.objects.map makeKey
  let knownCanonicalKeys := knownCanonicalObjects.map makeKey
  let canonicalTables := collectCanonicalTables manifest
  inventory.foldl (countLive manifestKeys knownCanonicalKeys canonicalTables) <|
    manifest.objects.foldl (countObject platform byKey) .empty

/-! ## The classification -/

def ledgerStatus (manifest : CanonicalMigrationManifest)
    (recordedMigrationIds : List JsString) : LedgerStatus :=
  if manifest.migrationId ∈ recordedMigrationIds then .recorded
  else if recordedMigrationIds.length > 0 then .notRecorded
  else .unknown

def reconciliationResult (manifest : CanonicalMigrationManifest)
    (ledgerStatus : LedgerStatus) (counts : ReconciliationCounts) :
    MigrationReconciliationResult :=
  let totalObjects := manifest.objects.length
  let exact := counts.exactMatches = totalObjects ∧
    counts.mismatchedObjects = 0 ∧ counts.missingObjects = 0 ∧
    counts.extraScopedObjects = 0 ∧ counts.unknownObjects = 0
  let absent := counts.exactMatches = 0 ∧
    counts.missingObjects = totalObjects ∧ counts.mismatchedObjects = 0 ∧
    counts.extraScopedObjects = 0
  let partly := counts.missingObjects > 0 ∧ ¬ absent
  let drift := counts.missingObjects = 0 ∧ counts.unknownObjects = 0 ∧
    (counts.mismatchedObjects > 0 ∨ counts.extraScopedObjects > 0)
  if exact ∧ ledgerStatus = .recorded then
    { migrationId := manifest.migrationId
      ledgerStatus := ledgerStatus
      schemaStatus := .exact
      classification := .alreadyAppliedAndRecorded
      recommendedAction := .manualReviewRequired
      compatibilityRisk := .low
      evidence := [js "schema exactly matches canonical manifest",
        js "migration already recorded"] }
  else if exact then
    { migrationId := manifest.migrationId
      ledgerStatus := ledgerStatus
      schemaStatus := .exact
      classification := .alreadyAppliedNotRecorded
      recommendedAction := .baselineLedgerOnly
      compatibilityRisk := .low
      evidence := [js "schema exactly matches canonical manifest",
        js "migration ledger entry missing or unknown"] }
  else if counts.unknownObjects > 0 then
    { migrationId := manifest.migrationId
      ledgerStatus := ledgerStatus
      schemaStatus := .unknown
      classification := .blocked
      recommendedAction := .block
      compatibilityRisk := .critical
      evidence := counts.evidence }
  else if partly then
    { migrationId := manifest.migrationId
      ledgerStatus := ledgerStatus
      schemaStatus := .partly
      classification := .partiallyApplied
      recommendedAction := .createCorrectiveMigration
      compatibilityRisk := .high
      evidence := counts.evidence }
  else if drift then
    { migrationId := manifest.migrationId
      ledgerStatus := ledgerStatus
      schemaStatus := .drift
      classification := .schemaDrift
      recommendedAction := .manualReviewRequired
      compatibilityRisk := .critical
      evidence := counts.evidence }
  else if absent then
    { migrationId := manifest.migrationId
      ledgerStatus := ledgerStatus
      schemaStatus := .absent
      classification := .notApplied
      recommendedAction := .eligibleForControlledApplication
      compatibilityRisk :=
        if manifest.lockRiskClassification = .high then .high else .moderate
      evidence := [js "no canonical objects found in live schema"] }
  else
    { migrationId := manifest.migrationId
      ledgerStatus := ledgerStatus
      schemaStatus := .unknown
      classification := .blocked
      recommendedAction := .block
      compatibilityRisk := .critical
      evidence :=
        if counts.evidence.length > 0 then counts.evidence
        else [js "unable to determine reconciliation state"] }

/-- `knownCanonicalObjects` defaults to the objects of the manifest. -/
def reconcileMigration (manifest : CanonicalMigrationManifest)
    (inventory : List SchemaObject) (recordedMigrationIds : List JsString)
    (knownCanonicalObjects : Option (List SchemaObject)) :
    MigrationReconciliationResult :=
  reconciliationResult manifest (ledgerStatus manifest recordedMigrationIds)
    (reconciliationCounts platform manifest inventory
      (knownCanonicalObjects.getD manifest.objects))

/-! ## What the counts count -/

/-- What the first loop finds for one object. -/
def finding (byKey : JsMap JsString SchemaObject) (object : SchemaObject) :
    Option ObjectComparisonResult :=
  (byKey.get (makeKey object)).map (compareObjects platform object)

theorem countObject_counts (byKey : JsMap JsString SchemaObject)
    (counts : ReconciliationCounts) (object : SchemaObject) :
    let next := countObject platform byKey counts object
    let found := finding platform byKey object
    next.exactMatches =
        counts.exactMatches + (if found = some .exact then 1 else 0) ∧
      next.missingObjects =
        counts.missingObjects + (if found = none then 1 else 0) ∧
      next.mismatchedObjects =
        counts.mismatchedObjects +
          (if found = some .mismatched then 1 else 0) ∧
      next.unknownObjects =
        counts.unknownObjects + (if found = some .unknown then 1 else 0) ∧
      next.extraScopedObjects = counts.extraScopedObjects := by
  unfold countObject finding
  cases byKey.get (makeKey object) with
  | none =>
      simp [ReconciliationCounts.missing, ReconciliationCounts.note]
  | some liveObject =>
      cases comparison : compareObjects platform object liveObject <;>
        simp [ReconciliationCounts.compared, ReconciliationCounts.note,
          comparison]

theorem foldl_countObject_counts (byKey : JsMap JsString SchemaObject)
    (objects : List SchemaObject) (counts : ReconciliationCounts) :
    let last := objects.foldl (countObject platform byKey) counts
    let findings := objects.map (finding platform byKey)
    last.exactMatches = counts.exactMatches + findings.count (some .exact) ∧
      last.missingObjects = counts.missingObjects + findings.count none ∧
      last.mismatchedObjects =
        counts.mismatchedObjects + findings.count (some .mismatched) ∧
      last.unknownObjects =
        counts.unknownObjects + findings.count (some .unknown) ∧
      last.extraScopedObjects = counts.extraScopedObjects := by
  induction objects generalizing counts with
  | nil =>
      simp
  | cons object rest inductionHypothesis =>
      have step := countObject_counts platform byKey counts object
      have later := inductionHypothesis (countObject platform byKey counts object)
      simp only [List.foldl_cons, List.map_cons, List.count_cons,
        beq_iff_eq] at step later ⊢
      omega

end Platform

/-- A live object that the second loop counts. -/
def IsExtra (manifest : CanonicalMigrationManifest)
    (knownCanonicalObjects : List SchemaObject) (object : SchemaObject) :
    Prop :=
  makeKey object ∉ manifest.objects.map makeKey ∧
    makeKey object ∉ knownCanonicalObjects.map makeKey ∧
    isWithinCanonicalScope object (collectCanonicalTables manifest) = true

instance (manifest : CanonicalMigrationManifest)
    (knownCanonicalObjects : List SchemaObject) :
    DecidablePred (IsExtra manifest knownCanonicalObjects) :=
  fun _ => inferInstanceAs (Decidable (_ ∧ _ ∧ _))

theorem foldl_countLive_counts (manifest : CanonicalMigrationManifest)
    (knownCanonicalObjects inventory : List SchemaObject)
    (counts : ReconciliationCounts) :
    let last := inventory.foldl (countLive (manifest.objects.map makeKey)
      (knownCanonicalObjects.map makeKey) (collectCanonicalTables manifest))
      counts
    last.exactMatches = counts.exactMatches ∧
      last.missingObjects = counts.missingObjects ∧
      last.mismatchedObjects = counts.mismatchedObjects ∧
      last.unknownObjects = counts.unknownObjects ∧
      last.extraScopedObjects = counts.extraScopedObjects +
        inventory.countP (IsExtra manifest knownCanonicalObjects ·) := by
  induction inventory generalizing counts with
  | nil =>
      simp
  | cons liveObject rest inductionHypothesis =>
      rw [List.foldl_cons, List.countP_cons]
      by_cases isExtra : IsExtra manifest knownCanonicalObjects liveObject
      · have counted : countLive (manifest.objects.map makeKey)
            (knownCanonicalObjects.map makeKey)
            (collectCanonicalTables manifest) counts liveObject =
            counts.extra liveObject := by
          obtain ⟨notManifest, notKnown, inScope⟩ := isExtra
          rw [countLive, if_neg (not_or.mpr ⟨notManifest, notKnown⟩),
            if_neg (by simp [inScope])]
        have later := inductionHypothesis (counts.extra liveObject)
        simp only [ReconciliationCounts.extra, ReconciliationCounts.note]
          at later
        rw [counted, if_pos (decide_eq_true isExtra)]
        simp only [ReconciliationCounts.extra, ReconciliationCounts.note]
        omega
      · have passed : countLive (manifest.objects.map makeKey)
            (knownCanonicalObjects.map makeKey)
            (collectCanonicalTables manifest) counts liveObject = counts := by
          rw [countLive]
          split_ifs with named outside
          · rfl
          · rfl
          · rw [not_or] at named
            exact absurd ⟨named.1, named.2, by simpa using outside⟩ isExtra
        have later := inductionHypothesis counts
        rw [passed, if_neg (by simpa using isExtra)]
        omega

theorem reconciliationCounts_counts (platform : SchemaPlatform)
    (manifest : CanonicalMigrationManifest)
    (inventory knownCanonicalObjects : List SchemaObject) :
    let counts := reconciliationCounts platform manifest inventory
      knownCanonicalObjects
    let findings := manifest.objects.map <| finding platform <|
      JsMap.ofEntries (inventory.map fun object => (makeKey object, object))
    counts.exactMatches = findings.count (some .exact) ∧
      counts.missingObjects = findings.count none ∧
      counts.mismatchedObjects = findings.count (some .mismatched) ∧
      counts.unknownObjects = findings.count (some .unknown) ∧
      counts.extraScopedObjects =
        inventory.countP (IsExtra manifest knownCanonicalObjects ·) := by
  have first := foldl_countObject_counts platform
    (JsMap.ofEntries (inventory.map fun object => (makeKey object, object)))
    manifest.objects .empty
  have second := foldl_countLive_counts manifest knownCanonicalObjects inventory
    (manifest.objects.foldl (countObject platform (JsMap.ofEntries
      (inventory.map fun object => (makeKey object, object)))) .empty)
  obtain ⟨firstExact, firstMissing, firstMismatched, firstUnknown,
    firstExtra⟩ := first
  obtain ⟨sameExact, sameMissing, sameMismatched, sameUnknown,
    addedExtra⟩ := second
  refine ⟨?_, ?_, ?_, ?_, ?_⟩
  · exact (sameExact.trans firstExact).trans (Nat.zero_add _)
  · exact (sameMissing.trans firstMissing).trans (Nat.zero_add _)
  · exact (sameMismatched.trans firstMismatched).trans (Nat.zero_add _)
  · exact (sameUnknown.trans firstUnknown).trans (Nat.zero_add _)
  · rw [firstExtra] at addedExtra
    exact addedExtra.trans (Nat.zero_add _)

end BidayaxExecutive.Reconciliation
