import BidayaxExecutive.Reconciliation.Engine

/-!
# When a baseline may be recommended

Of several live objects with one key the reconciliation looks at the last.  Its
classification is therefore a function of a choice of live objects, one for
each key, and every choice is made for some order of the inventory.  It is
independent of the order, and a baseline is recommended for nothing that is not
there, exactly when the choice makes no difference and the manifest is not
empty.
-/

namespace BidayaxExecutive.Reconciliation

open BidayaxExecutive.Runtime JsString
open BidayaxExecutive.Library.Selections

/-! ## The verdict on the findings -/

/-- What was found for the objects of the manifest, `none` for a missing one,
and whether anything else lies in their scope. -/
def verdict (recorded : Bool)
    (findings : List (Option ObjectComparisonResult)) (extra : Bool) :
    MigrationClassification :=
  if (∀ found ∈ findings, found = some .exact) ∧ extra = false then
    if recorded then .alreadyAppliedAndRecorded else .alreadyAppliedNotRecorded
  else if some .unknown ∈ findings then .blocked
  else if none ∉ findings then .schemaDrift
  else if (∀ found ∈ findings, found = none) ∧ extra = false then .notApplied
  else .partiallyApplied

theorem count_findings (findings : List (Option ObjectComparisonResult)) :
    findings.count (some .exact) + findings.count (some .mismatched) +
      findings.count (some .unknown) + findings.count none =
      findings.length := by
  induction findings with
  | nil =>
      rfl
  | cons found rest inductionHypothesis =>
      simp only [List.count_cons, List.length_cons]
      cases found with
      | none => simp; omega
      | some comparison => cases comparison <;> simp <;> omega

/-- Of the counts only this is read by the classification: which of them are
zero and which are all. -/
theorem classification_eq_verdict (manifest : CanonicalMigrationManifest)
    (status : LedgerStatus) (counts : ReconciliationCounts)
    (findings : List (Option ObjectComparisonResult)) (extra : Bool)
    (total : findings.length = manifest.objects.length)
    (exactCount : counts.exactMatches = findings.count (some .exact))
    (missingCount : counts.missingObjects = findings.count none)
    (mismatchedCount :
      counts.mismatchedObjects = findings.count (some .mismatched))
    (unknownCount : counts.unknownObjects = findings.count (some .unknown))
    (extraCount : counts.extraScopedObjects = 0 ↔ extra = false) :
    (reconciliationResult manifest status counts).classification =
      verdict (status = .recorded) findings extra := by
  have parts := count_findings findings
  have allExact : (∀ found ∈ findings, found = some .exact) ↔
      findings.count (some .exact) = findings.length := by
    rw [List.count_eq_length]
    simp only [eq_comm]
  have allMissing : (∀ found ∈ findings, found = none) ↔
      findings.count none = findings.length := by
    rw [List.count_eq_length]
    simp only [eq_comm]
  have someUnknown : some ObjectComparisonResult.unknown ∈ findings ↔
      0 < findings.count (some .unknown) := List.count_pos_iff.symm
  have someMissing : none ∉ findings ↔ findings.count none = 0 :=
    List.count_eq_zero.symm
  have someExtra : counts.extraScopedObjects > 0 ↔ ¬ extra = false := by
    rw [← extraCount]
    exact Nat.pos_iff_ne_zero
  rw [verdict, reconciliationResult]
  simp only [someExtra, exactCount, missingCount, mismatchedCount, unknownCount,
    extraCount, allExact, allMissing, someUnknown, someMissing, ← total,
    decide_eq_true_eq]
  generalize findings.count (some .exact) = exacts at *
  generalize findings.count (some .mismatched) = mismatches at *
  generalize findings.count (some .unknown) = unknowns at *
  generalize findings.count none = missings at *
  by_cases exact : exacts = findings.length ∧ extra = false
  · have others : mismatches = 0 ∧ missings = 0 ∧ unknowns = 0 := by omega
    rw [if_pos exact]
    by_cases recorded : status = .recorded
    · rw [if_pos ⟨⟨exact.1, others.1, others.2.1, exact.2, others.2.2⟩,
        recorded⟩, if_pos recorded]
    · rw [if_neg fun both => recorded both.2,
        if_pos ⟨exact.1, others.1, others.2.1, exact.2, others.2.2⟩,
        if_neg recorded]
  · rw [if_neg exact, if_neg fun both => exact ⟨both.1.1, both.1.2.2.2.1⟩,
      if_neg fun all => exact ⟨all.1, all.2.2.2.1⟩]
    by_cases unknown : 0 < unknowns
    · rw [if_pos unknown, if_pos unknown]
    · rw [if_neg unknown, if_neg unknown]
      by_cases complete : missings = 0
      · have found : 0 < mismatches ∨ ¬ extra = false := by
          by_cases mismatch : 0 < mismatches
          · exact Or.inl mismatch
          · have allExact : exacts = findings.length := by omega
            exact Or.inr fun none => exact ⟨allExact, none⟩
        rw [if_neg fun partly => absurd complete (Nat.ne_of_gt partly.1),
          if_pos ⟨complete, by omega, found⟩, if_pos complete]
      · rw [if_neg complete]
        by_cases nothing : missings = findings.length ∧ extra = false
        · obtain ⟨allMissing, noExtra⟩ := nothing
          have others : exacts = 0 ∧ mismatches = 0 := by omega
          have absent : exacts = 0 ∧ missings = findings.length ∧
              mismatches = 0 ∧ extra = false :=
            ⟨others.1, allMissing, others.2, noExtra⟩
          rw [if_neg fun partly => partly.2 absent,
            if_neg fun drift => complete drift.1, if_pos absent]
          exact (if_pos ⟨allMissing, noExtra⟩).symm
        · have partly : 0 < missings ∧ ¬ (exacts = 0 ∧
              missings = findings.length ∧ mismatches = 0 ∧ extra = false) :=
            ⟨by omega, fun absent => nothing ⟨absent.2.1, absent.2.2.2⟩⟩
          rw [if_pos partly, if_neg nothing]

section Platform

variable (platform : SchemaPlatform)

/-- What is found for an object when one live object is kept for each key. -/
def findingOf (kept : JsString → Option SchemaObject) (object : SchemaObject) :
    Option ObjectComparisonResult :=
  (kept (makeKey object)).map (compareObjects platform object)

theorem get_byKey (inventory : List SchemaObject) (key : JsString) :
    (JsMap.ofEntries (inventory.map fun object => (makeKey object, object))).get
      key = lastWith makeKey inventory key := by
  rw [JsMap.get_ofEntries, JsMap.lastWith, lastWith, ← List.map_reverse,
    List.find?_map, Option.map_map]
  exact Option.map_id'

/-- The classification is the verdict on the last live objects. -/
theorem classification_reconcileMigration
    (manifest : CanonicalMigrationManifest) (inventory : List SchemaObject)
    (recordedMigrationIds : List JsString)
    (known : Option (List SchemaObject)) :
    (reconcileMigration platform manifest inventory recordedMigrationIds
        known).classification =
      verdict (decide (manifest.migrationId ∈ recordedMigrationIds))
        (manifest.objects.map
          (findingOf platform (lastWith makeKey inventory)))
        (decide (∃ live ∈ inventory,
          IsExtra manifest (known.getD manifest.objects) live)) := by
  have recorded : decide (manifest.migrationId ∈ recordedMigrationIds) =
      decide (ledgerStatus manifest recordedMigrationIds = .recorded) := by
    rw [ledgerStatus]
    split_ifs with member some <;> simp [member]
  have sameFinding : finding platform (JsMap.ofEntries
        (inventory.map fun object => (makeKey object, object))) =
      findingOf platform (lastWith makeKey inventory) := by
    funext object
    rw [finding, findingOf, get_byKey]
  have counted := reconciliationCounts_counts platform manifest inventory
    (known.getD manifest.objects)
  rw [sameFinding] at counted
  obtain ⟨exactCount, missingCount, mismatchedCount, unknownCount,
    extraCount⟩ := counted
  have noExtra : (reconciliationCounts platform manifest inventory
        (known.getD manifest.objects)).extraScopedObjects = 0 ↔
      decide (∃ live ∈ inventory,
        IsExtra manifest (known.getD manifest.objects) live) = false := by
    rw [extraCount, List.countP_eq_zero]
    simp
  rw [recorded]
  exact classification_eq_verdict manifest _ _ _ _ (List.length_map _)
    exactCount missingCount mismatchedCount unknownCount noExtra

/-! ## Reordering -/

/-- The verdict sees only which findings there are. -/
theorem verdict_of_mem_iff (recorded extra : Bool)
    {findings others : List (Option ObjectComparisonResult)}
    (sameMembers : ∀ found, found ∈ findings ↔ found ∈ others) :
    verdict recorded findings extra = verdict recorded others extra := by
  simp only [verdict, sameMembers]

theorem isExtra_of_perm {manifest : CanonicalMigrationManifest}
    {objects : List SchemaObject} (known : Option (List SchemaObject))
    (permutation : objects.Perm manifest.objects) (live : SchemaObject) :
    IsExtra { manifest with objects := objects } (known.getD objects) live ↔
      IsExtra manifest (known.getD manifest.objects) live := by
  have sameKey : ∀ key, key ∈ objects.map makeKey ↔
      key ∈ manifest.objects.map makeKey :=
    fun _ => (permutation.map makeKey).mem_iff
  have sameKnown : ∀ key, key ∈ (known.getD objects).map makeKey ↔
      key ∈ (known.getD manifest.objects).map makeKey := by
    intro key
    cases known with
    | none => exact sameKey key
    | some _ => rfl
  have sameTables : ∀ tableName,
      tableName ∈ collectCanonicalTables { manifest with objects := objects } ↔
        tableName ∈ collectCanonicalTables manifest :=
    fun _ => (permutation.flatMap_right tablesOf).mem_iff
  simp only [IsExtra, isWithinCanonicalScope, sameKey, sameKnown, sameTables]

variable {platform} {manifest : CanonicalMigrationManifest}
  {inventory : List SchemaObject} {recordedMigrationIds : List JsString}
  {known : Option (List SchemaObject)}

theorem classification_of_perm {objects reordered : List SchemaObject}
    (sameObjects : objects.Perm manifest.objects)
    (sameInventory : reordered.Perm inventory) :
    (reconcileMigration platform { manifest with objects := objects } reordered
        recordedMigrationIds known).classification =
      verdict (decide (manifest.migrationId ∈ recordedMigrationIds))
        (manifest.objects.map
          (findingOf platform (lastWith makeKey reordered)))
        (decide (∃ live ∈ inventory,
          IsExtra manifest (known.getD manifest.objects) live)) := by
  rw [classification_reconcileMigration]
  have sameExtra : (∃ live ∈ reordered, IsExtra
        { manifest with objects := objects } (known.getD objects) live) ↔
      ∃ live ∈ inventory,
        IsExtra manifest (known.getD manifest.objects) live := by
    simp only [sameInventory.mem_iff, isExtra_of_perm known sameObjects]
  rw [decide_eq_decide.mpr sameExtra]
  exact verdict_of_mem_iff _ _ fun _ =>
    (sameObjects.map (findingOf platform (lastWith makeKey reordered))).mem_iff

/-! ## Findings of a choice -/

variable {kept : JsString → Option SchemaObject}

theorem findingOf_eq_some {object : SchemaObject}
    {comparison : ObjectComparisonResult} :
    findingOf platform kept object = some comparison ↔
      ∃ live, kept (makeKey object) = some live ∧
        compareObjects platform object live = comparison := by
  rw [findingOf, Option.map_eq_some_iff]

theorem findingOf_eq_none (selection : Selection makeKey inventory kept)
    {object : SchemaObject} :
    findingOf platform kept object = none ↔
      ∀ live ∈ inventory, makeKey live ≠ makeKey object := by
  rw [findingOf, Option.map_eq_none_iff, selection.eq_none_iff]

theorem mem_findings {found : Option ObjectComparisonResult} :
    found ∈ manifest.objects.map (findingOf platform kept) ↔
      ∃ object ∈ manifest.objects, findingOf platform kept object = found :=
  List.mem_map

theorem verdict_applied_iff (recorded extra : Bool)
    (findings : List (Option ObjectComparisonResult)) :
    verdict recorded findings extra = .alreadyAppliedAndRecorded ∨
        verdict recorded findings extra = .alreadyAppliedNotRecorded ↔
      (∀ found ∈ findings, found = some .exact) ∧ extra = false := by
  rw [verdict]
  by_cases applied : (∀ found ∈ findings, found = some .exact) ∧ extra = false
  · rw [if_pos applied]
    refine ⟨fun _ => applied, fun _ => ?_⟩
    cases recorded with
    | true => exact Or.inl rfl
    | false => exact Or.inr rfl
  · rw [if_neg applied]
    refine ⟨fun either => ?_, fun holds => absurd holds applied⟩
    split_ifs at either <;> simp at either

theorem verdict_blocked_iff (recorded extra : Bool)
    (findings : List (Option ObjectComparisonResult)) :
    verdict recorded findings extra = .blocked ↔
      some .unknown ∈ findings := by
  rw [verdict]
  by_cases applied : (∀ found ∈ findings, found = some .exact) ∧ extra = false
  · have noUnknown : some ObjectComparisonResult.unknown ∉ findings := by
      intro member
      exact nomatch applied.1 _ member
    rw [if_pos applied]
    split_ifs <;> simp [noUnknown]
  · rw [if_neg applied]
    split_ifs <;> simp_all

end Platform

/-! ## What a baseline needs -/

section Conditions

variable (platform : SchemaPlatform) (manifest : CanonicalMigrationManifest)
  (inventory : List SchemaObject)

/-- The manifest names something, and that and nothing else is there. -/
structure ReallyThere (known : List SchemaObject) : Prop where
  nonempty : manifest.objects ≠ []
  present : ∀ object ∈ manifest.objects, ∃ live ∈ inventory,
    makeKey live = makeKey object
  exact : ∀ object ∈ manifest.objects, ∀ live ∈ inventory,
    makeKey live = makeKey object →
      compareObjects platform object live = .exact
  alone : ∀ live ∈ inventory,
    isWithinCanonicalScope live (collectCanonicalTables manifest) = true →
      makeKey live ∈ manifest.objects.map makeKey ∨
        makeKey live ∈ known.map makeKey

/-- The classification is the same for every order, and a baseline stands for
what is really there. -/
structure BaselineSound (recordedMigrationIds : List JsString)
    (known : Option (List SchemaObject)) : Prop where
  orderFree : ∀ objects reordered, objects.Perm manifest.objects →
    reordered.Perm inventory →
      (reconcileMigration platform { manifest with objects := objects }
          reordered recordedMigrationIds known).classification =
        (reconcileMigration platform manifest inventory recordedMigrationIds
          known).classification
  reallyThere :
    (reconcileMigration platform manifest inventory recordedMigrationIds
        known).classification = .alreadyAppliedAndRecorded ∨
      (reconcileMigration platform manifest inventory recordedMigrationIds
        known).classification = .alreadyAppliedNotRecorded →
    ReallyThere platform manifest inventory (known.getD manifest.objects)

/-- For some key every live object lacks evidence. -/
def SurelyUnknown : Prop :=
  ∃ live ∈ inventory, ∀ copy ∈ inventory, makeKey copy = makeKey live →
    ∃ object ∈ manifest.objects,
      compareObjects platform object copy = .unknown

def NoneUnknown : Prop :=
  ∀ object ∈ manifest.objects, ∀ live ∈ inventory,
    compareObjects platform object live ≠ .unknown

/-- An object is missing, something else is in scope, or for some key every
live object differs. -/
def SurelyDifferent (known : List SchemaObject) : Prop :=
  (∃ object ∈ manifest.objects, ∀ live ∈ inventory,
      makeKey live ≠ makeKey object) ∨
    (∃ live ∈ inventory, IsExtra manifest known live) ∨
    ∃ live ∈ inventory, ∀ copy ∈ inventory, makeKey copy = makeKey live →
      ∃ object ∈ manifest.objects, makeKey object = makeKey copy ∧
        compareObjects platform object copy ≠ .exact

variable {platform manifest inventory}

/-! ## Choices that decide -/

theorem SurelyUnknown.mem_findings (unknown :
      SurelyUnknown platform manifest inventory)
    {kept : JsString → Option SchemaObject}
    (selection : Selection makeKey inventory kept) :
    some .unknown ∈ manifest.objects.map (findingOf platform kept) := by
  obtain ⟨live, member, everyCopy⟩ := unknown
  obtain ⟨copy, found⟩ := selection.total member
  obtain ⟨copyMember, copyKey⟩ := selection.mem found
  obtain ⟨object, inManifest, compared⟩ := everyCopy copy copyMember copyKey
  have sameKey := ((compareObjects_eq_unknown platform object copy).mp compared).1
  rw [Reconciliation.mem_findings]
  refine ⟨object, inManifest, findingOf_eq_some.mpr ⟨copy, ?_, compared⟩⟩
  rw [sameKey, copyKey, found]

theorem surelyUnknown_of_selections
    (everywhere : ∀ kept, Selection makeKey inventory kept →
      some .unknown ∈ manifest.objects.map (findingOf platform kept)) :
    SurelyUnknown platform manifest inventory := by
  by_contra notSure
  have good : ∀ live ∈ inventory, ∃ copy ∈ inventory,
      makeKey copy = makeKey live ∧ ∀ object ∈ manifest.objects,
        compareObjects platform object copy ≠ .unknown := by
    intro live member
    by_contra none
    refine notSure ⟨live, member, fun copy copyMember sameKey => ?_⟩
    by_contra known
    refine none ⟨copy, copyMember, sameKey, fun object inManifest unknown => ?_⟩
    exact known ⟨object, inManifest, unknown⟩
  obtain ⟨kept, selection, allGood⟩ := exists_selection good
  obtain ⟨object, inManifest, found⟩ :=
    Reconciliation.mem_findings.mp (everywhere kept selection)
  obtain ⟨live, isKept, compared⟩ := findingOf_eq_some.mp found
  exact allGood _ live isKept object inManifest compared

theorem NoneUnknown.not_mem_findings
    (known : NoneUnknown platform manifest inventory)
    {kept : JsString → Option SchemaObject}
    (selection : Selection makeKey inventory kept) :
    some .unknown ∉ manifest.objects.map (findingOf platform kept) := by
  intro member
  obtain ⟨object, inManifest, found⟩ := Reconciliation.mem_findings.mp member
  obtain ⟨live, isKept, compared⟩ := findingOf_eq_some.mp found
  exact known object inManifest live (selection.mem isKept).1 compared

/-- Any live object can be the one that is kept for its key. -/
theorem exists_selection_with {live : SchemaObject} (member : live ∈ inventory) :
    ∃ kept, Selection makeKey inventory kept ∧
      kept (makeKey live) = some live := by
  have good : ∀ item ∈ inventory, ∃ copy ∈ inventory,
      makeKey copy = makeKey item ∧
        (makeKey copy = makeKey live → copy = live) := by
    intro item itemMember
    by_cases sameKey : makeKey item = makeKey live
    · exact ⟨live, member, sameKey.symm, fun _ => rfl⟩
    · exact ⟨item, itemMember, rfl, fun same => absurd same sameKey⟩
  obtain ⟨kept, selection, allGood⟩ := exists_selection good
  obtain ⟨copy, found⟩ := selection.total member
  have isLive := allGood _ copy found (selection.mem found).2
  exact ⟨kept, selection, by rw [found, isLive]⟩

theorem noneUnknown_of_selections
    (nowhere : ∀ kept, Selection makeKey inventory kept →
      some .unknown ∉ manifest.objects.map (findingOf platform kept)) :
    NoneUnknown platform manifest inventory := by
  intro object inManifest live member unknown
  have sameKey := ((compareObjects_eq_unknown platform object live).mp unknown).1
  obtain ⟨kept, selection, isKept⟩ := exists_selection_with member
  refine nowhere kept selection (Reconciliation.mem_findings.mpr
    ⟨object, inManifest, findingOf_eq_some.mpr ⟨live, ?_, unknown⟩⟩)
  rw [sameKey, isKept]

theorem SurelyDifferent.not_applied {known : List SchemaObject}
    (different : SurelyDifferent platform manifest inventory known)
    {kept : JsString → Option SchemaObject}
    (selection : Selection makeKey inventory kept)
    (alone : ¬ ∃ live ∈ inventory, IsExtra manifest known live) :
    ¬ ∀ found ∈ manifest.objects.map (findingOf platform kept),
      found = some .exact := by
  intro applied
  have exact : ∀ object ∈ manifest.objects, ∃ live,
      kept (makeKey object) = some live ∧
        compareObjects platform object live = .exact := by
    intro object inManifest
    have found := applied _ (List.mem_map_of_mem inManifest)
    exact findingOf_eq_some.mp found
  rcases different with ⟨object, inManifest, missing⟩ | extra |
    ⟨live, member, everyCopy⟩
  · obtain ⟨live, isKept, _⟩ := exact object inManifest
    obtain ⟨member, sameKey⟩ := selection.mem isKept
    exact missing live member sameKey
  · exact alone extra
  · obtain ⟨copy, found⟩ := selection.total member
    obtain ⟨copyMember, copyKey⟩ := selection.mem found
    obtain ⟨object, inManifest, sameKey, differs⟩ :=
      everyCopy copy copyMember copyKey
    obtain ⟨other, isKept, compared⟩ := exact object inManifest
    rw [sameKey, copyKey, found, Option.some.injEq] at isKept
    exact differs (isKept ▸ compared)

theorem surelyDifferent_of_selections {known : List SchemaObject}
    (nowhere : ∀ kept, Selection makeKey inventory kept →
      ¬ ((∀ found ∈ manifest.objects.map (findingOf platform kept),
          found = some .exact) ∧
        ¬ ∃ live ∈ inventory, IsExtra manifest known live)) :
    SurelyDifferent platform manifest inventory known := by
  by_contra notSure
  obtain ⟨noneMissing, alone, mixed⟩ :
      (¬ ∃ object ∈ manifest.objects, ∀ live ∈ inventory,
        makeKey live ≠ makeKey object) ∧
      (¬ ∃ live ∈ inventory, IsExtra manifest known live) ∧
      ¬ ∃ live ∈ inventory, ∀ copy ∈ inventory, makeKey copy = makeKey live →
        ∃ object ∈ manifest.objects, makeKey object = makeKey copy ∧
          compareObjects platform object copy ≠ .exact := by
    rw [SurelyDifferent, not_or, not_or] at notSure
    exact notSure
  have good : ∀ live ∈ inventory, ∃ copy ∈ inventory,
      makeKey copy = makeKey live ∧ ∀ object ∈ manifest.objects,
        makeKey object = makeKey copy →
          compareObjects platform object copy = .exact := by
    intro live member
    by_contra none
    refine mixed ⟨live, member, fun copy copyMember sameKey => ?_⟩
    by_contra same
    refine none ⟨copy, copyMember, sameKey, fun object inManifest isKey => ?_⟩
    by_contra differs
    exact same ⟨object, inManifest, isKey, differs⟩
  obtain ⟨kept, selection, allGood⟩ := exists_selection good
  refine nowhere kept selection ⟨?_, alone⟩
  intro found member
  obtain ⟨object, inManifest, rfl⟩ := Reconciliation.mem_findings.mp member
  have present : ∃ live ∈ inventory, makeKey live = makeKey object := by
    by_contra missing
    refine noneMissing ⟨object, inManifest, fun live liveMember sameKey => ?_⟩
    exact missing ⟨live, liveMember, sameKey⟩
  obtain ⟨live, liveMember, liveKey⟩ := present
  obtain ⟨copy, isKept⟩ := selection.total liveMember
  have copyKey := (selection.mem isKept).2
  rw [liveKey] at isKept copyKey
  exact findingOf_eq_some.mpr
    ⟨copy, isKept, allGood _ copy isKept object inManifest copyKey.symm⟩

end Conditions

/-! ## Exactness -/

section Main

variable {platform : SchemaPlatform} {manifest : CanonicalMigrationManifest}
  {inventory : List SchemaObject} {recordedMigrationIds : List JsString}
  {known : Option (List SchemaObject)}

/-- Every choice of live objects gives the classification of some order. -/
theorem BaselineSound.verdict_eq
    (sound : BaselineSound platform manifest inventory recordedMigrationIds
      known) {kept : JsString → Option SchemaObject}
    (selection : Selection makeKey inventory kept) :
    verdict (decide (manifest.migrationId ∈ recordedMigrationIds))
        (manifest.objects.map (findingOf platform kept))
        (decide (∃ live ∈ inventory,
          IsExtra manifest (known.getD manifest.objects) live)) =
      (reconcileMigration platform manifest inventory recordedMigrationIds
        known).classification := by
  obtain ⟨reordered, permutation, isKept⟩ := exists_perm_lastWith selection
  have same := sound.orderFree manifest.objects reordered (.refl _) permutation
  rw [classification_of_perm (.refl _) permutation, isKept] at same
  exact same

/-- One verdict for all choices is one classification for all orders. -/
theorem baselineSound_of_verdicts (value : MigrationClassification)
    (verdicts : ∀ kept, Selection makeKey inventory kept →
      verdict (decide (manifest.migrationId ∈ recordedMigrationIds))
        (manifest.objects.map (findingOf platform kept))
        (decide (∃ live ∈ inventory,
          IsExtra manifest (known.getD manifest.objects) live)) = value)
    (there : value = .alreadyAppliedAndRecorded ∨
      value = .alreadyAppliedNotRecorded →
        ReallyThere platform manifest inventory
          (known.getD manifest.objects)) :
    BaselineSound platform manifest inventory recordedMigrationIds known where
  orderFree objects reordered sameObjects sameInventory := by
    have selection : Selection makeKey inventory
        (lastWith makeKey reordered) :=
      (selection_lastWith reordered).of_perm sameInventory
    rw [classification_of_perm sameObjects sameInventory,
      classification_reconcileMigration, verdicts _ selection,
      verdicts _ (selection_lastWith inventory)]
  reallyThere applied := by
    rw [classification_reconcileMigration,
      verdicts _ (selection_lastWith inventory)] at applied
    exact there applied

theorem ReallyThere.baselineSound
    (there : ReallyThere platform manifest inventory
      (known.getD manifest.objects)) :
    BaselineSound platform manifest inventory recordedMigrationIds known := by
  apply baselineSound_of_verdicts
    (if decide (manifest.migrationId ∈ recordedMigrationIds) then
      .alreadyAppliedAndRecorded else .alreadyAppliedNotRecorded)
  · intro kept selection
    have alone : ¬ ∃ live ∈ inventory,
        IsExtra manifest (known.getD manifest.objects) live := by
      rintro ⟨live, member, notManifest, notKnown, inScope⟩
      rcases there.alone live member inScope with named | isKnown
      · exact notManifest named
      · exact notKnown isKnown
    rw [verdict, if_pos]
    refine ⟨?_, decide_eq_false alone⟩
    intro found member
    obtain ⟨object, inManifest, rfl⟩ := mem_findings.mp member
    obtain ⟨live, liveMember, sameKey⟩ := there.present object inManifest
    obtain ⟨copy, isKept⟩ := selection.total liveMember
    obtain ⟨copyMember, copyKey⟩ := selection.mem isKept
    rw [sameKey] at isKept copyKey
    exact findingOf_eq_some.mpr
      ⟨copy, isKept, there.exact object inManifest copy copyMember copyKey⟩
  · exact fun _ => there

theorem SurelyUnknown.baselineSound
    (unknown : SurelyUnknown platform manifest inventory) :
    BaselineSound platform manifest inventory recordedMigrationIds known := by
  apply baselineSound_of_verdicts .blocked
  · intro kept selection
    rw [verdict_blocked_iff]
    exact unknown.mem_findings selection
  · exact nofun

theorem SurelyDifferent.baselineSound
    (different : SurelyDifferent platform manifest inventory
      (known.getD manifest.objects))
    (noneUnknown : NoneUnknown platform manifest inventory) :
    BaselineSound platform manifest inventory recordedMigrationIds known := by
  have notApplied : ∀ kept, Selection makeKey inventory kept →
      ¬ ((∀ found ∈ manifest.objects.map (findingOf platform kept),
          found = some .exact) ∧
        decide (∃ live ∈ inventory,
          IsExtra manifest (known.getD manifest.objects) live) = false) := by
    intro kept selection applied
    exact different.not_applied selection (of_decide_eq_false applied.2)
      applied.1
  refine baselineSound_of_verdicts
    (verdict (decide (manifest.migrationId ∈ recordedMigrationIds))
      (manifest.objects.map
        (findingOf platform (lastWith makeKey inventory)))
      (decide (∃ live ∈ inventory,
        IsExtra manifest (known.getD manifest.objects) live)))
    (fun kept selection => ?_) ?_
  · have last : Selection makeKey inventory (lastWith makeKey inventory) :=
      selection_lastWith inventory
    have sameMissing : ∀ object,
        findingOf platform kept object = none ↔
          findingOf platform (lastWith makeKey inventory) object = none := by
      intro object
      rw [findingOf_eq_none selection, findingOf_eq_none last]
    have someMissing :
        none ∈ manifest.objects.map (findingOf platform kept) ↔
          none ∈ manifest.objects.map
            (findingOf platform (lastWith makeKey inventory)) := by
      simp only [List.mem_map, sameMissing]
    have allMissing :
        (∀ found ∈ manifest.objects.map (findingOf platform kept),
            found = none) ↔
          ∀ found ∈ manifest.objects.map
            (findingOf platform (lastWith makeKey inventory)),
            found = none := by
      simp only [List.forall_mem_map, sameMissing]
    rw [verdict, verdict, if_neg (notApplied kept selection),
      if_neg (notApplied _ last),
      if_neg (noneUnknown.not_mem_findings selection),
      if_neg (noneUnknown.not_mem_findings last)]
    simp only [someMissing, allMissing]
  · rw [verdict_applied_iff]
    intro applied
    exact absurd applied (notApplied _ (selection_lastWith inventory))

/-- A migration counts as applied if the last live objects compare as exact and
nothing else is in scope. -/
theorem alreadyApplied_iff :
    (reconcileMigration platform manifest inventory recordedMigrationIds
          known).classification = .alreadyAppliedAndRecorded ∨
        (reconcileMigration platform manifest inventory recordedMigrationIds
          known).classification = .alreadyAppliedNotRecorded ↔
      (∀ object ∈ manifest.objects, ∃ live,
          lastWith makeKey inventory (makeKey object) = some live ∧
            compareObjects platform object live = .exact) ∧
        ¬ ∃ live ∈ inventory,
          IsExtra manifest (known.getD manifest.objects) live := by
  rw [classification_reconcileMigration, verdict_applied_iff,
    List.forall_mem_map]
  simp only [findingOf_eq_some, decide_eq_false_iff_not]

/-- The classification is order-free and sound exactly when all is there, or
every choice of live objects lacks evidence somewhere, or none does and every
choice differs somewhere. -/
theorem baselineSound_iff (platform : SchemaPlatform)
    (manifest : CanonicalMigrationManifest) (inventory : List SchemaObject)
    (recordedMigrationIds : List JsString)
    (known : Option (List SchemaObject)) :
    BaselineSound platform manifest inventory recordedMigrationIds known ↔
      ReallyThere platform manifest inventory (known.getD manifest.objects) ∨
        SurelyUnknown platform manifest inventory ∨
        NoneUnknown platform manifest inventory ∧
          SurelyDifferent platform manifest inventory
            (known.getD manifest.objects) := by
  constructor
  · intro sound
    by_cases applied :
        (reconcileMigration platform manifest inventory recordedMigrationIds
            known).classification = .alreadyAppliedAndRecorded ∨
          (reconcileMigration platform manifest inventory recordedMigrationIds
            known).classification = .alreadyAppliedNotRecorded
    · exact Or.inl (sound.reallyThere applied)
    · refine Or.inr ?_
      by_cases blocked : (reconcileMigration platform manifest inventory
          recordedMigrationIds known).classification = .blocked
      · refine Or.inl (surelyUnknown_of_selections fun kept selection => ?_)
        rw [← sound.verdict_eq selection, verdict_blocked_iff] at blocked
        exact blocked
      · refine Or.inr ⟨?_, ?_⟩
        · refine noneUnknown_of_selections fun kept selection => ?_
          rw [← sound.verdict_eq selection, verdict_blocked_iff] at blocked
          exact blocked
        · refine surelyDifferent_of_selections fun kept selection exact => ?_
          rw [← sound.verdict_eq selection, verdict_applied_iff] at applied
          exact applied ⟨exact.1, decide_eq_false exact.2⟩
  · rintro (there | unknown | ⟨noneUnknown, different⟩)
    · exact there.baselineSound
    · exact unknown.baselineSound
    · exact different.baselineSound noneUnknown

end Main

/-- Letters and their order as code units; all texts below are ASCII. -/
private def asciiPlatform : SchemaPlatform where
  localeLe := codeUnitLe
  toLowerCase := lowerCase
  toUpperCase := fun text => text.map fun unit =>
    if 97 ≤ unit && unit ≤ 122 then unit - 32 else unit

/-- A trigger function without arguments; an overload differs in its body. -/
private def touchFunction (bodyHash : JsString) : SchemaObject where
  objectType := .function
  schemaName := js "public"
  objectName := js "touch"
  parentObject := none
  definitionHash := []
  metadata := [(js "arguments", .string []), (js "bodyHash", .string bodyHash),
    (js "language", .string (js "sql")), (js "leakproof", .boolean false),
    (js "returnType", .string (js "integer")),
    (js "securityDefiner", .boolean false), (js "strict", .boolean false),
    (js "volatility", .string (js "stable"))]

/-- Of two live functions with one key the last decides: in one order the
migration counts as applied, in the other the schema has drifted. -/
theorem not_baselineSound_of_overload :
    ¬ BaselineSound asciiPlatform
      ⟨js "0001", [touchFunction (js "a1")], .low⟩
      [touchFunction (js "b2"), touchFunction (js "a1")] [] none := by
  intro sound
  have exact : compareObjects asciiPlatform (touchFunction (js "a1"))
      (touchFunction (js "a1")) = .exact :=
    (compareObjects_eq_exact _ _ _).mpr
      ⟨rfl, by decide +kernel, by decide +kernel, rfl⟩
  have different : compareObjects asciiPlatform (touchFunction (js "a1"))
      (touchFunction (js "b2")) ≠ .exact := by
    intro same
    obtain ⟨_, _, _, sameText⟩ := (compareObjects_eq_exact _ _ _).mp same
    revert sameText
    decide +kernel
  have swapped := sound.orderFree [touchFunction (js "a1")]
    [touchFunction (js "a1"), touchFunction (js "b2")] (.refl _)
    (List.Perm.swap _ _ _)
  have applied :
      (reconcileMigration asciiPlatform
            ⟨js "0001", [touchFunction (js "a1")], .low⟩
            [touchFunction (js "b2"), touchFunction (js "a1")] []
            none).classification = .alreadyAppliedAndRecorded ∨
        (reconcileMigration asciiPlatform
            ⟨js "0001", [touchFunction (js "a1")], .low⟩
            [touchFunction (js "b2"), touchFunction (js "a1")] []
            none).classification = .alreadyAppliedNotRecorded := by
    refine alreadyApplied_iff.mpr ⟨?_, ?_⟩
    · intro object inManifest
      rw [List.mem_singleton.mp inManifest]
      exact ⟨_, List.find?_cons_of_pos (decide_eq_true rfl), exact⟩
    · rintro ⟨live, member, notManifest, _⟩
      apply notManifest
      rcases List.mem_pair.mp member with rfl | rfl
      · exact List.mem_singleton.mpr rfl
      · exact List.mem_singleton.mpr rfl
  rw [← swapped] at applied
  obtain ⟨found, _⟩ := alreadyApplied_iff.mp applied
  obtain ⟨live, isKept, compared⟩ := found _ List.mem_cons_self
  have overload : lastWith makeKey
      [touchFunction (js "a1"), touchFunction (js "b2")]
      (makeKey (touchFunction (js "a1"))) = some (touchFunction (js "b2")) :=
    List.find?_cons_of_pos (decide_eq_true rfl)
  rw [overload, Option.some.injEq] at isKept
  exact different (isKept ▸ compared)

end BidayaxExecutive.Reconciliation
