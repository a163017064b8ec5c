import BidayaxExecutive.PolicyEnforcement.DataTrustAssessment
import BidayaxExecutive.Runtime.Instant
import Mathlib.Data.List.Perm.Subperm
import Mathlib.Data.Rat.Lemmas
import Mathlib.Tactic.NormNum

/-!
# What the trust in a claim depends on

The evidence identifiers of a claim count as often as they are listed, so the
score follows the set of them only where repeating one rounds away.  A claim
that is trusted is complete, and is neither expired nor revoked as far as its
dates can be read.
-/

namespace BidayaxExecutive.PolicyEnforcement

open BidayaxExecutive.Runtime JsString
open BidayaxExecutive.Library

/-! ## Scores -/

theorem clampScore_mono {low high : ℚ} (order : low ≤ high) :
    clampScore low ≤ clampScore high := by
  have rounded : ⌊low + 1 / 2⌋ ≤ ⌊high + 1 / 2⌋ :=
    Int.floor_le_floor (by linarith)
  simp only [clampScore]
  omega

theorem clampScore_nonneg (score : ℚ) : 0 ≤ clampScore score :=
  le_max_left _ _

theorem clampScore_of_nonpos {score : ℚ} (low : score ≤ 0) :
    clampScore score = 0 := by
  have rounded : ⌊score + 1 / 2⌋ ≤ 0 := by
    rw [Int.floor_le_iff]
    push_cast
    linarith
  simp only [clampScore]
  omega

theorem clampConfidence_le_one (evidence : DataTrustEvidence) :
    clampConfidence evidence ≤ 1 := by
  simp [clampConfidence]

theorem classificationPenalties_nonneg
    (classification : DataClassification) :
    0 ≤ classificationPenalties classification := by
  cases classification <;> simp [classificationPenalties]

/-! ## Lists of identifiers with the same members -/

namespace DataTrustAssessmentInput

/-- The claim with other evidence identifiers. -/
def withEvidenceIds (input : DataTrustAssessmentInput)
    (evidenceIds : List JsString) : DataTrustAssessmentInput :=
  { input with claim := { input.claim with evidenceIds := evidenceIds } }

variable {input : DataTrustAssessmentInput}

theorem mem_supportingEvidence {item : DataTrustEvidence} :
    item ∈ input.supportingEvidence ↔
      ∃ evidenceId ∈ input.claim.evidenceIds,
        (evidenceById input.evidence).get evidenceId = some item :=
  List.mem_filterMap

theorem mem_missingEvidenceIds {evidenceId : JsString} :
    evidenceId ∈ input.missingEvidenceIds ↔
      evidenceId ∈ input.claim.evidenceIds ∧
        (evidenceById input.evidence).get evidenceId = none := by
  simp only [missingEvidenceIds, List.mem_filter, JsMap.has,
    Bool.not_eq_true', Option.isSome_eq_false_iff, Option.isNone_iff_eq_none]

theorem mem_evidenceTypes {type : DataTrustEvidenceType} :
    type ∈ input.evidenceTypes ↔
      ∃ item ∈ input.supportingEvidence, item.type = type := by
  rw [evidenceTypes, uniqueEvidenceTypes,
    (List.perm_insertionSort _ _).mem_iff, List.mem_eraseDups, List.mem_map]

theorem diversityBonus_le (input : DataTrustAssessmentInput) :
    input.diversityBonus ≤ 15 :=
  min_le_left _ _

/-- The confidences of the evidence found, as often as it is listed. -/
def confidences (input : DataTrustAssessmentInput) : List ℚ :=
  input.supportingEvidence.map clampConfidence

section SameMembers

variable {evidenceIds : List JsString}
variable (same : ∀ evidenceId,
  evidenceId ∈ evidenceIds ↔ evidenceId ∈ input.claim.evidenceIds)

include same

theorem mem_supportingEvidence_of_same (item : DataTrustEvidence) :
    item ∈ (input.withEvidenceIds evidenceIds).supportingEvidence ↔
      item ∈ input.supportingEvidence := by
  simp only [mem_supportingEvidence, withEvidenceIds, same]

theorem mem_missingEvidenceIds_of_same (evidenceId : JsString) :
    evidenceId ∈ (input.withEvidenceIds evidenceIds).missingEvidenceIds ↔
      evidenceId ∈ input.missingEvidenceIds := by
  simp only [mem_missingEvidenceIds, withEvidenceIds, same]

theorem mem_confidences_of_same (value : ℚ) :
    value ∈ (input.withEvidenceIds evidenceIds).confidences ↔
      value ∈ input.confidences := by
  simp only [confidences, List.mem_map, mem_supportingEvidence_of_same same]

theorem evidenceTypes_perm_of_same :
    (input.withEvidenceIds evidenceIds).evidenceTypes.Perm
      input.evidenceTypes := by
  refine (List.perm_insertionSort _ _).trans
    (List.Perm.trans (eraseDups_perm ?_) (List.perm_insertionSort _ _).symm)
  intro type
  simp only [List.mem_map, mem_supportingEvidence_of_same same]

theorem diversityBonus_of_same :
    (input.withEvidenceIds evidenceIds).diversityBonus =
      input.diversityBonus := by
  rw [diversityBonus, (evidenceTypes_perm_of_same same).length_eq,
    diversityBonus]

end SameMembers

end DataTrustAssessmentInput

open DataTrustAssessmentInput

theorem length_pos_congr {α : Type} {items others : List α}
    (same : ∀ item, item ∈ items ↔ item ∈ others) :
    0 < items.length ↔ 0 < others.length := by
  simp only [List.length_pos_iff_exists_mem, same]

section Platform

variable (platform : DataTrustPlatform) {input : DataTrustAssessmentInput}

theorem trustReasons_of_same {evidenceIds : List JsString}
    (same : ∀ evidenceId,
      evidenceId ∈ evidenceIds ↔ evidenceId ∈ input.claim.evidenceIds) :
    trustReasons platform (input.withEvidenceIds evidenceIds) =
      trustReasons platform input := by
  have found := length_pos_congr (mem_supportingEvidence_of_same same)
  have unavailable := length_pos_congr (mem_missingEvidenceIds_of_same same)
  have noneFound :
      (input.withEvidenceIds evidenceIds).supportingEvidence.length = 0 ↔
        input.supportingEvidence.length = 0 := by
    omega
  have types : ∀ type,
      (input.withEvidenceIds evidenceIds).evidenceTypes.contains type =
        input.evidenceTypes.contains type := by
    intro type
    exact (evidenceTypes_perm_of_same same).contains_eq
  simp only [trustReasons, noneFound, unavailable, types]
  rfl

theorem claimRevoked_mem_trustReasons :
    DataTrustReasonCode.claimRevoked ∈ trustReasons platform input ↔
      isBeforeOrEqual platform input.claim.revokedAt
        (evaluationTime platform input) = true := by
  simp [trustReasons]

/-- The score for an average confidence and a number of identifiers that have
no evidence. -/
def scoreAt (input : DataTrustAssessmentInput) (missing : Nat)
    (point : ℚ) : Int :=
  clampScore (point * 100 + input.diversityBonus - missing * 10 -
    classificationPenalties input.claim.classification)

theorem scoreAt_mono (input : DataTrustAssessmentInput) {missing fewer : Nat}
    {low high : ℚ} (less : fewer ≤ missing) (order : low ≤ high) :
    scoreAt input missing low ≤ scoreAt input fewer high := by
  have counts : (fewer : ℚ) ≤ missing := by
    exact_mod_cast less
  exact clampScore_mono (by linarith)

theorem scoreAt_nonneg (input : DataTrustAssessmentInput) (missing : Nat)
    (point : ℚ) : 0 ≤ scoreAt input missing point :=
  clampScore_nonneg _

theorem scoreAt_of_same {evidenceIds : List JsString}
    (same : ∀ evidenceId,
      evidenceId ∈ evidenceIds ↔ evidenceId ∈ input.claim.evidenceIds)
    (missing : Nat) (point : ℚ) :
    scoreAt (input.withEvidenceIds evidenceIds) missing point =
      scoreAt input missing point := by
  rw [scoreAt, diversityBonus_of_same same]
  rfl

theorem trustScore_of_revoked
    (revoked : isBeforeOrEqual platform input.claim.revokedAt
      (evaluationTime platform input) = true) :
    trustScore platform input = 0 := by
  have listed := (claimRevoked_mem_trustReasons platform).mpr revoked
  rw [trustScore, if_pos (List.contains_iff_mem.mpr listed)]

theorem trustScore_of_none (none : input.supportingEvidence = []) :
    trustScore platform input = 0 := by
  have noTypes : input.evidenceTypes = [] := by
    rw [evidenceTypes, none]
    rfl
  have penalty :=
    classificationPenalties_nonneg input.claim.classification
  have low : input.confidenceAverage * 100 + input.diversityBonus -
      input.missingEvidenceIds.length * 10 -
      classificationPenalties input.claim.classification ≤ 0 := by
    have missing : (0 : ℚ) ≤ input.missingEvidenceIds.length :=
      Nat.cast_nonneg _
    simp only [confidenceAverage, none, List.isEmpty_nil, if_true,
      diversityBonus, noTypes, List.length_nil, Nat.cast_zero]
    norm_num
    linarith
  rw [trustScore, clampScore_of_nonpos low, ite_self]

theorem trustScore_eq_scoreAt
    (standing : ¬isBeforeOrEqual platform input.claim.revokedAt
      (evaluationTime platform input) = true)
    (found : input.supportingEvidence ≠ []) :
    trustScore platform input =
      scoreAt input input.missingEvidenceIds.length
        (average input.confidences) := by
  have unlisted :
      ¬(trustReasons platform input).contains .claimRevoked = true := by
    rw [List.contains_iff_mem, claimRevoked_mem_trustReasons]
    exact standing
  have filled : input.supportingEvidence.isEmpty = false :=
    List.isEmpty_eq_false_iff.mpr found
  simp only [trustScore, if_neg unlisted, confidenceAverage, filled,
    Bool.false_eq_true, if_false, scoreAt, confidences]

theorem decision_assessDataTrust (input : DataTrustAssessmentInput) :
    (assessDataTrust platform input).decision =
      decisionForScore (trustScore platform input)
        (trustReasons platform input) :=
  rfl

/-! ## Repeated identifiers -/

/-- Lists of evidence identifiers with the same members give one decision and
one score. -/
def SetDetermined (input : DataTrustAssessmentInput) : Prop :=
  ∀ evidenceIds : List JsString,
    (∀ evidenceId,
      evidenceId ∈ evidenceIds ↔ evidenceId ∈ input.claim.evidenceIds) →
    (assessDataTrust platform (input.withEvidenceIds evidenceIds)).decision =
        (assessDataTrust platform input).decision ∧
      (assessDataTrust platform (input.withEvidenceIds evidenceIds)).score =
        (assessDataTrust platform input).score

/-- The claim is revoked, none of its evidence is found, or the score is the
same for every average that lies between the least and the greatest
confidence; when an identifier has no evidence that score is 0. -/
def RepetitionHarmless (input : DataTrustAssessmentInput) : Prop :=
  isBeforeOrEqual platform input.claim.revokedAt
      (evaluationTime platform input) = true ∨
    input.supportingEvidence = [] ∨
    (input.missingEvidenceIds = [] ∧
      ∀ point other, Amid input.confidences point →
        Amid input.confidences other →
        scoreAt input 0 point = scoreAt input 0 other) ∨
    (input.missingEvidenceIds ≠ [] ∧
      ∀ point, Amid input.confidences point →
        scoreAt input input.missingEvidenceIds.eraseDups.length point = 0)

theorem setDetermined_iff_trustScore :
    SetDetermined platform input ↔
      ∀ evidenceIds : List JsString,
        (∀ evidenceId,
          evidenceId ∈ evidenceIds ↔
            evidenceId ∈ input.claim.evidenceIds) →
        trustScore platform (input.withEvidenceIds evidenceIds) =
          trustScore platform input := by
  constructor
  · intro determined evidenceIds same
    exact (determined evidenceIds same).2
  · intro sameScore evidenceIds same
    refine ⟨?_, sameScore evidenceIds same⟩
    rw [decision_assessDataTrust, decision_assessDataTrust,
      sameScore evidenceIds same, trustReasons_of_same platform same]

theorem eraseDups_length_le {missing others : List JsString}
    (same : ∀ evidenceId, evidenceId ∈ others ↔ evidenceId ∈ missing) :
    missing.eraseDups.length ≤ others.length := by
  refine ((nodup_eraseDups missing).subperm ?_).length_le
  intro evidenceId member
  exact (same evidenceId).mpr (List.mem_eraseDups.mp member)

theorem setDetermined_of_repetitionHarmless
    (harmless : RepetitionHarmless platform input) :
    SetDetermined platform input := by
  rw [setDetermined_iff_trustScore]
  intro evidenceIds same
  by_cases revoked : isBeforeOrEqual platform input.claim.revokedAt
      (evaluationTime platform input) = true
  · rw [trustScore_of_revoked platform revoked]
    exact trustScore_of_revoked platform revoked
  by_cases none : input.supportingEvidence = []
  · have stillNone :
        (input.withEvidenceIds evidenceIds).supportingEvidence = [] := by
      rw [List.eq_nil_iff_forall_not_mem]
      intro item member
      rw [mem_supportingEvidence_of_same same, none] at member
      cases member
    rw [trustScore_of_none platform none,
      trustScore_of_none platform stillNone]
  have found :
      (input.withEvidenceIds evidenceIds).supportingEvidence ≠ [] := by
    obtain ⟨item, member⟩ := List.exists_mem_of_ne_nil _ none
    exact List.ne_nil_of_mem
      ((mem_supportingEvidence_of_same same item).mpr member)
  have amid := amid_average input.confidences
  have otherAmid := (amid_average
    (input.withEvidenceIds evidenceIds).confidences).of_mem
      (mem_confidences_of_same same)
  rw [trustScore_eq_scoreAt platform revoked none,
    @trustScore_eq_scoreAt platform (input.withEvidenceIds evidenceIds)
      revoked found, scoreAt_of_same same]
  have missingSame := mem_missingEvidenceIds_of_same same
  cases harmless with
  | inl isRevoked =>
      exact absurd isRevoked revoked
  | inr harmless =>
      cases harmless with
      | inl isNone =>
          exact absurd isNone none
      | inr harmless =>
          cases harmless with
          | inl complete =>
              have stillComplete :
                  (input.withEvidenceIds evidenceIds).missingEvidenceIds =
                    [] := by
                rw [List.eq_nil_iff_forall_not_mem]
                intro evidenceId member
                rw [missingSame, complete.1] at member
                cases member
              rw [stillComplete, complete.1]
              exact complete.2 _ _ otherAmid amid
          | inr lowest =>
              have zero : ∀ (others : List JsString) (point : ℚ),
                  (∀ evidenceId, evidenceId ∈ others ↔
                    evidenceId ∈ input.missingEvidenceIds) →
                  Amid input.confidences point →
                  scoreAt input others.length point = 0 := by
                intro others point sameOthers between
                have below := scoreAt_mono input
                  (eraseDups_length_le sameOthers) (le_refl point)
                rw [lowest.2 point between] at below
                exact le_antisymm below (scoreAt_nonneg input _ point)
              rw [zero _ _ missingSame otherAmid,
                zero _ _ (fun _ => Iff.rfl) amid]

/-- Each identifier once, and one of them some more times. -/
def repeatedIds (input : DataTrustAssessmentInput) (evidenceId : JsString)
    (times : Nat) : List JsString :=
  input.claim.evidenceIds.eraseDups ++ List.replicate times evidenceId

theorem mem_repeatedIds {evidenceId : JsString}
    (listed : evidenceId ∈ input.claim.evidenceIds) (times : Nat)
    (other : JsString) :
    other ∈ repeatedIds input evidenceId times ↔
      other ∈ input.claim.evidenceIds := by
  rw [repeatedIds, List.mem_append, List.mem_eraseDups, List.mem_replicate]
  constructor
  · intro member
    cases member with
    | inl inside =>
        exact inside
    | inr repeated =>
        rw [repeated.2]
        exact listed
  · exact Or.inl

theorem confidences_repeatedIds {evidenceId : JsString}
    {item : DataTrustEvidence}
    (found : (evidenceById input.evidence).get evidenceId = some item)
    (times : Nat) :
    (input.withEvidenceIds (repeatedIds input evidenceId times)).confidences =
      (input.withEvidenceIds input.claim.evidenceIds.eraseDups).confidences ++
        List.replicate times (clampConfidence item) := by
  simp only [confidences, supportingEvidence, withEvidenceIds, repeatedIds,
    List.filterMap_append, List.map_append, List.append_cancel_left_eq]
  induction times with
  | zero =>
      rfl
  | succ times ih =>
      rw [List.replicate_succ, List.filterMap_cons_some found,
        List.map_cons, ih, List.replicate_succ]

theorem missing_repeatedIds_of_found {evidenceId : JsString}
    {item : DataTrustEvidence}
    (found : (evidenceById input.evidence).get evidenceId = some item)
    (times : Nat) :
    (input.withEvidenceIds
        (repeatedIds input evidenceId times)).missingEvidenceIds.length =
      input.missingEvidenceIds.eraseDups.length := by
  have noneRepeated : (List.replicate times evidenceId).filter
      (fun evidenceId => !(evidenceById input.evidence).has evidenceId) =
        [] := by
    rw [List.filter_eq_nil_iff]
    intro other member
    rw [(List.mem_replicate.mp member).2]
    simp [JsMap.has, found]
  have distinct : (input.claim.evidenceIds.eraseDups.filter
      fun evidenceId =>
        !(evidenceById input.evidence).has evidenceId).Nodup :=
    (nodup_eraseDups _).filter _
  simp only [missingEvidenceIds, withEvidenceIds, repeatedIds,
    List.filter_append, noneRepeated, List.append_nil]
  apply List.Perm.length_eq
  rw [List.perm_ext_iff_of_nodup distinct (nodup_eraseDups _)]
  intro other
  simp only [List.mem_filter, List.mem_eraseDups]

theorem length_le_missing_repeatedIds {evidenceId : JsString}
    (unavailable : (evidenceById input.evidence).get evidenceId = none)
    (times : Nat) :
    times ≤ (input.withEvidenceIds
      (repeatedIds input evidenceId times)).missingEvidenceIds.length := by
  have allRepeated : (List.replicate times evidenceId).filter
      (fun evidenceId => !(evidenceById input.evidence).has evidenceId) =
        List.replicate times evidenceId := by
    rw [List.filter_eq_self]
    intro other member
    rw [(List.mem_replicate.mp member).2]
    simp [JsMap.has, unavailable]
  simp only [missingEvidenceIds, withEvidenceIds, repeatedIds,
    List.filter_append, allRepeated, List.length_append,
    List.length_replicate]
  omega

theorem exists_found_of_mem_confidences {evidenceIds : List JsString}
    (same : ∀ evidenceId,
      evidenceId ∈ evidenceIds ↔ evidenceId ∈ input.claim.evidenceIds)
    {value : ℚ}
    (member : value ∈ (input.withEvidenceIds evidenceIds).confidences) :
    ∃ evidenceId ∈ input.claim.evidenceIds, ∃ item,
      (evidenceById input.evidence).get evidenceId = some item ∧
        clampConfidence item = value := by
  obtain ⟨item, inside, sameValue⟩ :=
    List.mem_map.mp ((mem_confidences_of_same same value).mp member)
  obtain ⟨evidenceId, listed, found⟩ := mem_supportingEvidence.mp inside
  exact ⟨evidenceId, listed, item, found, sameValue⟩

/-- With one score for all lists, the score for an average that repetitions
reach is the score there is. -/
theorem scoreAt_eq_trustScore_of_amid
    (determined : SetDetermined platform input)
    (standing : ¬isBeforeOrEqual platform input.claim.revokedAt
      (evaluationTime platform input) = true)
    (filled : input.supportingEvidence ≠ []) {point : ℚ}
    (amid : Amid input.confidences point) :
    scoreAt input input.missingEvidenceIds.eraseDups.length point =
      trustScore platform input := by
  rw [setDetermined_iff_trustScore] at determined
  have sameOnce : ∀ evidenceId,
      evidenceId ∈ input.claim.evidenceIds.eraseDups ↔
        evidenceId ∈ input.claim.evidenceIds :=
    fun _ => List.mem_eraseDups
  have onceAmid := amid.of_mem fun value =>
    (mem_confidences_of_same sameOnce value).symm
  have onceFilled :
      (input.withEvidenceIds
        input.claim.evidenceIds.eraseDups).confidences ≠ [] := by
    obtain ⟨item, member⟩ := List.exists_mem_of_ne_nil _ filled
    exact List.ne_nil_of_mem <| (mem_confidences_of_same sameOnce _).mpr
      (List.mem_map_of_mem member)
  -- The score of the list that repeats one identifier with evidence.
  have scoreRepeated : ∀ evidenceId ∈ input.claim.evidenceIds,
      ∀ item times,
      (evidenceById input.evidence).get evidenceId = some item →
      scoreAt input input.missingEvidenceIds.eraseDups.length
        (average ((input.withEvidenceIds
          input.claim.evidenceIds.eraseDups).confidences ++
            List.replicate times (clampConfidence item))) =
        trustScore platform input := by
    intro evidenceId listed item times found
    have same := mem_repeatedIds listed times
    have stillFilled : (input.withEvidenceIds
        (repeatedIds input evidenceId times)).supportingEvidence ≠ [] := by
      obtain ⟨other, member⟩ := List.exists_mem_of_ne_nil _ filled
      exact List.ne_nil_of_mem
        ((mem_supportingEvidence_of_same same other).mpr member)
    rw [← determined _ same,
      @trustScore_eq_scoreAt platform
        (input.withEvidenceIds (repeatedIds input evidenceId times)) standing
        stillFilled,
      scoreAt_of_same same, confidences_repeatedIds found,
      missing_repeatedIds_of_found found]
  apply le_antisymm
  · obtain ⟨value, member, times, above⟩ :=
      exists_le_average onceFilled onceAmid
    obtain ⟨evidenceId, listed, item, found, sameValue⟩ :=
      exists_found_of_mem_confidences sameOnce member
    rw [← scoreRepeated evidenceId listed item times found, sameValue]
    exact scoreAt_mono input (le_refl _) above
  · obtain ⟨value, member, times, below⟩ :=
      exists_average_le onceFilled onceAmid
    obtain ⟨evidenceId, listed, item, found, sameValue⟩ :=
      exists_found_of_mem_confidences sameOnce member
    rw [← scoreRepeated evidenceId listed item times found, sameValue]
    exact scoreAt_mono input (le_refl _) below

theorem average_confidences_le_one (filled : input.supportingEvidence ≠ []) :
    average input.confidences ≤ 1 := by
  apply average_le
  · simpa only [confidences, ne_eq, List.map_eq_nil_iff] using filled
  · intro value member
    obtain ⟨item, _, same⟩ := List.mem_map.mp member
    rw [← same]
    exact clampConfidence_le_one item

theorem trustScore_eq_zero_of_missing
    (determined : SetDetermined platform input)
    (missing : input.missingEvidenceIds ≠ []) :
    trustScore platform input = 0 := by
  by_cases revoked : isBeforeOrEqual platform input.claim.revokedAt
      (evaluationTime platform input) = true
  · exact trustScore_of_revoked platform revoked
  rw [setDetermined_iff_trustScore] at determined
  obtain ⟨evidenceId, member⟩ := List.exists_mem_of_ne_nil _ missing
  obtain ⟨listed, unavailable⟩ := mem_missingEvidenceIds.mp member
  -- Twelve repetitions weigh more than any confidence and bonus.
  rw [← determined _ (mem_repeatedIds listed 12)]
  by_cases none : (input.withEvidenceIds
      (repeatedIds input evidenceId 12)).supportingEvidence = []
  · exact trustScore_of_none platform none
  · rw [@trustScore_eq_scoreAt platform
      (input.withEvidenceIds (repeatedIds input evidenceId 12)) revoked none]
    have high := average_confidences_le_one none
    have bonus := diversityBonus_le
      (input.withEvidenceIds (repeatedIds input evidenceId 12))
    have penalty := classificationPenalties_nonneg
      (input.withEvidenceIds
        (repeatedIds input evidenceId 12)).claim.classification
    have heavy : (12 : ℚ) ≤ (input.withEvidenceIds
        (repeatedIds input evidenceId 12)).missingEvidenceIds.length := by
      exact_mod_cast length_le_missing_repeatedIds unavailable 12
    exact clampScore_of_nonpos (by linarith)

theorem repetitionHarmless_of_setDetermined
    (determined : SetDetermined platform input) :
    RepetitionHarmless platform input := by
  by_cases revoked : isBeforeOrEqual platform input.claim.revokedAt
      (evaluationTime platform input) = true
  · exact Or.inl revoked
  by_cases none : input.supportingEvidence = []
  · exact Or.inr (Or.inl none)
  have reached := fun point (amid : Amid input.confidences point) =>
    scoreAt_eq_trustScore_of_amid platform determined revoked none amid
  right
  right
  by_cases complete : input.missingEvidenceIds = []
  · left
    rw [complete] at reached
    refine ⟨complete, ?_⟩
    intro point other amid otherAmid
    exact (reached point amid).trans (reached other otherAmid).symm
  · right
    refine ⟨complete, ?_⟩
    intro point amid
    exact (reached point amid).trans
      (trustScore_eq_zero_of_missing platform determined complete)

end Platform

end BidayaxExecutive.PolicyEnforcement
