import BidayaxExecutive.PolicyEnforcement.DataTrustLaws

/-!
# Trust that fails closed

A trusted claim has its evidence, and is neither expired nor revoked as far as
its dates can be read.  A date that cannot be read counts as no date.
-/

namespace BidayaxExecutive.PolicyEnforcement

open BidayaxExecutive.Runtime JsString
open BidayaxExecutive.Library
open DataTrustAssessmentInput

/-! ## What a trusted claim has -/

theorem decisionForScore_eq_trusted_iff {score : Int}
    {reasonCodes : List DataTrustReasonCode} :
    decisionForScore score reasonCodes = .trusted ↔
      DataTrustReasonCode.claimRevoked ∉ reasonCodes ∧
        DataTrustReasonCode.claimExpired ∉ reasonCodes ∧
        DataTrustReasonCode.missingLinkedEvidence ∉ reasonCodes ∧
        DataTrustReasonCode.restrictedDataRequiresApprovalEvidence ∉
          reasonCodes ∧
        DataTrustReasonCode.lineageEvidenceMissing ∉ reasonCodes ∧
        65 ≤ score := by
  simp only [decisionForScore, Bool.or_eq_true, decide_eq_true_eq,
    List.contains_iff_mem]
  constructor
  · intro trusted
    split_ifs at trusted with revoked blocked reviewed low
    · push Not at blocked reviewed
      exact ⟨revoked, blocked.1, reviewed.1.1, reviewed.1.2, reviewed.2,
        by omega⟩
  · rintro ⟨revoked, expired, missing, restricted, lineage, high⟩
    have enough : ¬score < 40 := by omega
    have strong : ¬score < 65 := by omega
    simp only [revoked, expired, missing, restricted, lineage, enough, strong,
      or_self, if_false]

/-- A linked piece of evidence of a type. -/
def HasEvidence (input : DataTrustAssessmentInput)
    (type : DataTrustEvidenceType) : Prop :=
  ∃ item ∈ input.evidence, item.id ∈ input.claim.evidenceIds ∧
    item.type = type

theorem mem_of_get_evidenceById {evidence : List DataTrustEvidence}
    {evidenceId : JsString} {item : DataTrustEvidence}
    (found : (evidenceById evidence).get evidenceId = some item) :
    item ∈ evidence ∧ item.id = evidenceId := by
  rw [evidenceById, JsMap.get_ofEntries] at found
  obtain ⟨listed, member, same⟩ :=
    List.mem_map.mp (JsMap.lastWith_eq_some found)
  obtain ⟨sameId, sameItem⟩ := Prod.mk.inj same
  rw [← sameItem]
  exact ⟨member, sameId⟩

theorem hasEvidence_of_mem_evidenceTypes {input : DataTrustAssessmentInput}
    {type : DataTrustEvidenceType} (member : type ∈ input.evidenceTypes) :
    HasEvidence input type := by
  obtain ⟨item, inside, sameType⟩ := mem_evidenceTypes.mp member
  obtain ⟨evidenceId, listed, found⟩ := mem_supportingEvidence.mp inside
  obtain ⟨present, sameId⟩ := mem_of_get_evidenceById found
  refine ⟨item, present, ?_, sameType⟩
  rw [sameId]
  exact listed

section Platform

variable (platform : DataTrustPlatform)

/-- Every linked piece of evidence is there, with lineage and, for restricted
data, approval, and every date is a time after the time of the evaluation. -/
structure FailsClosed (input : DataTrustAssessmentInput) : Prop where
  linked : ∀ evidenceId ∈ input.claim.evidenceIds,
    ∃ item ∈ input.evidence, item.id = evidenceId
  lineage : HasEvidence input .lineage
  approval : input.claim.classification = .restricted →
    HasEvidence input .approval
  later : ∀ date, input.claim.expiresAt = some date ∨
      input.claim.revokedAt = some date →
    ∃ time reference, platform.parse date = some time ∧
      platform.parse (evaluationTime platform input) = some reference ∧
      reference < time

/-- A date is read as past, or every date and the time of the evaluation can
be read. -/
def DatesReadable (input : DataTrustAssessmentInput) : Prop :=
  isBeforeOrEqual platform input.claim.expiresAt
      (evaluationTime platform input) = true ∨
    isBeforeOrEqual platform input.claim.revokedAt
      (evaluationTime platform input) = true ∨
    ∀ date, input.claim.expiresAt = some date ∨
        input.claim.revokedAt = some date →
      (platform.parse date).isSome = true ∧
        (platform.parse (evaluationTime platform input)).isSome = true

variable {platform} {input : DataTrustAssessmentInput}

theorem isBeforeOrEqual_some {date reference : JsString} :
    isBeforeOrEqual platform (some date) reference = true ↔
      ∃ time referenceTime, platform.parse date = some time ∧
        platform.parse reference = some referenceTime ∧
        time ≤ referenceTime := by
  cases date with
  | nil =>
      have absent : truthy (some []) = none := rfl
      simp [isBeforeOrEqual, absent, platform.parse_nil]
  | cons first rest =>
      have present : truthy (some (first :: rest)) = some (first :: rest) :=
        rfl
      rw [isBeforeOrEqual, present]
      simp only
      cases platform.parse (first :: rest) with
      | none =>
          simp
      | some time =>
          cases platform.parse reference with
          | none =>
              simp
          | some referenceTime =>
              simp

theorem trusted_iff :
    (assessDataTrust platform input).decision = .trusted ↔
      isBeforeOrEqual platform input.claim.revokedAt
          (evaluationTime platform input) = false ∧
        isBeforeOrEqual platform input.claim.expiresAt
          (evaluationTime platform input) = false ∧
        input.missingEvidenceIds = [] ∧
        (input.claim.classification = .restricted →
          DataTrustEvidenceType.approval ∈ input.evidenceTypes) ∧
        DataTrustEvidenceType.lineage ∈ input.evidenceTypes ∧
        65 ≤ trustScore platform input := by
  rw [decision_assessDataTrust, decisionForScore_eq_trusted_iff]
  simp [trustReasons]

theorem later_of_not_before {date reference : JsString}
    (notBefore : isBeforeOrEqual platform (some date) reference = false)
    (readable : (platform.parse date).isSome = true)
    (referenceReadable : (platform.parse reference).isSome = true) :
    ∃ time referenceTime, platform.parse date = some time ∧
      platform.parse reference = some referenceTime ∧
      referenceTime < time := by
  obtain ⟨time, reads⟩ := Option.isSome_iff_exists.mp readable
  obtain ⟨referenceTime, referenceReads⟩ :=
    Option.isSome_iff_exists.mp referenceReadable
  refine ⟨time, referenceTime, reads, referenceReads, ?_⟩
  by_contra notLater
  have before := isBeforeOrEqual_some.mpr
    ⟨time, referenceTime, reads, referenceReads, Int.not_lt.mp notLater⟩
  rw [notBefore] at before
  cases before

theorem failsClosed_of_trusted (readable : DatesReadable platform input)
    (trusted : (assessDataTrust platform input).decision = .trusted) :
    FailsClosed platform input := by
  obtain ⟨notRevoked, notExpired, complete, approval, lineage, _⟩ :=
    trusted_iff.mp trusted
  have allReadable : ∀ date, input.claim.expiresAt = some date ∨
      input.claim.revokedAt = some date →
      (platform.parse date).isSome = true ∧
        (platform.parse (evaluationTime platform input)).isSome = true := by
    cases readable with
    | inl expired =>
        rw [notExpired] at expired
        cases expired
    | inr readable =>
        cases readable with
        | inl revoked =>
            rw [notRevoked] at revoked
            cases revoked
        | inr all =>
            exact all
  constructor
  · intro evidenceId listed
    cases found : (evidenceById input.evidence).get evidenceId with
    | none =>
        have missing := mem_missingEvidenceIds.mpr ⟨listed, found⟩
        rw [complete] at missing
        cases missing
    | some item =>
        exact ⟨item, mem_of_get_evidenceById found⟩
  · exact hasEvidence_of_mem_evidenceTypes lineage
  · exact fun restricted =>
      hasEvidence_of_mem_evidenceTypes (approval restricted)
  · intro date given
    obtain ⟨dateReadable, referenceReadable⟩ := allReadable date given
    cases given with
    | inl expires =>
        rw [expires] at notExpired
        exact later_of_not_before notExpired dateReadable referenceReadable
    | inr revoked =>
        rw [revoked] at notRevoked
        exact later_of_not_before notRevoked dateReadable referenceReadable

/-! ## Dates that cannot be read -/

/-- Lineage evidence of full confidence, linked to a claim with the dates. -/
def lineageOnly (input : DataTrustAssessmentInput) :
    DataTrustAssessmentInput where
  claim :=
    { id := input.claim.id
      classification := .internal
      evidenceIds := [js "ev-lineage"]
      expiresAt := input.claim.expiresAt
      revokedAt := input.claim.revokedAt }
  evidence := [⟨js "ev-lineage", .lineage, 1⟩]
  evaluatedAt := input.evaluatedAt

theorem lineageOnly_trusted
    (notExpired : isBeforeOrEqual platform input.claim.expiresAt
      (evaluationTime platform input) = false)
    (notRevoked : isBeforeOrEqual platform input.claim.revokedAt
      (evaluationTime platform input) = false) :
    (assessDataTrust platform (lineageOnly input)).decision = .trusted := by
  have found : (lineageOnly input).supportingEvidence =
      [⟨js "ev-lineage", .lineage, 1⟩] :=
    rfl
  have complete : (lineageOnly input).missingEvidenceIds = [] :=
    rfl
  have types : (lineageOnly input).evidenceTypes = [.lineage] := by
    rw [evidenceTypes, found]
    decide
  have high : 65 ≤ trustScore platform (lineageOnly input) := by
    have standing : ¬isBeforeOrEqual platform
        (lineageOnly input).claim.revokedAt
        (evaluationTime platform (lineageOnly input)) = true :=
      Bool.eq_false_iff.mp notRevoked
    rw [trustScore_eq_scoreAt platform standing
      (by rw [found]; exact List.cons_ne_nil _ _)]
    simp only [scoreAt, confidences, found, complete, diversityBonus, types]
    norm_num [clampScore, average, clampConfidence, lineageOnly,
      classificationPenalties]
  rw [trusted_iff]
  refine ⟨notRevoked, notExpired, complete, ?_, ?_, high⟩
  · intro restricted
    cases restricted
  · rw [types]
    exact List.mem_singleton_self _

theorem datesReadable_of_failsClosed
    (closed : ∀ other : DataTrustAssessmentInput,
      other.claim.expiresAt = input.claim.expiresAt →
      other.claim.revokedAt = input.claim.revokedAt →
      other.evaluatedAt = input.evaluatedAt →
      (assessDataTrust platform other).decision = .trusted →
      FailsClosed platform other) :
    DatesReadable platform input := by
  by_cases expired : isBeforeOrEqual platform input.claim.expiresAt
      (evaluationTime platform input) = true
  · exact Or.inl expired
  by_cases revoked : isBeforeOrEqual platform input.claim.revokedAt
      (evaluationTime platform input) = true
  · exact Or.inr (Or.inl revoked)
  right
  right
  have failsClosed := closed (lineageOnly input) rfl rfl rfl
    (lineageOnly_trusted (Bool.eq_false_iff.mpr expired)
      (Bool.eq_false_iff.mpr revoked))
  intro date given
  obtain ⟨time, reference, reads, referenceReads, _⟩ :=
    failsClosed.later date given
  rw [reads, show evaluationTime platform input =
    evaluationTime platform (lineageOnly input) from rfl, referenceReads]
  exact ⟨rfl, rfl⟩

end Platform

/-- The decision and score follow the set of evidence identifiers exactly when
repeating one is harmless, and trust fails closed for the dates of a claim
exactly when they can be read or one is past. -/
theorem dataTrust_iff (platform : DataTrustPlatform)
    (input : DataTrustAssessmentInput) :
    (SetDetermined platform input ↔ RepetitionHarmless platform input) ∧
    ((∀ other : DataTrustAssessmentInput,
        other.claim.expiresAt = input.claim.expiresAt →
        other.claim.revokedAt = input.claim.revokedAt →
        other.evaluatedAt = input.evaluatedAt →
        (assessDataTrust platform other).decision = .trusted →
        FailsClosed platform other) ↔
      DatesReadable platform input) := by
  refine ⟨⟨repetitionHarmless_of_setDetermined platform,
    setDetermined_of_repetitionHarmless platform⟩,
    datesReadable_of_failsClosed, ?_⟩
  intro readable other sameExpiry sameRevocation sameTime trusted
  refine failsClosed_of_trusted ?_ trusted
  simpa only [DatesReadable, evaluationTime, sameExpiry, sameRevocation,
    sameTime] using readable

def isoTrustPlatform : DataTrustPlatform where
  parse := fun text => (isoParse text).map fun time => time.milliseconds
  parse_nil := milliseconds_isoParse_nil
  now := js "2026-07-01T00:00:00.000Z"

/-- A source record of no confidence, and lineage of full confidence. -/
def halfConfident : DataTrustAssessmentInput where
  claim :=
    { id := js "claim-1"
      classification := .internal
      evidenceIds := [js "ev-source", js "ev-lineage"] }
  evidence := [⟨js "ev-source", .sourceRecord, 0⟩,
    ⟨js "ev-lineage", .lineage, 1⟩]
  evaluatedAt := some (js "2026-07-01T00:00:00.000Z")

def unreadableExpiry : DataTrustAssessmentInput where
  claim :=
    { id := js "claim-1"
      classification := .internal
      evidenceIds := [js "ev-lineage"]
      expiresAt := some (js "never") }
  evidence := [⟨js "ev-lineage", .lineage, 1⟩]
  evaluatedAt := some (js "2026-07-01T00:00:00.000Z")

/-- Listing the lineage three times turns a review into trust, and an expiry
that is no time leaves trust as it is. -/
theorem halfConfident_unreadableExpiry_not_closed :
    ¬SetDetermined isoTrustPlatform halfConfident ∧
      ¬((assessDataTrust isoTrustPlatform unreadableExpiry).decision =
          .trusted →
        FailsClosed isoTrustPlatform unreadableExpiry) := by
  constructor
  · intro determined
    have sameDecision := (determined
      [js "ev-source", js "ev-lineage", js "ev-lineage", js "ev-lineage"]
      (by simp [halfConfident])).1
    revert sameDecision
    decide +kernel
  · intro closed
    have trusted :
        (assessDataTrust isoTrustPlatform unreadableExpiry).decision =
          .trusted := by
      decide +kernel
    obtain ⟨time, _, reads, _⟩ := (closed trusted).later _ (Or.inl rfl)
    have unreadable :
        isoTrustPlatform.parse (js "never") = none := by
      decide +kernel
    rw [unreadable] at reads
    cases reads

end BidayaxExecutive.PolicyEnforcement
