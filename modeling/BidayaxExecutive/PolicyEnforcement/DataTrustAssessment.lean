import BidayaxExecutive.PolicyEnforcement.PolicyEvaluator
import BidayaxExecutive.Runtime.JsMap
import BidayaxExecutive.Library.Averages
import Mathlib.Data.List.Sort
import Mathlib.Data.Rat.Floor

/-!
# Assessing the trust in a claim

A claim names the evidence it rests on.  Its score is the average confidence of
the evidence found, with a bonus for the types of evidence and penalties for
evidence not found and for the classification of the data.
-/

namespace BidayaxExecutive.PolicyEnforcement

open BidayaxExecutive.Runtime JsString
open BidayaxExecutive.Library (average)

/-- `Date.parse`, where `none` is `NaN`, and the time of the call. -/
structure DataTrustPlatform where
  parse : JsString → Option Int
  parse_nil : parse [] = none
  now : JsString

/-- Confidences are rationals. -/
structure DataTrustEvidence where
  id : JsString
  type : DataTrustEvidenceType
  confidence : ℚ
  deriving DecidableEq, Repr

structure DataTrustClaim where
  id : JsString
  classification : DataClassification
  evidenceIds : List JsString
  expiresAt : Option JsString := none
  revokedAt : Option JsString := none
  deriving DecidableEq, Repr

structure DataTrustAssessmentInput where
  claim : DataTrustClaim
  evidence : List DataTrustEvidence
  evaluatedAt : Option JsString := none
  deriving DecidableEq, Repr

inductive DataTrustAssessmentTier where
  | verified
  | supported
  | weak
  | untrusted
  deriving DecidableEq, Repr

inductive DataTrustAssessmentDecision where
  | trusted
  | needsReview
  | blocked
  | revoked
  deriving DecidableEq, Repr

inductive DataTrustReasonCode where
  | noSupportingEvidence
  | missingLinkedEvidence
  | claimExpired
  | claimRevoked
  | restrictedDataRequiresApprovalEvidence
  | lineageEvidenceMissing
  deriving DecidableEq, Repr

def DataTrustReasonCode.text : DataTrustReasonCode → JsString
  | .noSupportingEvidence => js "NO_SUPPORTING_EVIDENCE"
  | .missingLinkedEvidence => js "MISSING_LINKED_EVIDENCE"
  | .claimExpired => js "CLAIM_EXPIRED"
  | .claimRevoked => js "CLAIM_REVOKED"
  | .restrictedDataRequiresApprovalEvidence =>
      js "RESTRICTED_DATA_REQUIRES_APPROVAL_EVIDENCE"
  | .lineageEvidenceMissing => js "LINEAGE_EVIDENCE_MISSING"

def DataTrustReasonCode.explanation : DataTrustReasonCode → JsString
  | .noSupportingEvidence =>
      js "The claim has no available supporting evidence."
  | .missingLinkedEvidence =>
      js "One or more linked evidence records are unavailable."
  | .claimExpired =>
      js "The claim expired before or at the evaluation time."
  | .claimRevoked =>
      js "The claim was revoked before or at the evaluation time."
  | .restrictedDataRequiresApprovalEvidence =>
      js "Restricted claims require approval evidence."
  | .lineageEvidenceMissing => js "Lineage evidence is not present."

structure DataTrustAssessment where
  claimId : JsString
  classification : DataClassification
  decision : DataTrustAssessmentDecision
  evidenceCount : Nat
  evaluatedAt : JsString
  explanation : List JsString
  missingEvidenceIds : List JsString
  reasonCodes : List JsString
  score : Int
  tier : DataTrustAssessmentTier
  deriving DecidableEq, Repr

/-! ## Scores -/

def classificationPenalties : DataClassification → ℚ
  | .confidential => 10
  | .internal => 5
  | .publicData => 0
  | .restricted => 20

/-- `Math.round` takes a number to the nearest integer, and a half up. -/
def clampScore (score : ℚ) : Int :=
  max 0 (min 100 ⌊score + 1 / 2⌋)

def clampConfidence (evidence : DataTrustEvidence) : ℚ :=
  max 0 (min 1 evidence.confidence)

def tierForScore (score : Int) : DataTrustAssessmentTier :=
  if 85 ≤ score then .verified
  else if 65 ≤ score then .supported
  else if 40 ≤ score then .weak
  else .untrusted

def decisionForScore (score : Int)
    (reasonCodes : List DataTrustReasonCode) : DataTrustAssessmentDecision :=
  if reasonCodes.contains .claimRevoked then .revoked
  else if reasonCodes.contains .claimExpired || score < 40 then .blocked
  else if reasonCodes.contains .missingLinkedEvidence ||
      reasonCodes.contains .restrictedDataRequiresApprovalEvidence ||
      reasonCodes.contains .lineageEvidenceMissing then .needsReview
  else if score < 65 then .needsReview
  else .trusted

def DataTrustEvidenceType.text : DataTrustEvidenceType → JsString
  | .sourceRecord => js "source_record"
  | .lineage => js "lineage"
  | .provenance => js "provenance"
  | .verification => js "verification"
  | .approval => js "approval"
  | .revocation => js "revocation"

def uniqueEvidenceTypes (evidence : List DataTrustEvidence) :
    List DataTrustEvidenceType :=
  (evidence.map fun item => item.type).eraseDups.insertionSort
    fun left right => codeUnitLe left.text right.text = true

/-! ## The assessment -/

def evidenceById (evidence : List DataTrustEvidence) :
    JsMap JsString DataTrustEvidence :=
  JsMap.ofEntries (evidence.map fun item => (item.id, item))

namespace DataTrustAssessmentInput

variable (input : DataTrustAssessmentInput)

def supportingEvidence : List DataTrustEvidence :=
  input.claim.evidenceIds.filterMap (evidenceById input.evidence).get

def missingEvidenceIds : List JsString :=
  input.claim.evidenceIds.filter fun evidenceId =>
    !(evidenceById input.evidence).has evidenceId

def evidenceTypes : List DataTrustEvidenceType :=
  uniqueEvidenceTypes input.supportingEvidence

def confidenceAverage : ℚ :=
  if input.supportingEvidence.isEmpty then 0
  else average (input.supportingEvidence.map clampConfidence)

def diversityBonus : ℚ :=
  min 15 (input.evidenceTypes.length * 5)

end DataTrustAssessmentInput

section Platform

variable (platform : DataTrustPlatform)

/-- A comparison with `NaN` is false. -/
def isBeforeOrEqual (value : Option JsString) (reference : JsString) :
    Bool :=
  match truthy value with
  | none => false
  | some text =>
      match platform.parse text, platform.parse reference with
      | some time, some referenceTime => time ≤ referenceTime
      | _, _ => false

def evaluationTime (input : DataTrustAssessmentInput) : JsString :=
  input.evaluatedAt.getD platform.now

def trustReasons (input : DataTrustAssessmentInput) :
    List DataTrustReasonCode :=
  (if input.supportingEvidence.length = 0 then [.noSupportingEvidence]
    else []) ++
  (if 0 < input.missingEvidenceIds.length then [.missingLinkedEvidence]
    else []) ++
  (if isBeforeOrEqual platform input.claim.expiresAt
      (evaluationTime platform input) then [.claimExpired] else []) ++
  (if isBeforeOrEqual platform input.claim.revokedAt
      (evaluationTime platform input) then [.claimRevoked] else []) ++
  (if input.claim.classification = .restricted ∧
      ¬input.evidenceTypes.contains .approval then
    [.restrictedDataRequiresApprovalEvidence] else []) ++
  (if ¬input.evidenceTypes.contains .lineage then [.lineageEvidenceMissing]
    else [])

def trustScore (input : DataTrustAssessmentInput) : Int :=
  if (trustReasons platform input).contains .claimRevoked then 0
  else
    clampScore (input.confidenceAverage * 100 + input.diversityBonus -
      input.missingEvidenceIds.length * 10 -
      classificationPenalties input.claim.classification)

def assessDataTrust (input : DataTrustAssessmentInput) :
    DataTrustAssessment :=
  let reasonCodes := trustReasons platform input
  let score := trustScore platform input
  { claimId := input.claim.id
    classification := input.claim.classification
    decision := decisionForScore score reasonCodes
    evidenceCount := input.supportingEvidence.length
    evaluatedAt := evaluationTime platform input
    explanation :=
      if reasonCodes.isEmpty then
        [js "The claim is supported by the linked evidence."]
      else reasonCodes.map DataTrustReasonCode.explanation
    missingEvidenceIds := input.missingEvidenceIds
    reasonCodes :=
      (reasonCodes.map DataTrustReasonCode.text).insertionSort
        fun left right => codeUnitLe left right = true
    score := score
    tier := tierForScore score }

end Platform

end BidayaxExecutive.PolicyEnforcement
