import BidayaxExecutive.Runtime.JsValue

/-!
# Policy rules

A request is blocked when a block rule matches it or the tenants of subject and
resource differ.  A rule matches unless its actions, classifications or trust
threshold do not apply or one of its requirements is met, so a met requirement
excuses the others.
-/

namespace BidayaxExecutive.PolicyEnforcement

open BidayaxExecutive.Runtime JsString

/-! ## Requests and rules -/

inductive PolicyAction where
  | read
  | write
  | exportData
  | share
  | execute
  | promote
  | verify
  | revoke
  deriving DecidableEq, Repr

inductive DataClassification where
  | publicData
  | internal
  | confidential
  | restricted
  deriving DecidableEq, Repr

inductive DataTrustEvidenceType where
  | sourceRecord
  | lineage
  | provenance
  | verification
  | approval
  | revocation
  deriving DecidableEq, Repr

structure PolicySubject where
  tenantId : Option JsString := none
  deriving DecidableEq, Repr

structure PolicyResource where
  classification : DataClassification
  tenantId : Option JsString := none
  trustScore : Option JsNumber := none
  evidenceTypes : Option (List DataTrustEvidenceType) := none
  deriving DecidableEq, Repr

structure PolicyEvaluationContext where
  humanApprovalId : Option JsString := none
  requestedAt : Option JsString := none
  deriving DecidableEq, Repr

structure PolicyEvaluationRequest where
  subject : PolicySubject
  action : PolicyAction
  resource : PolicyResource
  context : Option PolicyEvaluationContext := none
  deriving DecidableEq, Repr

inductive PolicyRuleEffect where
  | allow
  | warn
  | block
  deriving DecidableEq, Repr

structure PolicyRule where
  id : JsString
  description : JsString
  effect : PolicyRuleEffect
  actions : List PolicyAction
  classifications : List DataClassification
  reasonCode : JsString
  belowTrustScore : Option JsNumber := none
  requiredEvidenceTypes : Option (List DataTrustEvidenceType) := none
  requireHumanApproval : Bool := false
  deriving DecidableEq, Repr

inductive PolicyDecision where
  | allowed
  | warning
  | blocked
  deriving DecidableEq, Repr

structure PolicyEvaluationResult where
  allowed : Bool
  decision : PolicyDecision
  evaluatedAt : JsString
  explanation : List JsString
  matchedRuleIds : List JsString
  reasonCodes : List JsString
  deriving DecidableEq, Repr

/-! ## Evaluation -/

/-- `value && value`, for a text that may be missing. -/
def truthy (value : Option JsString) : Option JsString :=
  value.filter (!·.isEmpty)

def hasHumanApproval (request : PolicyEvaluationRequest) : Bool :=
  (truthy (request.context.bind (·.humanApprovalId))).isSome

def PolicyRule.evidenceTypes (rule : PolicyRule) :
    List DataTrustEvidenceType :=
  rule.requiredEvidenceTypes.getD []

def hasRequiredEvidence (request : PolicyEvaluationRequest)
    (rule : PolicyRule) : Bool :=
  rule.evidenceTypes.all fun type =>
    (request.resource.evidenceTypes.getD []).contains type

/-- `(request.resource.trustScore ?? 0) >= rule.belowTrustScore`, for a rule
with a threshold. -/
def reachesTrustScore (request : PolicyEvaluationRequest)
    (rule : PolicyRule) : Bool :=
  rule.belowTrustScore.any fun threshold =>
    threshold.lessOrEqual (request.resource.trustScore.getD (.integer 0))

def ruleMatches (request : PolicyEvaluationRequest) (rule : PolicyRule) :
    Bool :=
  if !rule.actions.contains request.action then false
  else if !rule.classifications.contains request.resource.classification then
    false
  else if reachesTrustScore request rule then false
  else if rule.requireHumanApproval && hasHumanApproval request then false
  else if !rule.evidenceTypes.isEmpty && hasRequiredEvidence request rule then
    false
  else true

def tenantBoundaryViolation : JsString :=
  js "TENANT_BOUNDARY_VIOLATION"

def tenantsDiffer (request : PolicyEvaluationRequest) : Bool :=
  match truthy request.subject.tenantId, truthy request.resource.tenantId with
  | some subjectTenant, some resourceTenant => subjectTenant != resourceTenant
  | _, _ => false

/-- `now` is read when the request does not say when it was made. -/
def evaluatePolicy (now : JsString) (request : PolicyEvaluationRequest)
    (rules : List PolicyRule) : PolicyEvaluationResult :=
  let matchedRules := rules.filter (ruleMatches request)
  let reasonCodes :=
    (if tenantsDiffer request then [tenantBoundaryViolation] else []) ++
      matchedRules.map (·.reasonCode)
  let explanation :=
    (if tenantsDiffer request then
      [js "Subject and resource tenant identifiers do not match."] else []) ++
      matchedRules.map (·.description)
  let blocked := reasonCodes.contains tenantBoundaryViolation ||
    matchedRules.any (·.effect == .block)
  let warned := matchedRules.any (·.effect == .warn)
  let decision : PolicyDecision :=
    if blocked then .blocked else if warned then .warning else .allowed
  { allowed := decision != .blocked
    decision := decision
    evaluatedAt := (request.context.bind (·.requestedAt)).getD now
    explanation :=
      if explanation.isEmpty then
        [js "No blocking or warning policy rule matched."]
      else explanation
    matchedRuleIds := sortOn id (matchedRules.map (·.id))
    reasonCodes := sortOn id reasonCodes.dedup }

def defaultPolicyRules : List PolicyRule :=
  let everyAction : List PolicyAction :=
    [.read, .write, .exportData, .share, .execute, .promote, .verify, .revoke]
  let everyClassification : List DataClassification :=
    [.publicData, .internal, .confidential, .restricted]
  [{ actions := everyAction
     classifications := everyClassification
     belowTrustScore := some (.integer 40)
     description := js "Block actions against resources with untrusted evidence."
     effect := .block
     id := js "block-untrusted-resource"
     reasonCode := js "RESOURCE_TRUST_SCORE_TOO_LOW" },
    { actions := everyAction
      classifications := everyClassification
      belowTrustScore := some (.integer 65)
      description := js "Warn when a resource has weak evidence support."
      effect := .warn
      id := js "warn-weak-resource-evidence"
      reasonCode := js "RESOURCE_TRUST_SCORE_REQUIRES_REVIEW" },
    { actions := [.exportData, .share, .execute, .promote]
      classifications := [.restricted]
      description :=
        js "Block restricted high-impact actions without human approval."
      effect := .block
      id := js "block-restricted-without-approval"
      reasonCode := js "RESTRICTED_ACTION_REQUIRES_HUMAN_APPROVAL"
      requireHumanApproval := true },
    { actions := [.exportData, .share]
      classifications := [.confidential, .restricted]
      description :=
        js "Warn when sensitive data lacks lineage and provenance evidence."
      effect := .warn
      id := js "warn-sensitive-export-without-lineage"
      reasonCode := js "SENSITIVE_DATA_LINEAGE_REVIEW_REQUIRED"
      requiredEvidenceTypes := some [.lineage, .provenance] }]

/-! ## Decisions -/

/-- A matching rule blocks by its effect, or by a reason code that is the one
of the tenant boundary. -/
def PolicyRule.blocks (rule : PolicyRule) : Bool :=
  tenantBoundaryViolation == rule.reasonCode || rule.effect == .block

section Decisions

variable (now : JsString) (request : PolicyEvaluationRequest)
  (rules : List PolicyRule)

theorem blocked_eq :
    (((if tenantsDiffer request then [tenantBoundaryViolation] else []) ++
        (rules.filter (ruleMatches request)).map (·.reasonCode)).contains
          tenantBoundaryViolation ||
      (rules.filter (ruleMatches request)).any (·.effect == .block)) =
    (tenantsDiffer request ||
      rules.any fun rule => ruleMatches request rule && rule.blocks) := by
  have ownCode :
      (if tenantsDiffer request then [tenantBoundaryViolation]
        else []).contains tenantBoundaryViolation = tenantsDiffer request := by
    by_cases differ : tenantsDiffer request = true
    · rw [if_pos differ, differ]
      rfl
    · rw [if_neg differ, Bool.eq_false_iff.mpr differ]
      rfl
  rw [List.contains_append, List.contains_map, ownCode, Bool.or_assoc,
    List.any_filter, List.any_filter]
  congr 1
  rw [Bool.eq_iff_iff]
  simp only [PolicyRule.blocks, Bool.or_eq_true, List.any_eq_true,
    Bool.and_eq_true, and_or_left, ← exists_or]

/-- What the decision is made of. -/
theorem decision_eq :
    (evaluatePolicy now request rules).decision =
      if tenantsDiffer request ||
          rules.any fun rule => ruleMatches request rule && rule.blocks then
        .blocked
      else if rules.any fun rule =>
          ruleMatches request rule && rule.effect == .warn then .warning
      else .allowed := by
  rw [← blocked_eq, ← List.any_filter]
  rfl

theorem allowed_iff :
    (evaluatePolicy now request rules).allowed = true ↔
      tenantsDiffer request = false ∧
        ∀ rule ∈ rules, ruleMatches request rule = true →
          rule.blocks = false := by
  have allowed : (evaluatePolicy now request rules).allowed =
      ((evaluatePolicy now request rules).decision != .blocked) :=
    rfl
  rw [allowed, decision_eq, bne_iff_ne]
  by_cases blocked : (tenantsDiffer request ||
      rules.any fun rule => ruleMatches request rule && rule.blocks) = true
  · rw [if_pos blocked]
    simp only [ne_eq, not_true_eq_false, false_iff, not_and]
    intro agree every
    rw [agree, Bool.false_or, List.any_eq_true] at blocked
    obtain ⟨rule, member, isBlock⟩ := blocked
    rw [Bool.and_eq_true] at isBlock
    rw [every rule member isBlock.1] at isBlock
    exact Bool.false_ne_true isBlock.2
  · rw [if_neg blocked]
    rw [Bool.or_eq_true, not_or, Bool.not_eq_true, List.any_eq_true] at blocked
    refine iff_of_true ?_ ⟨blocked.1, ?_⟩
    · split_ifs <;> exact nofun
    · intro rule member isMatch
      rw [← Bool.not_eq_true]
      intro isBlock
      exact blocked.2 ⟨rule, member, by rw [isMatch, isBlock]; rfl⟩

/-- The decision depends on the rules of the list and not on their order. -/
theorem decision_congr {others : List PolicyRule}
    (same : ∀ rule, rule ∈ rules ↔ rule ∈ others) :
    (evaluatePolicy now request rules).decision =
      (evaluatePolicy now request others).decision := by
  have sameAny : ∀ test : PolicyRule → Bool,
      rules.any test = others.any test := by
    intro test
    rw [Bool.eq_iff_iff, List.any_eq_true, List.any_eq_true]
    simp only [same]
  rw [decision_eq, decision_eq, sameAny, sameAny]

end Decisions

/-! ## Requirements -/

section Requirements

variable (request : PolicyEvaluationRequest) (rule : PolicyRule)

/-- The actions, the classifications and the trust threshold of a rule apply to
a request. -/
def Applies : Prop :=
  request.action ∈ rule.actions ∧
    request.resource.classification ∈ rule.classifications ∧
      reachesTrustScore request rule = false

instance : Decidable (Applies request rule) :=
  inferInstanceAs (Decidable (_ ∧ _))

def PolicyRule.StatesApproval : Prop :=
  rule.requireHumanApproval = true

def PolicyRule.StatesEvidence : Prop :=
  rule.evidenceTypes ≠ []

instance : Decidable rule.StatesApproval :=
  inferInstanceAs (Decidable (_ = _))

instance : Decidable rule.StatesEvidence :=
  inferInstanceAs (Decidable (_ ≠ _))

/-- A rule states a requirement, and all that it states are met. -/
def RequirementsMet : Prop :=
  (rule.StatesApproval ∨ rule.StatesEvidence) ∧
    (rule.StatesApproval → hasHumanApproval request = true) ∧
      (rule.StatesEvidence → hasRequiredEvidence request rule = true)

/-- A rule states both requirements and one of them alone is met. -/
def HalfMet : Prop :=
  (rule.StatesApproval ∧ rule.StatesEvidence) ∧
    hasHumanApproval request ≠ hasRequiredEvidence request rule

instance : Decidable (HalfMet request rule) :=
  inferInstanceAs (Decidable (_ ∧ _))

/-- One met requirement is enough for a rule not to match. -/
theorem ruleMatches_iff :
    ruleMatches request rule = true ↔ Applies request rule ∧
      ¬(rule.StatesApproval ∧ hasHumanApproval request = true) ∧
        ¬(rule.StatesEvidence ∧
          hasRequiredEvidence request rule = true) := by
  unfold ruleMatches Applies PolicyRule.StatesApproval
    PolicyRule.StatesEvidence
  split_ifs with action classification trust approval evidence <;> simp_all

theorem not_halfMet_of_met (met : RequirementsMet request rule) :
    ¬HalfMet request rule := by
  intro half
  apply half.2
  rw [met.2.1 half.1.1, met.2.2 half.1.2]

/-- A rule that applies, does not match and is not half met has all its
requirements met. -/
theorem met_of_not_halfMet (applies : Applies request rule)
    (excused : ¬ruleMatches request rule = true)
    (whole : ¬HalfMet request rule) : RequirementsMet request rule := by
  rw [ruleMatches_iff, not_and] at excused
  have oneMet := excused applies
  rw [not_and_or, not_not, not_not] at oneMet
  cases oneMet with
  | inl approved =>
      refine ⟨.inl approved.1, fun _ => approved.2, ?_⟩
      intro states
      by_contra missing
      apply whole
      refine ⟨⟨approved.1, states⟩, ?_⟩
      rw [approved.2]
      exact fun same => missing same.symm
  | inr evidenced =>
      refine ⟨.inr evidenced.1, ?_, fun _ => evidenced.2⟩
      intro states
      by_contra missing
      apply whole
      refine ⟨⟨states, evidenced.1⟩, ?_⟩
      rw [evidenced.2]
      exact missing

end Requirements

/-- A request that is allowed meets every requirement of the block rules that
apply to it, and the decision does not depend on the order of the rules. -/
structure Conjunctive (now : JsString) (request : PolicyEvaluationRequest)
    (rules : List PolicyRule) : Prop where
  requirements : (evaluatePolicy now request rules).allowed = true →
    ∀ rule ∈ rules, rule.effect = .block → Applies request rule →
      RequirementsMet request rule
  order : ∀ others : List PolicyRule, rules.Perm others →
    (evaluatePolicy now request others).decision =
      (evaluatePolicy now request rules).decision

theorem conjunctive_of_not_halfMet {now : JsString}
    {request : PolicyEvaluationRequest} {rules : List PolicyRule}
    (whole : (evaluatePolicy now request rules).allowed = true →
      ∀ rule ∈ rules, rule.effect = .block → Applies request rule →
        ¬HalfMet request rule) : Conjunctive now request rules where
  requirements := by
    intro allowed rule member isBlock applies
    apply met_of_not_halfMet request rule applies _
      (whole allowed rule member isBlock applies)
    intro isMatch
    have passes :=
      ((allowed_iff now request rules).mp allowed).2 rule member isMatch
    unfold PolicyRule.blocks at passes
    rw [isBlock, beq_self_eq_true, Bool.or_true] at passes
    exact Bool.false_ne_true passes.symm
  order := by
    intro others permutation
    exact decision_congr now request others fun rule =>
      permutation.symm.mem_iff

/-- Requirements are conjunctive exactly for the requests that are blocked
anyway and for those of which no applying block rule is half met. -/
theorem conjunctive_iff (now : JsString) (request : PolicyEvaluationRequest)
    (rules : List PolicyRule) :
    Conjunctive now request rules ↔
      tenantsDiffer request = true ∨
        (∃ rule ∈ rules, ruleMatches request rule = true ∧
          rule.blocks = true) ∨
        ∀ rule ∈ rules, rule.effect = .block → Applies request rule →
          ¬HalfMet request rule := by
  constructor
  · intro conjunctive
    by_cases differ : tenantsDiffer request = true
    · exact .inl differ
    · by_cases blocked : ∃ rule ∈ rules, ruleMatches request rule = true ∧
          rule.blocks = true
      · exact .inr (.inl blocked)
      · refine .inr (.inr ?_)
        have allowed : (evaluatePolicy now request rules).allowed = true := by
          rw [allowed_iff]
          refine ⟨Bool.eq_false_iff.mpr differ, ?_⟩
          intro rule member isMatch
          rw [Bool.eq_false_iff]
          intro isBlock
          exact blocked ⟨rule, member, isMatch, isBlock⟩
        intro rule member isBlock applies
        exact not_halfMet_of_met request rule
          (conjunctive.requirements allowed rule member isBlock applies)
  · intro condition
    apply conjunctive_of_not_halfMet
    intro allowed
    obtain ⟨agree, passes⟩ := (allowed_iff now request rules).mp allowed
    cases condition with
    | inl differ =>
        rw [differ] at agree
        exact nomatch agree
    | inr rest =>
        cases rest with
        | inl blocked =>
            obtain ⟨rule, member, isMatch, isBlock⟩ := blocked
            rw [passes rule member isMatch] at isBlock
            exact nomatch isBlock
        | inr whole =>
            exact whole

/-- A rule that asks for an approval and for lineage evidence. -/
def approvedLineage : PolicyRule where
  id := js "block-unreviewed-export"
  description := js "Block exports without approval and lineage."
  effect := .block
  actions := [.exportData]
  classifications := [.restricted]
  reasonCode := js "EXPORT_REQUIRES_REVIEW"
  requiredEvidenceTypes := some [.lineage]
  requireHumanApproval := true

/-- An approved export without any evidence. -/
def approvedExport : PolicyEvaluationRequest where
  subject := {}
  action := .exportData
  resource := { classification := .restricted }
  context := some { humanApprovalId := some (js "approval-1") }

theorem approvedExport_not_conjunctive :
    ¬∀ (now : JsString) (request : PolicyEvaluationRequest)
        (rules : List PolicyRule), Conjunctive now request rules := by
  intro claim
  have conjunctive := claim [] approvedExport [approvedLineage]
  have met := conjunctive.requirements (by decide) approvedLineage
    List.mem_cons_self rfl (by decide)
  exact not_halfMet_of_met _ _ met (by decide)

/-- No default rule states two requirements. -/
theorem defaultPolicyRules_conjunctive (now : JsString)
    (request : PolicyEvaluationRequest) :
    Conjunctive now request defaultPolicyRules := by
  apply conjunctive_of_not_halfMet
  intro _ rule member _ _ half
  have single : ∀ rule ∈ defaultPolicyRules,
      ¬(rule.StatesApproval ∧ rule.StatesEvidence) := by
    decide
  exact single rule member half.1

end BidayaxExecutive.PolicyEnforcement
