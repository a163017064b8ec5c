import BidayaxExecutive.Library.Guards
import BidayaxExecutive.Trust.Hashing
import BidayaxExecutive.Trust.Types

/-!
# Security domains

Every artifact digest is bound to a registered domain, the tenant, the card
and the identity of the artifact.
-/

namespace BidayaxExecutive.Trust

open BidayaxExecutive.Runtime JsString
open BidayaxExecutive.Library.Guards

def securityDomains : List JsString :=
  [js "settings.snapshot", js "brand.tokens.snapshot", js "identity.audit",
    js "identity.session", js "identity.authorization",
    js "telephony.audit", js "telephony.usage", js "telephony.safety",
    js "receptionist.runtime", js "receptionist.consent",
    js "receptionist.retention", js "receptionist.redaction",
    js "receptionist.safety", js "receptionist.tool_authorization",
    js "governance.legal_hold", js "governance.erasure_receipt",
    js "governance.kill_switch", js "capital.document",
    js "capital.disclosure", js "capital.consent",
    js "provenance.manifest", js "watermark.asset",
    js "watermark.package", js "sentinelq.evidence",
    js "communications.lifecycle", js "communications.consent",
    js "communications.suppression", js "communications.routing",
    js "communications.audit", js "communications.webhook"]

def isSecurityDomain (value : JsString) : Bool :=
  securityDomains.contains value

structure DomainDigestInput where
  domain : JsString
  schemaVersion : JsString
  canonicalizationVersion : Option JsString := none
  tenantId : JsString
  cardId : Option JsString
  artifactType : JsString
  artifactId : JsString
  artifactVersion : JsString
  payload : JsValue

def createDomainDigest (host : Host) (input : DomainDigestInput) :
    Outcome JsString := do
  if !isSecurityDomain input.domain then
    throw <| .securityDomain <|
      js "Unregistered security domain: " ++ input.domain
  let _ ← enforceAlgorithmPolicy artifactDigestRequest
  let version := input.canonicalizationVersion.getD canonicalizationVersion
  let canonical ← canonicalize host
    (recordValue
      [(js "artifactId", .string input.artifactId),
        (js "artifactType", .string input.artifactType),
        (js "artifactVersion", .string input.artifactVersion),
        (js "canonicalizationVersion", .string version),
        (js "cardId", (nullableText input.cardId).toJs),
        (js "domain", .string input.domain),
        (js "payload", input.payload),
        (js "schemaVersion", .string input.schemaVersion),
        (js "tenantId", .string input.tenantId)])
    { canonicalizationVersion := some version
      schemaVersion := js "security-domain-binding-1" }
  .ok (sha256Bytes canonical.bytes)

/-! ## What a domain digest hashes -/

/-- The fields of the record that binds a payload to its domain. -/
def domainBinding (input : DomainDigestInput) : List (JsString × JsValue) :=
  [(js "artifactId", .string input.artifactId),
    (js "artifactType", .string input.artifactType),
    (js "artifactVersion", .string input.artifactVersion),
    (js "canonicalizationVersion", .string
      (input.canonicalizationVersion.getD canonicalizationVersion)),
    (js "cardId", (nullableText input.cardId).toJs),
    (js "domain", .string input.domain),
    (js "payload", input.payload),
    (js "schemaVersion", .string input.schemaVersion),
    (js "tenantId", .string input.tenantId)]

theorem plainKeys_domainBinding (input : DomainDigestInput) :
    plainKeys ((domainBinding input).map Prod.fst) = true := by
  simp only [domainBinding, List.map_cons, List.map_nil]
  decide +kernel

/-- The bytes `createDomainDigest` hashes. -/
def domainPreimage (host : Host) (input : DomainDigestInput) :
    Outcome (List UInt8) := do
  let canonical ← canonicalize host (recordValue (domainBinding input))
    { canonicalizationVersion := some
        (input.canonicalizationVersion.getD canonicalizationVersion)
      schemaVersion := js "security-domain-binding-1" }
  .ok canonical.bytes

theorem createDomainDigest_eq_ok {host : Host} {input : DomainDigestInput}
    {digest : JsString}
    (computed : createDomainDigest host input = .ok digest) :
    ∃ bytes, domainPreimage host input = .ok bytes ∧
      digest = sha256Bytes bytes := by
  unfold createDomainDigest at computed
  rw [guard_eq_ok, bind_eq_ok] at computed
  rcases computed with ⟨_, _, _, hashed⟩
  rcases bind_eq_ok.mp hashed with ⟨canonical, found, shape⟩
  refine ⟨canonical.bytes, ?_, (Except.ok.inj shape).symm⟩
  exact bind_eq_ok.mpr ⟨canonical, found, rfl⟩

/-- Bindings with the same bytes have the same canonical fields. -/
theorem domainPreimage_inj {host : Host} {left right : DomainDigestInput}
    {bytes : List UInt8}
    (leftHashed : domainPreimage host left = .ok bytes)
    (rightHashed : domainPreimage host right = .ok bytes) :
    List.Forall₂ (fun first second => SameForm host first.2 second.2)
      (domainBinding left) (domainBinding right) := by
  rcases bind_eq_ok.mp leftHashed with ⟨canonical, found, leftShape⟩
  rcases bind_eq_ok.mp rightHashed with ⟨other, otherFound, rightShape⟩
  rcases (canonicalize_eq_ok host).mp found with
    ⟨_, form, _, isCanonical, _, rfl⟩
  rcases (canonicalize_eq_ok host).mp otherFound with
    ⟨_, otherForm, _, otherCanonical, _, rfl⟩
  have sameForm : form = otherForm := canonicalBytes_inj
    (isCanonical.normal host).stored (otherCanonical.normal host).stored
    ((Except.ok.inj leftShape).trans (Except.ok.inj rightShape).symm)
  rw [← sameForm] at otherCanonical
  exact forall₂_sameForm host (plainKeys_domainBinding left)
    (plainKeys_domainBinding right) isCanonical otherCanonical

end BidayaxExecutive.Trust
