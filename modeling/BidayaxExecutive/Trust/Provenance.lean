import BidayaxExecutive.Library.Separator
import BidayaxExecutive.Trust.Domains
import BidayaxExecutive.Trust.Timestamps
import BidayaxExecutive.Trust.Validation

/-!
# Provenance manifests

A manifest lists the links and the events of an artifact in a fixed order and
is named by the digest of all of it.  Verification builds the manifest again
from its own fields and compares.
-/

namespace BidayaxExecutive.Trust

open BidayaxExecutive.Runtime JsString
open BidayaxExecutive.Library.Guards

/-! ## Events -/

def isReferenceUnit (unit : UInt16) : Bool :=
  isDigit unit || (65 ≤ unit && unit ≤ 90) || (97 ≤ unit && unit ≤ 122) ||
    unit == 47 || (js "._:-").contains unit

/-- `null`, or `ref:` or `urn:` and then letters, digits and the marks `.`, `_`,
`:`, slash and hyphen, at least one. -/
def safeReference : Option JsString → Bool
  | none => true
  | some value =>
      ((js "ref:").isPrefixOf value || (js "urn:").isPrefixOf value) &&
        !(value.drop 4).isEmpty && (value.drop 4).all isReferenceUnit

/-- `null`, or a digest. -/
def isDigestOrNull (digest : Option JsString) : Bool :=
  digest.all isHexDigest

section Host

variable (host : Host)

/-- Throws the texts of all errors in one. -/
def assertSafeMetadata (value : Json) : Outcome Unit :=
  let validation := validateSafeMetadata host (some value)
  if validation.valid then .ok ()
  else .error <| .error <| (js "; ").intercalate validation.errors

/-- The lifecycle of the source's check is an enumeration here. -/
def createProvenanceEvent (input : ProvenanceEvent) :
    Outcome ProvenanceEvent := do
  if !isDigestOrNull input.priorDigest || !isDigestOrNull input.resultingDigest
      then
    throw <| .error <| js "Provenance events store digests only"
  if !safeReference input.safeReference then
    throw <| .error <| js "Unsafe provenance reference"
  assertSafeMetadata host input.metadata
  let occurredAt ← canonicalUtcTimestamp host input.occurredAt
  .ok { input with occurredAt }

end Host

/-! ## Manifests -/

def linkIdentity (link : ProvenanceLink) : JsString :=
  link.artifactType ++ 0 :: (link.artifactId ++ 0 ::
    (link.artifactVersion ++ 0 :: link.relationship.text))

/-- The key by which events are sorted. -/
def eventKey (event : ProvenanceEvent) : JsString :=
  event.occurredAt ++ 0 :: event.eventId

structure ProvenanceManifestInput where
  tenantId : JsString
  artifactType : JsString
  artifactId : JsString
  artifactVersion : JsString
  artifactDigest : JsString
  links : List ProvenanceLink
  events : List ProvenanceEvent
  createdAt : JsString
  schemaVersion : JsString
  metadata : Json

/-- The loop over the sorted links, with the identities seen so far. -/
def checkLinks (seen : List JsString) : List ProvenanceLink → Outcome Unit
  | [] => .ok ()
  | link :: rest => do
      if !isHexDigest link.digest then
        throw <| .error <| js "Invalid provenance link digest"
      if linkIdentity link ∈ seen then
        throw <| .error <| js "Duplicate provenance link"
      checkLinks (linkIdentity link :: seen) rest

/-- The loop over neighbouring events. -/
def checkLinkage : List ProvenanceEvent → Outcome Unit
  | [] | [_] => .ok ()
  | previous :: event :: rest => do
      if event.priorDigest ≠ previous.resultingDigest then
        throw <| .error <| js "Broken provenance event digest linkage"
      checkLinkage (event :: rest)

/-- The fields of a manifest without its id and digest. -/
def manifestPayload (input : ProvenanceManifestInput) :
    List (JsString × JsValue) :=
  [(js "artifactDigest", .string input.artifactDigest),
    (js "artifactId", .string input.artifactId),
    (js "artifactType", .string input.artifactType),
    (js "artifactVersion", .string input.artifactVersion),
    (js "createdAt", .string input.createdAt),
    (js "events",
      (Json.array (input.events.map ProvenanceEvent.toJson)).toJs),
    (js "links", (Json.array (input.links.map ProvenanceLink.toJson)).toJs),
    (js "metadata", input.metadata.toJs),
    (js "schemaVersion", .string input.schemaVersion),
    (js "structureVersion", .string (js "1")),
    (js "tenantId", .string input.tenantId)]

/-- What the digest of a manifest is taken of. -/
def manifestBinding (input : ProvenanceManifestInput) : DomainDigestInput where
  domain := js "provenance.manifest"
  schemaVersion := input.schemaVersion
  tenantId := input.tenantId
  cardId := none
  artifactType := input.artifactType
  artifactId := input.artifactId
  artifactVersion := input.artifactVersion
  payload := recordValue (manifestPayload input)

/-- The source's `base`: links and events sorted, the time canonical. -/
def ProvenanceManifestInput.base (input : ProvenanceManifestInput)
    (createdAt : JsString) : ProvenanceManifestInput :=
  { input with
    createdAt
    links := sortOn linkIdentity input.links
    events := sortOn eventKey input.events }

/-- A base with its digest. -/
def ProvenanceManifestInput.sealed (base : ProvenanceManifestInput)
    (manifestDigest : JsString) : ProvenanceManifest where
  structureVersion := js "1"
  manifestId := js "prov_" ++ manifestDigest
  tenantId := base.tenantId
  artifactType := base.artifactType
  artifactId := base.artifactId
  artifactVersion := base.artifactVersion
  artifactDigest := base.artifactDigest
  links := base.links
  events := base.events
  manifestDigest := manifestDigest
  createdAt := base.createdAt
  schemaVersion := base.schemaVersion
  metadata := base.metadata

/-- A manifest as the argument of `createProvenanceManifest`. -/
def ProvenanceManifest.toInput (manifest : ProvenanceManifest) :
    ProvenanceManifestInput where
  tenantId := manifest.tenantId
  artifactType := manifest.artifactType
  artifactId := manifest.artifactId
  artifactVersion := manifest.artifactVersion
  artifactDigest := manifest.artifactDigest
  links := manifest.links
  events := manifest.events
  createdAt := manifest.createdAt
  schemaVersion := manifest.schemaVersion
  metadata := manifest.metadata

section Host

variable (host : Host)

def createProvenanceManifest (input : ProvenanceManifestInput) :
    Outcome ProvenanceManifest := do
  if !isHexDigest input.artifactDigest then
    throw <| .error <| js "Invalid artifact digest"
  assertSafeMetadata host input.metadata
  checkLinks [] (sortOn linkIdentity input.links)
  let events := sortOn eventKey input.events
  if ¬(events.map (·.eventId)).Nodup then
    throw <| .error <| js "Duplicate provenance event"
  checkLinkage events
  let createdAt ← canonicalUtcTimestamp host input.createdAt
  let manifestDigest ← createDomainDigest host
    (manifestBinding (input.base createdAt))
  .ok ((input.base createdAt).sealed manifestDigest)

/-- Everything thrown on the way makes the manifest invalid. -/
def verifyProvenanceManifest (manifest : ProvenanceManifest) : Bool :=
  match createProvenanceManifest host manifest.toInput with
  | .error _ => false
  | .ok recreated =>
      recreated.manifestId == manifest.manifestId &&
        recreated.manifestDigest == manifest.manifestDigest &&
        (recreated.links.zipIdx.all fun (link, index) =>
          some (linkIdentity link) ==
            manifest.links[index]?.map linkIdentity) &&
        recreated.events.zipIdx.all fun (event, index) =>
          some event.eventId == manifest.events[index]?.map (·.eventId)

def provenanceLinksArtifact (manifest : ProvenanceManifest)
    (artifactType artifactId artifactVersion digest : JsString) : Bool :=
  verifyProvenanceManifest host manifest &&
    manifest.links.any fun link =>
      link.artifactType == artifactType && link.artifactId == artifactId &&
        link.artifactVersion == artifactVersion && link.digest == digest

end Host

end BidayaxExecutive.Trust
