import BidayaxExecutive.Trust.Provenance

/-!
# Manifests and their identity

The identity of a manifest does not depend on the order in which links and
events were given, a manifest is verified once it is built, and verified
manifests with one identity agree.  Two inputs are exceptions: events that the
sorting key does not tell apart, and a time whose UTC year the pattern of
timestamps does not admit.
-/

namespace BidayaxExecutive.Trust

open BidayaxExecutive.Runtime JsString
open BidayaxExecutive.Library.Guards

/-! ## The checks of the builder -/

theorem checkLinks_eq_ok {seen : List JsString} {links : List ProvenanceLink} :
    checkLinks seen links = .ok () ↔
      (∀ link ∈ links, isHexDigest link.digest = true ∧
        linkIdentity link ∉ seen) ∧
      (links.map linkIdentity).Nodup := by
  induction links generalizing seen with
  | nil =>
      simp [checkLinks]
  | cons link rest inductionHypothesis =>
      rw [checkLinks, guard_eq_ok, guard_eq_ok, inductionHypothesis,
        List.map_cons, List.nodup_cons, List.forall_mem_cons]
      simp only [Bool.not_eq_true', Bool.not_eq_false, List.mem_cons, not_or,
        List.mem_map, not_exists, not_and]
      constructor
      · rintro ⟨hex, new, others, distinct⟩
        exact ⟨⟨⟨hex, new⟩, fun other member =>
          ⟨(others other member).1, (others other member).2.2⟩⟩,
          fun other member => (others other member).2.1, distinct⟩
      · rintro ⟨⟨⟨hex, new⟩, others⟩, apart, distinct⟩
        exact ⟨hex, new, fun other member =>
          ⟨(others other member).1, apart other member,
            (others other member).2⟩, distinct⟩

section Host

variable (host : Host)

/-- The manifest that is built of an input, and all checks on the way. -/
structure Builds (input : ProvenanceManifestInput)
    (manifest : ProvenanceManifest) (createdAt : JsString) : Prop where
  digest : isHexDigest input.artifactDigest = true
  metadata : assertSafeMetadata host input.metadata = .ok ()
  links : checkLinks [] (sortOn linkIdentity input.links) = .ok ()
  events : ((sortOn eventKey input.events).map (·.eventId)).Nodup
  linkage : checkLinkage (sortOn eventKey input.events) = .ok ()
  time : canonicalUtcTimestamp host input.createdAt = .ok createdAt
  sealed : ∃ manifestDigest,
    createDomainDigest host (manifestBinding (input.base createdAt)) =
      .ok manifestDigest ∧
    manifest = (input.base createdAt).sealed manifestDigest

theorem createProvenanceManifest_eq_ok {input : ProvenanceManifestInput}
    {manifest : ProvenanceManifest} :
    createProvenanceManifest host input = .ok manifest ↔
      ∃ createdAt, Builds host input manifest createdAt := by
  unfold createProvenanceManifest
  simp only [guard_eq_ok, bind_eq_ok, Bool.not_eq_true', Bool.not_eq_false,
    not_not, Except.ok.injEq]
  constructor
  · rintro ⟨digest, _, metadata, _, links, events, _, linkage, createdAt,
      time, manifestDigest, hashed, shape⟩
    exact ⟨createdAt, digest, metadata, links, events, linkage, time,
      manifestDigest, hashed, shape.symm⟩
  · rintro ⟨createdAt, builds⟩
    rcases builds.sealed with ⟨manifestDigest, hashed, shape⟩
    exact ⟨builds.digest, (), builds.metadata, (), builds.links,
      builds.events, (), builds.linkage, createdAt, builds.time,
      manifestDigest, hashed, shape.symm⟩

variable {host}

theorem Builds.linkIdentities {input : ProvenanceManifestInput}
    {manifest : ProvenanceManifest} {createdAt : JsString}
    (builds : Builds host input manifest createdAt) :
    (input.links.map linkIdentity).Nodup :=
  ((sortOn_perm linkIdentity input.links).map linkIdentity).nodup_iff.mp
    (checkLinks_eq_ok.mp builds.links).2

theorem Builds.events_eq {input : ProvenanceManifestInput}
    {manifest : ProvenanceManifest} {createdAt : JsString}
    (builds : Builds host input manifest createdAt) :
    manifest.events = sortOn eventKey input.events := by
  rcases builds.sealed with ⟨_, _, rfl⟩
  rfl

variable (host)

/-! ## Order of the input -/

/-- Only the sorted links and events are read. -/
theorem createProvenanceManifest_of_sorted {input : ProvenanceManifestInput}
    {links : List ProvenanceLink} {events : List ProvenanceEvent}
    (sameLinks :
      sortOn linkIdentity links = sortOn linkIdentity input.links)
    (sameEvents : sortOn eventKey events = sortOn eventKey input.events) :
    createProvenanceManifest host { input with links, events } =
      createProvenanceManifest host input := by
  unfold createProvenanceManifest ProvenanceManifestInput.base
  simp only [sameLinks, sameEvents]

/-- The result is the same for every order of the links and events. -/
def OrderFree (input : ProvenanceManifestInput)
    (manifest : ProvenanceManifest) : Prop :=
  ∀ links events, links.Perm input.links → events.Perm input.events →
    createProvenanceManifest host { input with links, events } = .ok manifest

theorem orderFree_iff {input : ProvenanceManifestInput}
    {manifest : ProvenanceManifest}
    (built : createProvenanceManifest host input = .ok manifest) :
    OrderFree host input manifest ↔ (input.events.map eventKey).Nodup := by
  rcases (createProvenanceManifest_eq_ok host).mp built with
    ⟨createdAt, builds⟩
  constructor
  · intro free
    by_contra tie
    have tieSorted :
        ¬((sortOn eventKey input.events).map eventKey).Nodup := by
      rw [((sortOn_perm eventKey input.events).map eventKey).nodup_iff]
      exact tie
    rcases exists_neighbours_of_not_nodup eventKey
      (sortOn_pairwise eventKey input.events) tieSorted with
      ⟨earlier, first, second, later, split, sameKey⟩
    have sorted := sortOn_pairwise eventKey input.events
    have distinct := builds.events
    rw [split] at sorted distinct
    have swapped := sortOn_of_pairwise eventKey
      (pairwise_of_swap eventKey sorted sameKey)
    have permutation :
        (earlier ++ second :: first :: later).Perm input.events := by
      have swap : (earlier ++ second :: first :: later).Perm
          (earlier ++ first :: second :: later) :=
        (List.Perm.swap first second later).append_left earlier
      rw [← split] at swap
      exact swap.trans (sortOn_perm eventKey input.events)
    have rebuilt := free input.links _ (List.Perm.refl _) permutation
    rcases (createProvenanceManifest_eq_ok host).mp rebuilt with
      ⟨_, rebuilds⟩
    have sameEvents := rebuilds.events_eq.symm.trans builds.events_eq
    simp only at sameEvents
    rw [swapped, split, List.append_cancel_left_eq, List.cons.injEq]
      at sameEvents
    rw [sameEvents.1, List.map_append, List.map_cons, List.map_cons] at distinct
    have twice := (List.nodup_append.mp distinct).2.1
    simp at twice
  · intro distinct links events sameLinks sameEvents
    rw [createProvenanceManifest_of_sorted host
      (sortOn_eq_of_perm linkIdentity sameLinks.symm builds.linkIdentities).symm
      (sortOn_eq_of_perm eventKey sameEvents.symm distinct).symm]
    exact built

/-! ## Verification of what was built -/

private theorem all_zipIdx_self {α β : Type} [BEq β] [LawfulBEq β]
    (view : α → β) (items : List α) :
    (items.zipIdx.all fun (item, index) =>
      some (view item) == items[index]?.map view) = true := by
  rw [List.all_eq_true]
  rintro ⟨item, index⟩ member
  rw [List.mem_zipIdx_iff_getElem?] at member
  simp [member]

theorem base_base {input : ProvenanceManifestInput}
    (first second : JsString) :
    (input.base first).base second =
      { input.base first with createdAt := second } := by
  simp only [ProvenanceManifestInput.base,
    sortOn_of_pairwise linkIdentity (sortOn_pairwise linkIdentity input.links),
    sortOn_of_pairwise eventKey (sortOn_pairwise eventKey input.events)]

/-- A manifest whose time is canonicalized to itself builds itself again. -/
theorem builds_base {input : ProvenanceManifestInput}
    {manifest : ProvenanceManifest} {createdAt : JsString}
    (builds : Builds host input manifest createdAt)
    (fixed : canonicalUtcTimestamp host createdAt = .ok createdAt) :
    Builds host (input.base createdAt) manifest createdAt := by
  have links := sortOn_of_pairwise linkIdentity
    (sortOn_pairwise linkIdentity input.links)
  have events := sortOn_of_pairwise eventKey
    (sortOn_pairwise eventKey input.events)
  refine ⟨builds.digest, builds.metadata, ?_, ?_, ?_, fixed, ?_⟩
  · simp only [ProvenanceManifestInput.base, links]
    exact builds.links
  · simp only [ProvenanceManifestInput.base, events]
    exact builds.events
  · simp only [ProvenanceManifestInput.base, events]
    exact builds.linkage
  · rw [base_base]
    exact builds.sealed

theorem verifyProvenanceManifest_of_rebuilt {manifest : ProvenanceManifest}
    (rebuilt : createProvenanceManifest host manifest.toInput =
      .ok manifest) :
    verifyProvenanceManifest host manifest = true := by
  simp only [verifyProvenanceManifest, rebuilt, beq_self_eq_true,
    all_zipIdx_self, Bool.and_self]

/-- What was built is verified exactly when its time can be canonicalized
again. -/
theorem verify_built_iff {input : ProvenanceManifestInput}
    {manifest : ProvenanceManifest}
    (built : createProvenanceManifest host input = .ok manifest) :
    verifyProvenanceManifest host manifest = true ↔
      ∀ time ∈ occurrence host input.createdAt, FourDigitYear time := by
  rcases (createProvenanceManifest_eq_ok host).mp built with
    ⟨createdAt, builds⟩
  rcases (canonicalUtcTimestamp_eq_ok host).mp builds.time with
    ⟨_, time, read, rfl⟩
  have own : manifest.toInput = input.base (toISOString time) := by
    rcases builds.sealed with ⟨_, _, rfl⟩
    rfl
  simp only [read, Option.mem_def, Option.some.injEq, forall_eq']
  constructor
  · intro verified
    rw [verifyProvenanceManifest, own] at verified
    cases rebuilt : createProvenanceManifest host
        (input.base (toISOString time)) with
    | error failure =>
        simp [rebuilt] at verified
    | ok recreated =>
        rcases (createProvenanceManifest_eq_ok host).mp rebuilt with
          ⟨again, rebuilds⟩
        rcases (canonicalUtcTimestamp_eq_ok host).mp rebuilds.time with
          ⟨stamp, _⟩
        rw [ProvenanceManifestInput.base,
          host.nfc_of_isAscii _ (isAscii_toISOString time),
          timestampPattern_toISOString_iff] at stamp
        exact stamp
  · intro fourDigits
    apply verifyProvenanceManifest_of_rebuilt
    rw [own, createProvenanceManifest_eq_ok]
    exact ⟨_, builds_base host builds
      ((canonicalUtcTimestamp_toISOString_iff host time).mpr fourDigits)⟩

/-! ## Verified manifests -/

private theorem map_eq_of_all_zipIdx {α β : Type} [BEq β] [LawfulBEq β]
    (view : α → β) {left right : List α}
    (sameLength : left.length = right.length)
    (all : (left.zipIdx.all fun (item, index) =>
      some (view item) == right[index]?.map view) = true) :
    left.map view = right.map view := by
  rw [List.all_eq_true] at all
  apply List.ext_getElem?
  intro index
  rw [List.getElem?_map, List.getElem?_map]
  by_cases inside : index < left.length
  · have found := List.getElem?_eq_getElem inside
    have same := all (left[index], index)
      (List.mem_zipIdx_iff_getElem?.mpr found)
    rw [found, Option.map_some]
    exact beq_iff_eq.mp same
  · have outside : ¬index < right.length := by
      rw [← sameLength]
      exact inside
    rw [List.getElem?_eq_none (not_lt.mp inside),
      List.getElem?_eq_none (not_lt.mp outside)]

private theorem eq_of_map_eq {α β : Type} (view : α → β)
    {left right : List α} (permutation : left.Perm right)
    (distinct : (left.map view).Nodup)
    (same : left.map view = right.map view) :
    left = right := by
  apply List.ext_getElem (permutation.length_eq)
  intro index leftInside rightInside
  apply List.inj_on_of_nodup_map distinct (List.getElem_mem leftInside)
  · exact permutation.mem_iff.mpr (List.getElem_mem rightInside)
  · have sameAt := congrArg (·[index]?) same
    simpa [leftInside, rightInside] using sameAt

/-- A verified manifest has its links and events sorted and its digest and id
computed from its own fields. -/
theorem verified_sealed {manifest : ProvenanceManifest}
    (verified : verifyProvenanceManifest host manifest = true) :
    ∃ createdAt bytes,
      canonicalUtcTimestamp host manifest.createdAt = .ok createdAt ∧
      domainPreimage host
        (manifestBinding { manifest.toInput with createdAt }) = .ok bytes ∧
      manifest.manifestDigest = sha256Bytes bytes ∧
      manifest.manifestId = js "prov_" ++ sha256Bytes bytes := by
  unfold verifyProvenanceManifest at verified
  cases rebuilt : createProvenanceManifest host manifest.toInput with
  | error failure =>
      simp [rebuilt] at verified
  | ok recreated =>
      simp only [rebuilt, Bool.and_eq_true, beq_iff_eq] at verified
      rcases verified with ⟨⟨⟨sameId, sameDigest⟩, sameLinks⟩, sameEvents⟩
      rcases (createProvenanceManifest_eq_ok host).mp rebuilt with
        ⟨createdAt, builds⟩
      rcases builds.sealed with ⟨manifestDigest, hashed, rfl⟩
      have linksPerm := sortOn_perm linkIdentity manifest.links
      have eventsPerm := sortOn_perm eventKey manifest.events
      have links : sortOn linkIdentity manifest.links = manifest.links :=
        eq_of_map_eq linkIdentity linksPerm
          (checkLinks_eq_ok.mp builds.links).2
          (map_eq_of_all_zipIdx linkIdentity linksPerm.length_eq sameLinks)
      have events : sortOn eventKey manifest.events = manifest.events :=
        eq_of_map_eq ProvenanceEvent.eventId eventsPerm builds.events
          (map_eq_of_all_zipIdx ProvenanceEvent.eventId
            eventsPerm.length_eq sameEvents)
      have base : manifest.toInput.base createdAt =
          { manifest.toInput with createdAt } := by
        simp only [ProvenanceManifestInput.base, ProvenanceManifest.toInput,
          links, events]
      rw [base] at hashed
      rcases createDomainDigest_eq_ok hashed with ⟨bytes, preimage, rfl⟩
      exact ⟨createdAt, bytes, builds.time, preimage, sameDigest.symm,
        sameId.symm⟩

/-- Two manifests that canonicalization does not tell apart. -/
structure ManifestAgreement (left right : ProvenanceManifest) : Prop where
  structureVersion : SameForm host (.string left.structureVersion)
    (.string right.structureVersion)
  tenantId : SameForm host (.string left.tenantId) (.string right.tenantId)
  artifactType : SameForm host (.string left.artifactType)
    (.string right.artifactType)
  artifactId : SameForm host (.string left.artifactId)
    (.string right.artifactId)
  artifactVersion : SameForm host (.string left.artifactVersion)
    (.string right.artifactVersion)
  artifactDigest : SameForm host (.string left.artifactDigest)
    (.string right.artifactDigest)
  links : SameForm host
    (Json.array (left.links.map ProvenanceLink.toJson)).toJs
    (Json.array (right.links.map ProvenanceLink.toJson)).toJs
  events : SameForm host
    (Json.array (left.events.map ProvenanceEvent.toJson)).toJs
    (Json.array (right.events.map ProvenanceEvent.toJson)).toJs
  manifestDigest : left.manifestDigest = right.manifestDigest
  createdAt : SameForm host (.string left.createdAt) (.string right.createdAt)
  schemaVersion : SameForm host (.string left.schemaVersion)
    (.string right.schemaVersion)
  metadata : SameForm host left.metadata.toJs right.metadata.toJs

/-- The bytes that are hashed when a manifest is verified. -/
def manifestPreimages (manifest : ProvenanceManifest) : List (List UInt8) :=
  let preimage := do
    let createdAt ← canonicalUtcTimestamp host manifest.createdAt
    domainPreimage host (manifestBinding { manifest.toInput with createdAt })
  preimage.toOption.toList

theorem plainKeys_manifestPayload (input : ProvenanceManifestInput) :
    plainKeys ((manifestPayload input).map Prod.fst) = true := by
  simp only [manifestPayload, List.map_cons, List.map_nil]
  decide +kernel

/-- A time and its canonical timestamp have one canonical form. -/
theorem sameForm_of_canonicalUtcTimestamp {left right createdAt : JsString}
    (leftTime : canonicalUtcTimestamp host left = .ok createdAt)
    (rightTime : canonicalUtcTimestamp host right = .ok createdAt) :
    SameForm host (.string left) (.string right) := by
  refine ⟨.string createdAt, ?_, ?_⟩
  · rw [Canonical]
    exact ⟨createdAt, normalizeString_of_canonicalUtcTimestamp leftTime, rfl⟩
  · rw [Canonical]
    exact ⟨createdAt, normalizeString_of_canonicalUtcTimestamp rightTime, rfl⟩

/-- The structure version is the one field that verification does not read. -/
theorem manifestAgreement_iff {left right : ProvenanceManifest}
    (leftVerified : verifyProvenanceManifest host left = true)
    (rightVerified : verifyProvenanceManifest host right = true)
    (sameId : left.manifestId = right.manifestId)
    (free : CollisionFree
      (manifestPreimages host left ++ manifestPreimages host right)) :
    ManifestAgreement host left right ↔
      SameForm host (.string left.structureVersion)
        (.string right.structureVersion) := by
  rcases verified_sealed host leftVerified with
    ⟨leftTime, leftBytes, leftCanonical, leftPreimage, leftDigest, leftId⟩
  rcases verified_sealed host rightVerified with
    ⟨rightTime, rightBytes, rightCanonical, rightPreimage, rightDigest,
      rightId⟩
  have sameDigest : sha256Bytes leftBytes = sha256Bytes rightBytes := by
    rw [leftId, rightId] at sameId
    exact List.append_cancel_left sameId
  have sameBytes : leftBytes = rightBytes := by
    apply free
    · apply List.mem_append_left
      simp [manifestPreimages, leftCanonical, leftPreimage, Except.toOption]
    · apply List.mem_append_right
      simp [manifestPreimages, rightCanonical, rightPreimage, Except.toOption]
    · exact sameDigest
  rw [← sameBytes] at rightPreimage
  have binding := domainPreimage_inj leftPreimage rightPreimage
  simp only [domainBinding, manifestBinding, List.forall₂_cons] at binding
  rcases binding with
    ⟨artifactId, artifactType, artifactVersion, _, _, _, ⟨form, payload⟩,
      schemaVersion, tenantId, _⟩
  have fields := forall₂_sameForm host (plainKeys_manifestPayload _)
    (plainKeys_manifestPayload _) payload.1 payload.2
  simp only [manifestPayload, List.forall₂_cons] at fields
  rcases fields with
    ⟨artifactDigest, _, _, _, createdAt, events, links, metadata, _⟩
  have sameTime : leftTime = rightTime :=
    sameForm_string host (normalText_of_canonicalUtcTimestamp leftCanonical)
      (normalText_of_canonicalUtcTimestamp rightCanonical) createdAt
  constructor
  · exact fun agreement => agreement.structureVersion
  · intro structureVersion
    refine ⟨structureVersion, tenantId, artifactType, artifactId,
      artifactVersion, artifactDigest, links, events, ?_, ?_, schemaVersion,
      metadata⟩
    · rw [leftDigest, rightDigest, sameDigest]
    · rw [← sameTime] at rightCanonical
      exact sameForm_of_canonicalUtcTimestamp host leftCanonical rightCanonical

/-- When manifests are content-addressed: exactly for which inputs the order
does not matter and the result is verified, and when two verified manifests
with one id agree in every other field. -/
theorem provenanceManifest_contentAddressed_iff :
    (∀ (input : ProvenanceManifestInput) (manifest : ProvenanceManifest),
      createProvenanceManifest host input = .ok manifest →
      ((OrderFree host input manifest ∧
          verifyProvenanceManifest host manifest = true) ↔
        (input.events.map eventKey).Nodup ∧
          ∀ time ∈ occurrence host input.createdAt, FourDigitYear time)) ∧
    ∀ left right : ProvenanceManifest,
      verifyProvenanceManifest host left = true →
      verifyProvenanceManifest host right = true →
      left.manifestId = right.manifestId →
      CollisionFree
        (manifestPreimages host left ++ manifestPreimages host right) →
      (ManifestAgreement host left right ↔
        SameForm host (.string left.structureVersion)
          (.string right.structureVersion)) := by
  constructor
  · intro input manifest built
    rw [orderFree_iff host built, verify_built_iff host built]
  · intro left right leftVerified rightVerified sameId free
    exact manifestAgreement_iff host leftVerified rightVerified sameId free

end Host

/-! ## Events of the package -/

private theorem zero_not_mem_fixedText (width number : Nat) :
    0 ∉ fixedText width number := by
  intro member
  exact absurd (isDigit_of_mem_fixedText member) (by decide)

private theorem zero_not_mem_toISOString (time : TimeValue) :
    0 ∉ toISOString time := by
  have year : ∀ value, 0 ∉ yearText value := by
    intro value
    unfold yearText
    split_ifs <;> simp [zero_not_mem_fixedText]
  simp [toISOString, year, zero_not_mem_fixedText]

theorem eventKey_injOn {left right : ProvenanceEvent}
    (leftPlain : 0 ∉ left.occurredAt) (rightPlain : 0 ∉ right.occurredAt)
    (same : eventKey left = eventKey right) :
    left.eventId = right.eventId :=
  (Library.Separator.split_eq leftPlain rightPlain same).2

/-- Events made by the package never tie: their times are ISO text. -/
theorem eventKeys_nodup_of_created {host : Host}
    {events : List ProvenanceEvent}
    (created : ∀ event ∈ events, ∃ input,
      createProvenanceEvent host input = .ok event)
    (distinct : (events.map (·.eventId)).Nodup) :
    (events.map eventKey).Nodup := by
  have plain : ∀ event ∈ events, 0 ∉ event.occurredAt := by
    intro event member
    rcases created event member with ⟨input, made⟩
    unfold createProvenanceEvent at made
    rw [guard_eq_ok, guard_eq_ok] at made
    rcases bind_eq_ok.mp made.2.2 with ⟨_, _, timed⟩
    rcases bind_eq_ok.mp timed with ⟨occurredAt, canonical, shape⟩
    rcases (canonicalUtcTimestamp_eq_ok host).mp canonical with
      ⟨_, time, _, rfl⟩
    rw [← Except.ok.inj shape]
    exact zero_not_mem_toISOString time
  apply List.Nodup.map_on _ distinct.of_map
  intro left leftMember right rightMember same
  have sameId := eventKey_injOn (plain left leftMember)
    (plain right rightMember) same
  exact List.inj_on_of_nodup_map distinct leftMember rightMember sameId

/-! ## A document -/

def documentEvent (eventId occurredAt : JsString)
    (priorDigest resultingDigest : Option JsString) : ProvenanceEvent where
  eventId := eventId
  lifecycle := .created
  occurredAt := occurredAt
  actorIdentityId := none
  priorDigest := priorDigest
  resultingDigest := resultingDigest
  safeReference := none
  metadata := .object []

/-- A document with a source and two events, by the time of its manifest. -/
def documentInput (createdAt : JsString) : ProvenanceManifestInput where
  tenantId := js "tenant-1"
  artifactType := js "document"
  artifactId := js "output"
  artifactVersion := js "2"
  artifactDigest := List.replicate 64 98
  links := [⟨js "source_document", js "source", js "1",
    List.replicate 64 99, .source⟩]
  events :=
    [documentEvent (js "a") (js "2026-07-17T10:00:00.000Z") none none,
      documentEvent (js "b") (js "2026-07-17T11:00:00.000Z") none none]
  createdAt := createdAt
  schemaVersion := js "provenance-1"
  metadata := .object []

/-- In UTC the manifest is of the year 10000. -/
theorem documentInput_not_verified :
    ∃ manifest,
      createProvenanceManifest (recordedHost [])
          (documentInput (js "9999-12-31T23:30:00-01:00")) = .ok manifest ∧
        verifyProvenanceManifest (recordedHost []) manifest = false := by
  have computed :
      (createProvenanceManifest (recordedHost [])
          (documentInput (js "9999-12-31T23:30:00-01:00"))).toOption.map
        (verifyProvenanceManifest (recordedHost [])) = some false := by
    decide +kernel
  cases built : createProvenanceManifest (recordedHost [])
      (documentInput (js "9999-12-31T23:30:00-01:00")) with
  | error failure =>
      simp [built, Except.toOption] at computed
  | ok manifest =>
      simp only [built, Except.toOption, Option.map_some, Option.some.injEq]
        at computed
      exact ⟨manifest, rfl, computed⟩

/-- The manifest of the document, with its time as it is written. -/
def documentManifest (createdAt : JsString) : ProvenanceManifest :=
  (documentInput createdAt).sealed <| js
    "2fa70dfc75bfd495e09b8483a8bd2b5e497f5fd42d396300779dabb92dffab04"

theorem provenanceManifest_contentAddressed_iff_document :
    (∃ manifest,
      createProvenanceManifest (recordedHost [])
          (documentInput (js "2026-07-17T12:00:00.000Z")) = .ok manifest ∧
        OrderFree (recordedHost [])
          (documentInput (js "2026-07-17T12:00:00.000Z")) manifest ∧
        verifyProvenanceManifest (recordedHost []) manifest = true) ∧
      ManifestAgreement (recordedHost [])
        (documentManifest (js "2026-07-17T12:00:00.000Z"))
        (documentManifest (js "2026-07-17T12:00:00Z")) := by
  have addressed := provenanceManifest_contentAddressed_iff (recordedHost [])
  constructor
  · have succeeds : (createProvenanceManifest (recordedHost [])
        (documentInput (js "2026-07-17T12:00:00.000Z"))).isOk = true := by
      decide +kernel
    cases built : createProvenanceManifest (recordedHost [])
        (documentInput (js "2026-07-17T12:00:00.000Z")) with
    | error failure =>
        simp [built, Except.isOk, Except.toBool] at succeeds
    | ok manifest =>
        exact ⟨manifest, rfl, (addressed.1 _ manifest built).mpr
          ⟨by decide +kernel, by decide +kernel⟩⟩
  · have leftVerified : verifyProvenanceManifest (recordedHost [])
        (documentManifest (js "2026-07-17T12:00:00.000Z")) = true := by
      decide +kernel
    have rightVerified : verifyProvenanceManifest (recordedHost [])
        (documentManifest (js "2026-07-17T12:00:00Z")) = true := by
      decide +kernel
    have hashed : (manifestPreimages (recordedHost [])
        (documentManifest (js "2026-07-17T12:00:00.000Z"))).map sha256Bytes =
          [(documentManifest []).manifestDigest] := by
      decide +kernel
    have leftFree : CollisionFree (manifestPreimages (recordedHost [])
        (documentManifest (js "2026-07-17T12:00:00.000Z"))) :=
      collisionFree_of_nodup hashed (List.nodup_singleton _)
    have samePreimages : manifestPreimages (recordedHost [])
        (documentManifest (js "2026-07-17T12:00:00Z")) =
          manifestPreimages (recordedHost [])
            (documentManifest (js "2026-07-17T12:00:00.000Z")) := by
      decide +kernel
    apply (addressed.2 _ _ leftVerified rightVerified rfl _).mpr
    · exact ⟨.string (js "1"), ⟨js "1", by decide, rfl⟩,
        ⟨js "1", by decide, rfl⟩⟩
    · rw [samePreimages]
      exact leftFree.mono
        (List.append_subset.mpr ⟨List.Subset.refl _, List.Subset.refl _⟩)

end BidayaxExecutive.Trust
