import Mathlib.Data.List.AList
import BidayaxExecutive.Library.Representation
import BidayaxExecutive.Library.Separator
import BidayaxExecutive.Runtime.JsValue

/-!
# The settings cache and its isolation

One map from text keys to entries.  The key of a slot joins the tenant, the
card, the kind and the version with colons, and an invalidation deletes every
key with the prefix of a tenant or of a card.

What the cache is for is a table of slots, a slot being a tenant, a card, a
kind and a version, in which setting touches one slot and an invalidation the
slots of one tenant or of one card.  The cache represents that table under its
text keys for every run exactly when the ids in use keep the keys apart.
-/

namespace BidayaxExecutive.Settings

open BidayaxExecutive.Runtime JsString
open BidayaxExecutive.Library.Representation BidayaxExecutive.Library.Separator

variable {α : Type}

/-! ## The cache -/

inductive SettingsCacheKind where
  | publishedCard
  | brandTokens
  | versionHistory
  deriving DecidableEq, Repr

def SettingsCacheKind.text : SettingsCacheKind → JsString
  | .publishedCard => js "published-card"
  | .brandTokens => js "brand-tokens"
  | .versionHistory => js "version-history"

structure SettingsCacheEntry (α : Type) where
  expiresAt : JsNumber
  key : JsString
  tenantId : JsString
  value : α

structure SettingsCacheMetrics where
  hits : Nat
  misses : Nat
  writes : Nat
  invalidations : Nat
  deriving DecidableEq, Repr

/-- The map and the four counters of the closure. -/
structure SettingsCache (α : Type) where
  entries : AList fun _ : JsString => SettingsCacheEntry α
  metrics : SettingsCacheMetrics

def createSettingsCache : SettingsCache α where
  entries := ∅
  metrics := ⟨0, 0, 0, 0⟩

namespace SettingsCache

/-- A missing or expired entry is deleted, if it is there, and `null` is
returned. -/
def miss (cache : SettingsCache α) (key : JsString) : SettingsCache α where
  entries := cache.entries.erase key
  metrics := { cache.metrics with misses := cache.metrics.misses + 1 }

def hit (cache : SettingsCache α) : SettingsCache α :=
  { cache with
    metrics := { cache.metrics with hits := cache.metrics.hits + 1 } }

/-- `now` is what `Date.now()` returns during the call. -/
def get (cache : SettingsCache α) (key : JsString) (now : JsNumber) :
    Option α × SettingsCache α :=
  match cache.entries.lookup key with
  | none => (none, cache.miss key)
  | some entry =>
      if entry.expiresAt.lessOrEqual now then (none, cache.miss key)
      else (some entry.value, cache.hit)

def set (cache : SettingsCache α) (entry : SettingsCacheEntry α) :
    SettingsCache α where
  entries := cache.entries.insert entry.key entry
  metrics := { cache.metrics with writes := cache.metrics.writes + 1 }

/-- The loop over `entries.keys()` that deletes every key with the prefix. -/
def invalidate (cache : SettingsCache α) (keyStart : JsString) :
    Nat × SettingsCache α :=
  let removed := cache.entries.keys.filter fun key => keyStart.isPrefixOf key
  (removed.length,
    { entries := removed.foldl (fun entries key => entries.erase key)
        cache.entries
      metrics :=
        { cache.metrics with
          invalidations := cache.metrics.invalidations + removed.length } })

end SettingsCache

def tenantPrefix (tenantId : JsString) : JsString :=
  tenantId ++ js ":"

def cardPrefix (tenantId cardId : JsString) : JsString :=
  tenantId ++ js ":" ++ cardId ++ js ":"

def SettingsCache.invalidateCard (cache : SettingsCache α)
    (tenantId cardId : JsString) : Nat × SettingsCache α :=
  cache.invalidate (cardPrefix tenantId cardId)

def SettingsCache.invalidateTenant (cache : SettingsCache α)
    (tenantId : JsString) : Nat × SettingsCache α :=
  cache.invalidate (tenantPrefix tenantId)

structure SettingsCacheKeyInput where
  cardId : JsString
  kind : SettingsCacheKind
  tenantId : JsString
  version : Option JsString
  deriving DecidableEq

def makeSettingsCacheKey (input : SettingsCacheKeyInput) : JsString :=
  let version := input.version.getD (js "current")
  input.tenantId ++ js ":" ++ input.cardId ++ js ":" ++ input.kind.text ++
    js ":" ++ version

/-! ## Slots -/

structure CacheSlot where
  tenantId : JsString
  cardId : JsString
  kind : SettingsCacheKind
  version : JsString
  deriving DecidableEq

/-- The slot an input names; a missing version is the current one. -/
def SettingsCacheKeyInput.slot (input : SettingsCacheKeyInput) : CacheSlot where
  tenantId := input.tenantId
  cardId := input.cardId
  kind := input.kind
  version := input.version.getD (js "current")

def CacheSlot.key (slot : CacheSlot) : JsString :=
  makeSettingsCacheKey
    ⟨slot.cardId, slot.kind, slot.tenantId, some slot.version⟩

theorem makeSettingsCacheKey_eq (input : SettingsCacheKeyInput) :
    makeSettingsCacheKey input = input.slot.key :=
  rfl

/-- Every slot has the prefixes of its tenant and of its card. -/
theorem key_eq_cardPrefix (slot : CacheSlot) :
    slot.key = cardPrefix slot.tenantId slot.cardId ++
      (slot.kind.text ++ js ":" ++ slot.version) := by
  simp [CacheSlot.key, makeSettingsCacheKey, cardPrefix]

theorem key_eq_tenantPrefix (slot : CacheSlot) :
    slot.key = tenantPrefix slot.tenantId ++
      (slot.cardId ++ js ":" ++ slot.kind.text ++ js ":" ++ slot.version) := by
  simp [CacheSlot.key, makeSettingsCacheKey, tenantPrefix]

/-! ## Runs -/

/-- The entry of a `set` may carry any tenant of its own. -/
inductive CacheOperation (α : Type) where
  | set (input : SettingsCacheKeyInput) (tenantId : JsString)
      (expiresAt : JsNumber) (value : α)
  | get (input : SettingsCacheKeyInput) (now : JsNumber)
  | invalidateCard (tenantId cardId : JsString)
  | invalidateTenant (tenantId : JsString)

def CacheOperation.apply (cache : SettingsCache α) :
    CacheOperation α → SettingsCache α
  | .set input tenantId expiresAt value =>
      cache.set ⟨expiresAt, makeSettingsCacheKey input, tenantId, value⟩
  | .get input now => (cache.get (makeSettingsCacheKey input) now).2
  | .invalidateCard tenantId cardId =>
      (cache.invalidateCard tenantId cardId).2
  | .invalidateTenant tenantId => (cache.invalidateTenant tenantId).2

def cacheAfter (operations : List (CacheOperation α)) : SettingsCache α :=
  operations.foldl CacheOperation.apply createSettingsCache

/-! ## The table of slots -/

/-- Every slot with the end of its life and its value. -/
abbrev SlotTable (α : Type) := CacheSlot → Option (JsNumber × α)

/-- The value of a slot that has not expired. -/
def SlotTable.get (table : SlotTable α) (slot : CacheSlot) (now : JsNumber) :
    Option α :=
  match table slot with
  | none => none
  | some (expiresAt, value) =>
      if expiresAt.lessOrEqual now then none else some value

def CacheOperation.applyTable (table : SlotTable α) :
    CacheOperation α → SlotTable α
  | .set input _ expiresAt value =>
      Function.update table input.slot (some (expiresAt, value))
  | .get input now =>
      if (table.get input.slot now).isSome then table
      else Function.update table input.slot none
  | .invalidateCard tenantId cardId => fun slot =>
      if slot.tenantId = tenantId ∧ slot.cardId = cardId then none
      else table slot
  | .invalidateTenant tenantId => fun slot =>
      if slot.tenantId = tenantId then none else table slot

def tableAfter (operations : List (CacheOperation α)) : SlotTable α :=
  operations.foldl CacheOperation.applyTable fun _ => none

/-! ## Ids in use -/

/-- The slots that a run sets and gets, and the cards and tenants that it
invalidates. -/
structure CacheVocabulary where
  slots : Set CacheSlot
  cards : Set (JsString × JsString)
  tenants : Set JsString

def CacheOperation.Within (vocabulary : CacheVocabulary) :
    CacheOperation α → Prop
  | .set input _ _ _ => input.slot ∈ vocabulary.slots
  | .get input _ => input.slot ∈ vocabulary.slots
  | .invalidateCard tenantId cardId => (tenantId, cardId) ∈ vocabulary.cards
  | .invalidateTenant tenantId => tenantId ∈ vocabulary.tenants

/-- No two slots share a key, and no card or tenant prefix starts the key of a
slot elsewhere. -/
structure Unambiguous (vocabulary : CacheVocabulary) : Prop where
  keys : Set.InjOn CacheSlot.key vocabulary.slots
  cards : ∀ card ∈ vocabulary.cards, ∀ slot ∈ vocabulary.slots,
    cardPrefix card.1 card.2 <+: slot.key →
      slot.tenantId = card.1 ∧ slot.cardId = card.2
  tenants : ∀ tenantId ∈ vocabulary.tenants, ∀ slot ∈ vocabulary.slots,
    tenantPrefix tenantId <+: slot.key → slot.tenantId = tenantId

/-- What the cache holds under a key. -/
def SettingsCache.contents (cache : SettingsCache α) (key : JsString) :
    Option (JsNumber × α) :=
  (cache.entries.lookup key).map fun entry => (entry.expiresAt, entry.value)

/-- After the run the cache holds what the table holds, and a `get` returns
what the table has. -/
structure Isolated (vocabulary : CacheVocabulary)
    (operations : List (CacheOperation α)) : Prop where
  contents : Represents CacheSlot.key vocabulary.slots
    (cacheAfter operations).contents (tableAfter operations)
  get : ∀ input : SettingsCacheKeyInput, input.slot ∈ vocabulary.slots →
    ∀ now : JsNumber,
      ((cacheAfter operations).get (makeSettingsCacheKey input) now).1 =
        (tableAfter operations).get input.slot now

/-! ## One operation -/

theorem contents_set (cache : SettingsCache α)
    (entry : SettingsCacheEntry α) :
    (cache.set entry).contents =
      Function.update cache.contents entry.key
        (some (entry.expiresAt, entry.value)) := by
  funext key
  by_cases same : key = entry.key
  · rw [same, Function.update_self]
    simp [SettingsCache.contents, SettingsCache.set]
  · rw [Function.update_of_ne same]
    simp [SettingsCache.contents, SettingsCache.set,
      AList.lookup_insert_ne same]

theorem contents_miss (cache : SettingsCache α) (key : JsString) :
    (cache.miss key).contents = Function.update cache.contents key none := by
  funext other
  by_cases same : other = key
  · rw [same, Function.update_self]
    simp [SettingsCache.contents, SettingsCache.miss]
  · rw [Function.update_of_ne same]
    simp [SettingsCache.contents, SettingsCache.miss,
      AList.lookup_erase_ne same]

private theorem lookup_foldl_erase
    (entries : AList fun _ : JsString => SettingsCacheEntry α)
    (keys : List JsString) (key : JsString) :
    (keys.foldl (fun entries key => entries.erase key) entries).lookup key =
      if key ∈ keys then none else entries.lookup key := by
  induction keys generalizing entries with
  | nil =>
      simp
  | cons first rest inductionHypothesis =>
      rw [List.foldl_cons, inductionHypothesis]
      by_cases later : key ∈ rest
      · simp [later]
      · by_cases same : key = first
        · subst same
          simp [later]
        · simp [later, same, AList.lookup_erase_ne same]

/-- An invalidation clears the keys with its prefix and no others. -/
theorem contents_invalidate (cache : SettingsCache α) (keyStart : JsString) :
    (cache.invalidate keyStart).2.contents = fun key =>
      if keyStart <+: key then none else cache.contents key := by
  funext key
  simp only [SettingsCache.invalidate, SettingsCache.contents,
    lookup_foldl_erase, List.mem_filter, List.isPrefixOf_iff_prefix]
  by_cases starts : keyStart <+: key
  · by_cases held : key ∈ cache.entries.keys
    · simp [starts, held]
    · have absent : cache.entries.lookup key = none :=
        AList.lookup_eq_none.mpr fun member => held (AList.mem_keys.mp member)
      simp [starts, absent]
  · simp [starts]

/-- A `get` reads the contents alone. -/
theorem get_eq (cache : SettingsCache α) (key : JsString) (now : JsNumber) :
    (cache.get key now).1 =
        (match cache.contents key with
          | none => none
          | some (expiresAt, value) =>
              if expiresAt.lessOrEqual now then none else some value) ∧
      (cache.get key now).2.contents =
        if ((cache.get key now).1).isSome then cache.contents
        else Function.update cache.contents key none := by
  cases found : cache.entries.lookup key with
  | none =>
      have absent : cache.contents key = none := by
        simp [SettingsCache.contents, found]
      simp [SettingsCache.get, found, absent, contents_miss]
  | some entry =>
      have present : cache.contents key =
          some (entry.expiresAt, entry.value) := by
        simp [SettingsCache.contents, found]
      by_cases expired : entry.expiresAt.lessOrEqual now = true
      · simp [SettingsCache.get, found, present, expired, contents_miss]
      · simp [SettingsCache.get, found, present, expired]
        rfl

/-! ## Whole runs -/

theorem Unambiguous.cards_iff {vocabulary : CacheVocabulary}
    (unambiguous : Unambiguous vocabulary) {tenantId cardId : JsString}
    (member : (tenantId, cardId) ∈ vocabulary.cards) :
    ∀ slot ∈ vocabulary.slots,
      cardPrefix tenantId cardId <+: slot.key ↔
        slot.tenantId = tenantId ∧ slot.cardId = cardId := by
  intro slot slotMember
  constructor
  · exact unambiguous.cards (tenantId, cardId) member slot slotMember
  · rintro ⟨rfl, rfl⟩
    exact ⟨_, (key_eq_cardPrefix slot).symm⟩

theorem Unambiguous.tenants_iff {vocabulary : CacheVocabulary}
    (unambiguous : Unambiguous vocabulary) {tenantId : JsString}
    (member : tenantId ∈ vocabulary.tenants) :
    ∀ slot ∈ vocabulary.slots,
      tenantPrefix tenantId <+: slot.key ↔ slot.tenantId = tenantId := by
  intro slot slotMember
  constructor
  · exact unambiguous.tenants tenantId member slot slotMember
  · rintro rfl
    exact ⟨_, (key_eq_tenantPrefix slot).symm⟩

private theorem get_of_represents {vocabulary : CacheVocabulary}
    {cache : SettingsCache α} {table : SlotTable α}
    (represents : Represents CacheSlot.key vocabulary.slots cache.contents
      table) {input : SettingsCacheKeyInput}
    (member : input.slot ∈ vocabulary.slots) (now : JsNumber) :
    (cache.get (makeSettingsCacheKey input) now).1 =
      table.get input.slot now := by
  rw [(get_eq cache (makeSettingsCacheKey input) now).1,
    makeSettingsCacheKey_eq, represents input.slot member]
  rfl

/-- One operation on the cache and on the table. -/
theorem represents_apply {vocabulary : CacheVocabulary}
    (unambiguous : Unambiguous vocabulary) {cache : SettingsCache α}
    {table : SlotTable α}
    (represents : Represents CacheSlot.key vocabulary.slots cache.contents
      table) {operation : CacheOperation α}
    (within : operation.Within vocabulary) :
    Represents CacheSlot.key vocabulary.slots
      (operation.apply cache).contents (operation.applyTable table) := by
  cases operation with
  | set input tenantId expiresAt value =>
      rw [CacheOperation.apply, contents_set, CacheOperation.applyTable]
      exact represents.write unambiguous.keys within _
  | get input now =>
      have answer := get_of_represents represents within now
      rw [CacheOperation.apply, CacheOperation.applyTable,
        (get_eq cache (makeSettingsCacheKey input) now).2, answer]
      by_cases live : (table.get input.slot now).isSome = true
      · rw [if_pos live, if_pos live]
        exact represents
      · rw [if_neg live, if_neg live]
        exact represents.write unambiguous.keys within none
  | invalidateCard tenantId cardId =>
      rw [CacheOperation.apply, SettingsCache.invalidateCard,
        contents_invalidate, CacheOperation.applyTable]
      exact represents.clear (unambiguous.cards_iff within)
  | invalidateTenant tenantId =>
      rw [CacheOperation.apply, SettingsCache.invalidateTenant,
        contents_invalidate, CacheOperation.applyTable]
      exact represents.clear (unambiguous.tenants_iff within)

theorem represents_foldl {vocabulary : CacheVocabulary}
    (unambiguous : Unambiguous vocabulary)
    (operations : List (CacheOperation α)) {cache : SettingsCache α}
    {table : SlotTable α}
    (represents : Represents CacheSlot.key vocabulary.slots cache.contents
      table)
    (within : ∀ operation ∈ operations, operation.Within vocabulary) :
    Represents CacheSlot.key vocabulary.slots
      (operations.foldl CacheOperation.apply cache).contents
      (operations.foldl CacheOperation.applyTable table) := by
  induction operations generalizing cache table with
  | nil =>
      exact represents
  | cons operation rest inductionHypothesis =>
      rw [List.foldl_cons, List.foldl_cons]
      apply inductionHypothesis
      · exact represents_apply unambiguous represents
          (within operation List.mem_cons_self)
      · intro later member
        exact within later (List.mem_cons_of_mem _ member)

/-- Keys that are kept apart isolate every run. -/
theorem isolated_of_unambiguous {vocabulary : CacheVocabulary}
    (unambiguous : Unambiguous vocabulary)
    {operations : List (CacheOperation α)}
    (within : ∀ operation ∈ operations, operation.Within vocabulary) :
    Isolated vocabulary operations := by
  have represents : Represents CacheSlot.key vocabulary.slots
      (cacheAfter operations).contents (tableAfter operations) :=
    represents_foldl unambiguous operations (fun _ _ => rfl) within
  exact ⟨represents, fun input member now =>
    get_of_represents represents member now⟩

/-! ## Runs that mix slots up -/

/-- The input that names a slot. -/
def CacheSlot.input (slot : CacheSlot) : SettingsCacheKeyInput :=
  ⟨slot.cardId, slot.kind, slot.tenantId, some slot.version⟩

/-- Set a slot for good. -/
def CacheSlot.setForever (slot : CacheSlot) (value : α) : CacheOperation α :=
  .set slot.input slot.tenantId (.infinity false) value

private theorem contents_after_set (slot : CacheSlot) (value : α) :
    (cacheAfter [slot.setForever value]).contents slot.key =
      some (.infinity false, value) := by
  have stored := contents_set (createSettingsCache : SettingsCache α)
    ⟨.infinity false, slot.key, slot.tenantId, value⟩
  exact (congrFun stored slot.key).trans (Function.update_self ..)

private theorem table_after_set (slot : CacheSlot) (value : α) :
    tableAfter [slot.setForever value] =
      Function.update (fun _ => none) slot
        (some (JsNumber.infinity false, value)) :=
  rfl

/-- A key shared by two slots shows the value of one under the other. -/
private theorem keys_of_isolated {vocabulary : CacheVocabulary} (value : α)
    (isolated : ∀ operations : List (CacheOperation α),
      (∀ operation ∈ operations, operation.Within vocabulary) →
      Isolated vocabulary operations) :
    Set.InjOn CacheSlot.key vocabulary.slots := by
  intro first firstMember second secondMember sameKey
  by_contra different
  have run := isolated [first.setForever value] (by
    intro operation member
    rw [List.mem_singleton.mp member]
    exact firstMember)
  have found := run.contents second secondMember
  rw [← sameKey, contents_after_set, table_after_set,
    Function.update_of_ne (Ne.symm different)] at found
  simp at found

/-- An invalidation that clears the key of a slot the table keeps. -/
private theorem not_isolated_of_cleared {vocabulary : CacheVocabulary}
    {slot : CacheSlot} (member : slot ∈ vocabulary.slots) (value : α)
    (operation : CacheOperation α) {keyStart : JsString}
    (clears : ∀ cache : SettingsCache α,
      operation.apply cache = (cache.invalidate keyStart).2)
    (keeps : ∀ table : SlotTable α,
      operation.applyTable table slot = table slot)
    (starts : keyStart <+: slot.key) :
    ¬Isolated vocabulary [slot.setForever value, operation] := by
  intro isolated
  have found := isolated.contents slot member
  have cleared : (cacheAfter [slot.setForever value, operation]).contents
      slot.key = none := by
    change (operation.apply (cacheAfter [slot.setForever value])).contents
      slot.key = none
    rw [clears, contents_invalidate]
    exact if_pos starts
  have kept : tableAfter [slot.setForever value, operation] slot =
      some (.infinity false, value) := by
    change operation.applyTable (tableAfter [slot.setForever value]) slot = _
    rw [keeps, table_after_set, Function.update_self]
  rw [cleared, kept] at found
  simp at found

private theorem within_pair {vocabulary : CacheVocabulary} {slot : CacheSlot}
    (member : slot ∈ vocabulary.slots) (value : α)
    {operation : CacheOperation α} (within : operation.Within vocabulary) :
    ∀ step ∈ [slot.setForever value, operation], step.Within vocabulary := by
  intro step stepMember
  rcases List.mem_pair.mp stepMember with rfl | rfl
  · exact member
  · exact within

/-- Runs over the ids in use are all isolated exactly when the ids keep the
keys apart. -/
theorem settingsCache_isolated_iff [Inhabited α]
    (vocabulary : CacheVocabulary) :
    (∀ operations : List (CacheOperation α),
        (∀ operation ∈ operations, operation.Within vocabulary) →
        Isolated vocabulary operations) ↔
      Unambiguous vocabulary := by
  constructor
  · intro isolated
    refine ⟨keys_of_isolated default isolated, ?_, ?_⟩
    · rintro ⟨tenantId, cardId⟩ cardMember slot slotMember starts
      by_contra elsewhere
      apply not_isolated_of_cleared slotMember (default : α)
        (.invalidateCard tenantId cardId) (fun _ => rfl)
        (fun _ => if_neg elsewhere) starts
      exact isolated _ (within_pair slotMember default cardMember)
    · intro tenantId tenantMember slot slotMember starts
      by_contra elsewhere
      apply not_isolated_of_cleared slotMember (default : α)
        (.invalidateTenant tenantId) (fun _ => rfl)
        (fun _ => if_neg elsewhere) starts
      exact isolated _ (within_pair slotMember default tenantMember)
  · intro unambiguous operations within
    exact isolated_of_unambiguous unambiguous within

/-! ## Ids without colons -/

private theorem kind_text_plain (kind : SettingsCacheKind) :
    58 ∉ kind.text := by
  cases kind <;> decide

private theorem kind_text_injective :
    Function.Injective SettingsCacheKind.text := by
  intro left right
  cases left <;> cases right <;> decide

/-- A key, part by part. -/
private theorem key_parts (slot : CacheSlot) :
    slot.key = slot.tenantId ++ 58 :: (slot.cardId ++ 58 ::
      (slot.kind.text ++ 58 :: slot.version)) := by
  have colon : js ":" = [58] := rfl
  simp [CacheSlot.key, makeSettingsCacheKey, colon]

/-- Tenant and card ids without a colon keep the keys apart, whatever the
versions are. -/
theorem unambiguous_of_plain {vocabulary : CacheVocabulary}
    (slots : ∀ slot ∈ vocabulary.slots, 58 ∉ slot.tenantId ∧ 58 ∉ slot.cardId)
    (cards : ∀ card ∈ vocabulary.cards, 58 ∉ card.1 ∧ 58 ∉ card.2)
    (tenants : ∀ tenantId ∈ vocabulary.tenants, 58 ∉ tenantId) :
    Unambiguous vocabulary where
  keys := by
    intro first firstMember second secondMember sameKey
    rcases slots first firstMember with ⟨firstTenant, firstCard⟩
    rcases slots second secondMember with ⟨secondTenant, secondCard⟩
    rw [key_parts, key_parts] at sameKey
    rcases split_eq firstTenant secondTenant sameKey with ⟨tenant, afterTenant⟩
    rcases split_eq firstCard secondCard afterTenant with ⟨card, afterCard⟩
    rcases split_eq (kind_text_plain _) (kind_text_plain _) afterCard with
      ⟨kind, version⟩
    cases first
    cases second
    simp_all [kind_text_injective.eq_iff]
  cards := by
    rintro ⟨tenantId, cardId⟩ cardMember slot slotMember starts
    rcases cards (tenantId, cardId) cardMember with ⟨tenantPlain, cardPlain⟩
    rcases slots slot slotMember with ⟨slotTenant, slotCard⟩
    have parts : cardPrefix tenantId cardId =
        tenantId ++ 58 :: (cardId ++ 58 :: []) := by
      have colon : js ":" = [58] := rfl
      simp [cardPrefix, colon]
    rw [parts, key_parts] at starts
    rcases split_of_isPrefix tenantPlain slotTenant starts with
      ⟨tenant, afterTenant⟩
    rcases split_of_isPrefix cardPlain slotCard afterTenant with ⟨card, _⟩
    exact ⟨tenant.symm, card.symm⟩
  tenants := by
    intro tenantId tenantMember slot slotMember starts
    have parts : tenantPrefix tenantId = tenantId ++ 58 :: [] := rfl
    rw [parts, key_parts] at starts
    exact (split_of_isPrefix (tenants tenantId tenantMember)
      (slots slot slotMember).1 starts).1.symm

/-! ## An id with a colon -/

/-- A tenant named like the first half of another tenant's slot. -/
def collidingVocabulary : CacheVocabulary where
  slots :=
    {⟨js "acme", js "eu:card", .publishedCard, js "current"⟩,
      ⟨js "acme:eu", js "card", .publishedCard, js "current"⟩}
  cards := ∅
  tenants := {js "acme"}

/-- A `get` for one tenant returns the value another tenant set, and an
invalidation of the first clears what the second set. -/
theorem settingsCache_shares_colliding_slots :
    ¬∀ operations : List (CacheOperation JsString),
      (∀ operation ∈ operations,
        operation.Within collidingVocabulary) →
      Isolated collidingVocabulary operations := by
  intro isolated
  have run := isolated
    [.set ⟨js "eu:card", .publishedCard, js "acme", none⟩ (js "acme")
      (.integer 1000) (js "card of acme")] (by
      intro operation member
      rw [List.mem_singleton.mp member]
      exact Or.inl rfl)
  have answer := run.get ⟨js "card", .publishedCard, js "acme:eu", none⟩
    (Or.inr rfl) (.integer 0)
  revert answer
  decide +kernel

end BidayaxExecutive.Settings
