import Mathlib.Data.List.Nodup
import Mathlib.Tactic.Common

/-!
# Maps

A `Map` lists its entries in the order in which their keys came first.  To set
a key again replaces the value where it stands.
-/

namespace BidayaxExecutive.Runtime

section Entries

variable {Key Value : Type} [DecidableEq Key]

def getEntry : List (Key × Value) → Key → Option Value
  | [], _ => none
  | (present, value) :: rest, key =>
      if present = key then some value else getEntry rest key

def setEntry : List (Key × Value) → Key → Value → List (Key × Value)
  | [], key, value => [(key, value)]
  | (present, old) :: rest, key, value =>
      if present = key then (key, value) :: rest
      else (present, old) :: setEntry rest key value

theorem getEntry_setEntry (entries : List (Key × Value)) (key other : Key)
    (value : Value) :
    getEntry (setEntry entries key value) other =
      if other = key then some value else getEntry entries other := by
  induction entries with
  | nil =>
      by_cases same : other = key
      · simp [setEntry, getEntry, same]
      · simp [setEntry, getEntry, same, Ne.symm same]
  | cons entry rest inductionHypothesis =>
      obtain ⟨present, old⟩ := entry
      by_cases found : present = key
      · subst found
        by_cases same : other = present
        · simp [setEntry, getEntry, same]
        · simp [setEntry, getEntry, same, Ne.symm same]
      · rw [setEntry, if_neg found, getEntry, inductionHypothesis, getEntry]
        by_cases same : present = other
        · subst same
          rw [if_pos rfl, if_pos rfl, if_neg found]
        · rw [if_neg same, if_neg same]

theorem keys_setEntry (entries : List (Key × Value)) (key : Key)
    (value : Value) :
    (setEntry entries key value).map Prod.fst =
      if key ∈ entries.map Prod.fst then entries.map Prod.fst
      else entries.map Prod.fst ++ [key] := by
  induction entries with
  | nil =>
      rfl
  | cons entry rest inductionHypothesis =>
      obtain ⟨present, old⟩ := entry
      by_cases found : present = key
      · subst found
        rw [setEntry, if_pos rfl, List.map_cons, List.map_cons,
          if_pos List.mem_cons_self]
      · rw [setEntry, if_neg found, List.map_cons, inductionHypothesis]
        by_cases member : key ∈ rest.map Prod.fst
        · rw [if_pos member, List.map_cons,
            if_pos (List.mem_cons_of_mem _ member)]
        · have absent : key ∉ ((present, old) :: rest).map Prod.fst := by
            rw [List.map_cons, List.mem_cons, not_or]
            exact ⟨Ne.symm found, member⟩
          rw [if_neg member, if_neg absent]
          rfl

theorem getEntry_eq_some {entries : List (Key × Value)} {key : Key}
    {value : Value} (distinct : (entries.map Prod.fst).Nodup) :
    getEntry entries key = some value ↔ (key, value) ∈ entries := by
  induction entries with
  | nil =>
      simp [getEntry]
  | cons entry rest inductionHypothesis =>
      obtain ⟨present, old⟩ := entry
      rw [List.map_cons, List.nodup_cons] at distinct
      rw [getEntry, List.mem_cons, Prod.mk.injEq]
      by_cases same : present = key
      · subst same
        have absent : (present, value) ∉ rest := fun member =>
          distinct.1 (List.mem_map.mpr ⟨_, member, rfl⟩)
        simp [absent, eq_comm]
      · simp [same, Ne.symm same, inductionHypothesis distinct.2]

end Entries

/-- The entries of a map. -/
structure JsMap (Key Value : Type) where
  entries : List (Key × Value)
  distinct : (entries.map Prod.fst).Nodup
  deriving DecidableEq

namespace JsMap

section Map

variable {Key Value : Type}

def empty : JsMap Key Value :=
  ⟨[], List.nodup_nil⟩

def keys (map : JsMap Key Value) : List Key :=
  map.entries.map Prod.fst

def values (map : JsMap Key Value) : List Value :=
  map.entries.map Prod.snd

variable [DecidableEq Key]

def get (map : JsMap Key Value) (key : Key) : Option Value :=
  getEntry map.entries key

def has (map : JsMap Key Value) (key : Key) : Bool :=
  (map.get key).isSome

def set (map : JsMap Key Value) (key : Key) (value : Value) :
    JsMap Key Value where
  entries := setEntry map.entries key value
  distinct := by
    rw [keys_setEntry]
    by_cases present : key ∈ map.entries.map Prod.fst
    · rw [if_pos present]
      exact map.distinct
    · rw [if_neg present, List.nodup_append]
      refine ⟨map.distinct, List.nodup_singleton _, ?_⟩
      rintro old member _ isKey rfl
      exact present (List.mem_singleton.mp isKey ▸ member)

/-- `new Map(entries)`. -/
def ofEntries (entries : List (Key × Value)) : JsMap Key Value :=
  entries.foldl (fun map entry => map.set entry.1 entry.2) empty

@[simp]
theorem get_empty (key : Key) : (empty : JsMap Key Value).get key = none :=
  rfl

theorem get_set (map : JsMap Key Value) (key other : Key) (value : Value) :
    (map.set key value).get other =
      if other = key then some value else map.get other :=
  getEntry_setEntry map.entries key other value

theorem get_eq_some {map : JsMap Key Value} {key : Key} {value : Value} :
    map.get key = some value ↔ (key, value) ∈ map.entries :=
  getEntry_eq_some map.distinct

theorem mem_keys {map : JsMap Key Value} {key : Key} :
    key ∈ map.keys ↔ ∃ value, map.get key = some value := by
  unfold keys
  constructor
  · intro member
    obtain ⟨entry, isEntry, same⟩ := List.mem_map.mp member
    exact ⟨entry.2, get_eq_some.mpr (same ▸ isEntry)⟩
  · intro present
    obtain ⟨value, found⟩ := present
    exact List.mem_map_of_mem (get_eq_some.mp found)

theorem mem_values {map : JsMap Key Value} {value : Value} :
    value ∈ map.values ↔ ∃ key, map.get key = some value := by
  unfold values
  constructor
  · intro member
    obtain ⟨entry, isEntry, same⟩ := List.mem_map.mp member
    exact ⟨entry.1, get_eq_some.mpr (same ▸ isEntry)⟩
  · intro present
    obtain ⟨key, found⟩ := present
    exact List.mem_map.mpr ⟨_, get_eq_some.mp found, rfl⟩

theorem has_set (map : JsMap Key Value) (key other : Key) (value : Value) :
    (map.set key value).has other = (decide (other = key) || map.has other) :=
  by
  unfold has
  rw [get_set]
  by_cases same : other = key
  · simp [same]
  · simp [same]

/-- A map that keeps the first value of a key has the key afterwards. -/
theorem has_ite_set_iff (map : JsMap Key Value) (key other : Key)
    (value : Value) :
    (if map.has key = true then map else map.set key value).has other = true ↔
      other = key ∨ map.has other = true := by
  by_cases present : map.has key = true
  · rw [if_pos present]
    constructor
    · exact .inr
    · intro either
      cases either with
      | inl same =>
          rw [same]
          exact present
      | inr old =>
          exact old
  · rw [if_neg present, has_set, Bool.or_eq_true, decide_eq_true_iff]

/-- What it gives is the new value or what it gave before. -/
theorem get_ite_set_cases {map : JsMap Key Value} {key other : Key}
    {value stored : Value}
    (found : (if map.has key = true then map else map.set key value).get
      other = some stored) :
    (other = key ∧ stored = value) ∨ map.get other = some stored := by
  by_cases present : map.has key = true
  · rw [if_pos present] at found
    exact .inr found
  · rw [if_neg present, get_set] at found
    by_cases same : other = key
    · rw [if_pos same] at found
      exact .inl ⟨same, (Option.some.inj found).symm⟩
    · rw [if_neg same] at found
      exact .inr found

/-- The last of the entries with the key. -/
def lastWith (entries : List (Key × Value)) (key : Key) : Option Value :=
  (entries.reverse.find? fun entry => entry.1 = key).map Prod.snd

theorem get_foldl_set (entries : List (Key × Value)) (map : JsMap Key Value)
    (key : Key) :
    (entries.foldl (fun map entry => map.set entry.1 entry.2) map).get key =
      (lastWith entries key).or (map.get key) := by
  induction entries generalizing map with
  | nil =>
      rfl
  | cons entry rest inductionHypothesis =>
      rw [List.foldl_cons, inductionHypothesis, get_set]
      unfold lastWith
      rw [List.reverse_cons, List.find?_append, Option.map_or, Option.or_assoc]
      by_cases same : entry.1 = key
      · simp [same]
      · simp [same, Ne.symm same]

/-- A key has the value of its last entry. -/
theorem get_ofEntries (entries : List (Key × Value)) (key : Key) :
    (ofEntries entries).get key = lastWith entries key := by
  rw [ofEntries, get_foldl_set, get_empty, Option.or_none]

theorem lastWith_eq_some {entries : List (Key × Value)} {key : Key}
    {value : Value} (last : lastWith entries key = some value) :
    (key, value) ∈ entries := by
  obtain ⟨entry, found, rfl⟩ := Option.map_eq_some_iff.mp last
  have same : entry.1 = key := by
    simpa using List.find?_some found
  rw [← same]
  exact List.mem_reverse.mp (List.mem_of_find?_eq_some found)

theorem exists_lastWith {entries : List (Key × Value)} {key : Key}
    {value : Value} (member : (key, value) ∈ entries) :
    ∃ last, lastWith entries key = some last := by
  cases last : lastWith entries key with
  | some found =>
      exact ⟨found, rfl⟩
  | none =>
      rw [lastWith, Option.map_eq_none_iff, List.find?_eq_none] at last
      exact absurd (decide_eq_true rfl) <|
        last (key, value) (List.mem_reverse.mpr member)

/-- Entries with distinct keys are all kept. -/
theorem get_ofEntries_of_nodup {entries : List (Key × Value)}
    (distinct : (entries.map Prod.fst).Nodup) {key : Key} {value : Value} :
    (ofEntries entries).get key = some value ↔ (key, value) ∈ entries := by
  rw [get_ofEntries]
  constructor
  · exact lastWith_eq_some
  · intro member
    obtain ⟨last, found⟩ := exists_lastWith member
    have lastMember := lastWith_eq_some found
    have sameEntry : (key, last) = (key, value) :=
      List.inj_on_of_nodup_map distinct lastMember member rfl
    rw [found, (Prod.mk.inj sameEntry).2]

end Map

end JsMap

/-! ## Sets

`Array.from(new Set(items))` keeps each item where it came first. -/

theorem nodup_eraseDups {α : Type} [BEq α] [LawfulBEq α] (items : List α) :
    items.eraseDups.Nodup := by
  match items with
  | [] =>
      exact List.nodup_nil
  | first :: rest =>
      have shorter := List.length_filter_le (fun item => !(item == first)) rest
      rw [List.eraseDups_cons, List.nodup_cons, List.mem_eraseDups]
      refine ⟨?_, nodup_eraseDups (rest.filter fun item => !(item == first))⟩
      simp
termination_by items.length
decreasing_by
  simp only [List.length_cons]
  omega

theorem eraseDups_perm {α : Type} [BEq α] [LawfulBEq α]
    {items others : List α} (same : ∀ item, item ∈ items ↔ item ∈ others) :
    items.eraseDups.Perm others.eraseDups := by
  rw [List.perm_ext_iff_of_nodup (nodup_eraseDups items)
    (nodup_eraseDups others)]
  intro item
  rw [List.mem_eraseDups, List.mem_eraseDups, same]

end BidayaxExecutive.Runtime
