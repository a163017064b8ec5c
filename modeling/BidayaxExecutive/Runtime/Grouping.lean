import Mathlib.Data.List.Induction
import BidayaxExecutive.Runtime.JsMap

/-!
# Grouping

Items are collected in a map from their keys to the lists of the items with
the key, in the order in which they come.
-/

namespace BidayaxExecutive.Runtime

variable {Key Item : Type} [DecidableEq Key]

/-- One more item behind the items of its key. -/
def pushGroup (key : Key) (item : Item) (groups : JsMap Key (List Item)) :
    JsMap Key (List Item) :=
  match groups.get key with
  | some existingGroup => groups.set key (existingGroup ++ [item])
  | none => groups.set key [item]

def groupBy (key : Item → Key) (items : List Item) : JsMap Key (List Item) :=
  items.foldl (fun groups item => pushGroup (key item) item groups)
    JsMap.empty

theorem get_pushGroup (key other : Key) (item : Item)
    (groups : JsMap Key (List Item)) :
    (pushGroup key item groups).get other =
      if other = key then some ((groups.get key).getD [] ++ [item])
      else groups.get other := by
  unfold pushGroup
  cases found : groups.get key with
  | none =>
      rw [JsMap.get_set]
      rfl
  | some existingGroup =>
      rw [JsMap.get_set]
      rfl

variable (key : Item → Key)

theorem get_groupBy (items : List Item) (sought : Key) :
    (groupBy key items).get sought =
      if sought ∈ items.map key then
        some (items.filter fun item => key item = sought)
      else none := by
  induction items using List.reverseRecOn with
  | nil =>
      rfl
  | append_singleton items item inductionHypothesis =>
      have pushed : groupBy key (items ++ [item]) =
          pushGroup (key item) item (groupBy key items) := by
        unfold groupBy
        rw [List.foldl_append]
        rfl
      rw [pushed, get_pushGroup, List.map_append, List.filter_append]
      by_cases same : sought = key item
      · have isKey : sought ∈ items.map key ++ [item].map key := by
          rw [same]
          exact List.mem_append_right _ List.mem_cons_self
        have last : [item].filter (fun item => key item = sought) = [item] :=
          List.filter_cons_of_pos (decide_eq_true same.symm)
        rw [if_pos same, if_pos isKey, last, ← same, inductionHypothesis]
        by_cases member : sought ∈ items.map key
        · rw [if_pos member]
          rfl
        · have none : items.filter (fun item => key item = sought) = [] := by
            apply List.filter_eq_nil_iff.mpr
            intro other isItem isSought
            exact member (List.mem_map.mpr
              ⟨other, isItem, of_decide_eq_true isSought⟩)
          rw [if_neg member, none]
          rfl
      · have last : [item].filter (fun item => key item = sought) = [] :=
          List.filter_cons_of_neg (by simpa using Ne.symm same)
        have sameKeys : sought ∈ items.map key ++ [item].map key ↔
            sought ∈ items.map key := by
          simp [same]
        rw [if_neg same, last, List.append_nil, inductionHypothesis]
        exact if_congr sameKeys.symm rfl rfl

/-- The items of a key; a key without items has none. -/
theorem getD_groupBy (items : List Item) (sought : Key) :
    ((groupBy key items).get sought).getD [] =
      items.filter fun item => key item = sought := by
  rw [get_groupBy]
  by_cases member : sought ∈ items.map key
  · rw [if_pos member]
    rfl
  · rw [if_neg member]
    symm
    apply List.filter_eq_nil_iff.mpr
    intro item isItem same
    exact member (List.mem_map.mpr ⟨item, isItem, of_decide_eq_true same⟩)

theorem mem_keys_groupBy {items : List Item} {sought : Key} :
    sought ∈ (groupBy key items).keys ↔ sought ∈ items.map key := by
  rw [JsMap.mem_keys, get_groupBy]
  by_cases member : sought ∈ items.map key
  · rw [if_pos member]
    exact iff_of_true ⟨_, rfl⟩ member
  · rw [if_neg member]
    exact iff_of_false nofun member

end BidayaxExecutive.Runtime
