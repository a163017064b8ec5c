import Mathlib.Data.List.Perm.Subperm
import Mathlib.Data.List.Dedup

/-!
# Items indexed by a key

An index over a list keeps one item for each key, the last of the list.  What
it can keep when the list is reordered is any choice of one item for each key
that occurs.
-/

namespace BidayaxExecutive.Library.Selections

variable {α κ : Type*} (key : α → κ)

/-- The item an index keeps for a key. -/
def lastWith [DecidableEq κ] (items : List α) (wanted : κ) : Option α :=
  items.reverse.find? fun item => key item = wanted

/-- A choice of one item for each key that occurs. -/
structure Selection (items : List α) (chosen : κ → Option α) : Prop where
  mem : ∀ {wanted item}, chosen wanted = some item →
    item ∈ items ∧ key item = wanted
  total : ∀ {item}, item ∈ items → ∃ other, chosen (key item) = some other

variable {key} {items others : List α} {chosen : κ → Option α}

theorem Selection.of_perm (selection : Selection key items chosen)
    (permutation : items.Perm others) : Selection key others chosen where
  mem found := by
    obtain ⟨member, hasKey⟩ := selection.mem found
    exact ⟨permutation.mem_iff.mp member, hasKey⟩
  total member := selection.total (permutation.mem_iff.mpr member)

theorem Selection.eq_none_iff (selection : Selection key items chosen)
    (wanted : κ) :
    chosen wanted = none ↔ ∀ item ∈ items, key item ≠ wanted := by
  constructor
  · rintro nothing item member rfl
    obtain ⟨other, found⟩ := selection.total member
    rw [nothing] at found
    exact nomatch found
  · intro absent
    cases found : chosen wanted with
    | none => rfl
    | some item =>
        obtain ⟨member, hasKey⟩ := selection.mem found
        exact absurd hasKey (absent item member)

variable [DecidableEq κ]

theorem selection_lastWith (items : List α) :
    Selection key items (lastWith key items) where
  mem found := by
    have member := List.mem_of_find?_eq_some found
    have hasKey := List.find?_some found
    exact ⟨List.mem_reverse.mp member, of_decide_eq_true hasKey⟩
  total {item} member := by
    cases found : lastWith key items (key item) with
    | some other => exact ⟨other, rfl⟩
    | none =>
        rw [lastWith, List.find?_eq_none] at found
        have different := found item (List.mem_reverse.mpr member)
        exact absurd (decide_eq_true rfl) different

/-- Every choice is kept by some order of the items. -/
theorem exists_perm_lastWith (selection : Selection key items chosen) :
    ∃ reordered, reordered.Perm items ∧ lastWith key reordered = chosen := by
  have picked : ∀ wanted ∈ (items.map key).dedup,
      ∃ item, chosen wanted = some item ∧ key item = wanted := by
    intro wanted member
    obtain ⟨item, inItems, rfl⟩ := List.mem_map.mp (List.mem_dedup.mp member)
    obtain ⟨other, found⟩ := selection.total inItems
    exact ⟨other, found, (selection.mem found).2⟩
  generalize keysEq : (items.map key).dedup = keys at picked
  have keysNodup : keys.Nodup := by
    rw [← keysEq]
    exact List.nodup_dedup _
  have picksKeys : (keys.filterMap chosen).map key = keys := by
    clear keysEq keysNodup
    induction keys with
    | nil => rfl
    | cons wanted rest inductionHypothesis =>
        obtain ⟨item, found, hasKey⟩ := picked wanted List.mem_cons_self
        rw [List.filterMap_cons_some found, List.map_cons, hasKey,
          inductionHypothesis fun other member =>
            picked other (List.mem_cons_of_mem _ member)]
  have picksNodup : (keys.filterMap chosen).Nodup := by
    apply List.Nodup.of_map key
    rw [picksKeys]
    exact keysNodup
  have picksSubset : keys.filterMap chosen ⊆ items := by
    intro item member
    obtain ⟨wanted, _, found⟩ := List.mem_filterMap.mp member
    exact (selection.mem found).1
  obtain ⟨sub, subPerm, sublist⟩ := picksNodup.subperm picksSubset
  obtain ⟨rest, split⟩ := sublist.exists_perm_append
  refine ⟨rest ++ keys.filterMap chosen, ?_, ?_⟩
  · have front := (subPerm.symm.append_right rest).trans split.symm
    exact List.perm_append_comm.trans front
  · funext wanted
    rw [lastWith, List.reverse_append, List.find?_append]
    cases found : chosen wanted with
    | some item =>
        obtain ⟨inItems, hasKey⟩ := selection.mem found
        have isKey : wanted ∈ keys := by
          rw [← keysEq, List.mem_dedup, ← hasKey]
          exact List.mem_map_of_mem inItems
        have inPicks : item ∈ (keys.filterMap chosen).reverse :=
          List.mem_reverse.mpr (List.mem_filterMap.mpr ⟨wanted, isKey, found⟩)
        cases kept : (keys.filterMap chosen).reverse.find? fun other =>
            key other = wanted with
        | none =>
            rw [List.find?_eq_none] at kept
            exact absurd (decide_eq_true hasKey) (kept item inPicks)
        | some other =>
            have otherKey : key other = wanted := by
              simpa using List.find?_some kept
            have otherPick := List.mem_reverse.mp
              (List.mem_of_find?_eq_some kept)
            obtain ⟨otherWanted, _, otherFound⟩ :=
              List.mem_filterMap.mp otherPick
            have sameWanted : otherWanted = wanted :=
              (selection.mem otherFound).2.symm.trans otherKey
            rw [sameWanted, found] at otherFound
            rw [Option.some_or, otherFound]
    | none =>
        have absent := (selection.eq_none_iff wanted).mp found
        have nothing : ∀ sublist : List α, (∀ item ∈ sublist, item ∈ items) →
            (sublist.find? fun other => key other = wanted) = none := by
          intro sublist inside
          rw [List.find?_eq_none]
          intro item member isKey
          exact absent item (inside item member) (of_decide_eq_true isKey)
        rw [nothing, nothing, Option.or_none]
        · intro item member
          exact split.mem_iff.mpr
            (List.mem_append_right _ (List.mem_reverse.mp member))
        · intro item member
          exact picksSubset (List.mem_reverse.mp member)

omit [DecidableEq κ] in
/-- Where every key that occurs has a good item, all choices can be good. -/
theorem exists_selection {Good : α → Prop}
    (good : ∀ item ∈ items, ∃ other ∈ items, key other = key item ∧
      Good other) :
    ∃ chosen, Selection key items chosen ∧
      ∀ wanted item, chosen wanted = some item → Good item := by
  classical
  have eligible : ∀ wanted : κ,
      ∃ choice : Option α,
        (∀ item, choice = some item →
          item ∈ items ∧ key item = wanted ∧ Good item) ∧
        ∀ item ∈ items, key item = wanted → choice ≠ none := by
    intro wanted
    by_cases occurs : ∃ item ∈ items, key item = wanted
    · obtain ⟨item, member, hasKey⟩ := occurs
      obtain ⟨other, otherMember, sameKey, isGood⟩ := good item member
      refine ⟨some other, ?_, fun _ _ _ => Option.some_ne_none other⟩
      rintro _ ⟨⟩
      exact ⟨otherMember, sameKey.trans hasKey, isGood⟩
    · refine ⟨none, nofun, ?_⟩
      intro item member hasKey
      exact absurd ⟨item, member, hasKey⟩ occurs
  choose chosen sound complete using eligible
  refine ⟨chosen, ⟨?_, ?_⟩, ?_⟩
  · intro wanted item found
    exact ⟨(sound wanted item found).1, (sound wanted item found).2.1⟩
  · intro item member
    exact Option.ne_none_iff_exists'.mp (complete _ item member rfl)
  · intro wanted item found
    exact (sound wanted item found).2.2

end BidayaxExecutive.Library.Selections
