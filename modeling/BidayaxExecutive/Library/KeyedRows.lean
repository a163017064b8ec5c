import BidayaxExecutive.Library.Tables

/-!
# Rows that follow one another under a key

The rows of a table are inserted under new keys, replaced by rows of their own
key, and never removed.  When a replacement follows the row it replaces, for a
reflexive and transitive relation, then so do the rows of one key at any two
times.
-/

namespace BidayaxExecutive.Library.KeyedRows

open BidayaxExecutive.Library.Tables

variable {Row Key : Type} (key : Row → Key) (Follows : Row → Row → Prop)

/-- No key is lost, and the rows of one key follow one another. -/
structure Evolves (before after : List Row) : Prop where
  kept : ∀ row ∈ before, ∃ next ∈ after, key next = key row
  follows : ∀ row ∈ before, ∀ next ∈ after, key next = key row →
    Follows row next

variable {key Follows} {before middle after : List Row}

theorem Evolves.refl (reflexive : ∀ row, Follows row row)
    (distinct : (before.map key).Nodup) : Evolves key Follows before before where
  kept row member := ⟨row, member, rfl⟩
  follows row member next nextMember sameKey := by
    have same : next = row :=
      List.inj_on_of_nodup_map distinct nextMember member sameKey
    exact same ▸ reflexive row

theorem Evolves.trans
    (transitive : ∀ first second third, Follows first second →
      Follows second third → Follows first third)
    (first : Evolves key Follows before middle)
    (second : Evolves key Follows middle after) :
    Evolves key Follows before after where
  kept row member := by
    obtain ⟨next, nextMember, nextKey⟩ := first.kept row member
    obtain ⟨last, lastMember, lastKey⟩ := second.kept next nextMember
    exact ⟨last, lastMember, lastKey.trans nextKey⟩
  follows row member last lastMember sameKey := by
    obtain ⟨next, nextMember, nextKey⟩ := first.kept row member
    have begins := first.follows row member next nextMember nextKey
    have goesOn := second.follows next nextMember last lastMember
      (sameKey.trans nextKey.symm)
    exact transitive row next last begins goesOn

/-! ## The two changes -/

section Insert

variable {row : Row}

theorem Evolves.insert (reflexive : ∀ row, Follows row row)
    (distinct : (before.map key).Nodup)
    (free : ∀ old ∈ before, key old ≠ key row) :
    Evolves key Follows before (before ++ [row]) where
  kept old member := ⟨old, List.mem_append_left _ member, rfl⟩
  follows old member next nextMember sameKey := by
    rcases List.mem_append.mp nextMember with wasThere | isNew
    · exact (Evolves.refl reflexive distinct).follows old member next wasThere
        sameKey
    · rw [List.mem_singleton.mp isNew] at sameKey
      exact absurd sameKey.symm (free old member)

end Insert

theorem Evolves.map {change : Row → Row}
    (distinct : (before.map key).Nodup)
    (keepsKey : ∀ row, key (change row) = key row)
    (follows : ∀ row, Follows row (change row)) :
    Evolves key Follows before (before.map change) where
  kept row member := ⟨_, List.mem_map_of_mem member, keepsKey row⟩
  follows row member next nextMember sameKey := by
    obtain ⟨old, oldMember, rfl⟩ := List.mem_map.mp nextMember
    have same : old = row :=
      List.inj_on_of_nodup_map distinct oldMember member
        ((keepsKey old).symm.trans sameKey)
    exact same ▸ follows old

section Replace

variable [DecidableEq Key] {wanted : Key} {old new : Row}

variable (key) in
/-- The row with the key is replaced. -/
def replace (wanted : Key) (new : Row) (rows : List Row) : List Row :=
  rows.map fun row => if key row = wanted then new else row

theorem map_key_replace (newKey : key new = wanted) :
    (replace key wanted new before).map key = before.map key := by
  rw [replace, List.map_map]
  apply List.map_congr_left
  intro row _
  by_cases isWanted : key row = wanted
  · simp [isWanted, newKey]
  · simp [isWanted]

theorem mem_replace {row : Row}
    (member : row ∈ replace key wanted new before) :
    row = new ∨ row ∈ before ∧ key row ≠ wanted := by
  obtain ⟨old, oldMember, rfl⟩ := List.mem_map.mp member
  by_cases isWanted : key old = wanted
  · rw [if_pos isWanted]
    exact Or.inl rfl
  · rw [if_neg isWanted]
    exact Or.inr ⟨oldMember, isWanted⟩

theorem Evolves.replace (reflexive : ∀ row, Follows row row)
    (distinct : (before.map key).Nodup) (oldMember : old ∈ before)
    (oldKey : key old = wanted) (newKey : key new = wanted)
    (newFollows : Follows old new) :
    Evolves key Follows before (replace key wanted new before) where
  kept row member := by
    refine ⟨_, List.mem_map_of_mem member, ?_⟩
    by_cases isWanted : key row = wanted
    · rw [if_pos isWanted, newKey, isWanted]
    · rw [if_neg isWanted]
  follows row member next nextMember sameKey := by
    rcases mem_replace nextMember with rfl | ⟨wasThere, _⟩
    · have same : row = old := by
        apply List.inj_on_of_nodup_map distinct member oldMember
        rw [← sameKey, newKey, oldKey]
      exact same ▸ newFollows
    · exact (Evolves.refl reflexive distinct).follows row member next wasThere
        sameKey

end Replace

/-- Of rows that may have no key, one is replaced by another whose key none of
the rest has. -/
theorem nodup_filterMap_replace {key? : Row → Option Key} {old new : Row}
    (distinct : ((before ++ old :: after).filterMap key?).Nodup)
    (free : ∀ other ∈ before ++ after, ∀ key, key? new = some key →
      key? other ≠ some key) :
    ((before ++ new :: after).filterMap key?).Nodup := by
  have rest : (before ++ after).Sublist (before ++ old :: after) :=
    (List.Sublist.refl before).append (List.sublist_cons_self old after)
  have others : ((before ++ after).filterMap key?).Nodup :=
    distinct.sublist (rest.filterMap key?)
  have moved : ((before ++ new :: after).filterMap key?).Perm
      ((new :: (before ++ after)).filterMap key?) :=
    List.perm_middle.filterMap key?
  rw [moved.nodup_iff]
  cases isKey : key? new with
  | none =>
      rw [List.filterMap_cons_none isKey]
      exact others
  | some key =>
      rw [List.filterMap_cons_some isKey, List.nodup_cons]
      refine ⟨fun member => ?_, others⟩
      obtain ⟨other, otherMember, same⟩ := List.mem_filterMap.mp member
      exact free other otherMember key isKey same

end BidayaxExecutive.Library.KeyedRows
