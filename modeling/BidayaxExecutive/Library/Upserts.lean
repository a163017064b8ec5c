import BidayaxExecutive.Library.Tables
import Mathlib.Logic.Function.Basic

/-!
# Upserts

An upsert merges a row into the row of its key, or inserts it.  Seen by its
keys, a table is a function, and an upsert changes it at one key.  What a list
of writes has written no longer depends on what stood under their keys.
-/

namespace BidayaxExecutive.Library.Upserts

/-! ## Tables by key -/

section Rows

variable {Row Key : Type} [DecidableEq Key] (key : Row → Key)

def rowAt (wanted : Key) (rows : List Row) : Option Row :=
  rows.find? fun row => key row = wanted

/-- `insert … on conflict (key) do update`. -/
def upsert (new : Row) (merge : Row → Row) (rows : List Row) : List Row :=
  if (rowAt key (key new) rows).isSome then
    rows.map fun row => if key row = key new then merge row else row
  else rows ++ [new]

variable {key} {new : Row} {merge : Row → Row} {rows : List Row} {row : Row}
  {wanted : Key}

theorem rowAt_eq_some (found : rowAt key wanted rows = some row) :
    row ∈ rows ∧ key row = wanted :=
  ⟨List.mem_of_find?_eq_some found, by simpa using List.find?_some found⟩

theorem rowAt_eq_none :
    rowAt key wanted rows = none ↔ ∀ row ∈ rows, key row ≠ wanted := by
  simp [rowAt, List.find?_eq_none]

theorem rowAt_map (change : Row → Row)
    (keepsKey : ∀ row, key (change row) = key row) :
    rowAt key wanted (rows.map change) =
      (rowAt key wanted rows).map change := by
  induction rows with
  | nil =>
      rfl
  | cons head rest inductionHypothesis =>
      unfold rowAt at inductionHypothesis ⊢
      rw [List.map_cons, List.find?_cons, List.find?_cons, keepsKey,
        inductionHypothesis]
      by_cases isWanted : key head = wanted
      · simp [isWanted]
      · simp [isWanted]

theorem rowAt_upsert
    (keepsKey : ∀ row, key row = key new → key (merge row) = key new) :
    rowAt key wanted (upsert key new merge rows) =
      if wanted = key new then
        some (((rowAt key (key new) rows).map merge).getD new)
      else rowAt key wanted rows := by
  unfold upsert
  cases found : rowAt key (key new) rows with
  | none =>
      rw [Option.isSome_none, if_neg Bool.false_ne_true]
      unfold rowAt at found ⊢
      rw [List.find?_append]
      by_cases isNew : wanted = key new
      · rw [isNew, found]
        simp
      · rw [if_neg isNew]
        simp [Ne.symm isNew]
  | some old =>
      rw [Option.isSome_some, if_pos rfl, rowAt_map]
      · by_cases isNew : wanted = key new
        · rw [if_pos isNew, isNew, found]
          simp [(rowAt_eq_some found).2]
        · rw [if_neg isNew]
          cases other : rowAt key wanted rows with
          | none =>
              rfl
          | some row =>
              have otherKey : key row ≠ key new := by
                rw [(rowAt_eq_some other).2]
                exact isNew
              rw [Option.map_some, if_neg otherKey]
      · intro row
        by_cases isNew : key row = key new
        · rw [if_pos isNew, keepsKey row isNew, isNew]
        · rw [if_neg isNew]

/-- What no merge changes is as before, or that of the new row comes last. -/
theorem map_upsert {Column : Type} (column : Row → Column)
    (keeps : ∀ row, key row = key new → column (merge row) = column row) :
    (upsert key new merge rows).map column =
      if (rowAt key (key new) rows).isSome then rows.map column
      else rows.map column ++ [column new] := by
  unfold upsert
  split_ifs with taken
  · rw [List.map_map]
    refine List.map_congr_left fun row _ => ?_
    rw [Function.comp_apply]
    split_ifs with same
    · exact keeps row same
    · rfl
  · rw [List.map_append, List.map_singleton]

theorem nodup_keys_upsert (distinct : (rows.map key).Nodup)
    (keepsKey : ∀ row, key row = key new → key (merge row) = key new) :
    ((upsert key new merge rows).map key).Nodup := by
  rw [map_upsert key fun row same => (keepsKey row same).trans same.symm]
  split_ifs with taken
  · exact distinct
  · rw [← List.map_singleton, ← List.map_append]
    refine Tables.nodup_map_insert key distinct ?_
    exact rowAt_eq_none.mp (Option.not_isSome_iff_eq_none.mp taken)

theorem mem_upsert (member : row ∈ upsert key new merge rows) :
    row = new ∨ row ∈ rows ∨ ∃ old ∈ rows, row = merge old := by
  unfold upsert at member
  split_ifs at member
  · rcases List.mem_map.mp member with ⟨old, wasThere, rfl⟩
    split_ifs
    · exact .inr (.inr ⟨old, wasThere, rfl⟩)
    · exact .inr (.inl wasThere)
  · rcases List.mem_append.mp member with wasThere | isNew
    · exact .inr (.inl wasThere)
    · exact .inl (List.mem_singleton.mp isNew)

end Rows

/-! ## Writes on a view -/

section Views

variable {Key Value : Type} [DecidableEq Key]

/-- The view after the writes, the last one of a key being the one that
counts. -/
def overlay (writes : List (Key × Value)) (view : Key → Option Value) :
    Key → Option Value :=
  writes.foldl
    (fun view write => Function.update view write.1 (some write.2)) view

variable {writes : List (Key × Value)} {view other : Key → Option Value}
  {wanted : Key}

theorem overlay_of_notMem (absent : wanted ∉ writes.map Prod.fst) :
    overlay writes view wanted = view wanted := by
  induction writes generalizing view with
  | nil =>
      rfl
  | cons write rest inductionHypothesis =>
      rw [List.map_cons, List.mem_cons, not_or] at absent
      exact (inductionHypothesis absent.2).trans
        (Function.update_of_ne absent.1 _ _)

/-- Writes agree where the views agree outside of their keys. -/
theorem overlay_congr
    (agree : ∀ wanted ∉ writes.map Prod.fst, view wanted = other wanted) :
    overlay writes view = overlay writes other := by
  induction writes generalizing view other with
  | nil =>
      exact funext fun wanted => agree wanted List.not_mem_nil
  | cons write rest inductionHypothesis =>
      refine inductionHypothesis fun wanted absent => ?_
      change Function.update view write.1 (some write.2) wanted =
        Function.update other write.1 (some write.2) wanted
      by_cases isKey : wanted = write.1
      · rw [isKey, Function.update_self, Function.update_self]
      · rw [Function.update_of_ne isKey, Function.update_of_ne isKey]
        refine agree wanted ?_
        rw [List.map_cons, List.mem_cons, not_or]
        exact ⟨isKey, absent⟩

theorem overlay_of_mem {value : Value}
    (distinct : (writes.map Prod.fst).Nodup)
    (member : (wanted, value) ∈ writes) :
    overlay writes view wanted = some value := by
  induction writes generalizing view with
  | nil =>
      exact absurd member List.not_mem_nil
  | cons write rest inductionHypothesis =>
      rw [List.map_cons, List.nodup_cons] at distinct
      rcases List.mem_cons.mp member with rfl | later
      · refine (overlay_of_notMem distinct.1).trans ?_
        exact Function.update_self _ _ _
      · exact inductionHypothesis distinct.2 later

end Views

end BidayaxExecutive.Library.Upserts
