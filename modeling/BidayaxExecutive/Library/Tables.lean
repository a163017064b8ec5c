import Mathlib.Data.List.Infix
import Mathlib.Data.List.Nodup
import Mathlib.Tactic.Common

/-!
# Tables that keep what they have

Saving a row inserts it, unless a row with its key is there already: then that
row is kept, and it is returned where it is visible to the one who saves and
agrees with the new row.  Rows are never replaced, so a row that has been saved
is found again in every table that extends this one.
-/

namespace BidayaxExecutive.Library.Tables

theorem nodup_map_insert {Row Key : Type} (key : Row → Key) {rows : List Row}
    {row : Row} (distinct : (rows.map key).Nodup)
    (free : ∀ old ∈ rows, key old ≠ key row) :
    ((rows ++ [row]).map key).Nodup := by
  rw [List.map_append, List.nodup_append]
  refine ⟨distinct, List.nodup_singleton _, ?_⟩
  intro oldKey oldMember newKey isNew
  rcases List.mem_map.mp oldMember with ⟨old, member, same⟩
  rw [List.mem_singleton.mp isNew, ← same]
  exact free old member

/-- How new rows compare with old ones, which rows may be inserted, and what
holds of all contents of the table. -/
structure Table (Row : Type) where
  sameKey : Row → Row → Bool
  visible : Row → Row → Bool
  agrees : Row → Row → Bool
  allowed : List Row → Row → Bool
  Valid : List Row → Prop
  visible_self : ∀ row, visible row row = true
  agrees_self : ∀ row, agrees row row = true
  sameKey_of_visible : ∀ {row old}, visible row old = true →
    sameKey row old = true
  valid_insert : ∀ {rows row}, Valid rows →
    (∀ old ∈ rows, sameKey row old = false) → allowed rows row = true →
    Valid (rows ++ [row])

namespace Table

section Rows

variable {Row Item Failure : Type} (table : Table Row)

abbrev Rows : Type :=
  { rows : List Row // table.Valid rows }

/-- The key of the row is in use. -/
def Taken (rows : List Row) (row : Row) : Prop :=
  ∃ old ∈ rows, table.sameKey row old = true

instance (rows : List Row) (row : Row) : Decidable (table.Taken rows row) :=
  inferInstanceAs (Decidable (∃ old ∈ rows, table.sameKey row old = true))

def save (conflict refused : Failure) (rows : table.Rows) (row : Row) :
    Except Failure (Row × table.Rows) :=
  if taken : table.Taken rows.1 row then
    match rows.1.find? (table.visible row) with
    | some existing =>
        if table.agrees row existing then .ok (existing, rows)
        else .error conflict
    | none => .error conflict
  else if allowed : table.allowed rows.1 row then
    .ok (row, ⟨rows.1 ++ [row],
      table.valid_insert rows.2 (by simpa [Taken] using taken) allowed⟩)
  else .error refused

/-- Whether a row can be saved. -/
def Accepts (rows : List Row) (row : Row) : Prop :=
  if table.Taken rows row then
    ∃ existing, rows.find? (table.visible row) = some existing ∧
      table.agrees row existing = true
  else table.allowed rows row = true

/-- The rows after a row is saved. -/
def after (rows : List Row) (row : Row) : List Row :=
  if table.Taken rows row then rows else rows ++ [row]

variable {table} {conflict refused : Failure} {rows final : table.Rows}
  {row existing : Row}

theorem after_of_taken {contents : List Row}
    (taken : table.Taken contents row) : table.after contents row = contents :=
  if_pos taken

theorem after_of_free {contents : List Row}
    (free : ¬table.Taken contents row) :
    table.after contents row = contents ++ [row] :=
  if_neg free

theorem accepts_of_free {contents : List Row}
    (free : ¬table.Taken contents row) :
    table.Accepts contents row ↔ table.allowed contents row = true := by
  rw [Accepts, if_neg free]

theorem find?_insert {contents : List Row}
    (free : ¬table.Taken contents row) :
    (contents ++ [row]).find? (table.visible row) = some row := by
  have absent : contents.find? (table.visible row) = none := by
    refine List.find?_eq_none.mpr fun old member visible => ?_
    exact free ⟨old, member, table.sameKey_of_visible visible⟩
  rw [List.find?_append, absent, Option.none_or,
    List.find?_cons_of_pos (table.visible_self row)]

theorem save_eq_ok :
    table.save conflict refused rows row = .ok (existing, final) ↔
      table.Accepts rows.1 row ∧ final.1 = table.after rows.1 row ∧
        final.1.find? (table.visible row) = some existing := by
  unfold save Accepts after
  by_cases taken : table.Taken rows.1 row
  · rw [dif_pos taken, if_pos taken, if_pos taken]
    cases search : rows.1.find? (table.visible row) with
    | none =>
        simp
    | some found =>
        by_cases agrees : table.agrees row found = true
        · simp only [agrees, if_true, Except.ok.injEq, Prod.mk.injEq,
            Option.some.injEq, exists_eq_left', true_and]
          constructor
          · rintro ⟨rfl, rfl⟩
            exact ⟨rfl, search⟩
          · rintro ⟨same, again⟩
            rw [same, search] at again
            exact ⟨Option.some.inj again, Subtype.ext same.symm⟩
        · simp [agrees]
  · rw [dif_neg taken, if_neg taken, if_neg taken]
    by_cases allowed : table.allowed rows.1 row = true
    · rw [dif_pos allowed]
      simp only [Except.ok.injEq, allowed, true_and]
      constructor
      · intro saved
        rcases Prod.mk.inj saved with ⟨rfl, rfl⟩
        exact ⟨rfl, find?_insert taken⟩
      · rintro ⟨same, again⟩
        rw [same, find?_insert taken] at again
        exact Prod.ext (Option.some.inj again) (Subtype.ext same.symm)
    · simp [allowed]

theorem prefix_after (contents : List Row) (row : Row) :
    contents <+: table.after contents row := by
  by_cases taken : table.Taken contents row
  · rw [after_of_taken taken]
  · rw [after_of_free taken]
    exact List.prefix_append _ _

theorem valid_after {contents : List Row} (valid : table.Valid contents)
    (accepts : table.Accepts contents row) :
    table.Valid (table.after contents row) := by
  by_cases taken : table.Taken contents row
  · rw [after_of_taken taken]
    exact valid
  · rw [accepts_of_free taken] at accepts
    rw [after_of_free taken]
    exact table.valid_insert valid (by simpa [Taken] using taken) accepts

/-- A row that is accepted is saved. -/
theorem exists_save (accepts : table.Accepts rows.1 row) :
    ∃ existing, table.save conflict refused rows row =
      .ok (existing, ⟨table.after rows.1 row, valid_after rows.2 accepts⟩) := by
  by_cases taken : table.Taken rows.1 row
  · have agreeing := accepts
    unfold Accepts at agreeing
    rw [if_pos taken] at agreeing
    rcases agreeing with ⟨existing, found, _⟩
    refine ⟨existing, save_eq_ok.mpr ⟨accepts, rfl, ?_⟩⟩
    exact (congrArg (List.find? (table.visible row))
      (after_of_taken taken)).trans found
  · refine ⟨row, save_eq_ok.mpr ⟨accepts, rfl, ?_⟩⟩
    exact (congrArg (List.find? (table.visible row))
      (after_of_free taken)).trans (find?_insert taken)

theorem agrees_of_save
    (saved : table.save conflict refused rows row = .ok (existing, final)) :
    table.agrees row existing = true := by
  rcases save_eq_ok.mp saved with ⟨accepts, same, found⟩
  by_cases taken : table.Taken rows.1 row
  · rw [Accepts, if_pos taken] at accepts
    rw [after_of_taken taken] at same
    rcases accepts with ⟨old, search, agrees⟩
    rw [same, search] at found
    rw [← Option.some.inj found]
    exact agrees
  · rw [after_of_free taken] at same
    rw [same, find?_insert taken] at found
    rw [← Option.some.inj found]
    exact table.agrees_self row

/-- A saved row is saved again without effect, in every larger table. -/
theorem save_again
    (saved : table.save conflict refused rows row = .ok (existing, final))
    {later : table.Rows} (grown : final.1 <+: later.1) :
    table.save conflict refused later row = .ok (existing, later) := by
  have agrees := agrees_of_save saved
  rcases save_eq_ok.mp saved with ⟨_, _, found⟩
  have search : later.1.find? (table.visible row) = some existing := by
    rcases grown with ⟨rest, same⟩
    rw [← same, List.find?_append, found, Option.some_or]
  have taken : table.Taken later.1 row :=
    ⟨existing, List.mem_of_find?_eq_some search,
      table.sameKey_of_visible (List.find?_some search)⟩
  refine save_eq_ok.mpr ⟨?_, (if_pos taken).symm, search⟩
  unfold Accepts
  rw [if_pos taken]
  exact ⟨existing, search, agrees⟩

/-! ## Rows one after the other -/

variable (table) (stored : Item → Option Row)

/-- Whether the rows of the items can be saved in turn. -/
def AcceptsAll : List Row → List Item → Prop
  | _, [] => True
  | contents, item :: rest =>
      ∃ row, stored item = some row ∧ table.Accepts contents row ∧
        AcceptsAll (table.after contents row) rest

def afterAll : List Row → List Item → List Row
  | contents, [] => contents
  | contents, item :: rest =>
      match stored item with
      | none => contents
      | some row => afterAll (table.after contents row) rest

variable {table stored}

theorem afterAll_cons {contents : List Row} {item : Item} {rest : List Item}
    (row_eq : stored item = some row) :
    table.afterAll stored contents (item :: rest) =
      table.afterAll stored (table.after contents row) rest := by
  simp only [afterAll, row_eq]

theorem valid_afterAll {contents : List Row} {items : List Item}
    (valid : table.Valid contents)
    (accepts : table.AcceptsAll stored contents items) :
    table.Valid (table.afterAll stored contents items) := by
  induction items generalizing contents with
  | nil =>
      exact valid
  | cons item rest inductionHypothesis =>
      rcases accepts with ⟨row, row_eq, acceptsRow, acceptsRest⟩
      rw [afterAll_cons row_eq]
      exact inductionHypothesis (valid_after valid acceptsRow) acceptsRest

end Rows

end Table

end BidayaxExecutive.Library.Tables
