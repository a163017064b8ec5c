import Mathlib.Data.List.Induction
import Mathlib.Data.List.Nodup
import Mathlib.Tactic.Common

/-!
# Inserts that ignore conflicts

A row whose key is in use is not inserted, and the insert is acknowledged all
the same.  Every acknowledged row is stored exactly when requests that share a
key ask for the same row.
-/

namespace BidayaxExecutive.Library.IgnoredConflicts

/-- A row, and whether it is admitted where its key is new. -/
structure Request (Row : Type) where
  row : Row
  admitted : Bool

structure Journal (Row : Type) where
  rows : List Row
  acknowledged : List Row

section Journals

variable {Row Key : Type} [DecidableEq Key] (key : Row → Key)

/-- `insert … on conflict do nothing`. -/
def submit (journal : Journal Row) (request : Request Row) : Journal Row :=
  if journal.rows.any fun old => key old == key request.row then
    { journal with
      acknowledged := journal.acknowledged ++ [request.row] }
  else if request.admitted then
    { rows := journal.rows ++ [request.row]
      acknowledged := journal.acknowledged ++ [request.row] }
  else journal

def submitAll (requests : List (Request Row)) : Journal Row :=
  requests.foldl (submit key) ⟨[], []⟩

/-- No request shares the key of an admitted one and asks for another row. -/
def Compatible (requests : List (Request Row)) : Prop :=
  requests.Pairwise fun earlier later =>
    earlier.admitted = true → key earlier.row = key later.row →
      earlier.row = later.row

/-- Every acknowledged row is stored. -/
def Kept (journal : Journal Row) : Prop :=
  ∀ row ∈ journal.acknowledged, row ∈ journal.rows

/-- How a journal relates to the requests it comes from. -/
structure Reflects (journal : Journal Row) (requests : List (Request Row)) :
    Prop where
  unique : ∀ old ∈ journal.rows, ∀ new ∈ journal.rows,
    key old = key new → old = new
  requested : ∀ row ∈ journal.rows,
    ∃ request ∈ requests, request.admitted = true ∧ request.row = row
  known : ∀ request ∈ requests, request.admitted = true →
    ∃ row ∈ journal.rows, key row = key request.row
  acknowledged : ∀ request ∈ requests, request.admitted = true →
    request.row ∈ journal.acknowledged
  covered : ∀ row ∈ journal.acknowledged,
    ∃ old ∈ journal.rows, key old = key row

variable {key} {journal : Journal Row} {request : Request Row}
  {requests : List (Request Row)}

theorem submitAll_append_singleton :
    submitAll key (requests ++ [request]) =
      submit key (submitAll key requests) request := by
  unfold submitAll
  rw [List.foldl_append]
  rfl

theorem submit_of_known {old : Row} (member : old ∈ journal.rows)
    (same : key old = key request.row) :
    submit key journal request =
      { journal with
        acknowledged := journal.acknowledged ++ [request.row] } := by
  refine if_pos (List.any_eq_true.mpr ⟨old, member, ?_⟩)
  exact beq_iff_eq.mpr same

theorem submit_of_new
    (free : ∀ old ∈ journal.rows, key old ≠ key request.row) :
    submit key journal request =
      if request.admitted then
        { rows := journal.rows ++ [request.row]
          acknowledged := journal.acknowledged ++ [request.row] }
      else journal := by
  refine if_neg fun known => ?_
  rcases List.any_eq_true.mp known with ⟨old, member, same⟩
  exact free old member (beq_iff_eq.mp same)

omit [DecidableEq Key] in
theorem reflects_of_known {old : Row} (reflects : Reflects key journal requests)
    (member : old ∈ journal.rows) (same : key old = key request.row) :
    Reflects key
      { journal with
        acknowledged := journal.acknowledged ++ [request.row] }
      (requests ++ [request]) where
  unique := reflects.unique
  requested row stored := by
    rcases reflects.requested row stored with ⟨other, isOther, asked⟩
    exact ⟨other, List.mem_append_left _ isOther, asked⟩
  known other isOther admitted := by
    cases List.mem_append.mp isOther with
    | inl earlier =>
        exact reflects.known other earlier admitted
    | inr isLast =>
        rw [List.mem_singleton.mp isLast]
        exact ⟨old, member, same⟩
  acknowledged other isOther admitted := by
    cases List.mem_append.mp isOther with
    | inl earlier =>
        exact List.mem_append_left _
          (reflects.acknowledged other earlier admitted)
    | inr isLast =>
        rw [List.mem_singleton.mp isLast]
        exact List.mem_append_right _ List.mem_cons_self
  covered row isRow := by
    cases List.mem_append.mp isRow with
    | inl earlier =>
        exact reflects.covered row earlier
    | inr isLast =>
        rw [List.mem_singleton.mp isLast]
        exact ⟨old, member, same⟩

omit [DecidableEq Key] in
theorem reflects_of_new (reflects : Reflects key journal requests)
    (free : ∀ old ∈ journal.rows, key old ≠ key request.row)
    (admitted : request.admitted = true) :
    Reflects key
      { rows := journal.rows ++ [request.row]
        acknowledged := journal.acknowledged ++ [request.row] }
      (requests ++ [request]) where
  unique old isOld new isNew same := by
    cases List.mem_append.mp isOld with
    | inl oldEarlier =>
        cases List.mem_append.mp isNew with
        | inl newEarlier =>
            exact reflects.unique old oldEarlier new newEarlier same
        | inr newLast =>
            rw [List.mem_singleton.mp newLast] at same
            exact absurd same (free old oldEarlier)
    | inr oldLast =>
        cases List.mem_append.mp isNew with
        | inl newEarlier =>
            rw [List.mem_singleton.mp oldLast] at same
            exact absurd same.symm (free new newEarlier)
        | inr newLast =>
            rw [List.mem_singleton.mp oldLast, List.mem_singleton.mp newLast]
  requested row stored := by
    cases List.mem_append.mp stored with
    | inl earlier =>
        rcases reflects.requested row earlier with ⟨other, isOther, asked⟩
        exact ⟨other, List.mem_append_left _ isOther, asked⟩
    | inr isLast =>
        rw [List.mem_singleton.mp isLast]
        exact ⟨request, List.mem_append_right _ List.mem_cons_self, admitted,
          rfl⟩
  known other isOther isAdmitted := by
    cases List.mem_append.mp isOther with
    | inl earlier =>
        rcases reflects.known other earlier isAdmitted with
          ⟨row, stored, same⟩
        exact ⟨row, List.mem_append_left _ stored, same⟩
    | inr isLast =>
        rw [List.mem_singleton.mp isLast]
        exact ⟨_, List.mem_append_right _ List.mem_cons_self, rfl⟩
  acknowledged other isOther isAdmitted := by
    cases List.mem_append.mp isOther with
    | inl earlier =>
        exact List.mem_append_left _
          (reflects.acknowledged other earlier isAdmitted)
    | inr isLast =>
        rw [List.mem_singleton.mp isLast]
        exact List.mem_append_right _ List.mem_cons_self
  covered row isRow := by
    cases List.mem_append.mp isRow with
    | inl earlier =>
        rcases reflects.covered row earlier with ⟨old, stored, same⟩
        exact ⟨old, List.mem_append_left _ stored, same⟩
    | inr isLast =>
        rw [List.mem_singleton.mp isLast]
        exact ⟨_, List.mem_append_right _ List.mem_cons_self, rfl⟩

omit [DecidableEq Key] in
theorem reflects_of_refused (reflects : Reflects key journal requests)
    (refused : ¬request.admitted = true) :
    Reflects key journal (requests ++ [request]) where
  unique := reflects.unique
  requested row stored := by
    rcases reflects.requested row stored with ⟨other, isOther, asked⟩
    exact ⟨other, List.mem_append_left _ isOther, asked⟩
  known other isOther admitted := by
    cases List.mem_append.mp isOther with
    | inl earlier =>
        exact reflects.known other earlier admitted
    | inr isLast =>
        rw [List.mem_singleton.mp isLast] at admitted
        exact absurd admitted refused
  acknowledged other isOther admitted := by
    cases List.mem_append.mp isOther with
    | inl earlier =>
        exact reflects.acknowledged other earlier admitted
    | inr isLast =>
        rw [List.mem_singleton.mp isLast] at admitted
        exact absurd admitted refused
  covered := reflects.covered

theorem reflects_submit (reflects : Reflects key journal requests) :
    Reflects key (submit key journal request) (requests ++ [request]) := by
  by_cases known : ∃ old ∈ journal.rows, key old = key request.row
  · rcases known with ⟨old, member, same⟩
    rw [submit_of_known member same]
    exact reflects_of_known reflects member same
  · have free : ∀ old ∈ journal.rows, key old ≠ key request.row :=
      fun old member same => known ⟨old, member, same⟩
    rw [submit_of_new free]
    by_cases admitted : request.admitted = true
    · rw [if_pos admitted]
      exact reflects_of_new reflects free admitted
    · rw [if_neg admitted]
      exact reflects_of_refused reflects admitted

variable (key) in
theorem reflects_submitAll (requests : List (Request Row)) :
    Reflects key (submitAll key requests) requests := by
  induction requests using List.reverseRecOn with
  | nil =>
      exact
        { unique := fun _ member => nomatch member
          requested := fun _ member => nomatch member
          known := fun _ member => nomatch member
          acknowledged := fun _ member => nomatch member
          covered := fun _ member => nomatch member }
  | append_singleton requests request inductionHypothesis =>
      rw [submitAll_append_singleton]
      exact reflects_submit inductionHypothesis

/-! ## Which rows are kept -/

omit [DecidableEq Key] in
theorem compatible_append_singleton :
    Compatible key (requests ++ [request]) ↔
      Compatible key requests ∧ ∀ earlier ∈ requests,
        earlier.admitted = true → key earlier.row = key request.row →
          earlier.row = request.row := by
  unfold Compatible
  rw [List.pairwise_append]
  simp

/-- A request whose key is in use is kept when it asks for the row there. -/
theorem kept_submit_of_known {old : Row}
    (reflects : Reflects key journal requests) (member : old ∈ journal.rows)
    (same : key old = key request.row) :
    Kept (submit key journal request) ↔
      Kept journal ∧ ∀ earlier ∈ requests, earlier.admitted = true →
        key earlier.row = key request.row → earlier.row = request.row := by
  rw [submit_of_known member same]
  constructor
  · intro kept
    have keptEarlier : Kept journal :=
      fun row isRow => kept row (List.mem_append_left _ isRow)
    refine ⟨keptEarlier, ?_⟩
    intro earlier isEarlier admitted sameKey
    have stored := keptEarlier earlier.row
      (reflects.acknowledged earlier isEarlier admitted)
    have storedLast := kept request.row
      (List.mem_append_right _ List.mem_cons_self)
    exact reflects.unique _ stored _ storedLast sameKey
  · rintro ⟨keptEarlier, agree⟩ row isRow
    cases List.mem_append.mp isRow with
    | inl earlier =>
        exact keptEarlier row earlier
    | inr isLast =>
        rcases reflects.requested old member with
          ⟨earlier, isEarlier, admitted, isOld⟩
        rw [← isOld] at same member
        rw [List.mem_singleton.mp isLast,
          ← agree earlier isEarlier admitted same]
        exact member

theorem kept_submit_of_new (reflects : Reflects key journal requests)
    (free : ∀ old ∈ journal.rows, key old ≠ key request.row) :
    Kept (submit key journal request) ↔ Kept journal := by
  rw [submit_of_new free]
  by_cases admitted : request.admitted = true
  · rw [if_pos admitted]
    constructor
    · intro kept row isRow
      cases List.mem_append.mp
          (kept row (List.mem_append_left _ isRow)) with
      | inl stored =>
          exact stored
      | inr isLast =>
          rcases reflects.covered row isRow with ⟨old, member, same⟩
          rw [List.mem_singleton.mp isLast] at same
          exact absurd same (free old member)
    · intro kept row isRow
      cases List.mem_append.mp isRow with
      | inl earlier =>
          exact List.mem_append_left _ (kept row earlier)
      | inr isLast =>
          exact List.mem_append_right _ isLast
  · rw [if_neg admitted]

variable (key) in
/-- Every acknowledged row is stored exactly when the requests are
compatible. -/
theorem kept_submitAll (requests : List (Request Row)) :
    Kept (submitAll key requests) ↔ Compatible key requests := by
  induction requests using List.reverseRecOn with
  | nil =>
      exact iff_of_true (fun _ member => nomatch member) List.Pairwise.nil
  | append_singleton requests request inductionHypothesis =>
      have reflects := reflects_submitAll key requests
      rw [submitAll_append_singleton, compatible_append_singleton,
        ← inductionHypothesis]
      by_cases known : ∃ old ∈ (submitAll key requests).rows,
          key old = key request.row
      · rcases known with ⟨old, member, same⟩
        exact kept_submit_of_known reflects member same
      · have free : ∀ old ∈ (submitAll key requests).rows,
            key old ≠ key request.row :=
          fun old member same => known ⟨old, member, same⟩
        rw [kept_submit_of_new reflects free]
        refine (and_iff_left ?_).symm
        intro earlier isEarlier admitted same
        rcases reflects.known earlier isEarlier admitted with
          ⟨old, member, sameKey⟩
        exact absurd (sameKey.trans same) (free old member)

end Journals

end BidayaxExecutive.Library.IgnoredConflicts
