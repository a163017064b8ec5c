import Mathlib.Algebra.Order.Group.Defs
import Mathlib.Data.List.Induction
import Mathlib.Data.List.Sort

/-!
# Sliding windows

A limiter accepts a call when fewer than `limit` of the calls it has accepted
are recent.  Calls come in the order of their instants.
-/

namespace BidayaxExecutive.Library.SlidingWindow

section Instants

variable {Instant : Type*} [AddCommGroup Instant] [LinearOrder Instant]
  {limit : Nat} {window now later : Instant}
  {calls times : List Instant}

/-- The instants that are less than a window ago. -/
def recent (window now : Instant) (times : List Instant) : List Instant :=
  times.filter fun time => now - time < window

def accept (limit : Nat) (window : Instant) (accepted : List Instant)
    (now : Instant) : List Instant :=
  if (recent window now accepted).length < limit then accepted ++ [now]
  else accepted

/-- The instants of the calls that are accepted. -/
def accepted (limit : Nat) (window : Instant) (calls : List Instant) :
    List Instant :=
  calls.foldl (accept limit window) []

theorem accepted_append (limit : Nat) (window : Instant)
    (calls : List Instant) (now : Instant) :
    accepted limit window (calls ++ [now]) =
      accept limit window (accepted limit window calls) now := by
  unfold accepted
  rw [List.foldl_append, List.foldl_cons, List.foldl_nil]

theorem recent_append (window now : Instant) (times others : List Instant) :
    recent window now (times ++ others) =
      recent window now times ++ recent window now others :=
  List.filter_append ..

theorem accepted_sublist (limit : Nat) (window : Instant)
    (calls : List Instant) :
    (accepted limit window calls).Sublist calls := by
  induction calls using List.reverseRecOn with
  | nil =>
      exact List.Sublist.slnil
  | append_singleton calls now inductionHypothesis =>
      rw [accepted_append]
      unfold accept
      by_cases accepts :
          (recent window now (accepted limit window calls)).length < limit
      · rw [if_pos accepts]
        exact inductionHypothesis.append (List.Sublist.refl _)
      · rw [if_neg accepts]
        exact inductionHypothesis.trans (List.sublist_append_left _ _)

theorem accepted_le (ordered : (calls ++ [now]).Pairwise (· ≤ ·))
    {time : Instant} (member : time ∈ accepted limit window calls) :
    time ≤ now := by
  have called : time ∈ calls := (accepted_sublist ..).subset member
  exact (List.pairwise_append.mp ordered).2.2 time called now
    (List.mem_singleton_self now)

/-! ## At most the limit -/

/-- Instants less than a window apart. -/
def Narrow (window : Instant) (inside : Instant → Prop) : Prop :=
  ∀ first last, inside first → inside last → last - first < window

/-- No narrow set of instants has more than `limit` of the accepted calls. -/
theorem countP_accepted_le {inside : Instant → Prop}
    [DecidablePred inside] (narrow : Narrow window inside)
    (calls : List Instant) :
    (accepted limit window calls).countP inside ≤ limit := by
  induction calls using List.reverseRecOn with
  | nil =>
      exact Nat.zero_le limit
  | append_singleton calls now inductionHypothesis =>
      rw [accepted_append]
      unfold accept
      by_cases accepts :
          (recent window now (accepted limit window calls)).length < limit
      · rw [if_pos accepts, List.countP_append, List.countP_singleton]
        by_cases isInside : inside now
        · have allRecent : (accepted limit window calls).countP inside ≤
              (recent window now (accepted limit window calls)).length := by
            unfold recent
            rw [← List.countP_eq_length_filter]
            apply List.countP_mono_left
            intro time _ timeInside
            have timeInside := of_decide_eq_true timeInside
            exact decide_eq_true (narrow time now timeInside isInside)
          simp only [isInside, decide_true, if_true]
          omega
        · simp only [isInside, decide_false, Bool.false_eq_true, if_false]
          omega
      · rw [if_neg accepts]
        exact inductionHypothesis

variable [IsOrderedAddMonoid Instant]

theorem narrow_from (start : Instant) :
    Narrow window fun time => start ≤ time ∧ time < start + window := by
  intro first last firstInside lastInside
  apply sub_lt_iff_lt_add'.mpr
  exact lt_of_lt_of_le lastInside.2 (add_le_add_left firstInside.1 window)

theorem narrow_upTo (start : Instant) :
    Narrow window fun time => start < time ∧ time ≤ start + window := by
  intro first last firstInside lastInside
  apply sub_lt_iff_lt_add'.mpr
  exact lt_of_le_of_lt lastInside.2 (add_lt_add_left firstInside.1 window)

/-! ## Denials -/

theorem narrow_recent (now : Instant) :
    Narrow window fun time => now - window < time ∧ time ≤ now := by
  intro first last firstInside lastInside
  have after : now - first < window := sub_lt_comm.mp firstInside.1
  exact lt_of_le_of_lt (sub_le_sub_right lastInside.2 first) after

theorem countP_recent (ordered : ∀ time ∈ times, time ≤ now) :
    times.countP (fun time => now - window < time ∧ time ≤ now) =
      (recent window now times).length := by
  unfold recent
  rw [← List.countP_eq_length_filter]
  apply List.countP_congr
  intro time member
  simp [ordered time member, sub_lt_comm]

/-- A call that is not accepted has exactly `limit` recent ones before it. -/
theorem length_recent_of_denied
    (ordered : (calls ++ [now]).Pairwise (· ≤ ·))
    (denied :
      limit ≤ (recent window now (accepted limit window calls)).length) :
    (recent window now (accepted limit window calls)).length = limit := by
  apply le_antisymm
  · rw [← countP_recent (fun _ member => accepted_le ordered member)]
    exact countP_accepted_le (narrow_recent now) calls
  · exact denied

/-! ## Resets -/

/-- What is not recent any more does not become recent again. -/
theorem recent_recent (ordered : now ≤ later) (times : List Instant) :
    recent window later (recent window now times) =
      recent window later times := by
  unfold recent
  rw [List.filter_filter]
  apply List.filter_congr
  intro time _
  have older : now - time ≤ later - time := sub_le_sub_right ordered time
  by_cases counts : later - time < window
  · have counted : now - time < window := lt_of_le_of_lt older counts
    simp [counts, counted]
  · simp [counts]

/-- Pruning before the call changes nothing that counts afterwards. -/
theorem recent_accept_recent (ordered : now ≤ later) (limit : Nat)
    (times : List Instant) :
    recent window later (accept limit window (recent window now times) now) =
      recent window later (accept limit window times now) := by
  unfold accept
  rw [recent_recent le_rfl]
  by_cases accepts : (recent window now times).length < limit
  · rw [if_pos accepts, if_pos accepts, recent_append, recent_append,
      recent_recent ordered]
  · rw [if_neg accepts, if_neg accepts, recent_recent ordered]

/-- Until the first of the recent calls expires, all of them stay recent. -/
theorem length_recent_le_of_before {first : Instant} {rest : List Instant}
    (sorted : times.Pairwise (· ≤ ·))
    (starts : recent window now times = first :: rest)
    (before : later < first + window) :
    (recent window now times).length ≤
      (recent window later times).length := by
  have sortedRecent : (recent window now times).Pairwise (· ≤ ·) :=
    sorted.sublist List.filter_sublist
  have isFirst : ∀ time ∈ recent window now times, first ≤ time := by
    rw [starts] at sortedRecent ⊢
    intro time member
    cases List.mem_cons.mp member with
    | inl same =>
        exact le_of_eq same.symm
    | inr isLater =>
        exact (List.pairwise_cons.mp sortedRecent).1 time isLater
  unfold recent at isFirst ⊢
  rw [← List.countP_eq_length_filter, ← List.countP_eq_length_filter]
  apply List.countP_mono_left
  intro time member counts
  have atLeast := isFirst time (List.mem_filter.mpr ⟨member, counts⟩)
  apply decide_eq_true
  apply sub_lt_iff_lt_add'.mpr
  exact lt_of_lt_of_le before (add_le_add_left atLeast window)

/-- When the first of the recent calls has expired, fewer are left. -/
theorem length_recent_lt_of_after {first : Instant} {rest : List Instant}
    (ordered : now ≤ later)
    (starts : recent window now times = first :: rest)
    (after : first + window ≤ later) :
    (recent window later times).length < (recent window now times).length := by
  rw [← recent_recent ordered, starts]
  have expired : ¬later - first < window :=
    not_lt.mpr (le_sub_iff_add_le'.mpr after)
  unfold recent
  rw [List.filter_cons_of_neg (by simpa using expired)]
  exact Nat.lt_succ_of_le (List.length_filter_le _ _)

end Instants

end BidayaxExecutive.Library.SlidingWindow
