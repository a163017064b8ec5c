import Mathlib.Data.List.Sort
import Mathlib.Data.List.Nodup

/-!
# JavaScript strings

A JavaScript string is a finite sequence of UTF-16 code units; nothing forces
surrogates to come in pairs.  Comparison with `<` is lexicographic in the code
units, and `Array.prototype.sort` is stable.  Both facts decide the order of
the keys and of the digests that the trust package hashes, so strings are kept
as code units here and never as Unicode text.
-/

namespace BidayaxExecutive.Runtime

/-- A sequence of UTF-16 code units. -/
abbrev JsString := List UInt16

instance : LawfulBEq JsString :=
  inferInstanceAs (LawfulBEq (List UInt16))

/-- A source literal.  Every literal of the source is ASCII, so one byte is one
code unit. -/
def js (text : String) : JsString :=
  text.toByteArray.data.toList.map fun byte => byte.toNat.toUInt16

namespace JsString

/-- The ASCII decimal digits, `\d` of the source's regular expressions. -/
def isDigit (unit : UInt16) : Bool :=
  48 ≤ unit && unit ≤ 57

/-- Every code unit is below 128. -/
def isAscii (text : JsString) : Bool :=
  text.all fun unit => unit < 128

/-- The code units that `String.prototype.trim` removes. -/
def isSpace (unit : UInt16) : Bool :=
  (9 ≤ unit && unit ≤ 13) || unit == 32 || unit == 160 || unit == 5760 ||
    (8192 ≤ unit && unit ≤ 8202) || unit == 8232 || unit == 8233 ||
    unit == 8239 || unit == 8287 || unit == 12288 || unit == 65279

/-- `!text.trim()`: nothing is left once white space is stripped. -/
def isBlank (text : JsString) : Bool :=
  text.all isSpace

/-- ASCII lower case, as the `i` flag folds it. -/
def lowerCase (text : JsString) : JsString :=
  text.map fun unit => if 65 ≤ unit && unit ≤ 90 then unit + 32 else unit

def hasInfix (part text : JsString) : Bool :=
  text.tails.any fun rest => part.isPrefixOf rest

/-- `text.trim()`. -/
def trim (text : JsString) : JsString :=
  ((text.dropWhile isSpace).reverse.dropWhile isSpace).reverse

/-- `left < right` on strings: lexicographic in the code units. -/
def codeUnitLt : JsString → JsString → Bool
  | [], [] => false
  | [], _ :: _ => true
  | _ :: _, [] => false
  | left :: lefts, right :: rights =>
      if left < right then true
      else if right < left then false
      else codeUnitLt lefts rights

@[simp]
theorem codeUnitLt_self (text : JsString) :
    codeUnitLt text text = false := by
  induction text with
  | nil =>
      rfl
  | cons unit rest inductionHypothesis =>
      simp [codeUnitLt, inductionHypothesis]

theorem codeUnitLt_trans :
    ∀ {first second third : JsString},
      codeUnitLt first second = true →
      codeUnitLt second third = true →
      codeUnitLt first third = true
  | [], [], _, below, _ => by
      simp [codeUnitLt] at below
  | [], _ :: _, [], _, below => by
      simp [codeUnitLt] at below
  | [], _ :: _, _ :: _, _, _ => by
      simp [codeUnitLt]
  | _ :: _, [], _, below, _ => by
      simp [codeUnitLt] at below
  | _ :: _, _ :: _, [], _, below => by
      simp [codeUnitLt] at below
  | a :: as, b :: bs, c :: cs, below, above => by
      simp only [codeUnitLt, UInt16.lt_iff_toNat_lt] at below above ⊢
      split_ifs at below above ⊢ <;> try omega
      exact codeUnitLt_trans below above

/-- Distinct strings are comparable. -/
theorem codeUnitLt_or_codeUnitLt_of_ne :
    ∀ {left right : JsString}, left ≠ right →
      codeUnitLt left right = true ∨ codeUnitLt right left = true
  | [], [], different => absurd rfl different
  | [], _ :: _, _ => Or.inl rfl
  | _ :: _, [], _ => Or.inr rfl
  | a :: as, b :: bs, different => by
      by_cases headBelow : a < b
      · exact Or.inl (by simp [codeUnitLt, headBelow])
      · by_cases headAbove : b < a
        · exact Or.inr (by simp [codeUnitLt, headAbove])
        · have sameHead : a = b := by
            rw [UInt16.lt_iff_toNat_lt] at headBelow headAbove
            exact UInt16.toNat_inj.mp (by omega)
          subst sameHead
          have tailDifferent : as ≠ bs := fun equal =>
            different (by rw [equal])
          simpa [codeUnitLt] using
            codeUnitLt_or_codeUnitLt_of_ne tailDifferent

/-- `left <= right`, the negation of `right < left`. -/
def codeUnitLe (left right : JsString) : Bool :=
  !codeUnitLt right left

theorem codeUnitLe_total (left right : JsString) :
    codeUnitLe left right = true ∨ codeUnitLe right left = true := by
  unfold codeUnitLe
  by_cases below : codeUnitLt left right = true
  · refine Or.inl ?_
    by_cases above : codeUnitLt right left = true
    · have := codeUnitLt_trans below above
      simp at this
    · simpa using above
  · exact Or.inr (by simpa using below)

theorem codeUnitLe_trans {first second third : JsString}
    (below : codeUnitLe first second = true)
    (above : codeUnitLe second third = true) :
    codeUnitLe first third = true := by
  simp only [codeUnitLe, Bool.not_eq_true'] at below above ⊢
  by_contra reversed
  have thirdFirst : codeUnitLt third first = true := by
    simpa using reversed
  by_cases equal : first = second
  · subst equal
    simp [above] at thirdFirst
  · rcases codeUnitLt_or_codeUnitLt_of_ne equal with forward | backward
    · have := codeUnitLt_trans thirdFirst forward
      simp [above] at this
    · simp [below] at backward

theorem codeUnitLe_antisymm {left right : JsString}
    (below : codeUnitLe left right = true)
    (above : codeUnitLe right left = true) :
    left = right := by
  by_contra different
  simp only [codeUnitLe, Bool.not_eq_true'] at below above
  rcases codeUnitLt_or_codeUnitLt_of_ne different with forward | backward
  · simp [above] at forward
  · simp [below] at backward

theorem codeUnitLe_append (left rest : JsString) :
    codeUnitLe left (left ++ rest) = true := by
  unfold codeUnitLe
  rw [Bool.not_eq_true']
  induction left with
  | nil =>
      cases rest <;> rfl
  | cons unit left inductionHypothesis =>
      simp [codeUnitLt, inductionHypothesis]

/-- In a sorted list of keys, a key that differs from the next one never comes
again. -/
theorem not_mem_of_sorted {first second : JsString} {rest : List JsString}
    (sorted : (first :: second :: rest).Pairwise
      fun left right => codeUnitLe left right = true)
    (different : first ≠ second) :
    first ∉ second :: rest := by
  intro member
  rcases List.mem_cons.mp member with same | later
  · exact different same
  · have below : codeUnitLe first second = true :=
      (List.pairwise_cons.mp sorted).1 second List.mem_cons_self
    have above : codeUnitLe second first = true :=
      (List.pairwise_cons.mp (List.pairwise_cons.mp sorted).2).1 first later
    exact different (codeUnitLe_antisymm below above)

end JsString

open JsString

section Sorting

variable {α : Type*} (key : α → JsString)

/-- The order in which `sort` compares two items by a string key. -/
def KeyLe (left right : α) : Prop :=
  codeUnitLe (key left) (key right) = true

instance : DecidableRel (KeyLe key) := fun left right =>
  inferInstanceAs (Decidable (codeUnitLe (key left) (key right) = true))

instance : Std.Total (KeyLe key) :=
  ⟨fun left right => codeUnitLe_total (key left) (key right)⟩

instance : IsTrans α (KeyLe key) :=
  ⟨fun _ _ _ below above => codeUnitLe_trans below above⟩

/-- The stable sort of the source's comparators
`key(a) < key(b) ? -1 : key(a) > key(b) ? 1 : 0`. -/
def sortOn (items : List α) : List α :=
  items.insertionSort (KeyLe key)

theorem sortOn_perm (items : List α) :
    (sortOn key items).Perm items :=
  List.perm_insertionSort (KeyLe key) items

theorem sortOn_pairwise (items : List α) :
    (sortOn key items).Pairwise (KeyLe key) :=
  List.pairwise_insertionSort (KeyLe key) items

@[simp]
theorem mem_sortOn {items : List α} {item : α} :
    item ∈ sortOn key items ↔ item ∈ items :=
  (sortOn_perm key items).mem_iff

@[simp]
theorem length_sortOn (items : List α) :
    (sortOn key items).length = items.length :=
  (sortOn_perm key items).length_eq

/-- A list whose keys are pairwise distinct has one sorted arrangement, so the
result of sorting does not depend on the order of the input. -/
theorem sortOn_eq_of_perm {left right : List α}
    (permutation : left.Perm right)
    (distinct : (left.map key).Nodup) :
    sortOn key left = sortOn key right := by
  have sortedPermutation :
      (sortOn key left).Perm (sortOn key right) :=
    (sortOn_perm key left).trans <|
      permutation.trans (sortOn_perm key right).symm
  refine List.Perm.eq_of_pairwise ?_
    (sortOn_pairwise key left) (sortOn_pairwise key right)
    sortedPermutation
  intro first second firstMember secondMember below above
  have sameKey : key first = key second :=
    codeUnitLe_antisymm below above
  have firstInLeft : first ∈ left := (mem_sortOn key).mp firstMember
  have secondInLeft : second ∈ left :=
    permutation.mem_iff.mpr ((mem_sortOn key).mp secondMember)
  exact List.inj_on_of_nodup_map distinct firstInLeft secondInLeft sameKey

/-- Sorting an already sorted list changes nothing. -/
theorem sortOn_of_pairwise {items : List α}
    (sorted : items.Pairwise (KeyLe key)) :
    sortOn key items = items :=
  sorted.insertionSort_eq

/-- In a sorted list with two equal keys, two neighbours have equal keys. -/
theorem exists_neighbours_of_not_nodup {items : List α}
    (sorted : items.Pairwise (KeyLe key))
    (tie : ¬(items.map key).Nodup) :
    ∃ earlier first second later,
      items = earlier ++ first :: second :: later ∧
        key first = key second := by
  induction items with
  | nil =>
      exact absurd List.nodup_nil tie
  | cons first rest inductionHypothesis =>
      rw [List.pairwise_cons] at sorted
      by_cases repeated : key first ∈ rest.map key
      · cases rest with
        | nil =>
            simp at repeated
        | cons second later =>
            rcases List.mem_map.mp repeated with ⟨other, member, sameKey⟩
            have below : KeyLe key first second :=
              sorted.1 second List.mem_cons_self
            have above : codeUnitLe (key second) (key other) = true := by
              rcases List.mem_cons.mp member with rfl | further
              · exact (codeUnitLe_total _ _).elim id id
              · exact (List.pairwise_cons.mp sorted.2).1 other further
            rw [sameKey] at above
            exact ⟨[], first, second, later, rfl,
              codeUnitLe_antisymm below above⟩
      · have tieLater : ¬(rest.map key).Nodup := by
          intro distinct
          exact tie (List.nodup_cons.mpr ⟨repeated, distinct⟩)
        rcases inductionHypothesis sorted.2 tieLater with
          ⟨earlier, left, right, later, rfl, sameKey⟩
        exact ⟨first :: earlier, left, right, later, rfl, sameKey⟩

/-- Neighbours with equal keys may change places in a sorted list. -/
theorem pairwise_of_swap {earlier later : List α} {first second : α}
    (sorted : (earlier ++ first :: second :: later).Pairwise (KeyLe key))
    (sameKey : key first = key second) :
    (earlier ++ second :: first :: later).Pairwise (KeyLe key) := by
  have sameRelation : ∀ other,
      (KeyLe key other first ↔ KeyLe key other second) ∧
        (KeyLe key first other ↔ KeyLe key second other) := by
    intro other
    simp only [KeyLe, sameKey, and_self]
  simp only [List.pairwise_append, List.pairwise_cons, List.mem_cons,
    forall_eq_or_imp, sameRelation] at sorted ⊢
  rcases sorted with ⟨before, ⟨⟨self, _⟩, after⟩, across⟩
  refine ⟨before, ⟨⟨self, after.1⟩, after⟩, ?_⟩
  intro other member
  exact ⟨(across other member).2.1, (across other member).2⟩

end Sorting

end BidayaxExecutive.Runtime
