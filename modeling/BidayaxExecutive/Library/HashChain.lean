import Mathlib.Data.List.Chain
import Mathlib.Data.List.Forall2

/-!
# Hash chains

An entry has a digest and may name the digest of the entry before it.  A chain
is read from its newest entry down: once entries with one digest are known to
agree, two chains of one length with one head agree all the way.
-/

namespace BidayaxExecutive.Library.HashChain

variable {ε D : Type*} (digest : ε → D) (previous : ε → Option D)

/-- Newest first, every entry names the digest of the next one. -/
def Linked (entries : List ε) : Prop :=
  entries.IsChain fun entry before => previous entry = some (digest before)

/-- The older entries of two chains have one head again: the entries above
them agree and name their predecessors alike. -/
def Pins (agree : ε → ε → Prop) (left right : List ε) : Prop :=
  ∀ a ∈ left, ∀ b ∈ right, digest a = digest b →
    agree a b ∧
      ∀ p ∈ left, ∀ q ∈ right,
        previous a = some (digest p) → previous b = some (digest q) →
        digest p = digest q

variable {digest previous}

theorem Pins.tail {agree : ε → ε → Prop} {a b : ε} {left right : List ε}
    (pins : Pins digest previous agree (a :: left) (b :: right)) :
    Pins digest previous agree left right := by
  intro first firstMember second secondMember same
  obtain ⟨agreed, carried⟩ :=
    pins first (List.mem_cons_of_mem _ firstMember) second
      (List.mem_cons_of_mem _ secondMember) same
  refine ⟨agreed, ?_⟩
  intro p pMember q qMember
  exact carried p (List.mem_cons_of_mem _ pMember) q
    (List.mem_cons_of_mem _ qMember)

/-- Chains of one length with one head agree entry by entry. -/
theorem forall₂_of_head_eq {agree : ε → ε → Prop} {left right : List ε}
    (leftLinked : Linked digest previous left)
    (rightLinked : Linked digest previous right)
    (sameLength : left.length = right.length)
    (sameHead : left.head?.map digest = right.head?.map digest)
    (pins : Pins digest previous agree left right) :
    List.Forall₂ agree left right := by
  induction left generalizing right with
  | nil =>
      have empty : right = [] := List.length_eq_zero_iff.mp sameLength.symm
      rw [empty]
      exact List.Forall₂.nil
  | cons a left inductionHypothesis =>
      cases right with
      | nil =>
          simp at sameLength
      | cons b right =>
          have same : digest a = digest b := by
            simpa using sameHead
          obtain ⟨agreed, carried⟩ :=
            pins a List.mem_cons_self b List.mem_cons_self same
          refine List.Forall₂.cons agreed ?_
          apply inductionHypothesis leftLinked.tail rightLinked.tail
            (by simpa using sameLength) _ pins.tail
          -- both older chains are empty, or their heads are what `a` and `b` name
          cases left with
          | nil =>
              cases right with
              | nil => rfl
              | cons q right => simp at sameLength
          | cons p left =>
              cases right with
              | nil => simp at sameLength
              | cons q right =>
                  have namesLeft := (List.isChain_cons_cons.mp leftLinked).1
                  have namesRight := (List.isChain_cons_cons.mp rightLinked).1
                  have carriedHead := carried p (by simp) q (by simp)
                    namesLeft namesRight
                  simpa using carriedHead

end BidayaxExecutive.Library.HashChain
