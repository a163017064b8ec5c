import Mathlib.Data.Set.Function

/-!
# Tables held under keys

A table of named values is kept in a store that knows only keys.  The store
represents the table on the names in use when each name finds its own value
under its key.  Writing keeps this when names in use have different keys, and
clearing a set of keys keeps it when the keys to clear are those of the names
to clear.
-/

namespace BidayaxExecutive.Library.Representation

variable {σ κ ε : Type*} {key : σ → κ} {used : Set σ}
  {store : κ → Option ε} {table : σ → Option ε}

/-- Every name in use finds its own value. -/
def Represents (key : σ → κ) (used : Set σ) (store : κ → Option ε)
    (table : σ → Option ε) : Prop :=
  ∀ name ∈ used, store (key name) = table name

/-- One key and its name are written alike. -/
theorem Represents.write [DecidableEq κ] [DecidableEq σ]
    (represents : Represents key used store table)
    (injective : Set.InjOn key used) {name : σ} (member : name ∈ used)
    (content : Option ε) :
    Represents key used (Function.update store (key name) content)
      (Function.update table name content) := by
  intro other otherMember
  by_cases same : other = name
  · rw [same, Function.update_self, Function.update_self]
  · have differentKey : key other ≠ key name := fun equal =>
      same (injective otherMember member equal)
    rw [Function.update_of_ne differentKey, Function.update_of_ne same]
    exact represents other otherMember

/-- The keys of the names to clear, and no other key in use, are cleared. -/
theorem Represents.clear {doomed : κ → Prop} [DecidablePred doomed]
    {dropped : σ → Prop} [DecidablePred dropped]
    (represents : Represents key used store table)
    (alike : ∀ name ∈ used, doomed (key name) ↔ dropped name) :
    Represents key used (fun key => if doomed key then none else store key)
      fun name => if dropped name then none else table name := by
  intro name member
  simp only [alike name member]
  by_cases gone : dropped name
  · rw [if_pos gone, if_pos gone]
  · rw [if_neg gone, if_neg gone]
    exact represents name member

end BidayaxExecutive.Library.Representation
