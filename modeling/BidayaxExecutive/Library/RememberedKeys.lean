import BidayaxExecutive.Library.Transactions

/-!
# Keys that are remembered before the work

A store says whether it has a key and remembers keys.  Work under a key is
refused when the store has the key; otherwise the key is remembered and then
the work is done, so the key stays when the work fails.
-/

namespace BidayaxExecutive.Library.RememberedKeys

open BidayaxExecutive.Library.Transactions

structure KeyStore (State Key : Type) where
  has : State → Key → Bool
  remember : State → Key → State

/-- A remembered key is there, and no key is lost. -/
structure KeyStore.Lawful {State Key : Type} (store : KeyStore State Key) :
    Prop where
  has_remember_self : ∀ state key, store.has (store.remember state key) key =
    true
  has_remember_of_has : ∀ state key other, store.has state key = true →
    store.has (store.remember state other) key = true

section Work

variable {State Key Failure Value : Type} (store : KeyStore State Key)
  (key : Key) (refused : Failure)

def once (work : Except Failure Value) : Transaction State Failure Value :=
  fun state =>
    if store.has state key then (.error refused, state)
    else (work, store.remember state key)

variable {store key refused}

theorem KeyStore.Lawful.remember_ne (lawful : store.Lawful) {state : State}
    (absent : store.has state key = false) :
    store.remember state key ≠ state := by
  intro same
  have there := lawful.has_remember_self state key
  rw [same, absent] at there
  cases there

theorem KeyStore.Lawful.has_remembered (lawful : store.Lawful) {state : State}
    (there : store.has state key = true) (others : List Key) :
    store.has (others.foldl store.remember state) key = true := by
  induction others generalizing state with
  | nil =>
      exact there
  | cons other others ih =>
      exact ih (lawful.has_remember_of_has state key other there)

theorem once_eq_ok {work : Except Failure Value} {state final : State}
    {value : Value} :
    once store key refused work state = (.ok value, final) ↔
      store.has state key = false ∧ work = .ok value ∧
        store.remember state key = final := by
  rw [once]
  cases there : store.has state key with
  | true => simp
  | false => simp

/-- A failure leaves the store alone exactly when the work was refused or
could not fail. -/
theorem once_keeps_iff (lawful : store.Lawful) (work : Except Failure Value)
    (state : State) :
    (∀ failure final, once store key refused work state =
        (.error failure, final) → final = state) ↔
      store.has state key = true ∨ ∃ value, work = .ok value := by
  rw [once]
  cases there : store.has state key with
  | true =>
      simp only [if_true, true_or, iff_true]
      rintro failure final ⟨⟩
      rfl
  | false =>
      simp only [Bool.false_eq_true, if_false, false_or]
      cases work with
      | ok value =>
          exact ⟨fun _ => ⟨value, rfl⟩, fun _ failure final failed =>
            nomatch failed⟩
      | error failure =>
          constructor
          · intro kept
            exact absurd (kept failure _ rfl) (lawful.remember_ne there)
          · rintro ⟨value, done⟩
            cases done

/-- After work that was done the key is refused, whatever else is
remembered. -/
theorem once_refused_after (lawful : store.Lawful) {work : Except Failure Value}
    {state final : State} {value : Value}
    (done : once store key refused work state = (.ok value, final))
    (others : List Key) (again : Except Failure Value) :
    once store key refused again (others.foldl store.remember final) =
      (.error refused, others.foldl store.remember final) := by
  obtain ⟨_, _, rfl⟩ := once_eq_ok.mp done
  rw [once, if_pos
    (lawful.has_remembered (lawful.has_remember_self state key) others)]

end Work

end BidayaxExecutive.Library.RememberedKeys
