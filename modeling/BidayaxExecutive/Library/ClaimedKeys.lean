import Mathlib.Data.List.Pairwise
import Mathlib.Tactic.Common

/-!
# Requests that claim keys

A machine answers one request after the other.  A transcript lists the requests
with their answers; the part of one owner is isolated when it is the transcript
of the owner's requests alone.

The machines of interest keep one record a key and never replace it.  A request
answers from the record under its key, and when there is none it may claim the
key with a record of its own.  Then the parts of all owners are isolated exactly
when no request claims a key that a later request of another owner names,
provided that the answer to a record of somebody else shows.
-/

namespace BidayaxExecutive.Library.ClaimedKeys

section Machines

variable {State Request Answer Owner : Type*} [DecidableEq Owner]
  (step : State → Request → Answer × State)

/-! ## Transcripts -/

/-- The state after the requests. -/
def after : State → List Request → State
  | state, [] => state
  | state, request :: rest => after (step state request).2 rest

theorem after_append (state : State) (first second : List Request) :
    after step state (first ++ second) =
      after step (after step state first) second := by
  induction first generalizing state with
  | nil =>
      rfl
  | cons request rest inductionHypothesis =>
      exact inductionHypothesis _

def transcript : State → List Request → List (Request × Answer)
  | _, [] => []
  | state, request :: rest =>
      (request, (step state request).1) ::
        transcript (step state request).2 rest

theorem mem_transcript {state : State} {requests : List Request}
    {entry : Request × Answer} :
    entry ∈ transcript step state requests ↔
      ∃ before later, requests = before ++ entry.1 :: later ∧
        entry.2 = (step (after step state before) entry.1).1 := by
  induction requests generalizing state with
  | nil =>
      simp [transcript]
  | cons request rest inductionHypothesis =>
      rw [transcript, List.mem_cons, inductionHypothesis]
      constructor
      · rintro (rfl | ⟨before, later, rfl, answered⟩)
        · exact ⟨[], rest, rfl, rfl⟩
        · exact ⟨request :: before, later, rfl, answered⟩
      · rintro ⟨before, later, splits, answered⟩
        cases before with
        | nil =>
            injection splits with sameRequest _
            refine Or.inl (Prod.ext sameRequest.symm ?_)
            rw [answered, after, sameRequest]
        | cons first between =>
            injection splits with sameRequest sameRest
            refine Or.inr ⟨between, later, sameRest, ?_⟩
            rw [answered, after, sameRequest]

/-- What holds of a request now and of any later one holds pairwise. -/
theorem pairwise_transcript {related : Request × Answer →
      Request × Answer → Prop}
    (relates : ∀ state request between later,
      related (request, (step state request).1)
        (later, (step (after step (step state request).2 between) later).1))
    (state : State) (requests : List Request) :
    (transcript step state requests).Pairwise related := by
  induction requests generalizing state with
  | nil =>
      exact List.Pairwise.nil
  | cons request rest inductionHypothesis =>
      refine List.Pairwise.cons ?_ (inductionHypothesis _)
      intro entry member
      obtain ⟨between, later, _, answered⟩ :=
        (mem_transcript step).mp member
      have related := relates state request between entry.1
      rw [← answered] at related
      exact related

variable (owner : Request → Owner)

/-- The requests of one owner. -/
def own (mine : Owner) (requests : List Request) : List Request :=
  requests.filter fun request => owner request = mine

/-- The part of one owner in a transcript. -/
def partOf (mine : Owner) (entries : List (Request × Answer)) :
    List (Request × Answer) :=
  entries.filter fun entry => owner entry.1 = mine

/-- The owner sees in the whole run what it sees in a run of its own. -/
def Isolated (mine : Owner) (state : State) (requests : List Request) : Prop :=
  partOf owner mine (transcript step state requests) =
    transcript step state (own owner mine requests)

end Machines

/-! ## Stores of records -/

/-- A store that keeps one record a key. -/
structure KeyedStore (Store Key Record : Type*) where
  lookup : Store → Key → Option Record
  remember : Store → Key → Record → Store
  lookup_remember : ∀ store key record,
    lookup (remember store key record) key = some record
  lookup_of_ne : ∀ store record {key other}, other ≠ key →
    lookup (remember store key record) other = lookup store other

namespace KeyedStore

variable {Store Key Record : Type*} (shelf : KeyedStore Store Key Record)

/-- Keeps the record that is there. -/
def keep (store : Store) (key : Key) (record : Record) : Store :=
  if (shelf.lookup store key).isSome then store
  else shelf.remember store key record

theorem lookup_keep (store : Store) (key : Key) (record : Record) :
    shelf.lookup (shelf.keep store key record) key =
      (shelf.lookup store key).or (some record) := by
  unfold keep
  cases present : shelf.lookup store key with
  | some earlier =>
      exact present
  | none =>
      exact shelf.lookup_remember store key record

theorem lookup_keep_of_ne (store : Store) (record : Record) {key other : Key}
    (different : other ≠ key) :
    shelf.lookup (shelf.keep store key record) other =
      shelf.lookup store other := by
  unfold keep
  by_cases present : (shelf.lookup store key).isSome
  · rw [if_pos present]
  · rw [if_neg present]
    exact shelf.lookup_of_ne store record different

end KeyedStore

/-- What a request asks of the store. -/
structure Protocol (Request Key Record Answer : Type*) where
  key : Request → Option Key
  /-- What the request leaves under its key when it finds nothing. -/
  claim : Request → Option Record
  answer : Request → Option Record → Answer

section Requests

variable {Store Key Record Request Answer Owner : Type*} [DecidableEq Owner]
  (shelf : KeyedStore Store Key Record)
  (protocol : Protocol Request Key Record Answer)

def found (store : Store) (request : Request) : Option Record :=
  (protocol.key request).bind (shelf.lookup store)

def perform (store : Store) (request : Request) : Answer × Store :=
  (protocol.answer request (found shelf protocol store request),
    match protocol.key request, protocol.claim request with
    | some key, some record => shelf.keep store key record
    | _, _ => store)

section Cases

variable {shelf} {protocol} {store : Store} {request : Request} {key : Key}
  {record : Record}

theorem perform_of_unnamed (unnamed : protocol.key request = none) :
    perform shelf protocol store request =
      (protocol.answer request none, store) := by
  simp only [perform, found, unnamed, Option.bind_none]

theorem perform_of_present (named : protocol.key request = some key)
    (present : shelf.lookup store key = some record) :
    perform shelf protocol store request =
      (protocol.answer request (some record), store) := by
  simp only [perform, found, named, Option.bind_some, present]
  cases protocol.claim request with
  | none =>
      rfl
  | some own =>
      simp only [KeyedStore.keep, present, Option.isSome_some, if_true]

theorem perform_of_passed (named : protocol.key request = some key)
    (absent : shelf.lookup store key = none)
    (passes : protocol.claim request = none) :
    perform shelf protocol store request =
      (protocol.answer request none, store) := by
  simp only [perform, found, named, Option.bind_some, absent, passes]

theorem perform_of_claimed (named : protocol.key request = some key)
    (absent : shelf.lookup store key = none)
    (claims : protocol.claim request = some record) :
    perform shelf protocol store request =
      (protocol.answer request none, shelf.remember store key record) := by
  simp only [perform, found, named, Option.bind_some, absent, claims,
    KeyedStore.keep, Option.isSome_none, Bool.false_eq_true, if_false]

end Cases

/-- The record a request leaves under a key. -/
def left [DecidableEq Key] (request : Request) (key : Key) : Option Record :=
  if protocol.key request = some key then protocol.claim request else none

variable [DecidableEq Key]

/-- A record stays; a key without one goes to the request that claims it. -/
theorem lookup_perform (store : Store) (request : Request) (key : Key) :
    shelf.lookup (perform shelf protocol store request).2 key =
      (shelf.lookup store key).or (left protocol request key) := by
  simp only [perform, left]
  cases protocol.key request with
  | none =>
      rw [if_neg nofun, Option.or_none]
  | some other =>
      cases protocol.claim request with
      | none =>
          rw [ite_self, Option.or_none]
      | some record =>
          by_cases same : other = key
          · subst same
            rw [if_pos rfl]
            exact shelf.lookup_keep store other record
          · rw [if_neg fun equal => same (Option.some.inj equal),
              Option.or_none]
            exact shelf.lookup_keep_of_ne store record (Ne.symm same)

theorem lookup_after {store : Store} {key : Key} {record : Record}
    (present : shelf.lookup store key = some record)
    (requests : List Request) :
    shelf.lookup (after (perform shelf protocol) store requests) key =
      some record := by
  induction requests generalizing store with
  | nil =>
      exact present
  | cons request rest inductionHypothesis =>
      refine inductionHypothesis ?_
      rw [lookup_perform, present, Option.some_or]

/-- A record that was not there was left by a request that found none. -/
theorem exists_claimant {store : Store} {key : Key} {record : Record}
    {requests : List Request} (absent : shelf.lookup store key = none)
    (present : shelf.lookup
      (after (perform shelf protocol) store requests) key = some record) :
    ∃ before claimant later, requests = before ++ claimant :: later ∧
      shelf.lookup (after (perform shelf protocol) store before) key = none ∧
      left protocol claimant key = some record := by
  induction requests generalizing store with
  | nil =>
      exact nomatch absent.symm.trans present
  | cons request rest inductionHypothesis =>
      have next := lookup_perform shelf protocol store request key
      rw [absent, Option.none_or] at next
      cases claimed : left protocol request key with
      | some own =>
          rw [claimed] at next
          have kept := lookup_after shelf protocol next rest
          have same : own = record := Option.some.inj (kept.symm.trans present)
          rw [same] at claimed
          exact ⟨[], request, rest, rfl, absent, claimed⟩
      | none =>
          rw [claimed] at next
          obtain ⟨before, claimant, later, splits, free, left⟩ :=
            inductionHypothesis next present
          exact ⟨request :: before, claimant, later, by rw [splits]; rfl, free,
            left⟩

/-- The keys in use are those that requests have claimed. -/
theorem present_after_iff {empty : Store} {key : Key}
    (isEmpty : shelf.lookup empty key = none) {requests : List Request} :
    (shelf.lookup (after (perform shelf protocol) empty requests)
      key).isSome = true ↔
      ∃ request ∈ requests, (left protocol request key).isSome = true := by
  constructor
  · intro present
    obtain ⟨record, found⟩ := Option.isSome_iff_exists.mp present
    obtain ⟨before, claimant, later, rfl, _, claimed⟩ :=
      exists_claimant shelf protocol isEmpty found
    exact ⟨claimant, List.mem_append_right _ List.mem_cons_self,
      by rw [claimed]; rfl⟩
  · rintro ⟨request, member, claims⟩
    obtain ⟨before, later, rfl⟩ := List.append_of_mem member
    obtain ⟨record, claimed⟩ := Option.isSome_iff_exists.mp claims
    rw [after_append, after]
    have next := lookup_perform shelf protocol
      (after (perform shelf protocol) empty before) request key
    rw [claimed, Option.or_some] at next
    rw [lookup_after shelf protocol next later]
    rfl

/-- A request that claims its key and answers to its own record as it answers
to none repeats itself. -/
theorem perform_again {request : Request} {record : Record}
    (claims : protocol.claim request = some record)
    (repeats : (protocol.key request).isSome →
      protocol.answer request (some record) = protocol.answer request none)
    (store : Store) (between : List Request) :
    (perform shelf protocol (after (perform shelf protocol)
        (perform shelf protocol store request).2 between) request).1 =
      (perform shelf protocol store request).1 := by
  change protocol.answer request (found shelf protocol _ request) =
    protocol.answer request (found shelf protocol store request)
  cases named : protocol.key request with
  | none =>
      simp only [found, named, Option.bind_none]
  | some key =>
      simp only [found, named, Option.bind_some]
      have next := lookup_perform shelf protocol store request key
      rw [left, if_pos named, claims] at next
      cases present : shelf.lookup store key with
      | none =>
          rw [present, Option.none_or] at next
          rw [lookup_after shelf protocol next between]
          exact repeats (by rw [named]; rfl)
      | some earlier =>
          rw [present, Option.some_or] at next
          rw [lookup_after shelf protocol next between]

/-! ## Isolation -/

variable (owner : Request → Owner)

/-- The first request claims the key that the second one names. -/
def Contends (first later : Request) : Prop :=
  ∃ key, (left protocol first key).isSome ∧ protocol.key later = some key

/-- No request claims a key that a later request of another owner names. -/
def Separate (requests : List Request) : Prop :=
  requests.Pairwise fun first later =>
    Contends protocol first later → owner first = owner later

variable {owner} {shelf} {protocol}

theorem isolated_of_separate {mine : Owner} {full alone : Store}
    {requests : List Request} (separate : Separate protocol owner requests)
    (alike : ∀ request ∈ requests, owner request = mine →
      found shelf protocol full request = found shelf protocol alone request) :
    partOf owner mine (transcript (perform shelf protocol) full requests) =
      transcript (perform shelf protocol) alone (own owner mine requests) := by
  induction requests generalizing full alone with
  | nil =>
      rfl
  | cons request rest inductionHypothesis =>
      have separateRest := (List.pairwise_cons.mp separate).2
      have apart := (List.pairwise_cons.mp separate).1
      have alikeRest : ∀ later ∈ rest, owner later = mine →
          found shelf protocol full later = found shelf protocol alone later :=
        fun later member =>
          alike later (List.mem_cons_of_mem _ member)
      by_cases isMine : owner request = mine
      · have same := alike request List.mem_cons_self isMine
        have onward := @inductionHypothesis
          (perform shelf protocol full request).2
          (perform shelf protocol alone request).2 separateRest ?_
        · have answers : (perform shelf protocol full request).1 =
              (perform shelf protocol alone request).1 := by
            exact congrArg (protocol.answer request) same
          simp only [own, partOf, transcript, List.filter_cons, isMine,
            decide_true, if_true] at onward ⊢
          rw [onward, answers]
        · intro later member laterIsMine
          have before := alikeRest later member laterIsMine
          unfold found at before ⊢
          cases named : protocol.key later with
          | none =>
              rfl
          | some key =>
              rw [named, Option.bind_some, Option.bind_some] at before
              rw [Option.bind_some, Option.bind_some, lookup_perform,
                lookup_perform, before]
      · have onward := @inductionHypothesis
          (perform shelf protocol full request).2 alone separateRest ?_
        · simp only [own, partOf, transcript, List.filter_cons, isMine,
            decide_false, Bool.false_eq_true, if_false] at onward ⊢
          exact onward
        · intro later member laterIsMine
          have before := alikeRest later member laterIsMine
          unfold found at before ⊢
          cases named : protocol.key later with
          | none =>
              rfl
          | some key =>
              rw [named, Option.bind_some, Option.bind_some] at before
              rw [Option.bind_some, Option.bind_some, lookup_perform, ← before]
              have free : left protocol request key = none := by
                by_contra claimed
                have contends : Contends protocol request later :=
                  ⟨key, Option.isSome_iff_ne_none.mpr claimed, named⟩
                exact isMine ((apart later member contends).trans laterIsMine)
              rw [free, Option.or_none]

variable (shelf protocol owner) in
/-- The store of the whole run beside the stores of the owners alone: each
record is there for the owner that left it, and for nobody else. -/
structure Shared (all : List Request) (full : Store)
    (alone : Owner → Store) : Prop where
  absent : ∀ {key}, shelf.lookup full key = none →
    ∀ mine, shelf.lookup (alone mine) key = none
  present : ∀ {key record}, shelf.lookup full key = some record →
    ∃ claimant ∈ all, left protocol claimant key = some record ∧
      shelf.lookup (alone (owner claimant)) key = some record ∧
      ∀ mine, mine ≠ owner claimant → shelf.lookup (alone mine) key = none

variable (protocol owner) in
/-- The answer to a record of another owner is not the answer to none. -/
def Tells (all : List Request) : Prop :=
  ∀ claimant ∈ all, ∀ request ∈ all, ∀ key record,
    left protocol claimant key = some record →
    protocol.key request = some key → owner claimant ≠ owner request →
    protocol.answer request (some record) ≠ protocol.answer request none

variable (shelf protocol owner) in
/-- The owner of the request goes on alone, the others wait. -/
def advance (alone : Owner → Store) (request : Request) :
    Owner → Store :=
  fun mine =>
    if owner request = mine then (perform shelf protocol (alone mine) request).2
    else alone mine

variable {all : List Request} {full : Store} {alone : Owner → Store}

/-- Who is answered alike in both runs finds a record in both or in none. -/
theorem Shared.found_alone
    (shared : Shared shelf protocol owner all full alone)
    (tells : Tells protocol owner all) {request : Request}
    (member : request ∈ all) {key : Key}
    (named : protocol.key request = some key)
    (answers : (perform shelf protocol full request).1 =
      (perform shelf protocol (alone (owner request)) request).1)
    {record : Record} (present : shelf.lookup full key = some record) :
    shelf.lookup (alone (owner request)) key = some record ∧
      ∀ mine, mine ≠ owner request →
        shelf.lookup (alone mine) key = none := by
  obtain ⟨claimant, claimantMember, claimed, holds, others⟩ :=
    shared.present present
  by_cases same : owner request = owner claimant
  · rw [same]
    exact ⟨holds, others⟩
  · have nothing := others (owner request) same
    simp only [perform, found, named, Option.bind_some, present,
      nothing] at answers
    exact absurd answers <|
      tells claimant claimantMember request member key record claimed named
        (Ne.symm same)

theorem Shared.advance (shared : Shared shelf protocol owner all full alone)
    (tells : Tells protocol owner all) {request : Request}
    (member : request ∈ all)
    (answers : (perform shelf protocol full request).1 =
      (perform shelf protocol (alone (owner request)) request).1) :
    Shared shelf protocol owner all (perform shelf protocol full request).2
      (advance shelf protocol owner alone request) := by
  constructor
  · intro key absent mine
    rw [lookup_perform, Option.or_eq_none_iff] at absent
    have nothing := shared.absent absent.1 mine
    unfold ClaimedKeys.advance
    by_cases isMine : owner request = mine
    · rw [if_pos isMine, lookup_perform, nothing, absent.2, Option.or_none]
    · rw [if_neg isMine]
      exact nothing
  · intro key record present
    rw [lookup_perform] at present
    cases earlier : shelf.lookup full key with
    | none =>
        -- The request claims the key.
        rw [earlier, Option.none_or] at present
        have nothing := shared.absent earlier
        refine ⟨request, member, present, ?_, fun mine others => ?_⟩
        · rw [ClaimedKeys.advance, if_pos rfl, lookup_perform, nothing,
            Option.none_or, present]
        · rw [ClaimedKeys.advance, if_neg (Ne.symm others)]
          exact nothing mine
    | some kept =>
        rw [earlier, Option.some_or] at present
        rw [Option.some.inj present] at earlier
        obtain ⟨claimant, claimantMember, claimed, holds, others⟩ :=
          shared.present earlier
        refine ⟨claimant, claimantMember, claimed, ?_, fun mine other => ?_⟩
        · unfold ClaimedKeys.advance
          by_cases isMine : owner request = owner claimant
          · rw [if_pos isMine, lookup_perform, holds, Option.some_or]
          · rw [if_neg isMine]
            exact holds
        · unfold ClaimedKeys.advance
          by_cases isMine : owner request = mine
          · rw [if_pos isMine, lookup_perform, others mine other,
              Option.none_or, left]
            by_cases named : protocol.key request = some key
            · have alike := shared.found_alone tells member named answers
                earlier
              rw [isMine, others mine other] at alike
              exact nomatch alike.1
            · rw [if_neg named]
          · rw [if_neg isMine]
            exact others mine other

/-- A run that is isolated for every owner.  Who finds a record in the shared
store finds it in its own. -/
theorem Shared.separate (shared : Shared shelf protocol owner all full alone)
    (tells : Tells protocol owner all) {requests : List Request}
    (members : ∀ request ∈ requests, request ∈ all)
    (isolated : ∀ mine,
      partOf owner mine (transcript (perform shelf protocol) full requests) =
        transcript (perform shelf protocol) (alone mine)
          (own owner mine requests)) :
    Separate protocol owner requests ∧
      ∀ request ∈ requests, ∀ key record,
        protocol.key request = some key →
        shelf.lookup full key = some record →
        ∀ mine, mine ≠ owner request →
          shelf.lookup (alone mine) key = none := by
  induction requests generalizing full alone with
  | nil =>
      exact ⟨List.Pairwise.nil, nofun⟩
  | cons request rest inductionHypothesis =>
      have member := members request List.mem_cons_self
      have heads := isolated (owner request)
      simp only [own, partOf, transcript, List.filter_cons, decide_true,
        if_true] at heads
      injection heads with entries _
      have answers := congrArg Prod.snd entries
      have next := shared.advance tells member answers
      have onward := inductionHypothesis next
        (fun later laterMember => members later (List.mem_cons_of_mem _ laterMember))
        ?_
      · refine ⟨List.pairwise_cons.mpr ⟨?_, onward.1⟩, ?_⟩
        · rintro later laterMember ⟨key, claimed, named⟩
          obtain ⟨record, claims⟩ := Option.isSome_iff_exists.mp claimed
          have taken : ∃ kept, shelf.lookup
              (perform shelf protocol full request).2 key = some kept := by
            rw [lookup_perform, claims]
            exact ⟨_, Option.or_some⟩
          obtain ⟨kept, kept_eq⟩ := taken
          by_contra different
          have nothing :=
            onward.2 later laterMember key kept named kept_eq _ different
          rw [ClaimedKeys.advance, if_pos rfl, lookup_perform, claims,
            Option.or_some] at nothing
          exact nomatch nothing
        · intro later laterMember key record named present mine different
          rcases List.mem_cons.mp laterMember with rfl | laterMember
          · exact (shared.found_alone tells member named answers present).2
              mine different
          · have stays : shelf.lookup
                (perform shelf protocol full request).2 key = some record := by
              rw [lookup_perform, present, Option.some_or]
            have nothing := onward.2 later laterMember key record named stays
              mine different
            unfold ClaimedKeys.advance at nothing
            by_cases isMine : owner request = mine
            · rw [if_pos isMine, lookup_perform,
                Option.or_eq_none_iff] at nothing
              exact nothing.1
            · rw [if_neg isMine] at nothing
              exact nothing
      · intro mine
        have whole := isolated mine
        unfold ClaimedKeys.advance
        by_cases isMine : owner request = mine
        · simp only [own, partOf, transcript, List.filter_cons, isMine,
            decide_true, if_true] at whole ⊢
          injection whole
        · simp only [own, partOf, transcript, List.filter_cons, isMine,
            decide_false, Bool.false_eq_true, if_false] at whole ⊢
          exact whole

/-- From an empty store, every owner is isolated exactly when no request claims
a key that a later request of another owner names. -/
theorem isolated_iff_separate {empty : Store} {requests : List Request}
    (isEmpty : ∀ key, shelf.lookup empty key = none)
    (tells : Tells protocol owner requests) :
    (∀ mine, Isolated (perform shelf protocol) owner mine empty requests) ↔
      Separate protocol owner requests := by
  constructor
  · intro isolated
    have shared : Shared shelf protocol owner requests empty fun _ => empty :=
      ⟨fun _ _ => isEmpty _, fun {key} {record} present =>
        nomatch (isEmpty key).symm.trans present⟩
    exact (shared.separate tells (fun _ member => member) isolated).1
  · intro separate mine
    exact isolated_of_separate separate fun _ _ _ => rfl

end Requests

end BidayaxExecutive.Library.ClaimedKeys
