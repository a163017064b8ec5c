import BidayaxExecutive.Library.SlidingWindow
import BidayaxExecutive.Runtime.JsMap
import BidayaxExecutive.Runtime.JsString
import Mathlib.Algebra.Order.Group.Int

/-!
# Rate limit of the receptionist

Every key has a bucket with the instants of its allowed calls.  A limit counts
calls, and instants are milliseconds.
-/

namespace BidayaxExecutive.Receptionist

open BidayaxExecutive.Runtime JsString
open BidayaxExecutive.Library.SlidingWindow

/-! ## One call -/

structure RateLimitInput where
  key : JsString
  limit : Option Nat := none
  windowMs : Option Int := none
  now : Option Int := none
  deriving DecidableEq

structure RateLimitBucket where
  resetAt : Int
  timestamps : List Int
  deriving DecidableEq

abbrev Buckets := JsMap JsString RateLimitBucket

structure RateLimitDecision where
  allowed : Bool
  remaining : Nat
  resetAt : Int
  reasonCode : Option JsString
  deriving DecidableEq

/-- `clock` is what `Date.now()` answers. -/
structure RateLimitCall where
  input : RateLimitInput
  clock : Int
  deriving DecidableEq

namespace RateLimitCall

def key (call : RateLimitCall) : JsString :=
  call.input.key

def limit (call : RateLimitCall) : Nat :=
  call.input.limit.getD 5

def windowMs (call : RateLimitCall) : Int :=
  call.input.windowMs.getD (10 * 60 * 1000)

def now (call : RateLimitCall) : Int :=
  call.input.now.getD call.clock

end RateLimitCall

def timestampsOf (buckets : Buckets) (key : JsString) : List Int :=
  ((buckets.get key).map (·.timestamps)).getD []

def evaluateReceptionistRateLimit (buckets : Buckets) (call : RateLimitCall) :
    RateLimitDecision × Buckets :=
  let timestamps :=
    (timestampsOf buckets call.key).filter fun timestamp =>
      call.now - timestamp < call.windowMs
  if call.limit ≤ timestamps.length then
    let resetAt := timestamps.head?.getD call.now + call.windowMs
    ({ allowed := false
       remaining := 0
       resetAt := resetAt
       reasonCode := some (js "rate_limit_exceeded") },
      buckets.set call.key
        { resetAt := resetAt
          timestamps := timestamps })
  else
    let nextTimestamps := timestamps ++ [call.now]
    ({ allowed := true
       remaining := call.limit - nextTimestamps.length
       resetAt := call.now + call.windowMs
       reasonCode := none },
      buckets.set call.key
        { resetAt := call.now + call.windowMs
          timestamps := nextTimestamps })

/-! ## Runs -/

def bucketsAfter (calls : List RateLimitCall) : Buckets :=
  calls.foldl (fun buckets call =>
    (evaluateReceptionistRateLimit buckets call).2) .empty

/-- The decision about a call after the others. -/
def decisionAfter (earlier : List RateLimitCall) (call : RateLimitCall) :
    RateLimitDecision :=
  (evaluateReceptionistRateLimit (bucketsAfter earlier) call).1

def decisionsFrom (buckets : Buckets) :
    List RateLimitCall → List (RateLimitCall × RateLimitDecision)
  | [] => []
  | call :: rest =>
      (call, (evaluateReceptionistRateLimit buckets call).1) ::
        decisionsFrom (evaluateReceptionistRateLimit buckets call).2 rest

/-- The calls of a run, each with its decision. -/
def decisions (calls : List RateLimitCall) :
    List (RateLimitCall × RateLimitDecision) :=
  decisionsFrom .empty calls

def ofKey (key : JsString) (calls : List RateLimitCall) :
    List RateLimitCall :=
  calls.filter (·.key == key)

/-- The instants of the allowed calls of a key. -/
def allowedTimes (key : JsString) (calls : List RateLimitCall) : List Int :=
  ((decisions calls).filter fun (call, decision) =>
    call.key == key && decision.allowed).map (·.1.now)

/-- The calls of a key have one limit and one window, and come in order. -/
structure Regular (key : JsString) (limit : Nat) (windowMs : Int)
    (calls : List RateLimitCall) : Prop where
  limits : ∀ call ∈ ofKey key calls, call.limit = limit
  windows : ∀ call ∈ ofKey key calls, call.windowMs = windowMs
  ordered : ((ofKey key calls).map (·.now)).Pairwise (· ≤ ·)

/-! ## Steps -/

section Steps

variable {buckets : Buckets} {call : RateLimitCall} {key : JsString}

theorem evaluate_allowed :
    (evaluateReceptionistRateLimit buckets call).1.allowed = true ↔
      (recent call.windowMs call.now
        (timestampsOf buckets call.key)).length < call.limit := by
  unfold evaluateReceptionistRateLimit recent
  by_cases full : call.limit ≤ ((timestampsOf buckets call.key).filter
      fun timestamp => call.now - timestamp < call.windowMs).length
  · simp only [if_pos full]
    simpa using full
  · simp only [if_neg full]
    simpa using full

theorem evaluate_resetAt
    (denied : (evaluateReceptionistRateLimit buckets call).1.allowed =
      false) :
    (evaluateReceptionistRateLimit buckets call).1.resetAt =
      (recent call.windowMs call.now
        (timestampsOf buckets call.key)).head?.getD call.now +
          call.windowMs := by
  unfold evaluateReceptionistRateLimit at denied ⊢
  by_cases full : call.limit ≤ ((timestampsOf buckets call.key).filter
      fun timestamp => call.now - timestamp < call.windowMs).length
  · simp only [if_pos full]
    rfl
  · simp only [if_neg full] at denied
    exact nomatch denied

/-- The bucket of the key holds what is recent, and the call if it is
allowed. -/
theorem timestampsOf_evaluate (buckets : Buckets) (call : RateLimitCall) :
    timestampsOf (evaluateReceptionistRateLimit buckets call).2 call.key =
      accept call.limit call.windowMs
        (recent call.windowMs call.now (timestampsOf buckets call.key))
        call.now := by
  unfold evaluateReceptionistRateLimit accept
  rw [recent_recent le_rfl]
  unfold recent
  by_cases full : call.limit ≤ ((timestampsOf buckets call.key).filter
      fun timestamp => call.now - timestamp < call.windowMs).length
  · simp only [if_pos full, if_neg (not_lt.mpr full)]
    unfold timestampsOf
    rw [JsMap.get_set, if_pos rfl]
    rfl
  · simp only [if_neg full, if_pos (not_le.mp full)]
    unfold timestampsOf
    rw [JsMap.get_set, if_pos rfl]
    rfl

theorem get_evaluate_of_ne (other : call.key ≠ key) :
    (evaluateReceptionistRateLimit buckets call).2.get key =
      buckets.get key := by
  unfold evaluateReceptionistRateLimit
  by_cases full : call.limit ≤ ((timestampsOf buckets call.key).filter
      fun timestamp => call.now - timestamp < call.windowMs).length
  · simp only [if_pos full]
    rw [JsMap.get_set, if_neg (Ne.symm other)]
  · simp only [if_neg full]
    rw [JsMap.get_set, if_neg (Ne.symm other)]

theorem timestampsOf_evaluate_of_ne (other : call.key ≠ key) :
    timestampsOf (evaluateReceptionistRateLimit buckets call).2 key =
      timestampsOf buckets key := by
  unfold timestampsOf
  rw [get_evaluate_of_ne other]

end Steps

theorem decisionsFrom_append (buckets : Buckets)
    (earlier later : List RateLimitCall) :
    decisionsFrom buckets (earlier ++ later) =
      decisionsFrom buckets earlier ++
        decisionsFrom (earlier.foldl (fun buckets call =>
          (evaluateReceptionistRateLimit buckets call).2) buckets) later := by
  induction earlier generalizing buckets with
  | nil =>
      rfl
  | cons call earlier inductionHypothesis =>
      rw [List.cons_append, decisionsFrom, inductionHypothesis]
      rfl

theorem decisions_append (earlier : List RateLimitCall)
    (call : RateLimitCall) :
    decisions (earlier ++ [call]) =
      decisions earlier ++ [(call, decisionAfter earlier call)] :=
  decisionsFrom_append .empty earlier [call]

theorem bucketsAfter_append (earlier : List RateLimitCall)
    (call : RateLimitCall) :
    bucketsAfter (earlier ++ [call]) =
      (evaluateReceptionistRateLimit (bucketsAfter earlier) call).2 := by
  unfold bucketsAfter
  rw [List.foldl_append, List.foldl_cons, List.foldl_nil]

/-! ## What the buckets know of the run -/

section Runs

variable {key : JsString} {limit : Nat} {windowMs : Int}
  {calls earlier : List RateLimitCall} {call : RateLimitCall}

theorem ofKey_append_of_eq (isKey : call.key = key) :
    ofKey key (earlier ++ [call]) = ofKey key earlier ++ [call] := by
  unfold ofKey
  simp [isKey]

theorem ofKey_append_of_ne (other : call.key ≠ key) :
    ofKey key (earlier ++ [call]) = ofKey key earlier := by
  unfold ofKey
  simp [other]

/-- The instants of the calls of a key. -/
def callTimes (key : JsString) (calls : List RateLimitCall) : List Int :=
  (ofKey key calls).map (·.now)

/-- The buckets and the run agree about what is recent, now and later. -/
structure Tracks (key : JsString) (limit : Nat) (windowMs : Int)
    (calls : List RateLimitCall) : Prop where
  allowed : allowedTimes key calls =
    accepted limit windowMs (callTimes key calls)
  kept : ∀ later, (∀ time ∈ callTimes key calls, time ≤ later) →
    recent windowMs later (timestampsOf (bucketsAfter calls) key) =
      recent windowMs later (allowedTimes key calls)

theorem Regular.left {later : List RateLimitCall}
    (regular : Regular key limit windowMs (earlier ++ later)) :
    Regular key limit windowMs earlier := by
  have within : (ofKey key earlier).Sublist (ofKey key (earlier ++ later)) :=
    (List.sublist_append_left earlier later).filter _
  exact
    { limits := fun call member => regular.limits call (within.subset member)
      windows := fun call member => regular.windows call (within.subset member)
      ordered := regular.ordered.sublist (within.map _) }

theorem Regular.last (regular : Regular key limit windowMs (earlier ++ [call]))
    (isKey : call.key = key) :
    call.limit = limit ∧ call.windowMs = windowMs ∧
      (callTimes key earlier ++ [call.now]).Pairwise (· ≤ ·) := by
  have member : call ∈ ofKey key (earlier ++ [call]) := by
    rw [ofKey_append_of_eq isKey]
    exact List.mem_append_right _ (List.mem_singleton_self call)
  have ordered := regular.ordered
  rw [ofKey_append_of_eq isKey, List.map_append] at ordered
  exact ⟨regular.limits call member, regular.windows call member, ordered⟩

theorem le_of_ordered {times : List Int} {now : Int}
    (ordered : (times ++ [now]).Pairwise (· ≤ ·)) :
    ∀ time ∈ times, time ≤ now :=
  fun time member => (List.pairwise_append.mp ordered).2.2 time member now
    (List.mem_singleton_self now)

theorem allowedTimes_append (key : JsString) (earlier : List RateLimitCall)
    (call : RateLimitCall) :
    allowedTimes key (earlier ++ [call]) =
      if call.key = key ∧ (decisionAfter earlier call).allowed = true then
        allowedTimes key earlier ++ [call.now]
      else allowedTimes key earlier := by
  unfold allowedTimes
  rw [decisions_append, List.filter_append, List.map_append]
  by_cases counts : call.key = key ∧
      (decisionAfter earlier call).allowed = true
  · rw [if_pos counts, List.filter_cons_of_pos (by simpa using counts)]
    rfl
  · rw [if_neg counts, List.filter_cons_of_neg (by simpa using counts)]
    exact List.append_nil _

theorem allowed_iff_of_tracks (tracks : Tracks key limit windowMs earlier)
    (regular : Regular key limit windowMs (earlier ++ [call]))
    (isKey : call.key = key) :
    (decisionAfter earlier call).allowed = true ↔
      (recent windowMs call.now (allowedTimes key earlier)).length <
        limit := by
  obtain ⟨sameLimit, sameWindow, ordered⟩ := regular.last isKey
  unfold decisionAfter
  rw [evaluate_allowed, sameLimit, sameWindow, isKey,
    tracks.kept call.now (le_of_ordered ordered)]

theorem tracks_append (tracks : Tracks key limit windowMs earlier)
    (regular : Regular key limit windowMs (earlier ++ [call])) :
    Tracks key limit windowMs (earlier ++ [call]) := by
  by_cases isKey : call.key = key
  · obtain ⟨sameLimit, sameWindow, ordered⟩ := regular.last isKey
    have decided := allowed_iff_of_tracks tracks regular isKey
    have times : callTimes key (earlier ++ [call]) =
        callTimes key earlier ++ [call.now] := by
      unfold callTimes
      rw [ofKey_append_of_eq isKey, List.map_append]
      rfl
    have allows : allowedTimes key (earlier ++ [call]) =
        accept limit windowMs (allowedTimes key earlier) call.now := by
      rw [allowedTimes_append]
      unfold accept
      by_cases accepts : (recent windowMs call.now
          (allowedTimes key earlier)).length < limit
      · rw [if_pos accepts, if_pos ⟨isKey, decided.mpr accepts⟩]
      · rw [if_neg accepts, if_neg fun counts =>
          accepts (decided.mp counts.2)]
    refine ⟨?_, fun later ordered' => ?_⟩
    · rw [allows, times, accepted_append, tracks.allowed]
    · have notLater : call.now ≤ later := by
        rw [times] at ordered'
        exact ordered' call.now
          (List.mem_append_right _ (List.mem_singleton_self _))
      have kept := timestampsOf_evaluate (bucketsAfter earlier) call
      rw [sameLimit, sameWindow, isKey,
        tracks.kept call.now (le_of_ordered ordered)] at kept
      rw [bucketsAfter_append, kept, recent_accept_recent notLater, allows]
  · have times : callTimes key (earlier ++ [call]) =
        callTimes key earlier := by
      unfold callTimes
      rw [ofKey_append_of_ne isKey]
    have allows : allowedTimes key (earlier ++ [call]) =
        allowedTimes key earlier := by
      rw [allowedTimes_append, if_neg fun counts => isKey counts.1]
    refine ⟨?_, fun later ordered => ?_⟩
    · rw [allows, times, tracks.allowed]
    · rw [times] at ordered
      rw [bucketsAfter_append, timestampsOf_evaluate_of_ne isKey, allows]
      exact tracks.kept later ordered

theorem tracks_of_regular (regular : Regular key limit windowMs calls) :
    Tracks key limit windowMs calls := by
  induction calls using List.reverseRecOn with
  | nil =>
      exact ⟨rfl, fun _ _ => rfl⟩
  | append_singleton earlier call inductionHypothesis =>
      exact tracks_append (inductionHypothesis regular.left) regular

/-! ## The window -/

theorem allowed_iff (regular : Regular key limit windowMs (earlier ++ [call]))
    (isKey : call.key = key) :
    (decisionAfter earlier call).allowed = true ↔
      (recent windowMs call.now (allowedTimes key earlier)).length < limit :=
  allowed_iff_of_tracks (tracks_of_regular regular.left) regular isKey

/-- A denial finds exactly `limit` recent calls. -/
theorem length_recent_of_not_allowed
    (regular : Regular key limit windowMs (earlier ++ [call]))
    (isKey : call.key = key)
    (denied : (decisionAfter earlier call).allowed = false) :
    (recent windowMs call.now (allowedTimes key earlier)).length = limit := by
  obtain ⟨_, _, ordered⟩ := regular.last isKey
  have full : ¬(recent windowMs call.now
      (allowedTimes key earlier)).length < limit := by
    rw [← allowed_iff regular isKey, denied]
    exact Bool.false_ne_true
  rw [(tracks_of_regular regular.left).allowed] at full ⊢
  exact length_recent_of_denied ordered (not_lt.mp full)

theorem countP_of_not_allowed
    (regular : Regular key limit windowMs (earlier ++ [call]))
    (isKey : call.key = key)
    (denied : (decisionAfter earlier call).allowed = false) :
    (allowedTimes key earlier).countP (fun time =>
        call.now - windowMs < time ∧ time ≤ call.now) = limit := by
  obtain ⟨_, _, ordered⟩ := regular.last isKey
  rw [countP_recent, length_recent_of_not_allowed regular isKey denied]
  rw [(tracks_of_regular regular.left).allowed]
  exact fun _ member => accepted_le ordered member

/-- A denial finds recent calls, and its reset is when the first of them
expires. -/
theorem resetAt_of_not_allowed (positive : 1 ≤ limit)
    (regular : Regular key limit windowMs (earlier ++ [call]))
    (isKey : call.key = key)
    (denied : (decisionAfter earlier call).allowed = false) :
    ∃ first rest,
      recent windowMs call.now (allowedTimes key earlier) = first :: rest ∧
        (decisionAfter earlier call).resetAt = first + windowMs := by
  obtain ⟨_, sameWindow, ordered⟩ := regular.last isKey
  have full := length_recent_of_not_allowed regular isKey denied
  have resetAt := evaluate_resetAt denied
  rw [sameWindow, isKey, (tracks_of_regular regular.left).kept call.now
    (le_of_ordered ordered)] at resetAt
  cases starts : recent windowMs call.now (allowedTimes key earlier) with
  | nil =>
      rw [starts, List.length_nil] at full
      omega
  | cons first rest =>
      rw [starts] at resetAt
      exact ⟨first, rest, rfl, resetAt⟩

theorem allowedTimes_sorted (regular : Regular key limit windowMs calls) :
    (allowedTimes key calls).Pairwise (· ≤ ·) := by
  rw [(tracks_of_regular regular).allowed]
  exact regular.ordered.sublist (accepted_sublist ..)

/-- Before the reset no call of the key is allowed. -/
theorem allowedTimes_of_before {denied : RateLimitCall} (positive : 1 ≤ limit)
    {between : List RateLimitCall}
    (regular : Regular key limit windowMs (earlier ++ denied :: between))
    (isKey : denied.key = key)
    (isDenied : (decisionAfter earlier denied).allowed = false)
    (before : ∀ call ∈ ofKey key between,
      call.now < (decisionAfter earlier denied).resetAt) :
    allowedTimes key (earlier ++ denied :: between) =
      allowedTimes key earlier := by
  have atDenial : Regular key limit windowMs (earlier ++ [denied]) := by
    rw [List.append_cons] at regular
    exact regular.left
  induction between using List.reverseRecOn with
  | nil =>
      rw [allowedTimes_append, if_neg]
      rw [isDenied]
      exact fun counts => Bool.false_ne_true counts.2
  | append_singleton between call inductionHypothesis =>
      rw [← List.cons_append, ← List.append_assoc] at regular ⊢
      have unchanged := inductionHypothesis regular.left fun other member =>
        before other (by
          unfold ofKey at member ⊢
          rw [List.filter_append]
          exact List.mem_append_left _ member)
      rw [allowedTimes_append, unchanged, if_neg]
      intro counts
      have isRecent := (allowed_iff regular counts.1).mp counts.2
      rw [unchanged] at isRecent
      obtain ⟨first, rest, starts, resetAt⟩ :=
        resetAt_of_not_allowed positive atDenial isKey isDenied
      have early : call.now < first + windowMs := by
        rw [← resetAt]
        apply before call
        rw [ofKey_append_of_eq counts.1]
        exact List.mem_append_right _ (List.mem_singleton_self _)
      have stays := length_recent_le_of_before
        (allowedTimes_sorted atDenial.left) starts early
      rw [length_recent_of_not_allowed atDenial isKey isDenied] at stays
      omega

theorem allowed_of_reset {denied next : RateLimitCall}
    (positive : 1 ≤ limit) {between : List RateLimitCall}
    (regular : Regular key limit windowMs
      (earlier ++ denied :: between ++ [next]))
    (isKey : denied.key = key) (nextKey : next.key = key)
    (isDenied : (decisionAfter earlier denied).allowed = false)
    (before : ∀ call ∈ ofKey key between,
      call.now < (decisionAfter earlier denied).resetAt)
    (after : (decisionAfter earlier denied).resetAt ≤ next.now) :
    (decisionAfter (earlier ++ denied :: between) next).allowed = true := by
  have atDenial : Regular key limit windowMs (earlier ++ [denied]) := by
    have whole := regular.left
    rw [List.append_cons] at whole
    exact whole.left
  obtain ⟨first, rest, starts, resetAt⟩ :=
    resetAt_of_not_allowed positive atDenial isKey isDenied
  obtain ⟨_, _, ordered⟩ := regular.last nextKey
  have notBefore : denied.now ≤ next.now := by
    apply le_of_ordered ordered
    unfold callTimes ofKey
    apply List.mem_map.mpr
    refine ⟨denied, List.mem_filter.mpr ⟨?_, beq_iff_eq.mpr isKey⟩, rfl⟩
    exact List.mem_append_right _ List.mem_cons_self
  rw [allowed_iff regular nextKey,
    allowedTimes_of_before positive regular.left isKey isDenied before]
  have fewer := length_recent_lt_of_after notBefore starts
    (resetAt ▸ after)
  rw [length_recent_of_not_allowed atDenial isKey isDenied] at fewer
  exact fewer

theorem evaluate_of_same {buckets others : Buckets}
    (same : buckets.get call.key = others.get call.key) :
    (evaluateReceptionistRateLimit buckets call).1 =
        (evaluateReceptionistRateLimit others call).1 ∧
      (evaluateReceptionistRateLimit buckets call).2.get call.key =
        (evaluateReceptionistRateLimit others call).2.get call.key := by
  have sameTimes : timestampsOf buckets call.key =
      timestampsOf others call.key := by
    unfold timestampsOf
    rw [same]
  unfold evaluateReceptionistRateLimit
  rw [sameTimes]
  by_cases full : call.limit ≤ ((timestampsOf others call.key).filter
      fun timestamp => call.now - timestamp < call.windowMs).length
  · simp only [if_pos full, JsMap.get_set, if_true, true_and]
  · simp only [if_neg full, JsMap.get_set, if_true, true_and]

/-- Buckets that agree about the key decide its calls alike. -/
theorem decisionsFrom_ofKey {buckets others : Buckets}
    (same : buckets.get key = others.get key) (calls : List RateLimitCall) :
    (decisionsFrom buckets calls).filter (·.1.key == key) =
      decisionsFrom others (ofKey key calls) := by
  induction calls generalizing buckets others with
  | nil =>
      rfl
  | cons call rest inductionHypothesis =>
      unfold ofKey
      rw [decisionsFrom]
      by_cases isKey : call.key = key
      · rw [List.filter_cons_of_pos (by simpa using isKey),
          List.filter_cons_of_pos (by simpa using isKey), decisionsFrom]
        rw [← isKey] at same
        obtain ⟨sameDecision, sameBucket⟩ := evaluate_of_same same
        rw [isKey] at sameBucket
        rw [sameDecision, inductionHypothesis sameBucket]
        rfl
      · rw [List.filter_cons_of_neg (by simpa using isKey),
          List.filter_cons_of_neg (by simpa using isKey)]
        apply inductionHypothesis
        rw [get_evaluate_of_ne isKey, same]

end Runs

/-! ## The rate limit -/

/-- What the calls of a key are told in a run. -/
structure ExactWindow (key : JsString) (limit : Nat) (windowMs : Int)
    (calls : List RateLimitCall) : Prop where
  bounded : ∀ start,
    (allowedTimes key calls).countP (fun time =>
        start ≤ time ∧ time < start + windowMs) ≤ limit ∧
      (allowedTimes key calls).countP (fun time =>
        start < time ∧ time ≤ start + windowMs) ≤ limit
  denials : ∀ earlier call later, calls = earlier ++ call :: later →
    call.key = key → (decisionAfter earlier call).allowed = false →
    (allowedTimes key earlier).countP (fun time =>
      call.now - windowMs < time ∧ time ≤ call.now) = limit
  resets : ∀ earlier denied between next later,
    calls = earlier ++ denied :: (between ++ next :: later) →
    denied.key = key → next.key = key →
    (decisionAfter earlier denied).allowed = false →
    (∀ call ∈ ofKey key between,
      call.now < (decisionAfter earlier denied).resetAt) →
    (decisionAfter earlier denied).resetAt ≤ next.now →
    (decisionAfter (earlier ++ denied :: between) next).allowed = true
  independent : (decisions calls).filter (·.1.key == key) =
    decisions (ofKey key calls)

/-- In every run the calls of a key are let through by an exact sliding
window. -/
theorem evaluateReceptionistRateLimit_exactWindow {key : JsString}
    {limit : Nat} {windowMs : Int} {calls : List RateLimitCall}
    (positive : 1 ≤ limit) (regular : Regular key limit windowMs calls) :
    ExactWindow key limit windowMs calls := by
  refine ⟨?_, ?_, ?_, decisionsFrom_ofKey rfl calls⟩
  · intro start
    rw [(tracks_of_regular regular).allowed]
    exact ⟨countP_accepted_le (narrow_from start) _,
      countP_accepted_le (narrow_upTo start) _⟩
  · intro earlier call later split isKey denied
    rw [split, List.append_cons] at regular
    exact countP_of_not_allowed regular.left isKey denied
  · intro earlier denied between next later split isKey nextKey isDenied
      before after
    rw [split, ← List.cons_append, ← List.append_assoc,
      List.append_cons] at regular
    exact allowed_of_reset positive regular.left isKey nextKey isDenied before
      after

/-- Six calls in a burst, and one ten minutes after the first. -/
def burst : List RateLimitCall :=
  [0, 1, 2, 3, 4, 5, 600000].map fun now =>
    { input :=
        { key := js "burst-test"
          now := some now }
      clock := 0 }

theorem burst_exactWindow :
    1 ≤ 5 ∧ Regular (js "burst-test") 5 600000 burst ∧
      ExactWindow (js "burst-test") 5 600000 burst := by
  have regular : Regular (js "burst-test") 5 600000 burst :=
    { limits := by decide
      windows := by decide
      ordered := by decide }
  exact ⟨by decide, regular,
    evaluateReceptionistRateLimit_exactWindow (by decide) regular⟩

end BidayaxExecutive.Receptionist
