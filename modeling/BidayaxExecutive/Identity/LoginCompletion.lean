import BidayaxExecutive.Identity.LoginExchange

/-!
# Completed logins

A login that is completed has consumed the row of its start, and no later
request exchanges it again.
-/

namespace BidayaxExecutive.Identity

open BidayaxExecutive.Runtime JsString
open BidayaxExecutive.Library.Transactions
open BidayaxExecutive.Library.Guards
open BidayaxExecutive.Library.Scripts
open BidayaxExecutive.Library.Runs

/-! ## Rows that stay apart -/

/-- The ids and the token hashes of the rows are keys. -/
structure LoginsKeyed (world : World) : Prop where
  ids : TransactionsKeyed world.database.transactions
  tokens : (world.database.transactions.map (·.transactionTokenHash)).Nodup

section Keys

variable {deployment : Deployment} {world : World}

theorem consumed_transactionTokenHashes (input : LoginInput)
    (transactions : List StoredOAuthTransaction) :
    (consumed input transactions).map (·.transactionTokenHash) =
      transactions.map (·.transactionTokenHash) := by
  unfold consumed
  rw [List.map_map]
  apply List.map_congr_left
  intro row _
  rw [Function.comp_apply]
  split_ifs
  · rfl
  · rfl

theorem LoginsKeyed.idle {next : World} (keyed : LoginsKeyed world)
    (idle : Idle world next) : LoginsKeyed next := by
  have rows := (Prod.mk.inj idle).2
  constructor
  · rw [rows]
    exact keyed.ids
  · rw [rows]
    exact keyed.tokens

theorem LoginsKeyed.startLogin (keyed : LoginsKeyed world)
    (login : LoginStartRequest) :
    LoginsKeyed (deployment.startLoginResponse login world).2 := by
  rcases startLoginResponse_cases deployment login world with
    ⟨next, ended, idle⟩ | ⟨redirect, row, next, ended, starts⟩
  · rw [ended]
    exact keyed.idle idle
  · rw [ended]
    constructor
    · rw [TransactionsKeyed, starts.rows, List.map_append, List.nodup_append]
      refine ⟨keyed.ids, List.nodup_singleton _, ?_⟩
      intro id known other added
      obtain ⟨old, member, rfl⟩ := List.mem_map.mp known
      rw [List.map_singleton, List.mem_singleton] at added
      rw [added]
      exact (starts.fresh old member).1
    · rw [starts.rows, List.map_append, List.nodup_append]
      refine ⟨keyed.tokens, List.nodup_singleton _, ?_⟩
      intro hash known other added
      obtain ⟨old, member, rfl⟩ := List.mem_map.mp known
      rw [List.map_singleton, List.mem_singleton] at added
      rw [added]
      exact (starts.fresh old member).2

theorem LoginsKeyed.callback (keyed : LoginsKeyed world)
    (callback : CallbackRequest) :
    LoginsKeyed (deployment.callbackResponse callback world).2 := by
  rcases callbackResponse_cases callback world with
    ⟨idle, _⟩ | ⟨input, transaction, codeVerifier, asks⟩
  · exact keyed.idle idle
  · rcases asks.rows with consumes | keeps
    · constructor
      · rw [TransactionsKeyed, consumes, consumed_transactionIds]
        exact keyed.ids
      · rw [consumes, consumed_transactionTokenHashes]
        exact keyed.tokens
    · constructor
      · rw [keeps]
        exact keyed.ids
      · rw [keeps]
        exact keyed.tokens

theorem LoginsKeyed.afterRequest (keyed : LoginsKeyed world)
    (request : IdentityRequest) :
    LoginsKeyed (deployment.afterRequest world request) := by
  cases request with
  | startLogin login =>
      exact keyed.startLogin login
  | callback callback =>
      exact keyed.callback callback
  | webhook input =>
      exact keyed.idle (idle_webhook input)
  | session timed =>
      exact keyed.idle (idle_session timed)

theorem keyed_worldAfter (deployment : Deployment)
    (database : IdentityDatabase) (requests : List IdentityRequest) :
    LoginsKeyed (deployment.worldAfter database requests) := by
  apply foldl_history fun _ => LoginsKeyed
  · exact ⟨List.nodup_nil, List.nodup_nil⟩
  · exact fun _ _ request keyed => keyed.afterRequest request

end Keys

/-! ## Completed logins -/

/-- A callback removes no row. -/
theorem exists_mem_consumed {transactions : List StoredOAuthTransaction}
    {row : StoredOAuthTransaction} (member : row ∈ transactions)
    (input : LoginInput) :
    ∃ kept ∈ consumed input transactions,
      kept.transactionId = row.transactionId := by
  have listed : row.transactionId ∈ transactions.map (·.transactionId) :=
    List.mem_map_of_mem member
  rw [← consumed_transactionIds input] at listed
  exact List.mem_map.mp listed

/-- The login is over: its row is there and consumed. -/
structure Over (transactionId : JsString) (exchanges : List ProviderExchange)
    (world : World) : Prop where
  known : ∃ row ∈ world.database.transactions,
    row.transactionId = transactionId
  closed : ∀ row ∈ world.database.transactions,
    row.transactionId = transactionId → row.consumedAt.isSome = true
  asked : exchangesFor transactionId world = exchanges

section Completed

variable {deployment : Deployment} {transactionId : JsString}
  {exchanges : List ProviderExchange} {world : World}

theorem Over.idle {next : World}
    (concluded : Over transactionId exchanges world) (idle : Idle world next) :
    Over transactionId exchanges next := by
  have parts := Prod.mk.inj idle
  constructor
  · rw [parts.2]
    exact concluded.known
  · rw [parts.2]
    exact concluded.closed
  · rw [exchangesFor, parts.1]
    exact concluded.asked

theorem Over.startLogin (concluded : Over transactionId exchanges world)
    (login : LoginStartRequest) :
    Over transactionId exchanges
      (deployment.startLoginResponse login world).2 := by
  rcases startLoginResponse_cases deployment login world with
    ⟨next, ended, idle⟩ | ⟨redirect, added, next, ended, starts⟩
  · rw [ended]
    exact concluded.idle idle
  · rw [ended]
    obtain ⟨row, member, isIt⟩ := concluded.known
    constructor
    · rw [starts.rows]
      exact ⟨row, List.mem_append_left _ member, isIt⟩
    · intro other otherMember otherIsIt
      rw [starts.rows] at otherMember
      rcases List.mem_append.mp otherMember with old | new
      · exact concluded.closed other old otherIsIt
      · rw [List.mem_singleton.mp new, ← isIt] at otherIsIt
        exact absurd otherIsIt.symm (starts.fresh row member).1
    · rw [exchangesFor, starts.exchanges]
      exact concluded.asked

theorem Over.callback (concluded : Over transactionId exchanges world)
    (callback : CallbackRequest) :
    Over transactionId exchanges
      (deployment.callbackResponse callback world).2 := by
  rcases callbackResponse_cases callback world with
    ⟨idle, _⟩ | ⟨input, transaction, codeVerifier, asks⟩
  · exact concluded.idle idle
  · have isOpen := List.find?_some asks.reaches.found
    simp only [isConsumable, Bool.and_eq_true, Option.isNone_iff_eq_none]
      at isOpen
    have other : transaction.transactionId ≠ transactionId := by
      intro isIt
      have closed := concluded.closed transaction
        (List.mem_of_find?_eq_some asks.reaches.found) isIt
      rw [isOpen.1.2] at closed
      cases closed
    constructor
    · obtain ⟨row, member, isIt⟩ := concluded.known
      rcases asks.rows with consumes | keeps
      · obtain ⟨kept, keptMember, same⟩ := exists_mem_consumed member input
        rw [consumes]
        exact ⟨kept, keptMember, same.trans isIt⟩
      · rw [keeps]
        exact ⟨row, member, isIt⟩
    · rcases asks.rows with consumes | keeps
      · rw [consumes]
        exact closed_consumed concluded.closed
      · rw [keeps]
        exact concluded.closed
    · rw [exchangesFor_asked_of_ne asks.exchanges other]
      exact concluded.asked

variable (deployment) in
theorem Over.afterRequests (concluded : Over transactionId exchanges world)
    (requests : List IdentityRequest) :
    Over transactionId exchanges
      (requests.foldl deployment.afterRequest world) := by
  apply foldl_history fun _ => Over transactionId exchanges
  · exact concluded
  · intro _ middle request holds
    cases request with
    | startLogin login =>
        exact holds.startLogin login
    | callback callback =>
        exact holds.callback callback
    | webhook input =>
        exact holds.idle (idle_webhook input)
    | session timed =>
        exact holds.idle (idle_session timed)

/-- What is sent back is on an allowed origin, or the page that is meant
without a request. -/
theorem origin_of_loginReturnTo {requested : Option JsString}
    {returnTo origin : JsString}
    (returns : deployment.loginReturnTo requested = some returnTo)
    (parsed : deployment.resolver.origin returnTo = some origin) :
    origin ∈ deployment.environment.allowedRedirectOrigins ∨
      deployment.resolver.resolve Deployment.defaultReturnTo
        deployment.environment.applicationBaseUrl = some origin := by
  unfold Deployment.loginReturnTo at returns
  by_cases allowed : isAllowedReturnTo deployment.resolver.toUrlParser
      deployment.environment requested = true
  · rw [if_pos allowed] at returns
    obtain ⟨value, rfl, written⟩ := Option.bind_eq_some_iff.mp returns
    obtain ⟨_, allowedOrigin, member, resolved⟩ :=
      (isAllowedReturnTo_iff _ _).mp allowed
    have same := deployment.resolver.origin_href _ _ _ written
    rw [parsed, resolved] at same
    rw [Option.some.inj same]
    exact .inl member
  · rw [if_neg allowed] at returns
    have same := deployment.resolver.origin_href _ _ _ returns
    rw [parsed] at same
    exact .inr same.symm

/-- How a login ends: at the page it was started for, for good. -/
structure Concludes (deployment : Deployment) (database : IdentityDatabase)
    (earlier : List IdentityRequest) (callback : CallbackRequest)
    (returnTo : JsString) (login : LoginStartRequest) (input : LoginInput) :
    Prop where
  started : .startLogin login ∈ earlier
  read : deployment.readCallback callback = .ok (some input)
  presents : Presents login input
  returns : deployment.loginReturnTo login.returnTo = some returnTo
  allowed : ∀ origin, deployment.resolver.origin returnTo = some origin →
    origin ∈ deployment.environment.allowedRedirectOrigins ∨
      deployment.resolver.resolve Deployment.defaultReturnTo
        deployment.environment.applicationBaseUrl = some origin
  once : ∀ later,
    exchangesFor (randomUrlToken login.drawn.transactionId)
        (deployment.worldAfter database
          (earlier ++ .callback callback :: later)) =
      exchangesFor (randomUrlToken login.drawn.transactionId)
          (deployment.worldAfter database earlier) ++
        [redemption login input]

/-- A completed login goes back to where it was started for, and no later
request has the provider asked about it again. -/
theorem completedLogin_concludes (deployment : Deployment)
    (database : IdentityDatabase) (earlier : List IdentityRequest)
    (callback : CallbackRequest) (completed : CompletedLogin)
    (completes : (deployment.callbackResponse callback
      (deployment.worldAfter database earlier)).1 = .completed completed) :
    ∃ login input, Concludes deployment database earlier callback
      completed.returnTo login input := by
  have history := history_worldAfter deployment database earlier
  have keyed := keyed_worldAfter deployment database earlier
  rcases callbackResponse_cases callback
      (deployment.worldAfter database earlier) with
    ⟨_, never⟩ | ⟨input, transaction, codeVerifier, asks⟩
  · exact absurd completes (never completed)
  · obtain ⟨consumes, sameReturnTo⟩ := asks.completed completed completes
    have sameEnvironment := (readFrom_of_readCallback asks.read).environment
    have isRow := List.mem_of_find?_eq_some asks.reaches.found
    obtain ⟨login, started, stored⟩ := history.rows transaction isRow
    obtain ⟨presents, redeems⟩ := stored.redeemed sameEnvironment asks.reaches
    have returns : deployment.loginReturnTo login.returnTo =
        some completed.returnTo := by
      rw [sameReturnTo]
      exact stored.returnTo
    refine ⟨login, input,
      { started := started
        read := asks.read
        presents := presents
        returns := returns
        allowed := fun origin => origin_of_loginReturnTo returns
        once := fun later => ?_ }⟩
    have concluded : Over (randomUrlToken login.drawn.transactionId)
        (exchangesFor (randomUrlToken login.drawn.transactionId)
            (deployment.worldAfter database earlier) ++
          [redemption login input])
        (deployment.callbackResponse callback
          (deployment.worldAfter database earlier)).2 := by
      rw [← stored.transactionId, redeems]
      constructor
      · rw [consumes]
        exact exists_mem_consumed isRow input
      · rw [consumes]
        exact closed_of_found keyed.ids asks.reaches.found
      · exact exchangesFor_asked_of_eq asks.exchanges rfl
    have ended := (concluded.afterRequests deployment later).asked
    rw [Deployment.worldAfter, List.foldl_append, List.foldl_cons]
    exact ended

end Completed

end BidayaxExecutive.Identity
