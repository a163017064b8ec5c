import BidayaxExecutive.Identity.LoginRequests

/-!
# Login exchanges

What was drawn for a login is stored as hashes and under encryption, and the
callback that ends the login has to present it: every exchange with the provider
answers an earlier login.
-/

namespace BidayaxExecutive.Identity

open BidayaxExecutive.Runtime JsString
open BidayaxExecutive.Library.Transactions
open BidayaxExecutive.Library.Guards
open BidayaxExecutive.Library.Scripts
open BidayaxExecutive.Library.Runs

/-! ## What does not touch logins -/

section Keeping

variable {environment : IdentityEnvironment}

theorem transactions_updateSessions
    (selected : StoredApplicationSession → Bool)
    (set : StoredApplicationSession → StoredApplicationSession)
    (database : IdentityDatabase) :
    (updateSessions selected set database).2.transactions =
      database.transactions := by
  apply statement_keeps (·.transactions)
  intro database value written outcome
  rcases bind_eq_ok.mp outcome with ⟨_, _, result⟩
  rw [← (Prod.mk.inj (Except.ok.inj result)).2]

/-- Both statements that update one session ask how many rows they found. -/
theorem transactions_updateOne
    (selected : StoredApplicationSession → Bool)
    (set : StoredApplicationSession → StoredApplicationSession)
    (database : IdentityDatabase) :
    ((do
      let count ← updateSessions selected set
      return count == 1 : Statement Bool) database).2.transactions =
        database.transactions := by
  rw [← transactions_updateSessions selected set database, bind_apply]
  rcases updateSessions selected set database with ⟨outcome, written⟩
  cases outcome with
  | error failure =>
      rfl
  | ok count =>
      rfl

theorem keeps_revokeSession (sessionId : JsString) (now : TimeValue) :
    Script.Keeps loginRecord (execute (revokeSession sessionId now)) :=
  keeps_execute (transactions_updateOne _ _)

theorem keeps_admitSession (host : Host) (session : ApplicationSession)
    (now : TimeValue) :
    Script.Keeps loginRecord (admitSession host environment session now) := by
  unfold admitSession
  apply Script.keeps_bind (keeps_execute fun _ => rfl)
  intro found
  cases found with
  | none =>
      exact Script.keeps_done _
  | some identity =>
      dsimp only
      split_ifs
      · exact Script.keeps_done _
      · apply Script.keeps_bind (keeps_execute fun _ => rfl)
        intro memberships
        cases selectMembership memberships session.tenantId with
        | none =>
            exact Script.keeps_done _
        | some membership =>
            apply Script.keeps_bind (keeps_execute fun _ => rfl)
            intro grants
            apply Script.keeps_bind (Script.keeps_done _)
            intro idleExpiresAt
            apply Script.keeps_bind
            · exact keeps_execute (transactions_updateOne _ _)
            · intro _
              apply Script.keeps_bind (Script.keeps_done _)
              exact fun _ => Script.keeps_done _

theorem keeps_resolveApplicationSession (host : Host) (now : TimeValue)
    (sessionToken : Option JsString) :
    Script.Keeps loginRecord
      (resolveApplicationSession host environment now sessionToken) := by
  unfold resolveApplicationSession
  cases sessionToken.filter (!·.isEmpty) with
  | none =>
      exact Script.keeps_done _
  | some token =>
      apply Script.keeps_bind (keeps_execute fun _ => rfl)
      intro found
      cases found with
      | none =>
          exact Script.keeps_done _
      | some session =>
          dsimp only
          split_ifs
          · apply Script.keeps_bind (keeps_revokeSession _ _)
            exact fun _ => Script.keeps_done _
          · exact keeps_admitSession host session now

theorem keeps_rotateApplicationSession (input : RotationInput) :
    Script.Keeps loginRecord (rotateApplicationSession input) := by
  apply Script.keeps_bind (keeps_revokeSession _ _)
  intro revoked
  split_ifs
  · exact Script.keeps_done _
  · apply Script.keeps_bind (keeps_issueApplicationSession _)
    intro issued
    apply Script.keeps_bind (keeps_saveAuditEvents _)
    exact fun _ => Script.keeps_done _

theorem keeps_callService (host : Host) (now : TimeValue)
    (call : SessionCall) :
    Script.Keeps loginRecord (callService host environment now call) := by
  cases call with
  | resolve sessionToken =>
      apply Script.keeps_bind
        (keeps_resolveApplicationSession host now sessionToken)
      exact fun _ => Script.keeps_done _
  | rotate drawn session =>
      apply Script.keeps_bind (keeps_rotateApplicationSession _)
      exact fun _ => Script.keeps_done _
  | revoke sessionId tenantId userId =>
      apply Script.keeps_bind (keeps_revokeSession _ _)
      exact fun revoked => keeps_saveAuditEvents _

theorem keeps_revokeProviderSession (event : VerifiedProviderWebhook)
    (now : TimeValue) :
    Script.Keeps loginRecord (revokeProviderSession event now) := by
  unfold revokeProviderSession
  cases (providerSessionFromWebhook event.data).filter (!·.isEmpty) with
  | none =>
      exact Script.keeps_done _
  | some providerSessionId =>
      apply Script.keeps_bind
      · exact keeps_execute (transactions_updateSessions _ _)
      · exact fun revokedCount => keeps_saveAuditEvents _

theorem keeps_disableProviderUser (event : VerifiedProviderWebhook)
    (now : TimeValue) :
    Script.Keeps loginRecord (disableProviderUser event now) := by
  unfold disableProviderUser
  cases (providerSubjectFromWebhook event.data).filter (!·.isEmpty) with
  | none =>
      exact Script.keeps_done _
  | some subject =>
      apply Script.keeps_bind
      · apply keeps_execute
        apply statement_keeps (·.transactions)
        intro database value written outcome
        cases found : database.identities.find?
            (·.providerSubject == subject) with
        | none =>
            rw [found] at outcome
            rw [← (Prod.mk.inj (Except.ok.inj outcome)).2]
        | some existing =>
            rw [found] at outcome
            rw [← (Prod.mk.inj (Except.ok.inj outcome)).2]
            unfold revokeIdentitySessionsOnAccessChange
            split_ifs <;> rfl
      · intro disabled
        cases disabled with
        | none =>
            exact Script.keeps_done _
        | some userId =>
            dsimp only
            split_ifs
            · exact Script.keeps_done _
            · exact keeps_saveAuditEvents _

theorem keeps_processIdentityWebhook (input : WebhookInput) :
    Script.Keeps loginRecord (processIdentityWebhook input) := by
  apply Script.keeps_bind (Script.keeps_done _)
  intro event
  apply Script.keeps_bind
  · apply keeps_execute
    apply statement_keeps (·.transactions)
    intro database value written outcome
    split_ifs at outcome <;>
      rw [← (Prod.mk.inj (Except.ok.inj outcome)).2]
  · intro saved
    cases saved with
    | false =>
        exact Script.keeps_done _
    | true =>
        have ends {inputs : List IdentityAuditInput}
            {outcome : WebhookOutcome} :
            Script.Keeps loginRecord (do
              saveAuditEvents inputs
              return outcome) :=
          Script.keeps_bind (keeps_saveAuditEvents inputs)
            fun _ => Script.keeps_done _
        have deletes {rest : Service WebhookOutcome}
            (keeps : Script.Keeps loginRecord rest) :
            Script.Keeps loginRecord
              (if event.eventType = js "user.deleted" then do
                disableProviderUser event input.now
                rest
              else rest) := by
          by_cases deleted : event.eventType = js "user.deleted"
          · rw [if_pos deleted]
            apply Script.keeps_bind
            · exact keeps_disableProviderUser event input.now
            · exact fun _ => keeps
          · rw [if_neg deleted]
            exact keeps
        by_cases revoked : event.eventType = js "session.revoked"
        · simp only [Bool.not_true, Bool.false_eq_true, if_false,
            if_pos revoked]
          apply Script.keeps_bind
          · exact keeps_revokeProviderSession event input.now
          · exact fun _ => deletes ends
        · simp only [Bool.not_true, Bool.false_eq_true, if_false,
            if_neg revoked]
          exact deletes ends

theorem loginRecord_afterService {service : Service Unit}
    (keeps : Script.Keeps loginRecord service) (transactional : Bool)
    (world : World) :
    loginRecord (afterService transactional service world) =
      loginRecord world := by
  have kept := keeps world
  unfold afterService withIdentityTransaction
  rcases ran : service.run world with ⟨outcome, final⟩
  rw [ran] at kept
  cases transactional with
  | false =>
      exact kept
  | true =>
      cases outcome with
      | ok value =>
          exact kept
      | error failure =>
          exact Prod.ext (Prod.mk.inj kept).1 rfl

end Keeping

/-! ## What a request does to logins -/

/-- The row is the one that the start of the login stored, consumed or not. -/
structure StoredFor (deployment : Deployment) (login : LoginStartRequest)
    (row : StoredOAuthTransaction) : Prop where
  transactionId : row.transactionId = randomUrlToken login.drawn.transactionId
  token : row.transactionTokenHash =
    sha256 (randomUrlToken login.drawn.transactionToken)
  state : row.stateHash = sha256 (randomUrlToken login.drawn.state)
  nonce : row.nonceHash = sha256 (randomUrlToken login.drawn.nonce)
  secret : row.codeVerifierCiphertext =
    sealSecret login.drawn.iv (randomUrlToken login.drawn.codeVerifier)
      deployment.environment.transactionEncryptionKey
  returnTo : deployment.loginReturnTo login.returnTo = some row.returnTo
  expires : row.expiresAt.milliseconds = login.now.milliseconds + 600000

/-- The callback presents what was drawn for the login, before it expires. -/
structure Presents (login : LoginStartRequest) (input : LoginInput) :
    Prop where
  token : sha256 input.transactionToken =
    sha256 (randomUrlToken login.drawn.transactionToken)
  state : sha256 input.state = sha256 (randomUrlToken login.drawn.state)
  inTime : input.now.milliseconds < login.now.milliseconds + 600000

/-- The provider is asked to redeem the code of the callback for the verifier
of the login. -/
def redemption (login : LoginStartRequest) (input : LoginInput) :
    ProviderExchange where
  transactionId := randomUrlToken login.drawn.transactionId
  call :=
    { code := input.code
      codeVerifier := (createPkcePair login.drawn.codeVerifier).verifier
      expectedNonceHash := sha256 (randomUrlToken login.drawn.nonce)
      returnedNonce := input.returnedNonce
      ipAddress := input.ipAddress.filter (!·.isEmpty)
      userAgent := input.userAgent.filter (!·.isEmpty) }

section Requests

variable {deployment : Deployment}

/-- What a request leaves behind that starts no login and completes none. -/
abbrev Idle (world next : World) : Prop :=
  loginRecord next = loginRecord world

/-- The row that the start of a login adds. -/
structure Starts (deployment : Deployment) (login : LoginStartRequest)
    (redirect : LoginRedirect) (row : StoredOAuthTransaction)
    (world next : World) : Prop where
  stored : StoredFor deployment login row
  unconsumed : row.consumedAt = none
  fresh : ∀ other ∈ world.database.transactions,
    other.transactionId ≠ row.transactionId ∧
      other.transactionTokenHash ≠ row.transactionTokenHash
  exchanges : next.exchanges = world.exchanges
  rows : next.database.transactions = world.database.transactions ++ [row]
  location : redirect.location =
    authorizationUrl deployment.environment login.drawn
  cookie : redirect.cookie = deployment.transactionCookie
    (randomUrlToken login.drawn.transactionToken)

theorem saved_of_saveOAuthTransaction {transaction : StoredOAuthTransaction}
    {database written : IdentityDatabase}
    (saved : saveOAuthTransaction transaction database = (.ok (), written)) :
    (∀ other ∈ database.transactions,
      other.transactionId ≠ transaction.transactionId ∧
        other.transactionTokenHash ≠ transaction.transactionTokenHash) ∧
      written.transactions = database.transactions ++ [transaction] := by
  have outcome := statement_eq_ok.mp saved
  by_cases late : ¬transaction.createdAt.milliseconds <
      transaction.expiresAt.milliseconds
  · rw [if_pos late] at outcome
    cases outcome
  · by_cases sameId : database.transactions.any
        (·.transactionId == transaction.transactionId) = true
    · rw [if_neg late, if_pos sameId] at outcome
      cases outcome
    · by_cases sameToken : database.transactions.any
          (·.transactionTokenHash == transaction.transactionTokenHash) = true
      · rw [if_neg late, if_neg sameId, if_pos sameToken] at outcome
        cases outcome
      · rw [if_neg late, if_neg sameId, if_neg sameToken] at outcome
        constructor
        · intro other member
          refine ⟨fun same => sameId ?_, fun same => sameToken ?_⟩
          · exact List.any_eq_true.mpr ⟨other, member, beq_iff_eq.mpr same⟩
          · exact List.any_eq_true.mpr ⟨other, member, beq_iff_eq.mpr same⟩
        · by_cases sameState : database.transactions.any
              (·.stateHash == transaction.stateHash) = true
          · rw [if_pos sameState] at outcome
            cases outcome
          · rw [if_neg sameState] at outcome
            rw [← (Prod.mk.inj (Except.ok.inj outcome)).2]

/-- `commit` or `rollback`. -/
theorem withIdentityTransaction_cases {α : Type} (operation : Service α)
    (world : World) :
    (∃ value final, Yields operation.run world value final ∧
        withIdentityTransaction operation world = (.ok value, final)) ∨
      ∃ failure final, operation.run world = (.error failure, final) ∧
        withIdentityTransaction operation world =
          (.error failure, { final with database := world.database }) := by
  unfold withIdentityTransaction Yields
  rcases ran : operation.run world with ⟨outcome, final⟩
  cases outcome with
  | ok value =>
      exact .inl ⟨value, final, rfl, rfl⟩
  | error failure =>
      exact .inr ⟨failure, final, rfl, rfl⟩

theorem exchanges_startIdentityLogin {environment : IdentityEnvironment}
    (input : LoginStartInput) :
    Script.Keeps World.exchanges (startIdentityLogin environment input) := by
  apply Script.keeps_bind (Script.keeps_done _)
  intro login
  apply Script.keeps_bind (fun _ => rfl)
  intro _
  apply Script.keeps_bind
  · exact fun world =>
      (Prod.mk.inj (keeps_saveAuditEvents _ world)).1
  · exact fun _ => Script.keeps_done _

/-- A start that ends has stored its row, and no row of its keys was there. -/
theorem starts_of_yields {login : LoginStartRequest}
    {input : LoginStartInput} {started : StartedLogin}
    {world final : World} (read : deployment.loginStart login = some input)
    (yields : Yields (startIdentityLogin deployment.environment input).run
      world started final) :
    ∃ row, Starts deployment login
      { location := started.authorizationUrl
        cookie := deployment.transactionCookie started.transactionToken }
      row world final := by
  obtain ⟨returnTo, resolved, same⟩ := Option.bind_eq_some_iff.mp read
  cases Option.some.inj same
  rcases Script.yields_run_bind.mp yields with ⟨start, middle, first, rest⟩
  rcases Script.yields_run_done.mp first with ⟨computed, rfl⟩
  rcases bind_eq_ok.mp computed with ⟨expiresAt, later, same⟩
  cases Except.ok.inj same
  rcases Script.yields_run_bind.mp rest with ⟨_, written, saved, rest⟩
  rcases Script.yields_run_bind.mp rest with ⟨_, audited, recorded, ended⟩
  rcases Script.yields_run_pure.mp ended with ⟨rfl, rfl⟩
  rcases yields_execute.mp saved with ⟨stored, sameExchanges⟩
  rcases saved_of_saveOAuthTransaction stored with ⟨fresh, rows⟩
  have parts := Prod.mk.inj ((keeps_saveAuditEvents _).yields recorded)
  refine ⟨_,
    { stored :=
        { transactionId := rfl
          token := rfl
          state := rfl
          nonce := rfl
          secret := rfl
          returnTo := resolved
          expires := secondsAfter_milliseconds later }
      unconsumed := rfl
      fresh := fresh
      exchanges := parts.1.trans sameExchanges.symm
      rows := parts.2.trans rows
      location := rfl
      cookie := rfl }⟩

variable (deployment) in
theorem startLoginResponse_cases (login : LoginStartRequest) (world : World) :
    (∃ next, deployment.startLoginResponse login world = (none, next) ∧
      Idle world next) ∨
    ∃ redirect row next,
      deployment.startLoginResponse login world = (some redirect, next) ∧
        Starts deployment login redirect row world next := by
  unfold Deployment.startLoginResponse
  cases read : deployment.loginStart login with
  | none =>
      exact .inl ⟨world, rfl, rfl⟩
  | some input =>
      rcases withIdentityTransaction_cases
          (startIdentityLogin deployment.environment input) world with
        ⟨started, final, yields, ended⟩ | ⟨failure, final, ran, ended⟩
      · rcases starts_of_yields read yields with ⟨row, starts⟩
        refine .inr ⟨_, row, final, ?_, starts⟩
        simp only [ended]
      · refine .inl ⟨{ final with database := world.database }, ?_, ?_⟩
        · simp only [ended]
        · have keeps : Script.Keeps World.exchanges
              (startIdentityLogin deployment.environment input) :=
            exchanges_startIdentityLogin input
          have kept := keeps world
          rw [ran] at kept
          exact Prod.ext kept rfl

theorem completed_of_yields {input : LoginInput}
    {transaction : StoredOAuthTransaction} {codeVerifier : JsString}
    {login : CompletedLogin} {world final : World}
    (reaches : Reaches deployment.platform world input transaction
      codeVerifier)
    (yields : Yields (completeIdentityLogin deployment.platform input).run
      world login final) :
    loginRecord final =
        loginRecord (asked world input transaction codeVerifier) ∧
      login.returnTo = transaction.returnTo := by
  unfold Yields at yields
  rw [run_of_reaches reaches] at yields
  constructor
  · have keeps : Script.Keeps loginRecord (answered deployment.platform input
        transaction
        (input.provider (callbackInput input transaction codeVerifier))) :=
      keeps_answered _
    have kept := keeps (asked world input transaction codeVerifier)
    rw [yields] at kept
    exact kept
  · cases answer : input.provider
        (callbackInput input transaction codeVerifier) with
    | error message =>
        rw [answer] at yields
        exact absurd yields Script.not_yields_run_fail
    | ok identity =>
        rw [answer] at yields
        rcases Script.yields_run_bind.mp yields with ⟨issued, middle, _, ended⟩
        rcases Script.yields_run_pure.mp ended with ⟨rfl, rfl⟩
        rfl

/-- The callback has found the row that it presents, and asks the provider. -/
structure Asks (deployment : Deployment) (request : CallbackRequest)
    (input : LoginInput) (transaction : StoredOAuthTransaction)
    (codeVerifier : JsString) (response : CallbackResponse)
    (world next : World) : Prop where
  read : deployment.readCallback request = .ok (some input)
  reaches : Reaches deployment.platform world input transaction codeVerifier
  exchanges : next.exchanges =
    (asked world input transaction codeVerifier).exchanges
  rows : next.database.transactions =
      consumed input world.database.transactions ∨
    next.database.transactions = world.database.transactions
  completed : ∀ login, response = .completed login →
    next.database.transactions =
        consumed input world.database.transactions ∧
      login.returnTo = transaction.returnTo

theorem idle_afterFailure (now : TimeValue) (stage reasonCode : JsString)
    (world : World) :
    Idle world (Deployment.afterFailure now stage reasonCode world) :=
  loginRecord_afterService (keeps_saveAuditEvents _) true world

theorem asks_of_reaches {request : CallbackRequest} {input : LoginInput}
    {transaction : StoredOAuthTransaction} {codeVerifier : JsString}
    {world : World} (read : deployment.readCallback request = .ok (some input))
    (reaches : Reaches deployment.platform world input transaction
      codeVerifier) :
    Asks deployment request input transaction codeVerifier
      (deployment.callbackResponse request world).1 world
      (deployment.callbackResponse request world).2 := by
  have left := afterCallback_of_reaches reaches rfl
  unfold Deployment.callbackResponse
  rw [read]
  rcases withIdentityTransaction_cases
      (completeIdentityLogin deployment.platform input) world with
    ⟨login, final, yields, ended⟩ | ⟨failure, final, ran, ended⟩
  · have kept := completed_of_yields reaches yields
    have parts := Prod.mk.inj kept.1
    simp only [ended]
    refine ⟨read, reaches, parts.1, .inl parts.2, fun other same => ?_⟩
    rw [← CallbackResponse.completed.inj same]
    exact ⟨parts.2, kept.2⟩
  · simp only [ended] at left ⊢
    have idle := Prod.mk.inj (idle_afterFailure request.now
      (js "callback_completion") (js "LOGIN_CALLBACK_FAILED")
      { final with database := world.database })
    exact
      { read := read
        reaches := reaches
        exchanges := idle.1.trans left.1
        rows := .inr idle.2
        completed := fun login absurdity => nomatch absurdity }

theorem callbackResponse_cases (request : CallbackRequest) (world : World) :
    (Idle world (deployment.callbackResponse request world).2 ∧
      ∀ login,
        (deployment.callbackResponse request world).1 ≠ .completed login) ∨
    ∃ input transaction codeVerifier,
      Asks deployment request input transaction codeVerifier
        (deployment.callbackResponse request world).1 world
        (deployment.callbackResponse request world).2 := by
  cases read : deployment.readCallback request with
  | error failure =>
      unfold Deployment.callbackResponse
      rw [read]
      exact .inl ⟨rfl, fun login absurdity => nomatch absurdity⟩
  | ok presented =>
      cases presented with
      | none =>
          unfold Deployment.callbackResponse
          rw [read]
          exact .inl ⟨idle_afterFailure _ _ _ world,
            fun login absurdity => nomatch absurdity⟩
      | some input =>
          by_cases found : ∃ transaction codeVerifier,
              Reaches deployment.platform world input transaction codeVerifier
          · rcases found with ⟨transaction, codeVerifier, reaches⟩
            exact .inr ⟨input, transaction, codeVerifier,
              asks_of_reaches read reaches⟩
          · have unreached : ∀ transaction codeVerifier,
                ¬Reaches deployment.platform world input transaction
                  codeVerifier :=
              fun transaction codeVerifier reaches =>
                found ⟨transaction, codeVerifier, reaches⟩
            rcases run_of_not_reaches unreached with
              ⟨failure, final, ran, same⟩
            have ended : withIdentityTransaction
                (completeIdentityLogin deployment.platform input) world =
                  (.error failure, { final with database := world.database }) := by
              unfold withIdentityTransaction
              rw [ran]
            unfold Deployment.callbackResponse
            rw [read]
            simp only [ended]
            refine .inl ⟨(idle_afterFailure _ _ _ _).trans ?_,
              fun login absurdity => nomatch absurdity⟩
            exact Prod.ext same rfl

/-- Only starts and callbacks touch logins. -/
theorem idle_webhook {world : World} (input : WebhookInput) :
    Idle world (deployment.afterRequest world (.webhook input)) :=
  loginRecord_afterService
    (Script.keeps_bind (keeps_processIdentityWebhook input)
      fun _ => Script.keeps_done _) true world

theorem idle_session {world : World} (timed : Timed SessionCall) :
    Idle world (deployment.afterRequest world (.session timed)) :=
  loginRecord_afterService (keeps_callService _ _ _) _ world

/-- The row of a login stays its row when it is consumed. -/
theorem StoredFor.consume {login : LoginStartRequest}
    {row : StoredOAuthTransaction} (stored : StoredFor deployment login row)
    (consumedAt : Option TimeValue) :
    StoredFor deployment login { row with consumedAt := consumedAt } :=
  { stored with }

/-- A row after a callback is a row before it, consumed or not. -/
theorem exists_of_mem_consumed {input : LoginInput}
    {transactions : List StoredOAuthTransaction}
    {row : StoredOAuthTransaction}
    (member : row ∈ consumed input transactions) :
    ∃ old ∈ transactions, ∃ consumedAt,
      row = { old with consumedAt := consumedAt } := by
  obtain ⟨old, oldMember, same⟩ := List.mem_map.mp member
  by_cases selected : isConsumable (sha256 input.transactionToken)
      (sha256 input.state) input.now old = true
  · rw [if_pos selected] at same
    exact ⟨old, oldMember, some input.now, same.symm⟩
  · rw [if_neg selected] at same
    exact ⟨old, oldMember, old.consumedAt, same.symm⟩

/-- Where the parameters of the callback come from. -/
structure ReadFrom (deployment : Deployment) (request : CallbackRequest)
    (input : LoginInput) : Prop where
  environment : input.environment = deployment.environment
  code : request.code = some input.code
  state : request.state = some input.state
  token : parseCookie request.cookie identityTransactionCookieName =
    .ok (some input.transactionToken)
  now : input.now = request.now
  provider : input.provider = request.provider

theorem readFrom_of_readCallback {request : CallbackRequest}
    {input : LoginInput}
    (read : deployment.readCallback request = .ok (some input)) :
    ReadFrom deployment request input := by
  obtain ⟨token, parsed, built⟩ := bind_eq_ok.mp read
  obtain ⟨code, codeSent, built⟩ :=
    Option.bind_eq_some_iff.mp (Except.ok.inj built)
  obtain ⟨state, stateSent, built⟩ := Option.bind_eq_some_iff.mp built
  obtain ⟨transactionToken, tokenSent, built⟩ :=
    Option.bind_eq_some_iff.mp built
  cases Option.some.inj built
  rw [(Option.filter_eq_some_iff.mp tokenSent).1] at parsed
  exact
    { environment := rfl
      code := (Option.filter_eq_some_iff.mp codeSent).1
      state := (Option.filter_eq_some_iff.mp stateSent).1
      token := parsed
      now := rfl
      provider := rfl }

/-- The callback that reaches the row of a login presents it, and its secret
comes back as it was drawn. -/
theorem StoredFor.redeemed {login : LoginStartRequest} {input : LoginInput}
    {transaction : StoredOAuthTransaction} {codeVerifier : JsString}
    {world : World} (stored : StoredFor deployment login transaction)
    (sameEnvironment : input.environment = deployment.environment)
    (reaches : Reaches deployment.platform world input transaction
      codeVerifier) :
    Presents login input ∧
      redemption login input =
        ⟨transaction.transactionId,
          callbackInput input transaction codeVerifier⟩ := by
  have consumable := List.find?_some reaches.found
  simp only [isConsumable, Bool.and_eq_true, beq_iff_eq,
    decide_eq_true_eq] at consumable
  obtain ⟨⟨⟨token, state⟩, _⟩, inTime⟩ := consumable
  rw [stored.expires] at inTime
  have readable := reaches.readable
  rw [stored.secret, sameEnvironment] at readable
  have opened : unsealSecret (sealSecret login.drawn.iv
      (randomUrlToken login.drawn.codeVerifier)
        deployment.environment.transactionEncryptionKey)
      deployment.environment.transactionEncryptionKey =
        some (randomUrlToken login.drawn.codeVerifier) :=
    unsealSecret_randomUrlToken _ _ _ (by decide)
  have drawn : codeVerifier = randomUrlToken login.drawn.codeVerifier :=
    Option.some.inj (readable.symm.trans opened)
  refine ⟨⟨token.symm.trans stored.token, state.symm.trans stored.state,
    inTime⟩, ?_⟩
  rw [drawn, stored.transactionId, redemption, callbackInput, stored.nonce]
  rfl

end Requests

/-! ## Histories -/

/-- The exchange redeems a login that had started when the callback came. -/
def Answers (deployment : Deployment) (requests : List IdentityRequest)
    (exchange : ProviderExchange) : Prop :=
  ∃ earlier login later callback input,
    requests = earlier ++ .startLogin login :: later ∧
      .callback callback ∈ later ∧
      deployment.readCallback callback = .ok (some input) ∧
      Presents login input ∧ exchange = redemption login input

/-- Every row and every exchange goes back to the start of a login. -/
structure History (deployment : Deployment) (requests : List IdentityRequest)
    (world : World) : Prop where
  rows : ∀ row ∈ world.database.transactions, ∃ login,
    .startLogin login ∈ requests ∧ StoredFor deployment login row
  exchanges : ∀ exchange ∈ world.exchanges,
    Answers deployment requests exchange

section Histories

variable {deployment : Deployment} {requests : List IdentityRequest}
  {world : World}

theorem Answers.append {exchange : ProviderExchange}
    (answers : Answers deployment requests exchange)
    (request : IdentityRequest) :
    Answers deployment (requests ++ [request]) exchange := by
  obtain ⟨earlier, login, later, callback, input, rfl, member, rest⟩ := answers
  refine ⟨earlier, login, later ++ [request], callback, input, ?_,
    List.mem_append_left _ member, rest⟩
  rw [List.append_assoc, List.cons_append]

theorem answers_callback {login : LoginStartRequest}
    {callback : CallbackRequest} {input : LoginInput}
    (started : .startLogin login ∈ requests)
    (read : deployment.readCallback callback = .ok (some input))
    (presents : Presents login input) :
    Answers deployment (requests ++ [.callback callback])
      (redemption login input) := by
  obtain ⟨earlier, later, rfl⟩ := List.append_of_mem started
  refine ⟨earlier, login, later ++ [.callback callback], callback, input, ?_,
    List.mem_append_right _ List.mem_cons_self, read, presents, rfl⟩
  rw [List.append_assoc, List.cons_append]

theorem History.idle {next : World}
    (history : History deployment requests world) (request : IdentityRequest)
    (idle : Idle world next) :
    History deployment (requests ++ [request]) next := by
  have parts := Prod.mk.inj idle
  constructor
  · intro row member
    rw [parts.2] at member
    obtain ⟨login, started, stored⟩ := history.rows row member
    exact ⟨login, List.mem_append_left _ started, stored⟩
  · intro exchange member
    rw [parts.1] at member
    exact (history.exchanges exchange member).append request

theorem History.startLogin (history : History deployment requests world)
    (login : LoginStartRequest) :
    History deployment (requests ++ [.startLogin login])
      (deployment.startLoginResponse login world).2 := by
  rcases startLoginResponse_cases deployment login world with
    ⟨next, ended, idle⟩ | ⟨redirect, added, next, ended, starts⟩
  · rw [ended]
    exact history.idle _ idle
  · rw [ended]
    constructor
    · intro row member
      rw [starts.rows] at member
      rcases List.mem_append.mp member with old | new
      · obtain ⟨other, started, stored⟩ := history.rows row old
        exact ⟨other, List.mem_append_left _ started, stored⟩
      · rw [List.mem_singleton.mp new]
        exact ⟨login, List.mem_append_right _ List.mem_cons_self,
          starts.stored⟩
    · intro exchange member
      rw [starts.exchanges] at member
      exact (history.exchanges exchange member).append _

theorem History.callback (history : History deployment requests world)
    (callback : CallbackRequest) :
    History deployment (requests ++ [.callback callback])
      (deployment.callbackResponse callback world).2 := by
  rcases callbackResponse_cases callback world with
    ⟨idle, _⟩ | ⟨input, transaction, codeVerifier, asks⟩
  · exact history.idle _ idle
  · have sameEnvironment := (readFrom_of_readCallback asks.read).environment
    obtain ⟨login, started, stored⟩ := history.rows transaction
      (List.mem_of_find?_eq_some asks.reaches.found)
    obtain ⟨presents, redeems⟩ := stored.redeemed sameEnvironment asks.reaches
    have kept : ∀ row ∈ world.database.transactions, ∃ other,
        .startLogin other ∈ requests ++ [.callback callback] ∧
          StoredFor deployment other row := by
      intro row member
      obtain ⟨other, otherStarted, otherStored⟩ := history.rows row member
      exact ⟨other, List.mem_append_left _ otherStarted, otherStored⟩
    constructor
    · intro row member
      rcases asks.rows with consumes | keeps
      · rw [consumes] at member
        obtain ⟨old, oldMember, consumedAt, rfl⟩ :=
          exists_of_mem_consumed member
        obtain ⟨other, otherStarted, otherStored⟩ := kept old oldMember
        exact ⟨other, otherStarted, otherStored.consume consumedAt⟩
      · rw [keeps] at member
        exact kept row member
    · intro exchange member
      rw [asks.exchanges] at member
      rcases List.mem_append.mp member with old | new
      · exact (history.exchanges exchange old).append _
      · rw [List.mem_singleton.mp new, ← redeems]
        exact answers_callback started asks.read presents

theorem history_worldAfter (deployment : Deployment)
    (database : IdentityDatabase) (requests : List IdentityRequest) :
    History deployment requests (deployment.worldAfter database requests) := by
  apply foldl_history (History deployment)
  · constructor
    · exact List.forall_mem_nil _
    · exact List.forall_mem_nil _
  · intro past world request history
    cases request with
    | startLogin login =>
        exact history.startLogin login
    | callback callback =>
        exact history.callback callback
    | webhook input =>
        exact history.idle _ (idle_webhook input)
    | session timed =>
        exact history.idle _ (idle_session timed)

/-- The provider is only asked on behalf of a login that started before, with
the secrets of this login, by a callback that presents it in time. -/
theorem exchanges_answer_logins (deployment : Deployment)
    (database : IdentityDatabase) (requests : List IdentityRequest) :
    ∀ exchange ∈ (deployment.worldAfter database requests).exchanges,
      Answers deployment requests exchange :=
  (history_worldAfter deployment database requests).exchanges

end Histories

end BidayaxExecutive.Identity
