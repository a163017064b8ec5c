import BidayaxExecutive.Identity.LoginCompletion

/-!
# Browsers that come back

A browser that presents in time what the redirect gave it has the provider
asked with the verifier of its login.  A member who logs in, while another
browser does, is an instance of this and of what was said about exchanges and
completed logins.
-/

namespace BidayaxExecutive.Identity

open BidayaxExecutive.Runtime JsString
open BidayaxExecutive.Library.Transactions
open BidayaxExecutive.Library.Guards
open BidayaxExecutive.Library.Scripts
open BidayaxExecutive.Library.Runs

/-! ## Browsers that come back -/

/-- The browser comes back with what the redirect gave it. -/
structure Returns (redirect : LoginRedirect) (callback : CallbackRequest) :
    Prop where
  code : ∃ code, code ≠ [] ∧ callback.code = some code
  state : ∃ state, (js "state", state) ∈ redirect.location ∧
    callback.state = some state
  cookie : ∃ before after : List JsString,
    (∀ pair ∈ before, 59 ∉ pair ∧ entryName pair ≠ redirect.cookie.name) ∧
      callback.cookie = some (List.intercalate (js "; ") (before ++
        cookiePair (serializeIdentityCookie redirect.cookie) :: after))

/-- No callback presents the token of the login. -/
def Unused (deployment : Deployment) (login : LoginStartRequest)
    (requests : List IdentityRequest) : Prop :=
  ∀ callback, .callback callback ∈ requests →
    ∀ input, deployment.readCallback callback = .ok (some input) →
      sha256 input.transactionToken ≠
        sha256 (randomUrlToken login.drawn.transactionToken)

/-- The row of the login is there and not consumed. -/
def Pending (deployment : Deployment) (login : LoginStartRequest)
    (world : World) : Prop :=
  ∃ row ∈ world.database.transactions,
    StoredFor deployment login row ∧ row.consumedAt = none

section Browsers

variable {deployment : Deployment} {login : LoginStartRequest}
  {world : World}

theorem cookieName_transaction : CookieName identityTransactionCookieName :=
  ⟨by decide, by decide, by decide⟩

/-- The token comes back as it was written. -/
theorem parseCookie_written {token : JsString} (paired : Paired token)
    {before after : List JsString}
    (others : ∀ pair ∈ before, 59 ∉ pair ∧
      entryName pair ≠ identityTransactionCookieName) :
    parseCookie
        (some (List.intercalate (js "; ") (before ++
          cookiePair (serializeIdentityCookie
            (deployment.transactionCookie token)) :: after)))
        identityTransactionCookieName = .ok (some token) := by
  have written : cookiePair (serializeIdentityCookie
      (deployment.transactionCookie token)) =
        nameValue identityTransactionCookieName token :=
    cookiePair_serializeIdentityCookie cookieName_transaction
  have read : parseEntries identityTransactionCookieName
      (([] ++ List.intercalate (js "; ") (before ++
        nameValue identityTransactionCookieName token :: after)).splitOn 59) =
        .ok (some token) :=
    parseEntries_header cookieName_transaction paired (List.forall_mem_nil _)
      others
  have nonempty : (List.intercalate (js "; ") (before ++
      nameValue identityTransactionCookieName token :: after)).isEmpty ≠
        true := by
    intro blank
    have empty := eq_nil_of_intercalate (by decide)
      (List.isEmpty_iff.mp blank) _ List.mem_append_cons_self
    exact absurd empty (nameValue_ne_nil _ _)
  rw [written]
  simp only [parseCookie]
  rw [if_neg nonempty]
  exact read

theorem readCallback_of_returns {redirect : LoginRedirect}
    {callback : CallbackRequest}
    (location : redirect.location =
      authorizationUrl deployment.environment login.drawn)
    (cookie : redirect.cookie = deployment.transactionCookie
      (randomUrlToken login.drawn.transactionToken))
    (returns : Returns redirect callback) :
    ∃ input, deployment.readCallback callback = .ok (some input) ∧
      input.transactionToken =
          randomUrlToken login.drawn.transactionToken ∧
      input.state = randomUrlToken login.drawn.state := by
  obtain ⟨code, codeSome, codeSent⟩ := returns.code
  obtain ⟨state, given, stateSent⟩ := returns.state
  obtain ⟨before, after, others, header⟩ := returns.cookie
  have isState : state = randomUrlToken login.drawn.state := by
    rw [location] at given
    simp only [authorizationUrl, List.mem_cons, Prod.mk.injEq,
      List.not_mem_nil, or_false] at given
    rcases given with other | other | other | other | ⟨_, same⟩ | other | other
    · exact absurd other.1 (by decide)
    · exact absurd other.1 (by decide)
    · exact absurd other.1 (by decide)
    · exact absurd other.1 (by decide)
    · exact same
    · exact absurd other.1 (by decide)
    · exact absurd other.1 (by decide)
  have stateSome : state ≠ [] := by
    rw [isState]
    exact randomUrlToken_ne_nil _ (by decide)
  have tokenSome : randomUrlToken login.drawn.transactionToken ≠ [] :=
    randomUrlToken_ne_nil _ (by decide)
  have parsed : parseCookie callback.cookie identityTransactionCookieName =
      .ok (some (randomUrlToken login.drawn.transactionToken)) := by
    rw [cookie] at others header
    rw [header]
    exact parseCookie_written
      (Paired.of_isAscii (isAscii_randomUrlToken _)) others
  have sent {text : JsString} (nonempty : text ≠ []) :
      (some text).filter (!·.isEmpty) = some text := by
    rw [Option.filter_eq_some_iff, List.isEmpty_eq_false_iff.mpr nonempty]
    exact ⟨rfl, rfl⟩
  have codeRead : callback.code.filter (!·.isEmpty) = some code := by
    rw [codeSent]
    exact sent codeSome
  have stateRead : callback.state.filter (!·.isEmpty) = some state := by
    rw [stateSent]
    exact sent stateSome
  rw [← isState]
  exact ⟨_, bind_eq_ok.mpr ⟨_, parsed, congrArg Except.ok
    (Option.bind_eq_some_iff.mpr ⟨code, codeRead,
      Option.bind_eq_some_iff.mpr ⟨state, stateRead,
        Option.bind_eq_some_iff.mpr ⟨_, sent tokenSome, rfl⟩⟩⟩)⟩, rfl, rfl⟩

theorem Starts.pending {redirect : LoginRedirect}
    {row : StoredOAuthTransaction} {next : World}
    (starts : Starts deployment login redirect row world next) :
    Pending deployment login next := by
  refine ⟨row, ?_, starts.stored, starts.unconsumed⟩
  rw [starts.rows]
  exact List.mem_append_right _ List.mem_cons_self

/-- The row stays as long as no callback presents it. -/
theorem Pending.afterRequest (pending : Pending deployment login world)
    {request : IdentityRequest} (unused : Unused deployment login [request]) :
    Pending deployment login (deployment.afterRequest world request) := by
  obtain ⟨row, member, stored, isOpen⟩ := pending
  have kept {next : World} (idle : Idle world next) :
      Pending deployment login next := by
    have rows := (Prod.mk.inj idle).2
    refine ⟨row, ?_, stored, isOpen⟩
    rw [rows]
    exact member
  cases request with
  | startLogin other =>
      rw [Deployment.afterRequest]
      rcases startLoginResponse_cases deployment other world with
        ⟨next, ended, idle⟩ | ⟨redirect, added, next, ended, starts⟩
      · rw [ended]
        exact kept idle
      · rw [ended]
        refine ⟨row, ?_, stored, isOpen⟩
        rw [starts.rows]
        exact List.mem_append_left _ member
  | callback callback =>
      rw [Deployment.afterRequest]
      rcases callbackResponse_cases callback world with
        ⟨idle, _⟩ | ⟨input, transaction, codeVerifier, asks⟩
      · exact kept idle
      · rcases asks.rows with consumes | keeps
        · have differs := unused callback List.mem_cons_self input asks.read
          have passed : isConsumable (sha256 input.transactionToken)
              (sha256 input.state) input.now row ≠ true := by
            intro selected
            simp only [isConsumable, Bool.and_eq_true, beq_iff_eq]
              at selected
            exact differs (selected.1.1.1.symm.trans stored.token)
          refine ⟨row, ?_, stored, isOpen⟩
          rw [consumes]
          exact List.mem_map.mpr ⟨row, member, if_neg passed⟩
        · refine ⟨row, ?_, stored, isOpen⟩
          rw [keeps]
          exact member
  | webhook input =>
      exact kept (idle_webhook input)
  | session timed =>
      exact kept (idle_session timed)

theorem Pending.afterRequests (pending : Pending deployment login world)
    {requests : List IdentityRequest}
    (unused : Unused deployment login requests) :
    Pending deployment login
      (requests.foldl deployment.afterRequest world) := by
  have carried : Unused deployment login requests →
      Pending deployment login
        (requests.foldl deployment.afterRequest world) := by
    apply foldl_history fun past world =>
      Unused deployment login past → Pending deployment login world
    · exact fun _ => pending
    · intro past middle request holds unusedAll
      apply Pending.afterRequest
      · apply holds
        exact fun callback member =>
          unusedAll callback (List.mem_append_left _ member)
      · exact fun callback member =>
          unusedAll callback (List.mem_append_right _ member)
  exact carried unused

/-- The pending row is the one that the callback finds. -/
theorem Pending.reached (pending : Pending deployment login world)
    (keyed : LoginsKeyed world) {input : LoginInput}
    (sameEnvironment : input.environment = deployment.environment)
    (token : input.transactionToken =
      randomUrlToken login.drawn.transactionToken)
    (state : input.state = randomUrlToken login.drawn.state)
    (inTime : input.now.milliseconds < login.now.milliseconds + 600000) :
    ∃ transaction codeVerifier,
      StoredFor deployment login transaction ∧
        Reaches deployment.platform world input transaction codeVerifier := by
  obtain ⟨row, member, stored, isOpen⟩ := pending
  have consumable : isConsumable (sha256 input.transactionToken)
      (sha256 input.state) input.now row = true := by
    rw [isConsumable, stored.token, stored.state, isOpen, token, state]
    simp [stored.expires, inTime]
  have found : world.database.transactions.find?
      (isConsumable (sha256 input.transactionToken) (sha256 input.state)
        input.now) = some row := by
    cases first : world.database.transactions.find?
        (isConsumable (sha256 input.transactionToken) (sha256 input.state)
          input.now) with
    | none =>
        exact absurd consumable (List.find?_eq_none.mp first row member)
    | some other =>
        have selected := List.find?_some first
        simp only [isConsumable, Bool.and_eq_true, beq_iff_eq] at selected
        have sameHash : other.transactionTokenHash =
            row.transactionTokenHash := by
          rw [selected.1.1.1, stored.token, token]
        rw [List.inj_on_of_nodup_map keyed.tokens
          (List.mem_of_find?_eq_some first) member sameHash]
  refine ⟨row, randomUrlToken login.drawn.codeVerifier, stored, found, ?_⟩
  rw [stored.secret, sameEnvironment]
  exact unsealSecret_randomUrlToken _ _ _ (by decide)

/-- A browser that comes back in time, and whose token no other callback has
presented, has the provider asked with the verifier of its login. -/
theorem startedLogin_redeemed (deployment : Deployment)
    (database : IdentityDatabase) (earlier : List IdentityRequest)
    (login : LoginStartRequest) (redirect : LoginRedirect)
    (between : List IdentityRequest) (callback : CallbackRequest)
    (started : (deployment.startLoginResponse login
      (deployment.worldAfter database earlier)).1 = some redirect)
    (unused : Unused deployment login between)
    (returns : Returns redirect callback)
    (inTime : callback.now.milliseconds <
      login.now.milliseconds + 600000) :
    ∃ input, deployment.readCallback callback = .ok (some input) ∧
      (deployment.worldAfter database (earlier ++ .startLogin login ::
          (between ++ [.callback callback]))).exchanges =
        (deployment.worldAfter database
          (earlier ++ .startLogin login :: between)).exchanges ++
            [redemption login input] := by
  have keyed := keyed_worldAfter deployment database
    (earlier ++ .startLogin login :: between)
  rcases startLoginResponse_cases deployment login
      (deployment.worldAfter database earlier) with
    ⟨next, ended, _⟩ | ⟨given, row, next, ended, starts⟩
  · rw [ended] at started
    cases started
  · rw [ended] at started
    cases Option.some.inj started
    obtain ⟨input, read, token, state⟩ :=
      readCallback_of_returns starts.location starts.cookie returns
    have readFrom := readFrom_of_readCallback read
    have middle : deployment.worldAfter database
        (earlier ++ .startLogin login :: between) =
          between.foldl deployment.afterRequest next := by
      rw [Deployment.worldAfter, List.foldl_append, List.foldl_cons]
      exact congrArg (between.foldl deployment.afterRequest)
        (congrArg Prod.snd ended)
    rw [← readFrom.now] at inTime
    rw [middle] at keyed
    obtain ⟨transaction, codeVerifier, stored, reaches⟩ :=
      (starts.pending.afterRequests unused).reached keyed readFrom.environment
        token state inTime
    have asks := asks_of_reaches read reaches
    have redeems := (stored.redeemed readFrom.environment reaches).2
    have last : deployment.worldAfter database (earlier ++
        .startLogin login :: (between ++ [.callback callback])) =
          (deployment.callbackResponse callback
            (between.foldl deployment.afterRequest next)).2 := by
      rw [← List.cons_append, ← List.append_assoc, Deployment.worldAfter,
        List.foldl_append, ← Deployment.worldAfter, middle]
      rfl
    refine ⟨input, read, ?_⟩
    rw [last, middle, redeems]
    exact asks.exchanges

end Browsers

/-! ## A member logs in -/

theorem httpsOrigin_append {url origin : JsString}
    (found : httpsOrigin url = some origin) (path : JsString) :
    httpsOrigin (origin ++ 47 :: path) = some origin := by
  unfold httpsOrigin at found
  split_ifs at found with absolute
  rw [Bool.and_eq_true, bne_iff_ne] at absolute
  rw [← Option.some.inj found]
  have plain : ∀ unit ∈ (url.drop 8).takeWhile (· != 47),
      (unit != 47) = true :=
    fun unit member => List.mem_takeWhile_imp (p := (· != 47)) member
  have host : ((js "https://" ++ (url.drop 8).takeWhile (· != 47) ++
      47 :: path).drop 8).takeWhile (· != 47) =
        (url.drop 8).takeWhile (· != 47) := by
    rw [List.append_assoc]
    change ((url.drop 8).takeWhile (· != 47) ++ 47 :: path).takeWhile
      (· != 47) = _
    rw [List.takeWhile_append_of_pos plain]
    exact List.append_nil _
  have whole : (js "https://").isPrefixOf (js "https://" ++
      (url.drop 8).takeWhile (· != 47) ++ 47 :: path) = true := by
    rw [List.isPrefixOf_iff_prefix, List.append_assoc]
    exact List.prefix_append _ _
  rw [httpsOrigin, host, whole, if_pos]
  rw [Bool.true_and, bne_iff_ne]
  exact absolute.2

/-- The resolver on such URLs and on paths. -/
def httpsResolver : UrlResolver :=
  { httpsParser with
    href := fun value base =>
      if (httpsOrigin value).isSome then some value
      else (httpsOrigin base).map fun origin =>
        origin ++ 47 :: value.dropWhile (· == 47)
    origin_href := by
      intro value base text written
      cases own : httpsOrigin value with
      | some origin =>
          rw [own, Option.isSome_some, if_pos rfl] at written
          rw [← Option.some.inj written]
          change httpsOrigin value = (httpsOrigin value).or (httpsOrigin base)
          rw [own, Option.some_or]
      | none =>
          rw [own, Option.isSome_none, if_neg Bool.false_ne_true] at written
          obtain ⟨origin, found, same⟩ := Option.map_eq_some_iff.mp written
          rw [← same]
          change httpsOrigin _ = (httpsOrigin value).or (httpsOrigin base)
          rw [own, Option.none_or, found]
          exact httpsOrigin_append found _ }

def memberDeployment : Deployment where
  host := recordedHost []
  lower := lowerCase
  resolver := httpsResolver
  environment := hourEnvironment

/-- What is drawn for a login, each a byte of its own. -/
def drawnFrom (seed : UInt8) : DrawnLogin where
  transactionId := ⟨List.replicate 32 (seed + 1), rfl⟩
  state := ⟨List.replicate 32 (seed + 2), rfl⟩
  nonce := ⟨List.replicate 32 (seed + 3), rfl⟩
  codeVerifier := ⟨List.replicate 48 (seed + 4), rfl⟩
  transactionToken := ⟨List.replicate 40 (seed + 5), rfl⟩
  iv := ⟨List.replicate 12 (seed + 6), rfl⟩

def memberStart : LoginStartRequest where
  now := .epoch
  returnTo := some (js "/cards")
  drawn := drawnFrom 0

def redirectOf (login : LoginStartRequest) : LoginRedirect where
  location := authorizationUrl hourEnvironment login.drawn
  cookie := memberDeployment.transactionCookie
    (randomUrlToken login.drawn.transactionToken)

/-- The member comes back; the browser has another cookie of the site, too. -/
def callbackOf (login : LoginStartRequest) (now : TimeValue) :
    CallbackRequest where
  code := some (js "code")
  state := some (randomUrlToken login.drawn.state)
  cookie := some (List.intercalate (js "; ") ([js "theme=dark"] ++
    [cookiePair (serializeIdentityCookie (redirectOf login).cookie)]))
  forwardedFor := some (js "203.0.113.7, 10.0.0.1")
  userAgent := none
  now := now
  provider := fun _ => .ok memberIdentity
  drawn := ⟨js "first token", js "first csrf", js "first"⟩

def memberCallback : CallbackRequest :=
  callbackOf memberStart (secondsIn 60 (by decide))

theorem redirects_of_isSome {login : LoginStartRequest} {world : World}
    (started :
      (memberDeployment.startLoginResponse login world).1.isSome = true) :
    (memberDeployment.startLoginResponse login world).1 =
      some (redirectOf login) := by
  rcases startLoginResponse_cases memberDeployment login world with
    ⟨next, ended, _⟩ | ⟨⟨location, cookie⟩, row, next, ended, starts⟩
  · rw [ended] at started
    cases started
  · rw [ended]
    cases starts.location
    cases starts.cookie
    rfl

theorem memberStart_redirects :
    (memberDeployment.startLoginResponse memberStart
      (memberDeployment.worldAfter memberDatabase [])).1 =
        some (redirectOf memberStart) :=
  redirects_of_isSome (by decide +kernel)

theorem returns_callbackOf (login : LoginStartRequest) (now : TimeValue) :
    Returns (redirectOf login) (callbackOf login now) := by
  refine ⟨⟨js "code", by decide, rfl⟩, ⟨_, ?_, rfl⟩,
    ⟨[js "theme=dark"], [], ?_, rfl⟩⟩
  · simp [redirectOf, authorizationUrl]
  · intro pair member
    rw [List.mem_singleton.mp member]
    refine ⟨by decide, ?_⟩
    change entryName (js "theme=dark") ≠ identityTransactionCookieName
    decide +kernel

def memberStarted : World :=
  memberDeployment.worldAfter memberDatabase [.startLogin memberStart]

/-- The callback finds the row of its login. -/
theorem memberCallback_reaches :
    ∃ input transaction codeVerifier,
      memberDeployment.readCallback memberCallback = .ok (some input) ∧
        Reaches memberDeployment.platform memberStarted input transaction
          codeVerifier := by
  have returned : ∃ input,
      memberDeployment.readCallback memberCallback = .ok (some input) ∧
        input.transactionToken =
            randomUrlToken memberStart.drawn.transactionToken ∧
        input.state = randomUrlToken memberStart.drawn.state :=
    readCallback_of_returns rfl rfl (returns_callbackOf memberStart _)
  obtain ⟨input, read, token, state⟩ := returned
  have readFrom := readFrom_of_readCallback read
  have keyed := keyed_worldAfter memberDeployment memberDatabase
    [.startLogin memberStart]
  have pending : Pending memberDeployment memberStart memberStarted := by
    rcases startLoginResponse_cases memberDeployment memberStart
        (memberDeployment.worldAfter memberDatabase []) with
      ⟨next, ended, _⟩ | ⟨given, row, next, ended, starts⟩
    · have started := memberStart_redirects
      rw [ended] at started
      cases started
    · have isNext : memberStarted = next := congrArg Prod.snd ended
      rw [isNext]
      exact starts.pending
  have inTime : input.now.milliseconds <
      memberStart.now.milliseconds + 600000 := by
    rw [readFrom.now]
    decide
  obtain ⟨transaction, codeVerifier, _, reaches⟩ :=
    pending.reached keyed readFrom.environment token state inTime
  exact ⟨input, transaction, codeVerifier, read, reaches⟩

theorem exchanges_answer_logins_member :
    ∃ exchange ∈ (memberDeployment.worldAfter memberDatabase
        [.startLogin memberStart, .callback memberCallback]).exchanges,
      Answers memberDeployment
        [.startLogin memberStart, .callback memberCallback] exchange := by
  obtain ⟨input, transaction, codeVerifier, read, reaches⟩ :=
    memberCallback_reaches
  have asks := asks_of_reaches read reaches
  have member : ⟨transaction.transactionId,
      callbackInput input transaction codeVerifier⟩ ∈
        (memberDeployment.worldAfter memberDatabase
          [.startLogin memberStart, .callback memberCallback]).exchanges := by
    change _ ∈ (memberDeployment.callbackResponse memberCallback
      memberStarted).2.exchanges
    rw [asks.exchanges]
    exact List.mem_append_right _ List.mem_cons_self
  exact ⟨_, member, exchanges_answer_logins memberDeployment memberDatabase
    [.startLogin memberStart, .callback memberCallback] _ member⟩

/-- The member is let in. -/
theorem memberCallback_completes :
    ∃ completed, (memberDeployment.callbackResponse memberCallback
      memberStarted).1 = .completed completed := by
  obtain ⟨input, transaction, codeVerifier, read, reaches⟩ :=
    memberCallback_reaches
  have readFrom := readFrom_of_readCallback read
  have answer : input.provider (callbackInput input transaction
      codeVerifier) = .ok memberIdentity := by
    rw [readFrom.provider]
    rfl
  have admissible : Admissible memberDeployment.platform input
      memberStarted.database memberIdentity (js "usr_member")
      { tenantId := js "tenant"
        role := .tenantAdmin
        status := .active
        revokedAt := none
        membershipId := js "membership"
        userId := js "usr_member" } :=
    { verified := rfl
      known := .inl ⟨_, rfl, rfl, rfl⟩
      email := by decide +kernel
      account := .inr fun _ member => nomatch member
      chosen := rfl
      active := by decide +kernel
      tenant := by decide +kernel
      positive := by
        rw [readFrom.environment]
        decide
      ordered := by
        rw [readFrom.environment]
        decide
      expires := by
        rw [readFrom.environment, readFrom.now]
        decide
      fresh := fun _ member => nomatch member }
  obtain ⟨completed, final, yields⟩ :=
    completes_completeIdentityLogin reaches answer admissible
  have ran : (completeIdentityLogin memberDeployment.platform input).run
      memberStarted = (.ok completed, final) := yields
  refine ⟨completed, ?_⟩
  rw [Deployment.callbackResponse, read]
  simp only [withIdentityTransaction, ran]

theorem completedLogin_concludes_member :
    ∃ completed login input,
      (memberDeployment.callbackResponse memberCallback
          memberStarted).1 = .completed completed ∧
        Concludes memberDeployment memberDatabase [.startLogin memberStart]
          memberCallback completed.returnTo login input := by
  obtain ⟨completed, completes⟩ := memberCallback_completes
  obtain ⟨login, input, concludes⟩ :=
    completedLogin_concludes memberDeployment memberDatabase
      [.startLogin memberStart] memberCallback completed completes
  exact ⟨completed, login, input, completes, concludes⟩

/-- Another browser of the member starts a login before and comes back while
the first one is with the provider. -/
def otherStart : LoginStartRequest where
  now := .epoch
  returnTo := none
  drawn := drawnFrom 8

def otherCallback : CallbackRequest :=
  callbackOf otherStart (secondsIn 30 (by decide))

theorem memberStart_redirects_second :
    (memberDeployment.startLoginResponse memberStart
      (memberDeployment.worldAfter memberDatabase
        [.startLogin otherStart])).1 = some (redirectOf memberStart) :=
  redirects_of_isSome (by decide +kernel)

theorem unused_otherCallback :
    Unused memberDeployment memberStart [.callback otherCallback] := by
  intro callback isBetween input read
  cases List.mem_singleton.mp isBetween
  have returned : ∃ other,
      memberDeployment.readCallback otherCallback = .ok (some other) ∧
        other.transactionToken =
            randomUrlToken otherStart.drawn.transactionToken ∧
        other.state = randomUrlToken otherStart.drawn.state :=
    readCallback_of_returns rfl rfl (returns_callbackOf otherStart _)
  obtain ⟨other, readOther, token, _⟩ := returned
  rw [readOther, Except.ok.injEq, Option.some.injEq] at read
  rw [← read, token]
  decide +kernel

/-- The member comes back a minute later. -/
theorem startedLogin_redeemed_member :
    ∃ input, memberDeployment.readCallback memberCallback =
        .ok (some input) ∧
      (memberDeployment.worldAfter memberDatabase
          [.startLogin otherStart, .startLogin memberStart,
            .callback otherCallback, .callback memberCallback]).exchanges =
        (memberDeployment.worldAfter memberDatabase
          [.startLogin otherStart, .startLogin memberStart,
            .callback otherCallback]).exchanges ++
            [redemption memberStart input] :=
  startedLogin_redeemed memberDeployment memberDatabase
    [.startLogin otherStart] memberStart (redirectOf memberStart)
    [.callback otherCallback] memberCallback memberStart_redirects_second
    unused_otherCallback (returns_callbackOf memberStart _) (by decide)

end BidayaxExecutive.Identity
