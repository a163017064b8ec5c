import BidayaxExecutive.Identity.LoginAdmission
import BidayaxExecutive.Identity.SessionRuns

/-!
# One-time login transactions

A callback consumes its login transaction before the provider is asked, in the
same database transaction as everything that may fail afterwards.  The provider
is asked once as long as nothing does: a rollback takes the consumption back.
-/

namespace BidayaxExecutive.Identity

open BidayaxExecutive.Runtime JsString
open BidayaxExecutive.Library.Transactions
open BidayaxExecutive.Library.Guards
open BidayaxExecutive.Library.Scripts
open BidayaxExecutive.Library.Runs

/-! ## Runs of callbacks -/

/-- The calls of the provider on behalf of the login transaction. -/
def exchangesFor (transactionId : JsString) (world : World) :
    List ProviderExchange :=
  world.exchanges.filter (·.transactionId == transactionId)

section Platform

variable (platform : IdentityPlatform)

def afterCallback (world : World) (input : LoginInput) :
    Except IdentityFailure World :=
  .ok (withIdentityTransaction (completeIdentityLogin platform input) world).2

/-- The callback finds the login transaction open and reads its secret, so the
provider is asked. -/
structure Reaches (world : World) (input : LoginInput)
    (transaction : StoredOAuthTransaction) (codeVerifier : JsString) :
    Prop where
  found : world.database.transactions.find?
    (isConsumable (sha256 input.transactionToken) (sha256 input.state)
      input.now) = some transaction
  readable : platform.decipher transaction.codeVerifierCiphertext
    input.environment.transactionEncryptionKey = some codeVerifier

/-- Where the provider is asked about the login transaction, it names an
identity that the database admits. -/
def AnsweredAdmissibly (transactionId : JsString) (world : World)
    (input : LoginInput) : Prop :=
  ∀ transaction codeVerifier,
    Reaches platform world input transaction codeVerifier →
    transaction.transactionId = transactionId →
    ∃ identity userId membership,
      input.provider (callbackInput input transaction codeVerifier) =
          .ok identity ∧
        Admissible platform input world.database identity userId membership

end Platform

/-! ## What a callback leaves behind -/

section Callbacks

variable {platform : IdentityPlatform} {input : LoginInput}
  {transaction : StoredOAuthTransaction} {codeVerifier : JsString}
  {world : World}

/-- What a login records about itself, in the database and elsewhere. -/
def loginRecord (world : World) :
    List ProviderExchange × List StoredOAuthTransaction :=
  (world.exchanges, world.database.transactions)

theorem keeps_execute {α : Type} {operation : Statement α}
    (keeps : ∀ database,
      (operation database).2.transactions = database.transactions) :
    Script.Keeps loginRecord (execute operation) :=
  fun world => congrArg (Prod.mk world.exchanges) (keeps world.database)

/-- The first statement of a login writes the user, and ends the sessions of a
disabled one. -/
theorem upsertProviderIdentity_writes (lower : JsString → JsString)
    (identity : ProviderIdentity) (now : TimeValue)
    (database : IdentityDatabase) :
    ∃ identities sessions,
      (upsertProviderIdentity lower identity now database).2 =
        { database with
          identities := identities
          sessions := sessions } := by
  unfold upsertProviderIdentity statement
  cases found : database.identities.find?
      (·.providerSubject == identity.providerSubject) with
  | some existing =>
      simp only [found]
      by_cases taken : database.identities.any (fun other =>
          other.userId ≠ existing.userId ∧ other.normalizedEmail =
            normalizeEmail lower identity.email) = true
      · rw [if_pos taken]
        exact ⟨_, _, rfl⟩
      · rw [if_neg taken]
        unfold revokeIdentitySessionsOnAccessChange
        by_cases disabled : existing.status = .disabled
        · simp only [if_pos disabled]
          exact ⟨_, _, rfl⟩
        · simp only [if_neg disabled]
          exact ⟨_, _, rfl⟩
  | none =>
      simp only [found]
      by_cases known : database.identities.any
          (·.userId == js "usr_" ++ identity.providerSubject) = true
      · rw [if_pos known]
        exact ⟨_, _, rfl⟩
      · rw [if_neg known]
        by_cases taken : database.identities.any
            (·.normalizedEmail == normalizeEmail lower identity.email) = true
        · rw [if_pos taken]
          exact ⟨_, _, rfl⟩
        · rw [if_neg taken]
          exact ⟨_, _, rfl⟩

theorem saveProviderAccount_writes (account : IdentityProviderAccount)
    (database : IdentityDatabase) :
    ∃ accounts, (saveProviderAccount account database).2 =
      { database with providerAccounts := accounts } := by
  unfold saveProviderAccount statement
  by_cases known : database.providerAccounts.any
      (·.providerSubject == account.providerSubject) = true
  · simp only [if_pos known]
    exact ⟨_, rfl⟩
  · by_cases taken : database.providerAccounts.any
        (·.providerAccountId == account.providerAccountId) = true
    · simp only [if_neg known, if_pos taken]
      exact ⟨_, rfl⟩
    · by_cases unknown : (!database.identities.any
          (·.userId == account.userId)) = true
      · simp only [if_neg known, if_neg taken, if_pos unknown]
        exact ⟨_, rfl⟩
      · simp only [if_neg known, if_neg taken, if_neg unknown]
        exact ⟨_, rfl⟩

theorem keeps_upsertProviderIdentity (lower : JsString → JsString)
    (identity : ProviderIdentity) (now : TimeValue) :
    Script.Keeps loginRecord
      (execute (upsertProviderIdentity lower identity now)) := by
  apply keeps_execute
  intro database
  obtain ⟨identities, sessions, wrote⟩ :=
    upsertProviderIdentity_writes lower identity now database
  rw [wrote]

theorem keeps_saveProviderAccount (account : IdentityProviderAccount) :
    Script.Keeps loginRecord (execute (saveProviderAccount account)) := by
  apply keeps_execute
  intro database
  obtain ⟨accounts, wrote⟩ := saveProviderAccount_writes account database
  rw [wrote]

theorem keeps_saveAuditEvents (events : List IdentityAuditInput) :
    Script.Keeps loginRecord (saveAuditEvents events) := by
  induction events with
  | nil =>
      exact Script.keeps_done _
  | cons event rest inductionHypothesis =>
      apply Script.keeps_bind
      · apply keeps_execute
        apply statement_keeps (·.transactions)
        intro database value written outcome
        split_ifs at outcome <;>
          rw [← (Prod.mk.inj (Except.ok.inj outcome)).2]
      · exact fun _ => inductionHypothesis

theorem keeps_issueApplicationSession (issue : IssueInput) :
    Script.Keeps loginRecord (issueApplicationSession issue) := by
  apply Script.keeps_bind
  · exact Script.keeps_done _
  · intro session
    apply Script.keeps_bind
    · apply keeps_execute
      intro database
      rcases ended : createSession session database with ⟨outcome, written⟩
      cases outcome with
      | ok result =>
          rcases createSession_eq_ok.mp ended with ⟨_, _, _, _, wrote⟩
          rw [wrote]
      | error failure =>
          unfold createSession statement at ended
          split at ended
          · exact nomatch (Prod.mk.inj ended).1
          · rw [← (Prod.mk.inj ended).2]
    · exact fun _ => Script.keeps_done _

theorem keeps_persistProviderIdentity (identity : ProviderIdentity)
    (now : TimeValue) :
    Script.Keeps loginRecord
      (persistProviderIdentity platform identity now) := by
  unfold persistProviderIdentity
  by_cases verified : (!identity.emailVerified) = true
  · rw [if_pos verified]
    exact Script.keeps_done _
  · rw [if_neg verified]
    apply Script.keeps_bind
    · exact keeps_upsertProviderIdentity _ _ _
    · intro user
      by_cases active : user.status ≠ .active
      · rw [if_pos active]
        exact Script.keeps_done _
      · rw [if_neg active]
        apply Script.keeps_bind
        · exact keeps_saveProviderAccount _
        · exact fun _ => Script.keeps_done _

theorem keeps_admitIdentity (identity : ProviderIdentity) :
    Script.Keeps loginRecord (admitIdentity platform input identity) := by
  apply Script.keeps_bind (keeps_persistProviderIdentity identity input.now)
  intro user
  apply Script.keeps_bind (keeps_execute fun _ => rfl)
  intro memberships
  refine Script.keeps_bind ?_ fun linkedTenantId => ?_
  · unfold resolveProviderTenant
    cases identity.providerTenantId.filter (!·.isEmpty) with
    | none =>
        exact Script.keeps_done _
    | some providerTenantId =>
        exact keeps_execute fun _ => rfl
  · apply Script.keeps_bind (Script.keeps_done _)
    intro membership
    apply Script.keeps_bind (keeps_issueApplicationSession _)
    intro issued
    apply Script.keeps_bind (keeps_saveAuditEvents _)
    exact fun _ => Script.keeps_done _

/-- The rows after the callback has consumed its login transaction. -/
def consumed (input : LoginInput)
    (transactions : List StoredOAuthTransaction) :
    List StoredOAuthTransaction :=
  transactions.map fun transaction =>
    if isConsumable (sha256 input.transactionToken) (sha256 input.state)
        input.now transaction then
      { transaction with consumedAt := some input.now }
    else transaction

/-- The world when the provider has answered. -/
def asked (world : World) (input : LoginInput)
    (transaction : StoredOAuthTransaction) (codeVerifier : JsString) :
    World where
  database :=
    { world.database with
      transactions := consumed input world.database.transactions }
  exchanges := world.exchanges ++
    [⟨transaction.transactionId,
      callbackInput input transaction codeVerifier⟩]

/-- What the login does with the answer. -/
def answered (platform : IdentityPlatform) (input : LoginInput)
    (transaction : StoredOAuthTransaction) :
    Except JsString ProviderIdentity → Service CompletedLogin
  | .error message => Script.fail (.provider message)
  | .ok identity => do
      let issued ← admitIdentity platform input identity
      return { issued := issued, returnTo := transaction.returnTo }

/-- The row that the callback consumes. -/
def findOpen (world : World) (input : LoginInput) :
    Option StoredOAuthTransaction :=
  world.database.transactions.find?
    (isConsumable (sha256 input.transactionToken) (sha256 input.state)
      input.now)

theorem run_consumeOAuthTransaction (world : World) (input : LoginInput) :
    (execute (consumeOAuthTransaction (sha256 input.transactionToken)
        (sha256 input.state) input.now)).run world =
      (.ok ((findOpen world input).map fun transaction =>
          { transaction with consumedAt := some input.now }),
        { world with
          database :=
            { world.database with
              transactions :=
                consumed input world.database.transactions } }) :=
  rfl

theorem run_of_reaches
    (reaches : Reaches platform world input transaction codeVerifier) :
    (completeIdentityLogin platform input).run world =
      (answered platform input transaction
        (input.provider (callbackInput input transaction codeVerifier))).run
        (asked world input transaction codeVerifier) := by
  have found : findOpen world input = some transaction := reaches.found
  have reads : readStoredCodeVerifier platform
      { transaction with consumedAt := some input.now }
      input.environment.transactionEncryptionKey = .ok codeVerifier := by
    unfold readStoredCodeVerifier
    rw [reaches.readable]
  unfold completeIdentityLogin
  rw [Script.run_bind, bind_apply, run_consumeOAuthTransaction, found]
  simp only [Option.map_some, reads]
  change (completeCallback input.provider transaction.transactionId
    (callbackInput input transaction codeVerifier) >>= _).run _ = _
  rw [Script.run_bind, bind_apply]
  have asks : (completeCallback input.provider transaction.transactionId
        (callbackInput input transaction codeVerifier)).run
        { world with
          database :=
            { world.database with
              transactions :=
                consumed input world.database.transactions } } =
      ((input.provider (callbackInput input transaction codeVerifier)).mapError
          .provider, asked world input transaction codeVerifier) :=
    rfl
  rw [asks]
  cases input.provider (callbackInput input transaction codeVerifier) with
  | error message =>
      rfl
  | ok identity =>
      rfl

theorem keeps_answered (answer : Except JsString ProviderIdentity) :
    Script.Keeps loginRecord
      (answered platform input transaction answer) := by
  cases answer with
  | error message =>
      exact Script.keeps_done _
  | ok identity =>
      apply Script.keeps_bind (keeps_admitIdentity identity)
      exact fun _ => Script.keeps_done _

theorem run_of_not_reaches
    (unreached : ∀ transaction codeVerifier,
      ¬Reaches platform world input transaction codeVerifier) :
    ∃ failure final,
      (completeIdentityLogin platform input).run world =
        (.error failure, final) ∧ final.exchanges = world.exchanges := by
  unfold completeIdentityLogin
  rw [Script.run_bind, bind_apply]
  rw [run_consumeOAuthTransaction]
  cases found : findOpen world input with
  | none =>
      exact ⟨_, _, rfl, rfl⟩
  | some transaction =>
      have unreadable : readStoredCodeVerifier platform
          { transaction with consumedAt := some input.now }
          input.environment.transactionEncryptionKey =
            .error .unreadableSecret := by
        unfold readStoredCodeVerifier
        cases deciphered : platform.decipher
            transaction.codeVerifierCiphertext
            input.environment.transactionEncryptionKey with
        | none =>
            rfl
        | some codeVerifier =>
            exact absurd ⟨found, deciphered⟩
              (unreached transaction codeVerifier)
      simp only [Option.map_some, unreadable]
      exact ⟨_, _, rfl, rfl⟩

/-- A callback that does not get as far as the provider changes nothing. -/
theorem afterCallback_of_not_reaches {next : World}
    (unreached : ∀ transaction codeVerifier,
      ¬Reaches platform world input transaction codeVerifier)
    (stepped : afterCallback platform world input = .ok next) :
    next = world := by
  rcases run_of_not_reaches unreached with
    ⟨failure, final, ran, sameExchanges⟩
  rw [← Except.ok.inj stepped]
  unfold withIdentityTransaction
  rw [ran]
  exact congrArg (World.mk world.database) sameExchanges

/-- The provider has been asked once more; the consumption may have been
rolled back. -/
theorem afterCallback_of_reaches {next : World}
    (reaches : Reaches platform world input transaction codeVerifier)
    (stepped : afterCallback platform world input = .ok next) :
    next.exchanges = (asked world input transaction codeVerifier).exchanges ∧
      (next.database.transactions =
          consumed input world.database.transactions ∨
        next.database.transactions = world.database.transactions) := by
  have ran := run_of_reaches reaches
  have keeps : Script.Keeps loginRecord
      (answered platform input transaction
        (input.provider (callbackInput input transaction codeVerifier))) :=
    keeps_answered _
  have kept := keeps (asked world input transaction codeVerifier)
  rw [← ran] at kept
  rw [← Except.ok.inj stepped]
  unfold withIdentityTransaction
  rcases ended : (completeIdentityLogin platform input).run world with
    ⟨outcome, final⟩
  rw [ended] at kept
  have kept := Prod.mk.inj kept
  cases outcome with
  | ok completed =>
      exact ⟨kept.1, .inl kept.2⟩
  | error failure =>
      exact ⟨kept.1, .inr rfl⟩

theorem completes_completeIdentityLogin {identity : ProviderIdentity}
    {userId : JsString} {membership : TenantMembershipRow}
    (reaches : Reaches platform world input transaction codeVerifier)
    (answer : input.provider (callbackInput input transaction codeVerifier) =
      .ok identity)
    (admissible : Admissible platform input world.database identity userId
      membership) :
    ∃ login final,
      Yields (completeIdentityLogin platform input).run world login final := by
  have admits : Admissible platform input
      (asked world input transaction codeVerifier).database identity userId
      membership :=
    { admissible with }
  rcases completes_admitIdentity admits
    (asked world input transaction codeVerifier).exchanges with
    ⟨issued, final, yields⟩
  refine ⟨{ issued := issued, returnTo := transaction.returnTo }, final, ?_⟩
  unfold Yields
  rw [run_of_reaches reaches, answer]
  exact Script.yields_run_bind.mpr
    ⟨issued, final, yields, Script.yields_run_pure.mpr ⟨rfl, rfl⟩⟩

/-- The consumption stays when the database admits the identity. -/
theorem afterCallback_of_admissible {next : World}
    {identity : ProviderIdentity} {userId : JsString}
    {membership : TenantMembershipRow}
    (reaches : Reaches platform world input transaction codeVerifier)
    (answer : input.provider (callbackInput input transaction codeVerifier) =
      .ok identity)
    (admissible : Admissible platform input world.database identity userId
      membership)
    (stepped : afterCallback platform world input = .ok next) :
    next.database.transactions =
      consumed input world.database.transactions := by
  rcases completes_completeIdentityLogin reaches answer admissible with
    ⟨login, final, completes⟩
  have ran : (completeIdentityLogin platform input).run world =
      (.ok login, final) := completes
  have keeps : Script.Keeps loginRecord
      (answered platform input transaction (.ok identity)) :=
    keeps_answered _
  have kept := keeps (asked world input transaction codeVerifier)
  rw [← answer, ← run_of_reaches reaches, ran] at kept
  rw [← Except.ok.inj stepped]
  unfold withIdentityTransaction
  rw [ran]
  exact (Prod.mk.inj kept).2

end Callbacks

/-! ## Runs -/

/-- The ids of the login transactions are their primary key. -/
def TransactionsKeyed (transactions : List StoredOAuthTransaction) : Prop :=
  (transactions.map (·.transactionId)).Nodup

/-- The provider has been asked about the login transaction once at most, and
only if the login transaction is consumed. -/
structure OneTime (transactionId : JsString) (world : World) : Prop where
  keyed : TransactionsKeyed world.database.transactions
  once : (exchangesFor transactionId world).length ≤ 1
  closed : exchangesFor transactionId world ≠ [] →
    ∀ row ∈ world.database.transactions,
      row.transactionId = transactionId → row.consumedAt.isSome = true

section Runs

variable {platform : IdentityPlatform} {transactionId : JsString}
  {input : LoginInput} {world next : World}

theorem consumed_transactionIds (input : LoginInput)
    (transactions : List StoredOAuthTransaction) :
    (consumed input transactions).map (·.transactionId) =
      transactions.map (·.transactionId) := by
  unfold consumed
  rw [List.map_map]
  apply List.map_congr_left
  intro row _
  simp only [Function.comp_apply]
  split <;> rfl

/-- A consumption never opens a login transaction. -/
theorem closed_consumed {transactions : List StoredOAuthTransaction}
    (closed : ∀ row ∈ transactions,
      row.transactionId = transactionId → row.consumedAt.isSome = true) :
    ∀ row ∈ consumed input transactions,
      row.transactionId = transactionId → row.consumedAt.isSome = true := by
  intro row member isIt
  rcases List.mem_map.mp member with ⟨old, oldMember, same⟩
  by_cases selected : isConsumable (sha256 input.transactionToken)
      (sha256 input.state) input.now old = true
  · rw [if_pos selected] at same
    rw [← same]
    rfl
  · rw [if_neg selected] at same
    rw [← same] at isIt ⊢
    exact closed old oldMember isIt

/-- The callback closes the login transaction that it finds. -/
theorem closed_of_found {transactions : List StoredOAuthTransaction}
    {transaction : StoredOAuthTransaction}
    (keyed : TransactionsKeyed transactions)
    (found : transactions.find? (isConsumable (sha256 input.transactionToken)
      (sha256 input.state) input.now) = some transaction) :
    ∀ row ∈ consumed input transactions,
      row.transactionId = transaction.transactionId →
      row.consumedAt.isSome = true := by
  intro row member isIt
  rcases List.mem_map.mp member with ⟨old, oldMember, same⟩
  have selected := List.find?_some found
  by_cases isSelected : isConsumable (sha256 input.transactionToken)
      (sha256 input.state) input.now old = true
  · rw [if_pos isSelected] at same
    rw [← same]
    rfl
  · rw [if_neg isSelected] at same
    rw [← same] at isIt
    have isTransaction : old = transaction :=
      List.inj_on_of_nodup_map keyed oldMember
        (List.mem_of_find?_eq_some found) isIt
    rw [isTransaction] at isSelected
    exact absurd selected isSelected

theorem exchangesFor_asked_of_eq {transaction : StoredOAuthTransaction}
    {codeVerifier : JsString}
    (same : next.exchanges =
      (asked world input transaction codeVerifier).exchanges)
    (isIt : transaction.transactionId = transactionId) :
    exchangesFor transactionId next = exchangesFor transactionId world ++
      [⟨transactionId, callbackInput input transaction codeVerifier⟩] := by
  unfold exchangesFor
  rw [same, asked, List.filter_append, isIt]
  simp

theorem exchangesFor_asked_of_ne {transaction : StoredOAuthTransaction}
    {codeVerifier : JsString}
    (same : next.exchanges =
      (asked world input transaction codeVerifier).exchanges)
    (other : transaction.transactionId ≠ transactionId) :
    exchangesFor transactionId next = exchangesFor transactionId world := by
  unfold exchangesFor
  rw [same, asked, List.filter_append]
  simp [other]

theorem oneTime_of_reaches {transaction : StoredOAuthTransaction}
    {codeVerifier : JsString} (holds : OneTime transactionId world)
    (admissibly : AnsweredAdmissibly platform transactionId world input)
    (reaches : Reaches platform world input transaction codeVerifier)
    (stepped : afterCallback platform world input = .ok next) :
    OneTime transactionId next := by
  rcases afterCallback_of_reaches reaches stepped with ⟨exchanges, rows⟩
  have keyed : TransactionsKeyed next.database.transactions := by
    unfold TransactionsKeyed
    cases rows with
    | inl kept =>
        rw [kept, consumed_transactionIds]
        exact holds.keyed
    | inr rolledBack =>
        rw [rolledBack]
        exact holds.keyed
  by_cases isIt : transaction.transactionId = transactionId
  · rcases admissibly transaction codeVerifier reaches isIt with
      ⟨identity, userId, membership, answer, admissible⟩
    have kept := afterCallback_of_admissible reaches answer admissible stepped
    have isOpen := List.find?_some reaches.found
    have first : exchangesFor transactionId world = [] := by
      by_contra asked
      have closed := holds.closed asked transaction
        (List.mem_of_find?_eq_some reaches.found) isIt
      unfold isConsumable at isOpen
      simp only [Bool.and_eq_true] at isOpen
      rw [Option.isNone_iff_eq_none.mp isOpen.1.2] at closed
      exact nomatch closed
    refine ⟨keyed, ?_, fun _ => ?_⟩
    · rw [exchangesFor_asked_of_eq exchanges isIt, first]
      exact le_rfl
    · rw [kept, ← isIt]
      exact closed_of_found holds.keyed reaches.found
  · have same := exchangesFor_asked_of_ne exchanges isIt
    refine ⟨keyed, ?_, fun asked => ?_⟩
    · rw [same]
      exact holds.once
    · rw [same] at asked
      cases rows with
      | inl kept =>
          rw [kept]
          exact closed_consumed (holds.closed asked)
      | inr rolledBack =>
          rw [rolledBack]
          exact holds.closed asked

theorem oneTime_afterCallback (holds : OneTime transactionId world)
    (admissibly : AnsweredAdmissibly platform transactionId world input)
    (stepped : afterCallback platform world input = .ok next) :
    OneTime transactionId next := by
  by_cases reached : ∃ transaction codeVerifier,
      Reaches platform world input transaction codeVerifier
  · rcases reached with ⟨transaction, codeVerifier, reaches⟩
    exact oneTime_of_reaches holds admissibly reaches stepped
  · have same := afterCallback_of_not_reaches
      (fun transaction codeVerifier reaches =>
        reached ⟨transaction, codeVerifier, reaches⟩) stepped
    rw [same]
    exact holds

end Runs

/-- In every run of callbacks the provider is asked once at most about a login
transaction, if it names an admissible identity whenever it is asked. -/
theorem completeIdentityLogin_oneTime (platform : IdentityPlatform)
    (transactionId : JsString) (start final : World)
    (callbacks : List LoginInput)
    (keyed : TransactionsKeyed start.database.transactions)
    (unasked : exchangesFor transactionId start = [])
    (admissibly : Along (afterCallback platform)
      (AnsweredAdmissibly platform transactionId) start callbacks)
    (ran : run (afterCallback platform) start callbacks = .ok final) :
    (exchangesFor transactionId final).length ≤ 1 := by
  have initially : OneTime transactionId start := by
    refine ⟨keyed, ?_, ?_⟩
    · rw [unasked]
      exact Nat.zero_le 1
    · rw [unasked]
      exact fun asked => absurd rfl asked
  have ended : OneTime transactionId final :=
    run_invariant (afterCallback platform) (OneTime transactionId)
      oneTime_afterCallback initially admissibly ran
  exact ended.once

/-! ## A repeated callback -/

theorem memberLogin_answeredAdmissibly :
    AnsweredAdmissibly plainPlatform (js "transaction") memberWorld
      memberLogin := by
  intro transaction codeVerifier _ _
  refine ⟨memberIdentity, js "usr_member",
    { tenantId := js "tenant"
      role := .tenantAdmin
      status := .active
      revokedAt := none
      membershipId := js "membership"
      userId := js "usr_member" }, rfl, ?_⟩
  exact
    { verified := rfl
      known := .inl ⟨_, rfl, rfl, rfl⟩
      email := by decide
      account := .inr fun _ member => nomatch member
      chosen := rfl
      active := by decide
      tenant := by decide
      positive := by decide
      ordered := by decide
      expires := by decide
      fresh := fun _ member => nomatch member }

/-- The member logs in and calls back once more. -/
theorem memberLogin_oneTime :
    ∃ final,
      run (afterCallback plainPlatform) memberWorld
          [memberLogin, memberLogin] = .ok final ∧
        (exchangesFor (js "transaction") final).length ≤ 1 := by
  refine ⟨_, rfl, ?_⟩
  refine completeIdentityLogin_oneTime plainPlatform (js "transaction")
    memberWorld _ [memberLogin, memberLogin] (List.nodup_singleton _) rfl
    ⟨memberLogin_answeredAdmissibly, ?_⟩ rfl
  intro next stepped
  refine ⟨?_, fun _ _ => trivial⟩
  intro transaction codeVerifier reaches _
  have closed : findOpen (withIdentityTransaction
      (completeIdentityLogin plainPlatform memberLogin) memberWorld).2
      memberLogin = none := by
    decide +kernel
  have found : findOpen next memberLogin = some transaction := reaches.found
  rw [← Except.ok.inj stepped, closed] at found
  exact nomatch found

/-- A login whose email the provider has not verified. -/
def unverifiedLogin : LoginInput :=
  { memberLogin with
    provider := fun _ => .ok { memberIdentity with emailVerified := false } }

/-- The rejected login opens its transaction again, and the same callback asks
the provider once more. -/
theorem unverifiedLogin_not_oneTime :
    ¬∀ (platform : IdentityPlatform) (transactionId : JsString)
        (start final : World) (callbacks : List LoginInput),
      TransactionsKeyed start.database.transactions →
      exchangesFor transactionId start = [] →
      run (afterCallback platform) start callbacks = .ok final →
      (exchangesFor transactionId final).length ≤ 1 := by
  intro claim
  have once := claim plainPlatform (js "transaction") memberWorld _
    [unverifiedLogin, unverifiedLogin] (List.nodup_singleton _) rfl rfl
  exact absurd once (by decide +kernel)

end BidayaxExecutive.Identity
