import BidayaxExecutive.Identity.ProviderRevocation

/-!
# Successors of sessions

A refresh revokes a session and issues its successor, in two statements.  No
session gets a second successor, however the statements of refreshes, logins,
logouts, resolutions and webhooks interleave: a refresh that has revoked its
session holds it until the successor is there.
-/

namespace BidayaxExecutive.Identity

open BidayaxExecutive.Runtime JsString
open BidayaxExecutive.Library.Guards
open BidayaxExecutive.Library.Transactions
open BidayaxExecutive.Library.Scripts
open BidayaxExecutive.Library.Schedules

/-! ## Sessions that are replaced -/

/-- The sessions that have a successor. -/
def replaced (sessions : List StoredApplicationSession) : List JsString :=
  sessions.filterMap (·.rotatedFromSessionId)

/-- The session is stored, and it is not live. -/
structure Spent (sessions : List StoredApplicationSession)
    (sessionId : JsString) : Prop where
  stored : ∃ session ∈ sessions, session.sessionId = sessionId
  revoked : ∀ session ∈ sessions, session.sessionId = sessionId →
    session.revokedAt.isSome = true

/-- No session has two successors, and none that has one is live.  The same
holds of the sessions that a refresh holds. -/
structure Successors (held : List JsString)
    (sessions : List StoredApplicationSession) : Prop where
  once : (held ++ replaced sessions).Nodup
  spent : ∀ sessionId ∈ held ++ replaced sessions, Spent sessions sessionId

section Rows

variable {environment : IdentityEnvironment} {held : List JsString}
  {sessions later : List StoredApplicationSession} {sessionId : JsString}

theorem replaced_revised
    (revisions : RevisedRows environment sessions later) :
    replaced later = replaced sessions := by
  induction revisions with
  | nil =>
      rfl
  | cons revision _ inductionHypothesis =>
      have same := revision.rotatedFromSessionId
      rw [replaced] at inductionHypothesis ⊢
      rw [replaced, List.filterMap_cons, List.filterMap_cons, same,
        inductionHypothesis]
      rfl

theorem exists_revision
    (revisions : RevisedRows environment sessions later)
    {old : StoredApplicationSession} (member : old ∈ sessions) :
    ∃ new ∈ later, Revised environment old new := by
  induction revisions with
  | nil =>
      cases member
  | cons revision _ inductionHypothesis =>
      rcases List.mem_cons.mp member with same | later
      · rw [same]
        exact ⟨_, List.mem_cons_self, revision⟩
      · obtain ⟨new, newMember, revised⟩ := inductionHypothesis later
        exact ⟨new, List.mem_cons_of_mem _ newMember, revised⟩

theorem Spent.revise (spent : Spent sessions sessionId)
    (revisions : RevisedRows environment sessions later) :
    Spent later sessionId := by
  constructor
  · obtain ⟨old, member, isIt⟩ := spent.stored
    obtain ⟨new, newMember, revision⟩ := exists_revision revisions member
    exact ⟨new, newMember, revision.sessionId.trans isIt⟩
  · intro new newMember isIt
    obtain ⟨old, member, revision⟩ := exists_of_revised revisions newMember
    exact revision.revoked
      (spent.revoked old member (revision.sessionId.symm.trans isIt))

theorem Spent.insert (spent : Spent sessions sessionId)
    {session : StoredApplicationSession}
    (insertable : Insertable sessions session) :
    Spent (sessions ++ [session]) sessionId := by
  obtain ⟨old, member, isIt⟩ := spent.stored
  constructor
  · exact ⟨old, List.mem_append_left _ member, isIt⟩
  · intro other otherMember otherIsIt
    rcases List.mem_append.mp otherMember with known | new
    · exact spent.revoked other known otherIsIt
    · rw [List.mem_singleton.mp new, ← isIt] at otherIsIt
      exact absurd otherIsIt.symm (insertable.freshId old member)

theorem stable_successors : Stable environment (Successors held) := by
  intro sessions revised revisions successors
  constructor
  · rw [replaced_revised revisions]
    exact successors.once
  · intro sessionId member
    rw [replaced_revised revisions] at member
    exact (successors.spent sessionId member).revise revisions

theorem Successors.perm {others : List JsString}
    (successors : Successors held sessions) (same : held.Perm others) :
    Successors others sessions := by
  have both := same.append_right (replaced sessions)
  constructor
  · exact both.nodup_iff.mp successors.once
  · intro sessionId member
    exact successors.spent sessionId (both.mem_iff.mpr member)

/-- A refresh may give up. -/
theorem Successors.release
    (successors : Successors (sessionId :: held) sessions) :
    Successors held sessions :=
  ⟨(List.nodup_cons.mp successors.once).2,
    fun other member =>
      successors.spent other (List.mem_cons_of_mem _ member)⟩

theorem replaced_append (session : StoredApplicationSession) :
    replaced (sessions ++ [session]) =
      replaced sessions ++ session.rotatedFromSessionId.toList := by
  rw [replaced, List.filterMap_append, ← replaced]
  cases session.rotatedFromSessionId.eq_none_or_eq_some with
  | inl first =>
      simp [first]
  | inr successor =>
      obtain ⟨parent, isParent⟩ := successor
      simp [isParent]

/-- A login issues a session that succeeds none. -/
theorem Successors.insert_first (successors : Successors held sessions)
    {session : StoredApplicationSession}
    (first : session.rotatedFromSessionId = none)
    (insertable : Insertable sessions session) :
    Successors held (sessions ++ [session]) := by
  have same : replaced (sessions ++ [session]) = replaced sessions := by
    rw [replaced_append, first]
    exact List.append_nil _
  constructor
  · rw [same]
    exact successors.once
  · intro sessionId member
    rw [same] at member
    exact (successors.spent sessionId member).insert insertable

/-- A refresh issues the successor of the session that it holds. -/
theorem Successors.insert_next
    (successors : Successors (sessionId :: held) sessions)
    {session : StoredApplicationSession}
    (next : session.rotatedFromSessionId = some sessionId)
    (insertable : Insertable sessions session) :
    Successors held (sessions ++ [session]) := by
  have same : (sessionId :: held ++ replaced sessions).Perm
      (held ++ replaced (sessions ++ [session])) := by
    rw [replaced_append, next, List.cons_append, ← List.append_assoc]
    exact (List.perm_append_singleton _ _).symm
  constructor
  · exact same.nodup_iff.mp successors.once
  · intro other member
    exact (successors.spent other (same.mem_iff.mpr member)).insert insertable

theorem live_of_revokeSession {now : TimeValue}
    {database written : IdentityDatabase}
    (revoked : revokeSession sessionId now database = (.ok true, written)) :
    (∃ session ∈ database.sessions, isLive sessionId session = true) ∧
      written.sessions = database.sessions.map fun session =>
        if isLive sessionId session then
          { session with revokedAt := some now }
        else session := by
  unfold revokeSession at revoked
  rw [bind_apply] at revoked
  rcases updated : updateSessions (isLive sessionId)
      (fun session => { session with revokedAt := some now }) database with
    ⟨outcome, middle⟩
  rw [updated] at revoked
  cases outcome with
  | error failure =>
      cases (Prod.mk.inj revoked).1
  | ok count =>
      obtain ⟨counted, rfl⟩ := Prod.mk.inj revoked
      have isOne : count = 1 := beq_iff_eq.mp (Except.ok.inj counted)
      obtain ⟨_, _, result⟩ := bind_eq_ok.mp (statement_eq_ok.mp updated)
      obtain ⟨sameCount, rfl⟩ := Prod.mk.inj (Except.ok.inj result)
      rw [isOne] at sameCount
      obtain ⟨session, found⟩ := List.length_eq_one_iff.mp sameCount
      have member : session ∈ database.sessions.filter (isLive sessionId) := by
        rw [found]
        exact List.mem_cons_self
      exact ⟨⟨session, List.mem_filter.mp member⟩, rfl⟩

/-- Only the first refresh finds its session live. -/
theorem Successors.revoke {now : TimeValue}
    {database written : IdentityDatabase}
    (successors : Successors held database.sessions)
    (revoked : revokeSession sessionId now database = (.ok true, written)) :
    Successors (sessionId :: held) written.sessions := by
  obtain ⟨⟨live, member, isLive⟩, wrote⟩ := live_of_revokeSession revoked
  simp only [Identity.isLive, Bool.and_eq_true, beq_iff_eq,
    Option.isNone_iff_eq_none] at isLive
  have revisions : RevisedRows hourEnvironment database.sessions
      written.sessions := by
    rw [wrote]
    apply revisedRows_map
    intro session _
    split_ifs
    · exact Revised.revoke session now
    · exact Revised.refl session
  have kept := stable_successors _ _ revisions successors
  have first : sessionId ∉ held ++ replaced written.sessions := by
    intro known
    rw [replaced_revised revisions] at known
    have dead := (successors.spent sessionId known).revoked live member
      isLive.1
    rw [isLive.2] at dead
    cases dead
  have spent : Spent written.sessions sessionId := by
    constructor
    · obtain ⟨new, newMember, revision⟩ := exists_revision revisions member
      exact ⟨new, newMember, revision.sessionId.trans isLive.1⟩
    · intro new newMember isIt
      rw [wrote] at newMember
      obtain ⟨old, _, same⟩ := List.mem_map.mp newMember
      by_cases wasLive : Identity.isLive sessionId old = true
      · rw [if_pos wasLive] at same
        rw [← same]
        rfl
      · rw [if_neg wasLive] at same
        rw [same] at wasLive
        simpa [Identity.isLive, isIt, Option.isSome_iff_ne_none] using wasLive
  constructor
  · exact List.nodup_cons.mpr ⟨first, kept.once⟩
  · intro other known
    rcases List.mem_cons.mp known with same | old
    · rw [same]
      exact spent
    · exact kept.spent other old

end Rows

/-! ## Calls -/

inductive IdentityCall where
  | session (now : TimeValue) (call : SessionCall)
  | login (input : LoginInput)
  | webhook (input : WebhookInput)

section Calls

variable (host : Host) (environment : IdentityEnvironment)
  (platform : IdentityPlatform)

def callScript : IdentityCall → Service Unit
  | .session now call => callService host environment now call
  | .login input => discard (completeIdentityLogin platform input)
  | .webhook input => webhookScript input

end Calls

/-- The script issues no session but those that succeed none. -/
def Respects (script : Service Unit) : Prop :=
  ∃ environment, StepsTable environment
    (fun input => input.rotatedFromSessionId = none) script

/-- What is known of a script that holds the session, or none. -/
def Stands : Option JsString → Service Unit → Prop
  | none, script =>
      (∃ rotation, script = rotationScript rotation) ∨ Respects script
  | some sessionId, script =>
      ∃ rotation : RotationInput, rotation.session.sessionId = sessionId ∧
        script = afterRevocation rotation

section Scripts

variable {host : Host} {environment : IdentityEnvironment}
  {platform : IdentityPlatform} {held : List JsString}

theorem respects_done (outcome : Except IdentityFailure Unit) :
    Respects (.done outcome) :=
  ⟨hourEnvironment, trivial⟩

theorem respects_of_quiet {script : Service Unit} (quiet : Quiet script) :
    Respects script := by
  refine ⟨hourEnvironment, ?_⟩
  induction script with
  | done outcome =>
      exact trivial
  | step write next inductionHypothesis =>
      intro world
      obtain ⟨unchanged, later⟩ := quiet world
      refine ⟨.revises ?_, inductionHypothesis world later⟩
      rw [(Prod.mk.inj unchanged).1]
      exact RevisedRows.refl _

theorem steps_completeIdentityLogin (input : LoginInput) :
    StepsTable environment (fun issue => issue.rotatedFromSessionId = none)
      (completeIdentityLogin platform input) := by
  apply Script.steps_bind
  · exact steps_execute (revises_consumeOAuthTransaction _ _ _)
  · intro found
    cases found with
    | none =>
        exact trivial
    | some transaction =>
        apply steps_compute_bind
        intro codeVerifier _
        apply Script.steps_bind (steps_completeCallback _ _ _)
        intro identity
        apply Script.steps_bind
        · apply Script.steps_bind
          · exact steps_persistProviderIdentity identity input.now
          · intro user
            apply Script.steps_bind (steps_execute (revises_query _))
            intro memberships
            apply Script.steps_bind (steps_resolveProviderTenant identity)
            intro linkedTenantId
            apply steps_compute_bind
            intro membership _
            apply Script.steps_bind
            · exact steps_issueApplicationSession rfl
            · intro issued
              apply Script.steps_bind (steps_saveAuditEvents _)
              exact fun _ => trivial
        · exact fun _ => trivial

theorem stands_callScript (call : IdentityCall) :
    Stands none (callScript host environment platform call) := by
  have finished (value : Unit) : StepsTable environment
      (fun issue => issue.rotatedFromSessionId = none)
      (pure value : Service Unit) :=
    trivial
  cases call with
  | session now call =>
      cases call with
      | rotate drawn session =>
          exact .inl ⟨_, rfl⟩
      | resolve sessionToken =>
          exact .inr ⟨environment, Script.steps_bind
            (steps_resolveApplicationSession now sessionToken)
            fun _ => trivial⟩
      | revoke sessionId tenantId userId =>
          exact .inr ⟨environment, steps_revokeApplicationSession _⟩
  | login input =>
      exact .inr ⟨environment, Script.steps_bind
        (steps_completeIdentityLogin input) fun _ => trivial⟩
  | webhook input =>
      exact .inr ⟨environment, Script.steps_bind
        (steps_processIdentityWebhook input) fun _ => trivial⟩

/-- A script takes its step to where it holds a session, holds none any more
or has not held one before. -/
theorem stands_step {label : Option JsString} {write : World → World}
    {next : World → Service Unit} {world : World}
    (stands : Stands label (.step write next))
    (successors : Successors (label.toList ++ held) world.database.sessions) :
    ∃ new, Stands new (next world) ∧
      Successors (new.toList ++ held) (write world).database.sessions := by
  cases label with
  | none =>
      rcases stands with ⟨rotation, isRotation⟩ | respects
      · rw [rotationScript_eq] at isRotation
        obtain ⟨rfl, rfl⟩ := Script.step.inj isRotation
        rcases ended : revokeSession rotation.session.sessionId rotation.now
          world.database with ⟨outcome, written⟩
        have stable : Stable rotation.environment (Successors held) :=
          stable_successors
        have kept := stable _ _ (revises_revokeSession
          rotation.session.sessionId rotation.now world.database) successors
        rw [ended] at kept
        simp only [ended]
        cases outcome with
        | error failure =>
            exact ⟨none, .inr (respects_done _), kept⟩
        | ok revoked =>
            cases revoked with
            | false =>
                exact ⟨none, .inr (respects_done _), kept⟩
            | true =>
                exact ⟨some rotation.session.sessionId, ⟨rotation, rfl, rfl⟩,
                  successors.revoke ended⟩
      · obtain ⟨environment, steps⟩ := respects
        obtain ⟨step, later⟩ := steps world
        refine ⟨none, .inr ⟨environment, later⟩, ?_⟩
        cases step with
        | revises revisions =>
            exact stable_successors _ _ revisions successors
        | issues first new _ insertable same =>
            have built := newSession_of_eq_ok new
            rw [same]
            exact successors.insert_first
              (built.rotatedFromSessionId.trans first) insertable
  | some sessionId =>
      obtain ⟨rotation, rfl, isRest⟩ := stands
      rcases begins_afterRevocation rotation with finished | begins
      · rw [← isRest] at finished
        cases finished
      · obtain ⟨session, new, rest, isBegin, quiet⟩ := begins
        rw [isBegin] at isRest
        obtain ⟨rfl, rfl⟩ := Script.step.inj isRest
        refine ⟨none, .inr (respects_of_quiet (quiet world)), ?_⟩
        rcases createSession_cases session world.database with
          unchanged | inserted
        · simp only [unchanged]
          exact successors.release
        · simp only [inserted.2.2]
          have built := newSession_of_eq_ok new
          exact successors.insert_next built.rotatedFromSessionId
            (insertable_of_sessionReferences inserted.2.1)

end Scripts

/-! ## The pool -/

section Pool

variable {labels : List (Option JsString)} {label : Option JsString}
  {position : Nat}

/-- The label of one script stands out. -/
theorem held_set (inLabels : position < labels.length) :
    ((labels.set position label).filterMap id).Perm
      (label.toList ++
        (labels.take position ++ labels.drop (position + 1)).filterMap id) := by
  rw [List.set_eq_take_append_cons_drop, if_pos inLabels,
    List.filterMap_append, List.filterMap_append]
  cases label with
  | none =>
      exact List.Perm.refl _
  | some sessionId =>
      have listed : List.filterMap id
          (some sessionId :: labels.drop (position + 1)) =
            sessionId :: (labels.drop (position + 1)).filterMap id :=
        List.filterMap_cons_some rfl
      rw [listed]
      exact List.perm_middle

theorem held_of_getElem? (found : labels[position]? = some label) :
    (labels.filterMap id).Perm
      (label.toList ++
        (labels.take position ++ labels.drop (position + 1)).filterMap id) := by
  obtain ⟨inLabels, isLabel⟩ := List.getElem?_eq_some_iff.mp found
  have same : labels.set position label = labels := by
    rw [← isLabel]
    exact List.set_getElem_self inLabels
  have separate : ((labels.set position label).filterMap id).Perm
      (label.toList ++ (labels.take position ++
        labels.drop (position + 1)).filterMap id) :=
    held_set inLabels
  rw [same] at separate
  exact separate

end Pool

/-- No session gets a second successor and no session that has one is live, in
whatever order the statements of the calls are executed. -/
theorem sessions_succeededOnce (host : Host) (environment : IdentityEnvironment)
    (platform : IdentityPlatform) (calls : List IdentityCall)
    (picks : List Nat) (scripts : List (Service Unit)) (start final : World)
    (initially : Successors [] start.database.sessions)
    (picked : pickSteps picks
      (calls.map (callScript host environment platform)) start =
        some (scripts, final)) :
    Successors [] final.database.sessions := by
  have standing : List.Forall₂ Stands
      (calls.map fun _ => none)
      (calls.map (callScript host environment platform)) := by
    rw [List.forall₂_map_left_iff, List.forall₂_map_right_iff]
    exact List.forall₂_same.mpr fun call _ => stands_callScript call
  have noneHeld : (calls.map fun _ => (none : Option JsString)).filterMap id =
      [] := by
    rw [List.filterMap_eq_nil_iff]
    intro label member
    obtain ⟨_, _, rfl⟩ := List.mem_map.mp member
    rfl
  obtain ⟨labels, _, successors⟩ := pickSteps_labelled Stands
    (fun labels world =>
      Successors (labels.filterMap id) world.database.sessions)
    (by
      intro labels position label write next world found stands successors
      obtain ⟨new, standsNext, later⟩ :=
        stands_step stands (successors.perm (held_of_getElem? found))
      obtain ⟨inLabels, _⟩ := List.getElem?_eq_some_iff.mp found
      exact ⟨new, standsNext, later.perm (held_set inLabels).symm⟩)
    standing (noneHeld ▸ initially) picked
  have release : ∀ held, Successors held final.database.sessions →
      Successors [] final.database.sessions := by
    intro held
    induction held with
    | nil =>
        exact id
    | cons sessionId rest inductionHypothesis =>
        exact fun successors => inductionHypothesis successors.release
  exact release _ successors

/-! ## Two refreshes of one session -/

/-- Both come with the session that the member has logged in with. -/
def memberRefreshes : List IdentityCall :=
  [.session memberRotation.now
      (.rotate memberRotation.drawn memberRotation.session),
    .session memberRotation.now
      (.rotate ⟨js "third token", js "third csrf", js "third"⟩
        memberRotation.session)]

/-- The second one comes between the two statements of the first one. -/
def refreshPicks : List Nat :=
  [0, 1, 0, 0, 0]

theorem loggedInWorld_successors :
    Successors [] loggedInWorld.database.sessions := by
  have first : replaced loggedInWorld.database.sessions = [] := by
    decide +kernel
  constructor
  · rw [first]
    exact List.nodup_nil
  · rw [first]
    exact List.forall_mem_nil _

theorem refreshPicks_issue :
    ((pickSteps refreshPicks (memberRefreshes.map
        (callScript (recordedHost []) hourEnvironment plainPlatform))
        loggedInWorld).map fun reached =>
      (reached.2.database.sessions.map (·.sessionId),
        replaced reached.2.database.sessions)) =
      some ([js "ses_first", js "ses_second"], [js "ses_first"]) := by
  decide +kernel

theorem sessions_succeededOnce_member :
    ∃ final : World, replaced final.database.sessions = [js "ses_first"] ∧
      Successors [] final.database.sessions := by
  obtain ⟨⟨scripts, final⟩, picked, issues⟩ :=
    Option.map_eq_some_iff.mp refreshPicks_issue
  exact ⟨final, (Prod.mk.inj issues).2,
    sessions_succeededOnce (recordedHost []) hourEnvironment plainPlatform
      memberRefreshes refreshPicks scripts loggedInWorld final
      loggedInWorld_successors picked⟩

end BidayaxExecutive.Identity
