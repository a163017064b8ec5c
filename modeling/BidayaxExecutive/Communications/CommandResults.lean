import BidayaxExecutive.Communications.EvidenceBinding
import BidayaxExecutive.Library.KeyedRows

/-!
# Results of commands

A reservation is inserted once and then decided once.  The trigger on updates
leaves everything alone that a command was requested and authorized with, and
lets the status leave `reserved` only; the trigger on deletions refuses them
all.  What is done to other tables must leave every row that a reservation
refers to.
-/

namespace BidayaxExecutive.Communications

open BidayaxExecutive.Library BidayaxExecutive.Library.Guards
open BidayaxExecutive.Library.Runs BidayaxExecutive.Library.KeyedRows

/-! ## The trigger -/

/-- The columns that no update may change. -/
def CommandReservation.sameEvidence (new old : CommandReservation) : Bool :=
  new.tenantId == old.tenantId && new.cardId == old.cardId &&
    new.scopeType == old.scopeType && new.scopeId == old.scopeId &&
    new.operation == old.operation &&
    new.idempotencyKey == old.idempotencyKey &&
    new.requestHash == old.requestHash &&
    new.actorType == old.actorType &&
    new.actorUserId == old.actorUserId &&
    new.actorServiceId == old.actorServiceId &&
    new.actorPlatformId == old.actorPlatformId &&
    new.sessionId == old.sessionId && new.cardGrantId == old.cardGrantId &&
    new.authorizationDecisionId == old.authorizationDecisionId &&
    new.requiredPermission == old.requiredPermission &&
    new.permissionVersion == old.permissionVersion &&
    new.policyVersion == old.policyVersion &&
    new.createdAt == old.createdAt && new.expiresAt == old.expiresAt

def communicationProducingOperations : List CommandOperation :=
  [.requestCallback, .cancelCallback, .scheduleCommunication,
    .initiateCommunication, .acceptInboundCommunicationEvent,
    .escalateToHuman, .terminateCommunication]

/-- On `UPDATE`. -/
def enforceCommunicationCommandResultUpdate (old new : CommandReservation) :
    Accepted PUnit := do
  if ¬new.sameEvidence old then
    throw <| .raised
      "communication command authorization and request evidence is immutable"
  if old.status ≠ .reserved ∨
      (new.status ≠ .completed ∧ new.status ≠ .failed) then
    throw <| .raised <|
      "communication command result update must move reserved to a terminal" ++
        " command status"
  if new.completedAt.all fun completedAt => completedAt < new.createdAt then
    throw <| .raised <|
      "communication command terminal result requires completed_at after" ++
        " creation"
  if new.status = .completed ∧
      new.operation ∈ communicationProducingOperations ∧
      new.resultCommunicationId.isNone then
    throw <| .raised <|
      "communication command completion requires result communication id for" ++
        " communication-producing operation"
  if new.status = .completed ∧
      new.operation ∉ communicationProducingOperations ∧
      new.resultCommunicationId.isSome then
    throw <| .raised <|
      "communication command completion cannot carry result communication id" ++
        " for non-communication operation"
  if new.status = .failed ∧ new.resultCommunicationId.isSome then
    throw <| .raised
      "communication command failure cannot carry a result communication id"

/-! ## Statements -/

/-- The primary key. -/
structure CommandKey where
  tenantId : Text
  scopeType : ScopeType
  scopeId : Text
  operation : CommandOperation
  idempotencyKey : Text
  deriving DecidableEq

def CommandReservation.key (command : CommandReservation) : CommandKey where
  tenantId := command.tenantId
  scopeType := command.scopeType
  scopeId := command.scopeId
  operation := command.operation
  idempotencyKey := command.idempotencyKey

/-- The foreign keys of the table. -/
def CommandReservation.referencesKnown (database : CommunicationsDatabase)
    (command : CommandReservation) : Bool :=
  database.knowsTenant command.tenantId &&
    database.knowsCard command.tenantId command.cardId &&
    database.knowsMember command.tenantId command.actorUserId &&
    database.knowsCommunication command.tenantId
      command.resultCommunicationId command.cardId &&
    (command.sessionId.all fun identifier =>
      database.sessions.any fun session =>
        session.sessionId == identifier) &&
    (command.cardGrantId.all fun identifier =>
      database.grants.any fun grant => grant.grantId == identifier) &&
    (command.actorServiceId.all fun identifier =>
      database.cryptoIdentities.any fun identity =>
        identity.identityId == identifier &&
          identity.tenantId == command.tenantId) &&
    (command.actorPlatformId.all fun identifier =>
      database.cryptoIdentities.any fun identity =>
        identity.identityId == identifier &&
          identity.tenantId == command.tenantId)

/-- `UPDATE … SET …` of the row with the primary key. -/
def updateCommand (database : CommunicationsDatabase) (key : CommandKey)
    (revise : CommandReservation → CommandReservation) :
    Accepted CommunicationsDatabase :=
  match database.commands.find? fun command => command.key = key with
  | none => pure database
  | some old => do
      enforceCommunicationCommandResultUpdate old (revise old)
      if ¬(revise old).Valid then throw .checkViolation
      if database.commands.any fun other =>
          other.key ≠ key && (revise old).sameKey other then
        throw .keyInUse
      if ¬(revise old).referencesKnown database then throw .missingReference
      return { database with
        commands := replace CommandReservation.key key (revise old)
          database.commands }

/-- `DELETE` of the row with the primary key. -/
def deleteCommand (database : CommunicationsDatabase) (key : CommandKey) :
    Accepted CommunicationsDatabase :=
  if database.commands.any fun command => command.key = key then
    throw <| .raised "communication command evidence cannot be deleted"
  else pure database

/-- `elsewhere` stands for whatever is done to the other tables and to the
setting. -/
inductive CommandStatement where
  | insert (new : CommandReservation)
  | update (key : CommandKey)
      (revise : CommandReservation → CommandReservation)
  | delete (key : CommandKey)
  | elsewhere (other : CommunicationsDatabase)

def executeCommand (database : CommunicationsDatabase) :
    CommandStatement → Accepted CommunicationsDatabase
  | .insert new => insertCommand database new
  | .update key revise => updateCommand database key revise
  | .delete key => deleteCommand database key
  | .elsewhere other =>
      if database.commands.all (·.referencesKnown other) then
        pure { other with commands := database.commands }
      else throw .stillReferenced

/-! ## What the trigger leaves -/

theorem CommandReservation.sameEvidence_iff
    {new old : CommandReservation} :
    new.sameEvidence old = true ↔
      new = { old with
        status := new.status
        completedAt := new.completedAt
        resultCommunicationId := new.resultCommunicationId } := by
  cases new
  cases old
  simp [sameEvidence, and_assoc]

/-- The row of a later time: its evidence is the same, and it differs only if
it has been decided in between. -/
structure CommandReservation.Follows (row next : CommandReservation) :
    Prop where
  evidence : next.sameEvidence row = true
  decided : next = row ∨ row.status = .reserved ∧ next.status ≠ .reserved

theorem CommandReservation.Follows.refl (row : CommandReservation) :
    row.Follows row where
  evidence := CommandReservation.sameEvidence_iff.mpr rfl
  decided := Or.inl rfl

theorem CommandReservation.Follows.trans
    (first second third : CommandReservation)
    (begins : first.Follows second) (goesOn : second.Follows third) :
    first.Follows third where
  evidence := by
    have sameFirst := CommandReservation.sameEvidence_iff.mp begins.evidence
    have sameSecond := CommandReservation.sameEvidence_iff.mp goesOn.evidence
    apply CommandReservation.sameEvidence_iff.mpr
    rw [sameSecond, sameFirst]
  decided := by
    rcases goesOn.decided with rfl | ⟨reserved, decided⟩
    · exact begins.decided
    · rcases begins.decided with rfl | ⟨_, terminal⟩
      · exact Or.inr ⟨reserved, decided⟩
      · exact absurd reserved terminal

theorem CommandReservation.key_eq_of_sameEvidence
    {new old : CommandReservation} (same : new.sameEvidence old = true) :
    new.key = old.key := by
  rw [CommandReservation.sameEvidence_iff.mp same]
  rfl

/-- A completed command has a communication exactly when its operation produces
one. -/
def CommandReservation.ResultFits (command : CommandReservation) : Prop :=
  command.status = .completed →
    (command.resultCommunicationId.isSome ↔
      command.operation ∈ communicationProducingOperations)

theorem enforceCommunicationCommandResultUpdate_eq_ok
    {old new : CommandReservation} {result : PUnit}
    (accepted : enforceCommunicationCommandResultUpdate old new =
      .ok result) :
    old.Follows new ∧ new.ResultFits := by
  unfold enforceCommunicationCommandResultUpdate at accepted
  simp only [guard_eq_ok, lastGuard_eq_ok, not_not] at accepted
  obtain ⟨evidence, moves, _, requires, forbids, _⟩ := accepted
  rw [not_or, not_not, not_and_or, not_not, not_not] at moves
  refine ⟨⟨evidence, Or.inr ⟨moves.1, ?_⟩⟩, ?_⟩
  · rcases moves.2 with completed | failed
    · rw [completed]
      intro same
      cases same
    · rw [failed]
      intro same
      cases same
  · intro completed
    constructor
    · intro present
      by_contra notProducing
      exact forbids ⟨completed, notProducing, present⟩
    · intro producing
      by_contra absent
      exact requires ⟨completed, producing, by simpa using absent⟩

/-! ## Steps -/

variable {database next : CommunicationsDatabase}

theorem insertCommand_eq_ok {new : CommandReservation}
    (inserted : insertCommand database new = .ok next) :
    new.status = .reserved ∧ new.Valid ∧
      (∀ old ∈ database.commands, old.key ≠ new.key) ∧
      new.referencesKnown database = true ∧
      next = { database with commands := database.commands ++ [new] } := by
  unfold insertCommand at inserted
  rcases bind_eq_ok.mp inserted with ⟨_, authorized, decidedRest⟩
  rcases bind_eq_ok.mp decidedRest with ⟨_, _, checked⟩
  simp only [guard_eq_ok, not_not] at checked
  obtain ⟨valid, free, known, isNext⟩ := checked
  unfold enforceCommunicationAuthorizationEvidence at authorized
  rw [guard_eq_ok, not_or, not_not] at authorized
  refine ⟨authorized.1.1, valid, ?_, ?_, (Except.ok.inj isNext).symm⟩
  · intro old member sameKey
    apply free
    rw [List.any_eq_true]
    refine ⟨old, member, ?_⟩
    have same : old.tenantId = new.tenantId ∧
        old.scopeType = new.scopeType ∧ old.scopeId = new.scopeId ∧
        old.operation = new.operation ∧
        old.idempotencyKey = new.idempotencyKey := by
      simpa [CommandReservation.key] using sameKey
    simp [CommandReservation.sameKey, same]
  · simpa [CommandReservation.referencesKnown, and_assoc] using known

theorem updateCommand_eq_ok {key : CommandKey}
    {revise : CommandReservation → CommandReservation}
    (updated : updateCommand database key revise = .ok next) :
    next = database ∨
      ∃ old ∈ database.commands, old.key = key ∧
        old.Follows (revise old) ∧ (revise old).ResultFits ∧
        (revise old).Valid ∧ (revise old).referencesKnown database = true ∧
        next = { database with
          commands := replace CommandReservation.key key (revise old)
            database.commands } := by
  unfold updateCommand at updated
  cases found : database.commands.find? fun command => command.key = key with
  | none =>
      rw [found] at updated
      exact Or.inl (Except.ok.inj updated).symm
  | some old =>
      rw [found] at updated
      rcases bind_eq_ok.mp updated with ⟨_, enforced, checked⟩
      simp only [guard_eq_ok, not_not] at checked
      obtain ⟨valid, _, known, isNext⟩ := checked
      have accepted := enforceCommunicationCommandResultUpdate_eq_ok enforced
      have hasKey : old.key = key := by
        simpa using List.find?_some found
      exact Or.inr ⟨old, List.mem_of_find?_eq_some found, hasKey, accepted.1,
        accepted.2, valid, known, (Except.ok.inj isNext).symm⟩

theorem deleteCommand_eq_ok {key : CommandKey}
    (deleted : deleteCommand database key = .ok next) : next = database := by
  unfold deleteCommand at deleted
  split at deleted
  · exact absurd deleted throw_ne_ok
  · exact (Except.ok.inj deleted).symm

/-! ## Runs -/

/-- What holds of the table at any time. -/
structure CommandsKept (database : CommunicationsDatabase) : Prop where
  oneRow : (database.commands.map CommandReservation.key).Nodup
  valid : ∀ row ∈ database.commands, row.Valid
  results : ∀ row ∈ database.commands, row.ResultFits
  references : ∀ row ∈ database.commands,
    row.referencesKnown database = true

theorem commandsKept_of_new (isNew : database.commands = []) :
    CommandsKept database := by
  have empty : ∀ row, row ∉ database.commands := by
    rw [isNew]
    exact fun _ => List.not_mem_nil
  constructor
  · rw [isNew]
    exact List.nodup_nil
  · exact fun row member => absurd member (empty row)
  · exact fun row member => absurd member (empty row)
  · exact fun row member => absurd member (empty row)

theorem executeCommand_step {statement : CommandStatement}
    (kept : CommandsKept database)
    (executed : executeCommand database statement = .ok next) :
    CommandsKept next ∧
      Evolves CommandReservation.key CommandReservation.Follows
        database.commands next.commands := by
  have unchanged := Evolves.refl CommandReservation.Follows.refl kept.oneRow
  cases statement with
  | insert new =>
      obtain ⟨reserved, valid, free, known, rfl⟩ := insertCommand_eq_ok executed
      refine ⟨⟨?_, ?_, ?_, ?_⟩, ?_⟩
      · exact Tables.nodup_map_insert CommandReservation.key kept.oneRow free
      · exact List.forall_mem_append.mpr
          ⟨kept.valid, List.forall_mem_singleton.mpr valid⟩
      · refine List.forall_mem_append.mpr
          ⟨kept.results, List.forall_mem_singleton.mpr fun completed => ?_⟩
        exact nomatch reserved.symm.trans completed
      · exact List.forall_mem_append.mpr
          ⟨kept.references, List.forall_mem_singleton.mpr known⟩
      · exact Evolves.insert CommandReservation.Follows.refl kept.oneRow free
  | update key revise =>
      rcases updateCommand_eq_ok executed with rfl |
        ⟨old, member, hasKey, follows, fits, valid, known, rfl⟩
      · exact ⟨kept, unchanged⟩
      · have newKey : (revise old).key = key :=
          (CommandReservation.key_eq_of_sameEvidence follows.evidence).trans
            hasKey
        refine ⟨⟨?_, ?_, ?_, ?_⟩, ?_⟩
        · rw [map_key_replace newKey]
          exact kept.oneRow
        · intro row rowMember
          rcases mem_replace rowMember with rfl | ⟨wasThere, _⟩
          · exact valid
          · exact kept.valid row wasThere
        · intro row rowMember
          rcases mem_replace rowMember with rfl | ⟨wasThere, _⟩
          · exact fits
          · exact kept.results row wasThere
        · intro row rowMember
          rcases mem_replace rowMember with rfl | ⟨wasThere, _⟩
          · exact known
          · exact kept.references row wasThere
        · exact Evolves.replace CommandReservation.Follows.refl kept.oneRow
            member hasKey newKey follows
  | delete key =>
      rw [deleteCommand_eq_ok executed]
      exact ⟨kept, unchanged⟩
  | elsewhere other =>
      rw [executeCommand] at executed
      split at executed
      · case isTrue stillKnown =>
          rw [← Except.ok.inj executed]
          rw [List.all_eq_true] at stillKnown
          exact ⟨⟨kept.oneRow, kept.valid, kept.results, stillKnown⟩, unchanged⟩
      · exact absurd executed throw_ne_ok

/-- A run keeps what holds of the table and evolves its rows. -/
theorem run_executeCommand {statements : List CommandStatement}
    (kept : CommandsKept database)
    (ran : run executeCommand database statements = .ok next) :
    CommandsKept next ∧
      Evolves CommandReservation.key CommandReservation.Follows
        database.commands next.commands := by
  induction statements generalizing database with
  | nil =>
      rw [← Except.ok.inj ran]
      exact ⟨kept, Evolves.refl CommandReservation.Follows.refl kept.oneRow⟩
  | cons statement rest inductionHypothesis =>
      rcases (run_cons_eq_ok executeCommand).mp ran with
        ⟨middle, executed, ranRest⟩
      have first := executeCommand_step kept executed
      have others := inductionHypothesis first.1 ranRest
      exact ⟨others.1,
        Evolves.trans CommandReservation.Follows.trans first.2 others.2⟩

/-- A row that is new after a statement is reserved. -/
theorem reserved_of_new {statement : CommandStatement}
    (executed : executeCommand database statement = .ok next)
    {row : CommandReservation} (member : row ∈ next.commands)
    (isNew : ∀ old ∈ database.commands, old.key ≠ row.key) :
    row.status = .reserved := by
  have notOld : row ∉ database.commands := fun old => isNew row old rfl
  cases statement with
  | insert new =>
      obtain ⟨reserved, _, _, _, rfl⟩ := insertCommand_eq_ok executed
      rcases List.mem_append.mp member with old | inserted
      · exact absurd old notOld
      · rw [List.mem_singleton.mp inserted]
        exact reserved
  | update key revise =>
      rcases updateCommand_eq_ok executed with rfl |
        ⟨old, oldMember, _, follows, _, _, _, rfl⟩
      · exact absurd member notOld
      · rcases mem_replace member with rfl | ⟨wasThere, _⟩
        · have sameKey :=
            CommandReservation.key_eq_of_sameEvidence follows.evidence
          exact absurd sameKey.symm (isNew old oldMember)
        · exact absurd wasThere notOld
  | delete key =>
      rw [deleteCommand_eq_ok executed] at member
      exact absurd member notOld
  | elsewhere other =>
      rw [executeCommand] at executed
      split at executed
      · rw [← Except.ok.inj executed] at member
        exact absurd member notOld
      · exact absurd executed throw_ne_ok

/-- The communication a command for a card has produced is of its tenant and
card. -/
theorem CommandsKept.sameCard (kept : CommandsKept database)
    {row : CommandReservation} (member : row ∈ database.commands)
    (forCard : row.scopeType = .card) {identifier : Text}
    (isResult : row.resultCommunicationId = some identifier) :
    row.cardId = some row.scopeId ∧
      ∃ communication ∈ database.communications,
        communication.communicationId = identifier ∧
          communication.tenantId = row.tenantId ∧
          communication.cardId = row.cardId := by
  have ofCard : row.cardId = some row.scopeId := by
    rcases (kept.valid row member).scope with card | tenant | platform
    · exact card.2
    · exact nomatch forCard.symm.trans tenant.1
    · exact nomatch forCard.symm.trans platform.1
  have known := kept.references row member
  simp only [CommandReservation.referencesKnown, Bool.and_eq_true] at known
  have knownResult : database.knowsCommunication row.tenantId
      row.resultCommunicationId row.cardId = true := by
    tauto
  rw [CommunicationsDatabase.knowsCommunication, isResult, ofCard,
    Option.all_some, List.any_eq_true] at knownResult
  obtain ⟨communication, inTable, same⟩ := knownResult
  refine ⟨ofCard, communication, inTable, ?_⟩
  rw [ofCard]
  simpa [and_assoc] using same

/-! ## Decided once -/

/-- The decisions on commands at a time, and what becomes of them later. -/
structure DecidedOnce (middle last : CommunicationsDatabase) : Prop where
  oneRow : (last.commands.map CommandReservation.key).Nodup
  evolves : Evolves CommandReservation.key CommandReservation.Follows
    middle.commands last.commands
  startsReserved : ∀ statement next,
    executeCommand last statement = .ok next → ∀ row ∈ next.commands,
      (∀ old ∈ last.commands, old.key ≠ row.key) → row.status = .reserved
  results : ∀ row ∈ last.commands, row.ResultFits
  sameCard : ∀ row ∈ last.commands, row.scopeType = .card →
    ∀ identifier, row.resultCommunicationId = some identifier →
      row.cardId = some row.scopeId ∧
        ∃ communication ∈ last.communications,
          communication.communicationId = identifier ∧
            communication.tenantId = row.tenantId ∧
            communication.cardId = row.cardId

/-- From a new table on, a command is reserved once and decided once, whatever
the run and whichever of its times are compared. -/
theorem commands_decidedOnce
    {first middle last : CommunicationsDatabase}
    {earlier later : List CommandStatement}
    (isNew : first.commands = [])
    (ranEarlier : run executeCommand first earlier = .ok middle)
    (ranLater : run executeCommand middle later = .ok last) :
    DecidedOnce middle last := by
  have keptMiddle :=
    (run_executeCommand (commandsKept_of_new isNew) ranEarlier).1
  have keptLast := run_executeCommand keptMiddle ranLater
  constructor
  · exact keptLast.1.oneRow
  · exact keptLast.2
  · intro statement next executed row member free
    exact reserved_of_new executed member free
  · exact keptLast.1.results
  · intro row member forCard identifier isResult
    exact keptLast.1.sameCard member forCard isResult

/-- The kill switch of a tenant is reserved and then applied. -/
theorem killSwitch_decidedOnce :
    DecidedOnce
      { authorizedOwner killSwitchMetadata with commands := [killSwitch] }
      { authorizedOwner killSwitchMetadata with
        commands :=
          [{ killSwitch with status := .completed, completedAt := some 6 }] } :=
  have reserved : run executeCommand (authorizedOwner killSwitchMetadata)
      [.insert killSwitch] =
        .ok { authorizedOwner killSwitchMetadata with
          commands := [killSwitch] } := rfl
  have applied : run executeCommand
      { authorizedOwner killSwitchMetadata with commands := [killSwitch] }
      [.update killSwitch.key fun row =>
        { row with status := .completed, completedAt := some 6 }] =
        .ok { authorizedOwner killSwitchMetadata with
          commands := [{ killSwitch with
            status := .completed, completedAt := some 6 }] } := rfl
  commands_decidedOnce rfl reserved applied

end BidayaxExecutive.Communications
