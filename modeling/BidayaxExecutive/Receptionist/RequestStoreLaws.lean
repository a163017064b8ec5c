import BidayaxExecutive.Receptionist.RequestStore

/-!
# When a request is stored entirely or not at all

The queries commit one by one, so a failure after the first query leaves the
rows of those before it, under a status that says there is no store.
-/

namespace BidayaxExecutive.Receptionist

open BidayaxExecutive.Runtime JsString
open BidayaxExecutive.Library.AutocommitQueries

/-- What the queries of a request add, query by query. -/
def requestBatches (input : StoreReceptionistRequestInput) :
    List (List RowKind) :=
  [[.interaction], [.conversationTurn], [.task],
    [.workflowEvent (js "interaction_created"),
      .workflowEvent (js "intent_classified"),
      .workflowEvent (js "task_created")]] ++
  ((input.workflowRun.map fun run => run.steps).getD []).map (fun step =>
    [.workflowEvent step.stage.text]) ++
  [[.interactionEvent (js "receptionist_request_submitted")]] ++
  (requestLedgerEvent input.request.requestType).toList.map fun eventType =>
    [.interactionEvent eventType]

section Platform

variable (platform : StorePlatform)

theorem writes_serverId (given : Option JsString) :
    Writes ReceptionistRow.kind (serverId platform given) [] := by
  cases given with
  | none =>
      exact writes_bind (writes_draw platform.uuid) fun _ => writes_pure _
  | some id =>
      exact writes_pure id

theorem writes_writeLedgerEvent (input : StoreReceptionistRequestInput)
    (eventType : JsString) :
    Writes ReceptionistRow.kind (writeLedgerEvent platform input eventType)
      [[.interactionEvent eventType]] :=
  writes_bind (writes_serverId platform input.sessionId) fun _ =>
    writes_bind (writes_serverId platform input.anonymousVisitorId)
      fun _ => writes_query _ _

theorem writes_writeWorkflowSteps (input : StoreReceptionistRequestInput)
    (requestId : JsString) (run : ReceptionistRun)
    (steps : List ReceptionistRunStep) :
    Writes ReceptionistRow.kind
      (writeWorkflowSteps input requestId run steps)
      (steps.map fun step => [.workflowEvent step.stage.text]) := by
  induction steps with
  | nil =>
      exact writes_pure ()
  | cons step rest ih =>
      exact writes_bind (writes_query _ _) fun _ => ih

theorem writes_writeWorkflowRun (input : StoreReceptionistRequestInput)
    (requestId : JsString) :
    Writes ReceptionistRow.kind (writeWorkflowRun input requestId)
      (((input.workflowRun.map fun run => run.steps).getD []).map fun step =>
        [.workflowEvent step.stage.text]) := by
  unfold writeWorkflowRun
  cases input.workflowRun with
  | none =>
      exact writes_pure ()
  | some run =>
      exact writes_writeWorkflowSteps input requestId run run.steps

theorem writes_insertInteraction (input : StoreReceptionistRequestInput) :
    Writes ReceptionistRow.kind (insertInteraction platform input)
      [[.interaction]] where
  all := fun state => (writes_query _ _).all state
  some := fun state => (writes_query _ _).some state

theorem writes_writeRequestRows (input : StoreReceptionistRequestInput) :
    Writes ReceptionistRow.kind (writeRequestRows platform input)
      ([.interaction] :: [.conversationTurn] :: [.task] ::
        [.workflowEvent (js "interaction_created"),
          .workflowEvent (js "intent_classified"),
          .workflowEvent (js "task_created")] ::
        ((input.workflowRun.map fun run => run.steps).getD []).map fun step =>
          [.workflowEvent step.stage.text]) := by
  have afterRun := fun requestId =>
    writes_bind (writes_writeWorkflowRun input requestId)
      fun _ => writes_pure requestId
  simp only [List.append_nil] at afterRun
  exact writes_cons (writes_insertInteraction platform input) fun requestId =>
    writes_cons (writes_query _ _) fun _ =>
      writes_cons (writes_query _ _) fun _ =>
        writes_cons (writes_query (workflowEventRows input requestId) _)
          fun _ => afterRun requestId

theorem writes_writeRequestLedgerEvent
    (input : StoreReceptionistRequestInput) :
    Writes ReceptionistRow.kind (writeRequestLedgerEvent platform input)
      ((requestLedgerEvent input.request.requestType).toList.map
        fun eventType => [.interactionEvent eventType]) := by
  unfold writeRequestLedgerEvent
  cases requestLedgerEvent input.request.requestType with
  | none =>
      exact writes_pure ()
  | some eventType =>
      exact writes_writeLedgerEvent platform input eventType

theorem writes_storeRows (input : StoreReceptionistRequestInput) :
    Writes ReceptionistRow.kind (storeRows platform input)
      (requestBatches input) := by
  have stored := writes_bind (writes_writeRequestRows platform input)
    fun requestId => writes_bind
      (writes_writeLedgerEvent platform input
        (js "receptionist_request_submitted"))
      fun _ => writes_bind (writes_writeRequestLedgerEvent platform input)
        fun _ => writes_pure requestId
  rw [requestBatches, List.append_assoc]
  rw [List.append_nil] at stored
  exact stored

theorem requestBatches_filled (input : StoreReceptionistRequestInput) :
    ∀ batch ∈ requestBatches input, batch ≠ [] := by
  rw [requestBatches, List.forall_mem_append, List.forall_mem_append,
    List.forall_mem_append, List.forall_mem_map, List.forall_mem_map]
  simp

/-! ## Entirely or not at all -/

/-- A report of no store comes with no rows added, and another report with
rows of all the kinds there are for the request. -/
def StoredWhole (configured : Bool) (fails : Nat → Bool)
    (input : StoreReceptionistRequestInput) (rows : List ReceptionistRow) :
    Prop :=
  let stored :=
    storeReceptionistRequest platform configured fails input rows
  (stored.1.providerStatus = .eventStoreUnavailable → stored.2 = rows) ∧
    (stored.1.providerStatus ≠ .eventStoreUnavailable →
      ∃ added, stored.2 = rows ++ added ∧
        added.map ReceptionistRow.kind = (requestBatches input).flatten)

variable {platform} {fails : Nat → Bool}
variable {input : StoreReceptionistRequestInput} {rows : List ReceptionistRow}

theorem storedWhole_of_works
    (works : ∀ position < (requestBatches input).length,
      fails position = false) :
    StoredWhole platform true fails input rows ↔
      input.providerStatus ≠ .eventStoreUnavailable := by
  obtain ⟨requestId, added, drawn, ran, kinds⟩ :=
    (writes_storeRows platform input).all { rows := rows, fails := fails }
      (by simpa using works)
  have stored : storeReceptionistRequest platform true fails input rows =
      ({ providerStatus := input.providerStatus
         requestId := requestId }, rows ++ added) := by
    simp only [storeReceptionistRequest, Bool.not_true, Bool.false_eq_true,
      if_false, ran]
  have something : rows ++ added ≠ rows := by
    intro nothing
    rw [List.append_right_eq_self.mp nothing] at kinds
    cases kinds
  rw [StoredWhole, stored]
  constructor
  · intro whole unavailable
    exact something (whole.1 unavailable)
  · intro available
    exact ⟨fun unavailable => absurd unavailable available,
      fun _ => ⟨added, rfl, kinds⟩⟩

theorem storedWhole_of_failure
    (failing : ¬∀ position < (requestBatches input).length,
      fails position = false) :
    StoredWhole platform true fails input rows ↔ fails 0 = true := by
  have writes := writes_storeRows platform input
  have shifted : ¬∀ position < (requestBatches input).length,
      fails (0 + position) = false := by
    simpa using failing
  obtain ⟨position, below, fault, earlier⟩ := exists_first_failure shifted
  obtain ⟨added, final, ran, _, _⟩ := writes.some
    { rows := rows, fails := fails } position below fault earlier
  have undone := rows_eq_of_error_iff writes (requestBatches_filled input)
    { rows := rows, fails := fails }
  have stored : storeReceptionistRequest platform true fails input rows =
      ({ providerStatus := .eventStoreUnavailable
         requestId := platform.uuid final.drawn }, final.rows) := by
    simp only [storeReceptionistRequest, Bool.not_true, Bool.false_eq_true,
      if_false, ran]
  rw [ran] at undone
  simp only [true_imp_iff, shifted, false_or] at undone
  rw [StoredWhole, stored]
  simpa using undone

end Platform

/-- A request is stored entirely or not at all exactly when there is no
database, the first query fails, or no query fails and the status to report is
not itself the one of a missing store. -/
theorem storedWhole_iff (platform : StorePlatform) (configured : Bool)
    (fails : Nat → Bool) (input : StoreReceptionistRequestInput)
    (rows : List ReceptionistRow) :
    StoredWhole platform configured fails input rows ↔
      configured = false ∨ fails 0 = true ∨
        (∀ position < (requestBatches input).length,
          fails position = false) ∧
        input.providerStatus ≠ .eventStoreUnavailable := by
  cases configured with
  | false =>
      simp [StoredWhole, storeReceptionistRequest]
  | true =>
      by_cases works : ∀ position < (requestBatches input).length,
          fails position = false
      · have firstWorks : fails 0 = false :=
          works 0 (by simp [requestBatches])
        rw [storedWhole_of_works works]
        constructor
        · intro available
          exact Or.inr (Or.inr ⟨works, available⟩)
        · rintro (absent | firstFails | ⟨_, available⟩)
          · cases absent
          · rw [firstWorks] at firstFails
            cases firstFails
          · exact available
      · rw [storedWhole_of_failure works]
        simp [works]

def partnershipRequest : StoreReceptionistRequestInput where
  anonymousVisitorId := some (js "bxv_test")
  executiveSlug := .adGarner
  notification :=
    { «to» := js "office@bidayax.com"
      subject := js "Receptionist request" }
  providerStatus := .emailReady
  request :=
    { name := js "Avery"
      preferredLanguage := .english
      requestType := .partnershipRequest
      message := js "Please call me back." }
  sessionId := some (js "bxs_test")

def countingPlatform : StorePlatform where
  databaseId := fun rows => natText rows.length
  uuid := natText

/-- The insert of the task fails, and the interaction and its turn stay under
a report that there is no store. -/
theorem partnershipRequest_not_storedWhole :
    ¬StoredWhole countingPlatform true (fun position => position == 2)
      partnershipRequest [] := by
  intro whole
  have kept := whole.1 (by decide)
  revert kept
  decide

end BidayaxExecutive.Receptionist
