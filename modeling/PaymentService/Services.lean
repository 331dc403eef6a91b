import PaymentService.Database
import PaymentService.RetryPolicy

/-!
# The services

Reference model of `app/services`, one definition per method under the method's name.  The
clock (`datetime.now`, the server's `now()`) and the draw of the retry policy are arguments.
ORM rows are values: an attribute assignment is a `save` of the `UPDATE` it becomes.
-/

namespace PaymentService

open UnitOfWork Tx

/-! ## `EventService` -/

/-- `EventService._get_next_sequence_no`. -/
def getNextSequenceNo (operationId : String) : Tx Nat := do
  match ← selectLastSequenceNo operationId with
  | none => pure 1
  | some lastSequenceNo => pure (lastSequenceNo + 1)

/-- `EventService.create_event`. -/
def createEvent (now : Timestamp) (operationId : String) (eventType : EventType)
    (fromStatus : Option OperationStatus) (toStatus : OperationStatus) (message : String) :
    Tx Unit := do
  let sequenceNo ← getNextSequenceNo operationId
  save (insertEvent operationId ⟨sequenceNo, eventType, fromStatus, toStatus, message, now⟩)

/-! ## `OperationService` -/

inductive SubmitOutcome where
  | created
  | existing
  deriving DecidableEq, Repr

structure SubmitResult where
  operation : Operation
  outcome : SubmitOutcome
  deriving DecidableEq, Repr

/-- `OperationService.exists_of_throw_exception`. -/
def existsOfThrowException (request : CreateOperationRequest) : Tx Unit := do
  match ← selectOperation request.operationId with
  | some _ => Session.raise (.operationAlreadyExists request.operationId)
  | none => pure ()

/-- `OperationService.create`. -/
def create (now : Timestamp) (request : CreateOperationRequest) : Tx Operation := do
  existsOfThrowException request
  save (insertOperation request.operationId request.amount.hundredths request.currency
    request.description .created)
  createEvent now request.operationId .created none .created "Operation created"
  commitExceptIntegrity (.operationAlreadyExists request.operationId)
  refresh request.operationId

/-- `OperationService.get_events`. -/
def getEvents (operationId : String) (db : Db) : Except Error (List Event) :=
  match db.lookup operationId with
  | none => .error (.operationNotFound operationId)
  | some rows => .ok (rows.events.mergeSort (fun a b => a.sequenceNo ≤ b.sequenceNo))

/-- `OperationService.submit`. -/
def submit (now : Timestamp) (operationId : String) : Tx SubmitResult := do
  match ← selectOperationForUpdate operationId with
  | none => Session.raise (.operationNotFound operationId)
  | some operation =>
    if operation.status ≠ .created then
      pure ⟨operation, .existing⟩
    else do
      save (insertSendJob operationId ⟨.pending, 0, none, none, now, now⟩)
      save (setStatus operationId .processing)
      createEvent now operationId .submitRequested (some .created) .processing
        "Payment submission requested"
      commit
      let operation ← refresh operationId
      pure ⟨operation, .created⟩

/-! ## `SendJobService` -/

/-- `SendJobService.get_operation_for_update`. -/
def getOperationForUpdate (operationId : String) : Tx (Operation × Option SendJob) := do
  match ← selectOperationForUpdate operationId with
  | none => Session.raise (.operationNotFound s!"Operation not found: {operationId}")
  | some operation =>
    let sendJob ← selectSendJob operationId
    pure (operation, sendJob)

/-- `SendJobService.claim_send_job`. -/
def claimSendJob (now : Timestamp) (operationId : String) : Tx Bool := do
  let (_, sendJob) ← getOperationForUpdate operationId
  match sendJob with
  | none => pure false
  | some sendJob =>
    if sendJob.state ≠ .pending then pure false
    else do
      save (updateSendJob operationId ({ · with state := .running, updatedAt := now }))
      pure true

/-- `SendJobService.complete_job`. -/
def completeJob (now : Timestamp) (operationId providerPaymentId : String) : Tx Unit := do
  let (operation, sendJob) ← getOperationForUpdate operationId
  match sendJob with
  | none => Session.raise (.valueError s!"SendJob not found: {operationId}")
  | some sendJob =>
    refuseOtherId operation
    if sendJob.state = .done then pure ()
    else if ¬ (sendJob.state = .running ∨ sendJob.state = .waitingRetry) then pure ()
    else do
      match operation.providerPaymentId with
      | none => save (setProviderPaymentId operationId providerPaymentId)
      | some _ => pure ()
      save (updateSendJob operationId
        ({ · with state := .done, nextRetryAt := none, lastError := none, updatedAt := now }))
where
  /-- "If the ID is already known, the provider response must contain the same ID." -/
  refuseOtherId (operation : Operation) : Tx Unit :=
    match operation.providerPaymentId with
    | none => pure ()
    | some existing =>
      if existing ≠ providerPaymentId then
        Session.raise (.valueError
          s!"Provider payment ID conflict: operation={operationId}, existing={existing}, received={providerPaymentId}")
      else pure ()

/-- `SendJobService._schedule_retry`. -/
def scheduleRetry (policy : RetryPolicy) (now : Timestamp) (draw : Draw) (operationId : String)
    (sendJob : SendJob) (error : String) : Tx Unit := do
  let nextAttempt := sendJob.attempt + 1
  save (setLastError operationId error)
  match policy.nextRetryAt nextAttempt now draw with
  | .error e => Session.raise e
  | .ok nextRetryAt =>
    save (updateSendJob operationId
      ({ · with attempt := nextAttempt, nextRetryAt := some nextRetryAt }))

/-- `SendJobService.move_to_retry`. -/
def moveToRetry (policy : RetryPolicy) (now : Timestamp) (draw : Draw) (operationId : String)
    (error : String) : Tx Unit := do
  let (_, sendJob) ← getOperationForUpdate operationId
  match sendJob with
  | none => Session.raise (.valueError s!"SendJob not found: {operationId}")
  | some sendJob =>
    if sendJob.state ≠ .running then pure ()
    else do
      scheduleRetry policy now draw operationId sendJob error
      save (updateSendJob operationId ({ · with state := .waitingRetry, updatedAt := now }))

/-- `SendJobService.record_retry_failure`. -/
def recordRetryFailure (policy : RetryPolicy) (now : Timestamp) (draw : Draw)
    (operationId : String) (error : String) : Tx Unit := do
  let (_, sendJob) ← getOperationForUpdate operationId
  match sendJob with
  | none => Session.raise (.valueError s!"SendJob not found: {operationId}")
  | some sendJob =>
    if sendJob.state ≠ .waitingRetry then pure ()
    else do
      scheduleRetry policy now draw operationId sendJob error
      save (updateSendJob operationId ({ · with updatedAt := now }))

/-! ## `ReceiptService` -/

/-- `ReceiptService._validate_provider_payment_id`. -/
def validateProviderPaymentId (operation : Operation) (receipt : ReceiptRequest) : Tx Unit :=
  match operation.providerPaymentId with
  | none => pure ()
  | some existing =>
    if existing ≠ receipt.providerPaymentId then
      Session.raise (.providerPaymentConflict
        s!"Provider payment ID conflict: operation={receipt.operationId}, existing={existing}, received={receipt.providerPaymentId}")
    else pure ()

/-- `ReceiptService._handle_status`. -/
def handleStatus : ReceiptResult → EventType
  | .completed => .receiptCompleted
  | .rejected => .receiptRejected

/-- `ReceiptService._complete_operation`. -/
def completeOperation (now : Timestamp) (operation : Operation) (sendJob : Option SendJob)
    (receipt : ReceiptRequest) : Tx Unit := do
  let oldStatus := operation.status
  let newStatus := receipt.result.status
  save (setStatus receipt.operationId newStatus)
  match sendJob with
  | none => pure ()
  | some sendJob =>
    -- a job that is DONE already needs no `UPDATE`; in one `updated_at` follows by `onupdate`
    if sendJob.state = .done then pure ()
    else save (updateSendJob receipt.operationId ({ · with state := .done, updatedAt := now }))
  createEvent now receipt.operationId (handleStatus receipt.result) (some oldStatus) newStatus
    receipt.message

/-- `ReceiptService._handle_late_receipt`. -/
def handleLateReceipt (now : Timestamp) (operation : Operation) (receipt : ReceiptRequest) :
    Tx Unit := do
  let currentStatus := operation.status
  let receiptStatus := receipt.result.status
  if currentStatus = receiptStatus then pure ()
  else
    createEvent now receipt.operationId .receiptIgnored (some currentStatus) currentStatus
      s!"Conflicting late receipt ignored: received={receipt.result.value}; current={currentStatus.value}"

/-- `ReceiptService.process_receipt`. -/
def processReceipt (now : Timestamp) (receipt : ReceiptRequest) : Tx Unit := do
  let (operation, sendJob) ← getOperationForUpdate receipt.operationId
  validateProviderPaymentId operation receipt
  match operation.providerPaymentId with
  | none => save (setProviderPaymentId receipt.operationId receipt.providerPaymentId)
  | some _ => pure ()
  if operation.status ≠ .processing then
    handleLateReceipt now operation receipt
  else
    completeOperation now operation sendJob receipt

end PaymentService
