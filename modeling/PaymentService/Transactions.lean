import PaymentService.Services

/-!
# The committed transactions

* `Call`, `Call.tx`, `Call.exec` — the seven mutating transactions, with the place that commits
  them (`OperationService`, the receipts route, the workers), and what one does on its own.
* `run_..._bind` — one rule for each building block of the services: what running it first makes
  of the rest of the transaction.  `nextSequenceNo_fresh`: an event's number is never taken.
-/

namespace PaymentService

open UnitOfWork Tx

/-! ## Calls -/

inductive Call where
  | create (now : Timestamp) (request : CreateOperationRequest)
  | submit (now : Timestamp) (operationId : String)
  | claimSendJob (now : Timestamp) (operationId : String)
  | completeJob (now : Timestamp) (operationId providerPaymentId : String)
  | moveToRetry (now : Timestamp) (draw : Draw) (operationId error : String)
  | recordRetryFailure (now : Timestamp) (draw : Draw) (operationId error : String)
  | processReceipt (now : Timestamp) (receipt : ReceiptRequest)

/-- What a call returns. -/
inductive Outcome where
  | operation (operation : Operation)
  | submitted (outcome : SubmitOutcome)
  | claimed (claimed : Bool)
  | none
  deriving DecidableEq, Repr

namespace Call

/-- The operation whose rows the call is about. -/
def operationId : Call → String
  | .create _ request => request.operationId
  | .submit _ id | .claimSendJob _ id | .completeJob _ id _ | .moveToRetry _ _ id _
  | .recordRetryFailure _ _ id _ => id
  | .processReceipt _ receipt => receipt.operationId

def now : Call → Timestamp
  | .create now _ | .submit now _ | .claimSendJob now _ | .completeJob now _ _
  | .moveToRetry now _ _ _ | .recordRetryFailure now _ _ _ | .processReceipt now _ => now

/-- The transaction, with its commit: in the service for `create` and `submit`, in
`PendingWorker._claim_job`, in the workers' write-backs and in `receive_receipt`. -/
def tx : Call → Tx Outcome
  | .create now request => do
    let operation ← PaymentService.create now request
    pure (.operation operation)
  | .submit now id => do
    let result ← PaymentService.submit now id
    pure (.submitted result.outcome)
  | .claimSendJob now id => do
    let claimed ← PaymentService.claimSendJob now id
    commit
    pure (.claimed claimed)
  | .completeJob now id providerPaymentId => do
    PaymentService.completeJob now id providerPaymentId
    commit
    pure .none
  | .moveToRetry now draw id error => do
    PaymentService.moveToRetry RetryPolicy.default now draw id error
    commit
    pure .none
  | .recordRetryFailure now draw id error => do
    PaymentService.recordRetryFailure RetryPolicy.default now draw id error
    commit
    pure .none
  | .processReceipt now receipt => do
    PaymentService.processReceipt now receipt
    commit
    pure .none

def exec (c : Call) (db : Db) : Except Error Outcome × Db := c.tx.exec db

end Call

/-- The tables after a call. -/
def Db.next (db : Db) (c : Call) : Db := (c.exec db).2

/-! ## Running the building blocks -/

section Running

variable {α : Type} {fail : DbError → Error}

@[simp] theorem run_save_bind (s : Statement Db DbError) (f : Unit → Tx α)
    (pending : List (Statement Db DbError)) (db : Db) :
    (save s >>= f).run fail pending db = (f ()).run fail (pending ++ [s]) db := rfl

theorem run_selectOperation_bind (id : String) (f : Option Operation → Tx α) (db : Db) :
    (selectOperation id >>= f).run fail [] db =
      (f ((db.lookup id).map (·.operation))).run fail [] db := rfl

theorem run_selectOperationForUpdate_bind (id : String) (f : Option Operation → Tx α) (db : Db) :
    (selectOperationForUpdate id >>= f).run fail [] db =
      (f ((db.lookup id).map (·.operation))).run fail [] db := rfl

theorem run_commit_bind_ok {pending : List (Statement Db DbError)} {db db' : Db}
    (h : flush pending db = .ok db') (f : Unit → Tx α) :
    (commit >>= f).run fail pending db = (f ()).run fail [] db' :=
  run_commit_ok h _

theorem run_commit_bind_error {pending : List (Statement Db DbError)} {db : Db} {e : DbError}
    (h : flush pending db = .error e) (f : Unit → Tx α) :
    (commit >>= f).run fail pending db = (.error (.database e), db) :=
  run_commit_error h _

theorem run_commitExceptIntegrity_bind_ok {pending : List (Statement Db DbError)} {db db' : Db}
    (h : flush pending db = .ok db') (error : Error) (f : Unit → Tx α) :
    (commitExceptIntegrity error >>= f).run fail pending db = (f ()).run fail [] db' :=
  run_commit_ok h _

theorem run_refresh_bind {id : String} {db : Db} {rows : Rows} (h : db.lookup id = some rows)
    (f : Operation → Tx α) :
    (refresh id >>= f).run fail [] db = (f rows.operation).run fail [] db := by
  simp [refresh, h]

theorem run_getOperationForUpdate_none {id : String} {db : Db} (h : db.lookup id = none)
    (f : Operation × Option SendJob → Tx α) :
    (getOperationForUpdate id >>= f).run fail [] db =
      (.error (.operationNotFound s!"Operation not found: {id}"), db) := by
  simp [getOperationForUpdate, selectOperationForUpdate, h]

theorem run_getOperationForUpdate_some {id : String} {db : Db} {rows : Rows}
    (h : db.lookup id = some rows) (f : Operation × Option SendJob → Tx α) :
    (getOperationForUpdate id >>= f).run fail [] db =
      (f (rows.operation, rows.sendJob)).run fail [] db := by
  simp [getOperationForUpdate, selectOperationForUpdate, selectSendJob, h]

/-- The number `_get_next_sequence_no` gives after these events. -/
def nextSequenceNo (events : List Event) : Nat :=
  match (events.map (·.sequenceNo)).max? with
  | none => 1
  | some lastSequenceNo => lastSequenceNo + 1

theorem nextSequenceNo_fresh (events : List Event) :
    nextSequenceNo events ∉ events.map (·.sequenceNo) := by
  unfold nextSequenceNo
  split
  · rename_i h
    rw [List.max?_eq_none_iff.mp h]
    exact List.not_mem_nil
  · rename_i last h
    intro hmem
    have hle := (List.max?_le_iff h).mp (Nat.le_refl last) _ hmem
    omega

/-- `create_event` is one read and one insert. -/
theorem createEvent_bind (now : Timestamp) (id : String) (type : EventType)
    (fromStatus : Option OperationStatus) (toStatus : OperationStatus) (message : String)
    (f : Unit → Tx α) :
    createEvent now id type fromStatus toStatus message >>= f = .query fun db =>
      .write (insertEvent id ⟨nextSequenceNo ((db.lookup id).elim [] (·.events)), type, fromStatus,
        toStatus, message, now⟩) (f ()) := by
  simp only [createEvent, getNextSequenceNo, selectLastSequenceNo, nextSequenceNo,
    Session.query_bind, Session.ret_bind, bind_assoc]
  refine congrArg Session.query (funext fun db => ?_)
  cases (((db.lookup id).elim [] (·.events)).map (·.sequenceNo)).max? <;> rfl

theorem run_createEvent_bind_ok {pending : List (Statement Db DbError)} {db view : Db}
    {id : String} {rows : Rows} (hflush : flush pending db = .ok view)
    (hrows : view.lookup id = some rows) (now : Timestamp) (type : EventType)
    (fromStatus : Option OperationStatus) (toStatus : OperationStatus) (message : String)
    (f : Unit → Tx α) :
    (createEvent now id type fromStatus toStatus message >>= f).run fail pending db =
      (f ()).run fail (pending ++ [insertEvent id
        ⟨nextSequenceNo rows.events, type, fromStatus, toStatus, message, now⟩]) db := by
  rw [createEvent_bind, run_query_ok hflush, run_write, hrows]
  rfl

theorem run_createEvent_bind_error {pending : List (Statement Db DbError)} {db : Db}
    {e : DbError} (hflush : flush pending db = .error e) (now : Timestamp) (id : String)
    (type : EventType) (fromStatus : Option OperationStatus) (toStatus : OperationStatus)
    (message : String) (f : Unit → Tx α) :
    (createEvent now id type fromStatus toStatus message >>= f).run fail pending db =
      (.error (fail e), db) := by
  rw [createEvent_bind, run_query_error hflush]

end Running

end PaymentService
