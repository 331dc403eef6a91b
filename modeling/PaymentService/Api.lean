import PaymentService.Lib.Segments
import PaymentService.Lib.Simulation
import PaymentService.Amounts
import PaymentService.Receipts
import PaymentService.Serializability

/-!
# The HTTP interface

Reference model of `app/api/operations.py`, `app/api/receipts.py` and of the response models of
`app/schemas/operation.py`: the five routes as sessions, with what their `except` clauses make of
an exception.

* `OperationResponse`, `EventResponse`, `ApiResponse` — what the client gets.
* `getById`, `getEventsStatements` — the two reading methods of `OperationService`.
* `Routes`, `ApiRequest.route` — the routes; `PathParam`: the ids a path can name.  `createRest`,
  `refreshRest`, `eventsRest`: what is left of a route after its first segment.
* `segment_...` — one lemma for each segment of each route: **what it answers, or leaves to do, and
  the tables it leaves**.
-/

namespace PaymentService

open UnitOfWork Tx

/-! ## Responses -/

/-- `OperationResponse`; in JSON a `Decimal` is a string. -/
structure OperationResponse where
  operationId : String
  amount : String
  currency : String
  description : Option String
  status : OperationStatus
  providerPaymentId : Option String
  deriving DecidableEq, Repr

/-- `OperationResponse.model_validate`. -/
def OperationResponse.modelValidate (operationId : String) (operation : Operation) :
    OperationResponse where
  operationId := operationId
  amount := formatAmount operation.amount
  currency := operation.currency
  description := operation.description
  status := operation.status
  providerPaymentId := operation.providerPaymentId

/-- `EventResponse`; `event_id` is validated from `sequence_no`. -/
structure EventResponse where
  eventId : Nat
  type : EventType
  fromStatus : Option OperationStatus
  toStatus : OperationStatus
  message : String
  occurredAt : Timestamp
  deriving DecidableEq, Repr

/-- `EventResponse.model_validate`. -/
def EventResponse.modelValidate (event : Event) : EventResponse where
  eventId := event.sequenceNo
  type := event.type
  fromStatus := event.fromStatus
  toStatus := event.toStatus
  message := event.message
  occurredAt := event.occurredAt

inductive Body where
  | empty
  | detail (text : String)
  | operation (response : OperationResponse)
  | events (responses : List EventResponse)
  deriving DecidableEq, Repr

structure ApiResponse where
  statusCode : Nat
  body : Body
  deriving DecidableEq, Repr

/-! ## Reading methods -/

/-- `OperationService.get_by_id`. -/
def getById (operationId : String) : Tx Operation := do
  match ← selectOperation operationId with
  | none => Session.raise (.operationNotFound operationId)
  | some operation => pure operation

/-- `select(Event)`, by `sequence_no`. -/
def selectEvents (operationId : String) : Tx (List Event) :=
  .query fun db => .ret (((db.lookup operationId).elim [] (·.events)).mergeSort
    (fun a b => a.sequenceNo ≤ b.sequenceNo))

/-- `OperationService.get_events`, statement by statement. -/
def getEventsStatements (operationId : String) : Tx (List Event) := do
  match ← selectOperation operationId with
  | none => Session.raise (.operationNotFound operationId)
  | some _ => selectEvents operationId

/-- With nobody in between it is `getEvents`. -/
theorem exec_getEventsStatements (operationId : String) (db : Db) :
    (getEventsStatements operationId).exec db = (getEvents operationId db, db) := by
  unfold getEventsStatements getEvents exec
  rw [run_selectOperation_bind]
  cases hrows : db.lookup operationId with
  | none => rfl
  | some rows =>
    show ((selectEvents operationId).run Error.database [] db) = _
    simp only [selectEvents, run_query_nil, hrows, Option.elim_some, run_ret]

/-! ## Routes -/

/-- `except OperationNotFoundError`. -/
def notFound : Error → Tx ApiResponse
  | .operationNotFound operationId =>
    .ret ⟨404, .detail s!"Operation '{operationId}' not found"⟩
  | e => .raise e

/-- `except OperationAlreadyExistsError`. -/
def alreadyExists : Error → Tx ApiResponse
  | .operationAlreadyExists operationId =>
    .ret ⟨409, .detail s!"Operation '{operationId}' already exists"⟩
  | e => .raise e

/-- The two `except` clauses of `receive_receipt`. -/
def refusedReceipt : Error → Tx ApiResponse
  | .operationNotFound operationId =>
    .ret ⟨404, .detail s!"Operation '{operationId}' not found"⟩
  | .providerPaymentConflict message => .ret ⟨409, .detail message⟩
  | e => .raise e

namespace Routes

/-- `create_operation`. -/
def createOperation (now : Timestamp) (request : CreateOperationRequest) : Tx ApiResponse :=
  Session.handle alreadyExists do
    let operation ← create now request
    pure ⟨201, .operation (.modelValidate request.operationId operation)⟩

/-- `get_operation_events`. -/
def getOperationEvents (operationId : String) : Tx ApiResponse :=
  Session.handle notFound do
    let events ← getEventsStatements operationId
    pure ⟨200, .events (events.map .modelValidate)⟩

/-- `submit_operation`. -/
def submitOperation (now : Timestamp) (operationId : String) : Tx ApiResponse :=
  Session.handle notFound do
    let result ← submit now operationId
    pure ⟨if result.outcome = .created then 202 else 200,
      .operation (.modelValidate operationId result.operation)⟩

/-- `get_operation`. -/
def getOperation (operationId : String) : Tx ApiResponse :=
  Session.handle notFound do
    let operation ← getById operationId
    pure ⟨200, .operation (.modelValidate operationId operation)⟩

/-- `receive_receipt`. -/
def receiveReceipt (now : Timestamp) (receipt : ReceiptRequest) : Tx ApiResponse :=
  Session.handle refusedReceipt do
    processReceipt now receipt
    commit
    pure ⟨204, .empty⟩

end Routes

/-- The path parameter `{operation_id}`: one segment of a path, not empty and without a slash.  A
path with any other id in it leads to none of these routes. -/
structure PathParam where
  value : String
  nonempty : value ≠ ""
  segment : '/' ∉ value.toList
  deriving DecidableEq, Repr

theorem PathParam.length_pos (id : PathParam) : 1 ≤ id.value.length := by
  rw [Nat.one_le_iff_ne_zero, Ne, String.length_eq_zero_iff]
  exact id.nonempty

/-- The id of the worked runs. -/
def PathParam.sample : PathParam := ⟨"op-1", by decide, by decide⟩

/-- The requests that reach a route. -/
inductive ApiRequest where
  | createOperation (request : CreateOperationRequest)
  | getOperationEvents (operationId : PathParam)
  | submitOperation (operationId : PathParam)
  | getOperation (operationId : PathParam)
  | receiveReceipt (receipt : ReceiptRequest)
  deriving DecidableEq, Repr

def ApiRequest.operationId : ApiRequest → String
  | .createOperation request => request.operationId
  | .getOperationEvents id | .submitOperation id | .getOperation id => id.value
  | .receiveReceipt receipt => receipt.operationId

/-- The route of a request, at a time. -/
def ApiRequest.route (now : Timestamp) : ApiRequest → Tx ApiResponse
  | .createOperation request => Routes.createOperation now request
  | .getOperationEvents id => Routes.getOperationEvents id.value
  | .submitOperation id => Routes.submitOperation now id.value
  | .getOperation id => Routes.getOperation id.value
  | .receiveReceipt receipt => Routes.receiveReceipt now receipt

/-- What can be seen of the service on connection `h`: a request comes in, or is answered; `none`
when an exception leaves the route. -/
inductive Shown (H : Type) where
  | request (h : H) (request : ApiRequest)
  | answer (h : H) (request : ApiRequest) (answer : Option ApiResponse)
  deriving DecidableEq, Repr

/-! ## Segments -/

/-- A segment of a route. -/
def segmentOf (p : Tx ApiResponse) (db : Db) : Tx ApiResponse × Db :=
  p.segment Error.database false [] db

/-- `create_operation` after the look at the id. -/
def createRest (now : Timestamp) (request : CreateOperationRequest) : Tx ApiResponse :=
  Session.handle alreadyExists do
    save (insertOperation request.operationId request.amount.hundredths request.currency
      request.description .created)
    createEvent now request.operationId .created none .created "Operation created"
    commitExceptIntegrity (.operationAlreadyExists request.operationId)
    let operation ← refresh request.operationId
    pure ⟨201, .operation (.modelValidate request.operationId operation)⟩

/-- A route after its commit. -/
def refreshRest (statusCode : Nat) (operationId : String) : Tx ApiResponse := do
  let operation ← refresh operationId
  pure ⟨statusCode, .operation (.modelValidate operationId operation)⟩

/-- `get_operation_events` after it found the operation. -/
def eventsRest (operationId : String) : Tx ApiResponse := do
  let events ← selectEvents operationId
  pure ⟨200, .events (events.map .modelValidate)⟩

/-- `session.refresh` raises nothing a route catches. -/
theorem handle_refresh {f : Error → Tx ApiResponse}
    (hf : f .invalidRequestError = .raise .invalidRequestError) (statusCode : Nat)
    (operationId : String) :
    (refreshRest statusCode operationId).handle f = refreshRest statusCode operationId := by
  simp only [refreshRest, refresh, Session.query_bind, handle_query]
  refine congrArg Session.query (funext fun db => ?_)
  cases db.lookup operationId with
  | none => exact hf
  | some rows => rfl

theorem segment_refreshRest {db : Db} {id : String} {rows : Rows} (hrows : db.lookup id = some rows)
    (statusCode : Nat) : segmentOf (refreshRest statusCode id) db =
      (.ret ⟨statusCode, .operation (.modelValidate id rows.operation)⟩, db) := by
  simp only [segmentOf, refreshRest, refresh, Session.query_bind, segment_query_nil, hrows,
    Session.ret_bind, Session.pure_eq]

section Reading

variable {db : Db} {id : String}

theorem segment_getOperation_none (hrows : db.lookup id = none) :
    segmentOf (Routes.getOperation id) db =
      (.ret ⟨404, .detail s!"Operation '{id}' not found"⟩, db) := by
  simp [segmentOf, Routes.getOperation, getById, selectOperation, hrows, notFound]

theorem segment_getOperation {rows : Rows} (hrows : db.lookup id = some rows) :
    segmentOf (Routes.getOperation id) db =
      (.ret ⟨200, .operation (.modelValidate id rows.operation)⟩, db) := by
  simp [segmentOf, Routes.getOperation, getById, selectOperation, hrows]

theorem segment_getOperationEvents_none (hrows : db.lookup id = none) :
    segmentOf (Routes.getOperationEvents id) db =
      (.ret ⟨404, .detail s!"Operation '{id}' not found"⟩, db) := by
  simp [segmentOf, Routes.getOperationEvents, getEventsStatements, selectOperation, hrows, notFound]

theorem segment_getOperationEvents {rows : Rows} (hrows : db.lookup id = some rows) :
    segmentOf (Routes.getOperationEvents id) db = (eventsRest id, db) := by
  simp [segmentOf, Routes.getOperationEvents, getEventsStatements, selectOperation, hrows,
    eventsRest, selectEvents]

theorem segment_eventsRest {events : List Event} (hevents : getEvents id db = .ok events) :
    segmentOf (eventsRest id) db = (.ret ⟨200, .events (events.map .modelValidate)⟩, db) := by
  unfold getEvents at hevents
  cases hrows : db.lookup id with
  | none =>
    rw [hrows] at hevents
    cases hevents
  | some rows =>
    rw [hrows] at hevents
    cases hevents
    simp [segmentOf, eventsRest, selectEvents, hrows]

end Reading

section Writing

variable {db : Db}

theorem segment_createOperation_some {request : CreateOperationRequest} {rows : Rows}
    (hrows : db.lookup request.operationId = some rows) (now : Timestamp) :
    segmentOf (Routes.createOperation now request) db =
      (.ret ⟨409, .detail s!"Operation '{request.operationId}' already exists"⟩, db) := by
  simp [segmentOf, Routes.createOperation, create, existsOfThrowException, selectOperation, hrows,
    alreadyExists]

theorem segment_createOperation {request : CreateOperationRequest}
    (hrows : db.lookup request.operationId = none) (now : Timestamp) :
    segmentOf (Routes.createOperation now request) db = (createRest now request, db) := by
  simp [segmentOf, Routes.createOperation, create, existsOfThrowException, selectOperation, hrows,
    createRest]

/-- Up to the flush of the INSERT. -/
theorem createRest_eq (now : Timestamp) (request : CreateOperationRequest) :
    ∃ next : Except DbError Unit → Tx ApiResponse,
      next (.ok ()) = refreshRest 201 request.operationId ∧
      createRest now request = .write (insertOperation request.operationId
        request.amount.hundredths request.currency request.description .created) (.query fun view =>
          .write (insertEvent request.operationId
            ⟨nextSequenceNo ((view.lookup request.operationId).elim [] (·.events)), .created, none,
              .created, "Operation created", now⟩) (.commit next)) := by
  refine ⟨?next, ?_, ?commits⟩
  case commits =>
    unfold createRest
    rw [createEvent_bind]
    rfl
  · exact @handle_refresh alreadyExists rfl 201 request.operationId

/-- **Found free, the id is taken or the amount refused by the INSERT: nothing catches that.** -/
theorem segment_createRest_refused {request : CreateOperationRequest} {e : DbError}
    (h : insertOperation request.operationId request.amount.hundredths request.currency
      request.description .created db = .error e) (now : Timestamp) :
    segmentOf (createRest now request) db = (.raise (.database e), db) := by
  obtain ⟨next, -, heq⟩ := createRest_eq now request
  rw [segmentOf, heq]
  exact segment_query_error ((flush_singleton _ _).trans h) _

theorem segment_createRest {request : CreateOperationRequest}
    (hrows : db.lookup request.operationId = none) (hamount : request.amount.hundredths < 10 ^ 12)
    (now : Timestamp) :
    segmentOf (createRest now request) db = (refreshRest 201 request.operationId,
      db.insert request.operationId (Rows.created now request)) := by
  obtain ⟨next, hnext, heq⟩ := createRest_eq now request
  rw [segmentOf, heq]
  have hview := flush_insertOperation request hrows hamount []
  rw [flush_nil] at hview
  refine (segment_query_ok hview rfl _).trans ?_
  have hcommit := (flush_append_ok hview _).trans (flush_insertEvent (Finmap.lookup_insert db)
    now .created none .created created_fits [])
  rw [Finmap.insert_insert] at hcommit
  simp only [Finmap.lookup_insert, Option.elim_some]
  rw [← hnext, segment_write]
  exact segment_commit_ok Error.database false hcommit next

theorem segment_submitOperation_none {id : String} (hrows : db.lookup id = none)
    (now : Timestamp) : segmentOf (Routes.submitOperation now id) db =
      (.ret ⟨404, .detail s!"Operation '{id}' not found"⟩, db) := by
  simp [segmentOf, Routes.submitOperation, submit, selectOperationForUpdate, hrows, notFound,
    Session.segment]

theorem segment_submitOperation_existing {id : String} {rows : Rows}
    (hrows : db.lookup id = some rows) (hstatus : rows.operation.status ≠ .created)
    (now : Timestamp) : segmentOf (Routes.submitOperation now id) db =
      (.ret ⟨200, .operation (.modelValidate id rows.operation)⟩, db) := by
  simp [segmentOf, Routes.submitOperation, submit, selectOperationForUpdate, hrows, hstatus,
    Session.segment]

theorem segment_submitOperation {id : String} {rows : Rows} (hrows : db.lookup id = some rows)
    (hstatus : rows.operation.status = .created) (hjob : rows.sendJob = none) (now : Timestamp) :
    segmentOf (Routes.submitOperation now id) db =
      (refreshRest 202 id, db.insert id (rows.submitted now)) := by
  have hview : flush [insertSendJob id ⟨.pending, 0, none, none, now, now⟩,
      setStatus id .processing] db = .ok (db.insert id { rows with
        operation.status := .processing
        sendJob := some ⟨.pending, 0, none, none, now, now⟩ }) := by
    rw [flush_insertSendJob hrows hjob, flush_setStatus (Finmap.lookup_insert db),
      Finmap.insert_insert, flush_nil]
  have hcommit := (flush_append_ok hview _).trans (flush_insertEvent (Finmap.lookup_insert db)
    now .submitRequested (some .created) .processing requested_fits [])
  rw [Finmap.insert_insert] at hcommit
  rw [segmentOf, Routes.submitOperation, submit]
  simp only [selectOperationForUpdate, Session.lock_bind, Session.ret_bind, handle_lock,
    segment_lock_nil, hrows, Option.map_some, hstatus, ne_eq, not_true_eq_false, if_false,
    bind_assoc, createEvent_bind]
  refine (segment_query_ok hview rfl _).trans ?_
  simp only [Finmap.lookup_insert, Option.elim_some]
  refine (segment_write true _ _ _ db).trans ?_
  refine (segment_commit_ok Error.database true hcommit _).trans ?_
  have hrefresh := @handle_refresh notFound rfl 202 id
  refine Prod.ext ?_ rfl
  refine Eq.trans ?_ hrefresh
  simp only [refreshRest, refresh, Session.query_bind, handle_query]
  refine congrArg Session.query (funext fun db' => ?_)
  dsimp only
  cases db'.lookup id with
  | none => rfl
  | some rows => rfl

end Writing

/-! ## Receipts -/

section Receipt

variable {rests : Tx ApiResponse → Prop} {id : String}

theorem leads_getOperationForUpdate {f : Operation × Option SendJob → Tx ApiResponse}
    (hmissing : ∀ e, rests (.raise e)) (h : ∀ operation job, (f (operation, job)).Leads rests) :
    (getOperationForUpdate id >>= f).Leads rests := by
  unfold getOperationForUpdate selectOperationForUpdate
  simp only [Session.lock_bind]
  refine .lock fun db => ?_
  cases (db.lookup id).map (·.operation) with
  | none => exact .raise (hmissing _)
  | some operation => exact .query fun db => h operation _

theorem leads_createEvent_commit (now : Timestamp) (type : EventType)
    (fromStatus : Option OperationStatus) (toStatus : OperationStatus) (message : String)
    {f : Unit → Tx ApiResponse} (hmissing : ∀ e, rests (.raise e)) (h : rests (f ())) :
    (createEvent now id type fromStatus toStatus message >>= fun _ => commit >>= f).Leads
      rests := by
  rw [createEvent_bind]
  refine .query fun db => .write (.commit ?_)
  intro r
  cases r with
  | ok _ => exact h
  | error e => exact hmissing _

theorem leads_commit {f : Unit → Tx ApiResponse} (hmissing : ∀ e, rests (.raise e))
    (h : rests (f ())) : (commit >>= f).Leads rests := by
  refine .commit fun r => ?_
  cases r with
  | ok _ => exact h
  | error e => exact hmissing _

end Receipt

/-- `receive_receipt` is one segment: it holds the row until its commit, and reads nothing after. -/
theorem final_receiveReceipt (now : Timestamp) (receipt : ReceiptRequest) (db : Db) :
    (segmentOf (Routes.receiveReceipt now receipt) db).1.Final := by
  have hraise : ∀ e, (Session.raise e : Tx ApiResponse).Final := Session.Final.raise
  have hleads : (do
      processReceipt now receipt
      commit
      pure ⟨204, .empty⟩ : Tx ApiResponse).Leads Session.Final := by
    simp only [processReceipt, bind_assoc]
    refine leads_getOperationForUpdate hraise ?_
    intro operation job
    have htail : ((if operation.status ≠ .processing then handleLateReceipt now operation receipt
        else completeOperation now operation job receipt) >>= fun _ => commit >>= fun _ =>
          (pure ⟨204, .empty⟩ : Tx ApiResponse)).Leads Session.Final := by
      split
      · dsimp only [handleLateReceipt]
        split
        · exact leads_commit hraise (.ret _)
        · exact leads_createEvent_commit now _ _ _ _ hraise (.ret _)
      · dsimp only [completeOperation]
        cases job with
        | none =>
          simp only [bind_assoc]
          exact .write (leads_createEvent_commit now _ _ _ _ hraise (.ret _))
        | some job =>
          by_cases hdone : job.state = .done
          · simp only [if_pos hdone, bind_assoc]
            exact .write (leads_createEvent_commit now _ _ _ _ hraise (.ret _))
          · simp only [if_neg hdone, bind_assoc]
            exact .write (.write (leads_createEvent_commit now _ _ _ _ hraise (.ret _)))
    unfold validateProviderPaymentId
    cases operation.providerPaymentId with
    | none => exact .write htail
    | some existing =>
      dsimp only
      split
      · exact .raise (hraise _)
      · exact htail
  have hfinal : ∀ e, (refusedReceipt e).Final := by
    intro e
    cases e <;> first | exact .ret _ | exact .raise _
  have hhandled := hleads.handle (fun q hq => hq.handle hfinal) hfinal
  have hsegment := hhandled.segment (fun e => hraise (Error.database e)) [] db
  exact hsegment

/-- What the route makes of the transaction's result. -/
theorem run_receiveReceipt (now : Timestamp) (receipt : ReceiptRequest) (db : Db) :
    (Routes.receiveReceipt now receipt).run Error.database [] db =
      match (Call.processReceipt now receipt).exec db with
      | (.ok _, db') => (.ok ⟨204, .empty⟩, db')
      | (.error e, db') => (refusedReceipt e).run Error.database [] db' := by
  have hhandles : Handles Error.database refusedReceipt := by
    refine ⟨fun e => rfl, fun e => ?_⟩
    cases e <;> first | exact .ret _ | exact .raise _
  have hsame : (do
      processReceipt now receipt
      commit
      pure ⟨204, .empty⟩ : Tx ApiResponse) =
      (Call.processReceipt now receipt).tx >>= fun _ => pure ⟨204, .empty⟩ := by
    simp only [Call.tx, bind_assoc, pure_bind]
  rw [Routes.receiveReceipt, hsame, run_handle hhandles, run_map]
  unfold Call.exec exec
  generalize (Call.processReceipt now receipt).tx.run Error.database [] db = result
  obtain ⟨out | e, db'⟩ := result <;> rfl

theorem segment_receiveReceipt {now : Timestamp} {receipt : ReceiptRequest} {db db' : Db}
    {out : Outcome} (h : (Call.processReceipt now receipt).exec db = (.ok out, db')) :
    segmentOf (Routes.receiveReceipt now receipt) db = (.ret ⟨204, .empty⟩, db') := by
  refine segment_final (final_receiveReceipt now receipt db) ?_
  rw [run_receiveReceipt, h]

theorem segment_receiveReceipt_refused {now : Timestamp} {receipt : ReceiptRequest} {db : Db}
    {e : Error} (h : Refusal db (.processReceipt now receipt) e) :
    segmentOf (Routes.receiveReceipt now receipt) db = (refusedReceipt e, db) := by
  have hrun : (Routes.receiveReceipt now receipt).run Error.database [] db =
      (refusedReceipt e).run Error.database [] db := by
    rw [run_receiveReceipt, exec_of_refusal h rfl]
  have hfinal := final_receiveReceipt now receipt db
  have hhandled : (refusedReceipt e).Final := by
    cases e <;> first | exact .ret _ | exact .raise _
  rcases hhandled with ⟨a, ha⟩ | ⟨e', he'⟩
  · rw [ha] at hrun ⊢
    exact segment_final hfinal hrun
  · rw [he'] at hrun ⊢
    exact segment_final_error hfinal hrun

end PaymentService
