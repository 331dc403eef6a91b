import PaymentService.Transactions

/-!
# What each committed transaction can do

* `Change` — how a committed call changes the rows of the operation it addresses; `Refusal` —
  when a call raises, and what; `Idle` — when it returns without touching a row.
* `exec_effect` — **every call is refused, idle or one `Change`**: the one lemma the invariants
  are derived from.  A refused call leaves every row as it was.
* `exec_of_change`, `exec_of_idle`, `exec_of_refusal` — the converse: the three exclude each
  other, so what is possible of them is what the call does.
-/

namespace PaymentService

open UnitOfWork Tx

/-! ## Rows after each change -/

/-- The job of an operation that a receipt finishes. -/
def SendJob.closed (job : SendJob) (now : Timestamp) : SendJob :=
  if job.state = .done then job else { job with state := .done, updatedAt := now }

@[simp] theorem SendJob.closed_state (job : SendJob) (now : Timestamp) :
    (job.closed now).state = .done := by
  unfold closed
  split
  · assumption
  · rfl

@[simp] theorem SendJob.closed_createdAt (job : SendJob) (now : Timestamp) :
    (job.closed now).createdAt = job.createdAt := by
  unfold closed
  split <;> rfl

@[simp] theorem SendJob.closed_attempt (job : SendJob) (now : Timestamp) :
    (job.closed now).attempt = job.attempt := by
  unfold closed
  split <;> rfl

namespace Rows

/-- One more event, numbered after the last. -/
def record (rows : Rows) (now : Timestamp) (type : EventType)
    (fromStatus : Option OperationStatus) (toStatus : OperationStatus) (message : String) : Rows :=
  { rows with
    events := rows.events ++
      [⟨nextSequenceNo rows.events, type, fromStatus, toStatus, message, now⟩] }

def updateJob (rows : Rows) (change : SendJob → SendJob) : Rows :=
  { rows with sendJob := rows.sendJob.map change }

def bind (rows : Rows) (providerPaymentId : String) : Rows :=
  { rows with operation.providerPaymentId := some providerPaymentId }

@[simp] theorem record_operation (rows : Rows) (now : Timestamp) (type : EventType)
    (fromStatus : Option OperationStatus) (toStatus : OperationStatus) (message : String) :
    (rows.record now type fromStatus toStatus message).operation = rows.operation := rfl

@[simp] theorem record_sendJob (rows : Rows) (now : Timestamp) (type : EventType)
    (fromStatus : Option OperationStatus) (toStatus : OperationStatus) (message : String) :
    (rows.record now type fromStatus toStatus message).sendJob = rows.sendJob := rfl

@[simp] theorem updateJob_operation (rows : Rows) (change : SendJob → SendJob) :
    (rows.updateJob change).operation = rows.operation := rfl

@[simp] theorem updateJob_sendJob (rows : Rows) (change : SendJob → SendJob) :
    (rows.updateJob change).sendJob = rows.sendJob.map change := rfl

@[simp] theorem updateJob_events (rows : Rows) (change : SendJob → SendJob) :
    (rows.updateJob change).events = rows.events := rfl

@[simp] theorem bind_status (rows : Rows) (p : String) :
    (rows.bind p).operation.status = rows.operation.status := rfl

@[simp] theorem bind_providerPaymentId (rows : Rows) (p : String) :
    (rows.bind p).operation.providerPaymentId = some p := rfl

@[simp] theorem bind_sendJob (rows : Rows) (p : String) :
    (rows.bind p).sendJob = rows.sendJob := rfl

@[simp] theorem bind_events (rows : Rows) (p : String) : (rows.bind p).events = rows.events := rfl

theorem bind_self {rows : Rows} {p : String} (h : rows.operation.providerPaymentId = some p) :
    rows.bind p = rows := by
  obtain ⟨⟨amount, currency, description, status, id⟩, job, events⟩ := rows
  cases h
  rfl

def created (now : Timestamp) (request : CreateOperationRequest) : Rows :=
  record ⟨⟨request.amount.hundredths, request.currency, request.description, .created, none⟩,
    none, []⟩ now .created none .created "Operation created"

def submitted (rows : Rows) (now : Timestamp) : Rows :=
  record { rows with
    operation.status := .processing
    sendJob := some ⟨.pending, 0, none, none, now, now⟩ }
    now .submitRequested (some .created) .processing "Payment submission requested"

def claimed (rows : Rows) (now : Timestamp) : Rows :=
  rows.updateJob ({ · with state := .running, updatedAt := now })

def completed (rows : Rows) (now : Timestamp) (providerPaymentId : String) : Rows :=
  (rows.bind providerPaymentId).updateJob
    ({ · with state := .done, nextRetryAt := none, lastError := none, updatedAt := now })

/-- A failed attempt; the job waits for `retryAt`. -/
def failed (rows : Rows) (now retryAt : Timestamp) (error : String) : Rows :=
  rows.updateJob fun job =>
    { job with
      state := .waitingRetry
      attempt := job.attempt + 1
      nextRetryAt := some retryAt
      lastError := some error
      updatedAt := now }

def finalized (rows : Rows) (now : Timestamp) (receipt : ReceiptRequest) : Rows :=
  record (({ rows.bind receipt.providerPaymentId with
      operation.status := receipt.result.status }).updateJob (·.closed now))
    now (handleStatus receipt.result) (some rows.operation.status) receipt.result.status
    receipt.message

/-- The text of a `RECEIPT_IGNORED` event. -/
def ignoredMessage (received : ReceiptResult) (current : OperationStatus) : String :=
  s!"Conflicting late receipt ignored: received={received.value}; current={current.value}"

def ignored (rows : Rows) (now : Timestamp) (receipt : ReceiptRequest) : Rows :=
  (rows.bind receipt.providerPaymentId).record now .receiptIgnored (some rows.operation.status)
    rows.operation.status (ignoredMessage receipt.result rows.operation.status)

end Rows

/-! ## Changes, refusals, idle returns -/

/-- A reported delivery failure, with the state the job must be in to record it. -/
structure Failure where
  expected : SendJobState
  now : Timestamp
  draw : Draw
  error : String

namespace Call

/-- `move_to_retry` and `record_retry_failure` differ in the state they expect. -/
def failure : Call → Option Failure
  | .moveToRetry now draw _ error => some ⟨.running, now, draw, error⟩
  | .recordRetryFailure now draw _ error => some ⟨.waitingRetry, now, draw, error⟩
  | _ => none

/-- The calls that start with `get_operation_for_update`. -/
def locksOperation : Call → Bool
  | .create _ _ | .submit _ _ => false
  | _ => true

/-- The calls that raise when there is no job. -/
def needsSendJob : Call → Bool
  | .completeJob _ _ _ | .moveToRetry _ _ _ _ | .recordRetryFailure _ _ _ _ => true
  | _ => false

theorem failure_expected {c : Call} {f : Failure} (h : c.failure = some f) :
    f.expected = .running ∨ f.expected = .waitingRetry := by
  cases c <;> cases h
  · exact .inl rfl
  · exact .inr rfl

end Call

/-- The operation has this payment id, or has none and can take it. -/
def Binds (db : Db) (operationId providerPaymentId : String) (rows : Rows) : Prop :=
  rows.operation.providerPaymentId = some providerPaymentId ∨
  (rows.operation.providerPaymentId = none ∧
    paymentIdColumn db operationId providerPaymentId = .ok ())

/-- How a call that commits changes the rows of its operation, and what it returns. -/
inductive Change (db : Db) : Call → Option Rows → Outcome → Rows → Prop
  | created (now : Timestamp) (request : CreateOperationRequest)
      (hamount : request.amount.hundredths < 10 ^ 12) :
      Change db (.create now request) none (.operation (Rows.created now request).operation)
        (Rows.created now request)
  | submitted (now : Timestamp) (id : String) {rows : Rows}
      (hstatus : rows.operation.status = .created) (hjob : rows.sendJob = none) :
      Change db (.submit now id) (some rows) (.submitted .created) (rows.submitted now)
  | claimed (now : Timestamp) (id : String) {rows : Rows} {job : SendJob}
      (hjob : rows.sendJob = some job) (hstate : job.state = .pending) :
      Change db (.claimSendJob now id) (some rows) (.claimed true) (rows.claimed now)
  | completed (now : Timestamp) (id p : String) {rows : Rows} {job : SendJob}
      (hjob : rows.sendJob = some job)
      (hstate : job.state = .running ∨ job.state = .waitingRetry) (hp : Binds db id p rows) :
      Change db (.completeJob now id p) (some rows) .none (rows.completed now p)
  | failed {c : Call} {f : Failure} (hfailure : c.failure = some f) {rows : Rows} {job : SendJob}
      {retryAt : Timestamp} (hjob : rows.sendJob = some job) (hstate : job.state = f.expected)
      (hretry : RetryPolicy.default.nextRetryAt (job.attempt + 1) f.now f.draw = .ok retryAt)
      (herror : f.error.length ≤ 500) :
      Change db c (some rows) .none (rows.failed f.now retryAt f.error)
  | finalized (now : Timestamp) (receipt : ReceiptRequest) {rows : Rows}
      (hstatus : rows.operation.status = .processing)
      (hp : Binds db receipt.operationId receipt.providerPaymentId rows)
      (hmessage : receipt.message.length ≤ 255) :
      Change db (.processReceipt now receipt) (some rows) .none (rows.finalized now receipt)
  | ignored (now : Timestamp) (receipt : ReceiptRequest) {rows : Rows}
      (hstatus : rows.operation.status ≠ .processing)
      (hresult : rows.operation.status ≠ receipt.result.status)
      (hp : Binds db receipt.operationId receipt.providerPaymentId rows) :
      Change db (.processReceipt now receipt) (some rows) .none (rows.ignored now receipt)
  | duplicate (now : Timestamp) (receipt : ReceiptRequest) {rows : Rows}
      (hresult : rows.operation.status = receipt.result.status)
      (hp : Binds db receipt.operationId receipt.providerPaymentId rows) :
      Change db (.processReceipt now receipt) (some rows) .none
        (rows.bind receipt.providerPaymentId)

/-- When a call returns without touching a row, and what it returns. -/
inductive Idle (db : Db) : Call → Outcome → Prop
  | existing (now : Timestamp) (id : String) {rows : Rows} (hrows : db.lookup id = some rows)
      (hstatus : rows.operation.status ≠ .created) :
      Idle db (.submit now id) (.submitted .existing)
  | unclaimed (now : Timestamp) (id : String) {rows : Rows} (hrows : db.lookup id = some rows)
      (hstate : ∀ job ∈ rows.sendJob, job.state ≠ .pending) :
      Idle db (.claimSendJob now id) (.claimed false)
  | answered (now : Timestamp) (id p : String) {rows : Rows} {job : SendJob}
      (hrows : db.lookup id = some rows) (hjob : rows.sendJob = some job)
      (hp : ∀ existing ∈ rows.operation.providerPaymentId, existing = p)
      (hstate : ¬ (job.state = .running ∨ job.state = .waitingRetry)) :
      Idle db (.completeJob now id p) .none
  | failure {c : Call} {f : Failure} (hfailure : c.failure = some f) {rows : Rows} {job : SendJob}
      (hrows : db.lookup c.operationId = some rows) (hjob : rows.sendJob = some job)
      (hstate : job.state ≠ f.expected) : Idle db c .none

/-- When a call raises, and what it raises. -/
inductive Refusal (db : Db) : Call → Error → Prop
  | alreadyExists (now : Timestamp) (request : CreateOperationRequest) {rows : Rows}
      (hrows : db.lookup request.operationId = some rows) :
      Refusal db (.create now request) (.operationAlreadyExists request.operationId)
  | amount (now : Timestamp) (request : CreateOperationRequest)
      (hrows : db.lookup request.operationId = none)
      (hamount : ¬ request.amount.hundredths < 10 ^ 12) :
      Refusal db (.create now request) (.database (.dataError .amount))
  | submitNotFound (now : Timestamp) (id : String) (hrows : db.lookup id = none) :
      Refusal db (.submit now id) (.operationNotFound id)
  | secondSendJob (now : Timestamp) (id : String) {rows : Rows} {job : SendJob}
      (hrows : db.lookup id = some rows) (hstatus : rows.operation.status = .created)
      (hjob : rows.sendJob = some job) :
      Refusal db (.submit now id) (.database (.integrity .sendJobsPkey))
  | notFound {c : Call} (hlocks : c.locksOperation = true)
      (hrows : db.lookup c.operationId = none) :
      Refusal db c (.operationNotFound s!"Operation not found: {c.operationId}")
  | noSendJob {c : Call} {rows : Rows} (hneeds : c.needsSendJob = true)
      (hrows : db.lookup c.operationId = some rows) (hjob : rows.sendJob = none) :
      Refusal db c (.valueError s!"SendJob not found: {c.operationId}")
  | answerConflict (now : Timestamp) (id p : String) {rows : Rows} {job : SendJob}
      {existing : String} (hrows : db.lookup id = some rows) (hjob : rows.sendJob = some job)
      (hexisting : rows.operation.providerPaymentId = some existing) (hne : existing ≠ p) :
      Refusal db (.completeJob now id p) (.valueError
        s!"Provider payment ID conflict: operation={id}, existing={existing}, received={p}")
  | answerColumn (now : Timestamp) (id p : String) {rows : Rows} {job : SendJob} {e : DbError}
      (hrows : db.lookup id = some rows) (hjob : rows.sendJob = some job)
      (hstate : job.state = .running ∨ job.state = .waitingRetry)
      (hunbound : rows.operation.providerPaymentId = none)
      (hcolumn : paymentIdColumn db id p = .error e) :
      Refusal db (.completeJob now id p) (.database e)
  | retryPolicy {c : Call} {f : Failure} (hfailure : c.failure = some f) {rows : Rows}
      {job : SendJob} {e : Error} (hrows : db.lookup c.operationId = some rows)
      (hjob : rows.sendJob = some job) (hstate : job.state = f.expected)
      (hretry : RetryPolicy.default.nextRetryAt (job.attempt + 1) f.now f.draw = .error e) :
      Refusal db c e
  | errorText {c : Call} {f : Failure} (hfailure : c.failure = some f) {rows : Rows}
      {job : SendJob} (hrows : db.lookup c.operationId = some rows)
      (hjob : rows.sendJob = some job) (hstate : job.state = f.expected)
      (hlong : ¬ f.error.length ≤ 500) :
      Refusal db c (.database (.dataError .lastError))
  | receiptConflict (now : Timestamp) (receipt : ReceiptRequest) {rows : Rows}
      {existing : String} (hrows : db.lookup receipt.operationId = some rows)
      (hexisting : rows.operation.providerPaymentId = some existing)
      (hne : existing ≠ receipt.providerPaymentId) :
      Refusal db (.processReceipt now receipt) (.providerPaymentConflict
        s!"Provider payment ID conflict: operation={receipt.operationId}, existing={existing}, received={receipt.providerPaymentId}")
  | receiptColumn (now : Timestamp) (receipt : ReceiptRequest) {rows : Rows} {e : DbError}
      (hrows : db.lookup receipt.operationId = some rows)
      (hunbound : rows.operation.providerPaymentId = none)
      (hcolumn : paymentIdColumn db receipt.operationId receipt.providerPaymentId = .error e) :
      Refusal db (.processReceipt now receipt) (.database e)
  | receiptMessage (now : Timestamp) (receipt : ReceiptRequest) {rows : Rows}
      (hrows : db.lookup receipt.operationId = some rows)
      (hstatus : rows.operation.status = .processing)
      (hp : Binds db receipt.operationId receipt.providerPaymentId rows)
      (hlong : ¬ receipt.message.length ≤ 255) :
      Refusal db (.processReceipt now receipt) (.database (.dataError .message))

/-- The three ways a call ends. -/
inductive Effect (db : Db) (c : Call) : Except Error Outcome × Db → Prop
  | refused {e : Error} (h : Refusal db c e) : Effect db c (.error e, db)
  | idle {out : Outcome} (h : Idle db c out) : Effect db c (.ok out, db)
  | changed {out : Outcome} {rows : Rows} (h : Change db c (db.lookup c.operationId) out rows) :
      Effect db c (.ok out, db.insert c.operationId rows)

/-! ## Flushing changes of one operation -/

theorem flush_onRows {db : Db} {id : String} {rows rows' : Rows}
    {change : Rows → Except DbError Rows} (hrows : db.lookup id = some rows)
    (h : change rows = .ok rows') (pending : List (Statement Db DbError)) :
    flush (onRows id change :: pending) db = flush pending (db.insert id rows') :=
  flush_cons_ok (by simp only [onRows, hrows, h]) pending

theorem flush_onRows_error {db : Db} {id : String} {rows : Rows} {e : DbError}
    {change : Rows → Except DbError Rows} (hrows : db.lookup id = some rows)
    (h : change rows = .error e) (pending : List (Statement Db DbError)) :
    flush (onRows id change :: pending) db = .error e :=
  flush_cons_error (by simp only [onRows, hrows, h]) pending

theorem flush_setProviderPaymentId {db : Db} {id p : String} {rows : Rows}
    (hrows : db.lookup id = some rows) (h : paymentIdColumn db id p = .ok ())
    (pending : List (Statement Db DbError)) :
    flush (setProviderPaymentId id p :: pending) db =
      flush pending (db.insert id (rows.bind p)) :=
  flush_cons_ok (by simp only [setProviderPaymentId, h, onRows, hrows, Rows.bind]) pending

theorem flush_setProviderPaymentId_error {db : Db} {id p : String} {e : DbError}
    (h : paymentIdColumn db id p = .error e) (pending : List (Statement Db DbError)) :
    flush (setProviderPaymentId id p :: pending) db = .error e :=
  flush_cons_error (by simp only [setProviderPaymentId, h]) pending

section

variable {db : Db} {id : String} {rows : Rows} (hrows : db.lookup id = some rows)

include hrows

theorem flush_updateSendJob (change : SendJob → SendJob) (pending : List (Statement Db DbError)) :
    flush (updateSendJob id change :: pending) db =
      flush pending (db.insert id (rows.updateJob change)) := by
  refine flush_onRows hrows ?_ pending
  rfl

theorem flush_setStatus (status : OperationStatus) (pending : List (Statement Db DbError)) :
    flush (setStatus id status :: pending) db =
      flush pending (db.insert id { rows with operation.status := status }) := by
  refine flush_onRows hrows ?_ pending
  rfl

theorem flush_insertSendJob (hjob : rows.sendJob = none) (sendJob : SendJob)
    (pending : List (Statement Db DbError)) :
    flush (insertSendJob id sendJob :: pending) db =
      flush pending (db.insert id { rows with sendJob := some sendJob }) :=
  flush_onRows hrows (by simp only [hjob]) pending

theorem flush_insertSendJob_error {job : SendJob} (hjob : rows.sendJob = some job)
    (sendJob : SendJob) (pending : List (Statement Db DbError)) :
    flush (insertSendJob id sendJob :: pending) db = .error (.integrity .sendJobsPkey) :=
  flush_onRows_error hrows (by simp only [hjob]) pending

theorem flush_setLastError {error : String} (h : error.length ≤ 500)
    (pending : List (Statement Db DbError)) :
    flush (setLastError id error :: pending) db =
      flush pending (db.insert id (rows.updateJob ({ · with lastError := some error }))) :=
  flush_onRows hrows (by simp only [varchar, if_pos h]; rfl) pending

theorem flush_setLastError_error {error : String} (h : ¬ error.length ≤ 500)
    (pending : List (Statement Db DbError)) :
    flush (setLastError id error :: pending) db = .error (.dataError .lastError) :=
  flush_onRows_error hrows (by simp only [varchar, if_neg h]) pending

/-- An event numbered after the last one only has to fit its column. -/
theorem flush_insertEvent (now : Timestamp) (type : EventType)
    (fromStatus : Option OperationStatus) (toStatus : OperationStatus) {message : String}
    (h : message.length ≤ 255) (pending : List (Statement Db DbError)) :
    flush (insertEvent id ⟨nextSequenceNo rows.events, type, fromStatus, toStatus, message, now⟩
        :: pending) db =
      flush pending (db.insert id (rows.record now type fromStatus toStatus message)) :=
  flush_onRows hrows
    (by simp only [varchar, if_pos h, if_neg (nextSequenceNo_fresh rows.events), Rows.record])
    pending

theorem flush_insertEvent_error {event : Event} (h : ¬ event.message.length ≤ 255)
    (pending : List (Statement Db DbError)) :
    flush (insertEvent id event :: pending) db = .error (.dataError .message) :=
  flush_onRows_error hrows (by simp only [varchar, if_neg h]) pending

end

/-! ## One lemma per transaction -/

section

variable {db : Db} {c : Call} {out : Outcome} {pending : List (Statement Db DbError)}

/-- A call that reaches its commit with changes the database takes. -/
theorem effect_commit {r : Rows} (hflush : flush pending db = .ok (db.insert c.operationId r))
    (h : Change db c (db.lookup c.operationId) out r) :
    Effect db c ((commit >>= fun _ => pure out).run Error.database pending db) := by
  rw [run_commit_bind_ok hflush]
  exact .changed h

theorem effect_commit_error {e : DbError} (h : Refusal db c (.database e))
    (hflush : flush pending db = .error e) :
    Effect db c ((commit >>= fun _ => pure out).run Error.database pending db) := by
  rw [run_commit_bind_error hflush]
  exact .refused h

theorem effect_idle (h : Idle db c out) :
    Effect db c ((commit >>= fun _ => pure out).run Error.database [] db) := by
  rw [run_commit_bind_ok (flush_nil db)]
  exact .idle h

end

theorem claimSendJob_effect (db : Db) (now : Timestamp) (id : String) :
    Effect db (.claimSendJob now id) ((Call.claimSendJob now id).exec db) := by
  simp only [Call.exec, Call.tx, exec, claimSendJob, bind_assoc]
  cases hrows : db.lookup id with
  | none =>
    rw [run_getOperationForUpdate_none hrows]
    exact .refused (.notFound rfl hrows)
  | some rows =>
    rw [run_getOperationForUpdate_some hrows]
    cases hjob : rows.sendJob with
    | none =>
      exact effect_idle (.unclaimed now id hrows (by simp [hjob]))
    | some job =>
      by_cases hstate : job.state = .pending
      · simp only [ne_eq, hstate, not_true_eq_false, if_false, bind_assoc, run_save_bind, pure_bind]
        refine effect_commit (flush_updateSendJob hrows _ []) ?_
        rw [show (Call.claimSendJob now id).operationId = id from rfl, hrows]
        exact .claimed now id hjob hstate
      · simp only [ne_eq, hstate, not_false_eq_true, if_true, pure_bind]
        exact effect_idle (.unclaimed now id hrows (by simpa [hjob] using hstate))

theorem completeJob_effect (db : Db) (now : Timestamp) (id p : String) :
    Effect db (.completeJob now id p) ((Call.completeJob now id p).exec db) := by
  simp only [Call.exec, Call.tx, exec, completeJob, bind_assoc]
  cases hrows : db.lookup id with
  | none =>
    rw [run_getOperationForUpdate_none hrows]
    exact .refused (.notFound rfl hrows)
  | some rows =>
  rw [run_getOperationForUpdate_some hrows]
  cases hjob : rows.sendJob with
  | none => exact .refused (.noSendJob rfl hrows hjob)
  | some job =>
  dsimp only
  by_cases hstate : job.state = .running ∨ job.state = .waitingRetry
  · have hdone : job.state ≠ .done := by rcases hstate with h | h <;> simp [h]
    simp only [if_neg hdone, hstate, not_true_eq_false, if_false, bind_assoc]
    cases hid : rows.operation.providerPaymentId with
    | none =>
      simp only [completeJob.refuseOtherId, hid, pure_bind, bind_assoc, run_save_bind,
        List.nil_append, List.cons_append]
      cases hcolumn : paymentIdColumn db id p with
      | error e =>
        exact effect_commit_error (.answerColumn now id p hrows hjob hstate hid hcolumn)
          (flush_setProviderPaymentId_error hcolumn _)
      | ok _ =>
        refine effect_commit (r := rows.completed now p) ?_ ?_
        · rw [flush_setProviderPaymentId hrows hcolumn,
            flush_updateSendJob (Finmap.lookup_insert db), Finmap.insert_insert]
          rfl
        · rw [show (Call.completeJob now id p).operationId = id from rfl, hrows]
          exact .completed now id p hjob hstate (.inr ⟨hid, hcolumn⟩)
    | some existing =>
      simp only [completeJob.refuseOtherId, hid]
      by_cases hp : existing = p
      · simp only [ne_eq, hp, not_true_eq_false, if_false, pure_bind, run_save_bind,
          List.nil_append]
        rw [hp] at hid
        refine effect_commit (r := rows.completed now p) ?_ ?_
        · rw [flush_updateSendJob hrows, Rows.completed, Rows.bind_self hid]
          rfl
        · rw [show (Call.completeJob now id p).operationId = id from rfl, hrows]
          exact .completed now id p hjob hstate (.inl hid)
      · simp only [ne_eq, hp, not_false_eq_true, if_true, Session.raise_bind]
        exact .refused (.answerConflict now id p hrows hjob hid hp)
  · simp only [hstate, not_false_eq_true, if_true, ite_self]
    cases hid : rows.operation.providerPaymentId with
    | none =>
      simp only [completeJob.refuseOtherId, hid, pure_bind]
      exact effect_idle (.answered now id p hrows hjob (by simp [hid]) hstate)
    | some existing =>
      simp only [completeJob.refuseOtherId, hid]
      by_cases hp : existing = p
      · simp only [ne_eq, hp, not_true_eq_false, if_false, pure_bind]
        exact effect_idle (.answered now id p hrows hjob (by simp [hid, hp]) hstate)
      · simp only [ne_eq, hp, not_false_eq_true, if_true, Session.raise_bind]
        exact .refused (.answerConflict now id p hrows hjob hid hp)

/-- Both failure reports run the same statements; `move_to_retry` also writes the state. -/
theorem run_scheduleRetry_bind_ok {policy : RetryPolicy} {now retryAt : Timestamp} {draw : Draw}
    {job : SendJob} (h : policy.nextRetryAt (job.attempt + 1) now draw = .ok retryAt) (id : String)
    (error : String) {α : Type} (f : Unit → Tx α) (fail : DbError → Error)
    (pending : List (Statement Db DbError)) (db : Db) :
    (scheduleRetry policy now draw id job error >>= f).run fail pending db =
      (f ()).run fail (pending ++ [setLastError id error, updateSendJob id
        ({ · with attempt := job.attempt + 1, nextRetryAt := some retryAt })]) db := by
  simp only [scheduleRetry, h, bind_assoc, run_save_bind, List.append_assoc, List.cons_append,
    List.nil_append]

theorem run_scheduleRetry_bind_error {policy : RetryPolicy} {now : Timestamp} {draw : Draw}
    {job : SendJob} {e : Error} (h : policy.nextRetryAt (job.attempt + 1) now draw = .error e)
    (id : String) (error : String) {α : Type} (f : Unit → Tx α) (fail : DbError → Error)
    (pending : List (Statement Db DbError)) (db : Db) :
    (scheduleRetry policy now draw id job error >>= f).run fail pending db = (.error e, db) := by
  simp only [scheduleRetry, h, bind_assoc, run_save_bind, Session.raise_bind, run_raise]

/-- The write-back of a failure: `last` is what the method assigns after `_schedule_retry`. -/
theorem failure_effect {db : Db} {c : Call} {f : Failure} (hfailure : c.failure = some f)
    {rows : Rows} {job : SendJob} (hrows : db.lookup c.operationId = some rows)
    (hjob : rows.sendJob = some job) (hstate : job.state = f.expected)
    {last : SendJob → SendJob}
    (hlast : ∀ j, j.state = f.expected →
      last j = { j with state := .waitingRetry, updatedAt := f.now }) :
    Effect db c ((scheduleRetry RetryPolicy.default f.now f.draw c.operationId job f.error >>=
      fun _ => save (updateSendJob c.operationId last) >>= fun _ => commit >>=
      fun _ => pure .none).run Error.database [] db) := by
  cases hretry : RetryPolicy.default.nextRetryAt (job.attempt + 1) f.now f.draw with
  | error e =>
    rw [run_scheduleRetry_bind_error hretry]
    exact .refused (.retryPolicy hfailure hrows hjob hstate hretry)
  | ok retryAt =>
    rw [run_scheduleRetry_bind_ok hretry]
    simp only [run_save_bind, List.nil_append, List.cons_append]
    by_cases herror : f.error.length ≤ 500
    · refine effect_commit (r := rows.failed f.now retryAt f.error) ?_ ?_
      · rw [flush_setLastError hrows herror, flush_updateSendJob (Finmap.lookup_insert db),
          Finmap.insert_insert, flush_updateSendJob (Finmap.lookup_insert db),
          Finmap.insert_insert]
        simp [Rows.failed, Rows.updateJob, hjob, hlast, hstate]
      · rw [hrows]
        exact .failed hfailure hjob hstate hretry herror
    · exact effect_commit_error (.errorText hfailure hrows hjob hstate herror)
        (flush_setLastError_error hrows herror _)

theorem moveToRetry_effect (db : Db) (now : Timestamp) (draw : Draw) (id error : String) :
    Effect db (.moveToRetry now draw id error) ((Call.moveToRetry now draw id error).exec db) := by
  have hfailure : (Call.moveToRetry now draw id error).failure =
    some ⟨.running, now, draw, error⟩ := rfl
  simp only [Call.exec, Call.tx, exec, moveToRetry, bind_assoc]
  cases hrows : db.lookup id with
  | none =>
    rw [run_getOperationForUpdate_none hrows]
    exact .refused (.notFound rfl hrows)
  | some rows =>
  rw [run_getOperationForUpdate_some hrows]
  cases hjob : rows.sendJob with
  | none => exact .refused (.noSendJob rfl hrows hjob)
  | some job =>
  dsimp only
  by_cases hstate : job.state = .running
  · simp only [ne_eq, hstate, not_true_eq_false, if_false, bind_assoc]
    exact failure_effect hfailure hrows hjob hstate (fun j _ => rfl)
  · simp only [ne_eq, hstate, not_false_eq_true, if_true, pure_bind]
    exact effect_idle (.failure hfailure hrows hjob hstate)

theorem recordRetryFailure_effect (db : Db) (now : Timestamp) (draw : Draw) (id error : String) :
    Effect db (.recordRetryFailure now draw id error)
      ((Call.recordRetryFailure now draw id error).exec db) := by
  have hfailure : (Call.recordRetryFailure now draw id error).failure =
    some ⟨.waitingRetry, now, draw, error⟩ := rfl
  simp only [Call.exec, Call.tx, exec, recordRetryFailure, bind_assoc]
  cases hrows : db.lookup id with
  | none =>
    rw [run_getOperationForUpdate_none hrows]
    exact .refused (.notFound rfl hrows)
  | some rows =>
  rw [run_getOperationForUpdate_some hrows]
  cases hjob : rows.sendJob with
  | none => exact .refused (.noSendJob rfl hrows hjob)
  | some job =>
  dsimp only
  by_cases hstate : job.state = .waitingRetry
  · simp only [ne_eq, hstate, not_true_eq_false, if_false, bind_assoc]
    exact failure_effect hfailure hrows hjob hstate
      (fun j (hj : j.state = .waitingRetry) => by rw [← hj])
  · simp only [ne_eq, hstate, not_false_eq_true, if_true, pure_bind]
    exact effect_idle (.failure hfailure hrows hjob hstate)

/-- The texts the services write themselves fit the message column. -/
theorem created_fits : "Operation created".length ≤ 255 := by decide

theorem requested_fits : "Payment submission requested".length ≤ 255 := by decide

theorem ignoredMessage_fits (received : ReceiptResult) (current : OperationStatus) :
    (Rows.ignoredMessage received current).length ≤ 255 := by
  have hreceived := received.value_length
  have hcurrent := current.value_length
  have htext : Rows.ignoredMessage received current =
    "Conflicting late receipt ignored: received=" ++ received.value ++ "; current=" ++
      current.value := rfl
  have hfirst : "Conflicting late receipt ignored: received=".length = 43 := by decide
  have hsecond : "; current=".length = 10 := by decide
  rw [htext, String.length_append, String.length_append, String.length_append, hfirst, hsecond]
  omega

theorem submit_effect (db : Db) (now : Timestamp) (id : String) :
    Effect db (.submit now id) ((Call.submit now id).exec db) := by
  simp only [Call.exec, Call.tx, exec, submit, bind_assoc]
  rw [run_selectOperationForUpdate_bind]
  cases hrows : db.lookup id with
  | none => exact .refused (.submitNotFound now id hrows)
  | some rows =>
  dsimp only [Option.map_some]
  by_cases hstatus : rows.operation.status = .created
  · simp only [ne_eq, hstatus, not_true_eq_false, if_false, bind_assoc, run_save_bind,
      List.nil_append, List.cons_append]
    cases hjob : rows.sendJob with
    | some job =>
      rw [run_createEvent_bind_error (flush_insertSendJob_error hrows hjob _ _)]
      exact .refused (.secondSendJob now id hrows hstatus hjob)
    | none =>
      have hview : flush [insertSendJob id ⟨.pending, 0, none, none, now, now⟩,
          setStatus id .processing] db = .ok (db.insert id { rows with
            operation.status := .processing
            sendJob := some ⟨.pending, 0, none, none, now, now⟩ }) := by
        rw [flush_insertSendJob hrows hjob, flush_setStatus (Finmap.lookup_insert db),
          Finmap.insert_insert, flush_nil]
      rw [run_createEvent_bind_ok hview (Finmap.lookup_insert db)]
      have hcommit := (flush_append_ok hview _).trans (flush_insertEvent (Finmap.lookup_insert db)
        now .submitRequested (some .created) .processing requested_fits [])
      rw [Finmap.insert_insert] at hcommit
      rw [run_commit_bind_ok hcommit, run_refresh_bind (Finmap.lookup_insert db)]
      exact .changed (hrows ▸ .submitted now id hstatus hjob)
  · simp only [ne_eq, hstatus, not_false_eq_true, if_true, pure_bind]
    exact .idle (.existing now id hrows hstatus)

/-- An accepted request fits every column of `operations` but, possibly, the amount. -/
theorem insertOperation_eq (db : Db) (request : CreateOperationRequest)
    (hamount : request.amount.hundredths < 10 ^ 12) :
    insertOperation request.operationId request.amount.hundredths request.currency
        request.description .created db =
      match db.lookup request.operationId with
      | some _ => .error (.integrity .operationsPkey)
      | none => .ok (db.insert request.operationId ⟨⟨request.amount.hundredths, request.currency,
          request.description, .created, none⟩, none, []⟩) := by
  have hcurrency : request.currency.length ≤ 3 := by rw [request.currency_rub]; decide
  have hdescription : varcharNull .description 255 request.description = .ok () := by
    cases hd : request.description with
    | none => rfl
    | some text => exact if_pos (request.description_max text hd)
  simp only [insertOperation, varchar, numeric, if_pos request.operationId_max, if_pos hamount,
    if_pos hcurrency, hdescription]
  rfl

theorem flush_insertOperation {db : Db} (request : CreateOperationRequest)
    (hrows : db.lookup request.operationId = none) (hamount : request.amount.hundredths < 10 ^ 12)
    (pending : List (Statement Db DbError)) :
    flush (insertOperation request.operationId request.amount.hundredths request.currency
        request.description .created :: pending) db =
      flush pending (db.insert request.operationId ⟨⟨request.amount.hundredths, request.currency,
        request.description, .created, none⟩, none, []⟩) := by
  refine flush_cons_ok ?_ pending
  rw [insertOperation_eq db request hamount, hrows]

theorem flush_insertOperation_error {db : Db} (request : CreateOperationRequest)
    (hamount : ¬ request.amount.hundredths < 10 ^ 12) (pending : List (Statement Db DbError)) :
    flush (insertOperation request.operationId request.amount.hundredths request.currency
        request.description .created :: pending) db = .error (.dataError .amount) := by
  refine flush_cons_error ?_ pending
  simp only [insertOperation, varchar, numeric, if_pos request.operationId_max, if_neg hamount]
  rfl

theorem create_effect (db : Db) (now : Timestamp) (request : CreateOperationRequest) :
    Effect db (.create now request) ((Call.create now request).exec db) := by
  simp only [Call.exec, Call.tx, exec, create, existsOfThrowException, bind_assoc]
  rw [run_selectOperation_bind]
  cases hrows : db.lookup request.operationId with
  | some rows => exact .refused (.alreadyExists now request hrows)
  | none =>
  simp only [Option.map_none, pure_bind, run_save_bind, List.nil_append]
  by_cases hamount : request.amount.hundredths < 10 ^ 12
  · have hview := flush_insertOperation request hrows hamount []
    rw [flush_nil] at hview
    rw [run_createEvent_bind_ok hview (Finmap.lookup_insert db)]
    have hcommit := (flush_append_ok hview _).trans (flush_insertEvent (Finmap.lookup_insert db)
      now .created none .created created_fits [])
    rw [Finmap.insert_insert] at hcommit
    rw [run_commitExceptIntegrity_bind_ok hcommit, run_refresh_bind (Finmap.lookup_insert db)]
    refine .changed ?_
    rw [show (Call.create now request).operationId = request.operationId from rfl, hrows]
    exact .created now request hamount
  · rw [run_createEvent_bind_error (flush_insertOperation_error request hamount [])]
    exact .refused (.amount now request hrows hamount)

/-! ### Receipts -/

theorem insert_lookup_self {db : Db} {id : String} {rows : Rows} (h : db.lookup id = some rows) :
    db.insert id rows = db := by
  apply Finmap.ext_lookup
  intro x
  by_cases hx : x = id
  · rw [hx, Finmap.lookup_insert, h]
  · rw [Finmap.lookup_insert_of_ne db hx]

/-- What `process_receipt` and its commit do after the id check. -/
def receiptTail (now : Timestamp) (rows : Rows) (receipt : ReceiptRequest) : Tx Outcome :=
  (if rows.operation.status ≠ .processing then handleLateReceipt now rows.operation receipt
    else completeOperation now rows.operation rows.sendJob receipt) >>=
  fun _ => commit >>= fun _ => pure .none

/-- A pending payment id the database refuses fails the next flush, wherever it is. -/
theorem run_receiptTail_error {db : Db} {pending : List (Statement Db DbError)} {e : DbError}
    (hbase : flush pending db = .error e) (now : Timestamp) (rows : Rows)
    (receipt : ReceiptRequest) :
    (receiptTail now rows receipt).run Error.database pending db = (.error (.database e), db) := by
  unfold receiptTail
  split
  · dsimp only [handleLateReceipt]
    split
    · exact run_commit_bind_error hbase _
    · exact run_createEvent_bind_error hbase _ _ _ _ _ _ _
  · dsimp only [completeOperation]
    cases rows.sendJob with
    | none =>
      simp only [bind_assoc, run_save_bind]
      exact run_createEvent_bind_error (flush_append_error hbase _) _ _ _ _ _ _ _
    | some job =>
      dsimp only
      split
      · simp only [bind_assoc, run_save_bind]
        exact run_createEvent_bind_error (flush_append_error hbase _) _ _ _ _ _ _ _
      · simp only [bind_assoc, run_save_bind]
        exact run_createEvent_bind_error
          (flush_append_error (flush_append_error hbase _) _) _ _ _ _ _ _ _

/-- The end of `_complete_operation`, once status and job are pending. -/
theorem finalize_effect {db : Db} {pending : List (Statement Db DbError)} {rows : Rows}
    (now : Timestamp) {receipt : ReceiptRequest}
    (hrows : db.lookup receipt.operationId = some rows)
    (hp : Binds db receipt.operationId receipt.providerPaymentId rows)
    (hstatus : rows.operation.status = .processing)
    (hview : flush pending db = .ok (db.insert receipt.operationId
      (({ rows.bind receipt.providerPaymentId with
        operation.status := receipt.result.status }).updateJob (·.closed now)))) :
    Effect db (.processReceipt now receipt)
      ((createEvent now receipt.operationId (handleStatus receipt.result)
        (some rows.operation.status) receipt.result.status receipt.message >>=
        fun _ => commit >>= fun _ => pure .none).run Error.database pending db) := by
  have hlookup : db.lookup (Call.processReceipt now receipt).operationId = some rows := hrows
  rw [run_createEvent_bind_ok hview (Finmap.lookup_insert db)]
  by_cases hmessage : receipt.message.length ≤ 255
  · have hcommit := (flush_append_ok hview _).trans (flush_insertEvent (Finmap.lookup_insert db)
      now (handleStatus receipt.result) (some rows.operation.status) receipt.result.status
      hmessage [])
    rw [Finmap.insert_insert] at hcommit
    refine effect_commit hcommit ?_
    rw [hlookup]
    exact .finalized now receipt hstatus hp hmessage
  · refine effect_commit_error (.receiptMessage now receipt hrows hstatus hp hmessage) ?_
    rw [flush_append_ok hview, flush_insertEvent_error (Finmap.lookup_insert db) hmessage]

/-- The flush of `_complete_operation`: the status, and the job when there is an open one. -/
theorem flush_complete {db : Db} {pending : List (Statement Db DbError)} {rows : Rows}
    {id p : String} (hbase : flush pending db = .ok (db.insert id (rows.bind p)))
    (now : Timestamp) (status : OperationStatus) :
    flush (pending ++ (match rows.sendJob with
        | none => [setStatus id status]
        | some job =>
          if job.state = .done then [setStatus id status]
          else [setStatus id status, updateSendJob id
            ({ · with state := .done, updatedAt := now })])) db =
      .ok (db.insert id (({ rows.bind p with operation.status := status }).updateJob
        (·.closed now))) := by
  rw [flush_append_ok hbase]
  cases hjob : rows.sendJob with
  | none =>
    dsimp only
    rw [flush_setStatus (Finmap.lookup_insert db), Finmap.insert_insert, flush_nil]
    simp [Rows.updateJob, Rows.bind, hjob]
  | some job =>
    by_cases hdone : job.state = .done
    · simp only [if_pos hdone]
      rw [flush_setStatus (Finmap.lookup_insert db), Finmap.insert_insert, flush_nil]
      simp [Rows.updateJob, Rows.bind, hjob, SendJob.closed, hdone]
    · simp only [if_neg hdone]
      rw [flush_setStatus (Finmap.lookup_insert db), Finmap.insert_insert,
        flush_updateSendJob (Finmap.lookup_insert db), Finmap.insert_insert, flush_nil]
      simp [Rows.updateJob, Rows.bind, hjob, SendJob.closed, hdone]

theorem receiptTail_effect {db : Db} {pending : List (Statement Db DbError)} {rows : Rows}
    (now : Timestamp) {receipt : ReceiptRequest}
    (hrows : db.lookup receipt.operationId = some rows)
    (hp : Binds db receipt.operationId receipt.providerPaymentId rows)
    (hbase : flush pending db =
      .ok (db.insert receipt.operationId (rows.bind receipt.providerPaymentId))) :
    Effect db (.processReceipt now receipt)
      ((receiptTail now rows receipt).run Error.database pending db) := by
  have hlookup : db.lookup (Call.processReceipt now receipt).operationId = some rows := hrows
  unfold receiptTail
  split
  · rename_i hstatus
    dsimp only [handleLateReceipt]
    split
    · rename_i hresult
      refine effect_commit hbase ?_
      rw [hlookup]
      exact .duplicate now receipt hresult hp
    · rename_i hresult
      rw [run_createEvent_bind_ok hbase (Finmap.lookup_insert db)]
      have hcommit := (flush_append_ok hbase _).trans (flush_insertEvent (Finmap.lookup_insert db)
        now .receiptIgnored (some rows.operation.status) rows.operation.status
        (ignoredMessage_fits receipt.result rows.operation.status) [])
      rw [Finmap.insert_insert] at hcommit
      refine effect_commit hcommit ?_
      rw [hlookup]
      exact .ignored now receipt hstatus hresult hp
  · rename_i hstatus
    have hstatus : rows.operation.status = .processing := not_not.mp hstatus
    have hview := flush_complete hbase now receipt.result.status
    dsimp only [completeOperation]
    cases hjob : rows.sendJob with
    | none =>
      simp only [hjob] at hview
      simp only [bind_assoc, run_save_bind]
      exact finalize_effect now hrows hp hstatus hview
    | some job =>
      simp only [hjob] at hview
      dsimp only
      by_cases hdone : job.state = .done
      · simp only [if_pos hdone] at hview ⊢
        simp only [bind_assoc, run_save_bind]
        exact finalize_effect now hrows hp hstatus hview
      · simp only [if_neg hdone] at hview ⊢
        simp only [bind_assoc, run_save_bind, List.append_assoc, List.cons_append, List.nil_append]
        exact finalize_effect now hrows hp hstatus hview

theorem processReceipt_effect (db : Db) (now : Timestamp) (receipt : ReceiptRequest) :
    Effect db (.processReceipt now receipt) ((Call.processReceipt now receipt).exec db) := by
  simp only [Call.exec, Call.tx, exec, processReceipt, bind_assoc]
  cases hrows : db.lookup receipt.operationId with
  | none =>
    rw [run_getOperationForUpdate_none hrows]
    exact .refused (.notFound rfl hrows)
  | some rows =>
  rw [run_getOperationForUpdate_some hrows]
  dsimp only
  cases hid : rows.operation.providerPaymentId with
  | none =>
    simp only [validateProviderPaymentId, hid, pure_bind, bind_assoc, run_save_bind,
      List.nil_append]
    cases hcolumn : paymentIdColumn db receipt.operationId receipt.providerPaymentId with
    | error e =>
      have herror := run_receiptTail_error (flush_setProviderPaymentId_error hcolumn []) now rows
        receipt
      unfold receiptTail at herror
      rw [herror]
      exact .refused (.receiptColumn now receipt hrows hid hcolumn)
    | ok _ =>
      exact receiptTail_effect now hrows (.inr ⟨hid, hcolumn⟩)
        (flush_setProviderPaymentId hrows hcolumn [])
  | some existing =>
    simp only [validateProviderPaymentId, hid]
    by_cases hp : existing = receipt.providerPaymentId
    · rw [if_neg (not_not_intro hp)]
      rw [hp] at hid
      refine receiptTail_effect now hrows (.inl hid) ?_
      rw [flush_nil, Rows.bind_self hid, insert_lookup_self hrows]
    · rw [if_pos hp]
      exact .refused (.receiptConflict now receipt hrows hid hp)

/-- **Every call is refused, idle or one change of the rows it addresses.** -/
theorem exec_effect (db : Db) (c : Call) : Effect db c (c.exec db) := by
  cases c with
  | create now request => exact create_effect db now request
  | submit now id => exact submit_effect db now id
  | claimSendJob now id => exact claimSendJob_effect db now id
  | completeJob now id p => exact completeJob_effect db now id p
  | moveToRetry now draw id error => exact moveToRetry_effect db now draw id error
  | recordRetryFailure now draw id error => exact recordRetryFailure_effect db now draw id error
  | processReceipt now receipt => exact processReceipt_effect db now receipt

/-! ## The three ways exclude each other -/

section Exclusive

variable {db : Db} {c : Call} {out out' : Outcome} {rows rows' : Rows} {e e' : Error}

theorem Change.not_idle (h : Change db c (db.lookup c.operationId) out rows) :
    ¬ Idle db c out' := by
  intro hi
  generalize ho : db.lookup c.operationId = o at h
  cases hi with
  | existing now id hrows hstatus => cases h <;> simp_all [Call.operationId, Call.failure]
  | unclaimed now id hrows hstate => cases h <;> simp_all [Call.operationId, Call.failure]
  | answered now id p hrows hjob hp hstate => cases h <;> simp_all [Call.operationId, Call.failure]
  | failure hf hrows hjob hstate => cases h <;> simp_all [Call.failure]

theorem Change.not_refused (h : Change db c (db.lookup c.operationId) out rows) :
    ¬ Refusal db c e := by
  intro hr
  generalize ho : db.lookup c.operationId = o at h
  cases h with
  | created now request hamount =>
    cases hr <;> simp_all [Call.operationId, Call.locksOperation, Call.failure]
  | submitted now id hstatus hjob =>
    cases hr <;> simp_all [Call.operationId, Call.needsSendJob, Call.failure]
  | claimed now id hjob hstate =>
    cases hr <;> simp_all [Call.operationId, Call.needsSendJob, Call.failure]
  | completed now id p hjob hstate hp =>
    cases hr <;> simp_all [Call.operationId, Call.failure, Binds]
  | failed hf hjob hstate hretry herror =>
    cases hr <;> simp_all [Call.failure]
    omega
  | finalized now receipt hstatus hp hmessage =>
    cases hr <;> simp_all [Call.operationId, Call.needsSendJob, Call.failure, Binds]
  | ignored now receipt hstatus hresult hp =>
    cases hr <;> simp_all [Call.operationId, Call.needsSendJob, Call.failure, Binds]
  | duplicate now receipt hresult hp =>
    cases hr <;> simp_all [Call.operationId, Call.needsSendJob, Call.failure, Binds]

theorem Change.unique {o : Option Rows} (h : Change db c o out rows)
    (h' : Change db c o out' rows') : out' = out ∧ rows' = rows := by
  cases h with
  | finalized now receipt hstatus =>
    have hne := ReceiptResult.status_ne_processing receipt.result
    cases h' <;> simp_all [Call.failure]
  | duplicate now receipt hresult =>
    have hne := ReceiptResult.status_ne_processing receipt.result
    cases h' <;> simp_all [Call.failure]
  | created | submitted | claimed | completed | failed | ignored =>
    cases h' <;> simp_all [Call.failure]

theorem Idle.not_refused (h : Idle db c out) : ¬ Refusal db c e := by
  intro hr
  cases h with
  | existing now id hrows hstatus =>
    cases hr <;> simp_all [Call.locksOperation, Call.needsSendJob, Call.failure]
  | unclaimed now id hrows hstate =>
    cases hr <;> simp_all [Call.operationId, Call.needsSendJob, Call.failure]
  | answered now id p hrows hjob hp hstate =>
    cases hr <;> simp_all [Call.operationId, Call.failure]
  | failure hf hrows hjob hstate =>
    cases hr <;> simp_all [Call.failure]

theorem Idle.unique (h : Idle db c out) (h' : Idle db c out') : out' = out := by
  cases h <;> cases h' <;> simp_all [Call.failure]

/-- A reported failure can be refused for two reasons at once, any other call for one. -/
theorem Refusal.unique (h : Refusal db c e) (h' : Refusal db c e') (hc : c.failure = none) :
    e' = e := by
  cases h <;> cases h' <;>
    simp_all [Call.operationId, Call.locksOperation, Call.needsSendJob, Call.failure, Binds]

/-- **The changes are what the code does**: whenever one is possible, the call makes it. -/
theorem exec_of_change (h : Change db c (db.lookup c.operationId) out rows) :
    c.exec db = (.ok out, db.insert c.operationId rows) := by
  have heffect := exec_effect db c
  generalize c.exec db = result at heffect ⊢
  cases heffect with
  | refused hr => exact absurd hr h.not_refused
  | idle hi => exact absurd hi h.not_idle
  | changed h' =>
    obtain ⟨hout, hrows⟩ := h.unique h'
    rw [hout, hrows]

/-- So are the idle returns. -/
theorem exec_of_idle (h : Idle db c out) : c.exec db = (.ok out, db) := by
  have heffect := exec_effect db c
  generalize c.exec db = result at heffect ⊢
  cases heffect with
  | refused hr => exact absurd hr h.not_refused
  | idle h' => rw [h.unique h']
  | changed hc => exact absurd h hc.not_idle

/-- So are the refusals. -/
theorem exec_of_refusal (h : Refusal db c e) (hc : c.failure = none) :
    c.exec db = (.error e, db) := by
  have heffect := exec_effect db c
  generalize c.exec db = result at heffect ⊢
  cases heffect with
  | refused h' => rw [h.unique h' hc]
  | idle hi => exact absurd h hi.not_refused
  | changed hchange => exact absurd h hchange.not_refused

theorem next_of_change {o : Option Rows} (h : Change db c o out rows)
    (hrows : db.lookup c.operationId = o) : db.next c = db.insert c.operationId rows := by
  subst hrows
  unfold Db.next
  rw [exec_of_change h]

/-- A call changes nothing, or makes one change. -/
theorem next_cases (db : Db) (c : Call) : db.next c = db ∨
    ∃ out rows, (c.exec db).1 = .ok out ∧ Change db c (db.lookup c.operationId) out rows ∧
      db.next c = db.insert c.operationId rows := by
  have heffect := exec_effect db c
  unfold Db.next
  generalize c.exec db = result at heffect ⊢
  cases heffect with
  | refused | idle => exact .inl rfl
  | changed h => exact .inr ⟨_, _, rfl, h, rfl⟩

/-- A call that raises leaves every row as it was. -/
theorem exec_error (h : (c.exec db).1 = .error e) : (c.exec db).2 = db ∧ Refusal db c e := by
  have heffect := exec_effect db c
  generalize c.exec db = result at heffect h
  cases heffect with
  | refused hr => cases h; exact ⟨rfl, hr⟩
  | idle hi => cases h
  | changed hc => cases h

end Exclusive

/-! ## Receipts that go through -/

/-- A receipt that goes through makes one of the three changes of its row. -/
theorem change_of_receipt_ok {db : Db} {now : Timestamp} {receipt : ReceiptRequest}
    (hok : ((Call.processReceipt now receipt).exec db).1.isOk) :
    ∃ rows rows', db.lookup receipt.operationId = some rows ∧
      Change db (.processReceipt now receipt) (some rows) .none rows' ∧
      (Call.processReceipt now receipt).exec db =
        (.ok .none, db.insert receipt.operationId rows') := by
  have heffect := exec_effect db (.processReceipt now receipt)
  generalize (Call.processReceipt now receipt).exec db = result at heffect hok ⊢
  cases heffect with
  | refused => cases hok
  | idle hi => cases hi with | failure hf => cases hf
  | @changed out rows' hc =>
    rw [show (Call.processReceipt now receipt).operationId = receipt.operationId from rfl] at hc ⊢
    cases hrows : db.lookup receipt.operationId with
    | none =>
      rw [hrows] at hc
      cases hc
    | some rows =>
      rw [hrows] at hc
      have hout : out = .none := by
        cases hc with
        | failed hf => cases hf
        | finalized | ignored | duplicate => rfl
      subst hout
      exact ⟨rows, rows', rfl, hc, rfl⟩

/-- The one way a receipt goes through on an operation that is being processed. -/
theorem binds_of_receipt_ok {db : Db} {now : Timestamp} {receipt : ReceiptRequest} {rows : Rows}
    (hrows : db.lookup receipt.operationId = some rows)
    (hstatus : rows.operation.status = .processing)
    (hok : ((Call.processReceipt now receipt).exec db).1.isOk) :
    Binds db receipt.operationId receipt.providerPaymentId rows ∧
      receipt.message.length ≤ 255 := by
  obtain ⟨rows₀, rows', hrows₀, hc, -⟩ := change_of_receipt_ok hok
  cases hrows.symm.trans hrows₀
  cases hc with
  | failed hf => cases hf
  | finalized _ _ _ hp hmessage => exact ⟨hp, hmessage⟩
  | ignored _ _ hs => exact absurd hstatus hs
  | duplicate _ _ hs =>
    exact absurd (hs.symm.trans hstatus) (ReceiptResult.status_ne_processing _)

/-- Such a receipt finalizes the operation. -/
theorem exec_receipt_processing {db : Db} {receipt : ReceiptRequest} {rows : Rows}
    (hrows : db.lookup receipt.operationId = some rows)
    (hstatus : rows.operation.status = .processing)
    (hp : Binds db receipt.operationId receipt.providerPaymentId rows)
    (hmessage : receipt.message.length ≤ 255) (now : Timestamp) :
    (Call.processReceipt now receipt).exec db =
      (.ok .none, db.insert receipt.operationId (rows.finalized now receipt)) := by
  refine exec_of_change ?_
  rw [show (Call.processReceipt now receipt).operationId = receipt.operationId from rfl, hrows]
  exact .finalized now receipt hstatus hp hmessage

end PaymentService
