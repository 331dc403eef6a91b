import PaymentService.PaymentIds
import PaymentService.Delivery

/-!
# The provider's answer and its callback, in either order

An accepted payment comes back twice: `complete_job` with the HTTP answer and `process_receipt`
with the callback.  Both complete the job; only `complete_job` clears `next_retry_at` and
`last_error`.

* `answer_then_receipt`, `receipt_then_answer` — the rows each order leaves.
* `answer_receipt_order` — the orders agree exactly on jobs with no failed attempt.
-/

namespace PaymentService

/-- The rows of an operation, `updated_at` of the job aside. -/
def Rows.timeless (rows : Rows) : Operation × Option SendJob × List Event :=
  (rows.operation, rows.sendJob.map ({ · with updatedAt := 0 }), rows.events)

/-- Both orders go through and leave the same rows. -/
structure OrderIndependent (db : Db) (answer receipt : Call) (id : String) : Prop where
  answer_first : (answer.exec db).1.isOk
  then_receipt : (receipt.exec (db.next answer)).1.isOk
  receipt_first : (receipt.exec db).1.isOk
  then_answer : (answer.exec (db.next receipt)).1.isOk
  same : (((db.next answer).next receipt).lookup id).map Rows.timeless =
    (((db.next receipt).next answer).lookup id).map Rows.timeless

section Orders

variable {db : Db} {id p : String} {rows : Rows} {job : SendJob} {receipt : ReceiptRequest}
  (hrows : db.lookup id = some rows) (hstatus : rows.operation.status = .processing)
  (hjob : rows.sendJob = some job) (hid : receipt.operationId = id)
  (hreceipt : receipt.providerPaymentId = p)
  (hp : Binds db id p rows) (hmessage : receipt.message.length ≤ 255)
  (answeredAt receivedAt : Timestamp)

include hrows hstatus hjob hid hreceipt hp hmessage

theorem answer_then_receipt (hstate : job.state = .running ∨ job.state = .waitingRetry) :
    ((Call.completeJob answeredAt id p).exec db).1 = .ok .none ∧
    ((Call.processReceipt receivedAt receipt).exec
      (db.next (.completeJob answeredAt id p))).1 = .ok .none ∧
    ((db.next (.completeJob answeredAt id p)).next (.processReceipt receivedAt receipt)).lookup id =
      some ((rows.completed answeredAt p).finalized receivedAt receipt) := by
  subst hid
  subst hreceipt
  have hanswer : (Call.completeJob answeredAt receipt.operationId receipt.providerPaymentId).exec
      db = (.ok .none, db.insert receipt.operationId
        (rows.completed answeredAt receipt.providerPaymentId)) := by
    refine exec_of_change ?_
    rw [show (Call.completeJob answeredAt receipt.operationId
      receipt.providerPaymentId).operationId = receipt.operationId from rfl, hrows]
    exact .completed answeredAt _ _ hjob hstate hp
  have hcompleted : (db.insert receipt.operationId
      (rows.completed answeredAt receipt.providerPaymentId)).lookup receipt.operationId =
        some (rows.completed answeredAt receipt.providerPaymentId) := Finmap.lookup_insert db
  have hcallback := exec_receipt_processing hcompleted hstatus (.inl rfl) hmessage receivedAt
  unfold Db.next
  rw [hanswer, hcallback]
  exact ⟨rfl, rfl, Finmap.lookup_insert _⟩

theorem receipt_then_answer :
    ((Call.processReceipt receivedAt receipt).exec db).1 = .ok .none ∧
    ((Call.completeJob answeredAt id p).exec
      (db.next (.processReceipt receivedAt receipt))).1 = .ok .none ∧
    ((db.next (.processReceipt receivedAt receipt)).next (.completeJob answeredAt id p)).lookup id =
      some (rows.finalized receivedAt receipt) := by
  subst hid
  subst hreceipt
  have hcallback := exec_receipt_processing hrows hstatus hp hmessage receivedAt
  have hfinal : (rows.finalized receivedAt receipt).sendJob = some (job.closed receivedAt) := by
    simp [Rows.finalized, hjob]
  have hanswer := completeJob_done (Finmap.lookup_insert (a := receipt.operationId) db) rfl hfinal
    (job.closed_state receivedAt) answeredAt
  unfold Db.next
  rw [hcallback]
  dsimp only
  rw [hanswer]
  exact ⟨rfl, rfl, Finmap.lookup_insert _⟩

end Orders

/-- The orders agree on everything but the data of failed attempts. -/
theorem timeless_eq_iff {rows : Rows} {job : SendJob} (hjob : rows.sendJob = some job)
    (hopen : job.state ≠ .done) (receipt : ReceiptRequest) (answeredAt receivedAt : Timestamp) :
    ((rows.completed answeredAt receipt.providerPaymentId).finalized receivedAt receipt).timeless =
      (rows.finalized receivedAt receipt).timeless ↔
    job.nextRetryAt = none ∧ job.lastError = none := by
  simp [Rows.timeless, Rows.completed, Rows.finalized, Rows.record, Rows.bind, Rows.updateJob,
    SendJob.closed, hjob, hopen.symm, eq_comm]

/-- **The order of answer and callback does not matter exactly for jobs that never failed**, given
an id and a message the columns take. -/
theorem answer_receipt_order (calls : List Call) (receipt : ReceiptRequest) {id p : String}
    {rows : Rows} {job : SendJob} (hrows : (after calls).lookup id = some rows)
    (hstatus : rows.operation.status = .processing) (hjob : rows.sendJob = some job)
    (hstate : job.state = .running ∨ job.state = .waitingRetry)
    (hp : ∀ q ∈ rows.operation.providerPaymentId, q = p)
    (hid : receipt.operationId = id) (hreceipt : receipt.providerPaymentId = p)
    (answeredAt receivedAt : Timestamp) :
    OrderIndependent (after calls) (.completeJob answeredAt id p)
      (.processReceipt receivedAt receipt) id ↔
    job.state = .running ∧
      (rows.operation.providerPaymentId = none →
        p.length ≤ 128 ∧ ¬ TakenElsewhere (after calls) id p) ∧
      receipt.message.length ≤ 255 := by
  subst hid
  subst hreceipt
  have hdata := retryData_after calls _ rows hrows job hjob
  have hopen : job.state ≠ .done := by
    rcases hstate with h | h <;> rw [h] <;> decide
  constructor
  · intro h
    obtain ⟨hbinds, hmessage⟩ := binds_of_receipt_ok hrows hstatus h.receipt_first
    obtain ⟨-, -, hanswer⟩ := answer_then_receipt hrows hstatus hjob rfl rfl hbinds hmessage
      answeredAt receivedAt hstate
    obtain ⟨-, -, hreceipt⟩ := receipt_then_answer hrows hstatus hjob rfl rfl hbinds hmessage
      answeredAt receivedAt
    have hsame := h.same
    rw [hanswer, hreceipt, Option.map_some, Option.map_some, Option.some_inj,
      timeless_eq_iff hjob hopen] at hsame
    refine ⟨?_, ?_, hmessage⟩
    · rcases hstate with hrunning | hwaiting
      · exact hrunning
      · -- a job that failed has a retry time, which only `complete_job` clears
        obtain ⟨-, hretry, -⟩ := hdata.waiting hwaiting
        rw [hsame.1] at hretry
        cases hretry
    · intro hnone
      rcases hbinds with hsome | ⟨-, hcolumn⟩
      · cases hnone.symm.trans hsome
      · exact paymentIdColumn_ok.mp hcolumn
  · rintro ⟨hrunning, hcolumn, hmessage⟩
    have hbinds : Binds (after calls) receipt.operationId receipt.providerPaymentId rows := by
      cases hold : rows.operation.providerPaymentId with
      | none => exact .inr ⟨hold, paymentIdColumn_ok.mpr (hcolumn hold)⟩
      | some q =>
        obtain rfl := hp q hold
        exact .inl hold
    obtain ⟨hanswer, hthen, hlookup⟩ := answer_then_receipt hrows hstatus hjob rfl rfl hbinds
      hmessage answeredAt receivedAt hstate
    obtain ⟨hreceipt, hthen', hlookup'⟩ := receipt_then_answer hrows hstatus hjob rfl rfl hbinds
      hmessage answeredAt receivedAt
    obtain ⟨-, hnext, herror⟩ := hdata.unattempted (.inr hrunning)
    refine ⟨by rw [hanswer]; rfl, by rw [hthen]; rfl, by rw [hreceipt]; rfl, by rw [hthen']; rfl, ?_⟩
    rw [hlookup, hlookup', Option.map_some, Option.map_some, Option.some_inj,
      timeless_eq_iff hjob hopen]
    exact ⟨hnext, herror⟩

theorem answer_receipt_order_running :
    OrderIndependent (after [.create 0 .sample, .submit 1 "op-1", .claimSendJob 2 "op-1"])
      (.completeJob 3 "op-1" "pay-1")
      (.processReceipt 4 ⟨"pay-1", "op-1", .completed, "done", 4⟩) "op-1" := by
  have hrows : (after [.create 0 .sample, .submit 1 "op-1", .claimSendJob 2 "op-1"]).lookup "op-1" =
      some (((Rows.created 0 .sample).submitted 1).claimed 2) := rfl
  refine (answer_receipt_order _ ⟨"pay-1", "op-1", .completed, "done", 4⟩ hrows rfl rfl (.inl rfl)
    ?_ rfl rfl 3 4).mpr ?_
  · intro q hq
    cases hq
  · exact ⟨rfl, fun _ => by decide, by decide⟩

/-- After one failed attempt the orders leave different retry data. -/
theorem answer_receipt_order_differs :
    ¬ OrderIndependent (after [.create 0 .sample, .submit 1 "op-1", .claimSendJob 2 "op-1",
        .moveToRetry 3 ⟨1 / 2, by norm_num, by norm_num⟩ "op-1" "timeout"])
      (.completeJob 4 "op-1" "pay-1")
      (.processReceipt 5 ⟨"pay-1", "op-1", .completed, "done", 5⟩) "op-1" := by
  intro h
  have hsame := h.same
  revert hsame
  decide +kernel

end PaymentService
