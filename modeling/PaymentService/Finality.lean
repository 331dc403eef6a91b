import PaymentService.Lifecycle

/-!
# Only a receipt finalizes, and the first one wins

* `status_next` — the status moves CREATED → PROCESSING by `submit`, out of PROCESSING by
  `process_receipt`, and in no other way.
* `final_next` — the final result is a register: a step fills it with what an accepted receipt
  offers when it is empty, and leaves it alone otherwise.
* `first_receipt_finalizes` — over a whole run the final status is the result of the first
  accepted receipt, and no extension of the run changes it.
-/

namespace PaymentService

open Relation

def OperationStatus.final : OperationStatus → Option ReceiptResult
  | .completed => some .completed
  | .rejected => some .rejected
  | .created | .processing => none

@[simp] theorem ReceiptResult.final_status (result : ReceiptResult) :
    result.status.final = some result := by cases result <;> rfl

/-- How a call moves the status of its operation. -/
inductive StatusMove : Call → Option OperationStatus → OperationStatus → Prop
  | create (now : Timestamp) (request : CreateOperationRequest) :
      StatusMove (.create now request) none .created
  | submit (now : Timestamp) (id : String) : StatusMove (.submit now id) (some .created) .processing
  | receipt (now : Timestamp) (receipt : ReceiptRequest) :
      StatusMove (.processReceipt now receipt) (some .processing) receipt.result.status

/-- A receipt that finds the operation processing and whose transaction goes through: it passes
the payment id check and commits. -/
def acceptedReceipt (id : String) (db : Db) : Call → Option ReceiptResult
  | .processReceipt now receipt =>
    if receipt.operationId = id ∧ db.status id = some .processing ∧
        ((Call.processReceipt now receipt).exec db).1.isOk then
      some receipt.result
    else none
  | _ => none

theorem acceptedReceipt_eq_some {id : String} {db : Db} {c : Call} {result : ReceiptResult} :
    acceptedReceipt id db c = some result ↔
      ∃ now receipt, c = .processReceipt now receipt ∧ receipt.operationId = id ∧
        db.status id = some .processing ∧ (c.exec db).1.isOk ∧ receipt.result = result := by
  constructor
  · intro h
    cases c with
    | processReceipt now receipt =>
      obtain ⟨⟨hid, hstatus, hok⟩, hresult⟩ := Option.ite_none_right_eq_some.mp h
      exact ⟨now, receipt, rfl, hid, hstatus, hok, Option.some.inj hresult⟩
    | _ => cases h
  · rintro ⟨now, receipt, rfl, hid, hstatus, hok, rfl⟩
    exact if_pos ⟨hid, hstatus, hok⟩

/-- What a call makes of the status, from what it makes of the rows. -/
theorem Change.status {db : Db} {c : Call} {o : Option Rows} {out : Outcome} {rows : Rows}
    (h : Change db c o out rows) :
    o.map (·.operation.status) = some rows.operation.status ∨
    StatusMove c (o.map (·.operation.status)) rows.operation.status := by
  cases h with
  | created now request hamount => exact .inr (.create now request)
  | submitted now id hstatus hjob =>
    right
    rw [Option.map_some, hstatus]
    exact .submit now id
  | finalized now receipt hstatus hp hmessage =>
    right
    rw [Option.map_some, hstatus]
    exact .receipt now receipt
  | claimed | completed | failed | ignored | duplicate => exact .inl rfl

theorem status_next (db : Db) (c : Call) (id : String) :
    (db.next c).status id = db.status id ∨
    ∃ status, c.operationId = id ∧ (c.exec db).1.isOk ∧ (db.next c).status id = some status ∧
      StatusMove c (db.status id) status := by
  unfold Db.status
  rcases lookup_next db c id with hsame | ⟨out, rows, hid, hout, hc, hnew⟩
  · exact .inl (congrArg _ hsame)
  · rw [hnew, Option.map_some]
    rcases hc.status with hstatus | hmove
    · exact .inl hstatus.symm
    · refine .inr ⟨rows.operation.status, hid, ?_, rfl, hmove⟩
      rw [hout]
      rfl

/-- An accepted receipt finalizes the operation with its result. -/
theorem status_next_of_accepted {id : String} {db : Db} {c : Call} {result : ReceiptResult}
    (h : acceptedReceipt id db c = some result) : (db.next c).status id = some result.status := by
  obtain ⟨now, receipt, rfl, rfl, hstatus, hok, rfl⟩ := acceptedReceipt_eq_some.mp h
  obtain ⟨rows, hrows, hprocessing⟩ := Option.map_eq_some_iff.mp hstatus
  obtain ⟨hp, hmessage⟩ := binds_of_receipt_ok hrows hprocessing hok
  unfold Db.next Db.status
  rw [exec_receipt_processing hrows hprocessing hp hmessage, Finmap.lookup_insert]
  rfl

/-- The final result of an operation. -/
def Db.finalResult (db : Db) (id : String) : Option ReceiptResult :=
  (db.status id).bind OperationStatus.final

/-- The final result is a register that an accepted receipt fills once. -/
theorem final_next (id : String) (db : Db) (c : Call) :
    (db.next c).finalResult id = (db.finalResult id).or (acceptedReceipt id db c) := by
  unfold Db.finalResult
  cases haccepted : acceptedReceipt id db c with
  | some result =>
    obtain ⟨_, _, -, -, hprocessing, -, -⟩ := acceptedReceipt_eq_some.mp haccepted
    rw [status_next_of_accepted haccepted, hprocessing]
    exact ReceiptResult.final_status result
  | none =>
    rw [Option.or_none]
    rcases status_next db c id with hsame | ⟨status, hid, hok, hnew, hmove⟩
    · rw [hsame]
    · generalize hold : db.status id = old at hmove
      rw [hnew]
      cases hmove with
      | create | submit => rfl
      | receipt now receipt =>
        have hsome := acceptedReceipt_eq_some.mpr ⟨now, receipt, rfl, hid, hold, hok, rfl⟩
        cases haccepted.symm.trans hsome

theorem finalResult_after (calls : List Call) (id : String) :
    (after calls).finalResult id =
      (steps calls).findSome? (fun p => acceptedReceipt id p.1 p.2) := by
  have h := @Runs.run_latch _ _ Db.next (fun _ => True) (fun _ _ _ => trivial) _
    (fun db : Db => db.finalResult id) (acceptedReceipt id)
    (fun db c _ => final_next id db c) calls ∅ trivial
  exact h

/-- A final status is there to stay. -/
theorem final_status_stays (calls later : List Call) {id : String} {result : ReceiptResult}
    (h : (after calls).status id = some result.status) :
    (after (calls ++ later)).status id = some result.status := by
  obtain ⟨rows, hrows, hstatus⟩ := Option.map_eq_some_iff.mp h
  obtain ⟨s, hs⟩ := stage_of_reachable calls id rows hrows
  cases Stage.eq_settled (hs.status.symm.trans hstatus)
  obtain ⟨rows', s', hrows', hs', hnext⟩ := lifecycle_refined hrows hs later
  cases Stage.settled_of_reflTransGen hnext
  rw [after_append]
  unfold Db.status
  rw [hrows', Option.map_some, hs'.status]
  rfl

/-- **Only a receipt finalizes, and the first accepted one wins.** -/
theorem first_receipt_finalizes (calls : List Call) (id : String) :
    (∀ p ∈ steps calls, (p.1.next p.2).status id = p.1.status id ∨
      ∃ status, p.2.operationId = id ∧ (p.2.exec p.1).1.isOk ∧
        (p.1.next p.2).status id = some status ∧ StatusMove p.2 (p.1.status id) status) ∧
    ((after calls).status id).bind OperationStatus.final =
      (steps calls).findSome? (fun p => acceptedReceipt id p.1 p.2) ∧
    ∀ (later : List Call) (result : ReceiptResult),
      (after calls).status id = some result.status →
        (after (calls ++ later)).status id = some result.status := by
  refine ⟨?_, finalResult_after calls id, ?_⟩
  · intro p hp
    exact status_next p.1 p.2 id
  · intro later result h
    exact final_status_stays calls later h

end PaymentService
