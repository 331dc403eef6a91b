import PaymentService.Receipts
import PaymentService.Recovery
import PaymentService.Requests

/-!
# Receipts of a faithful provider

The provider of `Agreement.lean` sends receipts for payments it holds, and it holds payments it was
asked for.  So its receipts never meet an operation that is missing, not yet submitted, or bound to
another payment.

* `ForClaimed` — requests and payments are for operations whose job was claimed.
* `Change.late` — a receipt for a finished operation changes no status and no job.
* `faithful_receipt` — **a receipt is taken exactly when it fits its columns**, is never answered
  404 or 409, and once taken leaves the operation finished and its job DONE.
-/

namespace PaymentService

/-- A receipt for an operation that is not in processing. -/
theorem Change.late {db : Db} {now : Timestamp} {receipt : ReceiptRequest} {rows rows' : Rows}
    {out : Outcome} (h : Change db (.processReceipt now receipt) (some rows) out rows')
    (hstatus : rows.operation.status ≠ .processing) :
    rows'.operation.status = rows.operation.status ∧ rows'.sendJob = rows.sendJob ∧
      rows'.operation.providerPaymentId = some receipt.providerPaymentId := by
  cases h with
  | failed hf => cases hf
  | finalized _ _ hprocessing => exact absurd hprocessing hstatus
  | ignored | duplicate => exact ⟨rfl, rfl, rfl⟩

namespace Network

variable {W : Type}

/-- What the provider was asked for, and what it holds, is for claimed jobs. -/
structure ForClaimed (ν : Network W) : Prop where
  requests : ∀ request ∈ ν.world.requests, Claimed ν.world.db request.body.operationId
  payments : ∀ payment ∈ ν.payments, Claimed ν.world.db payment.operationId

section

variable [HttpClient] [DecidableEq W] {kind : W → WorkerKind} {ν : Network W}

theorem claimed_next (a : Action W) {id : String} (h : Claimed ν.world.db id) :
    Claimed (ν.world.step kind a).db id := by
  rcases World.step_db kind ν.world a with hsame | ⟨c, -, hnext⟩
  · exact hsame ▸ h
  · exact hnext ▸ h.next c

theorem ForClaimed.step (h : ν.ForClaimed) (a : NetworkAction W) :
    (ν.step kind a).ForClaimed := by
  unfold Network.step
  split
  · rename_i hallows
    cases a with
    | service a =>
      refine ⟨fun request hmem => ?_, fun payment hmem => claimed_next a (h.payments payment hmem)⟩
      rcases World.step_requests ν.world a with hsame | ⟨now, w, sent, rfl, -, hsent, op, hcheck, -⟩
      · exact claimed_next a (h.requests request (hsame ▸ hmem))
      · rw [hsent, List.mem_append, List.mem_singleton] at hmem
        rcases hmem with hmem | rfl
        · exact claimed_next _ (h.requests request hmem)
        · exact claimed_next _ (claimed_of_check hcheck)
    | pay request p =>
      refine ⟨h.requests, fun payment hmem => ?_⟩
      dsimp only [Ledger.pay] at hmem
      split at hmem
      · exact h.payments payment hmem
      · rcases List.mem_cons.mp hmem with rfl | hmem
        · exact h.requests request hallows
        · exact h.payments payment hmem
    | notify payment result message occurredAt => exact ⟨h.requests, h.payments⟩
  · exact h

theorem forClaimed_after (kind : W → WorkerKind) (actions : List (NetworkAction W)) :
    (after kind actions).ForClaimed := by
  refine @Runs.run_invariant _ _ (step kind) ForClaimed (fun _ a h => h.step a) actions start ⟨?_, ?_⟩
  · intro request hmem
    cases hmem
  · intro payment hmem
    cases hmem

/-- A receipt that was sent is for an operation whose job was claimed. -/
theorem claimed_of_receipt (actions : List (NetworkAction W)) {receipt : ReceiptRequest}
    (hsent : receipt ∈ (after kind actions).receipts) :
    Claimed (after kind actions).world.db receipt.operationId := by
  obtain ⟨payment, hmem, hid, -⟩ := (agrees_after kind actions).receipts receipt hsent
  exact hid ▸ (forClaimed_after kind actions).payments payment hmem

/-- The receipt fits the columns it is written to. -/
def Fits (receipt : ReceiptRequest) (operation : Operation) : Prop :=
  (operation.providerPaymentId = some receipt.providerPaymentId ∨
    receipt.providerPaymentId.length ≤ 128) ∧
  (operation.status = .processing → receipt.message.length ≤ 255)

omit [HttpClient] [DecidableEq W] in
theorem Agrees.takes_iff (h : ν.Agrees) {receipt : ReceiptRequest} {rows : Rows}
    (hsent : receipt ∈ ν.receipts) (hrows : ν.world.db.lookup receipt.operationId = some rows) :
    Takes ν.world.db receipt rows ↔ Fits receipt rows.operation := by
  refine and_congr_left fun _ => ⟨?_, ?_⟩
  · rintro (hbound | ⟨-, hcolumn⟩)
    · exact .inl hbound
    · exact .inr (paymentIdColumn_ok.mp hcolumn).1
  · rintro (hbound | hlength)
    · exact .inl hbound
    · exact h.binds hrows (h.receipts receipt hsent) hlength

/-- The operation of the receipt is finished: by a receipt the provider has sent, under the
receipt's payment id, with the job DONE. -/
def FinishedBy (ν : Network W) (receipt : ReceiptRequest) (db : Db) : Prop :=
  ∃ rows job sent, db.lookup receipt.operationId = some rows ∧ rows.sendJob = some job ∧
    job.state = .done ∧ rows.operation.providerPaymentId = some receipt.providerPaymentId ∧
    sent ∈ ν.receipts ∧ sent.operationId = receipt.operationId ∧
    rows.operation.status = sent.result.status

/-- **A faithful provider's receipt is taken exactly when it fits**, is never answered 404 or 409,
and leaves the operation finished by a receipt the provider sent. -/
theorem faithful_receipt (kind : W → WorkerKind) (actions : List (NetworkAction W))
    {receipt : ReceiptRequest} (hsent : receipt ∈ (after kind actions).receipts)
    (now : Timestamp) :
    let ν := after kind actions
    let result := receiveReceipt now receipt ν.world.db
    ∃ rows, ν.world.db.lookup receipt.operationId = some rows ∧
      rows.operation.status ≠ .created ∧
      ((∃ response, result.1 = .ok response) ↔ Fits receipt rows.operation) ∧
      (∀ response, result.1 = .ok response → response = ⟨204, none⟩ ∧
        ν.FinishedBy receipt result.2) ∧
      ((∀ response, result.1 ≠ .ok response) → result.2 = ν.world.db) := by
  intro ν result
  have hagrees := agrees_after kind actions
  obtain ⟨rows, job, hrows, hjob, hclaimed⟩ := claimed_of_receipt actions hsent
  have hreached := after_world kind actions
  obtain ⟨calls, hcalls⟩ : ∃ calls, ν.world.db = PaymentService.after calls :=
    ⟨_, (congrArg World.db hreached).trans (World.after_callsOf kind _)⟩
  obtain ⟨stage, hstage⟩ := stage_of_reachable calls _ rows (hcalls ▸ hrows)
  have hconsistent := hstage.consistent
  have hcreated : rows.operation.status ≠ .created := by
    intro hstatus
    cases hjob.symm.trans (hconsistent.created_iff.mp hstatus)
  have htakes := hagrees.takes_iff hsent hrows
  have hspec := receiveReceipt_spec ν.world.db now receipt
  refine ⟨rows, hrows, hcreated, ?_⟩
  generalize hresult : result = outcome
  rw [show receiveReceipt now receipt ν.world.db = outcome from hresult] at hspec
  cases hspec with
  | missing detail hnone => cases hnone.symm.trans hrows
  | conflict detail hrows' hexisting hne =>
    exact absurd (hagrees.id_eq hrows' hexisting (hagrees.receipts receipt hsent)) hne
  | refused e hrows' hsame hfull =>
    cases hrows.symm.trans hrows'
    refine ⟨⟨fun ⟨_, h⟩ => (by cases h), fun h => absurd (htakes.mpr h) hfull⟩, ?_, fun _ => rfl⟩
    intro response h
    cases h
  | @taken _ rows' hrows' htaken hc =>
    cases hrows.symm.trans hrows'
    refine ⟨⟨fun _ => htakes.mp htaken, fun _ => ⟨_, rfl⟩⟩, ?_, fun h => absurd rfl (h _)⟩
    intro response hresponse
    cases hresponse
    refine ⟨rfl, rows', ?_⟩
    have hlookup : (ν.world.db.insert receipt.operationId rows').lookup receipt.operationId =
        some rows' := Finmap.lookup_insert _
    by_cases hstatus : rows.operation.status = .processing
    · obtain ⟨job', event, hsettled, hid, hjob', hdone, -⟩ := hc.settles hstatus hjob
      exact ⟨job', receipt, hlookup, hjob', hdone, hid, hsent, rfl, hsettled⟩
    · obtain ⟨hsame, hsameJob, hid⟩ := hc.late hstatus
      have hfinal : ∃ r : ReceiptResult, rows.operation.status = r.status := by
        cases hs : rows.operation.status with
        | created => exact absurd hs hcreated
        | processing => exact absurd hs hstatus
        | completed => exact ⟨.completed, rfl⟩
        | rejected => exact ⟨.rejected, rfl⟩
      obtain ⟨r, hr⟩ := hfinal
      have hdone : job.state = .done := by
        obtain ⟨⟨job', hjob', hdone⟩, -⟩ := hconsistent.final (by
          rw [hr]
          cases r
          · exact .inl rfl
          · exact .inr rfl)
        cases hjob.symm.trans hjob'
        exact hdone
      obtain ⟨sent, hmem, hsentId, hsentResult⟩ := hagrees.final receipt.operationId r (by
        rw [Db.status, hrows, Option.map_some, hr])
      refine ⟨job, sent, hlookup, hsameJob.trans hjob, hdone, hid, hmem, hsentId, ?_⟩
      rw [hsame, hr, hsentResult]

end

/-- The receipt of the payment the running worker asked for. -/
theorem faithful_receipt_completed :
    let actions : List (NetworkAction WorkerKind) := [
      .service (.create 0 .sample), .service (.submit 1 "op-1"),
      .service (.work 2 .pending (.find ["op-1"])), .service (.work 2 .pending .start),
      .service (.work 3 .running (.find ["op-1"])), .service (.work 3 .running .start),
      .pay (paymentRequest "op-1" 10050 "RUB") "pay-1",
      .notify ⟨"op-1", "op-1", "pay-1"⟩ .completed "" 4]
    let receipt : ReceiptRequest := ⟨"pay-1", "op-1", .completed, "", 4⟩
    receipt ∈ (after id actions).receipts ∧
      (receiveReceipt 5 receipt (after id actions).world.db).1 = .ok ⟨204, none⟩ ∧
      (after id actions).FinishedBy receipt
        (receiveReceipt 5 receipt (after id actions).world.db).2 := by
  intro actions receipt
  have hsent : receipt ∈ (after id actions).receipts := by decide +kernel
  have hanswer : (receiveReceipt 5 receipt (after id actions).world.db).1 = .ok ⟨204, none⟩ := by
    decide +kernel
  obtain ⟨rows, -, -, -, hfinished, -⟩ := faithful_receipt id actions hsent 5
  exact ⟨hsent, hanswer, (hfinished _ hanswer).2⟩

end Network

end PaymentService
