import PaymentService.Finality
import PaymentService.PaymentIds

/-!
# Redelivered receipts

The provider may deliver a receipt any number of times, with anything in between.

* `Redelivers` — the transaction of a receipt that goes through and leaves every row as it is.
* `redelivers_iff` — on a row with its payment id a receipt does so exactly when its result is the
  status: any other status gets a transition or one more RECEIPT_IGNORED event.
* `bound_of_receipt_ok` — after the first delivery the row has the payment id, for good.
* `Settles` — what the first delivery has to find; `Settles.status_after`: then the status is the
  receipt's result for good.
* `redelivery_iff` — **the receipts that can be repeated at any later time are those that
  finalized the operation or found it at their result**.
-/

namespace PaymentService

/-- The transaction succeeds and changes no row. -/
def Redelivers (db : Db) (now : Timestamp) (receipt : ReceiptRequest) : Prop :=
  ((Call.processReceipt now receipt).exec db).1.isOk ∧
    ((Call.processReceipt now receipt).exec db).2 = db

/-! ## One delivery -/

section

variable {db : Db} {now : Timestamp} {receipt : ReceiptRequest}

/-- Whatever it finds, the receipt leaves its payment id in the row. -/
theorem bound_of_receipt_ok (hok : ((Call.processReceipt now receipt).exec db).1.isOk)
    (later : List Call) :
    ∃ rows, (Runs.run Db.next db (.processReceipt now receipt :: later)).lookup
      receipt.operationId = some rows ∧
      rows.operation.providerPaymentId = some receipt.providerPaymentId := by
  obtain ⟨rows, rows', -, hc, hexec⟩ := change_of_receipt_ok hok
  have hbound : rows'.operation.providerPaymentId = some receipt.providerPaymentId := by
    cases hc with
    | failed hf => cases hf
    | finalized | ignored | duplicate => rfl
  have hrows' : (db.next (.processReceipt now receipt)).lookup receipt.operationId =
      some rows' := by
    unfold Db.next
    rw [hexec]
    exact Finmap.lookup_insert db
  exact rows_preserved (fun hchange hp => hchange.keeps_id hp) hrows' hbound later

theorem redelivers_iff {rows : Rows} (hrows : db.lookup receipt.operationId = some rows)
    (hbound : rows.operation.providerPaymentId = some receipt.providerPaymentId) :
    Redelivers db now receipt ↔ rows.operation.status = receipt.result.status := by
  constructor
  · rintro ⟨hok, hsame⟩
    obtain ⟨rows₀, rows', hrows₀, hc, hexec⟩ := change_of_receipt_ok hok
    cases hrows.symm.trans hrows₀
    have hrows' : rows' = rows := by
      have hlookup : ((Call.processReceipt now receipt).exec db).2.lookup receipt.operationId =
          some rows' := by
        rw [hexec]
        exact Finmap.lookup_insert db
      rw [hsame, hrows] at hlookup
      exact (Option.some.inj hlookup).symm
    cases hc with
    | failed hf => cases hf
    | finalized => exact congrArg (fun rows : Rows => rows.operation.status) hrows'.symm
    | ignored =>
      have hlength := congrArg (fun rows : Rows => rows.events.length) hrows'
      simp [Rows.ignored, Rows.record] at hlength
    | duplicate _ _ hresult => exact hresult
  · intro hresult
    have hc : Change db (.processReceipt now receipt)
        (db.lookup (Call.processReceipt now receipt).operationId) .none
        (rows.bind receipt.providerPaymentId) := by
      rw [show (Call.processReceipt now receipt).operationId = receipt.operationId from rfl, hrows]
      exact .duplicate now receipt hresult (.inl hbound)
    unfold Redelivers
    rw [exec_of_change hc, Rows.bind_self hbound]
    exact ⟨rfl, insert_lookup_self hrows⟩

end

/-! ## The status a redelivery finds -/

/-- The receipt finds the operation processing, and finalizes it, or already at its result. -/
def Settles (db : Db) (receipt : ReceiptRequest) : Prop :=
  db.status receipt.operationId = some .processing ∨
    db.status receipt.operationId = some receipt.result.status

section

variable {calls : List Call} {now : Timestamp} {receipt : ReceiptRequest}
  (hok : ((Call.processReceipt now receipt).exec (after calls)).1.isOk)

include hok

/-- Then the status is the receipt's result for good. -/
theorem Settles.status_after (h : Settles (after calls) receipt) (later : List Call) :
    (after (calls ++ .processReceipt now receipt :: later)).status receipt.operationId =
      some receipt.result.status := by
  rcases h with hprocessing | hresult
  · have haccepted : acceptedReceipt receipt.operationId (after calls)
        (.processReceipt now receipt) = some receipt.result :=
      acceptedReceipt_eq_some.mpr ⟨now, receipt, rfl, rfl, hprocessing, hok, rfl⟩
    have hnext := status_next_of_accepted haccepted
    rw [← after_concat] at hnext
    have hlater := final_status_stays _ later hnext
    rwa [List.append_assoc] at hlater
  · exact final_status_stays calls _ hresult

/-- A receipt recorded as ignored on a final status never has that status as its result. -/
theorem settles_of_status_after {later : List Call}
    (h : (after (calls ++ .processReceipt now receipt :: later)).status receipt.operationId =
      some receipt.result.status) :
    Settles (after calls) receipt ∨
      (after calls).status receipt.operationId = some .created := by
  obtain ⟨rows, -, hrows, -, -⟩ := change_of_receipt_ok hok
  have hfound : (after calls).status receipt.operationId = some rows.operation.status := by
    rw [Db.status, hrows, Option.map_some]
  have hfinal (result : ReceiptResult) (hstatus : rows.operation.status = result.status) :
      Settles (after calls) receipt := by
    rw [hstatus] at hfound
    have hstays := final_status_stays calls (.processReceipt now receipt :: later) hfound
    exact .inr (hfound.trans (hstays.symm.trans h))
  cases hstatus : rows.operation.status with
  | created => exact .inr (hstatus ▸ hfound)
  | processing => exact .inl (.inl (hstatus ▸ hfound))
  | completed => exact .inl (hfinal .completed hstatus)
  | rejected => exact .inl (hfinal .rejected hstatus)

/-! ## Main result -/

/-- **A receipt can be redelivered at any later time exactly when it finalized the operation or
found it at its result.**  A single redelivery also goes unnoticed when the first delivery came
before the submit and the operation has reached the receipt's result meanwhile. -/
theorem redelivery_iff :
    ((∀ later now',
        Redelivers (after (calls ++ .processReceipt now receipt :: later)) now' receipt) ↔
      Settles (after calls) receipt) ∧
    ∀ later now',
      (Redelivers (after (calls ++ .processReceipt now receipt :: later)) now' receipt ↔
        Settles (after calls) receipt ∨
        (after calls).status receipt.operationId = some .created ∧
          (after (calls ++ .processReceipt now receipt :: later)).status receipt.operationId =
            some receipt.result.status) := by
  have hone (later : List Call) (now' : Timestamp) :
      Redelivers (after (calls ++ .processReceipt now receipt :: later)) now' receipt ↔
        (after (calls ++ .processReceipt now receipt :: later)).status receipt.operationId =
          some receipt.result.status := by
    obtain ⟨rows, hrows, hbound⟩ := bound_of_receipt_ok hok later
    rw [← after_append] at hrows
    rw [redelivers_iff hrows hbound, Db.status, hrows, Option.map_some, Option.some.injEq]
  refine ⟨⟨fun h => ?_, fun h later now' => ?_⟩, fun later now' => ⟨fun h => ?_, fun h => ?_⟩⟩
  · -- an immediate redelivery finds the operation of an early receipt still CREATED
    have hnext := (hone [] now).mp (h [] now)
    rcases settles_of_status_after hok hnext with hsettles | hcreated
    · exact hsettles
    rw [after_concat] at hnext
    rcases status_next (after calls) (.processReceipt now receipt) receipt.operationId with
      hsame | ⟨status, -, -, -, hmove⟩
    · rw [hsame, hcreated, Option.some.injEq] at hnext
      exact absurd hnext.symm (ReceiptResult.status_ne_created _)
    · rw [hcreated] at hmove
      cases hmove
  · exact (hone later now').mpr (h.status_after hok later)
  · have hafter := (hone later now').mp h
    exact (settles_of_status_after hok hafter).imp_right (fun hcreated => ⟨hcreated, hafter⟩)
  · rcases h with hsettles | ⟨-, hafter⟩
    · exact (hone later now').mpr (hsettles.status_after hok later)
    · exact (hone later now').mpr hafter

end

/-- The receipt that finalized the operation is repeated. -/
theorem redelivery_finalizing :
    let calls := [Call.create 0 .sample, .submit 1 "op-1"]
    let receipt : ReceiptRequest := ⟨"pay-1", "op-1", .completed, "paid", 2⟩
    ((∀ later now',
        Redelivers (after (calls ++ .processReceipt 3 receipt :: later)) now' receipt) ↔
      Settles (after calls) receipt) ∧
    ∀ later now',
      (Redelivers (after (calls ++ .processReceipt 3 receipt :: later)) now' receipt ↔
        Settles (after calls) receipt ∨
        (after calls).status receipt.operationId = some .created ∧
          (after (calls ++ .processReceipt 3 receipt :: later)).status receipt.operationId =
            some receipt.result.status) :=
  @redelivery_iff [Call.create 0 .sample, .submit 1 "op-1"] 3
    ⟨"pay-1", "op-1", .completed, "paid", 2⟩ (by decide +kernel)

/-- A late receipt with the other result is recorded as ignored once for every delivery. -/
theorem ignored_receipt_recorded_again :
    let late : ReceiptRequest := ⟨"pay-1", "op-1", .rejected, "refused", 4⟩
    let db := after [.create 0 .sample, .submit 1 "op-1",
      .processReceipt 3 ⟨"pay-1", "op-1", .completed, "paid", 2⟩]
    ((Call.processReceipt 5 late).exec db).1.isOk ∧
      ¬ Redelivers (db.next (.processReceipt 5 late)) 6 late := by
  have hrows : ((after [.create 0 .sample, .submit 1 "op-1",
      .processReceipt 3 ⟨"pay-1", "op-1", .completed, "paid", 2⟩]).next
        (.processReceipt 5 ⟨"pay-1", "op-1", .rejected, "refused", 4⟩)).lookup "op-1" = some
      ((((Rows.created 0 .sample).submitted 1).finalized 3
        ⟨"pay-1", "op-1", .completed, "paid", 2⟩).ignored 5
          ⟨"pay-1", "op-1", .rejected, "refused", 4⟩) := by decide +kernel
  refine ⟨by decide +kernel, fun h => ?_⟩
  have hstatus := (@redelivers_iff _ 6 ⟨"pay-1", "op-1", .rejected, "refused", 4⟩ _ hrows rfl).mp h
  cases hstatus

end PaymentService
