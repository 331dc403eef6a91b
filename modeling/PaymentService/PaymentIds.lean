import PaymentService.Lifecycle

/-!
# Provider payment ids

* `Change.providerPaymentId`, `Change.id_source` — where the id of changed rows comes from: kept,
  or bound to what the call brings after the column accepted it.
* `payment_id_write_once` — a bound id stays, a call with another one is refused, and no two
  operations have the same.
* `EarlyReceipt` — a receipt for an operation that was never submitted.  The branch of
  `process_receipt` for finalized operations takes it, after the id was bound.
* `paid_iff_no_early_receipt` — a payment id means a delivered job exactly in the runs without one.
-/

namespace PaymentService

theorem paymentIdColumn_ok {db : Db} {id p : String} :
    paymentIdColumn db id p = .ok () ↔ p.length ≤ 128 ∧ ¬ TakenElsewhere db id p := by
  unfold paymentIdColumn varchar
  by_cases hlength : p.length ≤ 128
  · by_cases htaken : TakenElsewhere db id p <;> simp [hlength, htaken]
  · simp [hlength]

/-- The unique constraint fails for an id another operation has. -/
theorem taken_of_paymentIdColumn {db : Db} {id p : String} {constraint : Constraint}
    (h : paymentIdColumn db id p = .error (.integrity constraint)) : TakenElsewhere db id p := by
  unfold paymentIdColumn varchar at h
  by_cases hlength : p.length ≤ 128
  · by_contra hfree
    simp [hlength, hfree] at h
  · simp [hlength] at h

theorem Binds.eq {db : Db} {id p q : String} {rows : Rows} (h : Binds db id p rows)
    (hq : rows.operation.providerPaymentId = some q) : q = p := by
  rcases h with hp | ⟨hnone, -⟩
  · exact Option.some.inj (hq.symm.trans hp)
  · cases hnone.symm.trans hq

/-- The id was there before, or the column accepts it. -/
theorem Binds.kept_or_fresh {db : Db} {id p : String} {rows : Rows} (h : Binds db id p rows) :
    (∃ old ∈ some rows, old.operation.providerPaymentId = some p) ∨
      (p.length ≤ 128 ∧ ¬ TakenElsewhere db id p) := by
  rcases h with hp | ⟨-, hcolumn⟩
  · exact .inl ⟨rows, rfl, hp⟩
  · exact .inr (paymentIdColumn_ok.mp hcolumn)

/-- A short payment id that conflicts with nothing can be bound. -/
theorem binds_of_no_conflict {db : Db} {id p : String} {rows : Rows}
    (hnone : ¬ ((∃ existing, rows.operation.providerPaymentId = some existing ∧ existing ≠ p) ∨
      TakenElsewhere db id p)) (hlength : p.length ≤ 128) : Binds db id p rows := by
  obtain ⟨hsame, hfree⟩ := not_or.mp hnone
  cases hid : rows.operation.providerPaymentId with
  | none => exact .inr ⟨hid, paymentIdColumn_ok.mpr ⟨hlength, hfree⟩⟩
  | some existing =>
    have hp : existing = p := by
      by_contra hne
      exact hsame ⟨existing, hid, hne⟩
    exact .inl (hp ▸ hid)

/-- **An id is kept, or newly bound**: then it fits the column and is nobody else's. -/
theorem Change.providerPaymentId {db : Db} {c : Call} {o : Option Rows} {rows : Rows}
    {out : Outcome} (h : Change db c o out rows) {p : String}
    (hp : rows.operation.providerPaymentId = some p) :
    (∃ old ∈ o, old.operation.providerPaymentId = some p) ∨
      (p.length ≤ 128 ∧ ¬ TakenElsewhere db c.operationId p) := by
  cases h with
  | created => cases hp
  | submitted | claimed | failed => exact .inl ⟨_, rfl, hp⟩
  | completed now id q hjob hstate hbinds =>
    cases hp
    exact hbinds.kept_or_fresh
  | finalized now receipt hstatus hbinds hmessage =>
    cases hp
    exact hbinds.kept_or_fresh
  | ignored now receipt hstatus hresult hbinds =>
    cases hp
    exact hbinds.kept_or_fresh
  | duplicate now receipt hresult hbinds =>
    cases hp
    exact hbinds.kept_or_fresh

/-- The payment id a call brings. -/
def Call.providerPaymentId : Call → Option String
  | .completeJob _ _ p => some p
  | .processReceipt _ receipt => some receipt.providerPaymentId
  | .create _ _ | .submit _ _ | .claimSendJob _ _ | .moveToRetry _ _ _ _
  | .recordRetryFailure _ _ _ _ => none

/-- An id in the rows was there before, or is the one the call brings. -/
theorem Change.id_source {db : Db} {c : Call} {o : Option Rows} {rows : Rows} {out : Outcome}
    (h : Change db c o out rows) {p : String} (hp : rows.operation.providerPaymentId = some p) :
    (∃ old ∈ o, old.operation.providerPaymentId = some p) ∨ c.providerPaymentId = some p := by
  cases h with
  | created => cases hp
  | submitted | claimed | failed => exact .inl ⟨_, rfl, hp⟩
  | completed | finalized | ignored | duplicate => exact .inr hp

/-! ## Write-once -/

theorem Change.keeps_id {db : Db} {c : Call} {old rows : Rows} {out : Outcome}
    (h : Change db c (some old) out rows) {p : String}
    (hp : old.operation.providerPaymentId = some p) :
    rows.operation.providerPaymentId = some p := by
  cases h with
  | submitted | claimed | failed => exact hp
  | completed now id q hjob hstate hbinds => exact congrArg some (hbinds.eq hp).symm
  | finalized now receipt hstatus hbinds hmessage => exact congrArg some (hbinds.eq hp).symm
  | ignored now receipt hstatus hresult hbinds => exact congrArg some (hbinds.eq hp).symm
  | duplicate now receipt hresult hbinds => exact congrArg some (hbinds.eq hp).symm

/-- An answer with another id raises and changes no row. -/
theorem completeJob_refuses {db : Db} {id p q : String} {rows : Rows}
    (hrows : db.lookup id = some rows) (hp : rows.operation.providerPaymentId = some p)
    (hne : q ≠ p) (now : Timestamp) :
    ∃ text, (Call.completeJob now id q).exec db = (.error (.valueError text), db) := by
  cases hjob : rows.sendJob with
  | none =>
    have hc : Refusal db (.completeJob now id q) _ := .noSendJob rfl hrows hjob
    exact ⟨_, exec_of_refusal hc rfl⟩
  | some job =>
    have hc : Refusal db (.completeJob now id q) _ :=
      .answerConflict now id q hrows hjob hp hne.symm
    exact ⟨_, exec_of_refusal hc rfl⟩

/-- An answer that finds the job DONE and its id recorded is taken, and changes nothing. -/
theorem completeJob_done {db : Db} {id p : String} {rows : Rows} {job : SendJob}
    (hrows : db.lookup id = some rows) (hp : rows.operation.providerPaymentId = some p)
    (hjob : rows.sendJob = some job) (hdone : job.state = .done) (now : Timestamp) :
    (Call.completeJob now id p).exec db = (.ok .none, db) := by
  have hsame : ∀ existing ∈ rows.operation.providerPaymentId, existing = p := by
    intro existing hexisting
    exact Option.some.inj (hexisting.symm.trans hp)
  have hstate : ¬ (job.state = .running ∨ job.state = .waitingRetry) := by
    rw [hdone]
    decide
  exact exec_of_idle (.answered now id p hrows hjob hsame hstate)

/-- A receipt with another id raises and changes no row. -/
theorem processReceipt_refuses {db : Db} {receipt : ReceiptRequest} {p : String} {rows : Rows}
    (hrows : db.lookup receipt.operationId = some rows)
    (hp : rows.operation.providerPaymentId = some p) (hne : receipt.providerPaymentId ≠ p)
    (now : Timestamp) :
    (Call.processReceipt now receipt).exec db = (.error (.providerPaymentConflict
      s!"Provider payment ID conflict: operation={receipt.operationId}, existing={p}, received={receipt.providerPaymentId}"), db) :=
  exec_of_refusal (.receiptConflict now receipt hrows hp hne.symm) rfl

/-! ## Uniqueness -/

/-- The unique constraint on `provider_payment_id`. -/
def UniqueIds (db : Db) : Prop :=
  ∀ id id' rows rows' p, db.lookup id = some rows → db.lookup id' = some rows' →
    rows.operation.providerPaymentId = some p → rows'.operation.providerPaymentId = some p →
    id = id'

/-- In the tables before a call nobody else has the id its operation gets. -/
theorem UniqueIds.free {db : Db} (h : UniqueIds db) {c : Call} {rows : Rows} {out : Outcome}
    (hc : Change db c (db.lookup c.operationId) out rows) {p : String}
    (hp : rows.operation.providerPaymentId = some p) :
    ¬ TakenElsewhere db c.operationId p := by
  rcases hc.providerPaymentId hp with ⟨old, hold, holdp⟩ | ⟨-, hfree⟩
  · rintro ⟨id', rows', hne, hrows', hp'⟩
    exact hne (h id' c.operationId rows' old p hrows' hold hp' holdp)
  · exact hfree

theorem uniqueIds_next {db : Db} (h : UniqueIds db) (c : Call) : UniqueIds (db.next c) := by
  intro id id' rows rows' p hrows hrows' hp hp'
  by_contra hne
  rcases lookup_next db c id with hsame | ⟨out, new, hid, hout, hc, hnew⟩
  · rcases lookup_next db c id' with hsame' | ⟨out', new', hid', hout', hc', hnew'⟩
    · exact hne (h id id' rows rows' p (hsame ▸ hrows) (hsame' ▸ hrows') hp hp')
    · subst hid'
      cases hnew'.symm.trans hrows'
      exact h.free hc' hp' ⟨id, rows, hne, hsame ▸ hrows, hp⟩
  · subst hid
    cases hnew.symm.trans hrows
    have hsame' := lookup_next_of_ne db hne
    exact h.free hc hp ⟨id', rows', Ne.symm hne, hsame' ▸ hrows', hp'⟩

theorem uniqueIds_after (calls : List Call) : UniqueIds (after calls) := by
  refine @Runs.run_invariant _ _ Db.next UniqueIds (fun db c h => uniqueIds_next h c) calls ∅ ?_
  intro id id' rows rows' p hrows
  rw [Finmap.lookup_empty] at hrows
  cases hrows

/-- **The payment id is write-once and unique.** -/
theorem payment_id_write_once (calls : List Call) :
    (∀ (id : String) (rows : Rows) (p : String), (after calls).lookup id = some rows →
      rows.operation.providerPaymentId = some p →
      (∀ later, ∃ rows', (after (calls ++ later)).lookup id = some rows' ∧
        rows'.operation.providerPaymentId = some p) ∧
      (∀ now q, q ≠ p → ∃ text, (Call.completeJob now id q).exec (after calls) =
        (.error (.valueError text), after calls)) ∧
      (∀ now (receipt : ReceiptRequest), receipt.operationId = id →
        receipt.providerPaymentId ≠ p → ∃ text, (Call.processReceipt now receipt).exec
          (after calls) = (.error (.providerPaymentConflict text), after calls))) ∧
    UniqueIds (after calls) := by
  refine ⟨?_, uniqueIds_after calls⟩
  intro id rows p hrows hp
  refine ⟨?_, ?_, ?_⟩
  · intro later
    rw [after_append]
    exact rows_preserved (fun hc h => hc.keeps_id h) hrows hp later
  · intro now q hne
    exact completeJob_refuses hrows hp hne now
  · intro now receipt hid hne
    subst hid
    exact ⟨_, processReceipt_refuses hrows hp hne now⟩

/-! ## Early receipts -/

/-- A receipt for an operation that was never submitted, with an id the operation can take. -/
def EarlyReceipt (db : Db) : Call → Prop
  | .processReceipt _ receipt => ∃ rows, db.lookup receipt.operationId = some rows ∧
      rows.operation.status = .created ∧
      Binds db receipt.operationId receipt.providerPaymentId rows
  | _ => False

/-- An early receipt is taken for a late one: it binds its id and records RECEIPT_IGNORED. -/
theorem EarlyReceipt.next {db : Db} {c : Call} (h : EarlyReceipt db c) :
    ∃ now receipt rows, c = .processReceipt now receipt ∧
      db.lookup receipt.operationId = some rows ∧ rows.operation.status = .created ∧
      (db.next c).lookup receipt.operationId = some (rows.ignored now receipt) := by
  cases c with
  | processReceipt now receipt =>
    obtain ⟨rows, hrows, hstatus, hp⟩ := h
    refine ⟨now, receipt, rows, rfl, hrows, hstatus, ?_⟩
    have hc : Change db (.processReceipt now receipt) (some rows) .none
        (rows.ignored now receipt) := by
      refine .ignored now receipt ?_ ?_ hp
      · rw [hstatus]
        exact OperationStatus.noConfusion
      · rw [hstatus]
        exact (ReceiptResult.status_ne_created receipt.result).symm
    rw [next_of_change hc hrows]
    exact Finmap.lookup_insert db
  | _ => exact h.elim

/-- **Invariant rule for runs without early receipts.** -/
theorem rows_of_no_early_receipt {P : Rows → Prop}
    (hcreated : ∀ now request, P (Rows.created now request))
    (hchange : ∀ {db : Db} {c : Call} {old rows : Rows} {out : Outcome},
      Change db c (some old) out rows → db.lookup c.operationId = some old →
      ¬ EarlyReceipt db c → P old → P rows)
    {calls : List Call} (h : ∀ p ∈ steps calls, ¬ EarlyReceipt p.1 p.2) :
    ∀ id rows, (after calls).lookup id = some rows → P rows := by
  refine @Runs.run_induction _ _ Db.next (fun db => ∀ id rows, db.lookup id = some rows → P rows)
    (fun db c => ¬ EarlyReceipt db c) ?_ calls ∅ ?_ h
  · intro db c hI hearly id rows hrows
    rcases lookup_next db c id with hsame | ⟨out, new, hid, hout, hc, hnew⟩
    · exact hI id rows (hsame ▸ hrows)
    · cases hnew.symm.trans hrows
      subst hid
      cases hold : db.lookup c.operationId with
      | none =>
        rw [hold] at hc
        cases hc with | created now request hamount => exact hcreated now request
      | some old =>
        rw [hold] at hc
        exact hchange hc hold hearly (hI _ old hold)
  · intro id rows hrows
    rw [Finmap.lookup_empty] at hrows
    cases hrows

/-- A payment id means a delivered job. -/
def Rows.Paid (rows : Rows) : Prop :=
  rows.operation.providerPaymentId.isSome ↔ ∃ job ∈ rows.sendJob, job.state = .done

theorem Rows.At.paid_iff {rows : Rows} {s : Stage} (h : rows.At s) :
    rows.Paid ↔ (rows.operation.providerPaymentId.isSome → rows.sendJob.map (·.state) = some .done) := by
  unfold Rows.Paid
  have hdone : (∃ job ∈ rows.sendJob, job.state = .done) ↔
      rows.sendJob.map (·.state) = some .done := by
    rw [Option.map_eq_some_iff]
    rfl
  rw [hdone]
  constructor
  · exact Iff.mp
  · intro himp
    exact ⟨himp, fun hjob => h.paid (h.job.symm.trans hjob)⟩

/-- A receipt finds a payment that is settled, being processed, or not submitted. -/
theorem Rows.At.jobState_of_late {rows : Rows} {s : Stage} (h : rows.At s)
    (hcreated : rows.operation.status ≠ .created)
    (hprocessing : rows.operation.status ≠ .processing) :
    rows.sendJob.map (·.state) = some .done := by
  rw [h.status] at hcreated hprocessing
  rw [h.job]
  cases s with
  | registered => exact absurd rfl hcreated
  | queued | sending | retrying | accepted => exact absurd rfl hprocessing
  | settled result => rfl

/-- **Every change but an early receipt keeps the id and the job together.** -/
theorem Change.paid {db : Db} {c : Call} {old rows : Rows} {out : Outcome}
    (h : Change db c (some old) out rows) (hold : db.lookup c.operationId = some old)
    (hearly : ¬ EarlyReceipt db c) {s : Stage} (hs : old.At s) (hpaid : old.Paid) :
    rows.Paid := by
  obtain ⟨s', hs', -⟩ := h.next hs
  rw [hs'.paid_iff]
  intro hid
  -- an id the change keeps belongs to a job that was DONE, which these changes exclude
  have hkept (hid : old.operation.providerPaymentId.isSome) {job : SendJob}
      (hjob : old.sendJob = some job) : job.state = .done := by
    have hdone := hs.paid_iff.mp hpaid hid
    rw [hjob] at hdone
    exact Option.some.inj hdone
  cases h with
  | submitted now id hstatus hnone =>
    have hdone := hs.paid_iff.mp hpaid hid
    rw [hnone] at hdone
    cases hdone
  | claimed now id hjob hstate => cases hstate.symm.trans (hkept hid hjob)
  | completed now id p hjob hstate hbinds => simp [Rows.completed, hjob]
  | failed hfailure hjob hstate hretry herror =>
    rw [hkept hid hjob] at hstate
    rcases Call.failure_expected hfailure with h | h <;> cases hstate.trans h
  | finalized now receipt hstatus hbinds hmessage =>
    obtain ⟨state, hstate⟩ := Stage.jobState_of_processing (hs.status.symm.trans hstatus)
    obtain ⟨job, hjob, -⟩ := Option.map_eq_some_iff.mp (hs.job.trans hstate)
    simp [Rows.finalized, hjob]
  | ignored now receipt hstatus hresult hbinds =>
    refine hs.jobState_of_late ?_ hstatus
    exact fun hcreated => hearly ⟨old, hold, hcreated, hbinds⟩
  | duplicate now receipt hresult hbinds =>
    refine hs.jobState_of_late ?_ ?_
    · rw [hresult]
      exact ReceiptResult.status_ne_created receipt.result
    · rw [hresult]
      exact ReceiptResult.status_ne_processing receipt.result

/-- In these tables a payment id means a delivered job. -/
def Db.Paid (db : Db) : Prop := ∀ id rows, db.lookup id = some rows → rows.Paid

theorem paid_after {calls : List Call} (h : ∀ p ∈ steps calls, ¬ EarlyReceipt p.1 p.2) :
    (after calls).Paid := by
  have hinv := @rows_of_no_early_receipt (fun rows => rows.Paid ∧ ∃ s, rows.At s) ?_ ?_ calls h
  · exact fun id rows hrows => (hinv id rows hrows).1
  · intro now request
    refine ⟨?_, .registered, created_at now request⟩
    rw [(created_at now request).paid_iff]
    exact fun hid => by cases hid
  · rintro db c old rows out hc hold hearly ⟨hpaid, s, hs⟩
    obtain ⟨s', hs', -⟩ := hc.next hs
    exact ⟨hc.paid hold hearly hs hpaid, s', hs'⟩

/-- **A payment id means a delivered job in every state of a run, exactly when no step of the
run takes an early receipt.** -/
theorem paid_iff_no_early_receipt (calls : List Call) :
    (∀ pre, pre <+: calls → (after pre).Paid) ↔ ∀ p ∈ steps calls, ¬ EarlyReceipt p.1 p.2 := by
  constructor
  · rintro hpaid ⟨db, c⟩ hp hearly
    obtain ⟨pre, post, rfl, rfl⟩ := mem_steps.mp hp
    obtain ⟨now, receipt, rows, rfl, hrows, hstatus, hnext⟩ := hearly.next
    have h := hpaid (pre ++ [.processReceipt now receipt]) ⟨post, by simp⟩
    rw [after_concat] at h
    obtain ⟨job, hjob, -⟩ := (h _ _ hnext).mp rfl
    obtain ⟨s, hs⟩ := stage_of_reachable pre _ rows hrows
    have hnone := hs.consistent.created_iff.mp hstatus
    rw [show (rows.ignored now receipt).sendJob = rows.sendJob from rfl, hnone] at hjob
    cases hjob
  · intro hearly pre hpre
    exact paid_after (fun p hp => hearly p (mem_steps_of_earlier hpre hp))

/-- A receipt before the submit binds its id; then the provider's answer is refused, and so is
the receipt of the provider's payment. -/
theorem early_receipt_binds_id :
    ¬ (after [.create 0 .sample, .processReceipt 1 ⟨"pay-0", "op-1", .completed, "", 1⟩]).Paid ∧
    ((Call.completeJob 4 "op-1" "pay-1").exec (after [.create 0 .sample,
      .processReceipt 1 ⟨"pay-0", "op-1", .completed, "", 1⟩, .submit 2 "op-1",
      .claimSendJob 3 "op-1"])).1 = .error (.valueError
        "Provider payment ID conflict: operation=op-1, existing=pay-0, received=pay-1") ∧
    ((Call.processReceipt 5 ⟨"pay-1", "op-1", .completed, "", 5⟩).exec (after [.create 0 .sample,
      .processReceipt 1 ⟨"pay-0", "op-1", .completed, "", 1⟩, .submit 2 "op-1",
      .claimSendJob 3 "op-1"])).1 = .error (.providerPaymentConflict
        "Provider payment ID conflict: operation=op-1, existing=pay-0, received=pay-1") := by
  refine ⟨?_, rfl, rfl⟩
  intro h
  obtain ⟨job, hjob, -⟩ := (h "op-1" _ rfl).mp rfl
  cases hjob

end PaymentService
