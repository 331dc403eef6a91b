import PaymentService.Finality
import PaymentService.PaymentIds
import PaymentService.Workers

/-!
# Agreement with a faithful provider

The service next to a provider that keeps one payment per `Idempotency-Key` and sends receipts
only for payments it holds.

* `Network`, `Network.step` — the service, the provider's payments and the receipts it has sent.
  Requests wait until the provider takes them, any number of times; answers may be lost; receipts
  arrive late, again, or in another order, or never.
* `Network.Agrees` — what holds in every state between rows, workers, answers, receipts and the
  provider's payments.
* `agrees_with_provider` — **recorded ids and final statuses are the provider's, it holds one
  payment per operation, and no call ends in a payment id conflict**.
-/

namespace PaymentService

variable {W : Type}

structure Network (W : Type) where
  world : World W
  payments : Ledger
  receipts : List ReceiptRequest

inductive NetworkAction (W : Type) where
  | service (action : Action W)
  /-- The provider takes a request. -/
  | pay (request : PaymentRequest) (providerPaymentId : String)
  /-- It sends a receipt. -/
  | notify (payment : Payment) (result : ReceiptResult) (message : String)
      (occurredAt : Timestamp)

/-- The errors a call can report a payment id conflict by; `complete_job` uses `ValueError`. -/
inductive Error.PaymentIdConflict : Error → Prop
  | valueError (message : String) : PaymentIdConflict (.valueError message)
  | providerPaymentConflict (message : String) :
      PaymentIdConflict (.providerPaymentConflict message)
  | notUnique : PaymentIdConflict (.database (.integrity .operationsProviderPaymentId))

namespace Network

/-- What can happen with a faithful provider: it takes requests that were sent, answers with the
payment of the key, and receipts that arrive were sent, for payments it holds. -/
def Allows (ν : Network W) : NetworkAction W → Prop
  | .service (.receive _ receipt) => receipt ∈ ν.receipts
  | .service (.work _ w (.respond http)) =>
    ∀ request ∈ (ν.world.workers w).request, ν.payments.Answers request http
  | .service _ => True
  | .pay request _ => request ∈ ν.world.requests
  | .notify payment _ _ _ => payment ∈ ν.payments

instance (ν : Network W) : (a : NetworkAction W) → Decidable (ν.Allows a)
  | .service (.receive _ _) => inferInstanceAs (Decidable (_ ∈ _))
  | .service (.work _ _ (.respond _)) => inferInstanceAs (Decidable (∀ request ∈ _, _))
  | .service (.work _ _ (.find _)) | .service (.work _ _ .start)
  | .service (.work _ _ (.writeBack _)) | .service (.work _ _ .crash)
  | .service (.create _ _) | .service (.submit _ _) => inferInstanceAs (Decidable True)
  | .pay _ _ => inferInstanceAs (Decidable (_ ∈ _))
  | .notify _ _ _ _ => inferInstanceAs (Decidable (_ ∈ _))

/-- What the service does in a step. -/
def action (ν : Network W) (a : NetworkAction W) : Option (Action W) :=
  match a with
  | .service action => if ν.Allows (.service action) then some action else none
  | .pay _ _ | .notify _ _ _ _ => none

/-- The transaction of a step. -/
def call (kind : W → WorkerKind) (ν : Network W) (a : NetworkAction W) : Option Call :=
  (ν.action a).bind (·.call kind ν.world)

theorem allows_of_action {ν : Network W} {a : NetworkAction W} {action : Action W}
    (h : ν.action a = some action) : ν.Allows (.service action) := by
  cases a with
  | service a =>
    obtain ⟨hallows, hsame⟩ := Option.ite_none_right_eq_some.mp h
    exact Option.some.inj hsame ▸ hallows
  | pay | notify => cases h

def start : Network W := ⟨World.start, [], []⟩

section Runs

variable [HttpClient] [DecidableEq W] (kind : W → WorkerKind)

def step (ν : Network W) (a : NetworkAction W) : Network W :=
  if ν.Allows a then
    match a with
    | .service action => { ν with world := ν.world.step kind action }
    | .pay request providerPaymentId =>
      { ν with payments := ν.payments.pay request providerPaymentId }
    | .notify payment result message occurredAt =>
      { ν with
        receipts := ⟨payment.providerPaymentId, payment.operationId, result, message,
          occurredAt⟩ :: ν.receipts }
  else ν

def after (actions : List (NetworkAction W)) : Network W := Runs.run (step kind) start actions

/-- The service runs as it does on its own. -/
theorem after_world (actions : List (NetworkAction W)) :
    (after kind actions).world = World.after kind (Runs.trace (step kind) action start actions) := by
  refine @Runs.proj_run _ _ (step kind) _ _ _ (World.step kind) (·.world) ?_ actions start
  intro ν a
  unfold step
  cases a with
  | service a =>
    dsimp only [action]
    split <;> rfl
  | pay | notify =>
    split <;> rfl

end Runs

/-! ## The invariant -/

/-- Rows, workers and receipts agree with what the provider holds. -/
structure Agrees (ν : Network W) : Prop where
  requests : ∀ request ∈ ν.world.requests, request.idempotencyKey = request.body.operationId
  payments : ν.payments.Valid
  receipts : ∀ receipt ∈ ν.receipts,
    ν.payments.Held receipt.operationId receipt.providerPaymentId
  answers : ∀ w id payment ids, ν.world.workers w = .answered id (.ok payment) ids →
    ν.payments.Held id payment.providerPaymentId
  claimed : ∀ w id, (ν.world.workers w).current = some id → Claimed ν.world.db id
  recorded : ∀ id rows p, ν.world.db.lookup id = some rows →
    rows.operation.providerPaymentId = some p → ν.payments.Held id p
  final : ∀ id result, ν.world.db.status id = some (ReceiptResult.status result) →
    ∃ receipt ∈ ν.receipts, receipt.operationId = id ∧ receipt.result = result

/-! ## Calls that agree with the provider -/

/-- What the provider has to say about a call before it commits. -/
def Backed (ν : Network W) : Call → Prop
  | .create _ _ | .submit _ _ | .claimSendJob _ _ => True
  | .completeJob _ id p => ν.payments.Held id p ∧ Claimed ν.world.db id
  | .moveToRetry _ _ id _ | .recordRetryFailure _ _ id _ => Claimed ν.world.db id
  | .processReceipt _ receipt => receipt ∈ ν.receipts

variable {kind : W → WorkerKind} {ν : Network W}

theorem Agrees.backed [HttpClient] (h : ν.Agrees) {a : Action W} {c : Call}
    (hallows : ν.Allows (.service a)) (hc : a.call kind ν.world = some c) : ν.Backed c := by
  cases a with
  | create | submit =>
    cases hc
    trivial
  | receive now receipt =>
    cases hc
    exact hallows
  | work now w step =>
    have hmove := workerMove (kind w) now ν.world.db (ν.world.workers w) step
    rw [show (ν.world.workers w).call (kind w) now step = some c from hc] at hmove
    have hclaimed := h.claimed w
    have hanswers := h.answers w
    generalize ν.world.workers w = state at hmove hclaimed hanswers
    generalize WorkerState.next _ _ _ _ _ = state' at hmove
    cases hmove with
    | claim => trivial
    | complete => exact ⟨hanswers _ _ _ rfl, hclaimed _ rfl⟩
    | fail hid hfailure hexpected =>
      have hjob := hclaimed _ rfl
      subst hid
      cases c <;> cases hfailure <;> exact hjob

/-- A faithful answer carries the id of the operation's payment. -/
theorem Agrees.answer_held [HttpClient] (h : ν.Agrees) {now : Timestamp} {w : W} {http : HttpResult}
    (hallows : ν.Allows (.service (.work now w (.respond http)))) {id currency : String}
    {amount : Nat} {ids : List String}
    (hcalling : ν.world.workers w = .calling id amount currency ids) {payment : ProviderPayment}
    (hok : createPayment (paymentRequest id amount currency) http = .ok payment) :
    ν.payments.Held id payment.providerPaymentId := by
  obtain ⟨-, text, rfl⟩ := createPayment_ok hok
  have hrequest : paymentRequest id amount currency ∈ (ν.world.workers w).request := by
    rw [hcalling]
    rfl
  obtain ⟨held, hmem, hkey, hp⟩ := hallows _ hrequest rfl
  exact ⟨held, hmem, (h.payments.own held hmem).trans hkey, hp⟩

/-- A recorded id is the one the provider holds. -/
theorem Agrees.id_eq (h : ν.Agrees) {id existing p : String} {rows : Rows}
    (hrows : ν.world.db.lookup id = some rows)
    (hexisting : rows.operation.providerPaymentId = some existing)
    (hheld : ν.payments.Held id p) : existing = p := by
  have hrecorded := h.recorded id rows existing hrows hexisting
  exact h.payments.id_unique hrecorded hheld

/-- An id the provider holds for one operation is recorded for no other. -/
theorem Agrees.not_taken (h : ν.Agrees) {id p : String} (hheld : ν.payments.Held id p) :
    ¬ TakenElsewhere ν.world.db id p := by
  rintro ⟨id', rows, hne, hrows, hp⟩
  have hrecorded := h.recorded id' rows p hrows hp
  exact hne (h.payments.operation_unique hrecorded hheld)

/-- **A backed call ends in no payment id conflict.** -/
theorem Agrees.no_conflict (h : ν.Agrees) {c : Call} (hbacked : ν.Backed c) {e : Error}
    (he : (c.exec ν.world.db).1 = .error e) : ¬ e.PaymentIdConflict := by
  obtain ⟨-, hrefusal⟩ := exec_error he
  intro hconflict
  cases hrefusal with
  | alreadyExists | amount | submitNotFound | secondSendJob | notFound | errorText
  | receiptMessage => cases hconflict
  | @noSendJob c rows hneeds hrows hjob =>
    have hclaimed : Claimed ν.world.db c.operationId := by
      cases c <;> cases hneeds
      · exact hbacked.2
      · exact hbacked
      · exact hbacked
    obtain ⟨rows', job, hrows', hjob', -⟩ := hclaimed
    cases hrows'.symm.trans hrows
    cases hjob'.symm.trans hjob
  | answerConflict now id p hrows hjob hexisting hne =>
    exact hne (h.id_eq hrows hexisting hbacked.1)
  | answerColumn now id p hrows hjob hstate hunbound hcolumn =>
    cases hconflict
    exact h.not_taken hbacked.1 (taken_of_paymentIdColumn hcolumn)
  | retryPolicy hfailure hrows hjob hstate hretry =>
    rw [RetryPolicy.nextRetryAt_error (Nat.succ_pos _) hretry] at hconflict
    cases hconflict
  | receiptConflict now receipt hrows hexisting hne =>
    exact hne (h.id_eq hrows hexisting (h.receipts receipt hbacked))
  | receiptColumn now receipt hrows hunbound hcolumn =>
    cases hconflict
    exact h.not_taken (h.receipts receipt hbacked) (taken_of_paymentIdColumn hcolumn)

/-- A backed call records no id but the provider's. -/
theorem Agrees.recorded_next (h : ν.Agrees) {c : Call} (hbacked : ν.Backed c) {id p : String}
    {rows : Rows} (hrows : (ν.world.db.next c).lookup id = some rows)
    (hp : rows.operation.providerPaymentId = some p) : ν.payments.Held id p := by
  rcases lookup_next ν.world.db c id with hsame | ⟨out, rows', hid, -, hchange, hnew⟩
  · exact h.recorded id rows p (hsame ▸ hrows) hp
  · cases hnew.symm.trans hrows
    rcases hchange.id_source hp with ⟨old, hold, holdp⟩ | hbrings
    · exact h.recorded id old p hold holdp
    · subst hid
      cases c <;> cases hbrings
      · exact hbacked.1
      · exact h.receipts _ hbacked

/-- A backed call finalizes with a result the provider sent. -/
theorem Agrees.final_next (h : ν.Agrees) {c : Call} (hbacked : ν.Backed c) {id : String}
    {result : ReceiptResult} (hfinal : (ν.world.db.next c).status id = some result.status) :
    ∃ receipt ∈ ν.receipts, receipt.operationId = id ∧ receipt.result = result := by
  rcases status_next ν.world.db c id with hsame | ⟨status, hid, -, hnew, hmove⟩
  · exact h.final id result (hsame ▸ hfinal)
  · cases hnew.symm.trans hfinal
    generalize ν.world.db.status id = old at hmove
    generalize hstatus : result.status = status at hmove
    cases hmove with
    | create => exact absurd hstatus (ReceiptResult.status_ne_created result)
    | submit => exact absurd hstatus (ReceiptResult.status_ne_processing result)
    | receipt now receipt =>
      exact ⟨receipt, hbacked, hid, (ReceiptResult.status_injective hstatus).symm⟩

/-! ## Every step keeps it -/

theorem agrees_start : (start : Network W).Agrees where
  requests := fun request hmem => absurd hmem List.not_mem_nil
  payments := ⟨List.nodup_nil, List.nodup_nil, fun payment hmem => absurd hmem List.not_mem_nil⟩
  receipts := fun receipt hmem => absurd hmem List.not_mem_nil
  answers := fun w id payment ids hw => by cases hw
  claimed := fun w id hid => by cases hid
  recorded := by
    intro id rows p hrows hp
    rw [show (start : Network W).world.db = ∅ from rfl, Finmap.lookup_empty] at hrows
    cases hrows
  final := by
    intro id result hfinal
    unfold Db.status at hfinal
    rw [show (start : Network W).world.db = ∅ from rfl, Finmap.lookup_empty] at hfinal
    cases hfinal

theorem Agrees.pay (h : ν.Agrees) {request : PaymentRequest}
    (hkey : request.idempotencyKey = request.body.operationId) (p : String) :
    Agrees { ν with payments := ν.payments.pay request p } where
  requests := h.requests
  payments := h.payments.pay hkey p
  receipts := fun receipt hmem => (h.receipts receipt hmem).mono (ν.payments.pay_subset request p)
  answers := fun w id payment ids hw =>
    (h.answers w id payment ids hw).mono (ν.payments.pay_subset request p)
  claimed := h.claimed
  recorded := fun id rows q hrows hq =>
    (h.recorded id rows q hrows hq).mono (ν.payments.pay_subset request p)
  final := h.final

theorem Agrees.notify (h : ν.Agrees) {receipt : ReceiptRequest}
    (hheld : ν.payments.Held receipt.operationId receipt.providerPaymentId) :
    Agrees { ν with receipts := receipt :: ν.receipts } where
  requests := h.requests
  payments := h.payments
  receipts := List.forall_mem_cons.mpr ⟨hheld, h.receipts⟩
  answers := h.answers
  claimed := h.claimed
  recorded := h.recorded
  final := by
    intro id result hfinal
    obtain ⟨receipt', hmem, hreceipt⟩ := h.final id result hfinal
    exact ⟨receipt', List.mem_cons_of_mem _ hmem, hreceipt⟩

section Steps

variable [HttpClient] [DecidableEq W]

theorem Agrees.service (h : ν.Agrees) {a : Action W} (hallows : ν.Allows (.service a)) :
    Agrees { ν with world := ν.world.step kind a } where
  requests := by
    intro request hmem
    cases a with
    | create | submit | receive => exact h.requests request hmem
    | work now w step =>
      rcases List.mem_append.mp hmem with hold | hsent
      · exact h.requests request hold
      · obtain ⟨_, _, _, -, -, -, -, rfl⟩ :=
          WorkerState.sends_eq_some (Option.mem_toList.mp hsent)
        rfl
  payments := h.payments
  receipts := h.receipts
  answers := by
    intro w id payment ids hw
    rcases World.step_worker kind ν.world a w with hsame | ⟨now, step, rfl, hmove⟩
    · exact h.answers w id payment ids (hsame.symm.trans hw)
    · rw [hw] at hmove
      rcases hmove.answer with hold | ⟨amount, currency, http, hcalling, rfl, hok⟩
      · exact h.answers w id payment ids hold
      · exact h.answer_held hallows hcalling hok
  claimed := World.claimed_step kind h.claimed a
  recorded := by
    intro id rows p hrows hp
    rcases World.step_db kind ν.world a with hsame | ⟨c, hc, hnext⟩
    · exact h.recorded id rows p (hsame ▸ hrows) hp
    · exact h.recorded_next (h.backed hallows hc) (hnext ▸ hrows) hp
  final := by
    intro id result hfinal
    rcases World.step_db kind ν.world a with hsame | ⟨c, hc, hnext⟩
    · exact h.final id result (hsame ▸ hfinal)
    · exact h.final_next (h.backed hallows hc) (hnext ▸ hfinal)

theorem Agrees.step (h : ν.Agrees) (a : NetworkAction W) : (ν.step kind a).Agrees := by
  unfold Network.step
  split
  · rename_i hallows
    cases a with
    | service action => exact h.service hallows
    | pay request p => exact h.pay (h.requests request hallows) p
    | notify payment result message occurredAt =>
      exact h.notify ⟨payment, hallows, rfl, rfl⟩
  · exact h

theorem agrees_after (kind : W → WorkerKind) (actions : List (NetworkAction W)) :
    (after kind actions).Agrees :=
  Runs.run_invariant (fun _ a h => h.step a) actions agrees_start

/-- **Agreement with a faithful provider**, for any workers, any order of steps, lost answers,
late and repeated receipts, and crashes. -/
theorem agrees_with_provider (kind : W → WorkerKind) (actions : List (NetworkAction W)) :
    ((after kind actions).payments.map (·.operationId)).Nodup ∧
    (∀ id rows p, (after kind actions).world.db.lookup id = some rows →
      rows.operation.providerPaymentId = some p → (after kind actions).payments.Held id p) ∧
    (∀ id result, (after kind actions).world.db.status id = some (ReceiptResult.status result) →
      ∃ receipt ∈ (after kind actions).receipts, receipt.operationId = id ∧
        receipt.result = result ∧ (after kind actions).payments.Held id receipt.providerPaymentId) ∧
    ∀ a c e, (after kind actions).call kind a = some c →
      (c.exec (after kind actions).world.db).1 = .error e → ¬ e.PaymentIdConflict := by
  have h := agrees_after kind actions
  refine ⟨h.payments.operations_nodup, h.recorded, ?_, ?_⟩
  · intro id result hfinal
    obtain ⟨receipt, hmem, hid, hresult⟩ := h.final id result hfinal
    exact ⟨receipt, hmem, hid, hresult, hid ▸ h.receipts receipt hmem⟩
  · intro a c e hc he
    obtain ⟨action, haction, hcall⟩ := Option.bind_eq_some_iff.mp hc
    have hallows := allows_of_action haction
    exact h.no_conflict (h.backed hallows hcall) he

end Steps

/-- An answer lost after the provider took the request: the retry gets the same payment, and its
receipt finalizes the operation. -/
example :
    let ν := after id [
      .service (.create 0 .sample), .service (.submit 1 "op-1"),
      .service (.work 2 .pending (.find ["op-1"])), .service (.work 2 .pending .start),
      .service (.work 3 .running (.find ["op-1"])), .service (.work 3 .running .start),
      .pay (paymentRequest "op-1" 10050 "RUB") "pay-1",
      .service (.work 4 .running (.respond .httpError)),
      .service (.work 4 .running (.writeBack ⟨0, by decide, by decide⟩)),
      .service (.work 5 .retry (.find ["op-1"])), .service (.work 5 .retry .start),
      .service (.work 6 .retry (.respond (.response 202 "" (some ⟨"pay-1", "ACCEPTED"⟩)))),
      .service (.work 6 .retry (.writeBack ⟨0, by decide, by decide⟩)),
      .notify ⟨"op-1", "op-1", "pay-1"⟩ .completed "" 7,
      .service (.receive 8 ⟨"pay-1", "op-1", .completed, "", 7⟩)]
    ν.world.db.status "op-1" = some .completed ∧
      (ν.world.db.lookup "op-1").bind (·.operation.providerPaymentId) = some "pay-1" := by
  decide +kernel

end Network

end PaymentService
