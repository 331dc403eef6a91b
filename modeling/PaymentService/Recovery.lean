import PaymentService.Agreement
import PaymentService.Answers
import PaymentService.Attempts

/-!
# No operation is stranded

A crash takes what the workers hold, at any point between two transactions; what a restarted
worker can still do is decided by the tables and the provider's payments alone.

* `WorkerKind.source`, `WorkerKind.moved` — the state a worker takes a job in, and the one an
  accepting provider leaves it in.
* `RetryData.selects` — a job that is not DONE is found by a worker from some time on.
* `run_processJob` — a worker's steps in the network, the provider taking the request in between.
* `Agrees.delivers` — the payment of an operation can be recorded on it whenever its job was
  claimed; nothing another worker or a receipt did before makes `complete_job` refuse it.
* `Sendable` — the provider only has payments for ids that can be headers.
* `no_operation_stranded` — **every operation in processing whose id can be a header is delivered,
  or will be selected by exactly one worker and delivered in at most two steps**; one whose id
  cannot be is stranded.
-/

namespace PaymentService

/-! ## The three queries -/

namespace WorkerKind

/-- The state a worker takes jobs in. -/
def source : WorkerKind → SendJobState
  | .pending => .pending
  | .running => .running
  | .retry => .waitingRetry

/-- The state it moves them to when the provider accepts. -/
def moved : WorkerKind → SendJobState
  | .pending => .running
  | .running | .retry => .done

theorem source_injective : Function.Injective source := by
  intro kind kind' h
  cases kind <;> cases kind' <;> first | rfl | cases h

/-- The three queries are over different states. -/
theorem source_of_selects {kind : WorkerKind} {now : Timestamp} {job : SendJob}
    (h : kind.selects now job = true) : job.state = kind.source := by
  cases kind with
  | pending | running => exact of_decide_eq_true h
  | retry => exact (of_decide_eq_true h).1

/-- Only the pending worker does not check the state it selected. -/
theorem expected_of_ne {kind : WorkerKind} (h : kind ≠ .pending) :
    kind.expected = some kind.source := by
  cases kind with
  | pending => exact absurd rfl h
  | running | retry => rfl

end WorkerKind

/-- A job that is not DONE is selected from some time on. -/
theorem SendJob.RetryData.selects {job : SendJob} (h : job.RetryData) (hopen : job.state ≠ .done) :
    ∃ (kind : WorkerKind) (start : Timestamp), ∀ now, start ≤ now →
      kind.selects now job = true := by
  cases hstate : job.state with
  | pending => exact ⟨.pending, 0, fun _ _ => decide_eq_true hstate⟩
  | running => exact ⟨.running, 0, fun _ _ => decide_eq_true hstate⟩
  | waitingRetry =>
    obtain ⟨-, hretry, -⟩ := h.waiting hstate
    obtain ⟨t, ht⟩ := Option.isSome_iff_exists.mp hretry
    refine ⟨.retry, t, fun now hnow => decide_eq_true ⟨hstate, ?_⟩⟩
    rw [ht]
    exact decide_eq_true hnow
  | done => exact absurd hstate hopen

/-- **From some time on, exactly one query selects it.** -/
theorem selected_by_one {db : Db} {id : String} {job : SendJob} (hjob : db.job id = some job)
    (hdata : job.RetryData) (hopen : job.state ≠ .done) :
    ∃ start, ∀ now, start ≤ now → ∃! kind : WorkerKind, id ∈ kind.selected now db := by
  obtain ⟨kind, start, hselects⟩ := hdata.selects hopen
  refine ⟨start, fun now hnow => ⟨kind, ?_, ?_⟩⟩
  · exact WorkerKind.mem_selected.mpr ⟨job, hjob, hselects now hnow⟩
  · intro kind' hmem
    obtain ⟨job', hjob', hselects'⟩ := WorkerKind.mem_selected.mp hmem
    cases hjob.symm.trans hjob'
    have hsource := WorkerKind.source_of_selects (hselects now hnow)
    have hsource' := WorkerKind.source_of_selects hselects'
    exact WorkerKind.source_injective (hsource'.symm.trans hsource)

/-! ## Accepted payments -/

/-- The provider takes the request, and accepts: a 202 with the payment it holds for the key, or
opens now, under an id of at most 128 characters. -/
def Ledger.Accepts (payments : Ledger) (request : PaymentRequest) (http : HttpResult) : Prop :=
  ∃ providerPaymentId text answer, http = .response 202 text (some answer) ∧
    answer.providerPaymentId.length ≤ 128 ∧
    (payments.pay request providerPaymentId).Answers request http

/-- The payment is in the provider's table and in ours. -/
def Delivered (db : Db) (id : String) : Prop :=
  ∃ rows job, db.lookup id = some rows ∧ rows.sendJob = some job ∧ job.state = .done ∧
    rows.operation.providerPaymentId.isSome

theorem Delivered.job {db : Db} {id : String} (h : Delivered db id) :
    ∃ job, db.job id = some job ∧ job.state = .done := by
  obtain ⟨rows, job, hrows, hjob, hdone, -⟩ := h
  exact ⟨job, Db.job_eq_some.mpr ⟨rows, hrows, hjob⟩, hdone⟩

namespace Network

variable {W : Type} {ν : Network W}

/-- A call the provider backs leaves the network in agreement, whoever makes it. -/
theorem Agrees.next (h : ν.Agrees) {c : Call} (hbacked : ν.Backed c) :
    Agrees { ν with world := { ν.world with db := ν.world.db.next c } } where
  requests := h.requests
  payments := h.payments
  receipts := h.receipts
  answers := h.answers
  claimed := fun w id hid => (h.claimed w id hid).next c
  recorded := fun _ _ _ hrows hp => h.recorded_next hbacked hrows hp
  final := fun _ _ hfinal => h.final_next hbacked hfinal

/-- The payment the provider holds for an operation can be recorded on its row. -/
theorem Agrees.binds (h : ν.Agrees) {id p : String} {rows : Rows}
    (hrows : ν.world.db.lookup id = some rows) (hheld : ν.payments.Held id p)
    (hlength : p.length ≤ 128) : Binds ν.world.db id p rows := by
  refine binds_of_no_conflict (not_or.mpr ⟨?_, h.not_taken hheld⟩) hlength
  rintro ⟨existing, hexisting, hne⟩
  exact hne (h.id_eq hrows hexisting hheld)

/-- **`complete_job` delivers a claimed job**, also when another worker or a receipt was first. -/
theorem Agrees.delivers (h : ν.Agrees) {calls : List Call}
    (hreached : ν.world.db = PaymentService.after calls) {id p : String}
    (hclaimed : Claimed ν.world.db id) (hheld : ν.payments.Held id p) (hlength : p.length ≤ 128)
    (now : Timestamp) : Delivered (ν.world.db.next (.completeJob now id p)) id := by
  obtain ⟨rows, job, hrows, hjob, hstate⟩ := hclaimed
  have hbinds := h.binds hrows hheld hlength
  rw [hreached] at hrows hbinds ⊢
  obtain ⟨-, rows', hrows', hstored⟩ := completeJob_binds hrows hjob hstate hbinds now
  obtain ⟨job', hjob', hdone⟩ := hstored.done
  exact ⟨rows', job', hrows', hjob', hdone, by rw [hstored.providerPaymentId]; rfl⟩

section

variable [HttpClient]

/-- A worker that calls the provider delivers what it selected. -/
theorem Agrees.processJob_delivers (h : ν.Agrees) {calls : List Call}
    (hreached : ν.world.db = PaymentService.after calls) {kind : WorkerKind} {id : String}
    {rows : Rows} {job : SendJob} {http : HttpResult} (hheader : HeaderValue id)
    (hrows : ν.world.db.lookup id = some rows) (hjob : rows.sendJob = some job)
    (hstate : some job.state = kind.expected)
    (haccepts : ν.payments.Accepts
      (paymentRequest id rows.operation.amount rows.operation.currency) http)
    (now : Timestamp) (draw : Draw) :
    Delivered (kind.processJob ν.world.db id http now draw) id := by
  obtain ⟨p, text, answer, rfl, hlength, hanswers⟩ := haccepts
  have hcheck := WorkerKind.check_eq_some.mpr ⟨rows, job, hrows, hjob, hstate, rfl⟩
  have hpay : createPayment (paymentRequest id rows.operation.amount rows.operation.currency)
      (.response 202 text (some answer)) = .ok answer :=
    createPayment_sent (headerError_eq_none.mpr hheader) text answer
  have hnext := kind.processJob_ok hrows hjob hstate hpay now draw
  rw [hnext]
  -- the provider has the payment before it answers
  have hpaid := @h.pay _ _ (paymentRequest id rows.operation.amount rows.operation.currency) rfl p
  obtain ⟨payment, hmem, hkey, hp⟩ := hanswers rfl
  have hheld := hpaid.payments.own payment hmem
  exact hpaid.delivers hreached (claimed_of_check hcheck) ⟨payment, hmem, hheld.trans hkey, hp⟩
    hlength now

/-! ## What is left to do -/

/-- What is left to do for an operation whose job is not DONE. -/
structure Recoverable (ν : Network W) (id : String) (rows : Rows) (job : SendJob) : Prop where
  selected : ∃ start, ∀ now, start ≤ now →
    ∃! kind : WorkerKind, id ∈ kind.selected now ν.world.db
  moved : ∀ (kind : WorkerKind) now, id ∈ kind.selected now ν.world.db →
    job.state = kind.source ∧ ∀ http draw,
      ν.payments.Accepts (paymentRequest id rows.operation.amount rows.operation.currency) http →
      ∃ job', (kind.processJob ν.world.db id http now draw).job id = some job' ∧
        job'.state = kind.moved
  /-- By this step, or after a claim by one of the running worker. -/
  delivered : ∀ (kind : WorkerKind) now, id ∈ kind.selected now ν.world.db → ∀ http draw,
    ν.payments.Accepts (paymentRequest id rows.operation.amount rows.operation.currency) http →
    let db := kind.processJob ν.world.db id http now draw
    Delivered db id ∨ ∀ later, id ∈ WorkerKind.running.selected later db ∧ ∀ http' draw',
      ν.payments.Accepts (paymentRequest id rows.operation.amount rows.operation.currency) http' →
      Delivered (WorkerKind.running.processJob db id http' later draw') id

theorem Agrees.recoverable (h : ν.Agrees) {calls : List Call}
    (hreached : ν.world.db = PaymentService.after calls) {id : String} {rows : Rows}
    {job : SendJob} (hheader : HeaderValue id) (hrows : ν.world.db.lookup id = some rows)
    (hjob : rows.sendJob = some job) (hopen : job.state ≠ .done) :
    ν.Recoverable id rows job := by
  have hjob' : ν.world.db.job id = some job := Db.job_eq_some.mpr ⟨rows, hrows, hjob⟩
  have hsource : ∀ (kind : WorkerKind) now, id ∈ kind.selected now ν.world.db →
      job.state = kind.source := by
    intro kind now hmem
    obtain ⟨job', hfound, hselects⟩ := WorkerKind.mem_selected.mp hmem
    cases hjob'.symm.trans hfound
    exact WorkerKind.source_of_selects hselects
  have hcalled : ∀ (kind : WorkerKind) now, kind ≠ .pending → job.state = kind.source →
      ∀ http draw, ν.payments.Accepts
        (paymentRequest id rows.operation.amount rows.operation.currency) http →
      Delivered (kind.processJob ν.world.db id http now draw) id := by
    intro kind now hne hstate http draw haccepts
    have hexpected := WorkerKind.expected_of_ne hne
    exact h.processJob_delivers hreached hheader hrows hjob (hstate ▸ hexpected.symm) haccepts now
      draw
  have hclaim : job.state = .pending → ∀ now,
      ν.world.db.next (.claimSendJob now id) = ν.world.db.insert id (rows.claimed now) :=
    fun hstate now => next_claim hrows hjob hstate now
  constructor
  · have hdata := retryData_after calls id rows (hreached ▸ hrows) job hjob
    exact selected_by_one hjob' hdata hopen
  · intro kind now hmem
    refine ⟨hsource kind now hmem, fun http draw haccepts => ?_⟩
    cases kind with
    | pending =>
      rw [show WorkerKind.pending.processJob ν.world.db id http now draw =
        ν.world.db.next (.claimSendJob now id) from rfl, hclaim (hsource _ _ hmem)]
      exact ⟨_, Db.job_eq_some.mpr ⟨_, Finmap.lookup_insert _, congrArg (Option.map _) hjob⟩, rfl⟩
    | running | retry => exact (hcalled _ now (by decide) (hsource _ _ hmem) http draw haccepts).job
  · intro kind now hmem http draw haccepts
    cases kind with
    | pending =>
      refine .inr fun later => ?_
      -- the claim changes nothing the provider has a say in
      have hnext := @h.next _ _ (.claimSendJob now id) trivial
      have hreached' : ν.world.db.next (.claimSendJob now id) =
          PaymentService.after (calls ++ [.claimSendJob now id]) := by
        rw [hreached, after_concat]
      have hlookup : (ν.world.db.next (.claimSendJob now id)).lookup id =
          some (rows.claimed now) := by
        rw [hclaim (hsource _ _ hmem)]
        exact Finmap.lookup_insert _
      have hclaimed : (rows.claimed now).sendJob =
          some { job with state := .running, updatedAt := now } := congrArg (Option.map _) hjob
      constructor
      · refine WorkerKind.mem_selected.mpr ⟨_, Db.job_eq_some.mpr ⟨_, hlookup, hclaimed⟩, ?_⟩
        rfl
      · intro http' draw' haccepts'
        exact hnext.processJob_delivers hreached' hheader hlookup hclaimed rfl haccepts' later draw'
    | running | retry =>
      exact .inl (hcalled _ now (by decide) (hsource _ _ hmem) http draw haccepts)

section

variable [DecidableEq W] {kind : W → WorkerKind}

/-- Requests are only sent, and payments only opened, under ids that can be headers. -/
structure Sendable (ν : Network W) : Prop where
  requests : ∀ request ∈ ν.world.requests, HeaderValue request.idempotencyKey
  payments : ∀ payment ∈ ν.payments, HeaderValue payment.idempotencyKey

theorem Sendable.step (h : ν.Sendable) (a : NetworkAction W) : (ν.step kind a).Sendable := by
  unfold Network.step
  split
  case isFalse => exact h
  case isTrue hallows =>
    cases a with
    | notify => exact ⟨h.requests, h.payments⟩
    | pay request p =>
      refine ⟨h.requests, fun payment hmem => ?_⟩
      rcases Ledger.mem_pay hmem with hold | hnew
      · exact h.payments payment hold
      · rw [hnew]
        exact h.requests request hallows
    | service action =>
      refine ⟨fun request hmem => ?_, h.payments⟩
      cases action with
      | create | submit | receive => exact h.requests request hmem
      | work now w step =>
        rcases List.mem_append.mp hmem with hold | hnew
        · exact h.requests request hold
        · obtain ⟨id, ids, operation, -, -, -, hheader, rfl⟩ :=
            WorkerState.sends_eq_some (Option.mem_toList.mp hnew)
          exact headerError_eq_none.mp hheader

theorem sendable_after (kind : W → WorkerKind) (actions : List (NetworkAction W)) :
    (after kind actions).Sendable := by
  refine @Runs.run_invariant _ _ (step kind) Sendable (fun ν a h => h.step a) actions start ?_
  exact ⟨fun _ hmem => absurd hmem List.not_mem_nil, fun _ hmem => absurd hmem List.not_mem_nil⟩

/-! ## Main result -/

/-- The operation is delivered or can be, and every answer a worker has for it is kept. -/
structure NotStranded (kind : W → WorkerKind) (ν : Network W) (id : String) (rows : Rows) :
    Prop where
  job : ∃ job, rows.sendJob = some job ∧
    (job.state = .done ∧ rows.operation.providerPaymentId.isSome ∨ ν.Recoverable id rows job)
  answers : ∀ w payment ids now draw, ν.world.workers w = .answered id (.ok payment) ids →
    payment.providerPaymentId.length ≤ 128 →
    Delivered (ν.world.step kind (.work now w (.writeBack draw))).db id

theorem Agrees.notStranded (h : ν.Agrees) {calls : List Call}
    (hreached : ν.world.db = PaymentService.after calls) {id : String} {rows : Rows}
    (hheader : HeaderValue id) (hrows : ν.world.db.lookup id = some rows)
    (hstatus : rows.operation.status = .processing) : ν.NotStranded kind id rows where
  job := by
    obtain ⟨job, hjob⟩ := job_of_processing (hreached ▸ hrows) hstatus
    refine ⟨job, hjob, ?_⟩
    by_cases hdone : job.state = .done
    · obtain ⟨s, hs⟩ := stage_of_reachable _ id rows (hreached ▸ hrows)
      exact .inl ⟨hdone, hs.consistent.done job hjob hdone⟩
    · exact .inr (h.recoverable hreached hheader hrows hjob hdone)
  answers := by
    intro w payment ids now draw hw hlength
    have hc : Action.call kind ν.world (.work now w (.writeBack draw)) =
        some (.completeJob now id payment.providerPaymentId) := by
      simp only [Action.call, hw, WorkerState.call]
    rw [World.step_db_some hc]
    exact h.delivers hreached (h.claimed w id (by rw [hw]; rfl)) (h.answers w id payment ids hw)
      hlength now

omit [DecidableEq W] in
/-- What is left to do for a refused id is never done. -/
theorem not_recoverable {id : String} {rows : Rows} {job : SendJob} (hheader : ¬ HeaderValue id)
    (hrows : ν.world.db.lookup id = some rows) (hjob : rows.sendJob = some job) {http : HttpResult}
    (haccepts : ν.payments.Accepts
      (paymentRequest id rows.operation.amount rows.operation.currency) http) :
    ¬ ν.Recoverable id rows job := by
  intro h
  obtain ⟨start, hselected⟩ := h.selected
  obtain ⟨kind, hmem, -⟩ := hselected start (le_refl _)
  obtain ⟨hsource, hmoved⟩ := h.moved kind start hmem
  let draw : Draw := ⟨0, le_refl 0, zero_le_one⟩
  cases kind with
  | pending =>
    have hclaim : WorkerKind.pending.processJob ν.world.db id http start draw =
        ν.world.db.insert id (rows.claimed start) := next_claim hrows hjob hsource start
    have hlookup : (ν.world.db.insert id (rows.claimed start)).lookup id =
        some (rows.claimed start) := Finmap.lookup_insert _
    have hclaimed : (rows.claimed start).sendJob =
        some { job with state := .running, updatedAt := start } := congrArg (Option.map _) hjob
    have hdelivered := h.delivered .pending start hmem http draw haccepts
    rw [hclaim] at hdelivered
    rcases hdelivered with hnow | hlater
    · obtain ⟨job', hjob', hdone⟩ := hnow.job
      cases (Db.job_eq_some.mpr ⟨_, hlookup, hclaimed⟩).symm.trans hjob'
      cases hdone
    · obtain ⟨job', hjob', hdone⟩ := ((hlater start).2 http draw haccepts).job
      exact WorkerKind.running.processJob_refused hheader hlookup hclaimed rfl http start draw
        hjob' hdone
  | running =>
    obtain ⟨job', hjob', hdone⟩ := hmoved http draw haccepts
    exact WorkerKind.running.processJob_refused hheader hrows hjob (congrArg some hsource) http
      start draw hjob' hdone
  | retry =>
    obtain ⟨job', hjob', hdone⟩ := hmoved http draw haccepts
    exact WorkerKind.retry.processJob_refused hheader hrows hjob (congrArg some hsource) http start
      draw hjob' hdone

omit [DecidableEq W] [HttpClient] in
/-- A delivered operation's id was a header. -/
theorem Agrees.headerValue (h : ν.Agrees) (hsendable : ν.Sendable) {id : String} {rows : Rows}
    (hrows : ν.world.db.lookup id = some rows) (hp : rows.operation.providerPaymentId.isSome) :
    HeaderValue id := by
  obtain ⟨p, hp⟩ := Option.isSome_iff_exists.mp hp
  obtain ⟨payment, hmem, rfl, -⟩ := h.recorded id rows p hrows hp
  rw [h.payments.own payment hmem]
  exact hsendable.payments payment hmem

theorem Agrees.headerValue_of_notStranded (h : ν.Agrees) (hsendable : ν.Sendable) {id : String}
    {rows : Rows} (hrows : ν.world.db.lookup id = some rows) {http : HttpResult}
    (haccepts : ν.payments.Accepts
      (paymentRequest id rows.operation.amount rows.operation.currency) http)
    (hstranded : ν.NotStranded kind id rows) : HeaderValue id := by
  obtain ⟨job, hjob, ⟨-, hp⟩ | hrecoverable⟩ := hstranded.job
  · exact h.headerValue hsendable hrows hp
  · by_contra hheader
    exact not_recoverable hheader hrows hjob haccepts hrecoverable

/-- **No operation whose id can be a header is stranded**, wherever the workers were lost; one
whose id cannot be is, also with a provider that would accept it. -/
theorem no_operation_stranded (kind : W → WorkerKind) (actions : List (NetworkAction W))
    {id : String} {rows : Rows} (hrows : (after kind actions).world.db.lookup id = some rows)
    (hstatus : rows.operation.status = .processing) :
    (HeaderValue id → (after kind actions).NotStranded kind id rows) ∧
    ∀ http, (after kind actions).payments.Accepts
        (paymentRequest id rows.operation.amount rows.operation.currency) http →
      ((after kind actions).NotStranded kind id rows ↔ HeaderValue id) := by
  have h := agrees_after kind actions
  have hreached := (congrArg World.db (after_world kind actions)).trans
    (World.after_callsOf kind _)
  have hwhen (hheader : HeaderValue id) : (after kind actions).NotStranded kind id rows :=
    h.notStranded hreached hheader hrows hstatus
  refine ⟨hwhen, fun http haccepts => ⟨fun hstranded => ?_, hwhen⟩⟩
  exact h.headerValue_of_notStranded (sendable_after kind actions) hrows haccepts hstranded

end

end

/-- The running worker is lost after the provider took its request. -/
theorem crashed_operation_not_stranded :
    let ν := after id [
      .service (.create 0 .sample), .service (.submit 1 "op-1"),
      .service (.work 2 .pending (.find ["op-1"])), .service (.work 2 .pending .start),
      .service (.work 3 .running (.find ["op-1"])), .service (.work 3 .running .start),
      .pay (paymentRequest "op-1" 10050 "RUB") "pay-1", .service (.work 4 .running .crash)]
    let rows := ((Rows.created 0 .sample).submitted 1).claimed 2
    (HeaderValue "op-1" → ν.NotStranded id "op-1" rows) ∧
    ∀ http, ν.payments.Accepts (paymentRequest "op-1" 10050 "RUB") http →
      (ν.NotStranded id "op-1" rows ↔ HeaderValue "op-1") :=
  no_operation_stranded id _ (by decide +kernel) rfl

/-- " op-1" is ASCII, and the provider would accept it; no request for it is ever sent. -/
theorem indented_operation_stranded :
    let ν := after id [
      .service (.create 0 .indented), .service (.submit 1 " op-1"),
      .service (.work 2 .pending (.find [" op-1"])), .service (.work 2 .pending .start)]
    let rows := ((Rows.created 0 .indented).submitted 1).claimed 2
    (∀ c ∈ " op-1".toList, c.toNat < 128) ∧ ν.world.db.lookup " op-1" = some rows ∧
    rows.operation.status = .processing ∧
    ν.payments.Accepts (paymentRequest " op-1" 10050 "RUB")
      (.response 202 "" (some ⟨"pay-1", "accepted"⟩)) ∧
    ¬ ν.NotStranded id " op-1" rows := by
  intro ν rows
  have hrows : ν.world.db.lookup " op-1" = some rows := by decide +kernel
  have haccepts : ν.payments.Accepts (paymentRequest " op-1" 10050 "RUB")
      (.response 202 "" (some ⟨"pay-1", "accepted"⟩)) := by
    refine ⟨"pay-1", "", ⟨"pay-1", "accepted"⟩, rfl, by decide, ?_⟩
    decide +kernel
  refine ⟨by simp, hrows, rfl, haccepts, ?_⟩
  intro hstranded
  have hheader := (agrees_after id _).headerValue_of_notStranded (sendable_after id _) hrows
    haccepts hstranded
  revert hheader
  decide +kernel

end Network

end PaymentService
