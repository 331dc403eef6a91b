import PaymentService.Workers

/-!
# One attempt of a worker

* `WorkerKind.processJob` — a worker takes one operation of its list, and nothing else happens
  until it is done with it; `run_processJob`: the three steps of the worker in a `World`.
* `WorkerKind.processJob_ok`, `WorkerKind.processJob_error` — what is reported of a call.
* `next_claim`, `next_complete` — a claim, and an answer the row can take, go through.
* `next_failure` — a reported failure whose text fits moves the job to its next retry;
  `next_failure_long`, `next_failure_late`: one whose text does not, or whose retry time is after
  `datetime.max`, changes nothing.
* `WorkerKind.processJob_refused` — an operation whose id the client refuses is not delivered.
* `failure_backed_off_iff` — **a failed attempt is recorded and backed off exactly when its text
  fits `last_error`**, and its retry time is a `datetime`.
-/

namespace PaymentService

section

variable [HttpClient]

/-- `_process_job`; of the pending worker, `_claim_job`. -/
def WorkerKind.processJob (kind : WorkerKind) (db : Db) (operationId : String)
    (http : HttpResult) (now : Timestamp) (draw : Draw) : Db :=
  match kind with
  | .pending => db.next (.claimSendJob now operationId)
  | .running | .retry =>
    match kind.check db operationId with
    | none => db
    | some operation =>
      let request := paymentRequest operationId operation.amount operation.currency
      match createPayment request http, kind with
      | .ok payment, _ => db.next (.completeJob now operationId payment.providerPaymentId)
      | .error error, .running => db.next (.moveToRetry now draw operationId error)
      | .error error, _ => db.next (.recordRetryFailure now draw operationId error)

end

/-! ## Claims and answers -/

theorem next_claim {db : Db} {id : String} {rows : Rows} {job : SendJob}
    (hrows : db.lookup id = some rows) (hjob : rows.sendJob = some job)
    (hstate : job.state = .pending) (now : Timestamp) :
    db.next (.claimSendJob now id) = db.insert id (rows.claimed now) := by
  have hc : Change db (.claimSendJob now id) (some rows) (.claimed true) (rows.claimed now) :=
    .claimed now id hjob hstate
  exact next_of_change hc hrows

theorem next_complete {db : Db} {id p : String} {rows : Rows} {job : SendJob}
    (hrows : db.lookup id = some rows) (hjob : rows.sendJob = some job)
    (hstate : job.state = .running ∨ job.state = .waitingRetry) (hp : Binds db id p rows)
    (now : Timestamp) :
    db.next (.completeJob now id p) = db.insert id (rows.completed now p) := by
  have hc : Change db (.completeJob now id p) (some rows) .none (rows.completed now p) :=
    .completed now id p hjob hstate hp
  exact next_of_change hc hrows

/-- The job is DONE, under this payment id. -/
def DeliveredAs (db : Db) (id providerPaymentId : String) : Prop :=
  ∃ rows job, db.lookup id = some rows ∧ rows.sendJob = some job ∧ job.state = .done ∧
    rows.operation.providerPaymentId = some providerPaymentId

/-! ## Failed attempts -/

section

variable {db : Db} {c : Call} {f : Failure} {rows : Rows} {job : SendJob}

/-- A failure whose text fits is recorded. -/
theorem next_failure (hf : c.failure = some f) (hrows : db.lookup c.operationId = some rows)
    (hjob : rows.sendJob = some job) (hstate : job.state = f.expected) {retryAt : Timestamp}
    (hretry : RetryPolicy.default.nextRetryAt (job.attempt + 1) f.now f.draw = .ok retryAt)
    (htext : f.error.length ≤ 500) :
    db.next c = db.insert c.operationId (rows.failed f.now retryAt f.error) := by
  have hc : Change db c (some rows) .none (rows.failed f.now retryAt f.error) :=
    .failed hf hjob hstate hretry htext
  exact next_of_change hc hrows

/-- A failure whose text is too long is refused by the column. -/
theorem next_failure_long (hf : c.failure = some f) (htext : ¬ f.error.length ≤ 500) :
    db.next c = db := by
  rcases next_cases db c with hsame | ⟨out, rows, -, hc, -⟩
  · exact hsame
  · generalize db.lookup c.operationId = o at hc
    cases hc with
    | failed hf' _ _ _ htext' =>
      cases hf.symm.trans hf'
      exact absurd htext' htext
    | created | submitted | claimed | completed | finalized | ignored | duplicate => cases hf

/-- So does a failure for which the policy has no retry time. -/
theorem next_failure_late (hf : c.failure = some f) (hrows : db.lookup c.operationId = some rows)
    (hjob : rows.sendJob = some job)
    (hlate : ¬ f.now + RetryPolicy.default.drawnDelay (job.attempt + 1) f.draw ≤ datetimeMax) :
    db.next c = db := by
  rcases next_cases db c with hsame | ⟨out, rows', -, hc, -⟩
  · exact hsame
  · rw [hrows] at hc
    cases hc with
    | failed hf' hjob' _ hretry _ =>
      cases hf.symm.trans hf'
      cases hjob.symm.trans hjob'
      obtain ⟨-, rfl, hlast⟩ := (RetryPolicy.nextRetryAt_eq_ok (Nat.succ_pos _)).mp hretry
      exact absurd hlast hlate
    | submitted | claimed | completed | finalized | ignored | duplicate => cases hf

end

/-- A job that is not DONE is not after the report of a failed attempt either. -/
theorem open_of_failure {db : Db} {c : Call} {f : Failure} (hf : c.failure = some f)
    {job job' : SendJob} (hjob : db.job c.operationId = some job) (hopen : job.state ≠ .done)
    (hjob' : (db.next c).job c.operationId = some job') : job'.state ≠ .done := by
  obtain ⟨rows, hrows, hfound⟩ := Db.job_eq_some.mp hjob
  obtain ⟨rows', hrows', hfound'⟩ := Db.job_eq_some.mp hjob'
  rcases lookup_next db c c.operationId with hsame | ⟨out, new, -, -, hc, hnew⟩
  · rw [hsame, hrows] at hrows'
    cases hrows'
    cases hfound.symm.trans hfound'
    exact hopen
  · cases hnew.symm.trans hrows'
    rw [hrows] at hc
    cases hc with
    | failed _ hjob₀ =>
      rw [Rows.failed, Rows.updateJob_sendJob, hjob₀] at hfound'
      cases hfound'
      exact SendJobState.noConfusion
    | submitted | claimed | completed | finalized | ignored | duplicate => cases hf

/-- An attempt that failed, as the job records it. -/
structure SendJob.BackedOff (job job' : SendJob) (now : Timestamp) : Prop where
  state : job'.state = .waitingRetry
  attempt : job'.attempt = job.attempt + 1
  lastError : job'.lastError.isSome
  nextRetryAt : ∃ t, job'.nextRetryAt = some t ∧ now ≤ t ∧
    t ≤ now + timedelta RetryPolicy.default.maxDelay

section

variable [HttpClient]

/-- An exception of `create_payment` is reported under the state the worker expects. -/
theorem WorkerKind.processJob_error {kind : WorkerKind} {db : Db} {id error : String}
    {rows : Rows} {job : SendJob} {http : HttpResult} (hrows : db.lookup id = some rows)
    (hjob : rows.sendJob = some job) (hstate : some job.state = kind.expected)
    (herror : createPayment (paymentRequest id rows.operation.amount rows.operation.currency) http =
      .error error) (now : Timestamp) (draw : Draw) :
    ∃ c, c.operationId = id ∧ c.failure = some ⟨job.state, now, draw, error⟩ ∧
      kind.processJob db id http now draw = db.next c := by
  have hcheck := check_eq_some.mpr ⟨rows, job, hrows, hjob, hstate, rfl⟩
  cases kind with
  | pending => cases hstate
  | running =>
    refine ⟨.moveToRetry now draw id error, rfl, ?_, ?_⟩
    · rw [Option.some.inj hstate]
      rfl
    · simp only [processJob, hcheck, herror]
  | retry =>
    refine ⟨.recordRetryFailure now draw id error, rfl, ?_, ?_⟩
    · rw [Option.some.inj hstate]
      rfl
    · simp only [processJob, hcheck, herror]

/-- A payment it returns is reported to `complete_job`. -/
theorem WorkerKind.processJob_ok {kind : WorkerKind} {db : Db} {id : String} {rows : Rows}
    {job : SendJob} {http : HttpResult} {payment : ProviderPayment}
    (hrows : db.lookup id = some rows) (hjob : rows.sendJob = some job)
    (hstate : some job.state = kind.expected)
    (hok : createPayment (paymentRequest id rows.operation.amount rows.operation.currency) http =
      .ok payment) (now : Timestamp) (draw : Draw) :
    kind.processJob db id http now draw =
      db.next (.completeJob now id payment.providerPaymentId) := by
  have hcheck := check_eq_some.mpr ⟨rows, job, hrows, hjob, hstate, rfl⟩
  cases kind with
  | pending => cases hstate
  | running | retry => simp only [processJob, hcheck, hok]

/-- **An id that cannot be a header is never delivered**, whatever the provider would answer. -/
theorem WorkerKind.processJob_refused {kind : WorkerKind} {db : Db} {id : String} {rows : Rows}
    {job : SendJob} (hheader : ¬ HeaderValue id) (hrows : db.lookup id = some rows)
    (hjob : rows.sendJob = some job) (hstate : some job.state = kind.expected)
    (http : HttpResult) (now : Timestamp) (draw : Draw) {job' : SendJob}
    (hjob' : (kind.processJob db id http now draw).job id = some job') : job'.state ≠ .done := by
  rw [← headerError_eq_none] at hheader
  obtain ⟨refused, hrefused⟩ := Option.ne_none_iff_exists'.mp hheader
  have hkey : HttpClient.headerError (paymentRequest id rows.operation.amount
      rows.operation.currency).idempotencyKey = some refused := hrefused
  -- nothing is sent: the attempt is reported as failed
  obtain ⟨text, herror⟩ := createPayment_refused hkey http
  obtain ⟨c, rfl, hf, hnext⟩ := kind.processJob_error hrows hjob hstate herror now draw
  have hopen : job.state ≠ .done := by
    intro hdone
    rw [hdone] at hstate
    cases kind <;> cases hstate
  rw [hnext] at hjob'
  exact open_of_failure hf (Db.job_eq_some.mpr ⟨rows, hrows, hjob⟩) hopen hjob'

/-- **A failed attempt is recorded and backed off exactly when its text fits**, if the clock leaves
room for its retry time before the year 10000. -/
theorem failure_backed_off_iff (calls : List Call) {kind : WorkerKind} {id error : String}
    {rows : Rows} {job : SendJob} {http : HttpResult}
    (hrows : (after calls).lookup id = some rows) (hjob : rows.sendJob = some job)
    (hstate : some job.state = kind.expected) (hattempt : job.attempt < 1000)
    (herror : createPayment (paymentRequest id rows.operation.amount rows.operation.currency) http =
      .error error) (now : Timestamp) (draw : Draw) :
    (∃ rows' job', (kind.processJob (after calls) id http now draw).lookup id = some rows' ∧
      rows'.sendJob = some job' ∧ job.BackedOff job' now) ↔
    error.length ≤ 500 ∧
      now + RetryPolicy.default.drawnDelay (job.attempt + 1) draw ≤ datetimeMax := by
  obtain ⟨c, rfl, hf, hnext⟩ := kind.processJob_error hrows hjob hstate herror now draw
  rw [hnext]
  constructor
  · rintro ⟨rows', job', hrows', hjob', hbacked⟩
    -- if nothing changed, the attempt was not counted
    have hchanged : (after calls).next c ≠ after calls := by
      intro hsame
      rw [hsame, hrows] at hrows'
      cases hrows'
      cases hjob.symm.trans hjob'
      have := hbacked.attempt
      omega
    constructor
    · by_contra hlong
      exact hchanged (next_failure_long hf hlong)
    · by_contra hlate
      exact hchanged (next_failure_late hf hrows hjob hlate)
  · rintro ⟨htext, hlast⟩
    have hretry := (RetryPolicy.nextRetryAt_eq_ok (Nat.succ_pos job.attempt)).mpr
      ⟨by omega, rfl, hlast⟩
    have hdelay := RetryPolicy.default_drawnDelay (job.attempt + 1) draw
    have hmax := RetryPolicy.default_drawnDelay_le (job.attempt + 1) draw
    rw [next_failure hf hrows hjob rfl hretry htext]
    refine ⟨_, _, Finmap.lookup_insert _, congrArg (Option.map _) hjob, rfl, rfl, rfl, _, rfl, ?_⟩
    exact ⟨le_add_of_nonneg_right hdelay.1, add_le_add (le_refl now) hmax⟩

end

/-- A transport error fits. -/
theorem failure_backed_off_transport :
    let db := after [.create 0 .sample, .submit 1 "op-1", .claimSendJob 2 "op-1"]
    let draw : Draw := ⟨0, by decide, by decide⟩
    let job : SendJob := ⟨.running, 0, none, none, 1, 2⟩
    (∃ rows' job', (WorkerKind.running.processJob db "op-1" .httpError 3 draw).lookup "op-1" =
      some rows' ∧ rows'.sendJob = some job' ∧ job.BackedOff job' 3) ↔
      "Provider request failed at transport level".length ≤ 500 ∧
        3 + RetryPolicy.default.drawnDelay 1 draw ≤ datetimeMax :=
  @failure_backed_off_iff _ [.create 0 .sample, .submit 1 "op-1", .claimSendJob 2 "op-1"] .running
    "op-1" _ (((Rows.created 0 .sample).submitted 1).claimed 2) _ .httpError (by decide) rfl rfl
    (by decide) (by decide) 3 ⟨0, by decide, by decide⟩

/-- The body of a refusal ends up in the text: with 500 characters of it the job stays RUNNING,
with no attempt counted, and is called again by the next poll. -/
theorem failure_not_recorded :
    let db := after [.create 0 .sample, .submit 1 "op-1", .claimSendJob 2 "op-1"]
    let draw : Draw := ⟨0, by decide, by decide⟩
    let refusal := HttpResult.response 500 (String.ofList (List.replicate 500 'x')) none
    WorkerKind.running.processJob db "op-1" refusal 3 draw = db ∧
      (db.lookup "op-1").bind (·.sendJob) = some ⟨.running, 0, none, none, 1, 2⟩ ∧
      ¬ ∃ rows' job', (WorkerKind.running.processJob db "op-1" refusal 3 draw).lookup "op-1" =
        some rows' ∧ rows'.sendJob = some job' ∧
        SendJob.BackedOff ⟨.running, 0, none, none, 1, 2⟩ job' 3 := by
  intro db draw refusal
  have hbody : (String.ofList (List.replicate 500 'x')).length = 500 := by
    rw [String.length_ofList, List.length_replicate]
  have htext : ¬ ("Provider returned HTTP 500: " ++
      String.ofList (List.replicate 500 'x')).length ≤ 500 := by
    rw [String.length_append, hbody]
    decide
  have hrefused : WorkerKind.running.processJob db "op-1" refusal 3 draw = db :=
    @next_failure_long db (.moveToRetry 3 draw "op-1" _) _ rfl htext
  refine ⟨hrefused, by decide, ?_⟩
  rw [hrefused]
  rintro ⟨rows', job', hrows', hjob', hbacked⟩
  cases hrows'
  cases hjob'
  cases hbacked.attempt

end PaymentService
