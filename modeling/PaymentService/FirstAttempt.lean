import PaymentService.Attempts
import PaymentService.Exclusion
import PaymentService.PaymentIds

/-!
# The running worker's attempt

`RunningWorker` calls the provider for RUNNING jobs without backoff, so every outcome of a call
has to move the job out of RUNNING.

* `OneAttempt` — one call per operation, after which the job is DONE or waits for a retry.
* `RefusedAnswer` — a 202 whose payment id `complete_job` refuses while the job is RUNNING: the row
  has another id, or another operation has this one.  The exception is only logged.
* `LateFailure` — a failure with no retry time left before `datetime.max`: `move_to_retry` raises.
* `Attempted` — the attempt is under way or over; no step undoes it (`Attempted.step`).
* `one_attempt_iff` — **in crash-free runs of the process the promise holds exactly when no answer
  is refused** and no failure comes too late.
-/

namespace PaymentService

/-! ## The promise -/

section

variable [HttpClient]

/-- The attempt is over: delivered, or counted and scheduled for a retry. -/
def SendJob.Over (job job' : SendJob) : Prop :=
  job'.state = .done ∨
    job'.state = .waitingRetry ∧ job.attempt < job'.attempt ∧ job'.nextRetryAt.isSome

structure OneAttempt (actions : List (Action WorkerKind)) : Prop where
  once : ∀ id, (World.history oneEach actions).countP
    (fun p => World.startsCall oneEach .running id p.1 p.2) ≤ 1
  ends : ∀ p ∈ World.history oneEach actions, ∀ now draw id answer ids,
    p.2 = .work now .running (.writeBack draw) → p.1.workers .running = .answered id answer ids →
    ∃ job job', p.1.db.job id = some job ∧ (p.1.step oneEach p.2).db.job id = some job' ∧
      job.Over job'

/-- An answer the columns can hold. -/
def Fits : Except String ProviderPayment → Prop
  | .ok payment => payment.providerPaymentId.length ≤ 128
  | .error error => error.length ≤ 500

instance : (answer : Except String ProviderPayment) → Decidable (Fits answer)
  | .ok _ | .error _ => inferInstanceAs (Decidable (_ ≤ _))

/-- Steps of a crash-free run whose answers fit. -/
def Allowed (σ : World WorkerKind) : Action WorkerKind → Prop
  | .work _ _ .crash => False
  | .work _ w (.respond http) =>
    ∀ request ∈ (σ.workers w).request, Fits (createPayment request http)
  | _ => True

instance (σ : World WorkerKind) : (a : Action WorkerKind) → Decidable (Allowed σ a)
  | .work _ _ .crash => inferInstanceAs (Decidable False)
  | .work _ _ (.respond _) => inferInstanceAs (Decidable (∀ request ∈ _, _))
  | .work _ _ (.find _) | .work _ _ .start | .work _ _ (.writeBack _) | .create _ _ | .submit _ _
  | .receive _ _ => inferInstanceAs (Decidable True)

/-- The running worker's payment id is refused while the job is RUNNING. -/
def RefusedAnswer (σ : World WorkerKind) (a : Action WorkerKind) : Prop :=
  ∃ now draw id payment ids rows job, a = .work now .running (.writeBack draw) ∧
    σ.workers .running = .answered id (.ok payment) ids ∧ σ.db.lookup id = some rows ∧
    rows.sendJob = some job ∧ job.state = .running ∧
    ((∃ existing, rows.operation.providerPaymentId = some existing ∧
        existing ≠ payment.providerPaymentId) ∨
      TakenElsewhere σ.db id payment.providerPaymentId)

/-- The running worker's failed attempt gets no retry time. -/
def LateFailure (σ : World WorkerKind) (a : Action WorkerKind) : Prop :=
  ∃ now draw id error ids rows job, a = .work now .running (.writeBack draw) ∧
    σ.workers .running = .answered id (.error error) ids ∧ σ.db.lookup id = some rows ∧
    rows.sendJob = some job ∧ job.state = .running ∧
    ¬ now + RetryPolicy.default.drawnDelay (job.attempt + 1) draw ≤ datetimeMax

/-! ## What holds at every step -/

structure Healthy (σ : World WorkerKind) : Prop where
  exclusive : Exclusive σ
  reached : ∃ calls, σ.db = after calls
  fits : ∀ w id answer ids, σ.workers w = .answered id answer ids → Fits answer

omit [HttpClient] in
theorem healthy_start : Healthy World.start where
  exclusive := exclusive_start
  reached := ⟨[], rfl⟩
  fits := fun w id answer ids hw => by cases hw

/-- An answer in a worker's hands was there, or `create_payment` has just ended with it. -/
theorem WorkerMove.answered {kind : WorkerKind} {now : Timestamp} {db : Db} {state : WorkerState}
    {step : WorkerStep} {c : Option Call} {id : String} {answer : Except String ProviderPayment}
    {ids : List String} (h : WorkerMove kind now db state step c (.answered id answer ids)) :
    state = .answered id answer ids ∨
    ∃ request http, request ∈ state.request ∧ step = .respond http ∧
      answer = createPayment request http := by
  cases h with
  | @respond id currency amount ids http => exact .inr ⟨_, http, rfl, rfl, rfl⟩
  | stay => exact .inl rfl

theorem Healthy.step {σ : World WorkerKind} (h : Healthy σ) {a : Action WorkerKind}
    (hallowed : Allowed σ a) : Healthy (σ.step oneEach a) where
  exclusive := h.exclusive.step a
  reached := by
    obtain ⟨calls, hcalls⟩ := h.reached
    rcases World.step_db oneEach σ a with hsame | ⟨c, hc, hnext⟩
    · exact ⟨calls, hsame.trans hcalls⟩
    · refine ⟨calls ++ [c], ?_⟩
      rw [hnext, hcalls, after_concat]
  fits := by
    intro w id answer ids hw
    rcases World.step_worker oneEach σ a w with hsame | ⟨now, step, rfl, hmove⟩
    · exact h.fits w id answer ids (hsame.symm.trans hw)
    · rw [hw] at hmove
      rcases hmove.answered with hold | ⟨request, http, hrequest, rfl, rfl⟩
      · exact h.fits w id answer ids hold
      · exact hallowed request hrequest

end

/-! ## Write-backs -/

/-- A delivered job stays delivered. -/
theorem job_next_done {db : Db} {id : String} {job : SendJob} (hjob : db.job id = some job)
    (hdone : job.state = .done) (c : Call) :
    ∃ job', (db.next c).job id = some job' ∧ job'.state = .done := by
  obtain ⟨job', hjob', rfl | ⟨-, hmove⟩⟩ := job_next hjob c
  · exact ⟨job', hjob', hdone⟩
  · refine ⟨job', hjob', ?_⟩
    cases hmove with
    | claim _ _ _ hpending => cases hdone.symm.trans hpending
    | fail f _ hf hexpected =>
      rcases Call.failure_expected hf with h | h <;> cases hdone.symm.trans (hexpected.trans h)
    | done hdone' => exact hdone'

/-- The first failure of a running job is recorded. -/
theorem over_of_failure {calls : List Call} {id error : String} {rows : Rows} {job : SendJob}
    (hrows : (after calls).lookup id = some rows) (hjob : rows.sendJob = some job)
    (hrunning : job.state = .running) (hfits : error.length ≤ 500) {now : Timestamp}
    {draw : Draw}
    (hlast : now + RetryPolicy.default.drawnDelay (job.attempt + 1) draw ≤ datetimeMax) :
    ∃ job', ((after calls).next (.moveToRetry now draw id error)).job id = some job' ∧
      job.Over job' := by
  have hattempt := ((retryData_after calls id rows hrows job hjob).unattempted (.inr hrunning)).1
  have hretry := (RetryPolicy.nextRetryAt_eq_ok (Nat.succ_pos job.attempt)).mpr
    ⟨by omega, rfl, hlast⟩
  have hnext := @next_failure (after calls) (.moveToRetry now draw id error) _ rows job rfl hrows
    hjob hrunning _ hretry hfits
  rw [hnext]
  refine ⟨_, Db.job_eq_some.mpr ⟨_, Finmap.lookup_insert _, congrArg (Option.map _) hjob⟩, ?_⟩
  exact .inr ⟨rfl, Nat.lt_succ_self _, rfl⟩

/-- A payment id the row can take delivers a running job. -/
theorem over_of_answer {db : Db} {id p : String} {rows : Rows} {job : SendJob}
    (hrows : db.lookup id = some rows) (hjob : rows.sendJob = some job)
    (hrunning : job.state = .running) (hp : Binds db id p rows) (now : Timestamp) :
    ∃ job', (db.next (.completeJob now id p)).job id = some job' ∧ job.Over job' := by
  rw [next_complete hrows hjob (.inl hrunning) hp now]
  refine ⟨_, Db.job_eq_some.mpr ⟨_, Finmap.lookup_insert _, congrArg (Option.map _) hjob⟩, ?_⟩
  exact .inl rfl

theorem SendJob.Over.left_running {job job' : SendJob} (h : job.Over job') :
    .waitingRetry ≤ job'.state := by
  rcases h with hdone | ⟨hstate, -, -⟩
  · rw [hdone]
    exact SendJobState.le_done _
  · rw [hstate]

section

variable [HttpClient] {σ : World WorkerKind} {a : Action WorkerKind}

/-- **A write-back that is not refused ends the attempt.** -/
theorem Healthy.ends (h : Healthy σ) (hnone : ¬ RefusedAnswer σ a) (htime : ¬ LateFailure σ a)
    {now : Timestamp} {draw : Draw} {id : String} {answer : Except String ProviderPayment}
    {ids : List String} (ha : a = .work now .running (.writeBack draw))
    (hw : σ.workers .running = .answered id answer ids) :
    ∃ job job', σ.db.job id = some job ∧ (σ.step oneEach a).db.job id = some job' ∧
      job.Over job' := by
  subst ha
  obtain ⟨calls, hcalls⟩ := h.reached
  obtain ⟨job, hjob, hstate⟩ := h.exclusive.job .running id (by rw [hw]; rfl)
  have hfits := h.fits .running id answer ids hw
  refine ⟨job, ?_⟩
  have hcall : ∃ c, Action.call oneEach σ (.work now .running (.writeBack draw)) = some c := by
    simp only [Action.call, hw, WorkerState.call]
    cases answer <;> exact ⟨_, rfl⟩
  obtain ⟨c, hc⟩ := hcall
  rw [World.step_db_some hc]
  rcases hstate with hrunning | hdone
  · have hrunning := Option.some.inj hrunning
    obtain ⟨rows, hrows, hjob'⟩ := Db.job_eq_some.mp hjob
    simp only [Action.call, hw, WorkerState.call] at hc
    cases answer with
    | error error =>
      cases hc
      have hlast : now + RetryPolicy.default.drawnDelay (job.attempt + 1) draw ≤ datetimeMax := by
        by_contra hlate
        exact htime ⟨now, draw, id, error, ids, rows, job, rfl, hw, hrows, hjob', hrunning, hlate⟩
      rw [hcalls] at hrows ⊢
      obtain ⟨job', hnext, hover⟩ := over_of_failure hrows hjob' hrunning hfits hlast
      exact ⟨job', hcalls ▸ hjob, hnext, hover⟩
    | ok payment =>
      cases hc
      have hnone : ¬ ((∃ existing, rows.operation.providerPaymentId = some existing ∧
          existing ≠ payment.providerPaymentId) ∨
          TakenElsewhere σ.db id payment.providerPaymentId) := fun hconflict =>
        hnone ⟨now, draw, id, payment, ids, rows, job, rfl, hw, hrows, hjob', hrunning, hconflict⟩
      have hbinds := binds_of_no_conflict hnone hfits
      obtain ⟨job', hnext, hover⟩ := over_of_answer hrows hjob' hrunning hbinds now
      exact ⟨job', hjob, hnext, hover⟩
  · obtain ⟨job', hnext, hdone'⟩ := job_next_done hjob hdone c
    exact ⟨job', hjob, hnext, .inl hdone'⟩

/-- A write-back of the running worker that leaves every row, and the job RUNNING. -/
def KeptRunning (σ : World WorkerKind) (a : Action WorkerKind) : Prop :=
  ∃ now draw id answer ids job, a = .work now .running (.writeBack draw) ∧
    σ.workers .running = .answered id answer ids ∧ σ.db.job id = some job ∧
    job.state = .running ∧ (σ.step oneEach a).db = σ.db

theorem RefusedAnswer.kept (h : RefusedAnswer σ a) (hunique : UniqueIds σ.db) :
    KeptRunning σ a := by
  obtain ⟨now, draw, id, payment, ids, rows, job, rfl, hw, hrows, hjob, hrunning, hconflict⟩ := h
  have hc : Action.call oneEach σ (.work now .running (.writeBack draw)) =
      some (.completeJob now id payment.providerPaymentId) := by
    simp only [Action.call, hw, WorkerState.call]
  refine ⟨now, draw, id, .ok payment, ids, job, rfl, hw, Db.job_eq_some.mpr ⟨rows, hrows, hjob⟩,
    hrunning, ?_⟩
  rw [World.step_db_some hc]
  rcases next_cases σ.db (.completeJob now id payment.providerPaymentId) with
    hsame | ⟨out, rows', -, hchange, -⟩
  · exact hsame
  · rw [show (Call.completeJob now id payment.providerPaymentId).operationId = id from rfl,
      hrows] at hchange
    cases hchange with
    | failed hf => cases hf
    | completed _ _ _ _ _ hbinds =>
      rcases hconflict with ⟨existing, hexisting, hne⟩ | htaken
      · exact absurd (hbinds.eq hexisting) hne
      · rcases hbinds with hbound | ⟨-, hcolumn⟩
        · obtain ⟨id', rows', hne, hrows', hp⟩ := htaken
          exact absurd (hunique _ _ _ _ _ hrows' hrows hp hbound) hne
        · exact absurd htaken (paymentIdColumn_ok.mp hcolumn).2

theorem LateFailure.kept (h : LateFailure σ a) : KeptRunning σ a := by
  obtain ⟨now, draw, id, error, ids, rows, job, rfl, hw, hrows, hjob, hrunning, hlate⟩ := h
  have hc : Action.call oneEach σ (.work now .running (.writeBack draw)) =
      some (.moveToRetry now draw id error) := by
    simp only [Action.call, hw, WorkerState.call]
  refine ⟨now, draw, id, .error error, ids, job, rfl, hw, Db.job_eq_some.mpr ⟨rows, hrows, hjob⟩,
    hrunning, ?_⟩
  rw [World.step_db_some hc]
  exact @next_failure_late σ.db (.moveToRetry now draw id error) _ rows job rfl hrows hjob hlate

/-! ## At most one call -/

/-- The running worker is at the operation, or the job has left RUNNING. -/
def Attempted (id : String) (σ : World WorkerKind) : Prop :=
  (σ.workers .running).current = some id ∨
    ∃ job, σ.db.job id = some job ∧ .waitingRetry ≤ job.state

theorem attempted_of_left {id : String} {job : SendJob} (hjob : σ.db.job id = some job)
    (hleft : .waitingRetry ≤ job.state) : Attempted id (σ.step oneEach a) := by
  obtain ⟨rows, hrows, hrowsjob⟩ := Db.job_eq_some.mp hjob
  rcases World.step_db oneEach σ a with hsame | ⟨c, hc, hnext⟩
  · exact .inr ⟨job, hsame ▸ hjob, hleft⟩
  · obtain ⟨rows', job', hrows', hjob', hahead⟩ := job_stays hrows hrowsjob [c]
    refine .inr ⟨job', ?_, hleft.trans hahead.state⟩
    rw [hnext]
    exact Db.job_eq_some.mpr ⟨rows', hrows', hjob'⟩

theorem Attempted.step {id : String} (h : Attempted id σ) (hhealthy : Healthy σ)
    (hallowed : Allowed σ a) (hnone : ¬ RefusedAnswer σ a) (htime : ¬ LateFailure σ a) :
    Attempted id (σ.step oneEach a) := by
  rcases h with hcurrent | ⟨job, hjob, hleft⟩
  · rcases World.step_worker oneEach σ a .running with hsame | ⟨now, step, rfl, hmove⟩
    · refine .inl ?_
      rw [hsame]
      exact hcurrent
    · -- the worker keeps the operation until its write-back, which ends the attempt
      cases hw : σ.workers .running with
      | ready ids =>
        rw [hw] at hcurrent
        cases hcurrent
      | calling id' amount currency ids =>
        rw [hw] at hcurrent
        cases hcurrent
        cases step with
        | crash => exact hallowed.elim
        | find | start | respond | writeBack =>
          refine .inl ?_
          simp [World.step, hw, WorkerState.next, WorkerState.current]
      | answered id' answer ids =>
        rw [hw] at hcurrent
        cases hcurrent
        cases step with
        | crash => exact hallowed.elim
        | writeBack draw =>
          obtain ⟨job, job', -, hjob', hover⟩ := hhealthy.ends hnone htime rfl hw
          exact .inr ⟨job', hjob', hover.left_running⟩
        | find | start | respond =>
          refine .inl ?_
          simp [World.step, hw, WorkerState.next, WorkerState.current]
  · exact attempted_of_left hjob hleft

/-- A call is the operation's first. -/
theorem attempted_of_startsCall {id : String}
    (h : World.startsCall oneEach .running id σ a = true) :
    ¬ Attempted id σ ∧ Attempted id (σ.step oneEach a) := by
  have hafter := (of_decide_eq_true h).2
  obtain ⟨now, ids, operation, rfl, hready, hcheck⟩ := World.startsCall_eq_true h
  refine ⟨?_, .inl (current_of_called hafter)⟩
  rintro (hcurrent | ⟨job, hjob, hleft⟩)
  · rw [hready] at hcurrent
    cases hcurrent
  · obtain ⟨job', hjob', hstate⟩ := WorkerKind.job_of_check hcheck
    cases hjob.symm.trans hjob'
    rw [Option.some.inj hstate, SendJobState.le_iff] at hleft
    exact absurd hleft (by decide)

end

/-! ## Main result -/

section

variable [HttpClient]

theorem healthy_of_history {actions : List (Action WorkerKind)}
    (hallowed : ∀ p ∈ World.history oneEach actions, Allowed p.1 p.2) :
    ∀ p ∈ World.history oneEach actions, Healthy p.1 :=
  Runs.history_induction (fun _ _ h hok => h.step hok) actions World.start healthy_start hallowed

/-- A kept job breaks the promise. -/
theorem OneAttempt.not_kept {actions : List (Action WorkerKind)} (h : OneAttempt actions) :
    ∀ p ∈ World.history oneEach actions, ¬ KeptRunning p.1 p.2 := by
  rintro p hp ⟨now, draw, id, answer, ids, job, ha, hw, hjob, hrunning, hsame⟩
  obtain ⟨old, new, hold, hnew, hover⟩ := h.ends p hp now draw id answer ids ha hw
  rw [hsame, hjob] at hnew
  cases hnew
  have hleft := hover.left_running
  rw [hrunning, SendJobState.le_iff] at hleft
  exact absurd hleft (by decide)

/-- **One attempt per operation, exactly in the runs without a refused answer** or a failure too
late for a retry time. -/
theorem one_attempt_iff (actions : List (Action WorkerKind))
    (hallowed : ∀ p ∈ World.history oneEach actions, Allowed p.1 p.2) :
    OneAttempt actions ↔ ∀ p ∈ World.history oneEach actions,
      ¬ RefusedAnswer p.1 p.2 ∧ ¬ LateFailure p.1 p.2 := by
  have hhealthy := healthy_of_history hallowed
  constructor
  · intro h p hp
    obtain ⟨calls, hcalls⟩ := (hhealthy p hp).reached
    constructor
    · intro hrefused
      exact h.not_kept p hp (hrefused.kept (hcalls ▸ uniqueIds_after calls))
    · intro hlate
      exact h.not_kept p hp hlate.kept
  · intro hnone
    constructor
    · intro id
      refine (@Runs.countP_le_one_of _ _ (World.step oneEach) Healthy
        (fun σ a => Allowed σ a ∧ ¬ RefusedAnswer σ a ∧ ¬ LateFailure σ a)
        (fun σ a h hok => h.step hok.1)
        (World.startsCall oneEach .running id) (fun σ => ¬ Attempted id σ) ?_ ?_ actions World.start
        healthy_start (fun p hp => ⟨hallowed p hp, hnone p hp⟩)).1
      · intro σ a h hok hstarts
        obtain ⟨hbefore, hafter⟩ := attempted_of_startsCall hstarts
        exact ⟨hbefore, not_not.mpr hafter⟩
      · intro σ a h hok hattempted
        exact not_not.mpr ((not_not.mp hattempted).step h hok.1 hok.2.1 hok.2.2)
    · intro p hp now draw id answer ids ha hw
      exact (hhealthy p hp).ends (hnone p hp).1 (hnone p hp).2 ha hw

end

/-- A transport error: the one attempt is counted and scheduled again. -/
theorem one_attempt_transport :
    let actions : List (Action WorkerKind) := [
      .create 0 .sample, .submit 1 "op-1", .work 2 .pending (.find ["op-1"]),
      .work 2 .pending .start, .work 3 .running (.find ["op-1"]), .work 3 .running .start,
      .work 4 .running (.respond .httpError),
      .work 4 .running (.writeBack ⟨0, by decide, by decide⟩)]
    OneAttempt actions ↔ ∀ p ∈ World.history oneEach actions,
      ¬ RefusedAnswer p.1 p.2 ∧ ¬ LateFailure p.1 p.2 :=
  one_attempt_iff _ (by decide +kernel)

/-- The answer carries an id that another operation has: the job stays RUNNING and the next pass
calls the provider again, without backoff. -/
theorem second_attempt_without_backoff :
    let actions : List (Action WorkerKind) := [
      .create 0 .sample, .submit 1 "op-1",
      .create 2 { CreateOperationRequest.sample with
        operationId := "op-2", operationId_min := by decide, operationId_max := by decide },
      .submit 3 "op-2", .receive 4 ⟨"pay-1", "op-2", .completed, "", 4⟩,
      .work 5 .pending (.find ["op-1"]), .work 5 .pending .start,
      .work 6 .running (.find ["op-1"]), .work 6 .running .start,
      .work 7 .running (.respond (.response 202 "" (some ⟨"pay-1", "ACCEPTED"⟩))),
      .work 7 .running (.writeBack ⟨0, by decide, by decide⟩),
      .work 8 .running (.find ["op-1"]), .work 8 .running .start]
    (∀ p ∈ World.history oneEach actions, Allowed p.1 p.2) ∧
      (World.history oneEach actions).countP
        (fun p => World.startsCall oneEach .running "op-1" p.1 p.2) = 2 ∧
      ¬ OneAttempt actions := by
  intro actions
  have htwice : (World.history oneEach actions).countP
      (fun p => World.startsCall oneEach .running "op-1" p.1 p.2) = 2 := by decide +kernel
  refine ⟨by decide +kernel, htwice, ?_⟩
  intro h
  have honce := h.once "op-1"
  rw [htwice] at honce
  omega

end PaymentService
