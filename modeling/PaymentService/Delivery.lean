import PaymentService.Reachable
import Mathlib.Order.Lattice

/-!
# The delivery job only moves forward

Workers decide on rows they read before a long HTTP call, so the theorems are about any call at
any time.

* `Change.job` — a change keeps the job, its `created_at`, and lowers neither state nor attempt.
* `JobMove`, `job_next` — what a call can make of a job.
* `next_of_done` — once the job is DONE, what a worker reports changes no row.
* `delivery_moves_forward` — the same over runs, and a job is claimed at most once.
-/

namespace PaymentService

def SendJobState.rank : SendJobState → Nat
  | .pending => 0
  | .running => 1
  | .waitingRetry => 2
  | .done => 3

theorem SendJobState.rank_injective : Function.Injective rank := by
  intro a b h
  cases a <;> cases b <;> first | rfl | cases h

/-- PENDING < RUNNING < WAITING_RETRY < DONE. -/
instance : PartialOrder SendJobState := PartialOrder.lift SendJobState.rank
  SendJobState.rank_injective

theorem SendJobState.le_iff {a b : SendJobState} : a ≤ b ↔ a.rank ≤ b.rank := Iff.rfl

theorem SendJobState.le_done (state : SendJobState) : state ≤ .done := by
  rw [le_iff]
  cases state <;> decide

theorem SendJobState.open_of_ne {state : SendJobState} (hpending : state ≠ .pending)
    (hdone : state ≠ .done) : state = .running ∨ state = .waitingRetry := by
  cases state with
  | pending => exact absurd rfl hpending
  | running => exact .inl rfl
  | waitingRetry => exact .inr rfl
  | done => exact absurd rfl hdone

theorem SendJobState.pending_le (state : SendJobState) : .pending ≤ state :=
  Nat.zero_le state.rank

theorem SendJobState.running_le_waitingRetry : SendJobState.running ≤ .waitingRetry :=
  Nat.le_succ 1

/-- The same job, at the same point or further. -/
structure SendJob.Ahead (job job' : SendJob) : Prop where
  state : job.state ≤ job'.state
  createdAt : job'.createdAt = job.createdAt
  attempt : job.attempt ≤ job'.attempt

theorem SendJob.Ahead.refl (job : SendJob) : job.Ahead job := ⟨le_refl _, rfl, le_refl _⟩

theorem SendJob.Ahead.trans {a b c : SendJob} (hab : a.Ahead b) (hbc : b.Ahead c) : a.Ahead c :=
  ⟨hab.state.trans hbc.state, hbc.createdAt.trans hab.createdAt, hab.attempt.trans hbc.attempt⟩

theorem SendJob.Ahead.map {o : Option SendJob} {job : SendJob} {change : SendJob → SendJob}
    (ho : o = some job) (h : job.Ahead (change job)) :
    ∃ job', o.map change = some job' ∧ job.Ahead job' :=
  ⟨change job, by rw [ho, Option.map_some], h⟩

/-- **A change keeps the job and moves it forward, if at all.** -/
theorem Change.job {db : Db} {c : Call} {old rows : Rows} {out : Outcome}
    (h : Change db c (some old) out rows) {job : SendJob} (hjob : old.sendJob = some job) :
    ∃ job', rows.sendJob = some job' ∧ job.Ahead job' := by
  cases h with
  | submitted now id hstatus hnone => cases hnone.symm.trans hjob
  | claimed now id hjob' hstate =>
    cases hjob'.symm.trans hjob
    refine SendJob.Ahead.map hjob ⟨?_, rfl, le_refl _⟩
    rw [hstate]
    exact SendJobState.pending_le _
  | completed now id p hjob' hstate hp =>
    exact SendJob.Ahead.map hjob ⟨SendJobState.le_done _, rfl, le_refl _⟩
  | failed hfailure hjob' hstate hretry herror =>
    cases hjob'.symm.trans hjob
    refine SendJob.Ahead.map hjob ⟨?_, rfl, Nat.le_succ _⟩
    rw [hstate]
    rcases Call.failure_expected hfailure with h | h
    · rw [h]
      exact SendJobState.running_le_waitingRetry
    · rw [h]
  | finalized now receipt hstatus hp hmessage =>
    refine SendJob.Ahead.map hjob ⟨?_, job.closed_createdAt now, (job.closed_attempt now).ge⟩
    rw [job.closed_state now]
    exact SendJobState.le_done _
  | ignored | duplicate => exact ⟨job, hjob, .refl job⟩

theorem job_stays {db : Db} {id : String} {rows : Rows} {job : SendJob}
    (hrows : db.lookup id = some rows) (hjob : rows.sendJob = some job) (calls : List Call) :
    ∃ rows' job', (Runs.run Db.next db calls).lookup id = some rows' ∧
      rows'.sendJob = some job' ∧ job.Ahead job' := by
  obtain ⟨rows', hrows', job', hjob', hahead⟩ :=
    @rows_preserved (fun rows => ∃ job', rows.sendJob = some job' ∧ job.Ahead job')
      (fun hc ⟨job', hjob', hahead⟩ => by
        obtain ⟨job'', hjob'', hahead'⟩ := hc.job hjob'
        exact ⟨job'', hjob'', hahead.trans hahead'⟩)
      db id rows hrows ⟨job, hjob, .refl job⟩ calls
  exact ⟨rows', job', hrows', hjob', hahead⟩

/-! ## What a call does to a job -/

/-- The job of an operation. -/
def Db.job (db : Db) (id : String) : Option SendJob := (db.lookup id).bind (·.sendJob)

theorem Db.job_eq_some {db : Db} {id : String} {job : SendJob} :
    db.job id = some job ↔ ∃ rows, db.lookup id = some rows ∧ rows.sendJob = some job :=
  Option.bind_eq_some_iff

/-- The moves of a job: it is claimed, a failure is recorded on it, or it is done. -/
inductive JobMove (c : Call) (job : SendJob) : SendJob → Prop
  | claim (now : Timestamp) (id : String) (hc : c = .claimSendJob now id)
      (hstate : job.state = .pending) :
      JobMove c job { job with state := .running, updatedAt := now }
  | fail (f : Failure) (retryAt : Timestamp) (hf : c.failure = some f)
      (hstate : job.state = f.expected)
      (hretry : RetryPolicy.default.nextRetryAt (job.attempt + 1) f.now f.draw = .ok retryAt)
      (htext : f.error.length ≤ 500) :
      JobMove c job
        { job with
          state := .waitingRetry
          attempt := job.attempt + 1
          nextRetryAt := some retryAt
          lastError := some f.error
          updatedAt := f.now }
  | done {job' : SendJob} (hdone : job'.state = .done) : JobMove c job job'

theorem Change.jobMove {db : Db} {c : Call} {old rows : Rows} {out : Outcome}
    (h : Change db c (some old) out rows) {job : SendJob} (hjob : old.sendJob = some job) :
    ∃ job', rows.sendJob = some job' ∧ (job' = job ∨ JobMove c job job') := by
  cases h with
  | submitted now id hstatus hnone => cases hnone.symm.trans hjob
  | claimed now id hjob' hstate =>
    cases hjob'.symm.trans hjob
    exact ⟨_, congrArg (Option.map _) hjob, .inr (.claim now id rfl hstate)⟩
  | failed hfailure hjob' hstate hretry herror =>
    cases hjob'.symm.trans hjob
    exact ⟨_, congrArg (Option.map _) hjob, .inr (.fail _ _ hfailure hstate hretry herror)⟩
  | completed => exact ⟨_, congrArg (Option.map _) hjob, .inr (.done rfl)⟩
  | finalized now receipt hstatus hp hmessage =>
    exact ⟨_, congrArg (Option.map _) hjob, .inr (.done (job.closed_state now))⟩
  | ignored | duplicate => exact ⟨job, hjob, .inl rfl⟩

/-- **A call leaves a job as it is, or makes one move of the job of its operation.** -/
theorem job_next {db : Db} {id : String} {job : SendJob} (hjob : db.job id = some job)
    (c : Call) : ∃ job', (db.next c).job id = some job' ∧
      (job' = job ∨ c.operationId = id ∧ JobMove c job job') := by
  obtain ⟨old, hold, hjob⟩ := Db.job_eq_some.mp hjob
  rcases lookup_next db c id with hsame | ⟨out, rows, hid, hout, hc, hnew⟩
  · exact ⟨job, Db.job_eq_some.mpr ⟨old, hsame.trans hold, hjob⟩, .inl rfl⟩
  · rw [hold] at hc
    obtain ⟨job', hjob', hmove⟩ := hc.jobMove hjob
    exact ⟨job', Db.job_eq_some.mpr ⟨rows, hnew, hjob'⟩, hmove.imp_right (fun h => ⟨hid, h⟩)⟩

/-! ## Retry data -/

/-- What the state of a job says about its failed attempts. -/
structure SendJob.RetryData (job : SendJob) : Prop where
  unattempted : job.state = .pending ∨ job.state = .running →
    job.attempt = 0 ∧ job.nextRetryAt = none ∧ job.lastError = none
  /-- "WAITING_RETRY jobs always have a non-null next_retry_at." -/
  waiting : job.state = .waitingRetry →
    1 ≤ job.attempt ∧ job.nextRetryAt.isSome ∧ job.lastError.isSome

theorem SendJob.RetryData.of_done {job : SendJob} (h : job.state = .done) : job.RetryData where
  unattempted := by
    rw [h]
    rintro (h | h) <;> cases h
  waiting := by
    rw [h]
    intro h
    cases h

theorem Change.retryData {db : Db} {c : Call} {o : Option Rows} {rows : Rows} {out : Outcome}
    (h : Change db c o out rows) (hold : ∀ old ∈ o, ∀ job ∈ old.sendJob, job.RetryData) :
    ∀ job ∈ rows.sendJob, job.RetryData := by
  intro job hmem
  cases h with
  | created => cases hmem
  | submitted now id hstatus hnone =>
    cases hmem
    exact ⟨fun _ => ⟨rfl, rfl, rfl⟩, fun h => by cases h⟩
  | claimed now id hjob hstate =>
    obtain ⟨job', hjob', rfl⟩ := Option.map_eq_some_iff.mp hmem
    cases hjob.symm.trans hjob'
    exact ⟨fun _ => (hold _ rfl _ hjob).unattempted (.inl hstate), fun h => by cases h⟩
  | completed now id p hjob hstate hp =>
    obtain ⟨job', -, rfl⟩ := Option.map_eq_some_iff.mp hmem
    exact .of_done rfl
  | failed hfailure hjob hstate hretry herror =>
    obtain ⟨job', -, rfl⟩ := Option.map_eq_some_iff.mp hmem
    refine ⟨?_, fun _ => ⟨Nat.succ_pos _, rfl, rfl⟩⟩
    rintro (h | h) <;> cases h
  | finalized now receipt hstatus hp hmessage =>
    obtain ⟨job', -, rfl⟩ := Option.map_eq_some_iff.mp hmem
    exact .of_done (job'.closed_state now)
  | ignored | duplicate => exact hold _ rfl job hmem

/-- Retry data and job state agree in every reachable state. -/
theorem retryData_after (calls : List Call) :
    ∀ id rows, (after calls).lookup id = some rows → ∀ job ∈ rows.sendJob, job.RetryData :=
  rows_invariant (fun hc hold => hc.retryData hold) calls

/-! ## What workers report -/

/-- The calls of the three workers. -/
def Call.byWorker : Call → Bool
  | .claimSendJob _ _ | .completeJob _ _ _ | .moveToRetry _ _ _ _ | .recordRetryFailure _ _ _ _ =>
    true
  | .create _ _ | .submit _ _ | .processReceipt _ _ => false

/-- **Once the job is DONE, no claim, answer or failure changes a row.** -/
theorem next_of_done {db : Db} {c : Call} {rows : Rows} {job : SendJob} (hc : c.byWorker = true)
    (hrows : db.lookup c.operationId = some rows) (hjob : rows.sendJob = some job)
    (hdone : job.state = .done) : db.next c = db := by
  rcases next_cases db c with hsame | ⟨out, rows', -, h, -⟩
  · exact hsame
  · rw [hrows] at h
    cases h with
    | submitted | finalized | ignored | duplicate => cases hc
    | claimed now id hjob' hstate =>
      cases hjob'.symm.trans hjob
      cases hstate.symm.trans hdone
    | completed now id p hjob' hstate hp =>
      cases hjob'.symm.trans hjob
      rw [hdone] at hstate
      rcases hstate with hstate | hstate <;> cases hstate
    | failed hfailure hjob' hstate hretry herror =>
      cases hjob'.symm.trans hjob
      rw [hdone] at hstate
      rcases Call.failure_expected hfailure with h | h <;> cases hstate.trans h

/-! ## Claims -/

/-- The call is a `claim_send_job` of this operation that returns `True`. -/
def claims (id : String) (db : Db) (c : Call) : Bool :=
  decide (c.operationId = id) &&
    match (c.exec db).1 with
    | .ok (.claimed claimed) => claimed
    | _ => false

theorem claims_iff {id : String} {db : Db} {c : Call} (h : claims id db c = true) :
    ∃ now rows job, c = .claimSendJob now id ∧ db.lookup id = some rows ∧
      rows.sendJob = some job ∧ job.state = .pending ∧
      (db.next c).lookup id = some (rows.claimed now) := by
  unfold claims at h
  obtain ⟨hid, hclaimed⟩ := Bool.and_eq_true_iff.mp h
  obtain rfl := of_decide_eq_true hid
  have heffect := exec_effect db c
  unfold Db.next
  generalize c.exec db = result at heffect hclaimed ⊢
  cases heffect with
  | refused h => cases hclaimed
  | idle h => cases h <;> cases hclaimed
  | changed h =>
    generalize ho : db.lookup c.operationId = o at h
    cases h with
    | claimed now id hjob hstate =>
      exact ⟨now, _, _, rfl, rfl, hjob, hstate, Finmap.lookup_insert db⟩
    | created | submitted | completed | failed | finalized | ignored | duplicate =>
      cases hclaimed

/-- The operation can still be claimed: its job, if any, is PENDING. -/
def Claimable (id : String) (db : Db) : Prop :=
  ∀ rows, db.lookup id = some rows → ∀ job, rows.sendJob = some job → job.state = .pending

theorem not_claimable_next {id : String} {db : Db} (c : Call) (h : ¬ Claimable id db) :
    ¬ Claimable id (db.next c) := by
  unfold Claimable at h ⊢
  push Not at h ⊢
  obtain ⟨rows, hrows, job, hjob, hstate⟩ := h
  obtain ⟨rows', job', hrows', hjob', hahead⟩ := job_stays hrows hjob [c]
  refine ⟨rows', hrows', job', hjob', ?_⟩
  intro hpending
  have hle := hahead.state
  rw [hpending, SendJobState.le_iff] at hle
  cases hs : job.state
  · exact hstate hs
  all_goals
    rw [hs] at hle
    cases hle

theorem claims_at_most_once (calls : List Call) (id : String) :
    (steps calls).countP (fun p => claims id p.1 p.2) ≤ 1 := by
  refine (@Runs.countP_le_one _ _ Db.next (fun _ => True) (fun _ _ _ => trivial) (claims id)
    (Claimable id) ?_ (fun db c _ h => not_claimable_next c h) calls ∅ trivial).1
  intro db c _ h
  obtain ⟨now, rows, job, rfl, hrows, hjob, hstate, hnext⟩ := claims_iff h
  constructor
  · intro rows' hrows' job' hjob'
    cases hrows.symm.trans hrows'
    cases hjob.symm.trans hjob'
    exact hstate
  · intro hclaimable
    have hrunning := hclaimable _ hnext { job with state := .running, updatedAt := now }
      (by simp [Rows.claimed, hjob])
    cases hrunning

/-- **The delivery job only moves forward**: it is never replaced or moved back, a DONE job is
left alone by the workers, and it is claimed at most once. -/
theorem delivery_moves_forward (calls : List Call) (id : String) :
    (∀ (later : List Call) (rows : Rows) (job : SendJob), (after calls).lookup id = some rows →
      rows.sendJob = some job →
      ∃ rows' job', (after (calls ++ later)).lookup id = some rows' ∧
        rows'.sendJob = some job' ∧ job.state ≤ job'.state ∧
        job'.createdAt = job.createdAt ∧ job.attempt ≤ job'.attempt) ∧
    (∀ (c : Call) (rows : Rows) (job : SendJob), c.byWorker = true → c.operationId = id →
      (after calls).lookup id = some rows → rows.sendJob = some job → job.state = .done →
      (after (calls ++ [c])) = after calls) ∧
    (steps calls).countP (fun p => claims id p.1 p.2) ≤ 1 := by
  refine ⟨?_, ?_, claims_at_most_once calls id⟩
  · intro later rows job hrows hjob
    obtain ⟨rows', job', hrows', hjob', hahead⟩ := job_stays hrows hjob later
    rw [after_append]
    exact ⟨rows', job', hrows', hjob', hahead.state, hahead.createdAt, hahead.attempt⟩
  · intro c rows job hc hid hrows hjob hdone
    rw [after_concat]
    exact next_of_done hc (hid ▸ hrows) hjob hdone

end PaymentService
