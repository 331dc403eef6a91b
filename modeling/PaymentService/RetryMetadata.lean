import PaymentService.Delivery

/-!
# Retry metadata

What `attempt`, `next_retry_at` and `last_error` of a delivery job say about its failed attempts.
`find_retryable_operation_ids` selects by `next_retry_at` alone, so a waiting job without one
would never be retried.

* `SendJob.InWindow` — a waiting job waits for a time within the delay of its last attempt.
* `recordsFailure` — the transactions that record a failed attempt; `attempts_next`: they raise
  `attempt` by one, and no other transaction changes it.
* `retry_metadata` — **the metadata agrees with the state in every reachable state, and `attempt`
  counts the recorded failures**, whichever workers reported them.
-/

namespace PaymentService

/-! ## The window of a waiting job -/

/-- The retry time is the policy's for this attempt, counted from the last update. -/
def SendJob.InWindow (job : SendJob) : Prop :=
  job.state = .waitingRetry → ∃ t, job.nextRetryAt = some t ∧ job.updatedAt ≤ t ∧
    ((t - job.updatedAt : Int) : ℚ) ≤ RetryPolicy.default.cappedDelay job.attempt * 1000000

theorem SendJob.InWindow.of_ne {job : SendJob} (h : job.state ≠ .waitingRetry) : job.InWindow :=
  fun hwaiting => absurd hwaiting h

theorem Change.inWindow {db : Db} {c : Call} {o : Option Rows} {rows : Rows} {out : Outcome}
    (h : Change db c o out rows) (hold : ∀ old ∈ o, ∀ job ∈ old.sendJob, job.InWindow) :
    ∀ job ∈ rows.sendJob, job.InWindow := by
  intro job hmem
  cases h with
  | created => cases hmem
  | submitted now id hstatus hnone =>
    cases hmem
    exact .of_ne (by simp)
  | claimed | completed | finalized =>
    obtain ⟨job', -, rfl⟩ := Option.map_eq_some_iff.mp hmem
    exact .of_ne (by simp)
  | failed hfailure hjob hstate hretry herror =>
    obtain ⟨job', hjob', rfl⟩ := Option.map_eq_some_iff.mp hmem
    cases hjob.symm.trans hjob'
    intro _
    exact ⟨_, rfl, RetryPolicy.default_window (Nat.succ_pos _) hretry⟩
  | ignored | duplicate => exact hold _ rfl job hmem

theorem inWindow_after (calls : List Call) :
    ∀ id rows, (after calls).lookup id = some rows → ∀ job ∈ rows.sendJob, job.InWindow :=
  rows_invariant (fun hc hold => hc.inWindow hold) calls

/-! ## Counting failures -/

/-- The call is a `move_to_retry` or `record_retry_failure` of this operation that commits and
found the job in the state it expects. -/
def recordsFailure (id : String) (db : Db) (c : Call) : Bool :=
  decide (c.operationId = id) && (c.exec db).1.isOk &&
    c.failure.any fun f => (db.job id).any fun job => job.state = f.expected

theorem recordsFailure_iff {id : String} {db : Db} {c : Call} :
    recordsFailure id db c = true ↔ c.operationId = id ∧ (c.exec db).1.isOk ∧
      ∃ f job, c.failure = some f ∧ db.job id = some job ∧ job.state = f.expected := by
  simp only [recordsFailure, Bool.and_eq_true, decide_eq_true_eq, Option.any_eq_true, and_assoc]
  constructor
  · rintro ⟨hid, hok, f, hf, job, hjob, hstate⟩
    exact ⟨hid, hok, f, job, hf, hjob, hstate⟩
  · rintro ⟨hid, hok, f, job, hf, hjob, hstate⟩
    exact ⟨hid, hok, f, hf, job, hjob, hstate⟩

/-- Such a call leaves a failed attempt in the rows. -/
theorem next_of_recordsFailure {id : String} {db : Db} {c : Call}
    (h : recordsFailure id db c = true) :
    ∃ (f : Failure) (rows : Rows) (job : SendJob) (retryAt : Timestamp),
      db.lookup id = some rows ∧ rows.sendJob = some job ∧
      (db.next c).lookup id = some (rows.failed f.now retryAt f.error) := by
  obtain ⟨rfl, hok, f, job, hf, hjob, hstate⟩ := recordsFailure_iff.mp h
  obtain ⟨rows, hrows, hjob⟩ := Db.job_eq_some.mp hjob
  have heffect := exec_effect db c
  unfold Db.next
  generalize c.exec db = result at heffect hok ⊢
  cases heffect with
  | refused => cases hok
  | idle hi =>
    cases hi with
    | existing | unclaimed | answered => cases hf
    | failure hf' hrows' hjob' hstate' =>
      cases hf.symm.trans hf'
      cases hrows.symm.trans hrows'
      cases hjob.symm.trans hjob'
      exact absurd hstate hstate'
  | changed hc =>
    rw [hrows] at hc
    cases hc with
    | submitted | claimed | completed | finalized | ignored | duplicate => cases hf
    | failed => exact ⟨_, rows, job, _, hrows, hjob, Finmap.lookup_insert db⟩

/-- The failed attempts of an operation, as its job counts them. -/
def Db.attempts (db : Db) (id : String) : Nat := ((db.job id).map (·.attempt)).getD 0

theorem Db.attempts_of_rows {db : Db} {id : String} {rows : Rows}
    (hrows : db.lookup id = some rows) :
    db.attempts id = (rows.sendJob.map (·.attempt)).getD 0 := by
  simp only [Db.attempts, Db.job, hrows, Option.bind_some]

/-- **One call counts one failure, if it records one.** -/
theorem attempts_next (id : String) (db : Db) (c : Call) :
    (db.next c).attempts id = db.attempts id + (recordsFailure id db c).toNat := by
  cases hrecords : recordsFailure id db c with
  | true =>
    obtain ⟨f, rows, job, retryAt, hrows, hjob, hnext⟩ := next_of_recordsFailure hrecords
    rw [Db.attempts_of_rows hrows, Db.attempts_of_rows hnext]
    simp [Rows.failed, hjob]
  | false =>
    rw [Bool.toNat_false, Nat.add_zero]
    rcases lookup_next db c id with hsame | ⟨out, rows, hid, hout, hc, hnew⟩
    · simp only [Db.attempts, Db.job, hsame]
    rw [Db.attempts_of_rows hnew]
    cases hold : db.lookup id with
    | none =>
      rw [hold] at hc
      cases hc with
      | created => simp [Db.attempts, Db.job, hold, Rows.created]
    | some old =>
      rw [hold] at hc
      rw [Db.attempts_of_rows hold]
      cases hc with
      | submitted now id hstatus hjob => simp [Rows.submitted, hjob]
      | claimed now id hjob => simp [Rows.claimed, hjob]
      | completed now id p hjob => simp [Rows.completed, hjob]
      | finalized => simp [Rows.finalized, Function.comp_def]
      | ignored | duplicate => rfl
      | failed hf hjob hstate hretry herror =>
        have htrue : recordsFailure id db c = true :=
          recordsFailure_iff.mpr ⟨hid, by rw [hout]; rfl, _, _, hf,
            Db.job_eq_some.mpr ⟨_, hold, hjob⟩, hstate⟩
        cases hrecords.symm.trans htrue

/-! ## Main result -/

/-- What the state of a job says about its failed attempts and the next one. -/
structure SendJob.RetryMetadata (job : SendJob) : Prop where
  unattempted : job.state = .pending ∨ job.state = .running →
    job.attempt = 0 ∧ job.nextRetryAt = none ∧ job.lastError = none
  waiting : job.state = .waitingRetry → 1 ≤ job.attempt ∧ job.lastError.isSome ∧
    ∃ t, job.nextRetryAt = some t ∧ job.updatedAt ≤ t ∧
      ((t - job.updatedAt : Int) : ℚ) ≤ RetryPolicy.default.cappedDelay job.attempt * 1000000

/-- **Retry metadata matches the job state, and no failure is lost or counted twice.** -/
theorem retry_metadata (calls : List Call) (id : String) :
    ∀ job, (after calls).job id = some job → job.RetryMetadata ∧
      job.attempt = (steps calls).countP (fun p => recordsFailure id p.1 p.2) := by
  intro job hjob
  obtain ⟨rows, hrows, hmem⟩ := Db.job_eq_some.mp hjob
  have hdata := retryData_after calls id rows hrows job hmem
  have hwindow := inWindow_after calls id rows hrows job hmem
  have hcount := @Runs.run_count _ _ Db.next (·.attempts id) (recordsFailure id)
    (attempts_next id) calls ∅
  refine ⟨⟨hdata.unattempted, fun hwaiting => ?_⟩, ?_⟩
  · obtain ⟨hattempt, -, herror⟩ := hdata.waiting hwaiting
    exact ⟨hattempt, herror, hwindow hwaiting⟩
  · have hnow : (after calls).attempts id = job.attempt := by
      simp only [Db.attempts, hjob, Option.map_some, Option.getD_some]
    rw [← hnow, show (after calls).attempts id = _ from hcount]
    exact Nat.zero_add _

/-- Two workers report the first failure; the second report finds the job waiting. -/
theorem retry_metadata_reported_twice :
    let draw : Draw := ⟨1, by decide, by decide⟩
    let calls := [Call.create 0 .sample, .submit 1 "op-1", .claimSendJob 2 "op-1",
      .moveToRetry 3 draw "op-1" "timeout", .moveToRetry 4 draw "op-1" "timeout"]
    let job : SendJob := ⟨.waitingRetry, 1, some 1000003, some "timeout", 1, 3⟩
    job.RetryMetadata ∧
      job.attempt = (steps calls).countP (fun p => recordsFailure "op-1" p.1 p.2) :=
  retry_metadata [Call.create 0 .sample, .submit 1 "op-1", .claimSendJob 2 "op-1",
    .moveToRetry 3 ⟨1, by decide, by decide⟩ "op-1" "timeout",
    .moveToRetry 4 ⟨1, by decide, by decide⟩ "op-1" "timeout"] "op-1"
    ⟨.waitingRetry, 1, some 1000003, some "timeout", 1, 3⟩ (by decide +kernel)

end PaymentService
