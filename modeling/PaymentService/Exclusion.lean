import PaymentService.Workers

/-!
# One provider call at a time

The process of `app/main.py`: one worker of each kind.  Nothing is reserved during
`create_payment`; two calls for one operation are kept apart by which worker moves which state.

* `Exclusive` — the invariant: from its check to its write-back the job of a worker is as it was
  checked, or DONE, and no two workers are at the same operation.
* `one_call_in_flight` — **it holds in every state of every run of the process**.
-/

namespace PaymentService

/-- One worker of each kind. -/
abbrev oneEach (kind : WorkerKind) : WorkerKind := kind

variable [HttpClient]

structure Exclusive (σ : World WorkerKind) : Prop where
  job : ∀ w id, (σ.workers w).current = some id →
    ∃ job, σ.db.job id = some job ∧ (some job.state = w.expected ∨ job.state = .done)
  one : ∀ w w' id, (σ.workers w).current = some id → (σ.workers w').current = some id → w = w'

omit [HttpClient] in
theorem exclusive_start : Exclusive World.start where
  job := fun w id h => by cases h
  one := fun w w' id h => by cases h

/-- While a worker is at an operation, a step leaves the job as it is or completes it. -/
theorem job_of_current {w : WorkerKind} {σ : World WorkerKind} {a : Action WorkerKind}
    {id : String} {job : SendJob} (hcurrent : (σ.workers w).current = some id)
    (hstays : ((σ.step oneEach a).workers w).current = some id) (hjob : σ.db.job id = some job)
    (hstate : some job.state = w.expected ∨ job.state = .done) :
    ∃ job', (σ.step oneEach a).db.job id = some job' ∧
      (some job'.state = w.expected ∨ job'.state = .done) := by
  rcases World.step_db oneEach σ a with hsame | ⟨c, hc, hnext⟩
  · exact ⟨job, hsame ▸ hjob, hstate⟩
  · obtain ⟨job', hjob', hmove⟩ := job_next hjob c
    rw [← hnext] at hjob'
    refine ⟨job', hjob', ?_⟩
    rcases hmove with rfl | ⟨-, hmove⟩
    · exact hstate
    · cases hmove with
      | claim now id hclaim hpending =>
        rw [hpending] at hstate
        rcases hstate with hstate | hstate
        · cases w <;> cases hstate
        · cases hstate
      | fail f retryAt hf hexpected hretry htext =>
        obtain ⟨now, w', draw, id', ids, rfl, -, -, hw', -, hanswered⟩ := failure_source hc hf
        rw [hexpected] at hstate
        rcases hstate with hstate | hstate
        · -- the worker that records the failure is this one, and leaves the operation
          cases WorkerKind.expected_injective hw' hstate.symm
          rw [World.step_writeBack oneEach hanswered] at hstays
          cases hstays
        · rcases Call.failure_expected hf with h | h <;> cases hstate.symm.trans h
      | done hdone => exact .inr hdone

theorem Exclusive.step {σ : World WorkerKind} (h : Exclusive σ) (a : Action WorkerKind) :
    Exclusive (σ.step oneEach a) := by
  -- a worker at an operation was at it before the step, or has checked the job in it
  have hcurrent (w : WorkerKind) (id : String)
      (hw : ((σ.step oneEach a).workers w).current = some id) :
      (σ.workers w).current = some id ∨
        (σ.step oneEach a).db = σ.db ∧ (∀ w' ≠ w, (σ.step oneEach a).workers w' = σ.workers w') ∧
          ∃ job, σ.db.job id = some job ∧ some job.state = w.expected := by
    rcases World.step_worker oneEach σ a w with hsame | ⟨now, step, rfl, hmove⟩
    · exact .inl (hsame ▸ hw)
    · rcases hmove.current hw with hold | ⟨hnone, operation, hcheck⟩
      · exact .inl hold
      · refine .inr ⟨World.step_db_none hnone, ?_, WorkerKind.job_of_check hcheck⟩
        intro w' hne
        exact Function.update_of_ne hne _ _
  constructor
  · intro w id hw
    rcases hcurrent w id hw with hold | ⟨hdb, -, job, hjob, hstate⟩
    · obtain ⟨job, hjob, hstate⟩ := h.job w id hold
      exact job_of_current hold hw hjob hstate
    · exact ⟨job, hdb ▸ hjob, .inl hstate⟩
  · -- no other worker is at an operation whose job has just been checked
    have hfresh (w w' : WorkerKind) (id : String) (job : SendJob) (hne : w' ≠ w)
        (hw' : (σ.workers w').current = some id) (hjob : σ.db.job id = some job)
        (hstate : some job.state = w.expected) : False := by
      obtain ⟨job', hjob', hstate'⟩ := h.job w' id hw'
      cases hjob.symm.trans hjob'
      rcases hstate' with hstate' | hdone
      · exact hne (WorkerKind.expected_injective hstate'.symm hstate.symm)
      · rw [hdone] at hstate
        cases w <;> cases hstate
    intro w w' id hw hw'
    by_contra hne
    rcases hcurrent w id hw with hold | ⟨-, hothers, job, hjob, hstate⟩
    · rcases hcurrent w' id hw' with hold' | ⟨-, hothers, job, hjob, hstate⟩
      · exact hne (h.one w w' id hold hold')
      · exact hfresh w' w id job hne hold hjob hstate
    · rw [hothers w' (Ne.symm hne)] at hw'
      exact hfresh w w' id job (Ne.symm hne) hw' hjob hstate

theorem exclusive_after (actions : List (Action WorkerKind)) :
    Exclusive (World.after oneEach actions) :=
  Runs.run_invariant (fun _ a h => h.step a) actions exclusive_start

omit [HttpClient] in
theorem current_of_called {state : WorkerState} {id : String} (h : state.called = some id) :
    state.current = some id := by
  cases state <;> cases h
  rfl

/-- **At most one call in flight per operation**, and its job is as the caller found it or DONE. -/
theorem one_call_in_flight (actions : List (Action WorkerKind)) :
    let σ := World.after oneEach actions
    (∀ w w' id, (σ.workers w).called = some id → (σ.workers w').called = some id → w = w') ∧
    (∀ id, (σ.workers .running).called = some id → ∃ rows job, σ.db.lookup id = some rows ∧
      rows.sendJob = some job ∧ (job.state = .running ∨ job.state = .done)) ∧
    (∀ id, (σ.workers .retry).called = some id → ∃ rows job, σ.db.lookup id = some rows ∧
      rows.sendJob = some job ∧ (job.state = .waitingRetry ∨ job.state = .done)) := by
  have h := exclusive_after actions
  refine ⟨?_, ?_, ?_⟩
  · intro w w' id hw hw'
    exact h.one w w' id (current_of_called hw) (current_of_called hw')
  · intro id hid
    obtain ⟨job, hjob, hstate⟩ := h.job .running id (current_of_called hid)
    obtain ⟨rows, hrows, hjob⟩ := Db.job_eq_some.mp hjob
    exact ⟨rows, job, hrows, hjob, hstate.imp_left (fun h => Option.some.inj h)⟩
  · intro id hid
    obtain ⟨job, hjob, hstate⟩ := h.job .retry id (current_of_called hid)
    obtain ⟨rows, hrows, hjob⟩ := Db.job_eq_some.mp hjob
    exact ⟨rows, job, hrows, hjob, hstate.imp_left (fun h => Option.some.inj h)⟩

end PaymentService
