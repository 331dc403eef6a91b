import PaymentService.Workers

/-!
# Retries wait for their time

A retry worker lists the due jobs once per pass and calls the provider for one after another;
before a call it checks the state of the job again, but not its `next_retry_at`.

* `RetriesOnTime` — no retry worker starts a call before the time its job waits for.
* `Reschedules` — a worker records a failed retry while the operation is still on another one's
  list: the listed job is no longer due.
* `ListsDue` — the invariant: what is on a list is due, once, or delivered meanwhile.
* `retries_on_time` — **without such a step every retry is on time**, for any number of workers and
  a clock that does not run backwards; `not_reschedules`: with one retry worker there is none.
-/

namespace PaymentService

section

variable [HttpClient] {W : Type} [DecidableEq W]

/-- Every call a retry worker starts is for a job whose retry time has come. -/
def RetriesOnTime (kind : W → WorkerKind) (actions : List (Action W)) : Prop :=
  ∀ p ∈ World.history kind actions, ∀ w id, kind w = .retry →
    World.startsCall kind w id p.1 p.2 = true →
    ∃ job t, p.1.db.job id = some job ∧ job.state = .waitingRetry ∧ job.nextRetryAt = some t ∧
      t ≤ p.2.now

/-- A retry worker moves the retry time of a job another one has on its list. -/
def Reschedules (kind : W → WorkerKind) (σ : World W) (a : Action W) : Prop :=
  ∃ now w draw id error ids job, a = .work now w (.writeBack draw) ∧ kind w = .retry ∧
    σ.workers w = .answered id (.error error) ids ∧ error.length ≤ 500 ∧
    σ.db.job id = some job ∧ job.state = .waitingRetry ∧
    now + RetryPolicy.default.drawnDelay (job.attempt + 1) draw ≤ datetimeMax ∧
    ∃ w', w' ≠ w ∧ kind w' = .retry ∧ id ∈ (σ.workers w').todo

omit [HttpClient] [DecidableEq W] in
/-- The retry worker of a process has no other one to disturb. -/
theorem not_reschedules {kind : W → WorkerKind}
    (hone : ∀ w w', kind w = .retry → kind w' = .retry → w' = w) (σ : World W) (a : Action W) :
    ¬ Reschedules kind σ a := by
  rintro ⟨now, w, draw, id, error, ids, job, -, hw, -, -, -, -, -, w', hne, hw', -⟩
  exact hne (hone w w' hw hw')

/-! ## The invariant -/

/-- The retry time has come, or the job was delivered meanwhile. -/
def SendJob.Due (job : SendJob) (now : Timestamp) : Prop :=
  job.state = .done ∨ job.state = .waitingRetry ∧ ∃ t, job.nextRetryAt = some t ∧ t ≤ now

omit [HttpClient] in
theorem SendJob.Due.mono {job : SendJob} {now later : Timestamp} (h : job.Due now)
    (hle : now ≤ later) : job.Due later := by
  rcases h with hdone | ⟨hstate, t, ht, hdue⟩
  · exact .inl hdone
  · exact .inr ⟨hstate, t, ht, hdue.trans hle⟩

omit [HttpClient] in
/-- What the retry query selects is due. -/
theorem due_of_selects {now : Timestamp} {job : SendJob}
    (h : WorkerKind.retry.selects now job = true) : job.Due now := by
  obtain ⟨hstate, hdue⟩ := of_decide_eq_true h
  obtain ⟨t, ht, hle⟩ := (Option.any_eq_true _ _).mp hdue
  exact .inr ⟨hstate, t, ht, of_decide_eq_true hle⟩

structure ListsDue (kind : W → WorkerKind) (now : Timestamp) (σ : World W) : Prop where
  due : ∀ w, kind w = .retry → ∀ id ∈ (σ.workers w).todo,
    ∃ job, σ.db.job id = some job ∧ job.Due now
  /-- A pass comes to an operation once. -/
  nodup : ∀ w, kind w = .retry →
    ((σ.workers w).current.toList ++ (σ.workers w).todo).Nodup

omit [HttpClient] [DecidableEq W] in
theorem listsDue_start (kind : W → WorkerKind) (now : Timestamp) :
    ListsDue kind now World.start where
  due := fun _ _ _ hmem => absurd hmem List.not_mem_nil
  nodup := fun _ _ => List.nodup_nil

variable {kind : W → WorkerKind} {σ : World W} {a : Action W} {now : Timestamp}

/-- A listed job stays due while nobody reschedules it. -/
theorem ListsDue.job_step (h : ListsDue kind now σ) (hnone : ¬ Reschedules kind σ a) {w : W}
    (hw : kind w = .retry) {id : String} (hmem : id ∈ (σ.workers w).todo) :
    ∃ job, (σ.step kind a).db.job id = some job ∧ job.Due now := by
  obtain ⟨job, hjob, hdue⟩ := h.due w hw id hmem
  rcases World.step_db kind σ a with hsame | ⟨c, hc, hnext⟩
  · exact ⟨job, hsame ▸ hjob, hdue⟩
  · obtain ⟨job', hjob', hmove⟩ := job_next hjob c
    rw [← hnext] at hjob'
    refine ⟨job', hjob', ?_⟩
    rcases hmove with rfl | ⟨hid, hmove⟩
    · exact hdue
    · cases hmove with
      | claim _ _ hclaim hpending =>
        rcases hdue with hstate | ⟨hstate, -⟩ <;> cases hpending.symm.trans hstate
      | fail f retryAt hf hexpected hretry htext =>
        obtain ⟨at', w', draw, id', ids, rfl, rfl, rfl, hw', hid', hanswered⟩ :=
          failure_source hc hf
        obtain rfl := hid'.symm.trans hid
        have hwaiting : job.state = .waitingRetry := by
          rcases hdue with hdone | ⟨hstate, -⟩
          · rcases Call.failure_expected hf with h | h <;>
              cases hdone.symm.trans (hexpected.trans h)
          · exact hstate
        have hkind : kind w' = .retry := by
          rw [← hexpected, hwaiting] at hw'
          exact WorkerKind.expected_injective hw' rfl
        by_cases heq : w = w'
        · -- its own list does not hold the operation it is at
          subst heq
          have hnodup := h.nodup w hw
          rw [hanswered] at hnodup hmem
          exact absurd hmem (List.nodup_cons.mp hnodup).1
        · obtain ⟨-, rfl, hlast⟩ :=
            (RetryPolicy.nextRetryAt_eq_ok (Nat.succ_pos job.attempt)).mp hretry
          exact absurd ⟨_, w', _, _, _, ids, job, rfl, hkind, hanswered, htext, hjob, hwaiting,
            hlast, w, heq, hw, hmem⟩ hnone
      | done hdone => exact .inl hdone

theorem ListsDue.step (h : ListsDue kind now σ) (hclock : now ≤ a.now)
    (hnone : ¬ Reschedules kind σ a) : ListsDue kind a.now (σ.step kind a) where
  due := by
    intro w hw id hmem
    have hlisted (hold : id ∈ (σ.workers w).todo) :
        ∃ job, (σ.step kind a).db.job id = some job ∧ job.Due a.now := by
      obtain ⟨job, hjob, hdue⟩ := h.job_step hnone hw hold
      exact ⟨job, hjob, hdue.mono hclock⟩
    rcases World.step_worker kind σ a w with hsame | ⟨at', step, rfl, hmove⟩
    · exact hlisted (hsame ▸ hmem)
    · rcases hmove.todo with ⟨hsub, -⟩ | ⟨hcall, -, hfinds⟩
      · exact hlisted (hsub.subset hmem)
      · rw [hw] at hfinds
        obtain ⟨job, hjob, hselects⟩ := hfinds.selects hmem
        rw [World.step_db_none hcall]
        exact ⟨job, hjob, due_of_selects hselects⟩
  nodup := by
    intro w hw
    rcases World.step_worker kind σ a w with hsame | ⟨at', step, rfl, hmove⟩
    · rw [hsame]
      exact h.nodup w hw
    · rcases hmove.todo with ⟨-, hsub⟩ | ⟨-, hcurrent, hfinds⟩
      · exact (h.nodup w hw).sublist hsub
      · rw [hcurrent]
        exact hfinds.nodup

/-! ## Main result -/

/-- A call for a listed job is on time. -/
theorem ListsDue.on_time (h : ListsDue kind now σ) (hclock : now ≤ a.now) {w : W} {id : String}
    (hw : kind w = .retry) (hstarts : World.startsCall kind w id σ a = true) :
    ∃ job t, σ.db.job id = some job ∧ job.state = .waitingRetry ∧ job.nextRetryAt = some t ∧
      t ≤ a.now := by
  obtain ⟨at', ids, operation, rfl, hready, hcheck⟩ := World.startsCall_eq_true hstarts
  have hmem : id ∈ (σ.workers w).todo := by
    rw [hready]
    exact List.mem_cons_self
  obtain ⟨job, hjob, hdue⟩ := h.due w hw id hmem
  obtain ⟨job', hjob', hstate⟩ := WorkerKind.job_of_check hcheck
  cases hjob.symm.trans hjob'
  rw [hw] at hstate
  rcases hdue with hdone | ⟨hwaiting, t, ht, hle⟩
  · cases hdone.symm.trans (Option.some.inj hstate)
  · exact ⟨job, t, hjob, hwaiting, ht, hle.trans hclock⟩

theorem on_time_of_listsDue :
    ∀ (actions : List (Action W)) (σ : World W) (now : Timestamp), ListsDue kind now σ →
      (∀ a ∈ actions, now ≤ a.now) → actions.Pairwise (fun a b => a.now ≤ b.now) →
      (∀ p ∈ Runs.history (World.step kind) σ actions, ¬ Reschedules kind p.1 p.2) →
      ∀ p ∈ Runs.history (World.step kind) σ actions, ∀ w id, kind w = .retry →
        World.startsCall kind w id p.1 p.2 = true →
        ∃ job t, p.1.db.job id = some job ∧ job.state = .waitingRetry ∧ job.nextRetryAt = some t ∧
          t ≤ p.2.now
  | [], _, _, _, _, _, _, _, hp => absurd hp List.not_mem_nil
  | a :: actions, σ, now, hdue, hclock, hordered, hnone, p, hp => by
    have hnow := hclock a List.mem_cons_self
    have hstep := hdue.step hnow (hnone (σ, a) List.mem_cons_self)
    obtain ⟨hlater, hordered⟩ := List.pairwise_cons.mp hordered
    intro w id hw hstarts
    rcases List.mem_cons.mp hp with rfl | hp
    · exact hdue.on_time hnow hw hstarts
    · exact on_time_of_listsDue actions _ a.now hstep hlater hordered
        (fun q hq => hnone q (List.mem_cons_of_mem _ hq)) p hp w id hw hstarts

/-- **Without a rescheduling of a listed job every retry waits for its time.** -/
theorem retries_on_time (kind : W → WorkerKind) (actions : List (Action W))
    (hclock : actions.Pairwise (fun a b => a.now ≤ b.now))
    (hnone : ∀ p ∈ World.history kind actions, ¬ Reschedules kind p.1 p.2) :
    RetriesOnTime kind actions := by
  cases actions with
  | nil => exact fun p hp => absurd hp List.not_mem_nil
  | cons a actions =>
    refine on_time_of_listsDue (a :: actions) World.start a.now (listsDue_start kind a.now) ?_
      hclock hnone
    intro b hb
    rcases List.mem_cons.mp hb with rfl | hb
    · exact le_refl _
    · exact (List.pairwise_cons.mp hclock).1 b hb

end

/-- One worker of each kind never calls early. -/
theorem retries_on_time_process :
    RetriesOnTime (fun kind : WorkerKind => kind) [
      .create 0 .sample, .submit 1 "op-1", .work 2 .pending (.find ["op-1"]),
      .work 2 .pending .start, .work 3 .running (.find ["op-1"]), .work 3 .running .start,
      .work 4 .running (.respond .httpError),
      .work 4 .running (.writeBack ⟨0, by decide, by decide⟩),
      .work 5 .retry (.find ["op-1"]), .work 6 .retry .start] :=
  retries_on_time _ _ (by decide)
    (fun p _ => not_reschedules (fun _ _ hw hw' => hw'.trans hw.symm) p.1 p.2)

/-- Two retry workers list the same due job; the first fails it at 8. -/
def listedTwice : List (Action (WorkerKind × Bool)) := [
  .create 0 .sample, .submit 1 "op-1", .work 2 (.pending, true) (.find ["op-1"]),
  .work 2 (.pending, true) .start, .work 3 (.running, true) (.find ["op-1"]),
  .work 3 (.running, true) .start, .work 4 (.running, true) (.respond .httpError),
  .work 4 (.running, true) (.writeBack ⟨0, by decide, by decide⟩),
  .work 5 (.retry, true) (.find ["op-1"]), .work 5 (.retry, false) (.find ["op-1"]),
  .work 6 (.retry, true) .start, .work 7 (.retry, true) (.respond .httpError),
  .work 8 (.retry, true) (.writeBack ⟨1, by decide, by decide⟩)]

/-- The second then calls the provider at 9, for a job that waits until 2000008. -/
theorem retry_called_early :
    ((World.after Prod.fst listedTwice).db.job "op-1").bind (·.nextRetryAt) = some 2000008 ∧
    World.startsCall Prod.fst (.retry, false) "op-1" (World.after Prod.fst listedTwice)
      (.work 9 (.retry, false) .start) = true ∧
    ¬ RetriesOnTime Prod.fst (listedTwice ++ [.work 9 (.retry, false) .start]) := by
  have hretry : ((World.after Prod.fst listedTwice).db.job "op-1").bind (·.nextRetryAt) =
      some 2000008 := by decide +kernel
  have hstarts : World.startsCall Prod.fst (.retry, false) "op-1"
      (World.after Prod.fst listedTwice) (.work 9 (.retry, false) .start) = true := by
    decide +kernel
  refine ⟨hretry, hstarts, ?_⟩
  intro h
  obtain ⟨job, t, hjob, -, ht, hle⟩ := h (World.after Prod.fst listedTwice, _)
    (Runs.mem_history.mpr ⟨listedTwice, [], rfl, rfl⟩) (.retry, false) "op-1" rfl hstarts
  rw [hjob, Option.bind_some, ht] at hretry
  cases hretry
  exact absurd hle (by decide)

end PaymentService
