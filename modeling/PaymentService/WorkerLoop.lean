import PaymentService.Lib.Traced
import PaymentService.Workers

/-!
# The loops of the workers

`run` and `_process_*_jobs` of the three workers, with the exceptions the database and the
processing of a job may raise.

* `PolledJob`, `PollPass` — a pass of a worker: how its session, its query and each listed job end.
  The passes of a run are those that begin before `stop()`.
* `WorkerKind.run` — the loop; its trace is the passes it begins and the jobs it attempts.
* `Survives` — every pass begins, and every listed job is attempted, once and in order.
* `poll_completes_iff` — the passes a worker gets through, by the place of its `try`.
* `survives_iff` — **the pending worker survives all but an exception before the end of its list,
  the other two only exceptions of jobs**.
* `claims_of_pass` — the claims of the pending worker in `World` are the attempts of the loop.
-/

namespace PaymentService

section Loop

variable {E : Type}

/-- A listed job, and how `_claim_job` or `_process_job` ends for it. -/
structure PolledJob (E : Type) where
  operationId : String
  outcome : Except E Unit

/-- What a pass meets with: entering the session, the query, and leaving the session. -/
structure PollPass (E : Type) where
  enter : Except E Unit
  listing : Except E (List (PolledJob E))
  exit : Except E Unit

inductive LoopStep where
  /-- `_process_*_jobs` is called. -/
  | poll
  /-- `_claim_job` or `_process_job` is. -/
  | attempt (operationId : String)
  deriving DecidableEq, Repr

abbrev Loop (E : Type) := Traced E LoopStep

def PolledJob.process (job : PolledJob E) : Loop E Unit := do
  Traced.emit (.attempt job.operationId)
  Traced.ofExcept job.outcome

/-- `async with self._session_factory() as session`, around the query. -/
def PollPass.find (pass : PollPass E) : Loop E (List (PolledJob E)) := do
  Traced.ofExcept pass.enter
  try Traced.ofExcept pass.listing
  finally Traced.ofExcept pass.exit

/-! ## The three loops -/

/-- `PendingWorker._process_pending_jobs`. -/
def processPendingJobs (pass : PollPass E) : Loop E Unit := do
  let jobs ← pass.find
  jobs.forM PolledJob.process

/-- `_process_running_jobs` and `_process_retry_jobs`. -/
def processEachJob (pass : PollPass E) : Loop E Unit := do
  let jobs ← pass.find
  jobs.forM fun job =>
    try job.process
    catch _ => pure ()

/-- `RunningWorker._process_running_jobs`. -/
def processRunningJobs : PollPass E → Loop E Unit := processEachJob

/-- `RetryWorker._process_retry_jobs`. -/
def processRetryJobs : PollPass E → Loop E Unit := processEachJob

/-- The body of the `while`, up to the wait; `asyncio.TimeoutError` does not leave that. -/
def WorkerKind.poll (kind : WorkerKind) (pass : PollPass E) : Loop E Unit := do
  Traced.emit .poll
  match kind with
  | .pending =>
    try processPendingJobs pass
    catch _ => pure ()
  | .running => processRunningJobs pass
  | .retry => processRetryJobs pass

/-- `run`. -/
def WorkerKind.run (kind : WorkerKind) (passes : List (PollPass E)) : Loop E Unit :=
  match kind with
  | .pending => passes.forM kind.poll
  | .running | .retry =>
    try passes.forM kind.poll
    finally pure ()

theorem WorkerKind.run_eq (kind : WorkerKind) (passes : List (PollPass E)) :
    kind.run passes = passes.forM kind.poll := by
  cases kind with
  | pending => rfl
  | running | retry => exact Traced.finally_pure _

/-! ## What the loops are meant to do -/

/-- What the query lists, if it is reached and succeeds. -/
def PollPass.listed (pass : PollPass E) : List (PolledJob E) :=
  match pass.enter, pass.listing with
  | .ok (), .ok jobs => jobs
  | _, _ => []

/-- The pass is begun, and every listed job attempted. -/
def PollPass.plan (pass : PollPass E) : List LoopStep :=
  .poll :: pass.listed.map fun job => .attempt job.operationId

/-- Every pass is begun, every listed job is attempted, and nothing ends the loop but `stop()`. -/
structure Survives (kind : WorkerKind) (passes : List (PollPass E)) : Prop where
  trace : (kind.run passes).trace = passes.flatMap PollPass.plan
  result : (kind.run passes).result = .ok ()

/-- The pending worker has its `try` around the pass and none around a job, the other two have one
around each job and none around the pass. -/
def WorkerKind.Tolerates (kind : WorkerKind) (pass : PollPass E) : Prop :=
  match kind with
  | .pending => (pass.exit = .ok () ∨ pass.listed = []) ∧
    ∀ job ∈ pass.listed.dropLast, job.outcome = .ok ()
  | .running | .retry => pass.enter = .ok () ∧ pass.listing.isOk ∧ pass.exit = .ok ()

/-! ## One pass -/

/-- The query's result reaches the loop over it if nothing of the session raises. -/
theorem PollPass.find_cases (pass : PollPass E) :
    (pass.enter = .ok () ∧ pass.exit = .ok () ∧ pass.listing = .ok pass.listed ∧
      pass.find = ⟨[], .ok pass.listed⟩) ∨
    (¬ (pass.enter = .ok () ∧ pass.listing.isOk ∧ pass.exit = .ok ()) ∧
      (pass.exit = .ok () → pass.listed = []) ∧ ∃ e, pass.find = ⟨[], .error e⟩) := by
  obtain ⟨enter, listing, exit⟩ := pass
  cases enter with
  | error e => exact .inr ⟨by simp, fun _ => rfl, e, rfl⟩
  | ok =>
    cases listing with
    | error e =>
      cases exit with
      | ok => exact .inr ⟨by simp [Except.isOk, Except.toBool], fun _ => rfl, e, rfl⟩
      | error e' => exact .inr ⟨by simp, fun _ => rfl, e', rfl⟩
    | ok jobs =>
      cases exit with
      | ok => exact .inl ⟨rfl, rfl, rfl, rfl⟩
      | error e => exact .inr ⟨by simp, by simp, e, rfl⟩

@[simp] theorem PolledJob.process_eq (job : PolledJob E) :
    job.process = ⟨[.attempt job.operationId], job.outcome⟩ := rfl

/-- A pass of the pending worker ends normally. -/
theorem poll_pending (pass : PollPass E) :
    WorkerKind.pending.poll pass = ⟨.poll :: (processPendingJobs pass).trace, .ok ()⟩ := by
  show (Traced.emit .poll >>= fun _ => tryCatch (processPendingJobs pass) fun _ => pure ()) = _
  rw [Traced.emit_bind, Traced.suppress_eq]

/-- The other two differ in nothing. -/
theorem poll_of_ne {kind : WorkerKind} (h : kind ≠ .pending) (pass : PollPass E) :
    kind.poll pass = ⟨.poll :: (processEachJob pass).trace, (processEachJob pass).result⟩ := by
  cases kind with
  | pending => exact absurd rfl h
  | running | retry => rfl

/-- With a `try` around each of them all jobs are attempted. -/
theorem forM_process_caught (jobs : List (PolledJob E)) :
    (jobs.forM fun job => (tryCatch job.process fun _ => pure () : Loop E Unit)) =
      ⟨jobs.map fun job => .attempt job.operationId, .ok ()⟩ := by
  simp only [Traced.suppress_eq, PolledJob.process_eq]
  rw [Traced.forM_of_ok fun _ _ => rfl, List.map_eq_flatMap]

/-- Without one, an exception leaves out the jobs after it. -/
theorem forM_process_iff (jobs : List (PolledJob E)) :
    (jobs.forM PolledJob.process : Loop E Unit).trace =
        (jobs.map fun job => .attempt job.operationId) ↔
      ∀ job ∈ jobs.dropLast, job.outcome = .ok () := by
  rw [List.map_eq_flatMap]
  exact Traced.forM_trace_iff fun _ _ => List.cons_ne_nil _ _

/-- **The passes a worker gets through.** -/
theorem poll_completes_iff (kind : WorkerKind) (pass : PollPass E) :
    kind.poll pass = ⟨pass.plan, .ok ()⟩ ↔ kind.Tolerates pass := by
  by_cases hkind : kind = .pending
  · subst hkind
    rw [poll_pending, Traced.mk.injEq, PollPass.plan, List.cons.injEq]
    unfold processPendingJobs WorkerKind.Tolerates
    rcases pass.find_cases with ⟨-, hexit, -, hfind⟩ | ⟨-, hlisted, e, hfind⟩
    · rw [hfind, Traced.bind_of_ok rfl, List.nil_append, forM_process_iff]
      simp [hexit]
    · -- the loop over the jobs is not reached, so there must be none
      rw [hfind, Traced.bind_of_error rfl]
      have hnone : pass.exit = .ok () ∨ pass.listed = [] ↔ pass.listed = [] :=
        ⟨fun h => h.elim hlisted id, .inr⟩
      rw [hnone]
      constructor
      · rintro ⟨⟨-, hmap⟩, -⟩
        have hempty := List.map_eq_nil_iff.mp hmap.symm
        exact ⟨hempty, by simp [hempty]⟩
      · rintro ⟨hempty, -⟩
        simp [hempty]
  · rw [poll_of_ne hkind, Traced.mk.injEq, PollPass.plan, List.cons.injEq]
    have htolerates : kind.Tolerates pass ↔
        pass.enter = .ok () ∧ pass.listing.isOk ∧ pass.exit = .ok () := by
      cases kind with
      | pending => exact absurd rfl hkind
      | running | retry => exact Iff.rfl
    rw [htolerates]
    unfold processEachJob
    rcases pass.find_cases with ⟨henter, hexit, hlisting, hfind⟩ | ⟨hraises, -, e, hfind⟩
    · rw [hfind, Traced.bind_of_ok rfl, List.nil_append, forM_process_caught]
      simp [henter, hexit, hlisting, Except.isOk, Except.toBool]
    · rw [hfind, Traced.bind_of_error rfl]
      exact iff_of_false (fun h => by cases h.2) hraises

/-- No pass does more than planned. -/
theorem length_poll_le (kind : WorkerKind) (pass : PollPass E) :
    (kind.poll pass).trace.length ≤ pass.plan.length := by
  by_cases hkind : kind = .pending
  · subst hkind
    rw [poll_pending, PollPass.plan, List.length_cons, List.length_cons, Nat.add_le_add_iff_right]
    unfold processPendingJobs
    rcases pass.find_cases with ⟨-, -, -, hfind⟩ | ⟨-, -, e, hfind⟩
    · rw [hfind, Traced.bind_of_ok rfl, List.nil_append, List.map_eq_flatMap]
      exact Traced.length_forM_le fun _ _ => le_refl _
    · rw [hfind, Traced.bind_of_error rfl]
      exact Nat.zero_le _
  · rw [poll_of_ne hkind, PollPass.plan, List.length_cons, List.length_cons,
      Nat.add_le_add_iff_right]
    unfold processEachJob
    rcases pass.find_cases with ⟨-, -, -, hfind⟩ | ⟨-, -, e, hfind⟩
    · rw [hfind, Traced.bind_of_ok rfl, List.nil_append, forM_process_caught]
    · rw [hfind, Traced.bind_of_error rfl]
      exact Nat.zero_le _

/-! ## The passes of `World` -/

/-- The jobs of a pass of the pending worker, claimed one after the other. -/
def claimedJobs (now : Timestamp) : Db → List String → List (PolledJob Error)
  | _, [] => []
  | db, id :: ids =>
    ⟨id, ((Call.claimSendJob now id).exec db).1.map fun _ => ()⟩ ::
      claimedJobs now (db.next (.claimSendJob now id)) ids

/-- The transaction of an attempt of the pending worker. -/
def LoopStep.claim (now : Timestamp) : LoopStep → Option Call
  | .poll => none
  | .attempt id => some (.claimSendJob now id)

/-- With an empty list there is nothing to start. -/
theorem trace_start_nil [HttpClient] {W : Type} [DecidableEq W] (kind : W → WorkerKind)
    (now : Timestamp) {w : W} (n : Nat) {σ : World W} (hw : σ.workers w = .ready []) :
    Runs.trace (World.step kind) (fun σ a => a.call kind σ) σ
      (List.replicate n (.work now w .start)) = [] := by
  induction n generalizing σ with
  | zero => rfl
  | succ n ih =>
    have hcall : Action.call kind σ (.work now w .start) = none := by
      simp only [Action.call, hw, WorkerState.call]
    have hnext : (σ.step kind (.work now w .start)).workers w = .ready [] := by
      simp only [World.step, hw, WorkerState.next, Function.update_self]
    rw [List.replicate_succ, Runs.trace, hcall, ih hnext]
    rfl

/-- **The claims of a pass are the attempts of the loop**, also when one of them raises. -/
theorem claims_of_pass [HttpClient] {W : Type} [DecidableEq W] (kind : W → WorkerKind)
    {σ : World W} {w : W} (hkind : kind w = .pending) {ids : List String}
    (hw : σ.workers w = .ready ids) (now : Timestamp) :
    Runs.trace (World.step kind) (fun σ a => a.call kind σ) σ
        (List.replicate ids.length (.work now w .start)) =
      ((claimedJobs now σ.db ids).forM PolledJob.process).trace.filterMap (LoopStep.claim now) := by
  induction ids generalizing σ with
  | nil => rfl
  | cons id ids ih =>
    have hcall : Action.call kind σ (.work now w .start) = some (.claimSendJob now id) := by
      simp only [Action.call, hw, WorkerState.call, hkind]
    have hdb : (σ.step kind (.work now w .start)).db = σ.db.next (.claimSendJob now id) :=
      World.step_db_some hcall
    rw [List.length_cons, List.replicate_succ, Runs.trace, hcall, claimedJobs]
    show _ = List.filterMap _ (PolledJob.process _ >>= fun _ => List.forM _ _).trace
    cases hexec : ((Call.claimSendJob now id).exec σ.db).1 with
    | ok out =>
      have hnext : (σ.step kind (.work now w .start)).workers w = .ready ids := by
        simp only [World.step, hw, WorkerState.next, hkind, hexec, Function.update_self]
      rw [ih hnext, hdb, Traced.bind_of_ok rfl]
      rfl
    | error e =>
      have hnext : (σ.step kind (.work now w .start)).workers w = .ready [] := by
        simp only [World.step, hw, WorkerState.next, hkind, hexec, Function.update_self]
      rw [trace_start_nil kind now ids.length hnext, Traced.bind_of_error rfl]
      rfl

/-! ## Main result -/

/-- **The pending worker survives all but an exception before the end of its list, the other two
only exceptions of jobs.** -/
theorem survives_iff (kind : WorkerKind) (passes : List (PollPass E)) :
    Survives kind passes ↔ ∀ pass ∈ passes, kind.Tolerates pass := by
  have hcompletes := @Traced.forM_completes_iff _ _ _ passes kind.poll PollPass.plan
    fun pass _ => length_poll_le kind pass
  simp only [poll_completes_iff] at hcompletes
  rw [← hcompletes, ← kind.run_eq]
  constructor
  · rintro ⟨htrace, hresult⟩
    rw [← htrace, ← hresult]
  · intro h
    exact ⟨by rw [h], by rw [h]⟩

/-- A claim that raises costs the pending worker the rest of its list; a query that raises ends the
other two for good. -/
theorem workers_do_not_survive :
    let pass : PollPass String := ⟨.ok (), .ok [⟨"op-1", .error "deadlock detected"⟩,
      ⟨"op-2", .ok ()⟩], .ok ()⟩
    let lost : PollPass String := ⟨.ok (), .error "connection is closed", .ok ()⟩
    WorkerKind.pending.run [pass] = ⟨[.poll, .attempt "op-1"], .ok ()⟩ ∧
    WorkerKind.running.run [lost, pass] = ⟨[.poll], .error "connection is closed"⟩ ∧
    WorkerKind.retry.run [lost, pass] = ⟨[.poll], .error "connection is closed"⟩ ∧
    ¬ Survives .pending [pass] ∧ ¬ Survives .running [lost, pass] ∧
    ¬ Survives .retry [lost, pass] := by
  intro pass lost
  have hends : (.error "connection is closed" : Except String Unit) ≠ .ok () :=
    fun h => by cases h
  refine ⟨rfl, rfl, rfl, ?_, ?_, ?_⟩
  · exact fun h => absurd h.trace (by decide)
  · exact fun h => hends h.result
  · exact fun h => hends h.result

/-- What they survive. -/
example :
    let failed : PollPass String := ⟨.ok (), .ok [⟨"op-1", .error "deadlock detected"⟩,
      ⟨"op-2", .ok ()⟩], .ok ()⟩
    let lost : PollPass String := ⟨.ok (), .error "connection is closed", .ok ()⟩
    WorkerKind.pending.run [lost, lost] = ⟨[.poll, .poll], .ok ()⟩ ∧
    WorkerKind.running.run [failed] = ⟨[.poll, .attempt "op-1", .attempt "op-2"], .ok ()⟩ :=
  ⟨rfl, rfl⟩

end Loop

end PaymentService
