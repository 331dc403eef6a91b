import PaymentService.Reachable
import Mathlib.Logic.Relation

/-!
# The lifecycle of a payment

What the service is for, without tables: a payment is registered, its delivery is queued and
attempted until the provider accepts it, and a receipt settles it.

* `Stage`, `Stage.Next` — the stages of one payment and the moves between them.
* `Rows.At` — the stage the stored rows of an operation stand for.
* `lifecycle_refined` — **every run moves every operation along `Next`**: the tables refine the
  lifecycle.  `stage_of_reachable`: every stored operation is at a stage.
* `status_job_consistent` — status, job and payment id agree in every reachable state.
-/

namespace PaymentService

open Relation

/-! ## Stages -/

inductive Stage where
  | registered
  | queued
  | sending
  | retrying
  | accepted
  | settled (result : ReceiptResult)
  deriving DecidableEq, Repr

namespace Stage

def status : Stage → OperationStatus
  | .registered => .created
  | .queued | .sending | .retrying | .accepted => .processing
  | .settled result => result.status

def jobState : Stage → Option SendJobState
  | .registered => none
  | .queued => some .pending
  | .sending => some .running
  | .retrying => some .waitingRetry
  | .accepted | .settled _ => some .done

/-- The moves of a payment. -/
inductive Next : Stage → Stage → Prop
  | submit : Next .registered .queued
  | claim : Next .queued .sending
  | fail : Next .sending .retrying
  | accept {s : Stage} (h : s = .sending ∨ s = .retrying) : Next s .accepted
  | settle {s : Stage} (h : s.status = .processing) (result : ReceiptResult) :
      Next s (.settled result)

theorem eq_registered {s : Stage} (h : s.status = .created) : s = .registered := by
  cases s <;> simp_all [status]

theorem eq_queued {s : Stage} (h : s.jobState = some .pending) : s = .queued := by
  cases s <;> simp_all [jobState]

theorem eq_sending {s : Stage} (h : s.jobState = some .running) : s = .sending := by
  cases s <;> simp_all [jobState]

theorem eq_retrying {s : Stage} (h : s.jobState = some .waitingRetry) : s = .retrying := by
  cases s <;> simp_all [jobState]

theorem eq_settled {s : Stage} {result : ReceiptResult} (h : s.status = result.status) :
    s = .settled result := by
  cases s with
  | settled result' => exact congrArg settled (ReceiptResult.status_injective h)
  | registered => exact absurd h.symm (ReceiptResult.status_ne_created result)
  | queued | sending | retrying | accepted =>
    exact absurd h.symm (ReceiptResult.status_ne_processing result)

/-- A payment being processed has a delivery job. -/
theorem jobState_of_processing {s : Stage} (h : s.status = .processing) :
    ∃ state, s.jobState = some state := by
  cases s <;> simp_all [status, jobState]

/-- A settled payment stays settled. -/
theorem not_next_settled {result : ReceiptResult} {s : Stage} : ¬ Next (.settled result) s := by
  intro h
  generalize hs : Stage.settled result = t at h
  cases h with
  | submit | claim | fail => cases hs
  | accept h =>
    subst hs
    simp at h
  | settle h =>
    subst hs
    exact ReceiptResult.status_ne_processing result h

theorem settled_of_reflTransGen {result : ReceiptResult} {s : Stage}
    (h : ReflTransGen Next (.settled result) s) : s = .settled result := by
  rcases ReflTransGen.cases_head h with h | ⟨t, ht, -⟩
  · exact h.symm
  · exact absurd ht not_next_settled

end Stage

/-! ## The rows of a stage -/

/-- The rows stand for this stage. -/
structure Rows.At (rows : Rows) (s : Stage) : Prop where
  status : rows.operation.status = s.status
  job : rows.sendJob.map (·.state) = s.jobState
  paid : s.jobState = some .done → rows.operation.providerPaymentId.isSome

theorem Rows.At.job_state {rows : Rows} {s : Stage} (h : rows.At s) {job : SendJob}
    (hjob : rows.sendJob = some job) : s.jobState = some job.state := by
  rw [← h.job, hjob, Option.map_some]

theorem created_at (now : Timestamp) (request : CreateOperationRequest) :
    (Rows.created now request).At .registered :=
  ⟨rfl, rfl, fun h => by cases h⟩

/-- **One change is at most one move of the payment.** -/
theorem Change.next {db : Db} {c : Call} {rows rows' : Rows} {out : Outcome}
    (h : Change db c (some rows) out rows') {s : Stage} (hs : rows.At s) :
    ∃ s', rows'.At s' ∧ ReflGen Stage.Next s s' := by
  cases h with
  | submitted now id hstatus hjob =>
    cases Stage.eq_registered (hs.status.symm.trans hstatus)
    exact ⟨.queued, ⟨rfl, rfl, fun h => by cases h⟩, .single .submit⟩
  | claimed now id hjob hstate =>
    have hs' := hs.job_state hjob
    rw [hstate] at hs'
    cases Stage.eq_queued hs'
    refine ⟨.sending, ⟨hs.status, ?_, fun h => by cases h⟩, .single .claim⟩
    simp [Rows.claimed, hjob, Stage.jobState]
  | @completed now id p _ job hjob hstate hp =>
    have hs' := hs.job_state hjob
    have hsending : s = .sending ∨ s = .retrying := by
      rcases hstate with hstate | hstate
      · exact .inl (Stage.eq_sending (hstate ▸ hs'))
      · exact .inr (Stage.eq_retrying (hstate ▸ hs'))
    have hstatus : rows.operation.status = .processing := by
      rw [hs.status]
      rcases hsending with rfl | rfl <;> rfl
    refine ⟨.accepted, ⟨?_, ?_, fun _ => ?_⟩, .single (.accept hsending)⟩
    · simpa [Rows.completed, Stage.status] using hstatus
    · simp [Rows.completed, hjob, Stage.jobState]
    · simp [Rows.completed]
  | @failed _ f hfailure _ job retryAt hjob hstate hretry herror =>
    have hs' := hs.job_state hjob
    rw [hstate] at hs'
    have hjob' : (rows.failed f.now retryAt f.error).sendJob.map (·.state) =
        some .waitingRetry := by simp [Rows.failed, hjob]
    rcases Call.failure_expected hfailure with hexpected | hexpected
    · rw [hexpected] at hs'
      cases Stage.eq_sending hs'
      exact ⟨.retrying, ⟨hs.status, hjob', fun h => by cases h⟩, .single .fail⟩
    · rw [hexpected] at hs'
      cases Stage.eq_retrying hs'
      exact ⟨.retrying, ⟨hs.status, hjob', fun h => by cases h⟩, .refl⟩
  | finalized now receipt hstatus hp hmessage =>
    have hprocessing := hs.status.symm.trans hstatus
    obtain ⟨state, hstate⟩ := Stage.jobState_of_processing hprocessing
    refine ⟨.settled receipt.result, ⟨rfl, ?_, fun _ => rfl⟩, .single (.settle hprocessing _)⟩
    have hjob := hs.job.trans hstate
    obtain ⟨job, hjob, -⟩ := Option.map_eq_some_iff.mp hjob
    simp [Rows.finalized, hjob, Stage.jobState]
  | ignored now receipt hstatus hresult hp =>
    exact ⟨s, ⟨hs.status, hs.job, fun _ => rfl⟩, .refl⟩
  | duplicate now receipt hresult hp =>
    exact ⟨s, ⟨hs.status, hs.job, fun _ => rfl⟩, .refl⟩

/-- Every stored operation is at a stage. -/
theorem stage_of_reachable (calls : List Call) :
    ∀ id rows, (after calls).lookup id = some rows → ∃ s, rows.At s := by
  refine rows_invariant ?_ calls
  intro db c o out rows hc hold
  cases o with
  | none =>
    cases hc with
    | created now request hamount => exact ⟨.registered, created_at now request⟩
  | some old =>
    obtain ⟨s, hs⟩ := hold old rfl
    obtain ⟨s', hs', -⟩ := hc.next hs
    exact ⟨s', hs'⟩

/-- **Every run moves every operation along the lifecycle.** -/
theorem lifecycle_refined {db : Db} {id : String} {rows : Rows} {s : Stage}
    (hrows : db.lookup id = some rows) (hs : rows.At s) (calls : List Call) :
    ∃ rows' s', (Runs.run Db.next db calls).lookup id = some rows' ∧ rows'.At s' ∧
      ReflTransGen Stage.Next s s' := by
  have h := @rows_preserved (fun rows => ∃ s', rows.At s' ∧ ReflTransGen Stage.Next s s') ?_
    db id rows hrows ⟨s, hs, .refl⟩ calls
  · obtain ⟨rows', hrows', s', hs', hnext⟩ := h
    exact ⟨rows', s', hrows', hs', hnext⟩
  · rintro db c old rows out hc ⟨t, ht, hst⟩
    obtain ⟨t', ht', hnext⟩ := hc.next ht
    exact ⟨t', ht', hst.trans hnext.to_reflTransGen⟩

/-! ## Consistency -/

/-- Status, job and payment id agree. -/
structure Rows.Consistent (rows : Rows) : Prop where
  created_iff : rows.operation.status = .created ↔ rows.sendJob = none
  active : ∀ job ∈ rows.sendJob,
    job.state = .pending ∨ job.state = .running ∨ job.state = .waitingRetry →
      rows.operation.status = .processing
  final : rows.operation.status = .completed ∨ rows.operation.status = .rejected →
    (∃ job ∈ rows.sendJob, job.state = .done) ∧ rows.operation.providerPaymentId.isSome
  done : ∀ job ∈ rows.sendJob, job.state = .done → rows.operation.providerPaymentId.isSome

theorem Rows.At.consistent {rows : Rows} {s : Stage} (h : rows.At s) : rows.Consistent where
  created_iff := by
    rw [h.status]
    have hjob := h.job
    cases s <;> cases hr : rows.sendJob <;> simp_all [Stage.status, Stage.jobState]
  active := by
    intro job hjob hstate
    rw [h.status]
    have hs := h.job_state hjob
    rcases hstate with hstate | hstate | hstate <;> rw [hstate] at hs
    · cases Stage.eq_queued hs; rfl
    · cases Stage.eq_sending hs; rfl
    · cases Stage.eq_retrying hs; rfl
  final := by
    intro hstatus
    rw [h.status] at hstatus
    have hs : s.jobState = some .done := by
      cases s <;> simp_all [Stage.status, Stage.jobState]
    obtain ⟨job, hjob, hstate⟩ := Option.map_eq_some_iff.mp (h.job.trans hs)
    exact ⟨⟨job, hjob, hstate⟩, h.paid hs⟩
  done := by
    intro job hjob hstate
    exact h.paid (hstate ▸ h.job_state hjob)

/-- An operation being processed has a delivery job. -/
theorem job_of_processing {calls : List Call} {id : String} {rows : Rows}
    (hrows : (after calls).lookup id = some rows) (hstatus : rows.operation.status = .processing) :
    ∃ job, rows.sendJob = some job := by
  obtain ⟨s, hs⟩ := stage_of_reachable calls id rows hrows
  cases hjob : rows.sendJob with
  | none => cases hstatus.symm.trans (hs.consistent.created_iff.mpr hjob)
  | some job => exact ⟨job, rfl⟩

/-- **Status, job and payment id agree in every reachable state.** -/
theorem status_job_consistent (calls : List Call) (id : String) (rows : Rows)
    (hrows : (after calls).lookup id = some rows) : rows.Consistent := by
  obtain ⟨s, hs⟩ := stage_of_reachable calls id rows hrows
  exact hs.consistent

theorem status_job_consistent_submitted :
    (Rows.submitted (Rows.created 0 .sample) 5).Consistent :=
  status_job_consistent [.create 0 .sample, .submit 5 "op-1"] "op-1" _ (by decide)

end PaymentService
