import PaymentService.RetryMetadata
import PaymentService.Workers
import Mathlib.Data.Set.Card

/-!
# Calls and recorded attempts

Every attempt a job counts was made: somebody called the provider for it, and no call is counted
twice, however the workers overlap, wherever they are lost and whatever else writes to the job.

* `World.busy` — the workers between check and write-back of an operation.
* `WorkerMove.records` — a recorded failure ends a call of the worker that reports it.
* `attempts_paid_for` — **the attempts of a job and the calls under way for it are at most the
  calls that were started**.
-/

namespace PaymentService

/-- A failure is recorded by the worker that has it, and that worker is done with it. -/
theorem WorkerMove.records [HttpClient] {kind : WorkerKind} {now : Timestamp} {db : Db}
    {state state' : WorkerState} {step : WorkerStep} {c : Call} {id : String}
    (h : WorkerMove kind now db state step (some c) state')
    (hrecords : recordsFailure id db c = true) :
    state.current = some id ∧ state'.current = none := by
  obtain ⟨rfl, -, f, -, hf, -⟩ := recordsFailure_iff.mp hrecords
  generalize hc : some c = call at h
  cases h with
  | find | skip | call | respond | drop | crash | stay => cases hc
  | claim | complete =>
    cases hc
    cases hf
  | fail hid =>
    cases hc
    exact ⟨congrArg some hid.symm, rfl⟩

/-- A worker gets an operation in hand by starting a call for it. -/
theorem WorkerMove.starts [HttpClient] {kind : WorkerKind} {now : Timestamp} {db : Db}
    {state state' : WorkerState} {step : WorkerStep} {c : Option Call} {id : String}
    (h : WorkerMove kind now db state step c state') (hafter : state'.current = some id)
    (hbefore : state.current ≠ some id) : state.called = none ∧ state'.called = some id := by
  cases h with
  | find | claim | skip | complete | fail | drop | crash => cases hafter
  | call =>
    cases hafter
    exact ⟨rfl, rfl⟩
  | respond | stay => exact absurd hafter hbefore

section

variable {W : Type}

/-- The workers between check and write-back of this operation. -/
def World.busy (σ : World W) (id : String) : Set W :=
  Set.preimage (fun w => (σ.workers w).current) {some id}

theorem World.mem_busy {σ : World W} {id : String} {w : W} :
    w ∈ σ.busy id ↔ (σ.workers w).current = some id := Iff.rfl

variable [HttpClient] [DecidableEq W] (kind : W → WorkerKind)

/-- The step starts a call of the provider for this operation. -/
def World.starts (id : String) (σ : World W) : Action W → Bool
  | .work now w step => World.startsCall kind w id σ (.work now w step)
  | .create _ _ | .submit _ _ | .receive _ _ => false

/-- Only the worker that takes the step can come or go. -/
theorem World.busy_step (σ : World W) (id : String) (now : Timestamp) (w : W) (step : WorkerStep) :
    (σ.step kind (.work now w step)).busy id =
      if ((σ.workers w).next (kind w) now σ.db step).current = some id then insert w (σ.busy id)
      else σ.busy id \ {w} := by
  ext w'
  rw [World.mem_busy]
  dsimp only [World.step]
  by_cases hw : w' = w
  · subst hw
    rw [Function.update_self]
    split
    · rename_i h
      exact ⟨fun _ => Set.mem_insert _ _, fun _ => h⟩
    · rename_i h
      exact ⟨fun h' => absurd h' h, fun h' => absurd rfl h'.2⟩
  · rw [Function.update_of_ne hw]
    split
    · exact ⟨fun h => Set.mem_insert_of_mem w h, fun h => (Set.mem_insert_iff.mp h).resolve_left hw⟩
    · exact ⟨fun h => ⟨h, hw⟩, fun h => h.1⟩

omit [HttpClient] in
/-- An action that is no worker's leaves the count of attempts. -/
theorem attempts_of_failure_none (id : String) (db : Db) {c : Call} (hc : c.failure = none) :
    (db.next c).attempts id = db.attempts id := by
  have hrecords : recordsFailure id db c = false := by
    refine Bool.eq_false_iff.mpr fun h => ?_
    obtain ⟨-, -, f, -, hf, -⟩ := recordsFailure_iff.mp h
    cases hc.symm.trans hf
  rw [attempts_next, hrecords]
  rfl

/-- **A step adds to attempts and calls under way only by starting a call.** -/
theorem World.spent_step {σ : World W} {id : String} (hfinite : (σ.busy id).Finite)
    (a : Action W) :
    (σ.step kind a).db.attempts id + ((σ.step kind a).busy id).ncard ≤
      σ.db.attempts id + (σ.busy id).ncard + (World.starts kind id σ a).toNat := by
  cases a with
  | create now request =>
    have hdb := attempts_of_failure_none id σ.db (c := .create now request) rfl
    exact (congrArg (· + (σ.busy id).ncard) hdb).le
  | submit now id' =>
    have hdb := attempts_of_failure_none id σ.db (c := .submit now id') rfl
    exact (congrArg (· + (σ.busy id).ncard) hdb).le
  | receive now receipt =>
    have hdb := attempts_of_failure_none id σ.db (c := .processReceipt now receipt) rfl
    exact (congrArg (· + (σ.busy id).ncard) hdb).le
  | work now w step =>
    have hmove := workerMove (kind w) now σ.db (σ.workers w) step
    have hbusy := World.busy_step kind σ id now w step
    -- what the tables count
    have hattempts : (σ.step kind (.work now w step)).db.attempts id = σ.db.attempts id ∨
        (σ.step kind (.work now w step)).db.attempts id = σ.db.attempts id + 1 ∧
          (σ.workers w).current = some id ∧
          ((σ.workers w).next (kind w) now σ.db step).current = none := by
      cases hcall : (σ.workers w).call (kind w) now step with
      | none =>
        have hdb : (σ.step kind (.work now w step)).db = σ.db := World.step_db_none hcall
        exact .inl (congrArg (·.attempts id) hdb)
      | some c =>
        rw [hcall] at hmove
        have hdb : (σ.step kind (.work now w step)).db = σ.db.next c := World.step_db_some hcall
        rw [hdb, attempts_next]
        cases hrecords : recordsFailure id σ.db c with
        | false => exact .inl rfl
        | true => exact .inr ⟨rfl, hmove.records hrecords⟩
    rw [hbusy]
    by_cases hafter : ((σ.workers w).next (kind w) now σ.db step).current = some id
    · -- the worker has the operation in hand after the step
      rw [if_pos hafter]
      have hsame : (σ.step kind (.work now w step)).db.attempts id = σ.db.attempts id := by
        rcases hattempts with hsame | ⟨-, -, hnone⟩
        · exact hsame
        · cases hnone.symm.trans hafter
      rw [hsame]
      by_cases hbefore : (σ.workers w).current = some id
      · rw [Set.insert_eq_of_mem (World.mem_busy.mpr hbefore)]
        omega
      · have hstarts : World.starts kind id σ (.work now w step) = true := by
          obtain ⟨hcalled, hcalled'⟩ := hmove.starts hafter hbefore
          refine decide_eq_true ⟨hcalled, ?_⟩
          dsimp only [World.step]
          rw [Function.update_self]
          exact hcalled'
        have hinsert := Set.ncard_insert_le w (σ.busy id)
        rw [hstarts, Bool.toNat_true]
        omega
    · -- it has not
      rw [if_neg hafter]
      rcases hattempts with hsame | ⟨hmore, hbefore, -⟩
      · have hle : (σ.busy id \ {w}).ncard ≤ (σ.busy id).ncard :=
          Set.ncard_le_ncard Set.sdiff_subset hfinite
        omega
      · have hless := Set.ncard_sdiff_singleton_add_one (World.mem_busy.mpr hbefore) hfinite
        omega

theorem World.finite_step {σ : World W} {id : String} (hfinite : (σ.busy id).Finite)
    (a : Action W) : ((σ.step kind a).busy id).Finite := by
  cases a with
  | create | submit | receive => exact hfinite
  | work now w step =>
    rw [World.busy_step]
    split
    · exact hfinite.insert w
    · exact hfinite.subset Set.sdiff_subset

/-- **Every counted attempt was made**: the attempts of a job, and the calls under way for it, are
at most the calls that were started for its operation. -/
theorem attempts_paid_for (actions : List (Action W)) (id : String) :
    (World.after kind actions).db.attempts id + ((World.after kind actions).busy id).ncard ≤
      (World.history kind actions).countP (fun p => World.starts kind id p.1 p.2) := by
  have hempty : (World.start : World W).busy id = ∅ := by
    ext w
    exact ⟨fun h => (by cases h), fun h => (by cases h)⟩
  have hrun := @Runs.run_budget _ _ (World.step kind) (fun σ => (σ.busy id).Finite)
    (fun σ => σ.db.attempts id + (σ.busy id).ncard) (World.starts kind id)
    (fun _ a h => World.finite_step kind h a) (fun _ a h => World.spent_step kind h a) actions
    World.start (hempty ▸ Set.finite_empty)
  have hstart : (World.start : World W).db.attempts id + ((World.start : World W).busy id).ncard =
      0 := by
    rw [hempty, Set.ncard_empty]
    rfl
  rw [hstart, Nat.zero_add] at hrun
  exact hrun

end

end PaymentService
