import PaymentService.PaymentIds
import PaymentService.Workers

/-!
# Accepted answers

What becomes of a 202 the provider has given: `complete_job`, called by a worker that read the job
before the HTTP call, with receipts and other workers in between.

* `answer_source` — `complete_job` is only called by a worker that holds such an answer.
* `Refuses`, `refuses_iff` — the row or the column refuses the id: the answer cannot be bound.
* `Rows.Answered` — the answer is stored, and nothing else of the operation changes.
* `completeJob_binds`, `completeJob_unbound` — on a claimed job `complete_job` stores the answer or
  raises; its early return is taken by jobs that have the id already.
* `AnswerKept`, `answer_not_dropped` — **so it is in every run of the workers**.
-/

namespace PaymentService

/-! ## Ids in the column -/

/-- A recorded id fits its column. -/
theorem paymentId_length_after (calls : List Call) :
    ∀ id rows, (after calls).lookup id = some rows →
      ∀ p ∈ rows.operation.providerPaymentId, p.length ≤ 128 := by
  refine rows_invariant ?_ calls
  intro db c o out rows hc hold p hp
  rcases hc.providerPaymentId hp with ⟨old, hmem, hsame⟩ | ⟨hlength, -⟩
  · exact hold old hmem p hsame
  · exact hlength

/-- The row has another id, or the column refuses this one. -/
def Refuses (db : Db) (id p : String) (rows : Rows) : Prop :=
  (∃ existing, rows.operation.providerPaymentId = some existing ∧ existing ≠ p) ∨
    TakenElsewhere db id p ∨ 128 < p.length

theorem refuses_iff {calls : List Call} {id p : String} {rows : Rows}
    (hrows : (after calls).lookup id = some rows) :
    Refuses (after calls) id p rows ↔ ¬ Binds (after calls) id p rows := by
  constructor
  · rintro (⟨existing, hexisting, hne⟩ | htaken | hlong) hbinds
    · exact hne (hbinds.eq hexisting)
    · rcases hbinds with hbound | ⟨-, hcolumn⟩
      · obtain ⟨id', rows', hne, hrows', hp⟩ := htaken
        exact hne (uniqueIds_after calls _ _ _ _ _ hrows' hrows hp hbound)
      · exact (paymentIdColumn_ok.mp hcolumn).2 htaken
    · rcases hbinds with hbound | ⟨-, hcolumn⟩
      · have := paymentId_length_after calls id rows hrows p hbound
        omega
      · have := (paymentIdColumn_ok.mp hcolumn).1
        omega
  · intro hbinds
    by_contra hnone
    rw [Refuses, ← or_assoc, not_or] at hnone
    exact hbinds (binds_of_no_conflict hnone.1 (not_lt.mp hnone.2))

/-! ## `complete_job` on a claimed job -/

/-- The job is DONE under this payment id; status and events are as before. -/
structure Rows.Answered (rows rows' : Rows) (p : String) : Prop where
  done : ∃ job, rows'.sendJob = some job ∧ job.state = .done
  providerPaymentId : rows'.operation.providerPaymentId = some p
  status : rows'.operation.status = rows.operation.status
  events : rows'.events = rows.events

section

variable {calls : List Call} {id p : String} {rows : Rows} {job : SendJob}
  (hrows : (after calls).lookup id = some rows) (hjob : rows.sendJob = some job)
  (hclaimed : job.state ≠ .pending)

include hrows hjob hclaimed

/-- **On a claimed job an answer that can be bound is stored.** -/
theorem completeJob_binds (hbinds : Binds (after calls) id p rows) (now : Timestamp) :
    ((Call.completeJob now id p).exec (after calls)).1.isOk ∧
      ∃ rows', ((after calls).next (.completeJob now id p)).lookup id = some rows' ∧
        rows.Answered rows' p := by
  unfold Db.next
  by_cases hdone : job.state = .done
  · -- the early return: the id is the recorded one
    obtain ⟨s, hs⟩ := stage_of_reachable calls id rows hrows
    have hpaid := hs.consistent.done job hjob hdone
    obtain ⟨existing, hexisting⟩ := Option.isSome_iff_exists.mp hpaid
    have hp : rows.operation.providerPaymentId = some p :=
      hexisting.trans (congrArg some (hbinds.eq hexisting))
    rw [completeJob_done hrows hp hjob hdone now]
    exact ⟨rfl, rows, hrows, ⟨job, hjob, hdone⟩, hp, rfl, rfl⟩
  · have hc : Change (after calls) (.completeJob now id p) (some rows) .none
        (rows.completed now p) :=
      .completed now id p hjob (SendJobState.open_of_ne hclaimed hdone) hbinds
    rw [exec_of_change (hrows ▸ hc)]
    exact ⟨rfl, _, Finmap.lookup_insert _, ⟨_, congrArg (Option.map _) hjob, rfl⟩, rfl, rfl, rfl⟩

/-- **One that cannot raises, and changes nothing.** -/
theorem completeJob_unbound (hbinds : ¬ Binds (after calls) id p rows) (now : Timestamp) :
    ∃ e, (Call.completeJob now id p).exec (after calls) = (.error e, after calls) := by
  cases hid : rows.operation.providerPaymentId with
  | some existing =>
    have hne : existing ≠ p := fun h => hbinds (.inl (hid.trans (congrArg some h)))
    exact ⟨_, exec_of_refusal (.answerConflict now id p hrows hjob hid hne) rfl⟩
  | none =>
    obtain ⟨s, hs⟩ := stage_of_reachable calls id rows hrows
    have hdone : job.state ≠ .done := by
      intro hdone
      have hpaid := hs.consistent.done job hjob hdone
      rw [hid] at hpaid
      cases hpaid
    cases hcolumn : paymentIdColumn (after calls) id p with
    | ok => exact absurd (.inr ⟨hid, hcolumn⟩) hbinds
    | error e =>
      have hopen := SendJobState.open_of_ne hclaimed hdone
      exact ⟨_, exec_of_refusal (.answerColumn now id p hrows hjob hopen hid hcolumn) rfl⟩

end

/-! ## In the runs of the workers -/

/-- An answer is reported by a worker that holds it. -/
theorem answer_source [HttpClient] {W : Type} {kind : W → WorkerKind} {σ : World W} {a : Action W}
    {now : Timestamp} {id p : String} (hc : a.call kind σ = some (.completeJob now id p)) :
    ∃ w draw payment ids, a = .work now w (.writeBack draw) ∧
      σ.workers w = .answered id (.ok payment) ids ∧ payment.providerPaymentId = p := by
  cases a with
  | create | submit | receive => cases hc
  | work time w step =>
    have hmove := workerMove (kind w) time σ.db (σ.workers w) step
    rw [show (σ.workers w).call (kind w) time step = _ from hc] at hmove
    generalize WorkerState.next _ _ _ _ _ = state' at hmove
    generalize hstate : σ.workers w = state at hmove
    generalize hcall : some (Call.completeJob now id p) = call at hmove
    cases hmove with
    | find | skip | call | respond | drop | crash | stay => cases hcall
    | claim => cases hcall
    | @complete id payment ids draw =>
      cases hcall
      exact ⟨w, draw, payment, ids, rfl, hstate, rfl⟩
    | fail _ hfailure =>
      cases hcall
      cases hfailure

/-- What becomes of an answer: its job was claimed; the answer is stored, or `complete_job` raises
because the row or the database refuses the id, and then no row changes. -/
def AnswerKept (db : Db) (now : Timestamp) (id p : String) : Prop :=
  ∃ rows job, db.lookup id = some rows ∧ rows.sendJob = some job ∧ job.state ≠ .pending ∧
    (((Call.completeJob now id p).exec db).1.isOk →
      ∃ rows', (db.next (.completeJob now id p)).lookup id = some rows' ∧
        rows.Answered rows' p) ∧
    (¬ ((Call.completeJob now id p).exec db).1.isOk ↔ Refuses db id p rows) ∧
    (¬ ((Call.completeJob now id p).exec db).1.isOk → db.next (.completeJob now id p) = db)

theorem answerKept_of_claimed {calls : List Call} {id : String}
    (hclaimed : Claimed (after calls) id) (now : Timestamp) (p : String) :
    AnswerKept (after calls) now id p := by
  obtain ⟨rows, job, hrows, hjob, hstate⟩ := hclaimed
  refine ⟨rows, job, hrows, hjob, hstate, ?_⟩
  rw [refuses_iff hrows]
  by_cases hbinds : Binds (after calls) id p rows
  · obtain ⟨hok, hanswered⟩ := completeJob_binds hrows hjob hstate hbinds now
    exact ⟨fun _ => hanswered, iff_of_false (not_not_intro hok) (not_not_intro hbinds),
      fun herror => absurd hok herror⟩
  · obtain ⟨e, hexec⟩ := completeJob_unbound hrows hjob hstate hbinds now
    unfold Db.next
    rw [hexec]
    exact ⟨fun hok => (by cases hok), iff_of_true Bool.false_ne_true hbinds, fun _ => rfl⟩

/-- **No accepted answer is dropped**, whatever happened since the worker read the job. -/
theorem answer_not_dropped [HttpClient] {W : Type} [DecidableEq W] (kind : W → WorkerKind)
    (actions : List (Action W)) {a : Action W} {now : Timestamp} {id p : String}
    (hcall : a.call kind (World.after kind actions) = some (.completeJob now id p)) :
    AnswerKept (World.after kind actions).db now id p ∧
      (World.after kind (actions ++ [a])).db =
        (World.after kind actions).db.next (.completeJob now id p) := by
  obtain ⟨w, draw, payment, ids, -, hw, -⟩ := answer_source hcall
  have hclaimed : Claimed (World.after kind actions).db id :=
    claimed_of_current kind actions w id (by rw [hw]; rfl)
  constructor
  · rw [World.after_callsOf] at hclaimed ⊢
    exact answerKept_of_claimed hclaimed now p
  · unfold World.after
    rw [Runs.run_concat]
    exact World.step_db_some hcall

/-- The answer comes after a receipt that settled the operation. -/
theorem answer_not_dropped_late :
    let actions : List (Action WorkerKind) := [
      .create 0 .sample, .submit 1 "op-1", .work 2 .pending (.find ["op-1"]),
      .work 2 .pending .start, .work 3 .running (.find ["op-1"]), .work 3 .running .start,
      .receive 4 ⟨"pay-1", "op-1", .completed, "paid", 4⟩,
      .work 5 .running (.respond (.response 202 "" (some ⟨"pay-1", "accepted"⟩)))]
    AnswerKept (World.after id actions).db 6 "op-1" "pay-1" ∧
      (World.after id (actions ++ [.work 6 .running (.writeBack ⟨0, by decide, by decide⟩)])).db =
        (World.after id actions).db.next (.completeJob 6 "op-1" "pay-1") :=
  answer_not_dropped id [
    .create 0 .sample, .submit 1 "op-1", .work 2 .pending (.find ["op-1"]),
    .work 2 .pending .start, .work 3 .running (.find ["op-1"]), .work 3 .running .start,
    .receive 4 ⟨"pay-1", "op-1", .completed, "paid", 4⟩,
    .work 5 .running (.respond (.response 202 "" (some ⟨"pay-1", "accepted"⟩)))]
    (by rfl)

end PaymentService
