import PaymentService.Finality
import PaymentService.Serializability

/-!
# A submit takes effect once

* `Submitted` — the operation was submitted; a step that makes it so is a submit that returns
  CREATED, and no step undoes it (`submit_of_submitted`, `Submitted.run`).
* `submit_again` — **a submit of a submitted operation returns EXISTING and changes nothing**.
* `submitOutcomes_eq` — over a run of calls the submits return CREATED once, then EXISTING.
* `submit_takes_effect_once` — the same of submits interleaved statement by statement with one
  another and with everything else that locks an operation.
-/

namespace PaymentService

open UnitOfWork

/-! ## Submitted operations -/

def Submitted (id : String) (db : Db) : Prop :=
  ∃ rows, db.lookup id = some rows ∧ rows.operation.status ≠ .created

theorem not_submitted_of_created {id : String} {db : Db} (h : db.status id = some .created) :
    ¬ Submitted id db := by
  rintro ⟨rows, hrows, hstatus⟩
  rw [Db.status, hrows] at h
  exact hstatus (Option.some.inj h)

theorem isSome_of_status {id : String} {db : Db} {status : OperationStatus}
    (h : db.status id = some status) : (db.lookup id).isSome := by
  obtain ⟨rows, hrows, -⟩ := Option.map_eq_some_iff.mp h
  rw [hrows]
  rfl

/-- What a submit leaves in the rows, and what is there before it. -/
structure Rows.SubmitData (rows : Rows) : Prop where
  created : rows.operation.status = .created → rows.sendJob = none ∧
    rows.events.countP (·.type = .submitRequested) = 0
  submitted : rows.operation.status ≠ .created → rows.sendJob.isSome ∧
    rows.events.countP (·.type = .submitRequested) = 1

theorem handleStatus_ne (result : ReceiptResult) : handleStatus result ≠ .submitRequested := by
  cases result <;> exact EventType.noConfusion

theorem Rows.SubmitData.updateJob {rows : Rows} (h : rows.SubmitData)
    (change : SendJob → SendJob) : (rows.updateJob change).SubmitData where
  created := by
    intro hstatus
    obtain ⟨hjob, hcount⟩ := h.created hstatus
    exact ⟨by rw [Rows.updateJob_sendJob, hjob]; rfl, hcount⟩
  submitted := by
    intro hstatus
    obtain ⟨hjob, hcount⟩ := h.submitted hstatus
    exact ⟨by rw [Rows.updateJob_sendJob, Option.isSome_map, hjob], hcount⟩

theorem Rows.SubmitData.record {rows : Rows} (h : rows.SubmitData) {type : EventType}
    (htype : type ≠ .submitRequested) (now : Timestamp) (fromStatus : Option OperationStatus)
    (toStatus : OperationStatus) (message : String) :
    (rows.record now type fromStatus toStatus message).SubmitData := by
  have hcount : (rows.record now type fromStatus toStatus message).events.countP
      (·.type = .submitRequested) = rows.events.countP (·.type = .submitRequested) := by
    simp [Rows.record, htype]
  constructor <;> rw [hcount]
  · exact h.created
  · exact h.submitted

theorem Change.submitData {db : Db} {c : Call} {o : Option Rows} {rows : Rows} {out : Outcome}
    (h : Change db c o out rows) (hold : ∀ old ∈ o, old.SubmitData) : rows.SubmitData := by
  cases h with
  | created => exact ⟨fun _ => ⟨rfl, rfl⟩, fun h => absurd rfl h⟩
  | @submitted now id old hstatus hjob =>
    refine ⟨fun h => (by cases h), fun _ => ⟨rfl, ?_⟩⟩
    have hnone := ((hold _ rfl).created hstatus).2
    simp [Rows.submitted, Rows.record, hnone]
  | claimed | failed => exact (hold _ rfl).updateJob _
  | @completed now id p old =>
    have hbind : (old.bind p).SubmitData := ⟨(hold _ rfl).created, (hold _ rfl).submitted⟩
    exact hbind.updateJob _
  | @finalized now receipt old hstatus =>
    have hprocessing : old.operation.status ≠ .created := by
      rw [hstatus]
      exact OperationStatus.noConfusion
    have hsettled : Rows.SubmitData { old.bind receipt.providerPaymentId with
        operation.status := receipt.result.status } := by
      refine ⟨fun hcreated => ?_, fun _ => (hold _ rfl).submitted hprocessing⟩
      exact absurd hcreated (ReceiptResult.status_ne_created _)
    exact (hsettled.updateJob _).record (handleStatus_ne _) now _ _ _
  | @ignored now receipt old =>
    have hbind : (old.bind receipt.providerPaymentId).SubmitData :=
      ⟨(hold _ rfl).created, (hold _ rfl).submitted⟩
    exact hbind.record (by decide) now _ _ _
  | duplicate => exact ⟨(hold _ rfl).created, (hold _ rfl).submitted⟩

/-- **One job and one SUBMIT_REQUESTED event from the submit on**, none before. -/
theorem submitData_after (calls : List Call) :
    ∀ id rows, (after calls).lookup id = some rows → rows.SubmitData :=
  rows_invariant (fun hc hold => hc.submitData hold) calls

/-! ## One submit -/

/-- Only a submit that returns CREATED makes an operation a submitted one. -/
theorem submit_of_submitted {id : String} {db : Db} {c : Call} (hbefore : ¬ Submitted id db)
    (hafter : Submitted id (db.next c)) :
    ∃ now, c = .submit now id ∧ (c.exec db).1 = .ok (.submitted .created) := by
  obtain ⟨rows, hrows, hstatus⟩ := hafter
  rcases lookup_next db c id with hsame | ⟨out, rows', hid, hout, hc, hnew⟩
  · exact absurd ⟨rows, hsame.symm.trans hrows, hstatus⟩ hbefore
  · cases hnew.symm.trans hrows
    have hold : ∀ old, db.lookup id = some old → old.operation.status = .created := by
      intro old hold
      by_contra hne
      exact hbefore ⟨old, hold, hne⟩
    generalize db.lookup id = o at hc hold
    cases hc with
    | created => exact absurd rfl hstatus
    | submitted now id' => exact ⟨now, by rw [← hid]; rfl, hout⟩
    | claimed | completed | failed | ignored | duplicate => exact absurd (hold _ rfl) hstatus
    | finalized now receipt hprocessing => cases hprocessing.symm.trans (hold _ rfl)

theorem Submitted.run {id : String} {db : Db} (h : Submitted id db) (calls : List Call) :
    Submitted id (Runs.run Db.next db calls) := by
  obtain ⟨rows, hrows, hstatus⟩ := h
  refine @rows_preserved (fun rows => rows.operation.status ≠ .created) ?_ db id rows hrows hstatus
    calls
  intro db c old rows out hc hold
  cases hc with
  | submitted => exact OperationStatus.noConfusion
  | finalized => exact ReceiptResult.status_ne_created _
  | claimed | completed | failed | ignored | duplicate => exact hold

/-- A submit of an operation that was not submitted yet. -/
theorem submit_first {calls : List Call} {id : String} {rows : Rows}
    (hrows : (after calls).lookup id = some rows) (hstatus : rows.operation.status = .created)
    (now : Timestamp) : (Call.submit now id).exec (after calls) =
      (.ok (.submitted .created), (after calls).insert id (rows.submitted now)) := by
  refine exec_of_change ?_
  rw [show (Call.submit now id).operationId = id from rfl, hrows]
  exact .submitted now id hstatus ((submitData_after calls id rows hrows).created hstatus).1

/-- **A submit of a submitted operation changes nothing.** -/
theorem submit_again {id : String} {db : Db} (h : Submitted id db) (now : Timestamp) :
    (Call.submit now id).exec db = (.ok (.submitted .existing), db) := by
  obtain ⟨rows, hrows, hstatus⟩ := h
  exact exec_of_idle (.existing now id hrows hstatus)

/-- A submit that returns EXISTING changes nothing. -/
theorem next_of_existing {id : String} {db : Db} {now : Timestamp}
    (h : ((Call.submit now id).exec db).1 = .ok (.submitted .existing)) :
    db.next (.submit now id) = db := by
  rcases next_cases db (.submit now id) with hsame | ⟨out, rows, hout, hc, -⟩
  · exact hsame
  · rw [h] at hout
    generalize db.lookup (Call.submit now id).operationId = o at hc
    cases hc with
    | submitted => cases hout
    | failed hf => cases hf

/-- After a submit that returns, the operation is submitted; it is unless the submit is the
first. -/
theorem submit_returns {calls : List Call} {id : String} (hrows : ((after calls).lookup id).isSome)
    (now : Timestamp) :
    (¬ Submitted id (after calls) →
      ((Call.submit now id).exec (after calls)).1 = .ok (.submitted .created)) ∧
    Submitted id ((after calls).next (.submit now id)) := by
  obtain ⟨rows, hrows⟩ := Option.isSome_iff_exists.mp hrows
  by_cases hstatus : rows.operation.status = .created
  · have hexec := submit_first hrows hstatus now
    refine ⟨fun _ => by rw [hexec], rows.submitted now, ?_, OperationStatus.noConfusion⟩
    unfold Db.next
    rw [hexec]
    exact Finmap.lookup_insert _
  · have hsubmitted : Submitted id (after calls) := ⟨rows, hrows, hstatus⟩
    exact ⟨fun h => absurd hsubmitted h, hsubmitted.run [.submit now id]⟩

/-! ## The submits of a run -/

/-- The call submits this operation and finds it. -/
def submitsFound (id : String) (db : Db) : Call → Bool
  | .submit _ operationId => operationId = id && present id db
  | _ => false

/-- What they return. -/
def submitOutcomes (id : String) (calls : List Call) : List (Except Error Outcome) :=
  ((steps calls).filter (fun p => submitsFound id p.1 p.2)).map (fun p => (p.2.exec p.1).1)

theorem submitOutcomes_concat (id : String) (calls : List Call) (c : Call) :
    submitOutcomes id (calls ++ [c]) = submitOutcomes id calls ++
      if submitsFound id (after calls) c then [(c.exec (after calls)).1] else [] := by
  unfold submitOutcomes
  rw [steps_concat, List.filter_append, List.map_append]
  cases hfound : submitsFound id (after calls) c <;> simp [hfound]

theorem submitsFound_iff {id : String} {db : Db} {c : Call} :
    submitsFound id db c = true ↔ ∃ now, c = .submit now id ∧ (db.lookup id).isSome := by
  constructor
  · intro h
    cases c with
    | submit now operationId =>
      obtain ⟨hid, hfound⟩ := Bool.and_eq_true_iff.mp h
      exact ⟨now, by rw [of_decide_eq_true hid], hfound⟩
    | _ => cases h
  · rintro ⟨now, rfl, hfound⟩
    exact Bool.and_eq_true_iff.mpr ⟨decide_eq_true rfl, hfound⟩

/-- **The first submit returns CREATED, the others EXISTING.** -/
theorem submitOutcomes_eq (calls : List Call) (id : String) :
    (¬ Submitted id (after calls) → submitOutcomes id calls = []) ∧
    (Submitted id (after calls) → ∃ n, submitOutcomes id calls =
      .ok (.submitted .created) :: List.replicate n (.ok (.submitted .existing))) := by
  induction calls using List.reverseRecOn with
  | nil =>
    refine ⟨fun _ => rfl, ?_⟩
    rintro ⟨rows, hrows, -⟩
    rw [show after [] = ∅ from rfl, Finmap.lookup_empty] at hrows
    cases hrows
  | append_singleton calls c ih =>
    rw [after_concat, submitOutcomes_concat]
    by_cases hfound : submitsFound id (after calls) c = true
    · obtain ⟨now, rfl, hrows⟩ := submitsFound_iff.mp hfound
      obtain ⟨hfirst, hafter⟩ := submit_returns hrows now
      refine ⟨fun h => absurd hafter h, fun _ => ?_⟩
      rw [if_pos hfound]
      by_cases hbefore : Submitted id (after calls)
      · obtain ⟨n, hn⟩ := ih.2 hbefore
        refine ⟨n + 1, ?_⟩
        rw [hn, submit_again hbefore now, List.cons_append, List.replicate_succ']
      · refine ⟨0, ?_⟩
        rw [ih.1 hbefore, hfirst hbefore]
        rfl
    · rw [if_neg hfound, List.append_nil]
      by_cases hbefore : Submitted id (after calls)
      · exact ⟨fun h => absurd (hbefore.run [c]) h, fun _ => ih.2 hbefore⟩
      · refine ⟨fun _ => ih.1 hbefore, fun hafter => absurd ?_ hfound⟩
        obtain ⟨now, rfl, -⟩ := submit_of_submitted hbefore hafter
        obtain ⟨rows, hrows, -⟩ := hafter
        have hpresent := present_next (after calls) ⟨.submit now id, rfl⟩ id
        unfold present at hpresent
        rw [hrows] at hpresent
        exact submitsFound_iff.mpr ⟨now, rfl, hpresent.symm⟩

/-! ## Interleaved submits -/

section

variable {I : Type}

/-- This transaction submits the operation. -/
def Submits (call : I → LockingCall) (id : String) (i : I) : Prop :=
  ∃ now, (call i).1 = .submit now id

/-- The tables after the transactions of a log. -/
abbrev afterLog (call : I → LockingCall) (calls : List Call) (log : List I) : Db :=
  after (calls ++ log.map (fun i => (call i).1))

variable {call : I → LockingCall} {calls : List Call} {id : String}

theorem afterLog_append (log log' : List I) : afterLog call calls (log ++ log') =
    Runs.run Db.next (afterLog call calls log) (log'.map (fun i => (call i).1)) := by
  rw [← after_append, afterLog, List.map_append, List.append_assoc]

theorem afterLog_concat (log : List I) (i : I) :
    afterLog call calls (log ++ [i]) = (afterLog call calls log).next (call i).1 :=
  afterLog_append log [i]

/-- The operation stays in the tables. -/
theorem isSome_afterLog (hrows : ((after calls).lookup id).isSome) (log : List I) :
    ((afterLog call calls log).lookup id).isSome := by
  obtain ⟨rows, hrows⟩ := Option.isSome_iff_exists.mp hrows
  obtain ⟨rows', hrows', -⟩ := @rows_preserved (fun _ => True) (fun _ _ => trivial) _ id rows hrows
    trivial (log.map (fun i => (call i).1))
  rw [← after_append] at hrows'
  rw [afterLog, hrows']
  rfl

/-- A submit in the log leaves the operation submitted for the rest of it. -/
theorem submitted_afterLog (hrows : ((after calls).lookup id).isSome) {pre post : List I} {i : I}
    (hi : Submits call id i) : Submitted id (afterLog call calls (pre ++ i :: post)) := by
  obtain ⟨now, hi⟩ := hi
  have hreturns := (submit_returns (@isSome_afterLog I call calls id hrows pre) now).2
  rw [← hi, ← afterLog_concat] at hreturns
  rw [show pre ++ i :: post = (pre ++ [i]) ++ post by simp, afterLog_append]
  exact hreturns.run _

/-- The submit of a log that takes effect: it finds the operation created. -/
theorem exists_first (hcreated : (after calls).status id = some .created) {log : List I}
    (hsubmitted : Submitted id (afterLog call calls log)) :
    ∃ pre first post, log = pre ++ first :: post ∧ Submits call id first ∧
      ¬ Submitted id (afterLog call calls pre) ∧
      ((call first).1.exec (afterLog call calls pre)).1 = .ok (.submitted .created) := by
  have hlost := @Runs.exists_loss _ _ (fun db i => db.next (call i).1)
    (fun db => ¬ Submitted id db) log (after calls) (not_submitted_of_created hcreated)
  have hrun (l : List I) : Runs.run (fun db i => db.next (call i).1) (after calls) l =
      afterLog call calls l := by
    rw [afterLog, after_append]
    unfold Runs.run
    rw [List.foldl_map]
  simp only [hrun, not_not] at hlost
  obtain ⟨pre, first, post, hlog, hbefore, hafter⟩ := hlost hsubmitted
  obtain ⟨now, hfirst, hout⟩ := submit_of_submitted hbefore hafter
  exact ⟨pre, first, post, hlog, ⟨now, hfirst⟩, hbefore, hout⟩

/-- Any other submit of the log comes after it. -/
theorem submitted_of_later (hrows : ((after calls).lookup id).isSome) {pre post pre' post' : List I}
    {first i : I} (hfirst : Submits call id first)
    (hbefore : ¬ Submitted id (afterLog call calls pre)) (hi : Submits call id i)
    (hne : i ≠ first) (hlog : pre ++ first :: post = pre' ++ i :: post') :
    Submitted id (afterLog call calls pre') := by
  rcases List.append_eq_append_iff.mp hlog with ⟨rest, hpre, hrest⟩ | ⟨rest, hpre, hrest⟩
  · cases rest with
    | nil => exact absurd (List.cons.inj hrest).1.symm hne
    | cons j rest =>
      obtain ⟨rfl, -⟩ := List.cons.inj hrest
      rw [hpre]
      exact submitted_afterLog hrows hfirst
  · cases rest with
    | nil => exact absurd (List.cons.inj hrest).1 hne
    | cons j rest =>
      obtain ⟨rfl, -⟩ := List.cons.inj hrest
      rw [hpre] at hbefore
      exact absurd (submitted_afterLog hrows hi) hbefore

variable [DecidableEq I]

theorem submitted_of_finished (hrows : ((after calls).lookup id).isSome) {schedule : List (Act I)}
    {σ : System I String Db Error DbError Outcome} (hσ : σ = interleave call (after calls) schedule)
    {i : I} {outcome : Except Error Outcome} (hi : Submits call id i)
    (hthread : σ.threads i = .finished outcome) : Submitted id (afterLog call calls σ.log) := by
  obtain ⟨-, -, hfinished⟩ := interleave_serial call calls schedule
  rw [← hσ] at hfinished
  obtain ⟨pre, post, hlog, -⟩ := hfinished i outcome hthread
  rw [hlog]
  exact submitted_afterLog hrows hi

/-- **Of the submits interleaved with one another and with the rest, one returns CREATED.** -/
theorem one_submit_created (hcreated : (after calls).status id = some .created)
    {schedule : List (Act I)} {σ : System I String Db Error DbError Outcome}
    (hσ : σ = interleave call (after calls) schedule)
    (hreturned : ∀ i ∈ σ.log, Submits call id i → ∃ outcome, σ.threads i = .finished outcome)
    (hsubmitted : ∃ i outcome, Submits call id i ∧ σ.threads i = .finished outcome) :
    ∃ first, Submits call id first ∧
      σ.threads first = .finished (.ok (.submitted .created)) ∧
      ∀ i outcome, Submits call id i → σ.threads i = .finished outcome → i ≠ first →
        outcome = .ok (.submitted .existing) ∧ ∃ pre post, σ.log = pre ++ i :: post ∧
          afterLog call calls (pre ++ [i]) = afterLog call calls pre := by
  obtain ⟨-, hnodup, hfinished⟩ := interleave_serial call calls schedule
  rw [← hσ] at hnodup hfinished
  have hrows := isSome_of_status hcreated
  have hend : Submitted id (afterLog call calls σ.log) := by
    obtain ⟨i, outcome, hi, hthread⟩ := hsubmitted
    exact submitted_of_finished hrows hσ hi hthread
  obtain ⟨pre, first, post, hlog, hfirst, hbefore, hout⟩ := exists_first hcreated hend
  refine ⟨first, hfirst, ?_, ?_⟩
  · have hmem : first ∈ σ.log := by
      rw [hlog]
      exact List.mem_append_right _ List.mem_cons_self
    obtain ⟨outcome, hthread⟩ := hreturned first hmem hfirst
    obtain ⟨pre', post', hlog', hout'⟩ := hfinished first outcome hthread
    have hplace : pre = pre' := place_unique (hlog ▸ hnodup) (hlog.symm.trans hlog')
    subst hplace
    rw [hthread, ← hout', hout]
  · intro i outcome hi hthread hne
    obtain ⟨pre', post', hlog', hout'⟩ := hfinished i outcome hthread
    have hlater := submitted_of_later hrows hfirst hbefore hi hne (hlog.symm.trans hlog')
    obtain ⟨now, hcall⟩ := hi
    have hexec := submit_again hlater now
    rw [← hcall] at hexec
    refine ⟨by rw [← hout', hexec], pre', post', hlog', ?_⟩
    rw [afterLog_concat]
    exact congrArg Prod.snd hexec

end

/-- **A submit takes effect exactly once**: over every run of calls, and over every interleaving
of the statements of submits, receipts and worker transactions that starts with the operation
created and in which every submit that took effect returned. -/
theorem submit_takes_effect_once (id : String) :
    (∀ calls, submitOutcomes id calls ≠ [] →
      (∃ n, submitOutcomes id calls =
        .ok (.submitted .created) :: List.replicate n (.ok (.submitted .existing))) ∧
      ∃ rows job, (after calls).lookup id = some rows ∧ rows.sendJob = some job ∧
        rows.events.countP (·.type = .submitRequested) = 1) ∧
    (∀ calls now, ((Call.submit now id).exec (after calls)).1 = .ok (.submitted .existing) →
      (after calls).next (.submit now id) = after calls) ∧
    ∀ (I : Type) [DecidableEq I] (call : I → LockingCall) (calls : List Call)
      (schedule : List (Act I)) (σ : System I String Db Error DbError Outcome),
      (after calls).status id = some .created → σ = interleave call (after calls) schedule →
      (∀ i ∈ σ.log, Submits call id i → ∃ outcome, σ.threads i = .finished outcome) →
      (∃ i outcome, Submits call id i ∧ σ.threads i = .finished outcome) →
      (∃ first, Submits call id first ∧
        σ.threads first = .finished (.ok (.submitted .created)) ∧
        ∀ i outcome, Submits call id i → σ.threads i = .finished outcome → i ≠ first →
          outcome = .ok (.submitted .existing) ∧ ∃ pre post, σ.log = pre ++ i :: post ∧
            afterLog call calls (pre ++ [i]) = afterLog call calls pre) ∧
      ∃ rows job, σ.db.lookup id = some rows ∧ rows.sendJob = some job ∧
        rows.events.countP (·.type = .submitRequested) = 1 := by
  have hrows {calls : List Call} (h : Submitted id (after calls)) :
      ∃ rows job, (after calls).lookup id = some rows ∧ rows.sendJob = some job ∧
        rows.events.countP (·.type = .submitRequested) = 1 := by
    obtain ⟨rows, hrows, hstatus⟩ := h
    obtain ⟨hjob, hcount⟩ := (submitData_after calls id rows hrows).submitted hstatus
    obtain ⟨job, hjob⟩ := Option.isSome_iff_exists.mp hjob
    exact ⟨rows, job, hrows, hjob, hcount⟩
  refine ⟨?_, ?_, ?_⟩
  · intro calls hsome
    have hsubmitted : Submitted id (after calls) := by
      by_contra hnot
      exact hsome ((submitOutcomes_eq calls id).1 hnot)
    exact ⟨(submitOutcomes_eq calls id).2 hsubmitted, hrows hsubmitted⟩
  · intro calls now hexisting
    exact next_of_existing hexisting
  · intro I _ call calls schedule σ hcreated hσ hreturned hsubmitted
    refine ⟨one_submit_created hcreated hσ hreturned hsubmitted, ?_⟩
    obtain ⟨i, outcome, hi, hthread⟩ := hsubmitted
    have hend := submitted_of_finished (isSome_of_status hcreated) hσ hi hthread
    have hdb := (interleave_serial call calls schedule).1
    rw [← hσ] at hdb
    rw [hdb]
    exact hrows hend

/-- Two submits, the second waiting for the row the first has locked. -/
theorem concurrent_submits_take_effect_once :
    let call : Bool → LockingCall := fun i => ⟨.submit (if i then 1 else 2) "op-1", rfl⟩
    let schedule : List (Act Bool) := [true, false, true, true, false, true, true, true, false,
      true, true, true, false, false, false].map .step
    let σ := interleave call (after [.create 0 .sample]) schedule
    (∃ first, Submits call "op-1" first ∧
      σ.threads first = .finished (.ok (.submitted .created)) ∧
      ∀ i outcome, Submits call "op-1" i → σ.threads i = .finished outcome → i ≠ first →
        outcome = .ok (.submitted .existing) ∧ ∃ pre post, σ.log = pre ++ i :: post ∧
          afterLog call [.create 0 .sample] (pre ++ [i]) =
            afterLog call [.create 0 .sample] pre) ∧
    ∃ rows job, σ.db.lookup "op-1" = some rows ∧ rows.sendJob = some job ∧
      rows.events.countP (·.type = .submitRequested) = 1 := by
  refine (submit_takes_effect_once "op-1").2.2 Bool _ [.create 0 .sample] _ _ rfl rfl ?_ ?_
  · intro i _ _
    cases i with
    | true => exact ⟨.ok (.submitted .created), rfl⟩
    | false => exact ⟨.ok (.submitted .existing), rfl⟩
  · exact ⟨true, .ok (.submitted .created), ⟨1, rfl⟩, rfl⟩

end PaymentService
