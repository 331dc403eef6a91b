import PaymentService.Lib.Reduction
import PaymentService.History

/-!
# Per-operation serializability

The transactions that lock their operation, interleaved statement by statement: `SELECT ... FOR
UPDATE` of the row, the read of the job, the read of the last `sequence_no`, the commit.

* `Elsewhere` — what other transactions can do meanwhile: the rows of the operation stay, and
  payment ids may be taken by other operations.
* `guarded` — **every transaction locks first and reads nothing others can change**, except
  whether a payment id is free, and there it fails with the same error later.
* `transactions_serializable` — every interleaving leaves the rows and gives the outcomes of the
  same transactions in commit order.
-/

namespace PaymentService

open UnitOfWork Tx

/-- The transactions that lock their operation: all but `create`. -/
def Call.locking : Call → Bool
  | .create _ _ => false
  | .submit _ _ | .claimSendJob _ _ | .completeJob _ _ _ | .moveToRetry _ _ _ _
  | .recordRetryFailure _ _ _ _ | .processReceipt _ _ => true

abbrev LockingCall := { c : Call // c.locking = true }

/-- The operation exists. -/
def present (id : String) (db : Db) : Bool := (db.lookup id).isSome

/-- What others may do while a transaction holds the row of operation `id`. -/
structure Elsewhere (id : String) (db db' : Db) : Prop where
  lookup : db'.lookup id = db.lookup id
  taken : ∀ p, TakenElsewhere db id p → TakenElsewhere db' id p

theorem takenElsewhere_insert {db : Db} {id : String} {rows : Rows} {p : String} :
    TakenElsewhere (db.insert id rows) id p ↔ TakenElsewhere db id p := by
  constructor
  · rintro ⟨id', rows', hne, hrows', hp⟩
    rw [Finmap.lookup_insert_of_ne db hne] at hrows'
    exact ⟨id', rows', hne, hrows', hp⟩
  · rintro ⟨id', rows', hne, hrows', hp⟩
    refine ⟨id', rows', hne, ?_, hp⟩
    rw [Finmap.lookup_insert_of_ne db hne]
    exact hrows'

theorem Elsewhere.insert {id : String} {db db' : Db} (h : Elsewhere id db db') (rows : Rows) :
    Elsewhere id (db.insert id rows) (db'.insert id rows) where
  lookup := by rw [Finmap.lookup_insert, Finmap.lookup_insert]
  taken := by
    intro p hp
    rw [takenElsewhere_insert] at hp ⊢
    exact h.taken p hp

/-! ## Statements on one operation -/

/-- A statement that does the same after others worked elsewhere, or fails then. -/
def LocalTo (id : String) (s : Statement Db DbError) : Prop :=
  ∀ db db' view, Elsewhere id db db' → s db = .ok view →
    (∃ view', s db' = .ok view' ∧ Elsewhere id view view') ∨ ∃ e, s db' = .error e

theorem localTo_onRows (id : String) (change : Rows → Except DbError Rows) :
    LocalTo id (onRows id change) := by
  intro db db' view h hs
  unfold onRows at hs ⊢
  rw [h.lookup]
  cases hrows : db.lookup id with
  | none =>
    rw [hrows] at hs
    cases hs
  | some rows =>
    simp only [hrows] at hs ⊢
    cases hchange : change rows with
    | error e =>
      rw [hchange] at hs
      cases hs
    | ok rows' =>
      rw [hchange] at hs
      cases hs
      exact .inl ⟨_, rfl, h.insert rows'⟩

theorem localTo_setProviderPaymentId (id p : String) : LocalTo id (setProviderPaymentId id p) := by
  intro db db' view h hs
  unfold setProviderPaymentId at hs ⊢
  cases hcolumn : paymentIdColumn db id p with
  | error e =>
    rw [hcolumn] at hs
    cases hs
  | ok _ =>
    rw [hcolumn] at hs
    cases hcolumn' : paymentIdColumn db' id p with
    | error e => exact .inr ⟨e, rfl⟩
    | ok _ => exact localTo_onRows id _ db db' view h hs

theorem flush_localTo {id : String} {pending : List (Statement Db DbError)}
    (hpending : ∀ s ∈ pending, LocalTo id s) {db db' view : Db} (h : Elsewhere id db db')
    (hflush : flush pending db = .ok view) :
    (∃ view', flush pending db' = .ok view' ∧ Elsewhere id view view') ∨
      ∃ e, flush pending db' = .error e := by
  induction pending generalizing db db' with
  | nil =>
    cases hflush
    exact .inl ⟨db', rfl, h⟩
  | cons s pending ih =>
    unfold flush at hflush
    split at hflush
    · cases hflush
    · rename_i next hs
      have htail : ∀ s ∈ pending, LocalTo id s :=
        fun s hmem => hpending s (List.mem_cons_of_mem _ hmem)
      rcases hpending s List.mem_cons_self db db' next h hs with ⟨next', hs', h'⟩ | ⟨e, he⟩
      · rw [flush_cons_ok hs']
        exact ih htail h' hflush
      · exact .inr ⟨e, flush_cons_error he pending⟩

/-! ## Stable transactions -/

/-- The rest of a transaction on operation `id` reads nothing others can change. -/
abbrev StableTx {α : Type} (id : String) (p : Tx α) (pending : List (Statement Db DbError)) :
    Prop :=
  p.Stable Error.database (Elsewhere id) (present id) pending

section Stability

variable {α : Type} {id : String} {pending : List (Statement Db DbError)}

theorem stable_selectSendJob {f : Option SendJob → Tx α} (h : ∀ job, StableTx id (f job) []) :
    StableTx id (selectSendJob id >>= f) [] := by
  refine .query ?_ (fun db view hflush => h _)
  intro db db' view helse hflush
  cases hflush
  simp only [run_query_nil, helse.lookup]

theorem stable_commit {f : Unit → Tx α} (huncommitted : (f ()).Uncommitted)
    {outcome : Except Error α} (hsettled : (f ()).Settled (present id) outcome) :
    StableTx id (commit >>= f) pending := by
  refine .commit ?_ ?_
  · intro r
    cases r with
    | ok _ => exact huncommitted
    | error e => exact .raise _
  · intro r
    cases r with
    | ok _ => exact ⟨outcome, hsettled⟩
    | error e => exact ⟨_, .raise rfl⟩

theorem stable_commit_pure (a : α) : StableTx id (commit >>= fun _ => pure a) pending :=
  stable_commit (.ret a) (.ret rfl)

theorem stable_createEvent_commit (hpending : ∀ s ∈ pending, LocalTo id s) (now : Timestamp)
    (type : EventType) (fromStatus : Option OperationStatus) (toStatus : OperationStatus)
    (message : String) {f : Unit → Tx α} (huncommitted : (f ()).Uncommitted)
    {outcome : Except Error α} (hsettled : (f ()).Settled (present id) outcome) :
    StableTx id (createEvent now id type fromStatus toStatus message >>=
      fun _ => commit >>= f) pending := by
  rw [createEvent_bind]
  refine .query ?_ (fun db view hflush => .write (stable_commit huncommitted hsettled))
  intro db db' view helse hflush
  rcases flush_localTo hpending helse hflush with ⟨view', hflush', helse'⟩ | ⟨e, herror⟩
  · rw [run_query_ok hflush', helse'.lookup]
  · -- the read fails now; left for later, the commit fails with the same error
    rw [run_query_error herror, run_write, run_commit_bind_error (flush_append_error herror _)]

/-- The shape of `submit`. -/
theorem guarded_selectOperationForUpdate {f : Option Operation → Tx α} {e : Error}
    (hnone : f none = .raise e) (hsome : ∀ operation, StableTx id (f (some operation)) []) :
    (selectOperationForUpdate id >>= f).Guarded Error.database (Elsewhere id) (present id) id := by
  refine ⟨fun db => f ((db.lookup id).map (·.operation)), rfl, ⟨e, ?_⟩, ?_, ?_⟩
  · intro db habsent
    unfold present at habsent
    rw [Option.isSome_eq_false_iff, Option.isNone_iff_eq_none] at habsent
    dsimp only
    rw [habsent, Option.map_none, hnone]
  · intro db hpresent
    obtain ⟨rows, hrows⟩ := Option.isSome_iff_exists.mp hpresent
    dsimp only
    rw [hrows, Option.map_some]
    exact hsome rows.operation
  · intro db db' _ helse
    dsimp only
    rw [helse.lookup]

/-- The shape of the transactions that start with `get_operation_for_update`. -/
theorem guarded_getOperationForUpdate {f : Operation × Option SendJob → Tx α}
    (h : ∀ operation job, StableTx id (f (operation, job)) []) :
    (getOperationForUpdate id >>= f).Guarded Error.database (Elsewhere id) (present id) id := by
  unfold getOperationForUpdate
  rw [bind_assoc]
  refine guarded_selectOperationForUpdate rfl ?_
  intro operation
  dsimp only
  rw [bind_assoc]
  refine stable_selectSendJob ?_
  intro job
  rw [pure_bind]
  exact h operation job

end Stability

/-! ## The six transactions -/

section Guarded

variable (now : Timestamp) (id : String)

theorem settled_refresh : (refresh id >>= fun _ => pure (Outcome.submitted .created) :
    Tx Outcome).Settled (present id) (.ok (.submitted .created)) := by
  refine .query ?_
  intro db hpresent
  obtain ⟨rows, hrows⟩ := Option.isSome_iff_exists.mp hpresent
  dsimp only
  rw [hrows]
  exact .ret rfl

theorem uncommitted_refresh {α : Type} (f : Operation → α) :
    (refresh id >>= fun operation => pure (f operation) : Tx α).Uncommitted := by
  refine .query ?_
  intro db
  dsimp only
  cases db.lookup id with
  | none => exact .raise _
  | some rows => exact .ret _

theorem guarded_submit : (Call.submit now id).tx.Guarded Error.database (Elsewhere id)
    (present id) id := by
  simp only [Call.tx, submit, bind_assoc]
  refine guarded_selectOperationForUpdate rfl ?_
  intro operation
  dsimp only
  split
  · exact .ret _ _
  · simp only [bind_assoc, pure_bind]
    refine .write (.write ?_)
    refine stable_createEvent_commit ?_ now _ _ _ _ (uncommitted_refresh id _) (settled_refresh id)
    simp only [List.nil_append, List.cons_append, List.forall_mem_cons, List.not_mem_nil,
      IsEmpty.forall_iff, implies_true, and_true]
    exact ⟨localTo_onRows id _, localTo_onRows id _⟩

theorem guarded_claimSendJob : (Call.claimSendJob now id).tx.Guarded Error.database (Elsewhere id)
    (present id) id := by
  simp only [Call.tx, claimSendJob, bind_assoc]
  refine guarded_getOperationForUpdate ?_
  intro operation job
  cases job with
  | none => exact stable_commit_pure _
  | some job =>
    dsimp only
    split
    · exact stable_commit_pure _
    · exact .write (stable_commit_pure _)

theorem guarded_completeJob (p : String) : (Call.completeJob now id p).tx.Guarded Error.database
    (Elsewhere id) (present id) id := by
  simp only [Call.tx, completeJob, bind_assoc]
  refine guarded_getOperationForUpdate ?_
  intro operation job
  cases job with
  | none => exact .raise _ _
  | some job =>
    dsimp only
    unfold completeJob.refuseOtherId
    cases operation.providerPaymentId with
    | none =>
      simp only [pure_bind]
      split
      · exact stable_commit_pure _
      · split
        · exact stable_commit_pure _
        · exact .write (.write (stable_commit_pure _))
    | some existing =>
      dsimp only
      split
      · exact .raise _ _
      · simp only [pure_bind]
        split
        · exact stable_commit_pure _
        · split
          · exact stable_commit_pure _
          · exact .write (stable_commit_pure _)

/-- `_schedule_retry` reads nothing. -/
theorem stable_scheduleRetry {α : Type} (policy : RetryPolicy) (draw : Draw) (job : SendJob)
    (error : String) {pending : List (Statement Db DbError)} {f : Unit → Tx α}
    (h : ∀ pending, StableTx id (f ()) pending) :
    StableTx id (scheduleRetry policy now draw id job error >>= f) pending := by
  simp only [scheduleRetry, bind_assoc]
  refine .write ?_
  split
  · exact .raise _ _
  · exact .write (h _)

theorem guarded_moveToRetry (draw : Draw) (error : String) :
    (Call.moveToRetry now draw id error).tx.Guarded Error.database (Elsewhere id) (present id)
      id := by
  simp only [Call.tx, moveToRetry, bind_assoc]
  refine guarded_getOperationForUpdate ?_
  intro operation job
  cases job with
  | none => exact .raise _ _
  | some job =>
    dsimp only
    split
    · exact stable_commit_pure _
    · rw [bind_assoc]
      exact stable_scheduleRetry now id _ draw job error
        (fun pending => .write (stable_commit_pure _))

theorem guarded_recordRetryFailure (draw : Draw) (error : String) :
    (Call.recordRetryFailure now draw id error).tx.Guarded Error.database (Elsewhere id)
      (present id) id := by
  simp only [Call.tx, recordRetryFailure, bind_assoc]
  refine guarded_getOperationForUpdate ?_
  intro operation job
  cases job with
  | none => exact .raise _ _
  | some job =>
    dsimp only
    split
    · exact stable_commit_pure _
    · rw [bind_assoc]
      exact stable_scheduleRetry now id _ draw job error
        (fun pending => .write (stable_commit_pure _))

/-- `process_receipt` after the id check, with the id bound or still to be bound. -/
theorem stable_receiptTail (rows : Rows) (receipt : ReceiptRequest)
    {pending : List (Statement Db DbError)}
    (hpending : ∀ s ∈ pending, LocalTo receipt.operationId s) :
    StableTx receipt.operationId (receiptTail now rows receipt) pending := by
  unfold receiptTail
  split
  · dsimp only [handleLateReceipt]
    split
    · exact stable_commit_pure _
    · exact stable_createEvent_commit hpending now _ _ _ _ (.ret _) (.ret rfl)
  · have hstatus : ∀ s ∈ pending ++ [setStatus receipt.operationId receipt.result.status],
        LocalTo receipt.operationId s := by
      simp only [List.forall_mem_append, List.forall_mem_singleton]
      exact ⟨hpending, localTo_onRows _ _⟩
    dsimp only [completeOperation]
    cases rows.sendJob with
    | none =>
      simp only [bind_assoc]
      exact .write (stable_createEvent_commit hstatus now _ _ _ _ (.ret _) (.ret rfl))
    | some job =>
      simp only [bind_assoc]
      split
      · exact .write (stable_createEvent_commit hstatus now _ _ _ _ (.ret _) (.ret rfl))
      · refine .write (.write (stable_createEvent_commit ?_ now _ _ _ _ (.ret _) (.ret rfl)))
        simp only [List.forall_mem_append, List.forall_mem_singleton]
        exact ⟨⟨hpending, localTo_onRows _ _⟩, localTo_onRows _ _⟩

theorem guarded_processReceipt (receipt : ReceiptRequest) :
    (Call.processReceipt now receipt).tx.Guarded Error.database (Elsewhere receipt.operationId)
      (present receipt.operationId) receipt.operationId := by
  simp only [Call.tx, processReceipt, bind_assoc]
  refine guarded_getOperationForUpdate ?_
  intro operation job
  dsimp only
  unfold validateProviderPaymentId
  cases hid : operation.providerPaymentId with
  | none =>
    simp only [pure_bind]
    refine .write (stable_receiptTail now ⟨operation, job, []⟩ receipt ?_)
    rw [List.nil_append, List.forall_mem_singleton]
    exact localTo_setProviderPaymentId _ _
  | some existing =>
    dsimp only
    split
    · exact .raise _ _
    · simp only [pure_bind]
      exact stable_receiptTail now ⟨operation, job, []⟩ receipt (fun _ h => by cases h)

end Guarded

/-- **Every locking transaction is guarded by the row of its operation.** -/
theorem guarded (c : LockingCall) : c.1.tx.Guarded Error.database (Elsewhere c.1.operationId)
    (present c.1.operationId) c.1.operationId := by
  obtain ⟨c, hc⟩ := c
  cases c with
  | create now request => cases hc
  | submit now id => exact guarded_submit now id
  | claimSendJob now id => exact guarded_claimSendJob now id
  | completeJob now id p => exact guarded_completeJob now id p
  | moveToRetry now draw id error => exact guarded_moveToRetry now id draw error
  | recordRetryFailure now draw id error => exact guarded_recordRetryFailure now id draw error
  | processReceipt now receipt => exact guarded_processReceipt now receipt

/-! ## Interleavings -/

theorem elsewhere_next (db : Db) {c : Call} {id : String} (h : c.operationId ≠ id) :
    Elsewhere id db (db.next c) where
  lookup := lookup_next_of_ne db h
  taken := by
    rintro p ⟨id', rows, hne, hrows, hp⟩
    obtain ⟨rows', hrows', hp'⟩ := rows_preserved (fun hc h => hc.keeps_id h) hrows hp [c]
    exact ⟨id', rows', hne, hrows', hp'⟩

theorem present_next (db : Db) (c : LockingCall) (id : String) :
    present id (db.next c.1) = present id db := by
  unfold present
  rcases lookup_next db c.1 id with hsame | ⟨out, rows, hid, hout, hc, hnew⟩
  · rw [hsame]
  · cases hold : db.lookup id with
    | some old => rw [hnew]; rfl
    | none =>
      rw [hold] at hc
      obtain ⟨c, hlocking⟩ := c
      cases hc with
      | created now request hamount => cases hlocking

theorem reducible {I : Type} (call : I → LockingCall) :
    Reducible Error.database present Elsewhere (fun i => (call i).1.operationId)
      (fun i => (call i).1.tx) where
  refl := fun _ _ => ⟨rfl, fun _ h => h⟩
  trans := fun _ _ _ _ h₁ h₂ =>
    ⟨h₂.lookup.trans h₁.lookup, fun p h => h₂.taken p (h₁.taken p h)⟩
  frame := fun _ _ db hne => elsewhere_next db hne
  present_run := fun i id db => present_next db (call i) id
  guarded := fun i => guarded (call i)

/-- The transactions of `call`, started on these tables and interleaved by the schedule. -/
def interleave {I : Type} [DecidableEq I] (call : I → LockingCall) (db : Db)
    (schedule : List (Act I)) : System I String Db Error DbError Outcome :=
  Runs.run (System.step Error.database present) (System.start (fun i => (call i).1.tx) db) schedule

theorem serialDb_after {I : Type} (call : I → LockingCall) (calls : List Call) (is : List I) :
    serialDb Error.database (fun i => (call i).1.tx) (after calls) is =
      after (calls ++ is.map (fun i => (call i).1)) := by
  rw [after_append]
  unfold serialDb Runs.run
  rw [List.foldl_map]
  rfl

/-- The tables, the log and the outcomes of an interleaving are those of its serial run. -/
theorem interleave_serial {I : Type} [DecidableEq I] (call : I → LockingCall) (calls : List Call)
    (schedule : List (Act I)) :
    (interleave call (after calls) schedule).db = after (calls ++
      (interleave call (after calls) schedule).log.map (fun i => (call i).1)) ∧
    (interleave call (after calls) schedule).log.Nodup ∧
    ∀ i outcome, (interleave call (after calls) schedule).threads i = .finished outcome →
      ∃ pre post, (interleave call (after calls) schedule).log = pre ++ i :: post ∧
        ((call i).1.exec (after (calls ++ pre.map (fun i => (call i).1)))).1 = outcome := by
  obtain ⟨hdb, hnodup, hfinished⟩ :=
    serializable (reducible call) (after calls) schedule
      (show interleave call (after calls) schedule = _ from rfl)
  rw [serialDb_after] at hdb
  refine ⟨hdb, hnodup, ?_⟩
  intro i outcome hi
  obtain ⟨pre, post, hlog, hrun⟩ := hfinished i outcome hi
  rw [serialDb_after] at hrun
  exact ⟨pre, post, hlog, hrun⟩

/-- **Per-operation serializability**: under any interleaving the rows and the outcomes are those
of the same transactions in commit order, and event numbers stay unique. -/
theorem transactions_serializable {I : Type} [DecidableEq I] (call : I → LockingCall)
    (calls : List Call) (schedule : List (Act I)) :
    (interleave call (after calls) schedule).db = after (calls ++
      (interleave call (after calls) schedule).log.map (fun i => (call i).1)) ∧
    (interleave call (after calls) schedule).log.Nodup ∧
    (∀ i outcome, (interleave call (after calls) schedule).threads i = .finished outcome →
      ∃ pre post, (interleave call (after calls) schedule).log = pre ++ i :: post ∧
        ((call i).1.exec (after (calls ++ pre.map (fun i => (call i).1)))).1 = outcome) ∧
    ∀ id rows, (interleave call (after calls) schedule).db.lookup id = some rows →
      (rows.events.map (·.sequenceNo)).Nodup := by
  obtain ⟨hdb, hnodup, hfinished⟩ := interleave_serial call calls schedule
  refine ⟨hdb, hnodup, hfinished, ?_⟩
  intro id rows hrows
  rw [hdb] at hrows
  rw [(logged_after _ id rows hrows).numbers]
  exact List.nodup_range' 1

/-- Of two concurrent submits the second waits for the first and finds its result. -/
example :
    let σ := interleave (fun i : Bool => ⟨.submit (if i then 1 else 2) "op-1", rfl⟩)
      (after [.create 0 .sample]) ([true, false, true, true, false, true, true, true, false, true,
        true, true, false, false, false].map .step)
    σ.log = [true, false] ∧ σ.threads true = .finished (.ok (.submitted .created)) ∧
      σ.threads false = .finished (.ok (.submitted .existing)) :=
  ⟨rfl, rfl, rfl⟩

end PaymentService
