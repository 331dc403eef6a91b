import PaymentService.Lib.Locality
import PaymentService.PaymentIds
import PaymentService.Serializability

/-!
# Operations are independent

Besides the rows of its own operation a call reads one thing: whether the payment id it brings is
recorded elsewhere.

* `Alike` — two databases a call on one operation cannot tell apart.
* `respects` — **every transaction reads and writes within `Alike`**; `exec_alike`: so it gives
  the same outcome and the same rows on both.
* `operations_independent` — calls on different operations commute, outcomes included, unless
  they bring the same payment id.
-/

namespace PaymentService

open UnitOfWork Tx

/-- The rows of the operation, and whether this payment id is recorded elsewhere. -/
structure Alike (id : String) (carried : Option String) (db db' : Db) : Prop where
  lookup : db'.lookup id = db.lookup id
  taken : ∀ p ∈ carried, TakenElsewhere db id p ↔ TakenElsewhere db' id p

theorem Alike.insert {id : String} {carried : Option String} {db db' : Db}
    (h : Alike id carried db db') (rows : Rows) :
    Alike id carried (db.insert id rows) (db'.insert id rows) where
  lookup := by rw [Finmap.lookup_insert, Finmap.lookup_insert]
  taken := by
    intro p hp
    rw [takenElsewhere_insert, takenElsewhere_insert]
    exact h.taken p hp

theorem Alike.paymentIdColumn {id p : String} {db db' : Db} (h : Alike id (some p) db db') :
    paymentIdColumn db' id p = paymentIdColumn db id p := by
  have htaken := h.taken p rfl
  unfold PaymentService.paymentIdColumn
  simp only [htaken]

/-! ## Statements and reads -/

section

variable {id : String} {carried : Option String}

theorem respects_onRows (change : Rows → Except DbError Rows) :
    Statement.Respects (Alike id carried) (onRows id change) := by
  intro db db' h
  unfold onRows
  rw [h.lookup]
  cases db.lookup id with
  | none => exact .error _
  | some rows =>
    dsimp only
    cases change rows with
    | error e => exact .error e
    | ok rows' => exact .ok (h.insert rows')

theorem respects_setProviderPaymentId (p : String) :
    Statement.Respects (Alike id (some p)) (setProviderPaymentId id p) := by
  intro db db' h
  unfold setProviderPaymentId
  rw [h.paymentIdColumn]
  cases PaymentService.paymentIdColumn db id p with
  | error e => exact .error e
  | ok _ => exact respects_onRows _ db db' h

theorem respects_insertOperation (amount : Nat) (currency : String) (description : Option String)
    (status : OperationStatus) :
    Statement.Respects (Alike id carried) (insertOperation id amount currency description status) := by
  intro db db' h
  unfold insertOperation
  rw [h.lookup]
  cases varchar .operationId 45 id with
  | error e => exact .error e
  | ok _ =>
  cases numeric .amount amount with
  | error e => exact .error e
  | ok _ =>
  cases varchar .currency 3 currency with
  | error e => exact .error e
  | ok _ =>
  cases varcharNull .description 255 description with
  | error e => exact .error e
  | ok _ =>
  cases db.lookup id with
  | some rows => exact .error _
  | none => exact .ok (h.insert _)

abbrev RespectsTx {α : Type} (id : String) (carried : Option String) (tx : Tx α) : Prop :=
  tx.Respects (Alike id carried)

variable {α : Type}

theorem respects_save {s : Statement Db DbError} (h : Statement.Respects (Alike id carried) s) :
    RespectsTx id carried (save s) :=
  .write h (.ret ())

theorem respects_commit : RespectsTx id carried commit := by
  refine .commit ?_
  intro r
  cases r with
  | ok _ => exact .ret ()
  | error e => exact .raise _

theorem respects_selectOperationForUpdate :
    RespectsTx id carried (selectOperationForUpdate id) :=
  .lock (fun db db' h => by rw [h.lookup]) (fun db => .ret _)

theorem respects_refresh : RespectsTx id carried (refresh id) := by
  refine .query (fun db db' h => by rw [h.lookup]) ?_
  intro db
  cases db.lookup id with
  | none => exact .raise _
  | some rows => exact .ret _

theorem respects_getOperationForUpdate : RespectsTx id carried (getOperationForUpdate id) := by
  refine respects_selectOperationForUpdate.bind ?_
  intro operation
  cases operation with
  | none => exact .raise _
  | some operation =>
    refine Session.Respects.bind ?_ (fun sendJob => .ret _)
    exact .query (fun db db' h => by rw [h.lookup]) (fun db => .ret _)

theorem respects_createEvent (now : Timestamp) (type : EventType)
    (fromStatus : Option OperationStatus) (toStatus : OperationStatus) (message : String) :
    RespectsTx id carried (createEvent now id type fromStatus toStatus message) := by
  have hbind := createEvent_bind now id type fromStatus toStatus message pure
  rw [bind_pure] at hbind
  rw [hbind]
  refine .query (fun db db' h => by rw [h.lookup]) ?_
  intro db
  exact .write (respects_onRows _) (.ret ())

theorem respects_scheduleRetry (policy : RetryPolicy) (now : Timestamp) (draw : Draw)
    (sendJob : SendJob) (error : String) :
    RespectsTx id carried (scheduleRetry policy now draw id sendJob error) := by
  refine (respects_save (respects_onRows _)).bind ?_
  intro _
  split
  · exact .raise _
  · exact respects_save (respects_onRows _)

end

/-! ## The seven transactions -/

theorem respects_create (now : Timestamp) (request : CreateOperationRequest) :
    RespectsTx request.operationId none (create now request) := by
  refine Session.Respects.bind ?_ ?_
  · refine Session.Respects.bind ?_ ?_
    · exact .query (fun db db' h => by rw [h.lookup]) (fun db => .ret _)
    · intro operation
      cases operation with
      | none => exact .ret ()
      | some operation => exact .raise _
  intro _
  refine (respects_save (respects_insertOperation _ _ _ _)).bind ?_
  intro _
  refine (respects_createEvent _ _ _ _ _).bind ?_
  intro _
  refine Session.Respects.bind ?_ (fun _ => respects_refresh)
  refine .commit ?_
  intro r
  match r with
  | .ok _ => exact .ret ()
  | .error (.integrity _) => exact .raise _
  | .error (.dataError _) => exact .raise _

theorem respects_submit (now : Timestamp) (id : String) :
    RespectsTx id none (submit now id) := by
  refine respects_selectOperationForUpdate.bind ?_
  intro operation
  cases operation with
  | none => exact .raise _
  | some operation =>
    dsimp only
    split
    · exact .ret _
    · refine (respects_save (respects_onRows _)).bind (fun _ => ?_)
      refine (respects_save (respects_onRows _)).bind (fun _ => ?_)
      refine (respects_createEvent ..).bind (fun _ => ?_)
      refine respects_commit.bind (fun _ => ?_)
      exact respects_refresh.bind (fun _ => .ret _)

theorem respects_claimSendJob (now : Timestamp) (id : String) :
    RespectsTx id none (claimSendJob now id) := by
  refine respects_getOperationForUpdate.bind ?_
  rintro ⟨operation, sendJob⟩
  cases sendJob with
  | none => exact .ret _
  | some sendJob =>
    dsimp only
    split
    · exact .ret _
    · exact (respects_save (respects_onRows _)).bind (fun _ => .ret _)

theorem respects_completeJob (now : Timestamp) (id p : String) :
    RespectsTx id (some p) (completeJob now id p) := by
  refine respects_getOperationForUpdate.bind ?_
  rintro ⟨operation, sendJob⟩
  cases sendJob with
  | none => exact .raise _
  | some sendJob =>
    refine Session.Respects.bind ?_ (fun _ => ?_)
    · unfold completeJob.refuseOtherId
      split
      · exact .ret ()
      · split
        · exact .raise _
        · exact .ret ()
    · dsimp only
      split
      · exact .ret ()
      · split
        · exact .ret ()
        · split
          · exact (respects_save (respects_setProviderPaymentId p)).bind
              (fun _ => respects_save (respects_onRows _))
          · exact respects_save (respects_onRows _)

theorem respects_moveToRetry (policy : RetryPolicy) (now : Timestamp) (draw : Draw)
    (id error : String) : RespectsTx id none (moveToRetry policy now draw id error) := by
  refine respects_getOperationForUpdate.bind ?_
  rintro ⟨operation, sendJob⟩
  cases sendJob with
  | none => exact .raise _
  | some sendJob =>
    dsimp only
    split
    · exact .ret ()
    · exact (respects_scheduleRetry ..).bind (fun _ => respects_save (respects_onRows _))

theorem respects_recordRetryFailure (policy : RetryPolicy) (now : Timestamp) (draw : Draw)
    (id error : String) : RespectsTx id none (recordRetryFailure policy now draw id error) := by
  refine respects_getOperationForUpdate.bind ?_
  rintro ⟨operation, sendJob⟩
  cases sendJob with
  | none => exact .raise _
  | some sendJob =>
    dsimp only
    split
    · exact .ret ()
    · exact (respects_scheduleRetry ..).bind (fun _ => respects_save (respects_onRows _))

theorem respects_handleLateReceipt {carried : Option String} (now : Timestamp)
    (operation : Operation) (receipt : ReceiptRequest) :
    RespectsTx receipt.operationId carried (handleLateReceipt now operation receipt) := by
  unfold handleLateReceipt
  dsimp only
  split
  · exact .ret ()
  · exact respects_createEvent ..

theorem respects_completeOperation {carried : Option String} (now : Timestamp)
    (operation : Operation) (sendJob : Option SendJob) (receipt : ReceiptRequest) :
    RespectsTx receipt.operationId carried
      (completeOperation now operation sendJob receipt) := by
  refine (respects_save (respects_onRows _)).bind (fun _ => ?_)
  cases sendJob with
  | none => exact respects_createEvent ..
  | some sendJob =>
    dsimp only
    split
    · exact respects_createEvent ..
    · exact (respects_save (respects_onRows _)).bind (fun _ => respects_createEvent ..)

theorem respects_processReceipt (now : Timestamp) (receipt : ReceiptRequest) :
    RespectsTx receipt.operationId (some receipt.providerPaymentId)
      (processReceipt now receipt) := by
  refine respects_getOperationForUpdate.bind ?_
  rintro ⟨operation, sendJob⟩
  refine Session.Respects.bind ?_ (fun _ => ?_)
  · unfold validateProviderPaymentId
    split
    · exact .ret ()
    · split
      · exact .raise _
      · exact .ret ()
  · have hstatus : RespectsTx receipt.operationId (some receipt.providerPaymentId)
        (if operation.status ≠ .processing then handleLateReceipt now operation receipt
          else completeOperation now operation sendJob receipt) := by
      split
      · exact respects_handleLateReceipt ..
      · exact respects_completeOperation ..
    dsimp only
    split
    · exact (respects_save (respects_setProviderPaymentId _)).bind (fun _ => hstatus)
    · exact hstatus

/-- **Every transaction works within `Alike`.** -/
theorem respects (c : Call) : RespectsTx c.operationId c.providerPaymentId c.tx := by
  cases c with
  | create now request => exact (respects_create now request).bind (fun _ => .ret _)
  | submit now id => exact (respects_submit now id).bind (fun _ => .ret _)
  | claimSendJob now id =>
    exact (respects_claimSendJob now id).bind (fun _ => respects_commit.bind (fun _ => .ret _))
  | completeJob now id p =>
    exact (respects_completeJob now id p).bind (fun _ => respects_commit.bind (fun _ => .ret _))
  | moveToRetry now draw id error =>
    exact (respects_moveToRetry _ now draw id error).bind
      (fun _ => respects_commit.bind (fun _ => .ret _))
  | recordRetryFailure now draw id error =>
    exact (respects_recordRetryFailure _ now draw id error).bind
      (fun _ => respects_commit.bind (fun _ => .ret _))
  | processReceipt now receipt =>
    exact (respects_processReceipt now receipt).bind
      (fun _ => respects_commit.bind (fun _ => .ret _))

/-- The outcome and the rows are the same on databases the call cannot tell apart. -/
theorem exec_alike {c : Call} {db db' : Db} (h : Alike c.operationId c.providerPaymentId db db') :
    (c.exec db').1 = (c.exec db).1 ∧
      (db'.next c).lookup c.operationId = (db.next c).lookup c.operationId := by
  obtain ⟨houtcome, halike⟩ := (respects c).run (fun _ hmem => absurd hmem List.not_mem_nil) h
  exact ⟨houtcome, halike.lookup⟩

/-! ## Two calls on different operations -/

/-- Other people's ids a call can find taken are not changed by a call that does not bring them. -/
theorem takenElsewhere_next {db : Db} {c : Call} {id p : String}
    (hp : c.providerPaymentId ≠ some p) :
    TakenElsewhere db id p ↔ TakenElsewhere (db.next c) id p := by
  constructor
  · rintro ⟨other, rows, hother, hrows, hrowsp⟩
    rcases lookup_next db c other with hsame | ⟨out, rows', hid, hout, hc, hnew⟩
    · exact ⟨other, rows, hother, hsame.trans hrows, hrowsp⟩
    · rw [hrows] at hc
      exact ⟨other, rows', hother, hnew, hc.keeps_id hrowsp⟩
  · rintro ⟨other, rows, hother, hrows, hrowsp⟩
    rcases lookup_next db c other with hsame | ⟨out, rows', hid, hout, hc, hnew⟩
    · exact ⟨other, rows, hother, hsame.symm.trans hrows, hrowsp⟩
    · cases hnew.symm.trans hrows
      rcases hc.id_source hrowsp with ⟨old, hold, holdp⟩ | hbrought
      · exact ⟨other, old, hother, hold, holdp⟩
      · exact absurd hbrought hp

/-- The two calls bring the same payment id. -/
def SharePaymentId (a b : Call) : Prop :=
  ∃ p, a.providerPaymentId = some p ∧ b.providerPaymentId = some p

instance (a b : Call) : Decidable (SharePaymentId a b) :=
  decidable_of_iff (a.providerPaymentId.isSome ∧ a.providerPaymentId = b.providerPaymentId) <| by
    unfold SharePaymentId
    cases a.providerPaymentId <;> simp [eq_comm]

theorem SharePaymentId.symm {a b : Call} (h : SharePaymentId a b) : SharePaymentId b a := by
  obtain ⟨p, ha, hb⟩ := h
  exact ⟨p, hb, ha⟩

section

variable {a b : Call}

/-- A call does not notice a call on another operation. -/
theorem alike_next (hid : a.operationId ≠ b.operationId) (hshare : ¬ SharePaymentId a b) (db : Db) :
    Alike a.operationId a.providerPaymentId db (db.next b) where
  lookup := lookup_next_of_ne db hid.symm
  taken := fun p hp => takenElsewhere_next (fun hb => hshare ⟨p, hp, hb⟩)

theorem exec_next (hid : a.operationId ≠ b.operationId) (hshare : ¬ SharePaymentId a b) (db : Db) :
    (a.exec (db.next b)).1 = (a.exec db).1 ∧
      ((db.next b).next a).lookup a.operationId = (db.next a).lookup a.operationId :=
  exec_alike (alike_next hid hshare db)

theorem next_comm (hid : a.operationId ≠ b.operationId) (hshare : ¬ SharePaymentId a b) (db : Db) :
    (db.next a).next b = (db.next b).next a := by
  have hsymm : ¬ SharePaymentId b a := fun h => hshare h.symm
  refine Finmap.ext_lookup ?_
  intro id
  by_cases ha : a.operationId = id
  · subst ha
    rw [(exec_next hid hshare db).2]
    exact lookup_next_of_ne _ hid.symm
  · rw [lookup_next_of_ne (db.next b) ha]
    by_cases hb : b.operationId = id
    · subst hb
      exact (exec_next hid.symm hsymm db).2
    · rw [lookup_next_of_ne (db.next a) hb, lookup_next_of_ne db ha, lookup_next_of_ne db hb]

end

/-- **Calls on different operations commute.** -/
theorem operations_independent (calls : List Call) {a b : Call}
    (hid : a.operationId ≠ b.operationId) (hshare : ¬ SharePaymentId a b) :
    ((after calls).next a).next b = ((after calls).next b).next a ∧
    (a.exec ((after calls).next b)).1 = (a.exec (after calls)).1 ∧
    (b.exec ((after calls).next a)).1 = (b.exec (after calls)).1 ∧
    ((after calls).next a).lookup b.operationId = (after calls).lookup b.operationId ∧
    ((after calls).next b).lookup a.operationId = (after calls).lookup a.operationId :=
  ⟨next_comm hid hshare _, (exec_next hid hshare _).1,
    (exec_next hid.symm (fun h => hshare h.symm) _).1, lookup_next_of_ne _ hid,
    lookup_next_of_ne _ hid.symm⟩

/-- A receipt for one operation and the creation of another. -/
theorem receipt_create_independent :
    let db := after [.create 0 .sample, .submit 1 "op-1"]
    let receipt := Call.processReceipt 2 ⟨"pay-1", "op-1", .completed, "paid", 2⟩
    let other := Call.create 3
      { CreateOperationRequest.sample with
        operationId := "op-2", operationId_min := by decide, operationId_max := by decide }
    (db.next receipt).next other = (db.next other).next receipt ∧
      (receipt.exec (db.next other)).1 = (receipt.exec db).1 ∧
      (other.exec (db.next receipt)).1 = (other.exec db).1 ∧
      (db.next receipt).lookup "op-2" = db.lookup "op-2" ∧
      (db.next other).lookup "op-1" = db.lookup "op-1" :=
  operations_independent _ (by decide) (by decide)

end PaymentService
