import PaymentService.Receipts
import PaymentService.Serializability
import PaymentService.Lib.Race

/-!
# Concurrent creation of one operation

`OperationService.create`, any number of calls with one `operation_id`, statement by statement.
It looks for the id, and its commit turns a duplicate key into `OperationAlreadyExistsError`; but
the INSERT is already sent by the read in `_get_next_sequence_no`, where nothing catches it.

* `creation` — `create` is an `Inserter` of `Lib/Race.lean` (`create_eq`).
* `createOperation` — what the route makes of the outcome.
* `CreatedOnce` — one call returns the operation, all others conflict.
* `created_once_iff` — **the creation is clean exactly when no call makes its check while another
  call is between its check and its commit**.
-/

namespace PaymentService

open UnitOfWork Tx

/-- The route `create_operation`. -/
def createOperation : Except Error Operation → Except Error Response
  | .ok _ => .ok ⟨201, none⟩
  | .error (.operationAlreadyExists operationId) =>
    .ok ⟨409, some s!"Operation '{operationId}' already exists"⟩
  | .error e => .error e

/-! ## One call -/

/-- A second row under the id is refused by the primary key. -/
theorem insertOperation_taken {db : Db} (request : CreateOperationRequest)
    (hamount : request.amount.hundredths < 10 ^ 12)
    (htaken : present request.operationId db = true) :
    insertOperation request.operationId request.amount.hundredths request.currency
      request.description .created db = .error (.integrity .operationsPkey) := by
  obtain ⟨rows, hrows⟩ := Option.isSome_iff_exists.mp htaken
  rw [insertOperation_eq db request hamount, hrows]

/-- What `create` does with the result of its commit. -/
def createdTail (operationId : String) : Except DbError Unit → Tx Operation
  | .ok () => refresh operationId
  | .error (.integrity _) => .raise (.operationAlreadyExists operationId)
  | .error (.dataError column) => .raise (.database (.dataError column))

/-- `create` as an insertion. -/
def creation (db : Db) (now : Timestamp) (request : CreateOperationRequest)
    (hamount : request.amount.hundredths < 10 ^ 12) :
    Inserter String Db Error DbError Operation (present request.operationId) db where
  conflict := .operationAlreadyExists request.operationId
  insert := insertOperation request.operationId request.amount.hundredths request.currency
    request.description .created
  duplicate := .integrity .operationsPkey
  view := db.insert request.operationId ⟨⟨request.amount.hundredths, request.currency,
    request.description, .created, none⟩, none, []⟩
  more := fun view => insertEvent request.operationId
    ⟨nextSequenceNo ((view.lookup request.operationId).elim [] (·.events)), .created, none,
      .created, "Operation created", now⟩
  row := db.insert request.operationId (Rows.created now request)
  done := createdTail request.operationId
  reload := fun db =>
    match db.lookup request.operationId with
    | some rows => .ret rows.operation
    | none => .raise .invalidRequestError
  answer := (Rows.created now request).operation
  insert_taken := fun _ htaken => insertOperation_taken request hamount htaken
  insert_free := by
    intro hfree
    have hrows : db.lookup request.operationId = none := Option.not_isSome_iff_eq_none.mp (by
      rw [show (db.lookup request.operationId).isSome = false from hfree]
      exact Bool.false_ne_true)
    refine (flush_singleton _ _).symm.trans ?_
    exact flush_insertOperation request hrows hamount []
  more_view := by
    rw [Finmap.lookup_insert]
    refine (flush_singleton _ _).symm.trans ?_
    refine (flush_insertEvent (Finmap.lookup_insert db) now .created none .created created_fits
      []).trans ?_
    rw [Finmap.insert_insert]
    rfl
  row_present := by
    unfold present
    rw [Finmap.lookup_insert]
    rfl
  done_ok := rfl
  reload_row := by rw [Finmap.lookup_insert]

theorem create_eq (db : Db) (now : Timestamp) (request : CreateOperationRequest)
    (hamount : request.amount.hundredths < 10 ^ 12) :
    create now request = (creation db now request hamount).session := by
  unfold create existsOfThrowException selectOperation
  simp only [Session.query_bind, Session.ret_bind]
  refine congrArg Session.query (funext fun view => ?_)
  unfold present
  cases hrows : view.lookup request.operationId with
  | some rows => rfl
  | none =>
    simp only [Option.map_none, pure_bind, createEvent_bind]
    refine congrArg (Session.write _) (congrArg Session.query (funext fun view => ?_))
    refine congrArg (Session.write _) (congrArg Session.commit (funext fun result => ?_))
    rcases result with (_ | _) | _ <;> rfl

/-! ## Many calls -/

section

variable {I : Type} [DecidableEq I]

/-- The calls before their first statement. -/
def startCreations (db : Db) (now : I → Timestamp) (request : I → CreateOperationRequest) :
    System I String Db Error DbError Operation :=
  System.start (fun i => create (now i) (request i)) db

/-- One statement of call `i`. -/
def creationStep (operationId : String) : System I String Db Error DbError Operation → I →
    System I String Db Error DbError Operation :=
  System.insertStep Error.database operationId

/-- One call returns the operation, which is stored with its CREATED event; every other call raises
`OperationAlreadyExistsError`, which the route answers with 409. -/
structure CreatedOnce (operationId : String) (σ : System I String Db Error DbError Operation)
    (winner : I) : Prop where
  returned : ∃ rows event, σ.threads winner = .finished (.ok rows.operation) ∧
    σ.db.lookup operationId = some rows ∧ rows.events = [event] ∧ event.type = .created ∧
    event.sequenceNo = 1
  conflicts : ∀ j, j ≠ winner → ∃ outcome detail, σ.threads j = .finished outcome ∧
    outcome = .error (.operationAlreadyExists operationId) ∧
    createOperation outcome = .ok ⟨409, some detail⟩

omit [DecidableEq I] in
theorem startCreations_eq (db : Db) (now : I → Timestamp) {request : I → CreateOperationRequest}
    {id : String} (hid : ∀ i, (request i).operationId = id)
    (hamount : ∀ i, (request i).amount.hundredths < 10 ^ 12) :
    ∃ x : I → Inserter String Db Error DbError Operation (present id) db,
      startCreations db now request = System.start (fun i => (x i).session) db ∧
      ∀ i, (x i).conflict = .operationAlreadyExists id ∧
        (x i).duplicate = .integrity .operationsPkey ∧
        (x i).row = db.insert id (Rows.created (now i) (request i)) ∧
        (x i).answer = (Rows.created (now i) (request i)).operation := by
  have hone : ∀ i, ∃ x : Inserter String Db Error DbError Operation (present id) db,
      create (now i) (request i) = x.session ∧ x.conflict = .operationAlreadyExists id ∧
        x.duplicate = .integrity .operationsPkey ∧
        x.row = db.insert id (Rows.created (now i) (request i)) ∧
        x.answer = (Rows.created (now i) (request i)).operation := by
    intro i
    cases hid i
    exact ⟨creation db (now i) (request i) (hamount i), create_eq db _ _ _, rfl, rfl, rfl, rfl⟩
  choose x hsession hfields using hone
  refine ⟨x, ?_, hfields⟩
  unfold startCreations
  rw [funext hsession]

/-- **Clean exactly when no call checks while another is creating.**  Every call can finish. -/
theorem created_once_iff [Finite I] [Nonempty I] (db : Db) (now : I → Timestamp)
    {request : I → CreateOperationRequest} {id : String}
    (hid : ∀ i, (request i).operationId = id)
    (hamount : ∀ i, (request i).amount.hundredths < 10 ^ 12) (schedule : List I) :
    (∃ more, (Runs.run (creationStep id) (startCreations db now request)
      (schedule ++ more)).Finished) ∧
    ((Runs.run (creationStep id) (startCreations db now request) schedule).Finished →
      ((∃ w, CreatedOnce id
          (Runs.run (creationStep id) (startCreations db now request) schedule) w) ↔
        db.lookup id = none ∧
        ∀ p ∈ Runs.history (creationStep id) (startCreations db now request) schedule,
          ¬ EarlyCheck (present id) p.1 p.2)) := by
  obtain ⟨x, hstart, hfields⟩ := startCreations_eq db now hid hamount
  rw [hstart]
  unfold creationStep
  have habsent : present id db = false ↔ db.lookup id = none := by
    unfold present
    simp
  refine ⟨can_finish x Error.database id schedule, fun hfinished => ?_⟩
  constructor
  · rintro ⟨w, hreturned, hconflicts⟩
    obtain ⟨rows, event, hw, -⟩ := hreturned
    refine ⟨habsent.mp (free_of_answer hw), fun p hp hearly => ?_⟩
    obtain ⟨i, hi⟩ := broken_of_early hfinished hp hearly
    rw [(hfields i).2.1] at hi
    by_cases hiw : i = w
    · rw [hiw, hw] at hi
      cases hi
    · obtain ⟨outcome, detail, hj, rfl, -⟩ := hconflicts i hiw
      cases hi.symm.trans hj
  · rintro ⟨hfree, hnone⟩
    obtain ⟨w, hw, hdb, hothers⟩ := clean_of_no_early schedule hfinished (habsent.mpr hfree) hnone
    obtain ⟨-, -, hrow, hanswer⟩ := hfields w
    refine ⟨w, ⟨Rows.created (now w) (request w), _, ?_, ?_, rfl, rfl, rfl⟩, fun j hj => ?_⟩
    · rw [hw, hanswer]
    · rw [hdb, hrow]
      exact Finmap.lookup_insert db
    · exact ⟨_, _, hothers j hj, congrArg Except.error (hfields j).1, by rw [(hfields j).1]; rfl⟩

end

/-- One call after another. -/
theorem created_once_sequential :
    let now : Bool → Timestamp := fun i => if i then 1 else 0
    let σ₀ := startCreations ∅ now (fun _ => .sample)
    let schedule := [false, false, false, false, false, false, false, true, true]
    (Runs.run (creationStep "op-1") σ₀ schedule).Finished ∧
      ((∃ w, CreatedOnce "op-1" (Runs.run (creationStep "op-1") σ₀ schedule) w) ↔
        Finmap.lookup "op-1" (∅ : Db) = none ∧
        ∀ p ∈ Runs.history (creationStep "op-1") σ₀ schedule,
          ¬ EarlyCheck (present "op-1") p.1 p.2) := by
  intro now σ₀ schedule
  have hfinished : (Runs.run (creationStep "op-1") σ₀ schedule).Finished :=
    finished_of_outcome (by decide +kernel)
  exact ⟨hfinished, (@created_once_iff Bool _ _ _ ∅ now (fun _ => .sample) "op-1" (fun _ => rfl)
    (fun _ => by decide) schedule).2 hfinished⟩

/-- Both calls find no row; the second INSERT fails in the read before the commit, and the route
lets the database error through. -/
theorem concurrent_create_not_clean :
    let now : Bool → Timestamp := fun i => if i then 1 else 0
    let request : Bool → CreateOperationRequest := fun _ => .sample
    let schedule := [false, true, false, false, false, false, false, false, true, true]
    let σ := Runs.run (creationStep "op-1") (startCreations ∅ now request) schedule
    σ.Finished ∧ σ.threads true = .finished (.error (.database (.integrity .operationsPkey))) ∧
      createOperation (.error (.database (.integrity .operationsPkey))) =
        .error (.database (.integrity .operationsPkey)) ∧
      ¬ ∃ w, CreatedOnce "op-1" σ w := by
  intro now request schedule σ
  have hbroken : σ.threads true = .finished (.error (.database (.integrity .operationsPkey))) :=
    Thread.outcome_eq_some.mp (by decide +kernel)
  refine ⟨finished_of_outcome (by decide +kernel), hbroken, rfl, ?_⟩
  rintro ⟨w, hreturned, hconflicts⟩
  cases w with
  | false =>
    obtain ⟨outcome, detail, hi, rfl, -⟩ := hconflicts true (by decide)
    cases hbroken.symm.trans hi
  | true =>
    obtain ⟨rows, event, hw, -⟩ := hreturned
    cases hbroken.symm.trans hw

end PaymentService
