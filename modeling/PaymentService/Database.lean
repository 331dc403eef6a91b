import PaymentService.Model
import PaymentService.Lib.Session

/-!
# The tables and the statements the services send

`Db` groups the rows of `operations`, `send_jobs` and `events` by `operation_id`, the key all
three share: the foreign keys of the migration hold by construction.  A statement either gives
the changed tables or the constraint it breaks (`varchar` and `numeric` columns, unique keys);
an update checks the columns it assigns.

Of PostgreSQL it is assumed that a text is refused by its length alone: no value holds a NUL, and a
value that is too long is refused, also where only blanks are beyond the limit.

* `Tx` — the unit-of-work sessions of `Lib/Session.lean` over these tables.
* `TakenElsewhere` — the one look a statement takes at other operations' rows: binding a payment
  id searches it among them.
-/

namespace PaymentService

open UnitOfWork

/-- The rows stored under one `operation_id`; `events` in insertion order. -/
structure Rows where
  operation : Operation
  sendJob : Option SendJob
  events : List Event
  deriving DecidableEq, Repr

abbrev Db := Finmap (fun _ : String => Rows)

abbrev Tx := Session String Db Error DbError

/-- Another operation already has this payment id. -/
def TakenElsewhere (db : Db) (operationId providerPaymentId : String) : Prop :=
  ∃ id rows, id ≠ operationId ∧ db.lookup id = some rows ∧
    rows.operation.providerPaymentId = some providerPaymentId

instance (db : Db) (operationId providerPaymentId : String) :
    Decidable (TakenElsewhere db operationId providerPaymentId) :=
  @decidable_of_iff _
    (∃ row ∈ db.entries, row.1 ≠ operationId ∧
      row.2.operation.providerPaymentId = some providerPaymentId)
    ⟨fun ⟨row, hmem, hne, hp⟩ => ⟨row.1, row.2, hne, Finmap.lookup_eq_some_iff.mpr hmem, hp⟩,
     fun ⟨id, rows, hne, hrows, hp⟩ => ⟨⟨id, rows⟩, Finmap.lookup_eq_some_iff.mp hrows, hne, hp⟩⟩
    Multiset.decidableExistsMultiset

/-! ## Column types -/

/-- `String(n)`. -/
def varchar (column : Column) (n : Nat) (text : String) : Except DbError Unit :=
  if text.length ≤ n then .ok () else .error (.dataError column)

def varcharNull (column : Column) (n : Nat) : Option String → Except DbError Unit
  | none => .ok ()
  | some text => varchar column n text

/-- `Numeric(12, 2)`, in hundredths. -/
def numeric (column : Column) (hundredths : Nat) : Except DbError Unit :=
  if hundredths < 10 ^ 12 then .ok () else .error (.dataError column)

/-- `String(128)`, unique. -/
def paymentIdColumn (db : Db) (operationId providerPaymentId : String) : Except DbError Unit :=
  match varchar .providerPaymentId 128 providerPaymentId with
  | .error e => .error e
  | .ok () =>
    if TakenElsewhere db operationId providerPaymentId then
      .error (.integrity .operationsProviderPaymentId)
    else .ok ()

/-! ## Statements -/

/-- `INSERT INTO operations`, with no payment id. -/
def insertOperation (operationId : String) (amount : Nat) (currency : String)
    (description : Option String) (status : OperationStatus) : Statement Db DbError :=
  fun db => do
    varchar .operationId 45 operationId
    numeric .amount amount
    varchar .currency 3 currency
    varcharNull .description 255 description
    match db.lookup operationId with
    | some _ => .error (.integrity .operationsPkey)
    | none => .ok (db.insert operationId ⟨⟨amount, currency, description, status, none⟩, none, []⟩)

/-- A statement on the rows of one operation. -/
def onRows (operationId : String) (change : Rows → Except DbError Rows) : Statement Db DbError :=
  fun db =>
    match db.lookup operationId with
    | none => .error (.integrity .operationsFkey)
    | some rows =>
      match change rows with
      | .error e => .error e
      | .ok rows' => .ok (db.insert operationId rows')

/-- `UPDATE operations SET status`. -/
def setStatus (operationId : String) (status : OperationStatus) : Statement Db DbError :=
  onRows operationId fun rows => .ok { rows with operation.status := status }

/-- `UPDATE operations SET provider_payment_id`. -/
def setProviderPaymentId (operationId providerPaymentId : String) : Statement Db DbError :=
  fun db =>
    match paymentIdColumn db operationId providerPaymentId with
    | .error e => .error e
    | .ok () =>
      onRows operationId
        (fun rows => .ok { rows with operation.providerPaymentId := some providerPaymentId }) db

/-- `INSERT INTO send_jobs`. -/
def insertSendJob (operationId : String) (sendJob : SendJob) : Statement Db DbError :=
  onRows operationId fun rows =>
    match rows.sendJob with
    | some _ => .error (.integrity .sendJobsPkey)
    | none => .ok { rows with sendJob := some sendJob }

/-- `UPDATE send_jobs`, of columns whose types refuse nothing. -/
def updateSendJob (operationId : String) (change : SendJob → SendJob) : Statement Db DbError :=
  onRows operationId fun rows => .ok { rows with sendJob := rows.sendJob.map change }

/-- `UPDATE send_jobs SET last_error` to a text. -/
def setLastError (operationId : String) (error : String) : Statement Db DbError :=
  onRows operationId fun rows =>
    match varchar .lastError 500 error with
    | .error e => .error e
    | .ok () => .ok { rows with sendJob := rows.sendJob.map ({ · with lastError := some error }) }

/-- `INSERT INTO events`. -/
def insertEvent (operationId : String) (event : Event) : Statement Db DbError :=
  onRows operationId fun rows =>
    match varchar .message 255 event.message with
    | .error e => .error e
    | .ok () =>
      if event.sequenceNo ∈ rows.events.map (·.sequenceNo) then
        .error (.integrity .eventsSequenceNo)
      else .ok { rows with events := rows.events ++ [event] }

/-! ## Sessions over the tables -/

namespace Tx

/-- `select(Operation).where(...).with_for_update()`. -/
def selectOperationForUpdate (operationId : String) : Tx (Option Operation) :=
  .lock operationId fun db => .ret ((db.lookup operationId).map (·.operation))

/-- `session.get(Operation, operation_id)`. -/
def selectOperation (operationId : String) : Tx (Option Operation) :=
  .query fun db => .ret ((db.lookup operationId).map (·.operation))

/-- `selectinload(Operation.send_job)`. -/
def selectSendJob (operationId : String) : Tx (Option SendJob) :=
  .query fun db => .ret ((db.lookup operationId).bind (·.sendJob))

/-- `select(Event.sequence_no)`, the last one. -/
def selectLastSequenceNo (operationId : String) : Tx (Option Nat) :=
  .query fun db =>
    .ret (((db.lookup operationId).elim [] (·.events)).map (·.sequenceNo)).max?

/-- A change the session keeps until the next flush. -/
def save (statement : Statement Db DbError) : Tx Unit := .write statement (.ret ())

/-- `session.commit()`. -/
def commit : Tx Unit :=
  Session.commit fun
    | .ok () => .ret ()
    | .error e => .raise (.database e)

/-- `session.commit()` under `except IntegrityError`, which raises `error` instead. -/
def commitExceptIntegrity (error : Error) : Tx Unit :=
  Session.commit fun
    | .ok () => .ret ()
    | .error (.integrity _) => .raise error
    | .error (.dataError column) => .raise (.database (.dataError column))

/-- `session.refresh(operation)`. -/
def refresh (operationId : String) : Tx Operation :=
  .query fun db =>
    match db.lookup operationId with
    | some rows => .ret rows.operation
    | none => .raise .invalidRequestError

/-- A transaction on its own: its result and the tables it leaves. -/
def exec {α : Type} (tx : Tx α) (db : Db) : Except Error α × Db := tx.run Error.database [] db

end Tx

end PaymentService
