import Mathlib.Data.Finmap
import Mathlib.Data.Rat.Floor

/-!
# Rows, requests and errors of the payment service

Data model of `app/db/models`, `app/schemas` and `app/core/exceptions.py`.

* `Operation`, `SendJob`, `Event` are the columns of the three tables.  `operation_id` is the
  key the rows are stored under (`Database.lean`), so it is not repeated in them; the surrogate
  `Event.id` and the `created_at` / `updated_at` columns of `operations`, which no function
  reads, are left out.
* `CreateOperationRequest` carries what its validators check as fields, so a request that the
  schema refuses cannot be built.
* `Error` is what the services raise, with the texts they raise it with; `DbError` is what
  PostgreSQL answers to a statement that breaks a constraint.
-/

namespace PaymentService

/-- Microseconds since the epoch; `datetime` and `timestamptz` both keep whole microseconds. -/
abbrev Timestamp := Int

inductive OperationStatus where
  | created
  | processing
  | completed
  | rejected
  deriving DecidableEq, Repr

def OperationStatus.value : OperationStatus → String
  | .created => "CREATED"
  | .processing => "PROCESSING"
  | .completed => "COMPLETED"
  | .rejected => "REJECTED"

theorem OperationStatus.value_length (status : OperationStatus) : status.value.length ≤ 10 := by
  cases status <;> decide

inductive SendJobState where
  | pending
  | running
  | waitingRetry
  | done
  deriving DecidableEq, Repr

inductive EventType where
  | created
  | submitRequested
  | receiptCompleted
  | receiptRejected
  | receiptIgnored
  deriving DecidableEq, Repr

/-- A finite `Decimal`: `(-1) ^ negative * coefficient * 10 ^ exponent`. -/
structure Decimal where
  negative : Bool
  coefficient : Nat
  exponent : Int
  deriving DecidableEq, Repr

/-- `value > 0`. -/
def Decimal.positive (d : Decimal) : Bool := !d.negative && d.coefficient != 0

/-- The number of hundredths in a decimal whose exponent is at least `-2`. -/
def Decimal.hundredths (d : Decimal) : Nat := d.coefficient * 10 ^ (d.exponent + 2).toNat

/-- A row of `operations`; `amount` is a `Numeric(12, 2)`, counted in hundredths. -/
structure Operation where
  amount : Nat
  currency : String
  description : Option String
  status : OperationStatus
  providerPaymentId : Option String
  deriving DecidableEq, Repr

/-- A row of `send_jobs`. -/
structure SendJob where
  state : SendJobState
  attempt : Nat
  nextRetryAt : Option Timestamp
  lastError : Option String
  createdAt : Timestamp
  updatedAt : Timestamp
  deriving DecidableEq, Repr

/-- A row of `events`. -/
structure Event where
  sequenceNo : Nat
  type : EventType
  fromStatus : Option OperationStatus
  toStatus : OperationStatus
  message : String
  occurredAt : Timestamp
  deriving DecidableEq, Repr

/-- `Literal["COMPLETED", "REJECTED"]`. -/
inductive ReceiptResult where
  | completed
  | rejected
  deriving DecidableEq, Repr

def ReceiptResult.value : ReceiptResult → String
  | .completed => "COMPLETED"
  | .rejected => "REJECTED"

theorem ReceiptResult.value_length (result : ReceiptResult) : result.value.length ≤ 9 := by
  cases result <;> decide

/-- `OperationStatus(receipt.result)`. -/
def ReceiptResult.status : ReceiptResult → OperationStatus
  | .completed => .completed
  | .rejected => .rejected

/-- A receipt never asks for a status that is not final. -/
@[simp] theorem ReceiptResult.status_ne_created (result : ReceiptResult) :
    result.status ≠ .created := by cases result <;> simp [status]

@[simp] theorem ReceiptResult.status_ne_processing (result : ReceiptResult) :
    result.status ≠ .processing := by cases result <;> simp [status]

theorem ReceiptResult.status_injective : Function.Injective status := by
  intro a b h
  cases a <;> cases b <;> first | rfl | cases h

structure ReceiptRequest where
  providerPaymentId : String
  operationId : String
  result : ReceiptResult
  message : String
  occurredAt : Timestamp
  deriving DecidableEq, Repr

/-- A request `CreateOperationRequest` accepts. -/
structure CreateOperationRequest where
  operationId : String
  amount : Decimal
  currency : String
  description : Option String
  operationId_min : 1 ≤ operationId.length
  operationId_max : operationId.length ≤ 45
  amount_positive : amount.positive = true
  amount_places : -2 ≤ amount.exponent
  currency_rub : currency = "RUB"
  description_max : ∀ text ∈ description, text.length ≤ 255
  deriving DecidableEq, Repr

/-- The request of the worked runs. -/
def CreateOperationRequest.sample : CreateOperationRequest where
  operationId := "op-1"
  amount := ⟨false, 10050, -2⟩
  currency := "RUB"
  description := none
  operationId_min := by decide
  operationId_max := by decide
  amount_positive := by decide
  amount_places := by decide
  currency_rub := rfl
  description_max := fun _ h => by cases h

/-! ## Errors -/

/-- The constraints of the schema; `operationsFkey` is the one of both child tables. -/
inductive Constraint where
  | operationsPkey
  | operationsProviderPaymentId
  | operationsFkey
  | sendJobsPkey
  | eventsSequenceNo
  deriving DecidableEq, Repr

/-- The columns whose type can refuse a value. -/
inductive Column where
  | operationId
  | amount
  | currency
  | description
  | providerPaymentId
  | lastError
  | message
  deriving DecidableEq, Repr

/-- A statement PostgreSQL fails: `integrity` reaches Python as `IntegrityError`, `dataError`
as another `DBAPIError`. -/
inductive DbError where
  | integrity (constraint : Constraint)
  | dataError (column : Column)
  deriving DecidableEq, Repr

/-- Exceptions the services raise or let through. -/
inductive Error where
  | operationAlreadyExists (operationId : String)
  | operationNotFound (operationId : String)
  | providerPaymentConflict (message : String)
  | valueError (message : String)
  | overflowError
  | invalidRequestError
  | database (error : DbError)
  deriving DecidableEq, Repr

end PaymentService
