import PaymentService.Api

/-!
# The registry of operations

What the service is for its clients, without tables, jobs, sequence numbers, transactions or
workers: an account for each operation, with the terms it was created under, at most one payment id,
and a history.  The status is where the history ends, an event's id its place in it.

* `Account`, `Account.Move` — an account, and what can happen to it: it is submitted, bound to a
  payment id, settled, or a receipt is ignored.
* `Move.extends` — a move only adds to what `Account.Extends` compares.
* `TakesEffect` — what a request does to the accounts at the one moment it takes effect.
* `Registry.Step` — the registry with its clients: requests come in, take effect in any order, and
  are answered; meanwhile payments are confirmed, which no client sees happen.
-/

namespace PaymentService

/-! ## Accounts -/

structure Terms where
  amount : Nat
  currency : String
  description : Option String
  deriving DecidableEq, Repr

structure Entry where
  type : EventType
  fromStatus : Option OperationStatus
  toStatus : OperationStatus
  message : String
  occurredAt : Timestamp
  deriving DecidableEq, Repr

structure Account where
  terms : Terms
  providerPaymentId : Option String
  history : List Entry
  deriving DecidableEq, Repr

namespace Account

def status (account : Account) : OperationStatus :=
  (account.history.getLast?.map (·.toStatus)).getD .created

def opened (now : Timestamp) (request : CreateOperationRequest) : Account where
  terms := ⟨request.amount.hundredths, request.currency, request.description⟩
  providerPaymentId := none
  history := [⟨.created, none, .created, "Operation created", now⟩]

def record (account : Account) (now : Timestamp) (type : EventType) (toStatus : OperationStatus)
    (message : String) : Account :=
  { account with
    history := account.history ++ [⟨type, some account.status, toStatus, message, now⟩] }

def bind (account : Account) (providerPaymentId : String) : Account :=
  { account with providerPaymentId := some providerPaymentId }

def submitted (account : Account) (now : Timestamp) : Account :=
  account.record now .submitRequested .processing "Payment submission requested"

def settled (account : Account) (now : Timestamp) (receipt : ReceiptRequest) : Account :=
  (account.bind receipt.providerPaymentId).record now (handleStatus receipt.result)
    receipt.result.status receipt.message

def ignored (account : Account) (now : Timestamp) (receipt : ReceiptRequest) : Account :=
  (account.bind receipt.providerPaymentId).record now .receiptIgnored account.status
    (Rows.ignoredMessage receipt.result account.status)

/-- What `GET /operations/{id}` shows of it. -/
def response (account : Account) (operationId : String) : OperationResponse where
  operationId := operationId
  amount := formatAmount account.terms.amount
  currency := account.terms.currency
  description := account.terms.description
  status := account.status
  providerPaymentId := account.providerPaymentId

/-- What `GET /operations/{id}/events` shows of it: the history, numbered from 1. -/
def events (account : Account) : List EventResponse :=
  account.history.mapIdx fun i entry =>
    ⟨i + 1, entry.type, entry.fromStatus, entry.toStatus, entry.message, entry.occurredAt⟩

@[simp] theorem record_status (account : Account) (now : Timestamp) (type : EventType)
    (toStatus : OperationStatus) (message : String) :
    (account.record now type toStatus message).status = toStatus := by
  simp [record, status]

@[simp] theorem bind_status (account : Account) (p : String) :
    (account.bind p).status = account.status := rfl

theorem bind_self {account : Account} {p : String} (h : account.providerPaymentId = some p) :
    account.bind p = account := by
  obtain ⟨terms, id, history⟩ := account
  cases h
  rfl

/-- What can happen to an account. -/
inductive Move : Account → Account → Prop
  | submitted {a : Account} (now : Timestamp) (hstatus : a.status = .created) :
      Move a (a.submitted now)
  | bound {a : Account} (p : String)
      (hp : ∀ existing ∈ a.providerPaymentId, existing = p) : Move a (a.bind p)
  | settled {a : Account} (now : Timestamp) (receipt : ReceiptRequest)
      (hstatus : a.status = .processing)
      (hp : ∀ existing ∈ a.providerPaymentId, existing = receipt.providerPaymentId)
      (hmessage : receipt.message.length ≤ 255) : Move a (a.settled now receipt)
  | ignored {a : Account} (now : Timestamp) (receipt : ReceiptRequest)
      (hstatus : a.status ≠ .processing) (hresult : a.status ≠ receipt.result.status)
      (hp : ∀ existing ∈ a.providerPaymentId, existing = receipt.providerPaymentId) :
      Move a (a.ignored now receipt)

/-- What a client that has seen an account can rely on. -/
structure Extends (a b : Account) : Prop where
  terms : b.terms = a.terms
  providerPaymentId : ∀ p ∈ a.providerPaymentId, b.providerPaymentId = some p
  history : a.history <+: b.history
  /-- The status goes forward. -/
  processing : a.status ≠ .created → b.status ≠ .created
  final : ∀ result : ReceiptResult, a.status = result.status → b.status = result.status

theorem Extends.refl (a : Account) : a.Extends a :=
  ⟨rfl, fun _ h => h, List.prefix_refl _, fun h => h, fun _ h => h⟩

theorem Extends.trans {a b c : Account} (hab : a.Extends b) (hbc : b.Extends c) : a.Extends c where
  terms := hbc.terms.trans hab.terms
  providerPaymentId := fun p hp => hbc.providerPaymentId p (hab.providerPaymentId p hp)
  history := hab.history.trans hbc.history
  processing := fun h => hbc.processing (hab.processing h)
  final := fun result h => hbc.final result (hab.final result h)

/-- **A move only adds.** -/
theorem Move.extends {a b : Account} (h : Move a b) : a.Extends b := by
  cases h with
  | submitted now hstatus =>
    refine ⟨rfl, fun _ h => h, List.prefix_append _ _, fun h => absurd hstatus h, ?_⟩
    intro result hresult
    exact absurd (hresult.symm.trans hstatus) (ReceiptResult.status_ne_created result)
  | bound p hp =>
    refine ⟨rfl, fun q hq => ?_, List.prefix_refl _, fun h => h, fun _ h => h⟩
    rw [hp q hq]
    rfl
  | settled now receipt hstatus hp hmessage =>
    refine ⟨rfl, fun q hq => ?_, List.prefix_append _ _, fun _ => ?_, ?_⟩
    · rw [hp q hq]
      rfl
    · simp [Account.settled]
    · intro result hresult
      exact absurd (hresult.symm.trans hstatus) (ReceiptResult.status_ne_processing result)
  | ignored now receipt hstatus hresult hp =>
    refine ⟨rfl, fun q hq => ?_, List.prefix_append _ _, fun h => ?_, fun result h => ?_⟩
    · rw [hp q hq]
      rfl
    · simpa [Account.ignored] using h
    · simpa [Account.ignored] using h

/-- The events seen earlier are the first of those seen later. -/
theorem Extends.events {a b : Account} (h : a.Extends b) : a.events <+: b.events := by
  obtain ⟨more, hmore⟩ := h.history
  unfold Account.events
  rw [← hmore, List.mapIdx_append]
  exact List.prefix_append _ _

end Account

/-! ## Requests -/

abbrev Accounts := String → Option Account

namespace Accounts

def set (accounts : Accounts) (id : String) (account : Account) : Accounts :=
  Function.update accounts id (some account)

@[simp] theorem set_self (accounts : Accounts) (id : String) (account : Account) :
    accounts.set id account id = some account := Function.update_self ..

theorem set_of_ne (accounts : Accounts) {id id' : String} (account : Account) (h : id' ≠ id) :
    accounts.set id account id' = accounts id' := Function.update_of_ne h ..

/-- The payment id fits its column, and is on no other account. -/
def Free (accounts : Accounts) (id p : String) : Prop :=
  p.length ≤ 128 ∧ ∀ id' account, id' ≠ id → accounts id' = some account →
    account.providerPaymentId ≠ some p

/-- The account has this payment id, or none and can take it. -/
def CanBind (accounts : Accounts) (id p : String) (account : Account) : Prop :=
  account.providerPaymentId = some p ∨
    account.providerPaymentId = none ∧ accounts.Free id p

theorem CanBind.eq {accounts : Accounts} {id p : String} {account : Account}
    (h : accounts.CanBind id p account) : ∀ existing ∈ account.providerPaymentId, existing = p := by
  intro existing hexisting
  rcases h with hp | ⟨hnone, -⟩
  · exact Option.some.inj (hexisting.symm.trans hp)
  · cases hnone.symm.trans hexisting

end Accounts

/-- How far a request has come. -/
inductive Phase where
  | received
  /-- The id of a create request was found free. -/
  | admitted
  /-- It has taken effect, with this status code; the account is read for the answer. -/
  | reading (statusCode : Nat)
  | answered (answer : Option ApiResponse)
  deriving DecidableEq, Repr

/-- The operation a request does not find, as its 404 names it. -/
def ApiRequest.missing : ApiRequest → String
  | .receiveReceipt receipt => s!"Operation not found: {receipt.operationId}"
  | request => request.operationId

def ApiRequest.creates : ApiRequest → Bool
  | .createOperation _ => true
  | .getOperationEvents _ | .submitOperation _ | .getOperation _ | .receiveReceipt _ => false

/-- What a request does to the accounts when its turn has come, and how far it gets. -/
inductive TakesEffect (accounts : Accounts) : ApiRequest → Phase → Accounts → Phase → Prop
  | registered {request : CreateOperationRequest} {a : Account}
      (ha : accounts request.operationId = some a) :
      TakesEffect accounts (.createOperation request) .received accounts
        (.answered (some ⟨409, .detail s!"Operation '{request.operationId}' already exists"⟩))
  | admitted {request : CreateOperationRequest} (hfree : accounts request.operationId = none) :
      TakesEffect accounts (.createOperation request) .received accounts .admitted
  | created {request : CreateOperationRequest} (now : Timestamp)
      (hfree : accounts request.operationId = none)
      (hamount : request.amount.hundredths < 10 ^ 12) :
      TakesEffect accounts (.createOperation request) .admitted
        (accounts.set request.operationId (.opened now request)) (.reading 201)
  /-- The account was opened by another request in between. -/
  | overtaken {request : CreateOperationRequest} {a : Account}
      (ha : accounts request.operationId = some a) :
      TakesEffect accounts (.createOperation request) .admitted accounts (.answered none)
  | tooLarge {request : CreateOperationRequest}
      (hamount : ¬ request.amount.hundredths < 10 ^ 12) :
      TakesEffect accounts (.createOperation request) .admitted accounts (.answered none)
  | read {request : ApiRequest} {a : Account} (statusCode : Nat)
      (ha : accounts request.operationId = some a) :
      TakesEffect accounts request (.reading statusCode) accounts
        (.answered (some ⟨statusCode, .operation (a.response request.operationId)⟩))
  | missing {request : ApiRequest} (hcreates : request.creates = false)
      (hnone : accounts request.operationId = none) :
      TakesEffect accounts request .received accounts
        (.answered (some ⟨404, .detail s!"Operation '{request.missing}' not found"⟩))
  | gotOperation {id : PathParam} {a : Account} (ha : accounts id.value = some a) :
      TakesEffect accounts (.getOperation id) .received accounts
        (.answered (some ⟨200, .operation (a.response id.value)⟩))
  | gotEvents {id : PathParam} {a : Account} (ha : accounts id.value = some a) :
      TakesEffect accounts (.getOperationEvents id) .received accounts
        (.answered (some ⟨200, .events a.events⟩))
  | submitted {id : PathParam} {a : Account} (now : Timestamp) (ha : accounts id.value = some a)
      (hstatus : a.status = .created) :
      TakesEffect accounts (.submitOperation id) .received
        (accounts.set id.value (a.submitted now)) (.reading 202)
  | resubmitted {id : PathParam} {a : Account} (ha : accounts id.value = some a)
      (hstatus : a.status ≠ .created) :
      TakesEffect accounts (.submitOperation id) .received accounts
        (.answered (some ⟨200, .operation (a.response id.value)⟩))
  | conflict {receipt : ReceiptRequest} {a : Account} {existing : String}
      (ha : accounts receipt.operationId = some a)
      (hexisting : a.providerPaymentId = some existing)
      (hne : existing ≠ receipt.providerPaymentId) :
      TakesEffect accounts (.receiveReceipt receipt) .received accounts
        (.answered (some ⟨409, .detail s!"Provider payment ID conflict: operation={receipt.operationId}, existing={existing}, received={receipt.providerPaymentId}"⟩))
  | unbindable {receipt : ReceiptRequest} {a : Account}
      (ha : accounts receipt.operationId = some a) (hnone : a.providerPaymentId = none)
      (hfree : ¬ accounts.Free receipt.operationId receipt.providerPaymentId) :
      TakesEffect accounts (.receiveReceipt receipt) .received accounts (.answered none)
  | tooLong {receipt : ReceiptRequest} {a : Account} (ha : accounts receipt.operationId = some a)
      (hstatus : a.status = .processing)
      (hp : accounts.CanBind receipt.operationId receipt.providerPaymentId a)
      (hmessage : ¬ receipt.message.length ≤ 255) :
      TakesEffect accounts (.receiveReceipt receipt) .received accounts (.answered none)
  | settled {receipt : ReceiptRequest} {a : Account} (now : Timestamp)
      (ha : accounts receipt.operationId = some a) (hstatus : a.status = .processing)
      (hp : accounts.CanBind receipt.operationId receipt.providerPaymentId a)
      (hmessage : receipt.message.length ≤ 255) :
      TakesEffect accounts (.receiveReceipt receipt) .received
        (accounts.set receipt.operationId (a.settled now receipt))
        (.answered (some ⟨204, .empty⟩))
  | repeated {receipt : ReceiptRequest} {a : Account} (ha : accounts receipt.operationId = some a)
      (hresult : a.status = receipt.result.status)
      (hp : accounts.CanBind receipt.operationId receipt.providerPaymentId a) :
      TakesEffect accounts (.receiveReceipt receipt) .received
        (accounts.set receipt.operationId (a.bind receipt.providerPaymentId))
        (.answered (some ⟨204, .empty⟩))
  | ignored {receipt : ReceiptRequest} {a : Account} (now : Timestamp)
      (ha : accounts receipt.operationId = some a) (hstatus : a.status ≠ .processing)
      (hresult : a.status ≠ receipt.result.status)
      (hp : accounts.CanBind receipt.operationId receipt.providerPaymentId a) :
      TakesEffect accounts (.receiveReceipt receipt) .received
        (accounts.set receipt.operationId (a.ignored now receipt))
        (.answered (some ⟨204, .empty⟩))

/-! ## The registry and its clients -/

structure Registry (H : Type) where
  accounts : Accounts
  exchanges : H → Option (ApiRequest × Phase)

namespace Registry

variable {H : Type} [DecidableEq H]

omit [DecidableEq H] in
/-- No account, and nothing asked. -/
def empty : Registry H := ⟨fun _ => none, fun _ => none⟩

inductive Step : Visible.Steps (Registry H) (Shown H)
  | request {ρ : Registry H} (h : H) (request : ApiRequest) (hidle : ρ.exchanges h = none) :
      Step ρ (some (.request h request))
        ⟨ρ.accounts, Function.update ρ.exchanges h (some (request, .received))⟩
  | take {ρ : Registry H} {h : H} {request : ApiRequest} {phase phase' : Phase}
      {accounts : Accounts} (hh : ρ.exchanges h = some (request, phase))
      (htakes : TakesEffect ρ.accounts request phase accounts phase') :
      Step ρ none ⟨accounts, Function.update ρ.exchanges h (some (request, phase'))⟩
  | answer {ρ : Registry H} {h : H} {request : ApiRequest} {answer : Option ApiResponse}
      (hh : ρ.exchanges h = some (request, .answered answer)) :
      Step ρ (some (.answer h request answer))
        ⟨ρ.accounts, Function.update ρ.exchanges h none⟩
  /-- The connection is lost. -/
  | lost {ρ : Registry H} (h : H) :
      Step ρ none ⟨ρ.accounts, Function.update ρ.exchanges h none⟩
  /-- The provider has accepted the payment; it is only asked for ids that can be sent to it. -/
  | confirmed {ρ : Registry H} {id p : String} {a : Account} (ha : ρ.accounts id = some a)
      (hstatus : a.status = .processing) (hnone : a.providerPaymentId = none)
      (hfree : ρ.accounts.Free id p) (hheader : HeaderValue id) :
      Step ρ none ⟨ρ.accounts.set id (a.bind p), ρ.exchanges⟩

end Registry

end PaymentService
