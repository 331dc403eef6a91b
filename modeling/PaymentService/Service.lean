import PaymentService.Registry
import PaymentService.Workers

/-!
# The service and its clients

The whole of `app/main.py` in operation: the routes, any number of them at once, over the tables
and the workers of `Workers.lean`.

* `Exchange`, `Service`, `Service.step` — a request on its way through its route, one segment at a
  time, and what can happen next.  Between two segments anything else may happen; a segment, up to
  a commit or to a read that holds no lock, is one step.
* `Service.label` — what of it can be seen: requests and answers.
* `Rows.account`, `Db.accounts` — the account the rows of an operation stand for.
* `Related` — what holds between the tables, the routes and the registry; `registry_simulates`:
  every step of the service is one of the registry, or none.
* `service_refines_registry` — **whatever the workers do, the clients see a registry**.
-/

namespace PaymentService

open UnitOfWork

/-! ## The service -/

/-- A request, and what is left of its route. -/
structure Exchange where
  request : ApiRequest
  rest : Tx ApiResponse

structure Service (W H : Type) where
  world : World W
  exchanges : H → Option Exchange

inductive ServiceAction (W H : Type) where
  /-- A request comes in; its route goes by this time. -/
  | request (h : H) (now : Timestamp) (request : ApiRequest)
  /-- The next segment of the route, as one step: a transaction that locks its operation has the
  effect it has on its own (`transactions_serializable`), and `create` inserts under a unique key
  (`created_once_iff`). -/
  | run (h : H)
  | answer (h : H)
  /-- The connection is lost, or the process with the route. -/
  | lose (h : H)
  | work (now : Timestamp) (worker : W) (step : WorkerStep)

/-- The answer of a route that has come to its end; `none` when it has raised. -/
def ended : Tx ApiResponse → Option (Option ApiResponse)
  | .ret response => some (some response)
  | .raise _ => some none
  | _ => none

namespace Service

variable {W H : Type}

/-- Empty tables, idle workers and no requests. -/
def start : Service W H := ⟨World.start, fun _ => none⟩

variable [HttpClient] [DecidableEq W] [DecidableEq H] (kind : W → WorkerKind)

def step (σ : Service W H) : ServiceAction W H → Service W H
  | .request h now request =>
    match σ.exchanges h with
    | none => ⟨σ.world, Function.update σ.exchanges h (some ⟨request, request.route now⟩)⟩
    | some _ => σ
  | .run h =>
    match σ.exchanges h with
    | none => σ
    | some exchange =>
      let result := segmentOf exchange.rest σ.world.db
      ⟨{ σ.world with db := result.2 },
        Function.update σ.exchanges h (some ⟨exchange.request, result.1⟩)⟩
  | .answer h =>
    match (σ.exchanges h).bind fun exchange => ended exchange.rest with
    | none => σ
    | some _ => ⟨σ.world, Function.update σ.exchanges h none⟩
  | .lose h => ⟨σ.world, Function.update σ.exchanges h none⟩
  | .work now w step => ⟨σ.world.step kind (.work now w step), σ.exchanges⟩

omit [HttpClient] [DecidableEq W] [DecidableEq H] in
/-- What a step shows. -/
def label (σ : Service W H) : ServiceAction W H → Option (Shown H)
  | .request h _ request =>
    match σ.exchanges h with
    | none => some (.request h request)
    | some _ => none
  | .answer h =>
    (σ.exchanges h).bind fun exchange => (ended exchange.rest).map (.answer h exchange.request)
  | .run _ | .lose _ | .work _ _ _ => none

/-- The service as its clients see it. -/
def Steps : Visible.Steps (Service W H) (Shown H) := Visible.stepsOf (step kind) label

/-- What the clients see of a run. -/
def shown (actions : List (ServiceAction W H)) : List (Shown H) :=
  Runs.trace (step kind) label start actions

end Service

/-! ## The accounts of the tables -/

def Event.entry (event : Event) : Entry :=
  ⟨event.type, event.fromStatus, event.toStatus, event.message, event.occurredAt⟩

/-- The account the rows stand for. -/
def Rows.account (rows : Rows) : Account where
  terms := ⟨rows.operation.amount, rows.operation.currency, rows.operation.description⟩
  providerPaymentId := rows.operation.providerPaymentId
  history := rows.events.map Event.entry

def Db.accounts (db : Db) : Accounts := fun id => (db.lookup id).map Rows.account

section Accounts

variable {db : Db} {id : String} {rows : Rows}

theorem accounts_some (hrows : db.lookup id = some rows) : db.accounts id = some rows.account := by
  unfold Db.accounts
  rw [hrows, Option.map_some]

theorem accounts_none (hrows : db.lookup id = none) : db.accounts id = none := by
  unfold Db.accounts
  rw [hrows, Option.map_none]

theorem accounts_insert (db : Db) (id : String) (rows : Rows) :
    Db.accounts (db.insert id rows) = db.accounts.set id rows.account := by
  funext id'
  by_cases hid : id' = id
  · subst hid
    rw [Accounts.set_self]
    exact accounts_some (Finmap.lookup_insert db)
  · rw [Accounts.set_of_ne _ _ hid]
    unfold Db.accounts
    rw [Finmap.lookup_insert_of_ne db hid]

theorem Rows.account_status (h : rows.Logged) : rows.account.status = rows.operation.status := by
  have hlast := h.last
  unfold Account.status Rows.account
  rw [List.getLast?_map, Option.map_map]
  rw [show (fun entry : Entry => entry.toStatus) ∘ Event.entry = fun event => event.toStatus from
    rfl, hlast, Option.getD_some]

theorem Rows.account_response (h : rows.Logged) (id : String) :
    rows.account.response id = .modelValidate id rows.operation := by
  unfold Account.response
  rw [Rows.account_status h]
  rfl

/-- The ids the client sees are the places in the history. -/
theorem Rows.account_events (h : rows.Logged) :
    rows.account.events = rows.events.map .modelValidate := by
  refine List.ext_getElem? fun i => ?_
  simp only [Account.events, Rows.account, List.getElem?_mapIdx, List.getElem?_map,
    Option.map_map]
  cases hevent : rows.events[i]? with
  | none => rfl
  | some event =>
    have hnumber : (rows.events.map (·.sequenceNo))[i]? = some event.sequenceNo := by
      rw [List.getElem?_map, hevent, Option.map_some]
    have hlength : i < rows.events.length := (List.getElem?_eq_some_iff.mp hevent).1
    rw [h.numbers, List.getElem?_range' hlength] at hnumber
    have hnext : event.sequenceNo = i + 1 := by
      have := Option.some.inj hnumber
      omega
    simp [Event.entry, EventResponse.modelValidate, hnext]

theorem free_iff {p : String} :
    db.accounts.Free id p ↔ paymentIdColumn db id p = .ok () := by
  rw [paymentIdColumn_ok]
  refine and_congr_right fun _ => ?_
  constructor
  · rintro h ⟨id', rows', hne, hrows', hp⟩
    exact h id' rows'.account hne (accounts_some hrows') hp
  · intro h id' account hne haccount hp
    obtain ⟨rows', hrows', rfl⟩ := Option.map_eq_some_iff.mp haccount
    exact h ⟨id', rows', hne, hrows', hp⟩

theorem canBind_iff {p : String} :
    db.accounts.CanBind id p rows.account ↔ Binds db id p rows :=
  or_congr Iff.rfl (and_congr Iff.rfl free_iff)

section

variable (h : rows.account.status = rows.operation.status) (now : Timestamp)

include h

theorem Rows.account_submitted (hstatus : rows.operation.status = .created) :
    (rows.submitted now).account = rows.account.submitted now := by
  unfold Account.submitted Account.record
  rw [h, hstatus]
  simp [Rows.submitted, Rows.account, Rows.record, Event.entry]

theorem Rows.account_finalized (receipt : ReceiptRequest) :
    (rows.finalized now receipt).account = rows.account.settled now receipt := by
  unfold Account.settled Account.record
  rw [Account.bind_status, h]
  simp [Rows.finalized, Rows.account, Rows.record, Rows.bind, Rows.updateJob, Event.entry,
    Account.bind]

theorem Rows.account_ignored (receipt : ReceiptRequest) :
    (rows.ignored now receipt).account = rows.account.ignored now receipt := by
  unfold Account.ignored Account.record
  rw [Account.bind_status, h]
  simp [Rows.ignored, Rows.account, Rows.record, Rows.bind, Event.entry, Account.bind]

end

end Accounts

/-! ## What the routes and the workers do to the accounts -/

/-- A change by a worker binds a payment id to an operation in processing, or is not seen. -/
theorem Change.account_worker {db : Db} {c : Call} {rows rows' : Rows} {out : Outcome}
    (h : Change db c (some rows) out rows') (hworker : c.byWorker = true)
    (hstage : ∃ s, rows.At s) : rows'.account = rows.account ∨
      ∃ now id p, c = .completeJob now id p ∧ rows.operation.status = .processing ∧
        rows.operation.providerPaymentId = none ∧ paymentIdColumn db id p = .ok () ∧
        rows'.account = rows.account.bind p := by
  obtain ⟨s, hs⟩ := hstage
  cases h with
  | submitted | finalized | ignored | duplicate => cases hworker
  | claimed | failed => exact .inl rfl
  | completed now id p hjob hstate hp =>
    rcases hp with hp | ⟨hnone, hcolumn⟩
    · left
      exact @Account.bind_self rows.account p hp
    · refine .inr ⟨now, id, p, rfl, ?_, hnone, hcolumn, rfl⟩
      refine hs.consistent.active _ hjob ?_
      rcases hstate with h | h
      · exact .inr (.inl h)
      · exact .inr (.inr h)

/-- **A call of a worker confirms a payment, or no client can tell that it was made.** -/
theorem accounts_next_worker (calls : List Call) {c : Call} (hworker : c.byWorker = true) :
    ((after calls).next c).accounts = (after calls).accounts ∨
    ∃ now id p rows, c = .completeJob now id p ∧ (after calls).lookup id = some rows ∧
      rows.operation.status = .processing ∧ rows.operation.providerPaymentId = none ∧
      paymentIdColumn (after calls) id p = .ok () ∧
      ((after calls).next c).accounts = (after calls).accounts.set id (rows.account.bind p) := by
  rcases next_cases (after calls) c with hsame | ⟨out, rows', -, hc, hnext⟩
  · exact .inl (by rw [hsame])
  · cases hrows : (after calls).lookup c.operationId with
    | none =>
      rw [hrows] at hc
      cases hc
      cases hworker
    | some rows =>
      rw [hrows] at hc
      rw [hnext, accounts_insert]
      rcases hc.account_worker hworker (stage_of_reachable calls _ rows hrows) with
        hsame | ⟨now, id, p, rfl, hstatus, hnone, hcolumn, hbind⟩
      · left
        rw [hsame]
        exact Function.update_eq_self_iff.mpr (accounts_some hrows).symm
      · exact .inr ⟨now, id, p, rows, rfl, hrows, hstatus, hnone, hcolumn, by rw [hbind]; rfl⟩

/-! ## The relation -/

/-- Where the registry sees a request that has come this far through its route. -/
inductive Linked (accounts : Accounts) : Option Exchange → Option (ApiRequest × Phase) → Prop
  | idle : Linked accounts none none
  | received (now : Timestamp) (request : ApiRequest) :
      Linked accounts (some ⟨request, request.route now⟩) (some (request, .received))
  | admitted (now : Timestamp) (request : CreateOperationRequest) :
      Linked accounts (some ⟨.createOperation request, createRest now request⟩)
        (some (.createOperation request, .admitted))
  | reading (statusCode : Nat) {request : ApiRequest}
      (hfound : (accounts request.operationId).isSome) :
      Linked accounts (some ⟨request, refreshRest statusCode request.operationId⟩)
        (some (request, .reading statusCode))
  /-- The first read of `get_events` is not the one that counts. -/
  | found {id : PathParam} (hfound : (accounts id.value).isSome) :
      Linked accounts (some ⟨.getOperationEvents id, eventsRest id.value⟩)
        (some (.getOperationEvents id, .received))
  | answered (request : ApiRequest) (response : ApiResponse) :
      Linked accounts (some ⟨request, .ret response⟩) (some (request, .answered (some response)))
  | raised (request : ApiRequest) (e : Error) :
      Linked accounts (some ⟨request, .raise e⟩) (some (request, .answered none))

theorem Linked.mono {accounts accounts' : Accounts} {x : Option Exchange}
    {y : Option (ApiRequest × Phase)} (h : Linked accounts x y)
    (hmono : ∀ id, (accounts id).isSome → (accounts' id).isSome) : Linked accounts' x y := by
  cases h with
  | idle => exact .idle
  | received now request => exact .received now request
  | admitted now request => exact .admitted now request
  | reading statusCode hfound => exact .reading statusCode (hmono _ hfound)
  | found hfound => exact .found (hmono _ hfound)
  | answered request response => exact .answered request response
  | raised request e => exact .raised request e

theorem isSome_set {accounts : Accounts} {id : String} (account : Account) (id' : String)
    (h : (accounts id').isSome) : (accounts.set id account id').isSome := by
  by_cases hid : id' = id
  · subst hid
    rw [Accounts.set_self]
    rfl
  · rwa [Accounts.set_of_ne _ _ hid]

section

variable {W H : Type}

structure Related (σ : Service W H) (ρ : Registry H) : Prop where
  reached : ∃ calls, σ.world.db = after calls
  accounts : ρ.accounts = σ.world.db.accounts
  exchanges : ∀ h, Linked ρ.accounts (σ.exchanges h) (ρ.exchanges h)
  /-- The provider is asked only under keys a header can carry. -/
  keys : ∀ w id payment ids, σ.world.workers w = .answered id (.ok payment) ids →
    HeaderValue id

theorem related_start : Related (Service.start : Service W H) Registry.empty where
  reached := ⟨[], rfl⟩
  accounts := by
    funext id
    exact (accounts_none (Finmap.lookup_empty _)).symm
  exchanges := fun _ => .idle
  keys := fun _ _ _ _ hw => by cases hw

variable [DecidableEq H]

/-- After a step of one exchange the others are linked as before. -/
theorem linked_update {accounts accounts' : Accounts} {x : H → Option Exchange}
    {y : H → Option (ApiRequest × Phase)} (hlinked : ∀ h, Linked accounts (x h) (y h))
    (hmono : ∀ id, (accounts id).isSome → (accounts' id).isSome) {h : H} {x' : Option Exchange}
    {y' : Option (ApiRequest × Phase)} (hh : Linked accounts' x' y') :
    ∀ h', Linked accounts' (Function.update x h x' h') (Function.update y h y' h') := by
  intro h'
  by_cases heq : h' = h
  · subst heq
    rw [Function.update_self, Function.update_self]
    exact hh
  · rw [Function.update_of_ne heq, Function.update_of_ne heq]
    exact (hlinked h').mono hmono

end

/-! ## Segments of the routes -/

/-- A segment of a route on the tables of a run is a step of the registry, or none. -/
structure Progress (calls : List Call) (request : ApiRequest) (phase : Phase)
    (result : Tx ApiResponse × Db) : Prop where
  reached : ∃ calls', result.2 = after calls'
  step : result.2 = after calls ∧
      Linked (after calls).accounts (some ⟨request, result.1⟩) (some (request, phase)) ∨
    ∃ phase', TakesEffect (after calls).accounts request phase result.2.accounts phase' ∧
      Linked result.2.accounts (some ⟨request, result.1⟩) (some (request, phase'))

section

variable {calls : List Call}

/-- A segment that only reads. -/
theorem Progress.reads {request : ApiRequest} {phase phase' : Phase} {rest : Tx ApiResponse}
    (htakes : TakesEffect (after calls).accounts request phase (after calls).accounts phase')
    (hlinked : Linked (after calls).accounts (some ⟨request, rest⟩) (some (request, phase'))) :
    Progress calls request phase (rest, after calls) :=
  ⟨⟨calls, rfl⟩, .inr ⟨phase', htakes, hlinked⟩⟩

/-- A segment that commits a change of a call. -/
theorem Progress.commits {request : ApiRequest} {phase phase' : Phase} {rest : Tx ApiResponse}
    {c : Call} {out : Outcome} {rows : Rows} {accounts : Accounts}
    (hc : Change (after calls) c ((after calls).lookup c.operationId) out rows)
    (haccounts : (after calls).accounts.set c.operationId rows.account = accounts)
    (htakes : TakesEffect (after calls).accounts request phase accounts phase')
    (hlinked : Linked accounts (some ⟨request, rest⟩) (some (request, phase'))) :
    Progress calls request phase (rest, (after calls).insert c.operationId rows) := by
  have hnext := next_of_change hc rfl
  rw [← accounts_insert] at haccounts
  subst haccounts
  exact ⟨⟨calls ++ [c], by rw [after_concat, hnext]⟩, .inr ⟨phase', htakes, hlinked⟩⟩

theorem progress_createOperation (now : Timestamp) (request : CreateOperationRequest) :
    Progress calls (.createOperation request) .received
      (segmentOf (Routes.createOperation now request) (after calls)) := by
  cases hrows : (after calls).lookup request.operationId with
  | some rows =>
    rw [segment_createOperation_some hrows]
    exact .reads (.registered (accounts_some hrows)) (.answered _ _)
  | none =>
    rw [segment_createOperation hrows]
    exact .reads (.admitted (accounts_none hrows)) (.admitted now request)

theorem progress_createRest (now : Timestamp) (request : CreateOperationRequest) :
    Progress calls (.createOperation request) .admitted
      (segmentOf (createRest now request) (after calls)) := by
  by_cases hamount : request.amount.hundredths < 10 ^ 12
  · cases hrows : (after calls).lookup request.operationId with
    | some rows =>
      have hinsert := insertOperation_eq (after calls) request hamount
      rw [hrows] at hinsert
      rw [segment_createRest_refused hinsert]
      exact .reads (.overtaken (accounts_some hrows)) (.raised _ _)
    | none =>
      rw [segment_createRest hrows hamount]
      have hc : Change (after calls) (.create now request)
          ((after calls).lookup request.operationId)
          (.operation (Rows.created now request).operation) (Rows.created now request) := by
        rw [hrows]
        exact .created now request hamount
      refine .commits hc rfl (.created now (accounts_none hrows) hamount) (.reading 201 ?_)
      show ((Accounts.set _ request.operationId _) request.operationId).isSome
      rw [Accounts.set_self]
      rfl
  · have hinsert := @flush_insertOperation_error (after calls) request hamount []
    rw [flush_singleton] at hinsert
    rw [segment_createRest_refused hinsert]
    exact .reads (.tooLarge hamount) (.raised _ _)

theorem progress_refreshRest (statusCode : Nat) {request : ApiRequest}
    (hfound : ((after calls).accounts request.operationId).isSome) :
    Progress calls request (.reading statusCode)
      (segmentOf (refreshRest statusCode request.operationId) (after calls)) := by
  obtain ⟨account, haccount⟩ := Option.isSome_iff_exists.mp hfound
  obtain ⟨rows, hrows, rfl⟩ := Option.map_eq_some_iff.mp haccount
  rw [segment_refreshRest hrows, ← Rows.account_response (logged_after calls _ rows hrows)]
  exact .reads (.read statusCode haccount) (.answered _ _)

theorem progress_getOperation (id : PathParam) :
    Progress calls (.getOperation id) .received
      (segmentOf (Routes.getOperation id.value) (after calls)) := by
  cases hrows : (after calls).lookup id.value with
  | none =>
    rw [segment_getOperation_none hrows]
    exact .reads (.missing rfl (accounts_none hrows)) (.answered _ _)
  | some rows =>
    rw [segment_getOperation hrows, ← Rows.account_response (logged_after calls _ rows hrows)]
    exact .reads (.gotOperation (accounts_some hrows)) (.answered _ _)

/-- The first read of `get_events` counts only when it finds nothing. -/
theorem progress_getOperationEvents (id : PathParam) :
    Progress calls (.getOperationEvents id) .received
      (segmentOf (Routes.getOperationEvents id.value) (after calls)) := by
  cases hrows : (after calls).lookup id.value with
  | none =>
    rw [segment_getOperationEvents_none hrows]
    exact .reads (.missing rfl (accounts_none hrows)) (.answered _ _)
  | some rows =>
    rw [segment_getOperationEvents hrows]
    refine ⟨⟨calls, rfl⟩, .inl ⟨rfl, .found ?_⟩⟩
    rw [accounts_some hrows]
    rfl

theorem progress_eventsRest {id : PathParam} (hfound : ((after calls).accounts id.value).isSome) :
    Progress calls (.getOperationEvents id) .received
      (segmentOf (eventsRest id.value) (after calls)) := by
  obtain ⟨account, haccount⟩ := Option.isSome_iff_exists.mp hfound
  obtain ⟨rows, hrows, rfl⟩ := Option.map_eq_some_iff.mp haccount
  rw [segment_eventsRest (getEvents_after hrows),
    ← Rows.account_events (logged_after calls _ rows hrows)]
  exact .reads (.gotEvents haccount) (.answered _ _)

theorem progress_submitOperation (now : Timestamp) (id : PathParam) :
    Progress calls (.submitOperation id) .received
      (segmentOf (Routes.submitOperation now id.value) (after calls)) := by
  cases hrows : (after calls).lookup id.value with
  | none =>
    rw [segment_submitOperation_none hrows]
    exact .reads (.missing rfl (accounts_none hrows)) (.answered _ _)
  | some rows =>
    have hlogged := logged_after calls _ rows hrows
    have hstatus' := Rows.account_status hlogged
    by_cases hstatus : rows.operation.status = .created
    · obtain ⟨stage, hstage⟩ := stage_of_reachable calls id.value rows hrows
      have hjob := hstage.consistent.created_iff.mp hstatus
      rw [segment_submitOperation hrows hstatus hjob]
      have hc : Change (after calls) (.submit now id.value) ((after calls).lookup id.value)
          (.submitted .created) (rows.submitted now) := by
        rw [hrows]
        exact .submitted now id.value hstatus hjob
      have haccount := Rows.account_submitted hstatus' now hstatus
      refine .commits hc (by rw [haccount]; rfl)
        (.submitted now (accounts_some hrows) (hstatus'.trans hstatus)) (.reading 202 ?_)
      show ((Accounts.set _ id.value _) id.value).isSome
      rw [Accounts.set_self]
      rfl
    · rw [segment_submitOperation_existing hrows hstatus, ← Rows.account_response hlogged]
      exact .reads (.resubmitted (accounts_some hrows) (hstatus' ▸ hstatus)) (.answered _ _)

/-- A receipt that is taken, by what it does. -/
theorem Change.takesEffect {now : Timestamp} {receipt : ReceiptRequest} {rows rows' : Rows}
    {out : Outcome} (hrows : (after calls).lookup receipt.operationId = some rows)
    (h : Change (after calls) (.processReceipt now receipt) (some rows) out rows') :
    TakesEffect (after calls).accounts (.receiveReceipt receipt) .received
      ((after calls).accounts.set receipt.operationId rows'.account)
      (.answered (some ⟨204, .empty⟩)) := by
  have hstatus' := Rows.account_status (logged_after calls _ rows hrows)
  have haccount := accounts_some hrows
  cases h with
  | failed hf => cases hf
  | finalized _ _ hstatus hp hmessage =>
    have hsettled := Rows.account_finalized hstatus' now receipt
    rw [hsettled]
    exact .settled now haccount (hstatus'.trans hstatus) (canBind_iff.mpr hp) hmessage
  | ignored _ _ hstatus hresult hp =>
    have hignored := Rows.account_ignored hstatus' now receipt
    rw [hignored]
    exact .ignored now haccount (hstatus' ▸ hstatus) (hstatus' ▸ hresult) (canBind_iff.mpr hp)
  | duplicate _ _ hresult hp =>
    exact .repeated haccount (hstatus'.trans hresult) (canBind_iff.mpr hp)

theorem progress_receiveReceipt (now : Timestamp) (receipt : ReceiptRequest) :
    Progress calls (.receiveReceipt receipt) .received
      (segmentOf (Routes.receiveReceipt now receipt) (after calls)) := by
  have heffect := exec_effect (after calls) (.processReceipt now receipt)
  generalize hexec : (Call.processReceipt now receipt).exec (after calls) = result at heffect
  cases heffect with
  | refused h =>
    rw [segment_receiveReceipt_refused h]
    cases h with
    | notFound _ hrows => exact .reads (.missing rfl (accounts_none hrows)) (.answered _ _)
    | noSendJob hneeds => cases hneeds
    | retryPolicy hf | errorText hf => cases hf
    | receiptConflict _ _ hrows hexisting hne =>
      exact .reads (.conflict (accounts_some hrows) hexisting hne) (.answered _ _)
    | receiptColumn _ _ hrows hunbound hcolumn =>
      refine .reads (.unbindable (accounts_some hrows) hunbound ?_) (.raised _ _)
      rw [free_iff, hcolumn]
      exact fun h => by cases h
    | receiptMessage _ _ hrows hstatus hp hlong =>
      have hstatus' := Rows.account_status (logged_after calls _ _ hrows)
      exact .reads (.tooLong (accounts_some hrows) (hstatus'.trans hstatus) (canBind_iff.mpr hp)
        hlong) (.raised _ _)
  | idle h => cases h with | failure hf => cases hf
  | @changed out rows' hc =>
    rw [segment_receiveReceipt hexec]
    cases hrows : (after calls).lookup receipt.operationId with
    | none =>
      rw [show (Call.processReceipt now receipt).operationId = receipt.operationId from rfl,
        hrows] at hc
      cases hc
    | some rows =>
      refine .commits hc rfl ?_ (.answered _ _)
      rw [show (Call.processReceipt now receipt).operationId = receipt.operationId from rfl,
        hrows] at hc
      exact hc.takesEffect hrows

/-- A route that has come to its end does nothing more. -/
theorem Progress.ended {request : ApiRequest} {phase : Phase} {rest : Tx ApiResponse}
    (hsame : segmentOf rest (after calls) = (rest, after calls))
    (hlinked : Linked (after calls).accounts (some ⟨request, rest⟩) (some (request, phase))) :
    Progress calls request phase (segmentOf rest (after calls)) := by
  rw [hsame]
  exact ⟨⟨calls, rfl⟩, .inl ⟨rfl, hlinked⟩⟩

/-- **A segment of any route is a step of the registry, or none.** -/
theorem Linked.progress {request : ApiRequest} {rest : Tx ApiResponse}
    {y : Option (ApiRequest × Phase)}
    (h : Linked (after calls).accounts (some ⟨request, rest⟩) y) :
    ∃ phase, y = some (request, phase) ∧
      Progress calls request phase (segmentOf rest (after calls)) := by
  cases h with
  | received now request =>
    refine ⟨.received, rfl, ?_⟩
    cases request with
    | createOperation request => exact progress_createOperation now request
    | getOperationEvents id => exact progress_getOperationEvents id
    | submitOperation id => exact progress_submitOperation now id
    | getOperation id => exact progress_getOperation id
    | receiveReceipt receipt => exact progress_receiveReceipt now receipt
  | admitted now request => exact ⟨.admitted, rfl, progress_createRest now request⟩
  | reading statusCode hfound => exact ⟨.reading statusCode, rfl, progress_refreshRest _ hfound⟩
  | found hfound => exact ⟨.received, rfl, progress_eventsRest hfound⟩
  | answered request response => exact ⟨_, rfl, .ended rfl (.answered request response)⟩
  | raised request e => exact ⟨_, rfl, .ended rfl (.raised request e)⟩

end

/-! ## The simulation -/

/-- No request takes an account away. -/
theorem TakesEffect.mono {accounts accounts' : Accounts} {request : ApiRequest}
    {phase phase' : Phase} (h : TakesEffect accounts request phase accounts' phase') (id : String)
    (hid : (accounts id).isSome) : (accounts' id).isSome := by
  cases h with
  | registered | admitted | overtaken | tooLarge | read | missing | gotOperation | gotEvents
  | resubmitted | conflict | unbindable | tooLong => exact hid
  | created | submitted | settled | repeated | ignored => exact isSome_set _ id hid

/-- Only a route at its end is answered. -/
theorem Linked.answer {accounts : Accounts} {exchange : Exchange}
    {y : Option (ApiRequest × Phase)} (h : Linked accounts (some exchange) y)
    {answer : Option ApiResponse} (hended : ended exchange.rest = some answer) :
    y = some (exchange.request, .answered answer) := by
  cases h with
  | received now request => cases request <;> cases hended
  | admitted | reading | found => cases hended
  | answered | raised =>
    cases hended
    rfl

/-- The call a worker's step commits is a worker's, and an answer's is under its payment id. -/
theorem WorkerMove.byWorker [HttpClient] {kind : WorkerKind} {now : Timestamp} {db : Db}
    {state state' : WorkerState} {step : WorkerStep} {c : Call}
    (h : WorkerMove kind now db state step (some c) state') : c.byWorker = true ∧
      ∀ now id p, c = .completeJob now id p →
        ∃ payment ids, state = .answered id (.ok payment) ids := by
  cases h with
  | claim => exact ⟨rfl, fun _ _ _ h => by cases h⟩
  | @complete id payment ids draw =>
    refine ⟨rfl, fun _ _ _ h => ?_⟩
    cases h
    exact ⟨payment, ids, rfl⟩
  | fail hid hfailure hexpected =>
    cases c <;> cases hfailure <;> exact ⟨rfl, fun _ _ _ h => by cases h⟩

section

variable [HttpClient] {W H : Type} [DecidableEq W] [DecidableEq H] {kind : W → WorkerKind}
  {σ : Service W H} {ρ : Registry H}

omit [DecidableEq H] in
theorem Related.keys_step (kind : W → WorkerKind) (h : Related σ ρ) (now : Timestamp)
    (worker : W) (step : WorkerStep) (w : W) (id : String) (payment : ProviderPayment)
    (ids : List String)
    (hw : ((σ.world.step kind (.work now worker step)).workers w) =
      .answered id (.ok payment) ids) : HeaderValue id := by
  rcases World.step_worker kind σ.world (.work now worker step) w with hsame | ⟨_, _, -, hmove⟩
  · exact h.keys w id payment ids (hsame ▸ hw)
  · rw [hw] at hmove
    rcases hmove.answer with hold | ⟨amount, currency, http, -, -, hok⟩
    · exact h.keys w id payment ids hold
    · exact headerError_eq_none.mp (createPayment_ok hok).1

/-- A step of a worker confirms a payment in the registry, or is no step of it. -/
theorem Related.work (h : Related σ ρ) (now : Timestamp) (w : W) (step : WorkerStep) :
    ∃ ρ', Visible.Shows Registry.Step ρ ([] : List (Shown H)) ρ' ∧
      Related (⟨σ.world.step kind (.work now w step), σ.exchanges⟩ : Service W H) ρ' := by
  have hkeys := h.keys_step kind now w step
  obtain ⟨calls, hcalls⟩ := h.reached
  have hmove := workerMove (kind w) now σ.world.db (σ.world.workers w) step
  cases hcall : (Action.work now w step).call kind σ.world with
  | none =>
    have hdb : (σ.world.step kind (.work now w step)).db = σ.world.db := World.step_db_none hcall
    refine ⟨ρ, .refl ρ, ⟨⟨calls, hdb.trans hcalls⟩, ?_, h.exchanges, hkeys⟩⟩
    exact h.accounts.trans (congrArg Db.accounts hdb).symm
  | some c =>
    have hdb : (σ.world.step kind (.work now w step)).db = (after calls).next c :=
      (World.step_db_some hcall).trans (by rw [hcalls])
    have hreached : ∃ calls', (σ.world.step kind (.work now w step)).db = after calls' :=
      ⟨calls ++ [c], by rw [hdb, after_concat]⟩
    rw [show (σ.world.workers w).call (kind w) now step = some c from hcall] at hmove
    obtain ⟨hworker, hanswer⟩ := hmove.byWorker
    have haccounts : ρ.accounts = (after calls).accounts := by rw [h.accounts, hcalls]
    rcases accounts_next_worker calls hworker with
      hsame | ⟨now', id, p, rows, rfl, hrows, hstatus, hnone, hcolumn, hbind⟩
    · refine ⟨ρ, .refl ρ, ⟨hreached, ?_, h.exchanges, hkeys⟩⟩
      rw [haccounts, ← hsame]
      exact (congrArg Db.accounts hdb).symm
    · obtain ⟨payment, ids, hstate⟩ := hanswer now' id p rfl
      have hheader := h.keys w id payment ids hstate
      have hlogged := logged_after calls id rows hrows
      have ha : ρ.accounts id = some rows.account := by
        rw [haccounts]
        exact accounts_some hrows
      have hfree : ρ.accounts.Free id p := by
        rw [haccounts]
        exact free_iff.mpr hcolumn
      refine ⟨⟨ρ.accounts.set id (rows.account.bind p), ρ.exchanges⟩,
        .silent (.confirmed ha ((Rows.account_status hlogged).trans hstatus) hnone hfree hheader)
          (.refl _), ⟨hreached, ?_, ?_, hkeys⟩⟩
      · show ρ.accounts.set id _ = Db.accounts (σ.world.step kind _).db
        rw [hdb, hbind, haccounts]
      · exact fun k => (h.exchanges k).mono fun id' => isSome_set _ id'

/-- A segment of a route. -/
theorem Related.run (h : Related σ ρ) (k : H) :
    ∃ ρ', Visible.Shows Registry.Step ρ ([] : List (Shown H)) ρ' ∧
      Related (σ.step kind (.run k)) ρ' := by
  obtain ⟨calls, hcalls⟩ := h.reached
  dsimp only [Service.step]
  have hk := h.exchanges k
  cases hexchange : σ.exchanges k with
  | none => exact ⟨ρ, .refl ρ, h⟩
  | some exchange =>
    obtain ⟨request, rest⟩ := exchange
    have haccounts : ρ.accounts = (after calls).accounts := by rw [h.accounts, hcalls]
    rw [hexchange, haccounts] at hk
    obtain ⟨phase, hphase, hprogress⟩ := hk.progress
    dsimp only
    rw [hcalls]
    rcases hprogress.step with ⟨hdb, hlinked⟩ | ⟨phase', htakes, hlinked⟩
    · refine ⟨ρ, .refl ρ, ⟨hprogress.reached, ?_, ?_, h.keys⟩⟩
      · rw [hdb]
        exact haccounts
      · have hall := linked_update (h := k) h.exchanges (fun _ hid => hid) (haccounts ▸ hlinked)
        intro k'
        have hk' := hall k'
        rwa [← hphase, Function.update_eq_self] at hk'
    · refine ⟨⟨(segmentOf rest (after calls)).2.accounts,
        Function.update ρ.exchanges k (some (request, phase'))⟩, ?_,
        ⟨hprogress.reached, rfl, ?_, h.keys⟩⟩
      · exact .silent (.take hphase (haccounts ▸ htakes)) (.refl _)
      · have hmono := htakes.mono
        rw [← haccounts] at hmono
        exact linked_update h.exchanges hmono hlinked

/-- **Every step of the service is one of the registry, or none.** -/
theorem registry_simulates (kind : W → WorkerKind) :
    Visible.Simulates (Service.Steps (H := H) kind) Registry.Step Related := by
  rintro σ ρ l _ h ⟨a, rfl, rfl⟩
  cases a with
  | request k now request =>
    have hk := h.exchanges k
    dsimp only [Service.label, Service.step]
    cases hexchange : σ.exchanges k with
    | some exchange => exact ⟨ρ, .refl ρ, h⟩
    | none =>
      rw [hexchange] at hk
      have hidle : ρ.exchanges k = none := by
        generalize ρ.exchanges k = y at hk
        cases hk
        rfl
      refine ⟨_, .single (.request k request hidle), ⟨h.reached, h.accounts, ?_, h.keys⟩⟩
      exact linked_update h.exchanges (fun _ hid => hid) (.received now request)
  | run k => exact h.run k
  | answer k =>
    have hk := h.exchanges k
    dsimp only [Service.label, Service.step]
    cases hexchange : σ.exchanges k with
    | none => exact ⟨ρ, .refl ρ, h⟩
    | some exchange =>
      rw [hexchange] at hk
      rw [Option.bind_some, Option.bind_some]
      cases hended : ended exchange.rest with
      | none => exact ⟨ρ, .refl ρ, h⟩
      | some answer =>
        refine ⟨_, .single (.answer (hk.answer hended)), ⟨h.reached, h.accounts, ?_, h.keys⟩⟩
        exact linked_update h.exchanges (fun _ hid => hid) .idle
  | lose k =>
    refine ⟨_, .single (.lost k), ⟨h.reached, h.accounts, ?_, h.keys⟩⟩
    exact linked_update h.exchanges (fun _ hid => hid) .idle
  | work now w step => exact h.work now w step

theorem shows_registry (kind : W → WorkerKind) (actions : List (ServiceAction W H)) :
    ∃ ρ, Visible.Shows Registry.Step Registry.empty (Service.shown kind actions) ρ ∧
      Related (Runs.run (Service.step kind) Service.start actions) ρ := by
  have hshows : Visible.Shows (Service.Steps kind) Service.start (Service.shown kind actions)
      (Runs.run (Service.step kind) Service.start actions) := Visible.shows_run _ actions
  exact @Visible.Simulates.shows _ _ _ (Service.Steps kind) _ Related (registry_simulates kind) _ _
    _ hshows _ related_start

/-- **Whatever the workers do, the clients see a registry.** -/
theorem service_refines_registry (kind : W → WorkerKind) (actions : List (ServiceAction W H)) :
    Visible.Trace Registry.Step Registry.empty (Service.shown kind actions) := by
  obtain ⟨ρ, hρ, -⟩ := shows_registry kind actions
  exact ⟨ρ, hρ⟩

end

end PaymentService
