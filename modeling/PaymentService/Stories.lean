import PaymentService.Clients

/-!
# The histories a client can see

`GET /operations/{id}/events` shows the operation's story.

* `Story` — the stories there are: created; receipts ignored before the submit, whatever their
  result; the submit; one settling receipt; conflicting late receipts ignored, the same result
  left out.
* `storied_step` — the registry tells nothing else.
* `story_lived` — every story can be lived through, over HTTP alone.
* `answered_histories` — **the answers of the route are exactly the stories, numbered from 1**, for
  every operation id that can be created and named in a path.
-/

namespace PaymentService

open UnitOfWork

/-- The stories of an operation, with the status they end in. -/
inductive Story : OperationStatus → List Entry → Prop
  | created (now : Timestamp) :
      Story .created [⟨.created, none, .created, "Operation created", now⟩]
  | submitted {entries : List Entry} (now : Timestamp) (h : Story .created entries) :
      Story .processing (entries ++
        [⟨.submitRequested, some .created, .processing, "Payment submission requested", now⟩])
  | settled {entries : List Entry} (now : Timestamp) (result : ReceiptResult) (message : String)
      (hmessage : message.length ≤ 255) (h : Story .processing entries) :
      Story result.status (entries ++
        [⟨handleStatus result, some .processing, result.status, message, now⟩])
  | ignored {status : OperationStatus} {entries : List Entry} (now : Timestamp)
      (result : ReceiptResult) (hstatus : status ≠ .processing) (hresult : status ≠ result.status)
      (h : Story status entries) :
      Story status (entries ++
        [⟨.receiptIgnored, some status, status, Rows.ignoredMessage result status, now⟩])

/-- As the route shows it. -/
def numbered (entries : List Entry) : List EventResponse :=
  entries.mapIdx fun i entry =>
    ⟨i + 1, entry.type, entry.fromStatus, entry.toStatus, entry.message, entry.occurredAt⟩

theorem Story.status {status : OperationStatus} {a : Account} (h : Story status a.history) :
    a.status = status := by
  unfold Account.status
  generalize a.history = entries at h
  cases h <;> simp

/-! ## No other stories -/

theorem Account.Move.story {a b : Account} (h : a.Move b) (ha : Story a.status a.history) :
    Story b.status b.history := by
  cases h with
  | submitted now hstatus =>
    rw [Account.submitted, Account.record_status, Account.record, hstatus]
    exact .submitted now (hstatus ▸ ha)
  | bound => exact ha
  | settled now receipt hstatus hp hmessage =>
    rw [Account.settled, Account.record_status, Account.record, Account.bind_status, hstatus]
    exact .settled now receipt.result receipt.message hmessage (hstatus ▸ ha)
  | ignored now receipt hstatus hresult hp =>
    rw [Account.ignored, Account.record_status, Account.record, Account.bind_status]
    exact .ignored now receipt.result hstatus hresult ha

/-- A request opens an account, moves one, or leaves all as they are. -/
theorem TakesEffect.cases {accounts accounts' : Accounts} {request : ApiRequest}
    {phase phase' : Phase} (h : TakesEffect accounts request phase accounts' phase') :
    accounts' = accounts ∨
    (∃ now create, accounts' = accounts.set request.operationId (.opened now create)) ∨
    ∃ a b, accounts request.operationId = some a ∧ a.Move b ∧
      accounts' = accounts.set request.operationId b := by
  cases h with
  | registered | admitted | overtaken | tooLarge | read | missing | gotOperation | gotEvents
  | resubmitted | conflict | unbindable | tooLong => exact .inl rfl
  | created now hfree hamount => exact .inr (.inl ⟨now, _, rfl⟩)
  | submitted now ha hstatus => exact .inr (.inr ⟨_, _, ha, .submitted now hstatus, rfl⟩)
  | settled now ha hstatus hp hmessage =>
    exact .inr (.inr ⟨_, _, ha, .settled now _ hstatus hp.eq hmessage, rfl⟩)
  | repeated ha hresult hp => exact .inr (.inr ⟨_, _, ha, .bound _ hp.eq, rfl⟩)
  | ignored now ha hstatus hresult hp =>
    exact .inr (.inr ⟨_, _, ha, .ignored now _ hstatus hresult hp.eq, rfl⟩)

/-- Events are only answered from an account. -/
theorem TakesEffect.events {accounts accounts' : Accounts} {request : ApiRequest} {phase : Phase}
    {statusCode : Nat} {shown : List EventResponse}
    (h : TakesEffect accounts request phase accounts'
      (.answered (some ⟨statusCode, .events shown⟩))) :
    ∃ id a, accounts id = some a ∧ shown = a.events := by
  cases h with
  | gotEvents ha => exact ⟨_, _, ha, rfl⟩

/-- Every account has a story. -/
def Accounts.Storied (accounts : Accounts) : Prop :=
  ∀ id a, accounts id = some a → Story a.status a.history

theorem Accounts.Storied.set {accounts : Accounts} (h : accounts.Storied) {id : String}
    {a : Account} (ha : Story a.status a.history) : (accounts.set id a).Storied := by
  intro id' b hb
  by_cases hid : id' = id
  · subst hid
    rw [Accounts.set_self] at hb
    cases hb
    exact ha
  · rw [Accounts.set_of_ne _ _ hid] at hb
    exact h id' b hb

theorem TakesEffect.storied {accounts accounts' : Accounts} {request : ApiRequest}
    {phase phase' : Phase} (h : TakesEffect accounts request phase accounts' phase')
    (hstoried : accounts.Storied) : accounts'.Storied := by
  rcases h.cases with rfl | ⟨now, create, rfl⟩ | ⟨a, b, ha, hmove, rfl⟩
  · exact hstoried
  · exact hstoried.set (.created now)
  · exact hstoried.set (hmove.story (hstoried _ a ha))

variable {H : Type} [DecidableEq H]

/-- Accounts have stories, and so have the answers on their way. -/
structure Storied (ρ : Registry H) : Prop where
  accounts : ρ.accounts.Storied
  answers : ∀ k request statusCode shown,
    ρ.exchanges k = some (request, .answered (some ⟨statusCode, .events shown⟩)) →
      ∃ status entries, Story status entries ∧ shown = numbered entries

theorem storied_step {ρ ρ' : Registry H} {l : Option (Shown H)} (hρ : Storied ρ)
    (h : Registry.Step ρ l ρ') : Storied ρ' := by
  constructor
  · cases h with
    | request | answer | lost => exact hρ.accounts
    | take _ htakes => exact htakes.storied hρ.accounts
    | @confirmed _ id p a ha =>
      exact hρ.accounts.set (a := a.bind p) (hρ.accounts id a ha)
  · intro k request statusCode shown hk
    rcases h.exchange k with hsame | hnone | ⟨request', -, hnew⟩ |
      ⟨request', phase, phase', -, htakes, hnew⟩
    · exact hρ.answers k request statusCode shown (hsame ▸ hk)
    · cases hnone.symm.trans hk
    · cases hnew.symm.trans hk
    · cases hnew.symm.trans hk
      obtain ⟨id, a, ha, rfl⟩ := htakes.events
      exact ⟨a.status, a.history, hρ.accounts id a ha, rfl⟩

/-- **Whatever the route answers is a story.** -/
theorem storied_answer [HttpClient] {W : Type} [DecidableEq W] {kind : W → WorkerKind}
    {actions : List (ServiceAction W H)} {k : H} {request : ApiRequest} {statusCode : Nat}
    {shown : List EventResponse}
    (h : .answer k request (some ⟨statusCode, .events shown⟩) ∈ Service.shown kind actions) :
    ∃ status entries, Story status entries ∧ shown = numbered entries := by
  obtain ⟨ρ, hρ, -⟩ := shows_registry kind actions
  obtain ⟨past, rest, hsplit⟩ := List.append_of_mem h
  rw [hsplit] at hρ
  obtain ⟨ρ₁, hpast, hrest⟩ := hρ.split
  obtain ⟨ρ₂, ρ₃, hsilent, hanswer, -⟩ := hrest.at_label
  have hstart : Storied (Registry.empty : Registry H) := by
    constructor
    · intro id a ha
      cases ha
    · intro k request statusCode shown hk
      cases hk
  have hstoried := hsilent.keeps (I := Storied) storied_step
    (hpast.keeps (I := Storied) storied_step hstart)
  cases hanswer with
  | answer hk => exact hstoried.answers _ _ _ _ hk

/-! ## Every story -/

section

variable [HttpClient] {W : Type} [DecidableEq W] {kind : W → WorkerKind} {σ : Service W H} {k : H}

omit [HttpClient] [DecidableEq W] in
theorem Service.idle_again (hidle : σ.exchanges k = none) :
    Function.update σ.exchanges k none = σ.exchanges := by
  rw [← hidle, Function.update_eq_self]

/-- A create request, served with nobody in between. -/
theorem serve_create (hidle : σ.exchanges k = none) {request : CreateOperationRequest}
    (hrows : σ.world.db.lookup request.operationId = none)
    (hamount : request.amount.hundredths < 10 ^ 12) (now : Timestamp) :
    ∃ actions, Runs.run (Service.step kind) σ actions = ⟨{ σ.world with
      db := σ.world.db.insert request.operationId (Rows.created now request) }, σ.exchanges⟩ := by
  refine ⟨[.request k now (.createOperation request), .run k, .run k, .run k, .answer k], ?_⟩
  have hread := segment_refreshRest (Finmap.lookup_insert σ.world.db (a := request.operationId)
    (b := Rows.created now request)) 201
  simp [Service.step, hidle, ApiRequest.route, segment_createOperation hrows,
    segment_createRest hrows hamount, hread, ended, Service.idle_again hidle]

theorem serve_submit (kind : W → WorkerKind) (hidle : σ.exchanges k = none) {id : PathParam}
    {rows : Rows} (hrows : σ.world.db.lookup id.value = some rows)
    (hstatus : rows.operation.status = .created)
    (hjob : rows.sendJob = none) (now : Timestamp) :
    ∃ actions, Runs.run (Service.step kind) σ actions =
      ⟨{ σ.world with db := σ.world.db.insert id.value (rows.submitted now) }, σ.exchanges⟩ := by
  refine ⟨[.request k now (.submitOperation id), .run k, .run k, .answer k], ?_⟩
  have hread := segment_refreshRest (Finmap.lookup_insert σ.world.db (a := id.value)
    (b := rows.submitted now)) 202
  simp [Service.step, hidle, ApiRequest.route, segment_submitOperation hrows hstatus hjob, hread,
    ended, Service.idle_again hidle]

theorem serve_receipt (kind : W → WorkerKind) (hidle : σ.exchanges k = none) {now : Timestamp}
    {receipt : ReceiptRequest} {out : Outcome} {db' : Db}
    (hexec : (Call.processReceipt now receipt).exec σ.world.db = (.ok out, db')) :
    ∃ actions, Runs.run (Service.step kind) σ actions =
      ⟨{ σ.world with db := db' }, σ.exchanges⟩ := by
  refine ⟨[.request k now (.receiveReceipt receipt), .run k, .answer k], ?_⟩
  simp [Service.step, hidle, ApiRequest.route, segment_receiveReceipt hexec, ended,
    Service.idle_again hidle]

/-- A run after which no request is under way on `k`, and the only operation has this story. -/
structure Lived (σ : Service W H) (k : H) (id : String) (entries : List Entry)
    (calls : List Call) (rows : Rows) : Prop where
  db : σ.world.db = after calls
  idle : σ.exchanges k = none
  stored : (after calls).lookup id = some rows
  history : rows.account.history = entries
  bound : ∀ p ∈ rows.operation.providerPaymentId, p = "p"
  alone : ∀ id', id' ≠ id → (after calls).lookup id' = none

section

variable {id : String} {entries : List Entry} {calls : List Call} {rows : Rows}

omit [HttpClient] [DecidableEq W] [DecidableEq H] in
/-- The story goes on with a change of the operation. -/
theorem Lived.next (h : Lived σ k id entries calls rows) {c : Call} {out : Outcome}
    {rows' : Rows} (hc : Change (after calls) c (some rows) out rows') (hid : c.operationId = id)
    (hbound : ∀ p ∈ rows'.operation.providerPaymentId, p = "p") :
    Lived (⟨{ σ.world with db := (after calls).insert id rows' }, σ.exchanges⟩ : Service W H) k id
      rows'.account.history (calls ++ [c]) rows' := by
  have hnext : after (calls ++ [c]) = (after calls).insert id rows' := by
    rw [after_concat, next_of_change hc (hid ▸ h.stored), hid]
  refine ⟨hnext.symm, h.idle, ?_, rfl, hbound, ?_⟩
  · rw [hnext]
    exact Finmap.lookup_insert _
  · intro id' hne
    rw [hnext, Finmap.lookup_insert_of_ne _ hne]
    exact h.alone id' hne

omit [HttpClient] [DecidableEq W] [DecidableEq H] in
theorem Lived.binds (h : Lived σ k id entries calls rows) : Binds (after calls) id "p" rows := by
  cases hp : rows.operation.providerPaymentId with
  | some p => exact .inl (h.bound p hp ▸ hp)
  | none =>
    refine .inr ⟨hp, paymentIdColumn_ok.mpr ⟨by decide, ?_⟩⟩
    rintro ⟨id', rows', hne, hrows', -⟩
    cases (h.alone id' hne).symm.trans hrows'

omit [HttpClient] [DecidableEq W] [DecidableEq H] in
theorem Lived.status (h : Lived σ k id entries calls rows) {status : OperationStatus}
    (hstory : Story status entries) :
    rows.account.status = rows.operation.status ∧ rows.operation.status = status := by
  have hlogged := Rows.account_status (logged_after calls id rows h.stored)
  have hstatus : rows.account.status = status := Story.status (h.history ▸ hstory)
  exact ⟨hlogged, hlogged.symm.trans hstatus⟩

/-- A receipt that goes through. -/
theorem Lived.receipt (kind : W → WorkerKind) (h : Lived σ k id entries calls rows)
    {now : Timestamp} {receipt : ReceiptRequest} {out : Outcome} {rows' : Rows}
    (hc : Change (after calls) (.processReceipt now receipt) (some rows) out rows')
    (hid : receipt.operationId = id) :
    ∃ actions, Runs.run (Service.step kind) σ actions =
      ⟨{ σ.world with db := (after calls).insert id rows' }, σ.exchanges⟩ := by
  subst hid
  have hexec : (Call.processReceipt now receipt).exec σ.world.db =
      (.ok out, (after calls).insert receipt.operationId rows') := by
    rw [h.db]
    exact exec_of_change (h.stored.symm ▸ hc)
  exact serve_receipt kind h.idle hexec

end

/-- **Every story can be lived through.** -/
theorem story_lived (kind : W → WorkerKind) (k : H) (id : PathParam) (hmax : id.value.length ≤ 45)
    {status : OperationStatus} {entries : List Entry}
    (h : Story status entries) : ∃ (actions : List (ServiceAction W H)) (calls : List Call)
      (rows : Rows), Lived (Runs.run (Service.step kind) Service.start actions) k id.value entries
        calls rows := by
  induction h with
  | created now =>
    let request : CreateOperationRequest :=
      { CreateOperationRequest.sample with
        operationId := id.value, operationId_min := id.length_pos, operationId_max := hmax }
    have hempty : (∅ : Db).lookup id.value = none := Finmap.lookup_empty id.value
    have hamount : request.amount.hundredths < 10 ^ 12 := by
      show CreateOperationRequest.sample.amount.hundredths < 10 ^ 12
      decide
    obtain ⟨actions, hserved⟩ :=
      @serve_create H _ _ W _ kind Service.start k rfl request hempty hamount now
    have hc : Change (after []) (.create now request) none
        (.operation (Rows.created now request).operation) (Rows.created now request) :=
      .created now request hamount
    have hnext : after [.create now request] =
        Finmap.insert id.value (Rows.created now request) ∅ :=
      next_of_change hc hempty
    refine ⟨actions, [.create now request], Rows.created now request, ?_⟩
    rw [hserved]
    refine ⟨hnext.symm, rfl, ?_, rfl, fun p hp => (by cases hp), ?_⟩
    · rw [hnext]
      exact Finmap.lookup_insert _
    · intro id' hne
      rw [hnext, Finmap.lookup_insert_of_ne _ hne]
      exact Finmap.lookup_empty id'
  | submitted now hstory ih =>
    obtain ⟨actions, calls, rows, hlived⟩ := ih
    obtain ⟨haccount, hstatus⟩ := hlived.status hstory
    obtain ⟨stage, hstage⟩ := stage_of_reachable calls id.value rows hlived.stored
    have hjob := hstage.consistent.created_iff.mp hstatus
    obtain ⟨more, hserved⟩ := serve_submit kind hlived.idle (hlived.db ▸ hlived.stored) hstatus hjob
      now
    have hnext := hlived.next (.submitted now id.value hstatus hjob) rfl hlived.bound
    rw [Rows.account_submitted haccount now hstatus, Account.submitted, Account.record,
      haccount, hstatus, hlived.history] at hnext
    refine ⟨actions ++ more, calls ++ [.submit now id.value], rows.submitted now, ?_⟩
    rw [Runs.run_append, hserved, hlived.db]
    exact hnext
  | settled now result message hmessage hstory ih =>
    obtain ⟨actions, calls, rows, hlived⟩ := ih
    obtain ⟨haccount, hstatus⟩ := hlived.status hstory
    let receipt : ReceiptRequest := ⟨"p", id.value, result, message, now⟩
    have hc : Change (after calls) (.processReceipt now receipt) (some rows) .none
        (rows.finalized now receipt) := .finalized now receipt hstatus hlived.binds hmessage
    obtain ⟨more, hserved⟩ := hlived.receipt kind hc rfl
    have hnext := hlived.next hc rfl (fun p hp => (Option.some.inj hp).symm)
    rw [Rows.account_finalized haccount now receipt, Account.settled, Account.record,
      Account.bind_status, haccount, hstatus] at hnext
    refine ⟨actions ++ more, calls ++ [.processReceipt now receipt], rows.finalized now receipt, ?_⟩
    rw [Runs.run_append, hserved, ← hlived.history]
    exact hnext
  | ignored now result hprocessing hresult hstory ih =>
    obtain ⟨actions, calls, rows, hlived⟩ := ih
    obtain ⟨haccount, hstatus⟩ := hlived.status hstory
    let receipt : ReceiptRequest := ⟨"p", id.value, result, "", now⟩
    have hc : Change (after calls) (.processReceipt now receipt) (some rows) .none
        (rows.ignored now receipt) :=
      .ignored now receipt (hstatus ▸ hprocessing) (hstatus ▸ hresult) hlived.binds
    obtain ⟨more, hserved⟩ := hlived.receipt kind hc rfl
    have hnext := hlived.next hc rfl (fun p hp => (Option.some.inj hp).symm)
    rw [Rows.account_ignored haccount now receipt, Account.ignored, Account.record,
      Account.bind_status, haccount, hstatus] at hnext
    refine ⟨actions ++ more, calls ++ [.processReceipt now receipt], rows.ignored now receipt, ?_⟩
    rw [Runs.run_append, hserved, ← hlived.history]
    exact hnext

/-- **The answers of the route are exactly the stories, numbered from 1.** -/
theorem answered_histories (kind : W → WorkerKind) (k : H) (id : PathParam)
    (hmax : id.value.length ≤ 45) (shown : List EventResponse) :
    (∃ actions : List (ServiceAction W H),
      .answer k (.getOperationEvents id) (some ⟨200, .events shown⟩) ∈
        Service.shown kind actions) ↔
    ∃ status entries, Story status entries ∧ shown = numbered entries := by
  constructor
  · rintro ⟨actions, h⟩
    exact storied_answer h
  · rintro ⟨status, entries, hstory, rfl⟩
    obtain ⟨actions, calls, rows, hlived⟩ := story_lived kind k id hmax hstory
    let more : List (ServiceAction W H) :=
      [.request k 0 (.getOperationEvents id), .run k, .run k, .answer k]
    refine ⟨actions ++ more, ?_⟩
    unfold Service.shown
    rw [Runs.trace_append, List.mem_append]
    right
    have hrows : (Runs.run (Service.step kind) Service.start actions).world.db.lookup
        id.value = some rows := hlived.db ▸ hlived.stored
    have hread := segment_eventsRest (getEvents_after hlived.stored)
    rw [← hlived.db, ← Rows.account_events (logged_after calls _ rows hlived.stored)] at hread
    generalize Runs.run (Service.step kind) Service.start actions = σ at hlived hrows hread ⊢
    simp [more, Runs.trace, Service.label, Service.step, hlived.idle, ApiRequest.route,
      segment_getOperationEvents hrows, hread, ended, numbered, Account.events, hlived.history]

end

/-- A receipt before the submit, one that settles the operation, and a late one. -/
theorem answered_histories_late :
    ∃ actions : List (ServiceAction Unit Unit),
      .answer () (.getOperationEvents .sample) (some ⟨200, .events [
        ⟨1, .created, none, .created, "Operation created", 0⟩,
        ⟨2, .receiptIgnored, some .created, .created,
          "Conflicting late receipt ignored: received=COMPLETED; current=CREATED", 1⟩,
        ⟨3, .submitRequested, some .created, .processing, "Payment submission requested", 2⟩,
        ⟨4, handleStatus .rejected, some .processing, .rejected, "no funds", 3⟩,
        ⟨5, .receiptIgnored, some .rejected, .rejected,
          "Conflicting late receipt ignored: received=COMPLETED; current=REJECTED", 4⟩]⟩) ∈
        Service.shown (fun _ => .pending) actions := by
  refine (answered_histories (fun _ => .pending) () _ (by decide) _).mpr ⟨.rejected, _,
    .ignored 4 .completed (by decide) (by decide) (.settled 3 .rejected "no funds" (by decide)
      (.submitted 2 (.ignored 1 .completed (by decide) (by decide) (.created 0)))), ?_⟩
  decide +kernel

end PaymentService
