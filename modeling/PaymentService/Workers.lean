import PaymentService.Delivery
import PaymentService.Provider

/-!
# The workers and the service they run in

Reference model of `app/workers`: `PendingWorker`, `RunningWorker` and `RetryWorker` over the
tables, any number of each, next to the API calls and the receipts.

* `WorkerState`, `WorkerStep` — where a worker is in its pass, and what it does next; between the
  check and the write-back it holds no lock and only what it read.
* `World`, `World.step` — the tables, the workers and the requests they have sent.  A step that
  does not fit the state changes nothing, so a run is any list of actions.
* `after_callsOf` — the tables of a run are those its transactions leave, in commit order: what
  holds of all runs of calls holds here.
* `claimed_of_current` — between check and write-back a worker's job exists and was claimed.

A transaction is one step (`Serializability.lean`).  The two reads of `get_operation` are one
step, at the second: the columns taken from the first never change (`paymentData_stays`).
-/

namespace PaymentService

/-! ## The three kinds -/

inductive WorkerKind where
  | pending
  | running
  | retry
  deriving DecidableEq, Repr

namespace WorkerKind

/-- The `where` of the worker's query. -/
def selects (kind : WorkerKind) (now : Timestamp) (sendJob : SendJob) : Bool :=
  match kind with
  | .pending => sendJob.state = .pending
  | .running => sendJob.state = .running
  | .retry => sendJob.state = .waitingRetry ∧ sendJob.nextRetryAt.any (· ≤ now)

/-- The `order_by` of the worker's query. -/
def precedes (kind : WorkerKind) (a b : SendJob) : Prop :=
  match kind with
  | .pending | .running => a.createdAt ≤ b.createdAt
  | .retry => ∀ s ∈ a.nextRetryAt, ∀ t ∈ b.nextRetryAt, s < t ∨ s = t ∧ a.createdAt ≤ b.createdAt

instance : (kind : WorkerKind) → (a b : SendJob) → Decidable (kind.precedes a b)
  | .pending, _, _ | .running, _, _ => inferInstanceAs (Decidable (_ ≤ _))
  | .retry, _, _ => inferInstanceAs (Decidable (∀ s ∈ _, ∀ t ∈ _, _))

/-- The operations the query selects. -/
def selected (kind : WorkerKind) (now : Timestamp) (db : Db) : Multiset String :=
  (db.entries.filter fun row => row.2.sendJob.any (kind.selects now)).map (·.1)

/-- A result of the query: the selected operations in its order, rows it ranks equal in any. -/
def Finds (kind : WorkerKind) (now : Timestamp) (db : Db) (operationIds : List String) : Prop :=
  (operationIds : Multiset String) = kind.selected now db ∧
  operationIds.Pairwise fun id id' =>
    ∀ a ∈ (db.lookup id).bind (·.sendJob), ∀ b ∈ (db.lookup id').bind (·.sendJob),
      kind.precedes a b

instance (kind : WorkerKind) (now : Timestamp) (db : Db) (operationIds : List String) :
    Decidable (kind.Finds now db operationIds) :=
  inferInstanceAs (Decidable (_ ∧ _))

theorem mem_selected {kind : WorkerKind} {now : Timestamp} {db : Db} {id : String} :
    id ∈ kind.selected now db ↔ ∃ job, db.job id = some job ∧ kind.selects now job = true := by
  unfold selected
  constructor
  · intro h
    obtain ⟨row, hmem, rfl⟩ := Multiset.mem_map.mp h
    obtain ⟨hmem, hselects⟩ := Multiset.mem_filter.mp hmem
    obtain ⟨job, hjob, hselects⟩ := (Option.any_eq_true _ _).mp hselects
    exact ⟨job, Db.job_eq_some.mpr ⟨row.2, Finmap.lookup_eq_some_iff.mpr hmem, hjob⟩, hselects⟩
  · rintro ⟨job, hjob, hselects⟩
    obtain ⟨rows, hrows, hjob⟩ := Db.job_eq_some.mp hjob
    refine Multiset.mem_map.mpr ⟨⟨id, rows⟩, Multiset.mem_filter.mpr ⟨?_, ?_⟩, rfl⟩
    · exact Finmap.lookup_eq_some_iff.mp hrows
    · exact (Option.any_eq_true _ _).mpr ⟨job, hjob, hselects⟩

theorem nodup_selected (kind : WorkerKind) (now : Timestamp) (db : Db) :
    (kind.selected now db).Nodup := by
  have hkeys : (db.entries.map Sigma.fst).Nodup := Multiset.nodup_keys.mpr db.nodupKeys
  exact Multiset.nodup_of_le (Multiset.map_le_map (Multiset.filter_le _ _)) hkeys

/-- A query finds each operation once. -/
theorem Finds.nodup {kind : WorkerKind} {now : Timestamp} {db : Db} {ids : List String}
    (h : kind.Finds now db ids) : ids.Nodup := by
  rw [← Multiset.coe_nodup, h.1]
  exact nodup_selected kind now db

/-- It finds those whose job it selects. -/
theorem Finds.selects {kind : WorkerKind} {now : Timestamp} {db : Db} {ids : List String}
    (h : kind.Finds now db ids) {id : String} (hmem : id ∈ ids) :
    ∃ job, db.job id = some job ∧ kind.selects now job = true := by
  rw [← Multiset.mem_coe, h.1] at hmem
  exact mem_selected.mp hmem

/-- The state in which `_process_job` goes on to the provider. -/
def expected : WorkerKind → Option SendJobState
  | .pending => none
  | .running => some .running
  | .retry => some .waitingRetry

theorem expected_injective {kind kind' : WorkerKind} {state : SendJobState}
    (h : kind.expected = some state) (h' : kind'.expected = some state) : kind = kind' := by
  cases kind <;> cases kind' <;> cases h <;> first | rfl | cases h'

/-- `_process_job` up to the call: the operation whose amount and currency it takes. -/
def check (kind : WorkerKind) (db : Db) (operationId : String) : Option Operation :=
  match db.lookup operationId with
  | none => none
  | some rows =>
    match rows.sendJob with
    | none => none
    | some sendJob => if some sendJob.state ≠ kind.expected then none else some rows.operation

theorem check_eq_some {kind : WorkerKind} {db : Db} {id : String} {operation : Operation} :
    kind.check db id = some operation ↔ ∃ rows job, db.lookup id = some rows ∧
      rows.sendJob = some job ∧ some job.state = kind.expected ∧ rows.operation = operation := by
  unfold check
  cases hrows : db.lookup id with
  | none => simp
  | some rows =>
    cases hjob : rows.sendJob with
    | none => simp [hjob]
    | some job =>
      by_cases hstate : some job.state = kind.expected <;> simp [hjob, hstate]

end WorkerKind

theorem WorkerKind.job_of_check {kind : WorkerKind} {db : Db} {id : String} {operation : Operation}
    (h : kind.check db id = some operation) :
    ∃ job, db.job id = some job ∧ some job.state = kind.expected := by
  obtain ⟨rows, job, hrows, hjob, hstate, -⟩ := check_eq_some.mp h
  exact ⟨job, Db.job_eq_some.mpr ⟨rows, hrows, hjob⟩, hstate⟩

/-- Amount and currency are those of the create request for good. -/
theorem paymentData_stays {db : Db} {id : String} {rows : Rows} (hrows : db.lookup id = some rows)
    (calls : List Call) : ∃ rows', (Runs.run Db.next db calls).lookup id = some rows' ∧
      rows'.operation.amount = rows.operation.amount ∧
      rows'.operation.currency = rows.operation.currency := by
  refine rows_preserved ?_ hrows ⟨rfl, rfl⟩ calls
  intro db c old new out hchange hsame
  have hkept : new.operation.amount = old.operation.amount ∧
      new.operation.currency = old.operation.currency := by
    cases hchange <;> exact ⟨rfl, rfl⟩
  exact ⟨hkept.1.trans hsame.1, hkept.2.trans hsame.2⟩

/-! ## One worker -/

/-- A worker: with the rest of its list, in a call of `create_payment`, or after it. -/
inductive WorkerState where
  | ready (operationIds : List String)
  | calling (operationId : String) (amount : Nat) (currency : String) (operationIds : List String)
  | answered (operationId : String) (answer : Except String ProviderPayment)
      (operationIds : List String)

inductive WorkerStep where
  /-- A pass begins: the query returns. -/
  | find (operationIds : List String)
  /-- The next operation of the list: `_claim_job`, or `_process_job` up to the call. -/
  | start
  /-- `create_payment` ends. -/
  | respond (http : HttpResult)
  /-- The transaction of the answer. -/
  | writeBack (draw : Draw)
  /-- The process is lost, and with it what the worker holds. -/
  | crash

variable [HttpClient]

namespace WorkerState

/-- The transaction a step commits: `_claim_job`, `complete_job`, or the failed attempt. -/
def call (kind : WorkerKind) (now : Timestamp) : WorkerState → WorkerStep → Option Call
  | .ready (id :: _), .start =>
    match kind with
    | .pending => some (.claimSendJob now id)
    | .running | .retry => none
  | .answered id (.ok payment) _, .writeBack _ =>
    some (.completeJob now id payment.providerPaymentId)
  | .answered id (.error error) _, .writeBack draw =>
    match kind with
    | .pending => none
    | .running => some (.moveToRetry now draw id error)
    | .retry => some (.recordRetryFailure now draw id error)
  | _, _ => none

/-- Where a step leaves the worker. -/
def next (kind : WorkerKind) (now : Timestamp) (db : Db) :
    WorkerState → WorkerStep → WorkerState
  | .ready [], .find operationIds =>
    if kind.Finds now db operationIds then .ready operationIds else .ready []
  | .ready (id :: operationIds), .start =>
    match kind with
    | .pending =>
      -- `_process_pending_jobs` has no `try`: an exception drops the rest of the list
      match ((Call.claimSendJob now id).exec db).1 with
      | .ok _ => .ready operationIds
      | .error _ => .ready []
    | .running | .retry =>
      match kind.check db id with
      | none => .ready operationIds
      | some operation => .calling id operation.amount operation.currency operationIds
  | .calling id amount currency operationIds, .respond http =>
    .answered id (createPayment (paymentRequest id amount currency) http) operationIds
  -- whether the write-back commits or raises, the pass goes on
  | .answered _ _ operationIds, .writeBack _ => .ready operationIds
  | _, .crash => .ready []
  | state, _ => state

/-- The request a step sends; a header that cannot be encoded stops it. -/
def sends (kind : WorkerKind) (db : Db) : WorkerState → WorkerStep → Option PaymentRequest
  | .ready (id :: _), .start =>
    match kind.check db id with
    | none => none
    | some operation =>
      let request := paymentRequest id operation.amount operation.currency
      match HttpClient.headerError request.idempotencyKey with
      | some _ => none
      | none => some request
  | _, _ => none

theorem sends_eq_some {kind : WorkerKind} {db : Db} {state : WorkerState} {step : WorkerStep}
    {request : PaymentRequest} (h : state.sends kind db step = some request) :
    ∃ id ids operation, state = .ready (id :: ids) ∧ step = .start ∧
      kind.check db id = some operation ∧ HttpClient.headerError id = none ∧
      request = paymentRequest id operation.amount operation.currency := by
  unfold sends at h
  split at h
  · rename_i id ids
    split at h
    · cases h
    · rename_i operation hcheck
      dsimp only at h
      split at h
      · cases h
      · rename_i hheader
        cases h
        exact ⟨id, ids, operation, rfl, rfl, hcheck, hheader, rfl⟩
  · cases h

/-- The request `create_payment` was called for. -/
def request : WorkerState → Option PaymentRequest
  | .calling id amount currency _ => some (paymentRequest id amount currency)
  | _ => none

/-- The operation the worker is between check and write-back of. -/
def current : WorkerState → Option String
  | .ready _ => none
  | .calling id _ _ _ | .answered id _ _ => some id

/-- The operation of the `create_payment` the worker is in. -/
def called : WorkerState → Option String
  | .calling id _ _ _ => some id
  | _ => none

/-- The operations of the pass it has not come to. -/
def todo : WorkerState → List String
  | .ready ids | .calling _ _ _ ids | .answered _ _ ids => ids

end WorkerState

/-- What a step of a worker can do: the transaction it commits and the state it leaves. -/
inductive WorkerMove (kind : WorkerKind) (now : Timestamp) (db : Db) :
    WorkerState → WorkerStep → Option Call → WorkerState → Prop
  | find {ids : List String} (hfinds : kind.Finds now db ids) :
      WorkerMove kind now db (.ready []) (.find ids) none (.ready ids)
  | claim {id : String} {ids rest : List String} (hkind : kind = .pending)
      (hrest : rest = ids ∨ rest = []) :
      WorkerMove kind now db (.ready (id :: ids)) .start (some (.claimSendJob now id))
        (.ready rest)
  | skip {id : String} {ids : List String} (hcheck : kind.check db id = none) :
      WorkerMove kind now db (.ready (id :: ids)) .start none (.ready ids)
  | call {id : String} {ids : List String} {operation : Operation}
      (hcheck : kind.check db id = some operation) :
      WorkerMove kind now db (.ready (id :: ids)) .start none
        (.calling id operation.amount operation.currency ids)
  | respond {id currency : String} {amount : Nat} {ids : List String} {http : HttpResult} :
      WorkerMove kind now db (.calling id amount currency ids) (.respond http) none
        (.answered id (createPayment (paymentRequest id amount currency) http) ids)
  | complete {id : String} {payment : ProviderPayment} {ids : List String} {draw : Draw} :
      WorkerMove kind now db (.answered id (.ok payment) ids) (.writeBack draw)
        (some (.completeJob now id payment.providerPaymentId)) (.ready ids)
  | fail {id error : String} {ids : List String} {draw : Draw} {c : Call}
      {expected : SendJobState} (hid : c.operationId = id)
      (hfailure : c.failure = some ⟨expected, now, draw, error⟩)
      (hexpected : kind.expected = some expected) :
      WorkerMove kind now db (.answered id (.error error) ids) (.writeBack draw) (some c)
        (.ready ids)
  | drop {id error : String} {ids : List String} {draw : Draw} (hkind : kind = .pending) :
      WorkerMove kind now db (.answered id (.error error) ids) (.writeBack draw) none (.ready ids)
  | crash {state : WorkerState} : WorkerMove kind now db state .crash none (.ready [])
  | stay {state : WorkerState} {step : WorkerStep} : WorkerMove kind now db state step none state

theorem workerMove (kind : WorkerKind) (now : Timestamp) (db : Db) (state : WorkerState)
    (step : WorkerStep) :
    WorkerMove kind now db state step (state.call kind now step) (state.next kind now db step) := by
  cases state with
  | ready ids =>
    cases step with
    | find found =>
      cases ids with
      | nil =>
        dsimp only [WorkerState.call, WorkerState.next]
        split
        · rename_i hfinds
          exact .find hfinds
        · exact .stay
      | cons id ids => exact .stay
    | start =>
      cases ids with
      | nil => exact .stay
      | cons id ids =>
        cases kind with
        | pending =>
          dsimp only [WorkerState.call, WorkerState.next]
          split
          · exact .claim rfl (.inl rfl)
          · exact .claim rfl (.inr rfl)
        | running | retry =>
          dsimp only [WorkerState.call, WorkerState.next]
          split
          · rename_i hcheck
            exact .skip hcheck
          · rename_i operation hcheck
            exact .call hcheck
    | respond | writeBack => cases ids <;> exact .stay
    | crash => cases ids <;> exact .crash
  | calling id amount currency ids =>
    cases step with
    | respond http => exact .respond
    | crash => exact .crash
    | find | start | writeBack => exact .stay
  | answered id answer ids =>
    cases step with
    | writeBack draw =>
      cases answer with
      | ok payment => exact .complete
      | error error =>
        cases kind with
        | pending => exact .drop rfl
        | running => exact .fail rfl rfl rfl
        | retry => exact .fail rfl rfl rfl
    | crash => cases answer <;> exact .crash
    | find | start | respond => cases answer <;> exact .stay

/-! ## The service -/

section World

variable {W : Type}

structure World (W : Type) where
  db : Db
  workers : W → WorkerState
  requests : List PaymentRequest

/-- What happens next, and at which time. -/
inductive Action (W : Type) where
  | create (now : Timestamp) (request : CreateOperationRequest)
  | submit (now : Timestamp) (operationId : String)
  | receive (now : Timestamp) (receipt : ReceiptRequest)
  | work (now : Timestamp) (worker : W) (step : WorkerStep)

def Action.now : Action W → Timestamp
  | .create now _ | .submit now _ | .receive now _ | .work now _ _ => now

/-- The transaction of an action. -/
def Action.call (kind : W → WorkerKind) (σ : World W) : Action W → Option Call
  | .create now request => some (.create now request)
  | .submit now id => some (.submit now id)
  | .receive now receipt => some (.processReceipt now receipt)
  | .work now w step => (σ.workers w).call (kind w) now step

namespace World

/-- Empty tables, and workers that have just started. -/
def start : World W := ⟨∅, fun _ => .ready [], []⟩

variable [DecidableEq W] (kind : W → WorkerKind)

def step (σ : World W) (a : Action W) : World W where
  db :=
    match a.call kind σ with
    | none => σ.db
    | some c => σ.db.next c
  workers :=
    match a with
    | .work now w step => Function.update σ.workers w ((σ.workers w).next (kind w) now σ.db step)
    | _ => σ.workers
  requests :=
    match a with
    | .work _ w step => σ.requests ++ ((σ.workers w).sends (kind w) σ.db step).toList
    | _ => σ.requests

def after (actions : List (Action W)) : World W := Runs.run (step kind) start actions

/-- The steps of a run, each with the state it was taken in. -/
def history (actions : List (Action W)) : List (World W × Action W) :=
  Runs.history (step kind) start actions

/-- In this step worker `w` enters `create_payment` for this operation. -/
def startsCall (w : W) (id : String) (σ : World W) (a : Action W) : Bool :=
  (σ.workers w).called = none ∧ ((σ.step kind a).workers w).called = some id

/-- The transactions of a run, in commit order. -/
def callsOf (actions : List (Action W)) : List Call :=
  Runs.trace (step kind) (fun σ a => a.call kind σ) start actions

/-- **The tables of a run are those its transactions leave.** -/
theorem after_callsOf (actions : List (Action W)) :
    (after kind actions).db = PaymentService.after (callsOf kind actions) := by
  refine @Runs.proj_run _ _ (step kind) _ _ _ Db.next (·.db) ?_ actions start
  intro σ a
  dsimp only [step]
  cases a.call kind σ <;> rfl

end World

section Step

variable [DecidableEq W] (kind : W → WorkerKind) (σ : World W) (a : Action W)

/-- The tables after a step. -/
theorem World.step_db : (σ.step kind a).db = σ.db ∨
    ∃ c, a.call kind σ = some c ∧ (σ.step kind a).db = σ.db.next c := by
  dsimp only [step]
  cases a.call kind σ with
  | none => exact .inl rfl
  | some c => exact .inr ⟨c, rfl, rfl⟩

theorem World.step_db_some {kind : W → WorkerKind} {σ : World W} {a : Action W} {c : Call}
    (h : a.call kind σ = some c) : (σ.step kind a).db = σ.db.next c := by
  simp only [World.step, h]

theorem World.step_db_none {kind : W → WorkerKind} {σ : World W} {a : Action W}
    (h : a.call kind σ = none) : (σ.step kind a).db = σ.db := by
  simp only [World.step, h]

/-- A worker after a step: as before, or moved by a step of its own. -/
theorem World.step_worker (w : W) : (σ.step kind a).workers w = σ.workers w ∨
    ∃ now step, a = .work now w step ∧ WorkerMove (kind w) now σ.db (σ.workers w) step
      (a.call kind σ) ((σ.step kind a).workers w) := by
  cases a with
  | create | submit | receive => exact .inl rfl
  | work now w' step =>
    dsimp only [World.step]
    by_cases hw : w = w'
    · subst hw
      rw [Function.update_self]
      exact .inr ⟨now, step, rfl, workerMove (kind w) now σ.db (σ.workers w) step⟩
    · exact .inl (Function.update_of_ne hw _ _)

end Step

/-- A call is started by a worker that has just checked the job. -/
theorem World.startsCall_eq_true {W : Type} [DecidableEq W] {kind : W → WorkerKind} {w : W}
    {id : String} {σ : World W} {a : Action W} (h : World.startsCall kind w id σ a = true) :
    ∃ now ids operation, a = .work now w .start ∧ σ.workers w = .ready (id :: ids) ∧
      (kind w).check σ.db id = some operation := by
  obtain ⟨hbefore, hafter⟩ := of_decide_eq_true h
  rcases World.step_worker kind σ a w with hsame | ⟨now, step, rfl, hmove⟩
  · rw [hsame, hbefore] at hafter
    cases hafter
  · generalize Action.call kind σ _ = c at hmove
    generalize σ.workers w = state at hmove hbefore ⊢
    generalize (σ.step kind _).workers w = state' at hmove hafter
    cases hmove with
    | find | claim | skip | respond | complete | fail | drop | crash => cases hafter
    | call hcheck =>
      cases hafter
      exact ⟨now, _, _, rfl, rfl, hcheck⟩
    | stay => cases hbefore.symm.trans hafter

/-- Where a recorded failure comes from: a worker of the kind that expects this state. -/
theorem failure_source {W : Type} {kind : W → WorkerKind} {σ : World W} {a : Action W} {c : Call}
    {f : Failure} (hc : a.call kind σ = some c) (hf : c.failure = some f) :
    ∃ now w draw id ids, a = .work now w (.writeBack draw) ∧
      f.now = now ∧ f.draw = draw ∧ (kind w).expected = some f.expected ∧ c.operationId = id ∧
      σ.workers w = .answered id (.error f.error) ids := by
  cases a with
  | create | submit | receive =>
    cases hc
    cases hf
  | work now w step =>
    have hmove := workerMove (kind w) now σ.db (σ.workers w) step
    rw [show (σ.workers w).call (kind w) now step = some c from hc] at hmove
    generalize WorkerState.next _ _ _ _ _ = state' at hmove
    generalize hstate : σ.workers w = state at hmove
    cases hmove with
    | claim | complete => cases hf
    | @fail id error ids draw _ expected hid hfailure hexpected =>
      cases hf.symm.trans hfailure
      exact ⟨now, w, draw, id, ids, rfl, rfl, rfl, hexpected, hid, hstate⟩

/-- After its write-back a worker goes on with its list. -/
theorem World.step_writeBack {W : Type} [DecidableEq W] (kind : W → WorkerKind) {σ : World W}
    {w : W} {id : String} {answer : Except String ProviderPayment} {ids : List String}
    (hw : σ.workers w = .answered id answer ids) (now : Timestamp) (draw : Draw) :
    (σ.step kind (.work now w (.writeBack draw))).workers w = .ready ids := by
  simp [World.step, hw, WorkerState.next]

/-- A list gets shorter from its head, or a query has just found it. -/
theorem WorkerMove.todo {kind : WorkerKind} {now : Timestamp} {db : Db}
    {state state' : WorkerState} {step : WorkerStep} {c : Option Call}
    (h : WorkerMove kind now db state step c state') :
    state'.todo.Sublist state.todo ∧
      (state'.current.toList ++ state'.todo).Sublist (state.current.toList ++ state.todo) ∨
    c = none ∧ state'.current = none ∧ kind.Finds now db state'.todo := by
  cases h with
  | find hfinds => exact .inr ⟨rfl, rfl, hfinds⟩
  | claim hkind hrest =>
    rcases hrest with rfl | rfl
    · exact .inl ⟨List.sublist_cons_self _ _, List.sublist_cons_self _ _⟩
    · exact .inl ⟨List.nil_sublist _, List.nil_sublist _⟩
  | skip => exact .inl ⟨List.sublist_cons_self _ _, List.sublist_cons_self _ _⟩
  | call => exact .inl ⟨List.sublist_cons_self _ _, List.Sublist.refl _⟩
  | complete | fail | drop => exact .inl ⟨List.Sublist.refl _, List.sublist_cons_self _ _⟩
  | crash => exact .inl ⟨List.nil_sublist _, List.nil_sublist _⟩
  | respond | stay => exact .inl ⟨List.Sublist.refl _, List.Sublist.refl _⟩

/-! ## Between check and write-back -/

/-- The job exists and was claimed. -/
def Claimed (db : Db) (id : String) : Prop :=
  ∃ rows job, db.lookup id = some rows ∧ rows.sendJob = some job ∧ job.state ≠ .pending

omit [HttpClient] in
theorem Claimed.next {db : Db} {id : String} (h : Claimed db id) (c : Call) :
    Claimed (db.next c) id := by
  obtain ⟨rows, job, hrows, hjob, hstate⟩ := h
  obtain ⟨rows', job', hrows', hjob', hahead⟩ := job_stays hrows hjob [c]
  refine ⟨rows', job', hrows', hjob', ?_⟩
  intro hpending
  have hle : job.state ≤ .pending := hpending ▸ hahead.state
  exact hstate (le_antisymm hle (SendJobState.pending_le _))

omit [HttpClient] in
theorem claimed_of_check {kind : WorkerKind} {db : Db} {id : String} {operation : Operation}
    (h : kind.check db id = some operation) : Claimed db id := by
  obtain ⟨rows, job, hrows, hjob, hstate, -⟩ := WorkerKind.check_eq_some.mp h
  refine ⟨rows, job, hrows, hjob, ?_⟩
  intro hpending
  rw [hpending] at hstate
  cases kind <;> cases hstate

/-- A step goes on with the operation the worker had, or with one it has just checked. -/
theorem WorkerMove.current {kind : WorkerKind} {now : Timestamp} {db : Db}
    {state state' : WorkerState} {step : WorkerStep} {c : Option Call} {id : String}
    (h : WorkerMove kind now db state step c state') (hid : state'.current = some id) :
    state.current = some id ∨ c = none ∧ ∃ operation, kind.check db id = some operation := by
  cases h with
  | find | claim | skip | complete | fail | drop | crash => cases hid
  | call hcheck =>
    cases hid
    exact .inr ⟨rfl, _, hcheck⟩
  | respond | stay => exact .inl hid

/-- A payment in a worker's hands was there, or is what `create_payment` has just returned. -/
theorem WorkerMove.answer {kind : WorkerKind} {now : Timestamp} {db : Db} {state : WorkerState}
    {step : WorkerStep} {c : Option Call} {id : String} {payment : ProviderPayment}
    {ids : List String}
    (h : WorkerMove kind now db state step c (.answered id (.ok payment) ids)) :
    state = .answered id (.ok payment) ids ∨
    ∃ amount currency http, state = .calling id amount currency ids ∧ step = .respond http ∧
      createPayment (paymentRequest id amount currency) http = .ok payment := by
  generalize hanswer : Except.ok payment = answer at h ⊢
  cases h with
  | @respond id currency amount ids http =>
    exact .inr ⟨amount, currency, http, rfl, rfl, rfl⟩
  | stay => exact .inl rfl

section

variable [DecidableEq W] (kind : W → WorkerKind)

theorem World.claimed_step {σ : World W}
    (h : ∀ w id, (σ.workers w).current = some id → Claimed σ.db id) (a : Action W) :
    ∀ w id, ((σ.step kind a).workers w).current = some id → Claimed (σ.step kind a).db id := by
  intro w id hid
  have hclaimed : Claimed σ.db id := by
    rcases World.step_worker kind σ a w with hsame | ⟨now, step, -, hmove⟩
    · rw [hsame] at hid
      exact h w id hid
    · rcases hmove.current hid with hold | ⟨-, operation, hcheck⟩
      · exact h w id hold
      · exact claimed_of_check hcheck
  rcases World.step_db kind σ a with hsame | ⟨c, -, hnext⟩
  · exact hsame ▸ hclaimed
  · exact hnext ▸ hclaimed.next c

/-- **Whatever a worker is working on has a job that was claimed.** -/
theorem claimed_of_current (actions : List (Action W)) (w : W) (id : String)
    (h : ((World.after kind actions).workers w).current = some id) :
    Claimed (World.after kind actions).db id := by
  refine @Runs.run_invariant _ _ (World.step kind)
    (fun σ => ∀ w id, (σ.workers w).current = some id → Claimed σ.db id)
    (fun σ a hσ => World.claimed_step kind hσ a) actions World.start ?_ w id h
  intro w id hid
  cases hid

end

end World

end PaymentService
