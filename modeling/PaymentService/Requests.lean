import PaymentService.Amounts
import PaymentService.History
import PaymentService.Workers

/-!
# What the provider is asked for

* `CreatedBy` — the create request that committed an operation.
* `RequestOf` — a sent request is the one of its operation's rows: the invariant over runs of the
  workers.  `requestOf_after`: it holds of every request of every run.
* `amount_unchanged` — **an accepted amount below 10 ^ 10 is stored and sent without rounding**,
  and its string depends on its value alone.
* `Requested` — the rows a request is sent for: the submit is in the log and the job was claimed.
* `every_request_the_same` — **every attempt sends the request of the create call, and only after
  the intent is committed**.
-/

namespace PaymentService

/-! ## The create call of an operation -/

/-- The run creates the operation with this request. -/
def CreatedBy (calls : List Call) (id : String) (request : CreateOperationRequest) : Prop :=
  ∃ db now, (db, Call.create now request) ∈ steps calls ∧ request.operationId = id ∧
    ((Call.create now request).exec db).1.isOk

theorem exists_createdBy {calls : List Call} {id : String} {rows : Rows}
    (hrows : (after calls).lookup id = some rows) : ∃ request, CreatedBy calls id request := by
  induction calls using List.reverseRecOn generalizing rows with
  | nil =>
    rw [show after [] = ∅ from rfl, Finmap.lookup_empty] at hrows
    cases hrows
  | append_singleton calls c ih =>
    have hearlier {old : Rows} (hold : (after calls).lookup id = some old) :
        ∃ request, CreatedBy (calls ++ [c]) id request := by
      obtain ⟨request, db, now, hmem, hcreated⟩ := ih hold
      exact ⟨request, db, now, mem_steps_of_earlier (List.prefix_append calls [c]) hmem, hcreated⟩
    rw [after_concat] at hrows
    rcases lookup_next (after calls) c id with hsame | ⟨out, new, hid, hout, hc, hnew⟩
    · exact hearlier (hsame.symm.trans hrows)
    · cases hold : (after calls).lookup id with
      | some old => exact hearlier hold
      | none =>
        rw [hold] at hc
        cases hc with
        | created now request hamount =>
          refine ⟨request, after calls, now, mem_steps.mpr ⟨calls, [], rfl, rfl⟩, hid, ?_⟩
          rw [hout]
          rfl

/-- What a create call that returns has committed. -/
theorem created_of_isOk {db : Db} {now : Timestamp} {request : CreateOperationRequest}
    (hok : ((Call.create now request).exec db).1.isOk) :
    ((Call.create now request).exec db).2.lookup request.operationId =
      some (Rows.created now request) := by
  have heffect := exec_effect db (.create now request)
  generalize (Call.create now request).exec db = result at heffect hok ⊢
  cases heffect with
  | refused => cases hok
  | idle h => cases h with | failure hf => cases hf
  | changed hc =>
    generalize db.lookup (Call.create now request).operationId = o at hc
    cases hc with
    | created => exact Finmap.lookup_insert _
    | failed hf => cases hf

/-- The stored amount and currency are those of the create request. -/
theorem CreatedBy.paymentData {calls : List Call} {id : String} {request : CreateOperationRequest}
    (h : CreatedBy calls id request) {rows : Rows}
    (hrows : (after calls).lookup id = some rows) :
    rows.operation.amount = request.amount.hundredths ∧
      rows.operation.currency = request.currency := by
  obtain ⟨db, now, hmem, rfl, hok⟩ := h
  obtain ⟨pre, post, rfl, rfl⟩ := mem_steps.mp hmem
  obtain ⟨rows', hrows', hamount, hcurrency⟩ := paymentData_stays (created_of_isOk hok) post
  rw [after_append, Runs.run_cons] at hrows
  cases hrows'.symm.trans hrows
  exact ⟨hamount, hcurrency⟩

/-! ## Sent requests -/

/-- The request is the one the rows of its operation ask for. -/
def RequestOf (db : Db) (request : PaymentRequest) : Prop :=
  ∃ id rows, db.lookup id = some rows ∧
    request = paymentRequest id rows.operation.amount rows.operation.currency

theorem RequestOf.next {db : Db} {request : PaymentRequest} (h : RequestOf db request) (c : Call) :
    RequestOf (db.next c) request := by
  obtain ⟨id, rows, hrows, rfl⟩ := h
  obtain ⟨rows', hrows', hamount, hcurrency⟩ := paymentData_stays hrows [c]
  exact ⟨id, rows', hrows', by rw [hamount, hcurrency]⟩

section

variable [HttpClient] {W : Type} [DecidableEq W] {kind : W → WorkerKind}

/-- The requests after a step: those before it, and the one a worker sends. -/
theorem World.step_requests (σ : World W) (a : Action W) :
    (σ.step kind a).requests = σ.requests ∨
    ∃ now w request, a = .work now w .start ∧
      (σ.workers w).sends (kind w) σ.db .start = some request ∧
      (σ.step kind a).requests = σ.requests ++ [request] ∧
      ∃ operation, (kind w).check σ.db request.body.operationId = some operation ∧
        request = paymentRequest request.body.operationId operation.amount operation.currency := by
  cases a with
  | create | submit | receive => exact .inl rfl
  | work now w step =>
    cases hsends : (σ.workers w).sends (kind w) σ.db step with
    | none =>
      refine .inl ?_
      simp only [World.step, hsends, Option.toList_none, List.append_nil]
    | some request =>
      obtain ⟨id, ids, operation, hready, rfl, hcheck, -, rfl⟩ :=
        WorkerState.sends_eq_some hsends
      refine .inr ⟨now, w, _, rfl, hsends, ?_, operation, hcheck, rfl⟩
      simp only [World.step, hsends, Option.toList_some]

theorem requestOf_step {σ : World W} (h : ∀ request ∈ σ.requests, RequestOf σ.db request)
    (a : Action W) :
    ∀ request ∈ (σ.step kind a).requests, RequestOf (σ.step kind a).db request := by
  intro request hmem
  have hbefore : RequestOf σ.db request := by
    rcases World.step_requests σ a with
      hsame | ⟨now, w, sent, rfl, -, hsent, operation, hcheck, heq⟩
    · exact h request (hsame ▸ hmem)
    · rw [hsent, List.mem_append, List.mem_singleton] at hmem
      rcases hmem with hmem | rfl
      · exact h request hmem
      · obtain ⟨rows, job, hrows, -, -, rfl⟩ := WorkerKind.check_eq_some.mp hcheck
        exact ⟨_, rows, hrows, heq⟩
  rcases World.step_db kind σ a with hsame | ⟨c, -, hnext⟩
  · exact hsame ▸ hbefore
  · exact hnext ▸ hbefore.next c

theorem requestOf_after (actions : List (Action W)) :
    ∀ request ∈ (World.after kind actions).requests,
      RequestOf (World.after kind actions).db request :=
  Runs.run_invariant (I := fun σ : World W => ∀ request ∈ σ.requests, RequestOf σ.db request)
    (fun _ a h => requestOf_step h a) actions (fun _ hmem => absurd hmem List.not_mem_nil)

end

/-! ## The amount -/

section

variable [HttpClient] {amount : Decimal} (haccepted : validateAmount amount = .ok amount)

include haccepted

/-- A request sent for an operation of this amount prints its column. -/
theorem sent_amount {calls : List Call} {created : CreateOperationRequest}
    {kind : WorkerKind} {state : WorkerState} {step : WorkerStep} {sent : PaymentRequest}
    (hcreated : CreatedBy calls sent.body.operationId created) (hamount : created.amount = amount)
    (hsent : state.sends kind (after calls) step = some sent) :
    sent.body.amount = (Decimal.ofColumn amount.column).format := by
  obtain ⟨id, ids, operation, -, -, hcheck, -, rfl⟩ := WorkerState.sends_eq_some hsent
  obtain ⟨rows, job, hrows, -, -, rfl⟩ := WorkerKind.check_eq_some.mp hcheck
  obtain ⟨hstored, -⟩ := hcreated.paymentData hrows
  rw [format_ofColumn, column_eq haccepted, ← hamount, ← hstored]
  rfl

/-- **The amount reaches the provider unchanged.**  The row a create call commits has the column's
amount, a request sent for the operation prints what is read back from it, and both have the value
asked for. -/
theorem amount_unchanged (hbound : amount.value < 10 ^ 10) :
    numeric .amount amount.column = .ok () ∧
    (amount.column : ℚ) / 100 = amount.value ∧
    (∀ db now (request : CreateOperationRequest), request.amount = amount →
      ((Call.create now request).exec db).1.isOk →
      ∃ rows, ((Call.create now request).exec db).2.lookup request.operationId = some rows ∧
        rows.operation.amount = amount.column) ∧
    (∀ calls (created : CreateOperationRequest) kind (state : WorkerState) step sent,
      CreatedBy calls sent.body.operationId created → created.amount = amount →
      state.sends kind (after calls) step = some sent →
      sent.body.amount = (Decimal.ofColumn amount.column).format) ∧
    (Decimal.ofColumn amount.column).format = amount.format ∧
    Numeral.IsFixed 2 amount.format amount.value ∧
    ∀ other, validateAmount other = .ok other → other.value < 10 ^ 10 →
      (other.format = amount.format ↔ other.value = amount.value) := by
  refine ⟨?_, ?_, ?_, ?_, ?_, format_isFixed haccepted, ?_⟩
  · rw [column_eq haccepted]
    exact if_pos ((hundredths_lt_iff haccepted).mpr hbound)
  · rw [column_eq haccepted]
    exact hundredths_value haccepted
  · rintro db now request rfl hok
    exact ⟨_, created_of_isOk hok, (column_eq haccepted).symm⟩
  · intro calls created kind state step sent hcreated hamount hsent
    exact sent_amount haccepted hcreated hamount hsent
  · rw [format_ofColumn, format_eq haccepted]
  · intro other hother _
    exact format_eq_iff haccepted hother

end

/-- 1E+3. -/
theorem amount_unchanged_exponent :
    let amount : Decimal := ⟨false, 1, 3⟩
    numeric .amount amount.column = .ok () ∧
    (amount.column : ℚ) / 100 = amount.value ∧
    (∀ db now (request : CreateOperationRequest), request.amount = amount →
      ((Call.create now request).exec db).1.isOk →
      ∃ rows, ((Call.create now request).exec db).2.lookup request.operationId = some rows ∧
        rows.operation.amount = amount.column) ∧
    (∀ calls (created : CreateOperationRequest) kind (state : WorkerState) step sent,
      CreatedBy calls sent.body.operationId created → created.amount = amount →
      state.sends kind (after calls) step = some sent →
      sent.body.amount = (Decimal.ofColumn amount.column).format) ∧
    (Decimal.ofColumn amount.column).format = amount.format ∧
    Numeral.IsFixed 2 amount.format amount.value ∧
    ∀ other, validateAmount other = .ok other → other.value < 10 ^ 10 →
      (other.format = amount.format ↔ other.value = amount.value) :=
  amount_unchanged rfl (by norm_num [Decimal.value])

/-! ## Nothing is sent before the submit is committed -/

/-- A job means a recorded submit. -/
def Rows.Requested (rows : Rows) : Prop :=
  rows.sendJob.isSome → ∃ event ∈ rows.events, event.type = .submitRequested

theorem Rows.Requested.of_subset {old rows : Rows} (h : old.Requested)
    (hjob : rows.sendJob.isSome → old.sendJob.isSome) (hevents : old.events ⊆ rows.events) :
    rows.Requested := by
  intro hsome
  obtain ⟨event, hmem, htype⟩ := h (hjob hsome)
  exact ⟨event, hevents hmem, htype⟩

theorem Change.requested {db : Db} {c : Call} {o : Option Rows} {rows : Rows} {out : Outcome}
    (h : Change db c o out rows) (hold : ∀ old ∈ o, old.Requested) : rows.Requested := by
  cases h with
  | created => exact fun hjob => by cases hjob
  | submitted =>
    intro _
    exact ⟨_, List.mem_append_right _ (List.mem_singleton_self _), rfl⟩
  | claimed now id hjob | completed now id p hjob | failed hf hjob =>
    exact (hold _ rfl).of_subset (fun _ => by rw [hjob]; rfl) (List.Subset.refl _)
  | finalized =>
    refine (hold _ rfl).of_subset ?_ (List.subset_append_left _ _)
    simp [Rows.finalized]
  | ignored =>
    exact (hold _ rfl).of_subset (fun hjob => hjob) (List.subset_append_left _ _)
  | duplicate => exact (hold _ rfl).of_subset (fun hjob => hjob) (List.Subset.refl _)

/-- A claimed job is one whose submit is in the log. -/
theorem requested_after (calls : List Call) :
    ∀ id rows, (after calls).lookup id = some rows → rows.Requested :=
  rows_invariant (fun hc hold => hc.requested hold) calls

/-! ## Main result -/

section

variable [HttpClient] {W : Type} [DecidableEq W] (kind : W → WorkerKind) (actions : List (Action W))

theorem request_eq {request : PaymentRequest}
    (hmem : request ∈ (World.after kind actions).requests) {created : CreateOperationRequest}
    (hcreated : CreatedBy (World.callsOf kind actions) request.body.operationId created) :
    request = ⟨request.body.operationId, request.body.operationId,
      ⟨request.body.operationId, created.amount.format, created.currency⟩⟩ := by
  obtain ⟨id, rows, hrows, rfl⟩ := requestOf_after actions request hmem
  rw [World.after_callsOf] at hrows
  obtain ⟨hamount, hcurrency⟩ := hcreated.paymentData hrows
  rw [created.amount_format, ← hamount, ← hcurrency]
  rfl

/-- **Every attempt sends the same request, and only after the intent is committed.** -/
theorem every_request_the_same :
    (∀ request ∈ (World.after kind actions).requests,
      ∃ created, CreatedBy (World.callsOf kind actions) request.body.operationId created ∧
        request = ⟨request.body.operationId, request.body.operationId,
          ⟨request.body.operationId, created.amount.format, created.currency⟩⟩) ∧
    (∀ request ∈ (World.after kind actions).requests, ∀ created,
      CreatedBy (World.callsOf kind actions) request.body.operationId created →
        request = ⟨request.body.operationId, request.body.operationId,
          ⟨request.body.operationId, created.amount.format, created.currency⟩⟩) ∧
    (∀ request ∈ (World.after kind actions).requests,
      ∀ request' ∈ (World.after kind actions).requests,
        (request.body.operationId = request'.body.operationId → request = request') ∧
        (request.body.operationId ≠ request'.body.operationId →
          request.idempotencyKey ≠ request'.idempotencyKey)) ∧
    ∀ a request, (World.after kind (actions ++ [a])).requests =
        (World.after kind actions).requests ++ [request] →
      ∃ rows job, (World.after kind actions).db.lookup request.body.operationId = some rows ∧
        rows.sendJob = some job ∧ job.state ≠ .pending ∧
        ∃ event ∈ rows.events, event.type = .submitRequested := by
  have hof (request : PaymentRequest) (hmem : request ∈ (World.after kind actions).requests) :
      ∃ created, CreatedBy (World.callsOf kind actions) request.body.operationId created := by
    obtain ⟨id, rows, hrows, rfl⟩ := requestOf_after actions request hmem
    rw [World.after_callsOf] at hrows
    exact exists_createdBy hrows
  refine ⟨?_, ?_, ?_, ?_⟩
  · intro request hmem
    obtain ⟨created, hcreated⟩ := hof request hmem
    exact ⟨created, hcreated, request_eq kind actions hmem hcreated⟩
  · intro request hmem created hcreated
    exact request_eq kind actions hmem hcreated
  · intro request hmem request' hmem'
    obtain ⟨created, hcreated⟩ := hof request hmem
    have heq := request_eq kind actions hmem hcreated
    constructor
    · intro hid
      rw [heq, request_eq kind actions hmem' (hid ▸ hcreated), hid]
    · obtain ⟨created', hcreated'⟩ := hof request' hmem'
      rw [heq, request_eq kind actions hmem' hcreated']
      exact fun hne => hne
  · intro a request hsent
    rw [World.after, Runs.run_concat] at hsent
    rcases World.step_requests (World.after kind actions) a with
      hsame | ⟨now, w, sent, rfl, -, hsent', operation, hcheck, -⟩
    · have hlength := congrArg List.length (hsent.symm.trans hsame)
      simp at hlength
    · obtain rfl := List.singleton_inj.mp (List.append_cancel_left (hsent.symm.trans hsent'))
      obtain ⟨rows, job, hrows, hjob, hstate⟩ := claimed_of_check hcheck
      refine ⟨rows, job, hrows, hjob, hstate, ?_⟩
      rw [World.after_callsOf] at hrows
      exact requested_after _ _ rows hrows (by rw [hjob]; rfl)

end

end PaymentService
