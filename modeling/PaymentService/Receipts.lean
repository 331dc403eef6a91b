import PaymentService.Lifecycle
import PaymentService.PaymentIds

/-!
# The receipts route

Reference model of `app/api/receipts.py`.

* `receiveReceipt` — the answer of `POST /receipts`, or the exception the route lets through.
* `Reception` — the four ways a receipt can end; `receiveReceipt_spec`: it ends in one of them.
* `DocumentedOutcome`, `Receivable` — what the route promises, and the receipts it can keep it for.
* `outcome_iff_receivable` — **in every reachable state the promise is kept for exactly those**:
  an id another operation has, a long id or a long message end in a database error.
-/

namespace PaymentService

structure Response where
  statusCode : Nat
  detail : Option String
  deriving DecidableEq, Repr

/-- `receive_receipt`; a refused receipt is rolled back. -/
def receiveReceipt (now : Timestamp) (receipt : ReceiptRequest) (db : Db) :
    Except Error Response × Db :=
  match (Call.processReceipt now receipt).exec db with
  | (.ok _, db') => (.ok ⟨204, none⟩, db')
  | (.error (.operationNotFound operationId), db') =>
    (.ok ⟨404, some s!"Operation '{operationId}' not found"⟩, db')
  | (.error (.providerPaymentConflict message), db') => (.ok ⟨409, some message⟩, db')
  | (.error e, db') => (.error e, db')

/-! ## How a receipt can end -/

/-- The rows can take the receipt. -/
def Takes (db : Db) (receipt : ReceiptRequest) (rows : Rows) : Prop :=
  Binds db receipt.operationId receipt.providerPaymentId rows ∧
    (rows.operation.status = .processing → receipt.message.length ≤ 255)

inductive Reception (db : Db) (now : Timestamp) (receipt : ReceiptRequest) :
    Except Error Response × Db → Prop
  | missing (detail : Option String) (hrows : db.lookup receipt.operationId = none) :
      Reception db now receipt (.ok ⟨404, detail⟩, db)
  | conflict (detail : Option String) {rows : Rows} {existing : String}
      (hrows : db.lookup receipt.operationId = some rows)
      (hexisting : rows.operation.providerPaymentId = some existing)
      (hne : existing ≠ receipt.providerPaymentId) :
      Reception db now receipt (.ok ⟨409, detail⟩, db)
  | refused (e : DbError) {rows : Rows} (hrows : db.lookup receipt.operationId = some rows)
      (hsame : ∀ existing ∈ rows.operation.providerPaymentId, existing = receipt.providerPaymentId)
      (hfull : ¬ Takes db receipt rows) :
      Reception db now receipt (.error (.database e), db)
  | taken {rows rows' : Rows} (hrows : db.lookup receipt.operationId = some rows)
      (htakes : Takes db receipt rows)
      (hc : Change db (.processReceipt now receipt) (some rows) .none rows') :
      Reception db now receipt (.ok ⟨204, none⟩, db.insert receipt.operationId rows')

theorem Change.takes {db : Db} {now : Timestamp} {receipt : ReceiptRequest} {rows rows' : Rows}
    {out : Outcome} (h : Change db (.processReceipt now receipt) (some rows) out rows') :
    Takes db receipt rows ∧ out = .none := by
  cases h with
  | failed hf => cases hf
  | finalized _ _ hstatus hp hmessage => exact ⟨⟨hp, fun _ => hmessage⟩, rfl⟩
  | ignored _ _ hstatus hresult hp => exact ⟨⟨hp, fun h => absurd h hstatus⟩, rfl⟩
  | duplicate _ _ hresult hp =>
    refine ⟨⟨hp, ?_⟩, rfl⟩
    intro hprocessing
    exact absurd (hresult.symm.trans hprocessing) (ReceiptResult.status_ne_processing _)

theorem receiveReceipt_spec (db : Db) (now : Timestamp) (receipt : ReceiptRequest) :
    Reception db now receipt (receiveReceipt now receipt db) := by
  have heffect := exec_effect db (.processReceipt now receipt)
  unfold receiveReceipt
  generalize (Call.processReceipt now receipt).exec db = result at heffect ⊢
  cases heffect with
  | refused h =>
    cases h with
    | notFound _ hrows => exact .missing _ hrows
    | noSendJob hneeds => cases hneeds
    | retryPolicy hf => cases hf
    | errorText hf => cases hf
    | receiptConflict _ _ hrows hexisting hne => exact .conflict _ hrows hexisting hne
    | @receiptColumn _ _ rows e hrows hunbound hcolumn =>
      refine .refused e hrows ?_ ?_
      · intro existing hexisting
        cases hunbound.symm.trans hexisting
      · rintro ⟨hbound | ⟨-, hfits⟩, -⟩
        · cases hunbound.symm.trans hbound
        · cases hcolumn.symm.trans hfits
    | receiptMessage _ _ hrows hstatus hp hlong =>
      refine .refused _ hrows (fun _ hexisting => hp.eq hexisting) ?_
      exact fun htakes => hlong (htakes.2 hstatus)
  | idle h => cases h with | failure hf => cases hf
  | changed hc =>
    rw [show (Call.processReceipt now receipt).operationId = receipt.operationId from rfl] at hc ⊢
    cases hrows : db.lookup receipt.operationId with
    | none =>
      rw [hrows] at hc
      cases hc
    | some rows =>
      rw [hrows] at hc
      obtain ⟨htakes, rfl⟩ := hc.takes
      exact .taken hrows htakes hc

/-! ## What the route promises -/

/-- The route answers with this status code. -/
def Answers (db : Db) (now : Timestamp) (receipt : ReceiptRequest) (statusCode : Nat) : Prop :=
  ∃ detail, (receiveReceipt now receipt db).1 = .ok ⟨statusCode, detail⟩

/-- The receipt's payment id is not the one recorded here, or is recorded elsewhere. -/
def Conflicts (db : Db) (receipt : ReceiptRequest) (rows : Rows) : Prop :=
  (∃ existing, rows.operation.providerPaymentId = some existing ∧
    existing ≠ receipt.providerPaymentId) ∨
  TakenElsewhere db receipt.operationId receipt.providerPaymentId

/-- The documented outcome of a receipt. -/
structure DocumentedOutcome (db : Db) (now : Timestamp) (receipt : ReceiptRequest) : Prop where
  /-- No exception leaves the route. -/
  answered : ∃ response, (receiveReceipt now receipt db).1 = .ok response
  notFound : Answers db now receipt 404 ↔ db.lookup receipt.operationId = none
  conflict : Answers db now receipt 409 ↔
    ∃ rows, db.lookup receipt.operationId = some rows ∧ Conflicts db receipt rows
  accepted : Answers db now receipt 204 ↔
    ∃ rows, db.lookup receipt.operationId = some rows ∧ ¬ Conflicts db receipt rows
  finalizes : Answers db now receipt 204 → ∀ rows, db.lookup receipt.operationId = some rows →
    rows.operation.status = .processing →
    ∃ rows' job event, (receiveReceipt now receipt db).2.lookup receipt.operationId = some rows' ∧
      rows'.operation.status = receipt.result.status ∧
      rows'.operation.providerPaymentId = some receipt.providerPaymentId ∧
      rows'.sendJob = some job ∧ job.state = .done ∧
      rows'.events = rows.events ++ [event] ∧ event.type = handleStatus receipt.result ∧
      event.message = receipt.message
  unchanged : Answers db now receipt 404 ∨ Answers db now receipt 409 →
    (receiveReceipt now receipt db).2 = db

/-- The receipts the route has an answer for: the operation is missing, has another id, or can
take the receipt. -/
def Receivable (db : Db) (receipt : ReceiptRequest) : Prop :=
  ∀ rows, db.lookup receipt.operationId = some rows →
    (∃ existing, rows.operation.providerPaymentId = some existing ∧
      existing ≠ receipt.providerPaymentId) ∨
    Takes db receipt rows

theorem Takes.not_conflicts {db : Db} (hunique : UniqueIds db) {receipt : ReceiptRequest}
    {rows : Rows} (hrows : db.lookup receipt.operationId = some rows)
    (h : Takes db receipt rows) : ¬ Conflicts db receipt rows := by
  rintro (⟨existing, hexisting, hne⟩ | htaken)
  · exact hne (h.1.eq hexisting)
  · rcases h.1 with hbound | ⟨-, hcolumn⟩
    · obtain ⟨id, rows', hne, hrows', hp⟩ := htaken
      exact hne (hunique _ _ _ _ _ hrows' hrows hp hbound)
    · exact (paymentIdColumn_ok.mp hcolumn).2 htaken

/-- A receipt that goes through on an operation being processed settles it. -/
theorem Change.settles {db : Db} {now : Timestamp} {receipt : ReceiptRequest} {rows rows' : Rows}
    {out : Outcome} {job : SendJob}
    (h : Change db (.processReceipt now receipt) (some rows) out rows')
    (hstatus : rows.operation.status = .processing) (hjob : rows.sendJob = some job) :
    ∃ job' event, rows'.operation.status = receipt.result.status ∧
      rows'.operation.providerPaymentId = some receipt.providerPaymentId ∧
      rows'.sendJob = some job' ∧ job'.state = .done ∧
      rows'.events = rows.events ++ [event] ∧ event.type = handleStatus receipt.result ∧
      event.message = receipt.message := by
  cases h with
  | failed hf => cases hf
  | finalized =>
    refine ⟨job.closed now, _, rfl, rfl, ?_, job.closed_state now, rfl, rfl, rfl⟩
    simp [Rows.finalized, hjob]
  | ignored _ _ hne => exact absurd hstatus hne
  | duplicate _ _ hresult =>
    exact absurd (hresult.symm.trans hstatus) (ReceiptResult.status_ne_processing _)

theorem outcome_of_receivable (calls : List Call) (now : Timestamp) (receipt : ReceiptRequest)
    (h : Receivable (after calls) receipt) : DocumentedOutcome (after calls) now receipt := by
  have hspec := receiveReceipt_spec (after calls) now receipt
  generalize hresult : receiveReceipt now receipt (after calls) = result at hspec
  cases hspec with
  | missing detail hrows =>
    constructor <;> simp [Answers, hresult, hrows]
  | conflict detail hrows hexisting hne =>
    have hconflicts : Conflicts (after calls) receipt _ := .inl ⟨_, hexisting, hne⟩
    constructor <;> simp [Answers, hresult, hrows, hconflicts]
  | refused e hrows hsame hfull =>
    rcases h _ hrows with ⟨existing, hexisting, hne⟩ | htakes
    · exact absurd (hsame existing hexisting) hne
    · exact absurd htakes hfull
  | @taken rows rows' hrows htakes hc =>
    have hconflicts := htakes.not_conflicts (uniqueIds_after calls) hrows
    have hrows' : ((after calls).insert receipt.operationId rows').lookup receipt.operationId =
        some rows' := Finmap.lookup_insert _
    constructor
    case finalizes =>
      intro _ old hold hstatus
      cases hrows.symm.trans hold
      obtain ⟨job, hjob⟩ := job_of_processing hrows hstatus
      obtain ⟨job', event, hsettles⟩ := hc.settles hstatus hjob
      rw [hresult]
      exact ⟨rows', job', event, hrows', hsettles⟩
    all_goals simp [Answers, hresult, hrows, hconflicts]

theorem receivable_of_answered {db : Db} {now : Timestamp} {receipt : ReceiptRequest}
    {response : Response} (h : (receiveReceipt now receipt db).1 = .ok response) :
    Receivable db receipt := by
  intro rows hrows
  have hspec := receiveReceipt_spec db now receipt
  generalize receiveReceipt now receipt db = result at hspec h
  cases hspec with
  | missing detail hnone => cases hnone.symm.trans hrows
  | conflict detail hrows' hexisting hne =>
    cases hrows'.symm.trans hrows
    exact .inl ⟨_, hexisting, hne⟩
  | refused => cases h
  | taken hrows' htakes hc =>
    cases hrows'.symm.trans hrows
    exact .inr htakes

/-- **A receipt gets its documented outcome exactly when it is receivable.** -/
theorem outcome_iff_receivable (calls : List Call) (now : Timestamp) (receipt : ReceiptRequest) :
    DocumentedOutcome (after calls) now receipt ↔ Receivable (after calls) receipt := by
  constructor
  · intro h
    obtain ⟨response, hresponse⟩ := h.answered
    exact receivable_of_answered hresponse
  · exact outcome_of_receivable calls now receipt

/-- A receipt whose message does not fit `events.message` is rolled back. -/
theorem receiveReceipt_long {db : Db} {receipt : ReceiptRequest} {rows : Rows}
    (hrows : db.lookup receipt.operationId = some rows)
    (hstatus : rows.operation.status = .processing)
    (hp : Binds db receipt.operationId receipt.providerPaymentId rows)
    (hlong : ¬ receipt.message.length ≤ 255) (now : Timestamp) :
    receiveReceipt now receipt db = (.error (.database (.dataError .message)), db) := by
  have hexec := exec_of_refusal (.receiptMessage now receipt hrows hstatus hp hlong) rfl
  unfold receiveReceipt
  rw [hexec]

/-- The callback of a payment, with a message of 256 characters, ends in a database error and
leaves the operation PROCESSING; so does a receipt with another operation's payment id. -/
theorem receipt_without_outcome :
    let calls := [Call.create 0 .sample, .submit 1 "op-1",
      .create 2 { CreateOperationRequest.sample with
        operationId := "op-2", operationId_min := by decide, operationId_max := by decide },
      .submit 3 "op-2", .processReceipt 4 ⟨"pay-2", "op-2", .completed, "", 4⟩]
    let long : ReceiptRequest :=
      ⟨"pay-1", "op-1", .completed, String.ofList (List.replicate 256 'm'), 5⟩
    let taken : ReceiptRequest := ⟨"pay-2", "op-1", .completed, "", 5⟩
    receiveReceipt 5 long (after calls) =
        (.error (.database (.dataError .message)), after calls) ∧
      receiveReceipt 5 taken (after calls) =
        (.error (.database (.integrity .operationsProviderPaymentId)), after calls) ∧
      ¬ DocumentedOutcome (after calls) 5 long ∧ ¬ DocumentedOutcome (after calls) 5 taken := by
  intro calls long taken
  have hlong : receiveReceipt 5 long (after calls) =
      (.error (.database (.dataError .message)), after calls) := by
    have hlength : (String.ofList (List.replicate 256 'm')).length = 256 := by
      rw [String.length_ofList, List.length_replicate]
    have hrows : (after calls).lookup "op-1" = some ((Rows.created 0 .sample).submitted 1) := by
      decide +kernel
    have hfree : paymentIdColumn (after calls) "op-1" "pay-1" = .ok () := by decide +kernel
    refine receiveReceipt_long hrows rfl (.inr ⟨rfl, hfree⟩) ?_ 5
    rw [show long.message.length = 256 from hlength]
    decide
  have htaken : receiveReceipt 5 taken (after calls) =
      (.error (.database (.integrity .operationsProviderPaymentId)), after calls) := by
    decide +kernel
  refine ⟨hlong, htaken, ?_, ?_⟩
  · rintro ⟨⟨response, hresponse⟩, -⟩
    rw [hlong] at hresponse
    cases hresponse
  · rintro ⟨⟨response, hresponse⟩, -⟩
    rw [htaken] at hresponse
    cases hresponse

end PaymentService
