import PaymentService.Amounts
import PaymentService.Answers
import PaymentService.Attempts

/-!
# What the schema admits

`CreateOperationRequest` decides which operations the service takes on; the columns decide what it
can store, and the HTTP client what it can send.

* `exec_create` — with its key free, `create` is decided by the amount column alone: every other
  bound of the columns is one of the schema.
* `stored_iff` — **an admitted request is stored exactly when its amount is below 10 ^ 10**.
* `delivered_iff` — **an admitted operation is delivered by the attempt the provider accepts
  exactly when its `operation_id` can be the value of a header**.
-/

namespace PaymentService

/-! ## Stored -/

/-- `create` returns an operation, and commits it with one event and nothing else. -/
structure CommitsOne (db : Db) (now : Timestamp) (request : CreateOperationRequest)
    (operation : Operation) (event : Event) : Prop where
  returned : ((Call.create now request).exec db).1 = .ok (.operation operation)
  committed : ((Call.create now request).exec db).2.lookup request.operationId =
    some ⟨operation, none, [event]⟩
  others : ∀ id, id ≠ request.operationId →
    ((Call.create now request).exec db).2.lookup id = db.lookup id
  amount : (operation.amount : ℚ) / 100 = request.amount.value
  currency : operation.currency = request.currency
  description : operation.description = request.description
  status : operation.status = .created
  providerPaymentId : operation.providerPaymentId = none
  type : event.type = .created

section

variable {db : Db} {request : CreateOperationRequest}
  (hfree : db.lookup request.operationId = none) (now : Timestamp)

include hfree

/-- Of the columns only the amount's can refuse an admitted request. -/
theorem exec_create : (Call.create now request).exec db =
    if request.amount.hundredths < 10 ^ 12 then
      (.ok (.operation (Rows.created now request).operation),
        db.insert request.operationId (Rows.created now request))
    else (.error (.database (.dataError .amount)), db) := by
  split
  · rename_i hamount
    have hc : Change db (.create now request) none
        (.operation (Rows.created now request).operation) (Rows.created now request) :=
      .created now request hamount
    exact exec_of_change (hfree ▸ hc)
  · rename_i hamount
    exact exec_of_refusal (.amount now request hfree hamount) rfl

theorem commitsOne (hamount : request.amount.hundredths < 10 ^ 12) :
    ∃ event, CommitsOne db now request (Rows.created now request).operation event := by
  have hexec := exec_create hfree now
  rw [if_pos hamount] at hexec
  refine ⟨⟨nextSequenceNo [], .created, none, .created, "Operation created", now⟩, ?_, ?_, ?_,
    hundredths_value request.validateAmount, rfl, rfl, rfl, rfl, rfl⟩
  · rw [hexec]
  · rw [hexec]
    exact Finmap.lookup_insert db
  · intro id hne
    rw [hexec]
    exact Finmap.lookup_insert_of_ne db hne

/-- **An admitted request is stored exactly when its amount is below 10 ^ 10.** -/
theorem stored_iff : (∃ operation event, CommitsOne db now request operation event) ↔
    request.amount.value < 10 ^ 10 := by
  rw [← hundredths_lt_iff request.validateAmount]
  constructor
  · rintro ⟨operation, event, hone⟩
    by_contra hamount
    have hreturned := hone.returned
    rw [exec_create hfree now, if_neg hamount] at hreturned
    cases hreturned
  · intro hamount
    exact ⟨_, commitsOne hfree now hamount⟩

end

theorem stored_iff_sample :
    (∃ operation event, CommitsOne ∅ 0 .sample operation event) ↔
      CreateOperationRequest.sample.amount.value < 10 ^ 10 :=
  stored_iff (Finmap.lookup_empty _) 0

/-- The schema has no upper bound for the amount. -/
def CreateOperationRequest.large : CreateOperationRequest :=
  { CreateOperationRequest.sample with
    amount := ⟨false, 1, 10⟩
    amount_positive := by decide
    amount_places := by decide }

/-- 1E+10 is admitted, and the insert fails. -/
theorem large_not_stored :
    (Finmap.lookup CreateOperationRequest.large.operationId (∅ : Db)) = none ∧
    ((Call.create 0 .large).exec ∅).1 = .error (.database (.dataError .amount)) ∧
    ¬ ∃ operation event, CommitsOne ∅ 0 .large operation event := by
  have hfailed : ((Call.create 0 .large).exec ∅).1 = .error (.database (.dataError .amount)) := by
    rw [exec_create (Finmap.lookup_empty _) 0]
    rfl
  refine ⟨Finmap.lookup_empty _, hfailed, ?_⟩
  rintro ⟨operation, event, hone⟩
  cases hfailed.symm.trans hone.returned

/-! ## Delivered -/

section

variable [HttpClient] {calls : List Call} {id : String} {rows : Rows} {job : SendJob}
  {answer : ProviderPayment} (hrows : (after calls).lookup id = some rows)
  (hjob : rows.sendJob = some job) (hrunning : job.state = .running)
  (hlength : answer.providerPaymentId.length ≤ 128)
  (hunused : ¬ TakenElsewhere (after calls) id answer.providerPaymentId)
  (hagrees : ∀ existing ∈ rows.operation.providerPaymentId, existing = answer.providerPaymentId)

include hrows hjob hrunning hlength hunused hagrees

/-- **An admitted operation is delivered exactly when its id can be a header.** -/
theorem delivered_iff (text : String) (now : Timestamp) (draw : Draw) :
    DeliveredAs (WorkerKind.running.processJob (after calls) id
      (.response 202 text (some answer)) now draw) id answer.providerPaymentId ↔
    HeaderValue id := by
  have hexpected : some job.state = WorkerKind.running.expected := congrArg some hrunning
  constructor
  · rintro ⟨rows', job', hrows', hjob', hdone, -⟩
    by_contra hheader
    have hdelivered := Db.job_eq_some.mpr ⟨rows', hrows', hjob'⟩
    exact WorkerKind.running.processJob_refused hheader hrows hjob hexpected _ now draw hdelivered
      hdone
  · intro hheader
    have hanswer : createPayment
        (paymentRequest id rows.operation.amount rows.operation.currency)
        (.response 202 text (some answer)) = .ok answer :=
      createPayment_sent (headerError_eq_none.mpr hheader) text answer
    have hnext := WorkerKind.running.processJob_ok hrows hjob hexpected hanswer now draw
    have hbinds : Binds (after calls) id answer.providerPaymentId rows := by
      refine binds_of_no_conflict (not_or.mpr ⟨?_, hunused⟩) hlength
      rintro ⟨existing, hexisting, hne⟩
      exact hne (hagrees existing hexisting)
    have hclaimed : job.state ≠ .pending := by
      rw [hrunning]
      decide
    rw [hnext]
    obtain ⟨-, rows', hrows', hstored⟩ := completeJob_binds hrows hjob hclaimed hbinds now
    obtain ⟨job', hjob', hdone⟩ := hstored.done
    exact ⟨rows', job', hrows', hjob', hdone, hstored.providerPaymentId⟩

end

theorem delivered_iff_first :
    DeliveredAs (WorkerKind.running.processJob
      (after [.create 0 .sample, .submit 1 "op-1", .claimSendJob 2 "op-1"]) "op-1"
      (.response 202 "" (some ⟨"pay-1", "accepted"⟩)) 3 ⟨0, by decide, by decide⟩) "op-1" "pay-1" ↔
    HeaderValue "op-1" :=
  @delivered_iff _ [.create 0 .sample, .submit 1 "op-1", .claimSendJob 2 "op-1"] "op-1"
    (((Rows.created 0 .sample).submitted 1).claimed 2) ⟨.running, 0, none, none, 1, 2⟩
    ⟨"pay-1", "accepted"⟩ (by decide) rfl rfl (by decide) (by decide) (by decide) "" 3
    ⟨0, by decide, by decide⟩

/-- The schema takes any characters. -/
def CreateOperationRequest.cyrillic : CreateOperationRequest :=
  { CreateOperationRequest.sample with
    operationId := "оп-1"
    operationId_min := by decide
    operationId_max := by decide }

/-- The attempts of both fail before anything is sent, and the jobs wait for the next one. -/
theorem refused_not_delivered :
    let claimed (request : CreateOperationRequest) := after [.create 0 request,
      .submit 1 request.operationId, .claimSendJob 2 request.operationId]
    let attempted (request : CreateOperationRequest) := WorkerKind.running.processJob
      (claimed request) request.operationId (.response 202 "" (some ⟨"pay-1", "accepted"⟩)) 3
      ⟨0, by decide, by decide⟩
    (∀ request ∈ [CreateOperationRequest.cyrillic, .indented],
      ((claimed request).job request.operationId).map (·.state) = some .running ∧
      ((claimed request).lookup request.operationId).bind (·.operation.providerPaymentId) = none ∧
      ¬ TakenElsewhere (claimed request) request.operationId "pay-1" ∧
      ((attempted request).job request.operationId).map (fun job => (job.state, job.attempt)) =
        some (.waitingRetry, 1) ∧
      ¬ DeliveredAs (attempted request) request.operationId "pay-1") ∧
    ((attempted .cyrillic).job "оп-1").bind (·.lastError) = some
      "'ascii' codec can't encode characters in position 0-1: ordinal not in range(128)" ∧
    ((attempted .indented).job " op-1").bind (·.lastError) = some
      "Provider request failed at transport level" := by
  intro claimed attempted
  refine ⟨?_, by decide +kernel, by decide +kernel⟩
  intro request hrequest
  have hwaiting : ((attempted request).job request.operationId).map
      (fun job => (job.state, job.attempt)) = some (.waitingRetry, 1) := by
    revert request
    decide +kernel
  refine ⟨?_, ?_, ?_, hwaiting, ?_⟩
  · revert request
    decide +kernel
  · revert request
    decide +kernel
  · revert request
    decide +kernel
  · rintro ⟨rows, job, hrows, hjob, hdone, -⟩
    rw [Db.job_eq_some.mpr ⟨rows, hrows, hjob⟩, Option.map_some] at hwaiting
    cases hdone.symm.trans (congrArg Prod.fst (Option.some.inj hwaiting))

end PaymentService
