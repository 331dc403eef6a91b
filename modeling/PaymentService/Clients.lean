import PaymentService.Service

/-!
# What a client can rely on

A client has an answer, and asks again: about the same operation, over any route, while others use
the service and the workers run.

* `ApiResponse.Tells` — a response is one that an account gives.
* `Registry.Step.extends`, `TakesEffect.tells` — a step only adds to an account; an answer other
  than 404 tells an account that was there.
* `Told`, `Asked` — what holds of every answer on its way, and of one request since it came in.
* `answers_extend` — **a later answer tells what the earlier one did, or more of it**.
* `Kept` — what an invariant can say of all answers of a run: each shows an account as it was, and
  no payment id is on two accounts.
* `answers_agree` — **any two answers of a run agree**.
-/

namespace PaymentService

/-- The response is one this account gives to the request: it shows the account, or says that a
receipt has been taken. -/
def ApiResponse.Tells (response : ApiResponse) (request : ApiRequest) (a : Account) : Prop :=
  match response.body with
  | .operation shown => shown = a.response request.operationId
  | .events shown => shown = a.events
  | .detail _ => True
  | .empty => ∃ receipt, request = .receiveReceipt receipt ∧
      a.providerPaymentId = some receipt.providerPaymentId ∧ a.status ≠ .processing

/-! ## Steps only add -/

section

variable {accounts accounts' : Accounts} {request : ApiRequest} {phase phase' : Phase}

theorem extends_set {id id' : String} {a b b' : Account} (ha : accounts id = some a)
    (hb : accounts id' = some b) (hmove : b.Move b') :
    ∃ a', accounts.set id' b' id = some a' ∧ a.Extends a' := by
  by_cases hid : id = id'
  · subst hid
    cases ha.symm.trans hb
    exact ⟨b', Accounts.set_self _ _ _, hmove.extends⟩
  · exact ⟨a, (Accounts.set_of_ne _ _ hid).trans ha, .refl a⟩

theorem TakesEffect.extends (h : TakesEffect accounts request phase accounts' phase') {id : String}
    {a : Account} (ha : accounts id = some a) : ∃ a', accounts' id = some a' ∧ a.Extends a' := by
  cases h with
  | registered | admitted | overtaken | tooLarge | read | missing | gotOperation | gotEvents
  | resubmitted | conflict | unbindable | tooLong => exact ⟨a, ha, .refl a⟩
  | @created request now hfree hamount =>
    have hid : id ≠ request.operationId := by
      rintro rfl
      cases hfree.symm.trans ha
    exact ⟨a, (Accounts.set_of_ne _ _ hid).trans ha, .refl a⟩
  | submitted now hb hstatus => exact extends_set ha hb (.submitted now hstatus)
  | settled now hb hstatus hp hmessage =>
    exact extends_set ha hb (.settled now _ hstatus hp.eq hmessage)
  | repeated hb hresult hp => exact extends_set ha hb (.bound _ hp.eq)
  | ignored now hb hstatus hresult hp =>
    exact extends_set ha hb (.ignored now _ hstatus hresult hp.eq)

/-- An answer other than 404 tells an account. -/
theorem TakesEffect.tells {response : ApiResponse}
    (h : TakesEffect accounts request phase accounts' (.answered (some response)))
    (hcode : response.statusCode ≠ 404) :
    ∃ a, accounts' request.operationId = some a ∧ response.Tells request a := by
  cases h with
  | registered ha | conflict ha => exact ⟨_, ha, trivial⟩
  | read code ha | gotOperation ha | gotEvents ha | resubmitted ha => exact ⟨_, ha, rfl⟩
  | missing => exact absurd rfl hcode
  | @settled receipt a now _ _ _ _ =>
    refine ⟨_, Accounts.set_self _ _ _, receipt, rfl, rfl, ?_⟩
    rw [Account.settled, Account.record_status]
    exact ReceiptResult.status_ne_processing _
  | @repeated receipt a _ hresult _ =>
    refine ⟨_, Accounts.set_self _ _ _, receipt, rfl, rfl, ?_⟩
    rw [Account.bind_status, hresult]
    exact ReceiptResult.status_ne_processing _
  | @ignored receipt a now _ hstatus _ _ =>
    refine ⟨_, Accounts.set_self _ _ _, receipt, rfl, rfl, ?_⟩
    rwa [Account.ignored, Account.record_status]

end

variable {H : Type} [DecidableEq H]

/-- **Whatever happens next, an account stays and only grows.** -/
theorem Registry.Step.extends {ρ ρ' : Registry H} {l : Option (Shown H)}
    (h : Registry.Step ρ l ρ') {id : String} {a : Account} (ha : ρ.accounts id = some a) :
    ∃ a', ρ'.accounts id = some a' ∧ a.Extends a' := by
  cases h with
  | request | answer | lost => exact ⟨a, ha, .refl a⟩
  | take _ htakes => exact htakes.extends ha
  | @confirmed _ _ p b hb hstatus hnone hfree hheader =>
    refine extends_set ha hb (.bound p ?_)
    intro existing hexisting
    cases hnone.symm.trans hexisting

theorem Registry.account_stays {ρ ρ' : Registry H} {shown : List (Shown H)}
    (h : Visible.Shows Registry.Step ρ shown ρ') {id : String} {a : Account}
    (ha : ∃ a', ρ.accounts id = some a' ∧ a.Extends a') :
    ∃ a', ρ'.accounts id = some a' ∧ a.Extends a' := by
  refine h.keeps (I := fun ρ : Registry H => ∃ a', ρ.accounts id = some a' ∧ a.Extends a') ?_ ha
  rintro s t l ⟨a', ha', hext⟩ hstep
  obtain ⟨a'', ha'', hext'⟩ := hstep.extends ha'
  exact ⟨a'', ha'', hext.trans hext'⟩

/-- What a step can do to one exchange. -/
theorem Registry.Step.exchange {ρ ρ' : Registry H} {l : Option (Shown H)}
    (h : Registry.Step ρ l ρ') (k : H) : ρ'.exchanges k = ρ.exchanges k ∨ ρ'.exchanges k = none ∨
      (∃ request, l = some (.request k request) ∧ ρ'.exchanges k = some (request, .received)) ∨
      ∃ request phase phase', ρ.exchanges k = some (request, phase) ∧
        TakesEffect ρ.accounts request phase ρ'.accounts phase' ∧
        ρ'.exchanges k = some (request, phase') := by
  have hupdate : ∀ (k' : H) (y : Option (ApiRequest × Phase)),
      Function.update ρ.exchanges k' y k = ρ.exchanges k ∨
        k = k' ∧ Function.update ρ.exchanges k' y k = y := by
    intro k' y
    by_cases heq : k = k'
    · subst heq
      exact .inr ⟨rfl, Function.update_self ..⟩
    · exact .inl (Function.update_of_ne heq ..)
  cases h with
  | request k' request hidle =>
    rcases hupdate k' (some (request, .received)) with hsame | ⟨rfl, hnew⟩
    · exact .inl hsame
    · exact .inr (.inr (.inl ⟨request, rfl, hnew⟩))
  | @take _ k' request phase phase' accounts hk' htakes =>
    rcases hupdate k' (some (request, phase')) with hsame | ⟨rfl, hnew⟩
    · exact .inl hsame
    · exact .inr (.inr (.inr ⟨request, phase, phase', hk', htakes, hnew⟩))
  | @answer _ k' request answer hk' =>
    rcases hupdate k' none with hsame | ⟨-, hnew⟩
    · exact .inl hsame
    · exact .inr (.inl hnew)
  | lost k' =>
    rcases hupdate k' none with hsame | ⟨-, hnew⟩
    · exact .inl hsame
    · exact .inr (.inl hnew)
  | confirmed => exact .inl rfl

/-! ## Answers on their way -/

/-- Every answer that waits to be sent tells an account as it was, or says 404. -/
def Told (ρ : Registry H) : Prop :=
  ∀ k request response, ρ.exchanges k = some (request, .answered (some response)) →
    response.statusCode ≠ 404 → ∃ a a', ρ.accounts request.operationId = some a' ∧
      a.Extends a' ∧ response.Tells request a

theorem told_step {ρ ρ' : Registry H} {l : Option (Shown H)} (hρ : Told ρ)
    (h : Registry.Step ρ l ρ') : Told ρ' := by
  intro k request response hk hcode
  rcases h.exchange k with hsame | hnone | ⟨request', -, hnew⟩ |
    ⟨request', phase, phase', -, htakes, hnew⟩
  · obtain ⟨a, a', ha', hext, htells⟩ := hρ k request response (hsame ▸ hk) hcode
    obtain ⟨a'', ha'', hext'⟩ := h.extends ha'
    exact ⟨a, a'', ha'', hext.trans hext', htells⟩
  · cases hnone.symm.trans hk
  · cases hnew.symm.trans hk
  · cases hnew.symm.trans hk
    obtain ⟨a, ha, htells⟩ := htakes.tells hcode
    exact ⟨a, a, ha, .refl a, htells⟩

/-! ## One request -/

/-- How far a request can have come that was sent when the account was `a` or more. -/
def Phase.Since (a : Account) (request : ApiRequest) : Phase → Prop
  | .received | .answered none => True
  | .admitted => False
  | .reading statusCode => statusCode = 202 ∧ a.status = .created
  | .answered (some response) =>
    response.statusCode ≠ 404 ∧ response.statusCode ≠ 201 ∧
      (response.statusCode = 202 → a.status = .created) ∧
      ∃ b, a.Extends b ∧ response.Tells request b

theorem TakesEffect.since {accounts accounts' : Accounts} {request : ApiRequest}
    {phase phase' : Phase} (h : TakesEffect accounts request phase accounts' phase')
    {a a' : Account} (ha' : accounts request.operationId = some a') (hext : a.Extends a')
    (hphase : phase.Since a request) : phase'.Since a request := by
  obtain ⟨a'', ha'', hext'⟩ := h.extends ha'
  have htold : ∀ response, phase' = .answered (some response) → response.statusCode ≠ 404 →
      ∃ b, a.Extends b ∧ response.Tells request b := by
    rintro response rfl hcode
    obtain ⟨b, hb, htells⟩ := h.tells hcode
    cases ha''.symm.trans hb
    exact ⟨a'', hext.trans hext', htells⟩
  cases h with
  | admitted hfree => cases hfree.symm.trans ha'
  | missing _ hnone => cases hnone.symm.trans ha'
  | created | overtaken | tooLarge => exact hphase.elim
  | unbindable | tooLong => trivial
  | read code hb =>
    obtain ⟨rfl, hstatus⟩ := hphase
    exact ⟨by simp, by simp, fun _ => hstatus, htold _ rfl (by simp)⟩
  | submitted now hb hstatus =>
    refine ⟨rfl, ?_⟩
    cases ha'.symm.trans hb
    by_contra hne
    exact hext.processing hne hstatus
  | registered | gotOperation | gotEvents | resubmitted | conflict | settled | repeated | ignored =>
    exact ⟨by simp, by simp, by simp, htold _ rfl (by simp)⟩

/-- What holds on connection `k` since the request came in, while no other comes in there. -/
structure Asked (a : Account) (request : ApiRequest) (k : H) (ρ : Registry H) : Prop where
  account : ∃ a', ρ.accounts request.operationId = some a' ∧ a.Extends a'
  exchange : ∀ request' phase, ρ.exchanges k = some (request', phase) →
    request' = request ∧ phase.Since a request

theorem asked_step {a : Account} {request : ApiRequest} {k : H} {ρ ρ' : Registry H}
    {l : Option (Shown H)} (hl : ∀ x ∈ l, ∀ request', x ≠ .request k request')
    (hρ : Asked a request k ρ) (h : Registry.Step ρ l ρ') : Asked a request k ρ' := by
  obtain ⟨a', ha', hext⟩ := hρ.account
  obtain ⟨a'', ha'', hext'⟩ := h.extends ha'
  refine ⟨⟨a'', ha'', hext.trans hext'⟩, fun request' phase hk => ?_⟩
  rcases h.exchange k with hsame | hnone | ⟨new, hlabel, -⟩ | ⟨old, phase', new, hold', htakes, hnew⟩
  · exact hρ.exchange request' phase (hsame ▸ hk)
  · cases hnone.symm.trans hk
  · exact absurd rfl (hl _ hlabel new)
  · cases hnew.symm.trans hk
    obtain ⟨rfl, hphase⟩ := hρ.exchange _ _ hold'
    exact ⟨rfl, htakes.since ha' hext hphase⟩

theorem Registry.asked_stays {a : Account} {request : ApiRequest} {k : H} {ρ ρ' : Registry H}
    {shown : List (Shown H)} (h : Visible.Shows Registry.Step ρ shown ρ')
    (hshown : ∀ x ∈ shown, ∀ request', x ≠ .request k request') (hρ : Asked a request k ρ) :
    Asked a request k ρ' := by
  refine @Visible.Shows.keeps_of _ _ _ (Asked a request k)
    (fun x => ∀ request', x ≠ .request k request') ?_ _ _ _ h hshown hρ
  intro s t l hl hs hstep
  exact asked_step hl hs hstep

/-- The same of the registry. -/
theorem Registry.later_answer {k k' : H} {request request' : ApiRequest}
    {first later : ApiResponse} {past between during : List (Shown H)}
    (h : Visible.Trace Registry.Step (Registry.empty : Registry H)
      (past ++ .answer k request (some first) :: (between ++ .request k' request' ::
        (during ++ [.answer k' request' (some later)]))))
    (hsame : request'.operationId = request.operationId) (hfound : first.statusCode ≠ 404)
    (hduring : ∀ x ∈ during, ∀ request'', x ≠ .request k' request'') :
    later.statusCode ≠ 404 ∧ later.statusCode ≠ 201 ∧
      ∃ a b, first.Tells request a ∧ later.Tells request' b ∧
        a.Extends b ∧ (later.statusCode = 202 → a.status = .created) := by
  obtain ⟨ρ, hρ⟩ := h
  obtain ⟨ρ₁, hpast, hrest⟩ := hρ.split
  obtain ⟨ρ₂, ρ₃, hsilent, hanswer, hrest⟩ := hrest.at_label
  obtain ⟨ρ₄, hbetween, hrest⟩ := hrest.split
  obtain ⟨ρ₅, ρ₆, hsilent', hrequest, hrest⟩ := hrest.at_label
  obtain ⟨ρ₇, hwait, hlast⟩ := hrest.split
  obtain ⟨ρ₈, ρ₉, hsilent'', hlater, -⟩ := hlast.at_label
  -- the first answer tells an account `a`
  have hstart : Told (Registry.empty : Registry H) := by
    intro k request response hk
    cases hk
  have htold := hsilent.keeps (I := Told) told_step (hpast.keeps (I := Told) told_step hstart)
  cases hanswer with
  | answer hk =>
    obtain ⟨a, a', ha', hext, htells⟩ := htold k request first hk hfound
    -- it is there, or more of it, when the second request comes in
    obtain ⟨a₅, ha₅, hext₅⟩ := Registry.account_stays hsilent'
      (Registry.account_stays hbetween ⟨a', ha', hext⟩)
    cases hrequest with
    | request _ _ hidle =>
      have hasked : Asked a request' k'
          ⟨ρ₅.accounts, Function.update ρ₅.exchanges k' (some (request', .received))⟩ := by
        refine ⟨⟨a₅, hsame ▸ ha₅, hext₅⟩, fun request'' phase hk' => ?_⟩
        dsimp only at hk'
        rw [Function.update_self] at hk'
        cases hk'
        exact ⟨rfl, trivial⟩
      -- and while it is being answered
      have hasked' := Registry.asked_stays hwait hduring hasked
      have hasked'' := Registry.asked_stays hsilent'' (fun _ hx => by cases hx) hasked'
      cases hlater with
      | answer hk' =>
        obtain ⟨-, hmissing, hcreated, hagain, b, hext', htells'⟩ := hasked''.exchange _ _ hk'
        exact ⟨hmissing, hcreated, a, b, htells, htells', hext', hagain⟩

/-- **A later answer tells what the earlier one did, or more of it**: its terms, its payment id,
its events, its final status.  It is never 404 or 201, and 202 only where the earlier one told
CREATED. -/
theorem answers_extend [HttpClient] {W : Type} [DecidableEq W] (kind : W → WorkerKind)
    (actions : List (ServiceAction W H)) {k k' : H} {request request' : ApiRequest}
    {first later : ApiResponse} {past between during rest : List (Shown H)}
    (hshown : Service.shown kind actions =
      past ++ .answer k request (some first) :: (between ++ .request k' request' ::
        (during ++ .answer k' request' (some later) :: rest)))
    (hsame : request'.operationId = request.operationId) (hfound : first.statusCode ≠ 404)
    (hduring : ∀ x ∈ during, ∀ request'', x ≠ .request k' request'') :
    later.statusCode ≠ 404 ∧ later.statusCode ≠ 201 ∧
      ∃ a b, first.Tells request a ∧ later.Tells request' b ∧
        a.Extends b ∧ (later.statusCode = 202 → a.status = .created) := by
  obtain ⟨ρ, hρ, -⟩ := shows_registry kind actions
  have hcut : Service.shown kind actions =
      (past ++ .answer k request (some first) :: (between ++ .request k' request' ::
        (during ++ [.answer k' request' (some later)]))) ++ rest := by
    simp [hshown]
  rw [hcut] at hρ
  exact Registry.later_answer (Visible.Trace.of_append ⟨ρ, hρ⟩) hsame hfound hduring

/-- Created on one connection, submitted on another. -/
theorem answers_extend_submit :
    let actions : List (ServiceAction Unit Bool) :=
      [.request true 0 (.createOperation .sample), .run true, .run true, .run true, .answer true,
        .request false 1 (.submitOperation .sample), .run false, .run false, .answer false]
    ∃ first later : ApiResponse,
      Service.shown (fun _ => .running) actions =
        [.request true (.createOperation .sample),
          .answer true (.createOperation .sample) (some first),
          .request false (.submitOperation .sample),
          .answer false (.submitOperation .sample) (some later)] ∧
      later.statusCode = 202 ∧
      ∃ a b, first.Tells (.createOperation .sample) a ∧
        later.Tells (.submitOperation .sample) b ∧ a.Extends b ∧ a.status = .created := by
  intro actions
  let shown (status : OperationStatus) : Body :=
    .operation ⟨"op-1", "100.50", "RUB", none, status, none⟩
  have hshown : Service.shown (fun _ => WorkerKind.running) actions =
      [.request true (.createOperation .sample)] ++
        .answer true (.createOperation .sample) (some ⟨201, shown .created⟩) :: ([] ++
        .request false (.submitOperation .sample) :: ([] ++
          .answer false (.submitOperation .sample) (some ⟨202, shown .processing⟩) :: [])) := by
    decide +kernel
  obtain ⟨-, -, a, b, hfirst, hlater, hext, hstatus⟩ :=
    answers_extend (fun _ => WorkerKind.running) actions hshown rfl (by decide) (by simp)
  exact ⟨_, _, hshown, rfl, a, b, hfirst, hlater, hext, hstatus rfl⟩

/-! ## All answers of a run -/

/-- No payment id is on two accounts. -/
def Accounts.UniqueIds (accounts : Accounts) : Prop :=
  ∀ id id' a a' p, accounts id = some a → accounts id' = some a' →
    a.providerPaymentId = some p → a'.providerPaymentId = some p → id = id'

/-- An account may get the payment id it had, or a free one. -/
theorem Accounts.UniqueIds.set {accounts : Accounts} (h : accounts.UniqueIds) {id : String}
    {b : Account} (hb : ∀ p, b.providerPaymentId = some p →
      (∃ a, accounts id = some a ∧ a.providerPaymentId = some p) ∨ accounts.Free id p) :
    (accounts.set id b).UniqueIds := by
  -- the account of another operation with this payment id
  have hother : ∀ id' a p, id' ≠ id → accounts id' = some a → a.providerPaymentId = some p →
      b.providerPaymentId ≠ some p := by
    intro id' a p hne ha hp hbp
    rcases hb p hbp with ⟨a₀, ha₀, hp₀⟩ | ⟨-, hfree⟩
    · exact hne (h id' id a a₀ p ha ha₀ hp hp₀)
    · exact hfree id' a hne ha hp
  intro id₁ id₂ a₁ a₂ p h₁ h₂ hp₁ hp₂
  by_cases he₁ : id₁ = id <;> by_cases he₂ : id₂ = id
  · exact he₁.trans he₂.symm
  · subst he₁
    rw [Accounts.set_self] at h₁
    rw [Accounts.set_of_ne _ _ he₂] at h₂
    cases h₁
    exact absurd hp₁ (hother id₂ a₂ p he₂ h₂ hp₂)
  · subst he₂
    rw [Accounts.set_self] at h₂
    rw [Accounts.set_of_ne _ _ he₁] at h₁
    cases h₂
    exact absurd hp₂ (hother id₁ a₁ p he₁ h₁ hp₁)
  · rw [Accounts.set_of_ne _ _ he₁] at h₁
    rw [Accounts.set_of_ne _ _ he₂] at h₂
    exact h id₁ id₂ a₁ a₂ p h₁ h₂ hp₁ hp₂

theorem Accounts.UniqueIds.bind {accounts : Accounts} (h : accounts.UniqueIds) {id p : String}
    {a b : Account} (ha : accounts id = some a) (hp : accounts.CanBind id p a)
    (hb : b.providerPaymentId = some p) : (accounts.set id b).UniqueIds := by
  refine h.set fun p' hp' => ?_
  cases hb.symm.trans hp'
  rcases hp with hbound | ⟨-, hfree⟩
  · exact .inl ⟨a, ha, hbound⟩
  · exact .inr hfree

theorem TakesEffect.uniqueIds {accounts accounts' : Accounts} {request : ApiRequest}
    {phase phase' : Phase} (h : TakesEffect accounts request phase accounts' phase')
    (hunique : accounts.UniqueIds) : accounts'.UniqueIds := by
  cases h with
  | registered | admitted | overtaken | tooLarge | read | missing | gotOperation | gotEvents
  | resubmitted | conflict | unbindable | tooLong => exact hunique
  | created => exact hunique.set fun p hp => (by cases hp)
  | submitted now ha => exact hunique.set fun p hp => .inl ⟨_, ha, hp⟩
  | settled now ha hstatus hp => exact hunique.bind ha hp rfl
  | repeated ha hresult hp => exact hunique.bind ha hp rfl
  | ignored now ha hstatus hresult hp => exact hunique.bind ha hp rfl

/-- An operation is only answered from its account. -/
theorem TakesEffect.operation {accounts accounts' : Accounts} {request : ApiRequest}
    {phase : Phase} {statusCode : Nat} {shown : OperationResponse}
    (h : TakesEffect accounts request phase accounts'
      (.answered (some ⟨statusCode, .operation shown⟩))) :
    ∃ id a, accounts' id = some a ∧ shown = a.response id := by
  cases h with
  | read code ha => exact ⟨_, _, ha, rfl⟩
  | gotOperation ha => exact ⟨_, _, ha, rfl⟩
  | resubmitted ha => exact ⟨_, _, ha, rfl⟩

/-- The response shows an account as it was. -/
def OperationResponse.Shows (shown : OperationResponse) (accounts : Accounts) : Prop :=
  ∃ (id : String) (a a' : Account),
    accounts id = some a' ∧ a.Extends a' ∧ shown = a.response id

theorem OperationResponse.Shows.step {shown : OperationResponse} {ρ ρ' : Registry H}
    {l : Option (Shown H)} (hshown : shown.Shows ρ.accounts) (h : Registry.Step ρ l ρ') :
    shown.Shows ρ'.accounts := by
  obtain ⟨id, a, a', ha', hext, rfl⟩ := hshown
  obtain ⟨a'', ha'', hext'⟩ := h.extends ha'
  exact ⟨id, a, a'', ha'', hext.trans hext', rfl⟩

/-- What holds after a run with these labels. -/
structure Kept (past : List (Shown H)) (ρ : Registry H) : Prop where
  unique : ρ.accounts.UniqueIds
  waiting : ∀ k request statusCode shown,
    ρ.exchanges k = some (request, .answered (some ⟨statusCode, .operation shown⟩)) →
      shown.Shows ρ.accounts
  answered : ∀ k request statusCode shown,
    .answer k request (some ⟨statusCode, .operation shown⟩) ∈ past → shown.Shows ρ.accounts

theorem kept_step {past : List (Shown H)} {ρ ρ' : Registry H} {l : Option (Shown H)}
    (hρ : Kept past ρ) (h : Registry.Step ρ l ρ') : Kept (past ++ l.toList) ρ' := by
  refine ⟨?_, ?_, ?_⟩
  · cases h with
    | request | answer | lost => exact hρ.unique
    | take _ htakes => exact htakes.uniqueIds hρ.unique
    | confirmed ha hstatus hnone hfree =>
      refine hρ.unique.set fun p hp => .inr ?_
      cases hp
      exact hfree
  · intro k request statusCode shown hk
    rcases h.exchange k with hsame | hnone | ⟨request', -, hnew⟩ |
      ⟨request', phase, phase', -, htakes, hnew⟩
    · exact (hρ.waiting k request statusCode shown (hsame ▸ hk)).step h
    · cases hnone.symm.trans hk
    · cases hnew.symm.trans hk
    · cases hnew.symm.trans hk
      obtain ⟨id, a, ha, rfl⟩ := htakes.operation
      exact ⟨id, a, a, ha, .refl a, rfl⟩
  · intro k request statusCode shown hmem
    rcases List.mem_append.mp hmem with hpast | hlast
    · exact (hρ.answered k request statusCode shown hpast).step h
    · cases Option.mem_toList.mp hlast
      cases h with
      | answer hk => exact hρ.waiting k request statusCode shown hk

/-- What two responses of a run have in common. -/
structure OperationResponse.Agrees (r r' : OperationResponse) : Prop where
  terms : r.operationId = r'.operationId →
    r.amount = r'.amount ∧ r.currency = r'.currency ∧ r.description = r'.description
  /-- One payment id an operation, … -/
  payment : r.operationId = r'.operationId → ∀ p ∈ r.providerPaymentId,
    ∀ p' ∈ r'.providerPaymentId, p = p'
  /-- … and one operation a payment id. -/
  operation : ∀ p ∈ r.providerPaymentId, p ∈ r'.providerPaymentId →
    r.operationId = r'.operationId
  /-- One final status. -/
  final : r.operationId = r'.operationId → ∀ result result' : ReceiptResult,
    r.status = result.status → r'.status = result'.status → result = result'

theorem OperationResponse.Shows.agrees {accounts : Accounts} (hunique : accounts.UniqueIds)
    {r r' : OperationResponse} (h : r.Shows accounts) (h' : r'.Shows accounts) : r.Agrees r' := by
  obtain ⟨id, a, b, hb, hext, rfl⟩ := h
  obtain ⟨id', a', b', hb', hext', rfl⟩ := h'
  constructor
  · intro hid
    obtain rfl : id = id' := hid
    cases hb.symm.trans hb'
    have hterms : a.terms = a'.terms := hext.terms.symm.trans hext'.terms
    simp only [Account.response, hterms, and_self]
  · intro hid p hp p' hp'
    obtain rfl : id = id' := hid
    cases hb.symm.trans hb'
    have hbound := hext.providerPaymentId p hp
    exact Option.some.inj (hbound.symm.trans (hext'.providerPaymentId p' hp'))
  · intro p hp hp'
    exact hunique id id' b b' p hb hb' (hext.providerPaymentId p hp) (hext'.providerPaymentId p hp')
  · intro hid result result' hr hr'
    obtain rfl : id = id' := hid
    cases hb.symm.trans hb'
    have hfinal := hext.final result hr
    exact ReceiptResult.status_injective (hfinal.symm.trans (hext'.final result' hr'))

/-- **All answers of a run agree**: whatever the order they were sent in, and on whatever
connection, two answers show the same terms, payment id and final status of an operation, and no
payment id for two. -/
theorem answers_agree [HttpClient] {W : Type} [DecidableEq W] (kind : W → WorkerKind)
    (actions : List (ServiceAction W H)) {k k' : H} {request request' : ApiRequest}
    {statusCode statusCode' : Nat} {r r' : OperationResponse}
    (h : .answer k request (some ⟨statusCode, .operation r⟩) ∈ Service.shown kind actions)
    (h' : .answer k' request' (some ⟨statusCode', .operation r'⟩) ∈ Service.shown kind actions) :
    r.Agrees r' := by
  obtain ⟨ρ, hρ, -⟩ := shows_registry kind actions
  have hstart : Kept [] (Registry.empty : Registry H) := by
    refine ⟨?_, ?_, ?_⟩
    · intro id id' a a' p ha
      cases ha
    · intro k request statusCode shown hk
      cases hk
    · intro k request statusCode shown hmem
      cases hmem
  have hkept := hρ.invariant (I := Kept) kept_step hstart
  rw [List.nil_append] at hkept
  exact (hkept.answered _ _ _ _ h).agrees hkept.unique (hkept.answered _ _ _ _ h')

/-- Created on one connection, read on another. -/
theorem answers_agree_created :
    let actions : List (ServiceAction Unit Bool) :=
      [.request true 0 (.createOperation .sample), .run true, .run true, .run true, .answer true,
        .request false 1 (.getOperation .sample), .run false, .answer false]
    ∃ r r' : OperationResponse,
      .answer true (.createOperation .sample) (some ⟨201, .operation r⟩) ∈
        Service.shown (fun _ => .running) actions ∧
      .answer false (.getOperation .sample) (some ⟨200, .operation r'⟩) ∈
        Service.shown (fun _ => .running) actions ∧ r.Agrees r' := by
  intro actions
  let r : OperationResponse := ⟨"op-1", "100.50", "RUB", none, .created, none⟩
  have hshown : Service.shown (fun _ => WorkerKind.running) actions =
      [.request true (.createOperation .sample),
        .answer true (.createOperation .sample) (some ⟨201, .operation r⟩),
        .request false (.getOperation .sample),
        .answer false (.getOperation .sample) (some ⟨200, .operation r⟩)] := by
    decide +kernel
  have h : .answer true (.createOperation .sample) (some ⟨201, .operation r⟩) ∈
      Service.shown (fun _ => WorkerKind.running) actions := by
    simp [hshown]
  have h' : .answer false (.getOperation .sample) (some ⟨200, .operation r⟩) ∈
      Service.shown (fun _ => WorkerKind.running) actions := by
    simp [hshown]
  exact ⟨r, r, h, h', answers_agree (fun _ => WorkerKind.running) actions h h'⟩

end PaymentService
