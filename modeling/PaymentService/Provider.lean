import PaymentService.Model
import Mathlib.Data.List.TakeWhile
import Mathlib.Tactic.MkIffOfInductiveProp

/-!
# The provider client and the provider

* `HttpClient` — the third-party client (`httpx`), a parameter of everything below: which texts it
  takes as the value of a header (`headerError_eq_none`).
* `createPayment` — `ProviderClient.create_payment` of `app/api/provider/provider_client.py`: for
  each way the HTTP call can end, the payment it returns or the text of its exception.
* `Payment`, `Held` — the provider's own table: what it is assumed to keep, one payment per
  `Idempotency-Key`.

Principal result: `Ledger.pay` keeps `Ledger.Valid` — a provider that opens a payment only for a
new key, under a new id, holds at most one payment per operation.
-/

namespace PaymentService

/-! ## Requests -/

/-- The JSON body of `POST /payments`. -/
structure PaymentBody where
  operationId : String
  amount : String
  currency : String
  deriving DecidableEq, Repr

structure PaymentRequest where
  idempotencyKey : String
  correlationId : String
  body : PaymentBody
  deriving DecidableEq, Repr

/-- `f"{amount:.2f}"` of a `Numeric(12, 2)`. -/
def formatAmount (hundredths : Nat) : String :=
  s!"{hundredths / 100}." ++
    (if hundredths % 100 < 10 then s!"0{hundredths % 100}" else s!"{hundredths % 100}")

/-- The hundredths of a decimal rounded to two places, a half to the even one. -/
def Decimal.rescaled (d : Decimal) : Nat :=
  if -2 ≤ d.exponent then d.hundredths
  else
    let unit := 10 ^ (-2 - d.exponent).toNat
    let whole := d.coefficient / unit
    let rest := d.coefficient % unit
    if 2 * rest < unit then whole
    else if unit < 2 * rest then whole + 1
    else if whole % 2 = 0 then whole else whole + 1

/-- `f"{d:.2f}"`. -/
def Decimal.format (d : Decimal) : String :=
  (if d.negative then "-" else "") ++ formatAmount d.rescaled

/-- The request `create_payment` sends. -/
def paymentRequest (operationId : String) (amount : Nat) (currency : String) : PaymentRequest :=
  ⟨operationId, operationId, ⟨operationId, formatAmount amount, currency⟩⟩

/-! ## Headers -/

/-- The texts that can be the value of a header: ASCII, with no NUL, LF, VT, FF or CR in them and no
space or tab at either end. -/
@[mk_iff] structure HeaderValue (value : String) : Prop where
  ascii : ∀ c ∈ value.toList, c.toNat < 128
  noControl : ∀ c ∈ value.toList, c.toNat ≠ 0 ∧ ¬ (10 ≤ c.toNat ∧ c.toNat ≤ 13)
  noBlankStart : ∀ c ∈ value.toList.head?, c ≠ ' ' ∧ c ≠ '\t'
  noBlankEnd : ∀ c ∈ value.toList.getLast?, c ≠ ' ' ∧ c ≠ '\t'

instance (value : String) : Decidable (HeaderValue value) :=
  -- over the characters of the value, not over all of `Char`
  haveI (p : Char → Prop) [DecidablePred p] := List.decidableBAll p value.toList
  haveI (p : Char → Prop) [DecidablePred p] := @Option.decidableForallMem Char p
  decidable_of_iff' _ (headerValue_iff value)

/-- What the client raises for a header value, before it sends anything. -/
inductive HeaderError where
  /-- A `UnicodeEncodeError`, with its text. -/
  | unicodeEncodeError (text : String)
  /-- A `LocalProtocolError`, one of the `httpx.HTTPError`s. -/
  | localProtocolError
  deriving DecidableEq, Repr

/-- The HTTP client, which is not part of the repository: what it does with the value of a header,
as far as it is documented. -/
class HttpClient where
  headerError : String → Option HeaderError
  /-- Header values are encoded as ASCII. -/
  refuses_unicode : ∀ value : String, (∃ c ∈ value.toList, 128 ≤ c.toNat) →
    ∃ text, headerError value = some (.unicodeEncodeError text)
  /-- NUL and the characters that end a line are illegal in a header, … -/
  refuses_control : ∀ value : String, (∀ c ∈ value.toList, c.toNat < 128) →
    (∃ c ∈ value.toList, c.toNat = 0 ∨ 10 ≤ c.toNat ∧ c.toNat ≤ 13) →
    headerError value = some .localProtocolError
  /-- … and so are blanks around the value. -/
  refuses_blank : ∀ value : String, (∀ c ∈ value.toList, c.toNat < 128) →
    (∃ c, (c ∈ value.toList.head? ∨ c ∈ value.toList.getLast?) ∧ (c = ' ' ∨ c = '\t')) →
    headerError value = some .localProtocolError
  /-- Every other value is sent. -/
  sends : ∀ value : String, HeaderValue value → headerError value = none

/-- The client sends exactly the header values. -/
theorem headerError_eq_none [HttpClient] {value : String} :
    HttpClient.headerError value = none ↔ HeaderValue value := by
  refine ⟨fun h => ?_, HttpClient.sends value⟩
  have hascii : ∀ c ∈ value.toList, c.toNat < 128 := by
    intro c hc
    by_contra hlarge
    obtain ⟨text, herror⟩ := HttpClient.refuses_unicode value ⟨c, hc, not_lt.mp hlarge⟩
    cases h.symm.trans herror
  have hblank : ∀ c, c ∈ value.toList.head? ∨ c ∈ value.toList.getLast? → c ≠ ' ' ∧ c ≠ '\t' := by
    intro c hc
    rw [← not_or]
    intro hblank
    cases h.symm.trans (HttpClient.refuses_blank value hascii ⟨c, hc, hblank⟩)
  refine ⟨hascii, ?_, fun c hc => hblank c (.inl hc), fun c hc => hblank c (.inr hc)⟩
  intro c hc
  rw [← not_or]
  intro hcontrol
  cases h.symm.trans (HttpClient.refuses_control value hascii ⟨c, hc, hcontrol⟩)

/-! ### `httpx` -/

/-- `\x`, `\u` or `\U` and the code of a character. -/
def escapeChar (c : Char) : String :=
  let digits := Nat.toDigits 16 c.toNat
  let pad (width : Nat) := String.ofList (List.replicate (width - digits.length) '0' ++ digits)
  if c.toNat < 256 then "\\x" ++ pad 2
  else if c.toNat < 65536 then "\\u" ++ pad 4
  else "\\U" ++ pad 8

/-- The text of the `UnicodeEncodeError` of a value that is not ASCII. -/
def encodeError (value : String) : Option String :=
  let start := value.toList.takeWhile (·.toNat < 128)
  match (value.toList.drop start.length).takeWhile (128 ≤ ·.toNat) with
  | [] => none
  | [c] => some s!"'ascii' codec can't encode character '{escapeChar c}' in position {start.length}: ordinal not in range(128)"
  | _ :: cs => some s!"'ascii' codec can't encode characters in position {start.length}-{start.length + cs.length}: ordinal not in range(128)"

theorem encodeError_eq_none {value : String} :
    encodeError value = none ↔ ∀ c ∈ value.toList, c.toNat < 128 := by
  unfold encodeError
  generalize value.toList = cs
  have hsplit := @List.takeWhile_append_dropWhile _ (·.toNat < 128) cs
  have hdrop : cs.drop (cs.takeWhile (·.toNat < 128)).length = cs.dropWhile (·.toNat < 128) := by
    calc cs.drop (cs.takeWhile (·.toNat < 128)).length
        = (cs.takeWhile (·.toNat < 128) ++ cs.dropWhile (·.toNat < 128)).drop
            (cs.takeWhile (·.toNat < 128)).length := by rw [hsplit]
      _ = cs.dropWhile (·.toNat < 128) := List.drop_left
  dsimp only
  rw [hdrop]
  cases hrest : cs.dropWhile (·.toNat < 128) with
  | nil =>
    have hall := List.dropWhile_eq_nil_iff.mp hrest
    exact iff_of_true rfl (fun c hc => of_decide_eq_true (hall c hc))
  | cons c rest =>
    -- the first character that is left over is not ASCII
    have hhead := List.head?_dropWhile_not (·.toNat < 128) cs
    have hmem : c ∈ cs := (List.dropWhile_sublist _).subset (hrest ▸ List.mem_cons_self)
    rw [hrest, List.head?_cons] at hhead
    have hc : 128 ≤ c.toNat := not_lt.mp (of_decide_eq_false hhead)
    have htake : (c :: rest).takeWhile (128 ≤ ·.toNat) = c :: rest.takeWhile (128 ≤ ·.toNat) :=
      List.takeWhile_cons_of_pos (decide_eq_true hc)
    rw [htake]
    refine iff_of_false ?_ (fun h => absurd (h c hmem) (not_lt.mpr hc))
    cases rest.takeWhile (128 ≤ ·.toNat) <;> exact Option.some_ne_none _

/-- The client of the worked runs. -/
instance HttpClient.httpx : HttpClient where
  headerError value :=
    match encodeError value with
    | some text => some (.unicodeEncodeError text)
    | none => if HeaderValue value then none else some .localProtocolError
  refuses_unicode := by
    rintro value ⟨c, hc, hlarge⟩
    cases herror : encodeError value with
    | none => exact absurd (encodeError_eq_none.mp herror c hc) (not_lt.mpr hlarge)
    | some text => exact ⟨text, rfl⟩
  refuses_control := by
    rintro value hascii ⟨c, hc, hcontrol⟩
    rw [encodeError_eq_none.mpr hascii]
    exact if_neg fun h => not_or.mpr (h.noControl c hc) hcontrol
  refuses_blank := by
    rintro value hascii ⟨c, hc, hblank⟩
    rw [encodeError_eq_none.mpr hascii]
    refine if_neg fun h => ?_
    rcases hc with hc | hc
    · exact not_or.mpr (h.noBlankStart c hc) hblank
    · exact not_or.mpr (h.noBlankEnd c hc) hblank
  sends := by
    intro value h
    rw [encodeError_eq_none.mpr h.ascii]
    exact if_pos h

/-- An ASCII id that the client refuses. -/
def CreateOperationRequest.indented : CreateOperationRequest :=
  { CreateOperationRequest.sample with
    operationId := " op-1"
    operationId_min := by decide
    operationId_max := by decide }

/-! ## The client -/

structure ProviderPayment where
  providerPaymentId : String
  status : String
  deriving DecidableEq, Repr

/-- How the HTTP call ends; `payment` is what the body of the response validates to. -/
inductive HttpResult where
  | response (statusCode : Nat) (text : String) (payment : Option ProviderPayment)
  /-- An `httpx.HTTPError`. -/
  | httpError
  /-- Any other exception of the client, with its text. -/
  | exception (text : String)
  deriving DecidableEq, Repr

/-- How the call ends when the client refuses the headers. -/
def HeaderError.result : HeaderError → HttpResult
  | .unicodeEncodeError text => .exception text
  | .localProtocolError => .httpError

section

variable [HttpClient]

/-- How the call ends: `http`, if the request is sent. -/
def post (request : PaymentRequest) (http : HttpResult) : HttpResult :=
  match HttpClient.headerError request.idempotencyKey with
  | some error => error.result
  | none => http

/-- `ProviderClient.create_payment`; exceptions by their text. -/
def createPayment (request : PaymentRequest) (http : HttpResult) : Except String ProviderPayment :=
  match post request http with
  | .httpError => .error "Provider request failed at transport level"
  | .exception text => .error text
  | .response statusCode text payment =>
    if statusCode ≠ 202 then .error s!"Provider returned HTTP {statusCode}: {text}"
    else
      match payment with
      | none => .error "Provider returned invalid payment response"
      | some payment => .ok payment

/-- A call that ends in a response was sent. -/
theorem post_eq_response {request : PaymentRequest} {http : HttpResult} {statusCode : Nat}
    {text : String} {payment : Option ProviderPayment}
    (h : post request http = .response statusCode text payment) :
    HttpClient.headerError request.idempotencyKey = none ∧
      http = .response statusCode text payment := by
  unfold post at h
  split at h
  · rename_i error _
    cases error <;> cases h
  · rename_i hheader
    exact ⟨hheader, h⟩

/-- The client returns a payment only for a 202 whose body is one. -/
theorem createPayment_ok {request : PaymentRequest} {http : HttpResult}
    {payment : ProviderPayment} (h : createPayment request http = .ok payment) :
    HttpClient.headerError request.idempotencyKey = none ∧
      ∃ text, http = .response 202 text (some payment) := by
  unfold createPayment at h
  split at h
  · cases h
  · cases h
  · rename_i statusCode text body hpost
    obtain ⟨hheader, rfl⟩ := post_eq_response hpost
    split at h
    · cases h
    · rename_i hcode
      obtain rfl := not_not.mp hcode
      cases body with
      | none => cases h
      | some payment' =>
        cases h
        exact ⟨hheader, text, rfl⟩

/-- A 202 reaches the service if the request can be sent. -/
theorem createPayment_sent {request : PaymentRequest}
    (h : HttpClient.headerError request.idempotencyKey = none) (text : String)
    (payment : ProviderPayment) :
    createPayment request (.response 202 text (some payment)) = .ok payment := by
  unfold createPayment post
  rw [h]
  rfl

/-- A request that cannot be sent fails, whatever the provider would answer. -/
theorem createPayment_refused {request : PaymentRequest} {error : HeaderError}
    (h : HttpClient.headerError request.idempotencyKey = some error) (http : HttpResult) :
    ∃ text, createPayment request http = .error text := by
  unfold createPayment post
  rw [h]
  cases error <;> exact ⟨_, rfl⟩

end

/-! ## The provider -/

/-- A payment the provider holds. -/
structure Payment where
  idempotencyKey : String
  operationId : String
  providerPaymentId : String
  deriving DecidableEq, Repr

abbrev Ledger := List Payment

namespace Ledger

/-- A request arrives: a key the provider knows gets the payment it has, a new one a new payment,
under an id no other payment has. -/
def pay (payments : Ledger) (request : PaymentRequest) (providerPaymentId : String) : Ledger :=
  if request.idempotencyKey ∈ payments.map (·.idempotencyKey) ∨
      providerPaymentId ∈ payments.map (·.providerPaymentId) then payments
  else ⟨request.idempotencyKey, request.body.operationId, providerPaymentId⟩ :: payments

/-- The provider holds the payment of this operation, under this id. -/
def Held (payments : Ledger) (operationId providerPaymentId : String) : Prop :=
  ∃ payment ∈ payments, payment.operationId = operationId ∧
    payment.providerPaymentId = providerPaymentId

/-- An answer a faithful provider can give: a 202 carries the payment held for the key. -/
def Answers (payments : Ledger) (request : PaymentRequest) : HttpResult → Prop
  | .response statusCode _ (some answer) => statusCode = 202 → ∃ payment ∈ payments,
      payment.idempotencyKey = request.idempotencyKey ∧
        payment.providerPaymentId = answer.providerPaymentId
  | _ => True

instance (payments : Ledger) (request : PaymentRequest) :
    (http : HttpResult) → Decidable (payments.Answers request http)
  | .response _ _ (some _) => inferInstanceAs (Decidable (_ → _))
  | .response _ _ none | .httpError | .exception _ => inferInstanceAs (Decidable True)

/-- One payment per key, one key per id; the key is the operation. -/
structure Valid (payments : Ledger) : Prop where
  keys : (payments.map (·.idempotencyKey)).Nodup
  ids : (payments.map (·.providerPaymentId)).Nodup
  own : ∀ payment ∈ payments, payment.operationId = payment.idempotencyKey

theorem pay_subset (payments : Ledger) (request : PaymentRequest) (p : String) :
    payments ⊆ payments.pay request p := by
  unfold pay
  split
  · exact List.Subset.refl _
  · exact List.subset_cons_self _ _

/-- A payment was there, or is the request's. -/
theorem mem_pay {payments : Ledger} {request : PaymentRequest} {p : String} {payment : Payment}
    (h : payment ∈ payments.pay request p) :
    payment ∈ payments ∨ payment.idempotencyKey = request.idempotencyKey := by
  unfold pay at h
  split at h
  · exact .inl h
  · rcases List.mem_cons.mp h with rfl | hold
    · exact .inr rfl
    · exact .inl hold

theorem Held.mono {payments payments' : Ledger} (h : payments ⊆ payments') {id p : String}
    (hp : payments.Held id p) : payments'.Held id p := by
  obtain ⟨payment, hmem, hid, hpid⟩ := hp
  exact ⟨payment, h hmem, hid, hpid⟩

/-- A request under its operation's id keeps the table valid. -/
theorem Valid.pay {payments : Ledger} (h : payments.Valid) {request : PaymentRequest}
    (hrequest : request.idempotencyKey = request.body.operationId) (p : String) :
    (payments.pay request p).Valid := by
  unfold Ledger.pay
  split
  · exact h
  · rename_i hnew
    rw [not_or] at hnew
    refine ⟨?_, ?_, ?_⟩
    · rw [List.map_cons, List.nodup_cons]
      exact ⟨hnew.1, h.keys⟩
    · rw [List.map_cons, List.nodup_cons]
      exact ⟨hnew.2, h.ids⟩
    · rw [List.forall_mem_cons]
      exact ⟨hrequest.symm, h.own⟩

/-- **At most one payment per operation.** -/
theorem Valid.operations_nodup {payments : Ledger} (h : payments.Valid) :
    (payments.map (·.operationId)).Nodup := by
  have hmap : payments.map (·.operationId) = payments.map (·.idempotencyKey) :=
    List.map_congr_left h.own
  rw [hmap]
  exact h.keys

/-- The payment of an operation has one id. -/
theorem Valid.id_unique {payments : Ledger} (h : payments.Valid) {id p q : String}
    (hp : payments.Held id p) (hq : payments.Held id q) : p = q := by
  obtain ⟨payment, hmem, hid, rfl⟩ := hp
  obtain ⟨payment', hmem', hid', rfl⟩ := hq
  rw [List.inj_on_of_nodup_map h.operations_nodup hmem hmem' (hid.trans hid'.symm)]

/-- An id belongs to one operation. -/
theorem Valid.operation_unique {payments : Ledger} (h : payments.Valid) {id id' p : String}
    (hp : payments.Held id p) (hp' : payments.Held id' p) : id = id' := by
  obtain ⟨payment, hmem, rfl, hpid⟩ := hp
  obtain ⟨payment', hmem', rfl, hpid'⟩ := hp'
  rw [List.inj_on_of_nodup_map h.ids hmem hmem' (hpid.trans hpid'.symm)]

end Ledger

end PaymentService
