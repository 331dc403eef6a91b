import PaymentService.PaymentIds

/-!
# The event history

* `Change.events` — a change appends at most one event, from the old status to the new one.
* `event_log` — **the log is gap-free and replayable**: numbers 1 to n, each event starts at the
  status its predecessor ends at, the last ends at the current status, and times are in order.
* `Documented` — the transition table of `app/db/models/enums.py` and the order of its rows.
* `documented_iff_no_early_receipt` — histories follow it exactly in runs without early receipts.
-/

namespace PaymentService

/-! ## What a change appends -/

/-- An event of a change of existing rows: numbered next, from the old status to the new one. -/
structure Follows (old rows : Rows) (now : Timestamp) (event : Event) : Prop where
  sequenceNo : event.sequenceNo = nextSequenceNo old.events
  fromStatus : event.fromStatus = some old.operation.status
  toStatus : event.toStatus = rows.operation.status
  occurredAt : event.occurredAt = now

/-- **A change appends one event, or keeps both log and status.** -/
theorem Change.events {db : Db} {c : Call} {old rows : Rows} {out : Outcome}
    (h : Change db c (some old) out rows) :
    (rows.events = old.events ∧ rows.operation.status = old.operation.status) ∨
    ∃ event, rows.events = old.events ++ [event] ∧ Follows old rows c.now event := by
  cases h with
  | submitted now id hstatus hjob =>
    refine .inr ⟨_, rfl, rfl, ?_, rfl, rfl⟩
    rw [hstatus]
  | finalized now receipt hstatus hp hmessage => exact .inr ⟨_, rfl, rfl, rfl, rfl, rfl⟩
  | ignored now receipt hstatus hresult hp => exact .inr ⟨_, rfl, rfl, rfl, rfl, rfl⟩
  | claimed | completed | failed | duplicate => exact .inl ⟨rfl, rfl⟩

/-- What the log of an operation says, whatever the operation went through. -/
structure Rows.Logged (rows : Rows) : Prop where
  numbers : rows.events.map (·.sequenceNo) = List.range' 1 rows.events.length
  first : ∃ event rest, rows.events = event :: rest ∧ event.type = .created ∧
    event.fromStatus = none ∧ event.toStatus = .created
  chained : rows.events.IsChain (fun a b => b.fromStatus = some a.toStatus)
  last : rows.events.getLast?.map (·.toStatus) = some rows.operation.status

theorem nextSequenceNo_eq {events : List Event}
    (h : events.map (·.sequenceNo) = List.range' 1 events.length) :
    nextSequenceNo events = events.length + 1 := by
  unfold nextSequenceNo
  rw [h]
  split
  · rename_i hnone
    have hnil := List.max?_eq_none_iff.mp hnone
    rw [List.range'_eq_nil_iff] at hnil
    omega
  · rename_i last hlast
    have hmem := List.mem_range'_1.mp (List.max?_mem hlast)
    have hle := (List.max?_le_iff hlast).mp (Nat.le_refl last) events.length
      (List.mem_range'_1.mpr ⟨by omega, by omega⟩)
    omega

theorem logged_created (now : Timestamp) (request : CreateOperationRequest) :
    (Rows.created now request).Logged where
  numbers := rfl
  first := ⟨_, [], rfl, rfl, rfl, rfl⟩
  chained := .singleton _
  last := rfl

theorem Change.logged {db : Db} {c : Call} {old rows : Rows} {out : Outcome}
    (h : Change db c (some old) out rows) (hold : old.Logged) : rows.Logged := by
  rcases h.events with ⟨hevents, hstatus⟩ | ⟨event, hevents, hfollows⟩
  · constructor <;> rw [hevents]
    · exact hold.numbers
    · exact hold.first
    · exact hold.chained
    · rw [hstatus]
      exact hold.last
  · obtain ⟨first, rest, hfirst, htype, hfrom, hto⟩ := hold.first
    constructor <;> rw [hevents]
    · rw [List.map_append, hold.numbers, List.length_append, List.length_singleton,
        List.range'_1_concat, List.map_singleton, hfollows.sequenceNo,
        nextSequenceNo_eq hold.numbers, Nat.add_comm 1]
    · exact ⟨first, rest ++ [event], by rw [hfirst]; rfl, htype, hfrom, hto⟩
    · refine hold.chained.append (.singleton _) ?_
      intro a ha b hb
      cases hb
      have hlast := hold.last
      rw [ha, Option.map_some] at hlast
      rw [hfollows.fromStatus, hlast]
    · rw [List.getLast?_concat, Option.map_some, hfollows.toStatus]

theorem logged_after (calls : List Call) :
    ∀ id rows, (after calls).lookup id = some rows → rows.Logged := by
  refine rows_invariant ?_ calls
  intro db c o out rows hc hold
  cases o with
  | none => cases hc with | created now request hamount => exact logged_created now request
  | some old => exact hc.logged (hold old rfl)

/-- `get_events` gives the log as it was written. -/
theorem getEvents_after {calls : List Call} {id : String} {rows : Rows}
    (hrows : (after calls).lookup id = some rows) :
    getEvents id (after calls) = .ok rows.events := by
  have hnumbers := (logged_after calls id rows hrows).numbers
  unfold getEvents
  rw [hrows]
  refine congrArg Except.ok (List.mergeSort_of_pairwise ?_)
  have hsorted : (rows.events.map (·.sequenceNo)).Pairwise (· ≤ ·) := by
    rw [hnumbers]
    exact List.pairwise_le_range' 1
  refine (List.pairwise_map.mp hsorted).imp ?_
  intro a b hab
  exact decide_eq_true hab

/-! ## Status changes -/

/-- The events that change the status. -/
def transitions (events : List Event) : List Event :=
  events.filter (fun event => event.fromStatus ≠ some event.toStatus)

/-- The log `get_events` gives, empty for an operation that does not exist. -/
def Db.log (db : Db) (id : String) : List Event :=
  match getEvents id db with
  | .ok events => events
  | .error _ => []

theorem log_after {calls : List Call} {id : String} {rows : Rows}
    (hrows : (after calls).lookup id = some rows) : (after calls).log id = rows.events := by
  unfold Db.log
  rw [getEvents_after hrows]

theorem log_none {db : Db} {id : String} (h : db.lookup id = none) : db.log id = [] := by
  unfold Db.log getEvents
  rw [h]

/-- A change of status adds one transition to the log, and nothing else does. -/
theorem Change.adds_transition {db : Db} {c : Call} {old rows : Rows} {out : Outcome}
    (h : Change db c (some old) out rows) :
    if rows.operation.status = old.operation.status then
      transitions rows.events = transitions old.events
    else ∃ event, transitions rows.events = transitions old.events ++ [event] ∧
      event.fromStatus = some old.operation.status ∧ event.toStatus = rows.operation.status := by
  rcases h.events with ⟨hevents, hstatus⟩ | ⟨event, hevents, hfollows⟩
  · rw [if_pos hstatus, hevents]
  · have happend : transitions rows.events = transitions old.events ++ transitions [event] := by
      rw [hevents]
      exact List.filter_append ..
    rw [happend]
    split
    · rename_i hstatus
      have hsingle : transitions [event] = [] := by
        simp [transitions, hfollows.fromStatus, hfollows.toStatus, hstatus]
      rw [hsingle, List.append_nil]
    · rename_i hstatus
      have hsingle : transitions [event] = [event] := by
        simp [transitions, hfollows.fromStatus, hfollows.toStatus, Ne.symm hstatus]
      exact ⟨event, by rw [hsingle], hfollows.fromStatus, hfollows.toStatus⟩

theorem transitions_next (calls : List Call) (c : Call) (id : String) :
    if (after (calls ++ [c])).status id = (after calls).status id then
      transitions ((after (calls ++ [c])).log id) = transitions ((after calls).log id)
    else ∃ event, transitions ((after (calls ++ [c])).log id) =
        transitions ((after calls).log id) ++ [event] ∧
      event.fromStatus = (after calls).status id ∧
      some event.toStatus = (after (calls ++ [c])).status id := by
  rcases lookup_next (after calls) c id with hsame | ⟨out, rows, hid, hout, hc, hnew⟩
  · rw [after_concat]
    have hstatus : ((after calls).next c).status id = (after calls).status id := congrArg _ hsame
    have hlog : ((after calls).next c).log id = (after calls).log id := by
      unfold Db.log getEvents
      rw [hsame]
    rw [if_pos hstatus, hlog]
  · rw [← after_concat] at hnew
    rw [log_after hnew]
    cases hold : (after calls).lookup id with
    | none =>
      rw [hold] at hc
      rw [log_none hold]
      unfold Db.status
      rw [hold, hnew]
      cases hc with
      | created now request hamount => exact ⟨_, rfl, rfl, rfl⟩
    | some old =>
      rw [hold] at hc
      rw [log_after hold]
      unfold Db.status
      rw [hold, hnew]
      simp only [Option.map_some, Option.some.injEq]
      have h := hc.adds_transition
      split at h
      · rename_i hstatus
        rw [if_pos hstatus]
        exact h
      · rename_i hstatus
        rw [if_neg hstatus]
        obtain ⟨event, hevents, hfrom, hto⟩ := h
        exact ⟨event, hevents, hfrom, hto⟩

/-! ## Times -/

/-- The transactions of an operation commit in the order of the clock; `now` is the instant at which
`create_event` reads it, after the row is locked. -/
def ClockMonotone (id : String) (calls : List Call) : Prop :=
  (calls.filter (·.operationId = id)).Pairwise (fun a b => a.now ≤ b.now)

theorem clockMonotone_concat {id : String} {calls : List Call} {c : Call}
    (h : ClockMonotone id (calls ++ [c])) :
    ClockMonotone id calls ∧
      (c.operationId = id → ∀ a ∈ calls, a.operationId = id → a.now ≤ c.now) := by
  unfold ClockMonotone at h ⊢
  rw [List.filter_append, List.pairwise_append] at h
  refine ⟨h.1, ?_⟩
  intro hc a ha haid
  refine h.2.2 a ?_ c ?_
  · exact List.mem_filter.mpr ⟨ha, decide_eq_true haid⟩
  · exact List.mem_filter.mpr ⟨List.mem_singleton_self c, decide_eq_true hc⟩

/-- Every event carries the time of a call of its operation, and later ones later times. -/
theorem times_after {id : String} (calls : List Call) (hclock : ClockMonotone id calls) :
    ∀ rows, (after calls).lookup id = some rows →
      rows.events.Pairwise (fun a b => a.occurredAt ≤ b.occurredAt) ∧
      ∀ event ∈ rows.events, ∃ c ∈ calls, c.operationId = id ∧ event.occurredAt = c.now := by
  induction calls using List.reverseRecOn with
  | nil =>
    intro rows hrows
    rw [show after [] = ∅ from rfl, Finmap.lookup_empty] at hrows
    cases hrows
  | append_singleton calls c ih =>
    intro rows hrows
    obtain ⟨hbefore, hc⟩ := clockMonotone_concat hclock
    have ih := ih hbefore
    rw [after_concat] at hrows
    rcases lookup_next (after calls) c id with hsame | ⟨out, new, hid, hout, hchange, hnew⟩
    · obtain ⟨hsorted, htimes⟩ := ih rows (hsame ▸ hrows)
      refine ⟨hsorted, fun event hevent => ?_⟩
      obtain ⟨a, ha, haid, hnow⟩ := htimes event hevent
      exact ⟨a, List.mem_append_left _ ha, haid, hnow⟩
    · cases hnew.symm.trans hrows
      have hmem : c ∈ calls ++ [c] := List.mem_append_right _ (List.mem_singleton_self c)
      cases hold : (after calls).lookup id with
      | none =>
        rw [hold] at hchange
        cases hchange with
        | created now request hamount =>
          refine ⟨List.pairwise_singleton _ _, fun event hevent => ?_⟩
          cases List.mem_singleton.mp hevent
          exact ⟨_, hmem, hid, rfl⟩
      | some old =>
        rw [hold] at hchange
        obtain ⟨hsorted, htimes⟩ := ih old hold
        rcases hchange.events with ⟨hevents, -⟩ | ⟨event, hevents, hfollows⟩ <;> rw [hevents]
        · refine ⟨hsorted, fun event hevent => ?_⟩
          obtain ⟨a, ha, haid, hnow⟩ := htimes event hevent
          exact ⟨a, List.mem_append_left _ ha, haid, hnow⟩
        · constructor
          · rw [List.pairwise_append]
            refine ⟨hsorted, List.pairwise_singleton _ _, ?_⟩
            intro a ha b hb
            cases List.mem_singleton.mp hb
            obtain ⟨call, hcall, hcallid, hnow⟩ := htimes a ha
            rw [hnow, hfollows.occurredAt]
            exact hc hid call hcall hcallid
          · intro b hb
            rcases List.mem_append.mp hb with hb | hb
            · obtain ⟨a, ha, haid, hnow⟩ := htimes b hb
              exact ⟨a, List.mem_append_left _ ha, haid, hnow⟩
            · cases List.mem_singleton.mp hb
              exact ⟨c, hmem, hid, hfollows.occurredAt⟩

/-- **The event log is a gap-free, replayable history.** -/
theorem event_log (calls : List Call) (id : String) :
    (∀ events, getEvents id (after calls) = .ok events →
      events.map (·.sequenceNo) = List.range' 1 events.length ∧
      (∃ event rest, events = event :: rest ∧ event.type = .created ∧
        event.fromStatus = none ∧ event.toStatus = .created) ∧
      events.IsChain (fun a b => b.fromStatus = some a.toStatus) ∧
      events.getLast?.map (·.toStatus) = (after calls).status id ∧
      (ClockMonotone id calls → events.Pairwise (fun a b => a.occurredAt ≤ b.occurredAt))) ∧
    ∀ c, if (after (calls ++ [c])).status id = (after calls).status id then
        transitions ((after (calls ++ [c])).log id) = transitions ((after calls).log id)
      else ∃ event, transitions ((after (calls ++ [c])).log id) =
          transitions ((after calls).log id) ++ [event] ∧
        event.fromStatus = (after calls).status id ∧
        some event.toStatus = (after (calls ++ [c])).status id := by
  refine ⟨?_, fun c => transitions_next calls c id⟩
  intro events hevents
  cases hrows : (after calls).lookup id with
  | none =>
    unfold getEvents at hevents
    rw [hrows] at hevents
    cases hevents
  | some rows =>
    cases (getEvents_after hrows).symm.trans hevents
    have hlogged := logged_after calls id rows hrows
    refine ⟨hlogged.numbers, hlogged.first, hlogged.chained, ?_, ?_⟩
    · unfold Db.status
      rw [hlogged.last, hrows]
      rfl
    · intro hclock
      exact (times_after calls hclock rows hrows).1

/-! ## The documented transitions -/

/-- The rows of the table in `app/db/models/enums.py`; a RECEIPT_IGNORED keeps a final status. -/
inductive TableRow : EventType → Option OperationStatus → OperationStatus → Prop
  | created : TableRow .created none .created
  | submitRequested : TableRow .submitRequested (some .created) .processing
  | receiptCompleted : TableRow .receiptCompleted (some .processing) .completed
  | receiptRejected : TableRow .receiptRejected (some .processing) .rejected
  | ignoredCompleted : TableRow .receiptIgnored (some .completed) .completed
  | ignoredRejected : TableRow .receiptIgnored (some .rejected) .rejected

/-- The types follow CREATED, SUBMIT_REQUESTED, one final receipt, RECEIPT_IGNORED*, and every
event is a row of the table. -/
structure Documented (events : List Event) : Prop where
  types : ∃ result n, events.map (·.type) <+:
    [.created, .submitRequested, handleStatus result] ++ List.replicate n .receiptIgnored
  rows : ∀ event ∈ events, TableRow event.type event.fromStatus event.toStatus

/-- The types of the events that lead to a status. -/
def typesTo : OperationStatus → List EventType
  | .created => [.created]
  | .processing => [.created, .submitRequested]
  | .completed => [.created, .submitRequested, .receiptCompleted]
  | .rejected => [.created, .submitRequested, .receiptRejected]

theorem typesTo_status (result : ReceiptResult) :
    typesTo result.status = [.created, .submitRequested, handleStatus result] := by
  cases result <;> rfl

theorem typesTo_prefix (status : OperationStatus) : ∃ result, typesTo status <+:
    [.created, .submitRequested, handleStatus result] := by
  cases status with
  | created => exact ⟨.completed, _, rfl⟩
  | processing => exact ⟨.completed, _, rfl⟩
  | completed => exact ⟨.completed, List.prefix_rfl⟩
  | rejected => exact ⟨.rejected, List.prefix_rfl⟩

/-- The documented history, with the status it has led to. -/
structure Rows.Documented (rows : Rows) : Prop where
  types : ∃ n, rows.events.map (·.type) =
      typesTo rows.operation.status ++ List.replicate n .receiptIgnored ∧
    (n = 0 ∨ ∃ result : ReceiptResult, rows.operation.status = result.status)
  rows : ∀ event ∈ rows.events, TableRow event.type event.fromStatus event.toStatus

theorem Rows.Documented.events {rows : Rows} (h : rows.Documented) :
    PaymentService.Documented rows.events where
  types := by
    obtain ⟨n, htypes, hn⟩ := h.types
    rcases hn with rfl | ⟨result, hresult⟩
    · obtain ⟨result, hprefix⟩ := typesTo_prefix rows.operation.status
      refine ⟨result, 0, ?_⟩
      rw [htypes]
      simpa using hprefix
    · refine ⟨result, n, ?_⟩
      rw [htypes, hresult, typesTo_status]
  rows := h.rows

theorem tableRow_receipt (result : ReceiptResult) :
    TableRow (handleStatus result) (some .processing) result.status := by
  cases result
  · exact .receiptCompleted
  · exact .receiptRejected

theorem tableRow_ignored (result : ReceiptResult) :
    TableRow .receiptIgnored (some result.status) result.status := by
  cases result
  · exact .ignoredCompleted
  · exact .ignoredRejected

theorem OperationStatus.final_of_late {status : OperationStatus} (hcreated : status ≠ .created)
    (hprocessing : status ≠ .processing) : ∃ result : ReceiptResult, status = result.status := by
  cases status with
  | created => exact absurd rfl hcreated
  | processing => exact absurd rfl hprocessing
  | completed => exact ⟨.completed, rfl⟩
  | rejected => exact ⟨.rejected, rfl⟩

/-- **Every change but an early receipt keeps the history documented.** -/
theorem Change.documented {db : Db} {c : Call} {old rows : Rows} {out : Outcome}
    (h : Change db c (some old) out rows) (hold : db.lookup c.operationId = some old)
    (hearly : ¬ EarlyReceipt db c) (hdoc : old.Documented) : rows.Documented := by
  obtain ⟨n, htypes, hn⟩ := hdoc.types
  cases h with
  | submitted now id hstatus hjob =>
    rcases hn with rfl | ⟨result, hresult⟩
    · refine ⟨⟨0, ?_, .inl rfl⟩, ?_⟩
      · simp [Rows.submitted, Rows.record, htypes, hstatus, typesTo]
      · exact List.forall_mem_append.mpr ⟨hdoc.rows, List.forall_mem_singleton.mpr
          .submitRequested⟩
    · exact absurd (hresult.symm.trans hstatus) (ReceiptResult.status_ne_created result)
  | finalized now receipt hstatus hp hmessage =>
    rcases hn with rfl | ⟨result, hresult⟩
    · refine ⟨⟨0, ?_, .inl rfl⟩, ?_⟩
      · rw [show (old.finalized now receipt).operation.status = receipt.result.status from rfl,
          typesTo_status]
        simp [Rows.finalized, Rows.record, htypes, hstatus, typesTo]
      · refine List.forall_mem_append.mpr ⟨hdoc.rows, List.forall_mem_singleton.mpr ?_⟩
        rw [hstatus]
        exact tableRow_receipt receipt.result
    · exact absurd (hresult.symm.trans hstatus) (ReceiptResult.status_ne_processing result)
  | ignored now receipt hstatus hresult hp =>
    have hcreated : old.operation.status ≠ .created :=
      fun hcreated => hearly ⟨old, hold, hcreated, hp⟩
    obtain ⟨result, hfinal⟩ := OperationStatus.final_of_late hcreated hstatus
    refine ⟨⟨n + 1, ?_, .inr ⟨result, hfinal⟩⟩, ?_⟩
    · simp [Rows.ignored, Rows.record, htypes, List.replicate_succ']
    · refine List.forall_mem_append.mpr ⟨hdoc.rows, List.forall_mem_singleton.mpr ?_⟩
      rw [hfinal]
      exact tableRow_ignored result
  | claimed | completed | failed | duplicate => exact ⟨hdoc.types, hdoc.rows⟩

/-- The events of every operation in these tables are documented. -/
def Db.Documented (db : Db) : Prop :=
  ∀ id rows, db.lookup id = some rows → PaymentService.Documented rows.events

theorem documented_after {calls : List Call} (h : ∀ p ∈ steps calls, ¬ EarlyReceipt p.1 p.2) :
    (after calls).Documented := by
  have hinv := @rows_of_no_early_receipt Rows.Documented ?_ ?_ calls h
  · exact fun id rows hrows => (hinv id rows hrows).events
  · intro now request
    exact ⟨⟨0, rfl, .inl rfl⟩, List.forall_mem_singleton.mpr .created⟩
  · intro db c old rows out hc hold hearly hdoc
    exact hc.documented hold hearly hdoc

/-- **Histories follow the documented table in every state of a run, exactly when no step of the
run takes an early receipt.** -/
theorem documented_iff_no_early_receipt (calls : List Call) :
    (∀ pre, pre <+: calls → (after pre).Documented) ↔
      ∀ p ∈ steps calls, ¬ EarlyReceipt p.1 p.2 := by
  constructor
  · rintro hdoc ⟨db, c⟩ hp hearly
    obtain ⟨pre, post, rfl, rfl⟩ := mem_steps.mp hp
    obtain ⟨now, receipt, rows, rfl, hrows, hstatus, hnext⟩ := hearly.next
    have h := hdoc (pre ++ [.processReceipt now receipt]) ⟨post, by simp⟩
    rw [after_concat] at h
    have hrow := (h _ _ hnext).rows _ (List.mem_append_right _ (List.mem_singleton_self _))
    rw [hstatus] at hrow
    cases hrow
  · intro hearly pre hpre
    exact documented_after (fun p hp => hearly p (mem_steps_of_earlier hpre hp))

/-- A receipt before the submit records RECEIPT_IGNORED from CREATED to CREATED. -/
theorem early_receipt_recorded :
    ¬ (after [.create 0 .sample,
      .processReceipt 1 ⟨"pay-0", "op-1", .completed, "", 1⟩]).Documented := by
  intro h
  have hrow := (h "op-1" _ rfl).rows _ (List.mem_append_right _ (List.mem_singleton_self _))
  cases hrow

end PaymentService
