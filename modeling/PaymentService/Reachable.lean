import PaymentService.Effects
import PaymentService.Lib.Runs

/-!
# Runs of the service

A run is the list of the transactions in commit order: any callers, any workers, any receipts
and answers.  A transaction that fails or whose process crashes before its commit leaves the
tables as they were (`exec_error`, `run_uncommitted`), so crashes need no step of their own.

* `after`, `steps` — the tables after a run, and its calls with the tables each one found.
* `lookup_next` — what one call makes of the rows of any operation.
* `rows_invariant`, `rows_preserved` — the invariant rules the later modules use: a property of
  one operation's rows holds in every reachable state when every `Change` establishes it.
-/

namespace PaymentService

/-- The tables after a run that starts with empty ones. -/
def after (calls : List Call) : Db := Runs.run Db.next ∅ calls

/-- The calls of a run, each with the tables it found. -/
def steps (calls : List Call) : List (Db × Call) := Runs.history Db.next ∅ calls

theorem after_append (calls later : List Call) :
    after (calls ++ later) = Runs.run Db.next (after calls) later :=
  Runs.run_append ∅ calls later

theorem after_concat (calls : List Call) (c : Call) :
    after (calls ++ [c]) = (after calls).next c :=
  Runs.run_concat ∅ calls c

theorem steps_concat (calls : List Call) (c : Call) :
    steps (calls ++ [c]) = steps calls ++ [(after calls, c)] :=
  Runs.history_append ∅ calls [c]

theorem mem_steps {calls : List Call} {db : Db} {c : Call} :
    (db, c) ∈ steps calls ↔ ∃ pre post, calls = pre ++ c :: post ∧ db = after pre :=
  Runs.mem_history

theorem mem_steps_of_earlier {pre calls : List Call} (h : pre <+: calls) {p : Db × Call}
    (hp : p ∈ steps pre) : p ∈ steps calls := by
  obtain ⟨post, rfl⟩ := h
  unfold steps
  rw [Runs.history_append]
  exact List.mem_append_left _ hp

/-- The status stored for an operation. -/
def Db.status (db : Db) (id : String) : Option OperationStatus :=
  (db.lookup id).map (·.operation.status)

/-- **One call changes the rows of at most one operation, and those by one `Change`.** -/
theorem lookup_next (db : Db) (c : Call) (id : String) :
    (db.next c).lookup id = db.lookup id ∨
    ∃ out rows, c.operationId = id ∧ (c.exec db).1 = .ok out ∧
      Change db c (db.lookup id) out rows ∧ (db.next c).lookup id = some rows := by
  rcases next_cases db c with hsame | ⟨out, rows, hout, hc, hnext⟩
  · exact .inl (by rw [hsame])
  · rw [hnext]
    by_cases hid : c.operationId = id
    · subst hid
      exact .inr ⟨out, rows, rfl, hout, hc, Finmap.lookup_insert db⟩
    · exact .inl (Finmap.lookup_insert_of_ne db (Ne.symm hid))

theorem lookup_next_of_ne (db : Db) {c : Call} {id : String} (h : c.operationId ≠ id) :
    (db.next c).lookup id = db.lookup id := by
  rcases lookup_next db c id with h' | ⟨_, _, hid, _⟩
  · exact h'
  · exact absurd hid h

/-- **Invariant rule for the rows of one operation.** -/
theorem rows_invariant {P : Rows → Prop}
    (hchange : ∀ {db : Db} {c : Call} {o : Option Rows} {out : Outcome} {rows : Rows},
      Change db c o out rows → (∀ old ∈ o, P old) → P rows)
    (calls : List Call) : ∀ id rows, (after calls).lookup id = some rows → P rows := by
  refine @Runs.run_invariant _ _ Db.next
    (fun db => ∀ id rows, db.lookup id = some rows → P rows) ?_ calls ∅ ?_
  · intro db c h id rows hrows
    rcases lookup_next db c id with hsame | ⟨out, rows', hid, hout, hc, hnew⟩
    · exact h id rows (hsame ▸ hrows)
    · cases hnew.symm.trans hrows
      exact hchange hc (fun old hold => h id old hold)
  · intro id rows hrows
    rw [Finmap.lookup_empty] at hrows
    cases hrows

/-- **Preservation rule**: what every change of existing rows preserves holds of the rows of an
operation for the rest of the run. -/
theorem rows_preserved {P : Rows → Prop}
    (hchange : ∀ {db : Db} {c : Call} {old rows : Rows} {out : Outcome},
      Change db c (some old) out rows → P old → P rows)
    {db : Db} {id : String} {rows : Rows} (hrows : db.lookup id = some rows) (hP : P rows)
    (calls : List Call) :
    ∃ rows', (Runs.run Db.next db calls).lookup id = some rows' ∧ P rows' := by
  refine @Runs.run_invariant _ _ Db.next
    (fun db => ∃ rows', db.lookup id = some rows' ∧ P rows') ?_ calls db ⟨rows, hrows, hP⟩
  rintro db c ⟨old, hold, hP⟩
  rcases lookup_next db c id with hsame | ⟨out, rows', hid, hout, hc, hnew⟩
  · exact ⟨old, hsame.trans hold, hP⟩
  · rw [hold] at hc
    exact ⟨rows', hnew, hchange hc hP⟩

end PaymentService
