import Mathlib.Logic.Function.Basic
import Mathlib.Order.Notation

/-!
# Unit-of-work sessions over a database with constraints

A `Session` is the program of one database session, statement by statement:

* `lock key` — a locking read of the row with that key, `query` — any other read; the rest of
  the program gets the database the statement sees;
* `write` — a pending change, sent to the database by the next flush;
* `commit` — flush and publish; the rest of the program learns whether the flush failed.

Reads flush the pending changes first (autoflush), so a change that breaks a constraint already
fails the read after it.  A program that ends, or raises, without a commit is rolled back.

* `run` — the session on its own.  `Reduction.lean` interleaves the statements of many.
* `run_uncommitted` — a session that commits nothing leaves the database as it was.
-/

namespace UnitOfWork

variable {K D E F α β : Type}

/-- A pending change: what its statement makes of the database, or how it fails. -/
abbrev Statement (D F : Type) := D → Except F D

inductive Session (K D E F α : Type) where
  | ret (value : α)
  | raise (error : E)
  | lock (key : K) (next : D → Session K D E F α)
  | query (next : D → Session K D E F α)
  | write (statement : Statement D F) (next : Session K D E F α)
  | commit (next : Except F Unit → Session K D E F α)

namespace Session

protected def bind : Session K D E F α → (α → Session K D E F β) → Session K D E F β
  | .ret a, f => f a
  | .raise e, _ => .raise e
  | .lock k next, f => .lock k (fun d => (next d).bind f)
  | .query next, f => .query (fun d => (next d).bind f)
  | .write s next, f => .write s (next.bind f)
  | .commit next, f => .commit (fun r => (next r).bind f)

instance : Monad (Session K D E F) where
  pure := Session.ret
  bind := Session.bind

@[simp] theorem pure_eq (a : α) : (pure a : Session K D E F α) = .ret a := rfl

@[simp] theorem ret_bind (a : α) (f : α → Session K D E F β) :
    (Session.ret a : Session K D E F α) >>= f = f a := rfl

@[simp] theorem raise_bind (e : E) (f : α → Session K D E F β) :
    (Session.raise e : Session K D E F α) >>= f = .raise e := rfl

@[simp] theorem lock_bind (k : K) (next : D → Session K D E F α) (f : α → Session K D E F β) :
    Session.lock k next >>= f = .lock k (fun d => next d >>= f) := rfl

@[simp] theorem query_bind (next : D → Session K D E F α) (f : α → Session K D E F β) :
    Session.query next >>= f = .query (fun d => next d >>= f) := rfl

@[simp] theorem write_bind (s : Statement D F) (next : Session K D E F α)
    (f : α → Session K D E F β) :
    Session.write s next >>= f = .write s (next >>= f) := rfl

@[simp] theorem commit_bind (next : Except F Unit → Session K D E F α)
    (f : α → Session K D E F β) :
    Session.commit next >>= f = .commit (fun r => next r >>= f) := rfl

protected theorem bind_ret (p : Session K D E F α) : p.bind Session.ret = p := by
  induction p with
  | ret a => rfl
  | raise e => rfl
  | lock k next ih => simp only [Session.bind, ih]
  | query next ih => simp only [Session.bind, ih]
  | write s next ih => simp only [Session.bind, ih]
  | commit next ih => simp only [Session.bind, ih]

protected theorem bind_assoc {γ : Type} (p : Session K D E F α) (f : α → Session K D E F β)
    (g : β → Session K D E F γ) : (p.bind f).bind g = p.bind (fun a => (f a).bind g) := by
  induction p with
  | ret a => rfl
  | raise e => rfl
  | lock k next ih => simp only [Session.bind, ih]
  | query next ih => simp only [Session.bind, ih]
  | write s next ih => simp only [Session.bind, ih]
  | commit next ih => simp only [Session.bind, ih]

instance : LawfulMonad (Session K D E F) :=
  LawfulMonad.mk' _ Session.bind_ret (fun _ _ => rfl) Session.bind_assoc

end Session

/-- Send the pending changes, oldest first. -/
def flush : List (Statement D F) → D → Except F D
  | [], d => .ok d
  | s :: pending, d =>
    match s d with
    | .error e => .error e
    | .ok d' => flush pending d'

@[simp] theorem flush_nil (d : D) : flush ([] : List (Statement D F)) d = .ok d := rfl

theorem flush_cons_ok {s : Statement D F} {d d' : D} (h : s d = .ok d')
    (pending : List (Statement D F)) : flush (s :: pending) d = flush pending d' := by
  simp only [flush, h]

theorem flush_cons_error {s : Statement D F} {d : D} {e : F} (h : s d = .error e)
    (pending : List (Statement D F)) : flush (s :: pending) d = .error e := by
  simp only [flush, h]

theorem flush_singleton (s : Statement D F) (d : D) : flush [s] d = s d := by
  unfold flush
  cases s d <;> rfl

theorem flush_append_ok {ws : List (Statement D F)} {d view : D} (h : flush ws d = .ok view)
    (ws' : List (Statement D F)) : flush (ws ++ ws') d = flush ws' view := by
  induction ws generalizing d with
  | nil => cases h; rfl
  | cons s ws ih =>
    rw [List.cons_append]
    unfold flush at h
    split at h
    · cases h
    · rename_i hs
      rw [flush_cons_ok hs, ih h]

theorem flush_append_error {ws : List (Statement D F)} {d : D} {e : F}
    (h : flush ws d = .error e) (ws' : List (Statement D F)) :
    flush (ws ++ ws') d = .error e := by
  induction ws generalizing d with
  | nil => cases h
  | cons s ws ih =>
    rw [List.cons_append]
    unfold flush at h ⊢
    split at h
    · exact h
    · exact ih h

/-- One session on its own: the result, and the database it leaves.  `fail` is the exception a
failed statement reaches the program as. -/
def Session.run (fail : F → E) :
    Session K D E F α → List (Statement D F) → D → Except E α × D
  | .ret a, _, d => (.ok a, d)
  | .raise e, _, d => (.error e, d)
  | .lock _ next, pending, d =>
    match flush pending d with
    | .error e => (.error (fail e), d)
    | .ok view => (next view).run fail pending d
  | .query next, pending, d =>
    match flush pending d with
    | .error e => (.error (fail e), d)
    | .ok view => (next view).run fail pending d
  | .write s next, pending, d => next.run fail (pending ++ [s]) d
  | .commit next, pending, d =>
    match flush pending d with
    | .error e => (next (.error e)).run fail [] d
    | .ok d' => (next (.ok ())).run fail [] d'

variable {fail : F → E}

@[simp] theorem run_ret (a : α) (pending : List (Statement D F)) (d : D) :
    (Session.ret a : Session K D E F α).run fail pending d = (.ok a, d) := rfl

@[simp] theorem run_raise (e : E) (pending : List (Statement D F)) (d : D) :
    (Session.raise e : Session K D E F α).run fail pending d = (.error e, d) := rfl

@[simp] theorem run_write (s : Statement D F) (next : Session K D E F α)
    (pending : List (Statement D F)) (d : D) :
    (Session.write s next).run fail pending d = next.run fail (pending ++ [s]) d := rfl

theorem run_query_ok {pending : List (Statement D F)} {d view : D}
    (h : flush pending d = .ok view) (next : D → Session K D E F α) :
    (Session.query next).run fail pending d = (next view).run fail pending d := by
  simp only [Session.run, h]

theorem run_query_error {pending : List (Statement D F)} {d : D} {e : F}
    (h : flush pending d = .error e) (next : D → Session K D E F α) :
    (Session.query next).run fail pending d = (.error (fail e), d) := by
  simp only [Session.run, h]

theorem run_commit_ok {pending : List (Statement D F)} {d d' : D} (h : flush pending d = .ok d')
    (next : Except F Unit → Session K D E F α) :
    (Session.commit next).run fail pending d = (next (.ok ())).run fail [] d' := by
  simp only [Session.run, h]

theorem run_commit_error {pending : List (Statement D F)} {d : D} {e : F}
    (h : flush pending d = .error e) (next : Except F Unit → Session K D E F α) :
    (Session.commit next).run fail pending d = (next (.error e)).run fail [] d := by
  simp only [Session.run, h]

/-- The first locking read and the first query have nothing to flush. -/
@[simp] theorem run_lock_nil (k : K) (next : D → Session K D E F α) (d : D) :
    (Session.lock k next).run fail [] d = (next d).run fail [] d := rfl

@[simp] theorem run_query_nil (next : D → Session K D E F α) (d : D) :
    (Session.query next).run fail [] d = (next d).run fail [] d := rfl

@[simp] theorem run_commit_nil (next : Except F Unit → Session K D E F α) (d : D) :
    (Session.commit next).run fail [] d = (next (.ok ())).run fail [] d := rfl

/-! ## Rollback -/

/-- The program commits nothing. -/
inductive Session.Uncommitted : Session K D E F α → Prop
  | ret (a : α) : Uncommitted (.ret a)
  | raise (e : E) : Uncommitted (.raise e)
  | lock (k : K) {next : D → Session K D E F α} (h : ∀ d, Uncommitted (next d)) :
      Uncommitted (.lock k next)
  | query {next : D → Session K D E F α} (h : ∀ d, Uncommitted (next d)) :
      Uncommitted (.query next)
  | write (s : Statement D F) {next : Session K D E F α} (h : Uncommitted next) :
      Uncommitted (.write s next)

/-- What is not committed is rolled back. -/
theorem run_uncommitted {p : Session K D E F α} (h : p.Uncommitted)
    (pending : List (Statement D F)) (d : D) : (p.run fail pending d).2 = d := by
  induction h generalizing pending with
  | ret a => rfl
  | raise e => rfl
  | lock k _ ih =>
    unfold Session.run
    split
    · rfl
    · exact ih _ _
  | query _ ih =>
    unfold Session.run
    split
    · rfl
    · exact ih _ _
  | write s _ ih => exact ih _

end UnitOfWork
