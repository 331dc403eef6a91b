import PaymentService.Lib.Session
import Mathlib.Logic.Basic

/-!
# Sessions in segments

Where others can come in between two statements of a session: after a commit, and after a read
that leaves the session without a lock and without pending changes.

* `Session.segment` — a session up to the next such point: what is left of it, and the database.
* `run_segment` — a session on its own does what its segments do.
* `Session.Leads` — what a session that has its lock goes on with after this segment.
* `Session.handle` — `except` around a session, for the exceptions the program raises itself;
  `run_handle`: what it makes of the result.
-/

namespace UnitOfWork

variable {K D E F α β : Type}

namespace Session

/-- The session up to the next point where others can come in; `locked`: it has a lock. -/
def segment (fail : F → E) : Bool → Session K D E F α → List (Statement D F) → D →
    Session K D E F α × D
  | _, .ret a, _, d => (.ret a, d)
  | _, .raise e, _, d => (.raise e, d)
  | _, .lock _ next, pending, d =>
    match flush pending d with
    | .error e => (.raise (fail e), d)
    | .ok view => (next view).segment fail true pending d
  | locked, .query next, pending, d =>
    match flush pending d with
    | .error e => (.raise (fail e), d)
    | .ok view =>
      if locked || !pending.isEmpty then (next view).segment fail locked pending d
      else (next view, d)
  | locked, .write s next, pending, d => next.segment fail locked (pending ++ [s]) d
  | _, .commit next, pending, d =>
    match flush pending d with
    | .error e => (next (.error e), d)
    | .ok d' => (next (.ok ()), d')

/-- `try ... except`, around what the program raises. -/
def handle (f : E → Session K D E F α) : Session K D E F α → Session K D E F α
  | .ret a => .ret a
  | .raise e => f e
  | .lock k next => .lock k fun d => (next d).handle f
  | .query next => .query fun d => (next d).handle f
  | .write s next => .write s (next.handle f)
  | .commit next => .commit fun r => (next r).handle f

/-- Nothing is left to do. -/
def Final (p : Session K D E F α) : Prop := (∃ a, p = .ret a) ∨ ∃ e, p = .raise e

theorem Final.ret (a : α) : (Session.ret a : Session K D E F α).Final := .inl ⟨a, rfl⟩

theorem Final.raise (e : E) : (Session.raise e : Session K D E F α).Final := .inr ⟨e, rfl⟩

end Session

open Session

variable {fail : F → E}

/-! ## Segments -/

theorem segment_query_ok {locked : Bool} {pending : List (Statement D F)} {d view : D}
    (h : flush pending d = .ok view) (hheld : (locked || !pending.isEmpty) = true)
    (next : D → Session K D E F α) :
    (Session.query next).segment fail locked pending d =
      (next view).segment fail locked pending d := by
  simp only [Session.segment, h, hheld, if_true]

theorem segment_query_error {locked : Bool} {pending : List (Statement D F)} {d : D} {e : F}
    (h : flush pending d = .error e) (next : D → Session K D E F α) :
    (Session.query next).segment fail locked pending d = (.raise (fail e), d) := by
  simp only [Session.segment, h]

/-- A read that leaves nothing behind ends the segment. -/
@[simp] theorem segment_query_nil (next : D → Session K D E F α) (d : D) :
    (Session.query next).segment fail false [] d = (next d, d) := rfl

@[simp] theorem segment_lock_nil (locked : Bool) (k : K) (next : D → Session K D E F α) (d : D) :
    (Session.lock k next).segment fail locked [] d = (next d).segment fail true [] d := rfl

@[simp] theorem segment_write (locked : Bool) (s : Statement D F) (next : Session K D E F α)
    (pending : List (Statement D F)) (d : D) :
    (Session.write s next).segment fail locked pending d =
      next.segment fail locked (pending ++ [s]) d := rfl

theorem segment_commit_ok (fail : F → E) (locked : Bool) {pending : List (Statement D F)}
    {d d' : D} (h : flush pending d = .ok d') (next : Except F Unit → Session K D E F α) :
    (Session.commit next).segment fail locked pending d = (next (.ok ()), d') := by
  simp only [Session.segment, h]

/-- **A session on its own does what its segments do.** -/
theorem run_segment (locked : Bool) (p : Session K D E F α) (pending : List (Statement D F))
    (d : D) : p.run fail pending d =
      (p.segment fail locked pending d).1.run fail [] (p.segment fail locked pending d).2 := by
  induction p generalizing locked pending d with
  | ret a => rfl
  | raise e => rfl
  | lock k next ih =>
    simp only [Session.segment, Session.run]
    cases flush pending d with
    | error e => rfl
    | ok view => exact ih _ _ _ _
  | query next ih =>
    unfold Session.segment
    cases hflush : flush pending d with
    | error e => exact run_query_error hflush next
    | ok view =>
      rw [run_query_ok hflush]
      dsimp only
      split
      · exact ih _ _ _ _
      · rename_i hfree
        obtain ⟨-, hempty⟩ := Bool.or_eq_false_iff.mp (Bool.not_eq_true _ ▸ hfree)
        obtain rfl : pending = [] := by simpa using hempty
        rfl
  | write s next ih => exact ih locked _ d
  | commit next ih =>
    simp only [Session.segment, Session.run]
    cases flush pending d <;> rfl

/-- A segment after which nothing is left gives the session's result. -/
theorem segment_final {locked : Bool} {p : Session K D E F α} {pending : List (Statement D F)}
    {d d' : D} {a : α} (h : (p.segment fail locked pending d).1.Final)
    (hrun : p.run fail pending d = (.ok a, d')) :
    p.segment fail locked pending d = (.ret a, d') := by
  rw [run_segment locked] at hrun
  generalize p.segment fail locked pending d = result at h hrun
  obtain ⟨rest, d₁⟩ := result
  rcases h with ⟨a', rfl⟩ | ⟨e, rfl⟩
  · cases hrun
    rfl
  · cases hrun

theorem segment_final_error {locked : Bool} {p : Session K D E F α}
    {pending : List (Statement D F)} {d d' : D} {e : E}
    (h : (p.segment fail locked pending d).1.Final) (hrun : p.run fail pending d = (.error e, d')) :
    p.segment fail locked pending d = (.raise e, d') := by
  rw [run_segment locked] at hrun
  generalize p.segment fail locked pending d = result at h hrun
  obtain ⟨rest, d₁⟩ := result
  rcases h with ⟨a', rfl⟩ | ⟨e', rfl⟩
  · cases hrun
  · cases hrun
    rfl

/-! ## What a segment leads to -/

/-- A session with a lock ends its segment in one of `rests`, whatever it reads. -/
inductive Session.Leads (rests : Session K D E F α → Prop) : Session K D E F α → Prop
  | ret {a : α} (h : rests (.ret a)) : Leads rests (.ret a)
  | raise {e : E} (h : rests (.raise e)) : Leads rests (.raise e)
  | lock {k : K} {next : D → Session K D E F α} (h : ∀ d, Leads rests (next d)) :
      Leads rests (.lock k next)
  | query {next : D → Session K D E F α} (h : ∀ d, Leads rests (next d)) :
      Leads rests (.query next)
  | write {s : Statement D F} {next : Session K D E F α} (h : Leads rests next) :
      Leads rests (.write s next)
  | commit {next : Except F Unit → Session K D E F α} (h : ∀ r, rests (next r)) :
      Leads rests (.commit next)

theorem Session.Leads.segment {rests : Session K D E F α → Prop} {p : Session K D E F α}
    (h : p.Leads rests) (hfail : ∀ e, rests (.raise (fail e))) (pending : List (Statement D F))
    (d : D) : rests (p.segment fail true pending d).1 := by
  induction h generalizing pending with
  | ret h => exact h
  | raise h => exact h
  | lock _ ih =>
    unfold Session.segment
    split
    · exact hfail _
    · exact ih _ _
  | query _ ih =>
    unfold Session.segment
    split
    · exact hfail _
    · exact ih _ _
  | write _ ih => exact ih _
  | commit h =>
    unfold Session.segment
    split <;> exact h _

/-! ## Handlers -/

section

variable (f : E → Session K D E F α)

@[simp] theorem handle_ret (a : α) :
    (Session.ret a : Session K D E F α).handle f = .ret a := rfl

@[simp] theorem handle_raise (e : E) : (Session.raise e).handle f = f e := rfl

@[simp] theorem handle_lock (k : K) (next : D → Session K D E F α) :
    (Session.lock k next).handle f = .lock k fun d => (next d).handle f := rfl

@[simp] theorem handle_query (next : D → Session K D E F α) :
    (Session.query next).handle f = .query fun d => (next d).handle f := rfl

@[simp] theorem handle_write (s : Statement D F) (next : Session K D E F α) :
    (Session.write s next).handle f = .write s (next.handle f) := rfl

@[simp] theorem handle_commit (next : Except F Unit → Session K D E F α) :
    (Session.commit next).handle f = .commit fun r => (next r).handle f := rfl

end

/-- A handler that lets failed statements through, and only answers or raises. -/
structure Handles (fail : F → E) (f : E → Session K D E F α) : Prop where
  passes : ∀ e, f (fail e) = .raise (fail e)
  final : ∀ e, (f e).Final

/-- **The result of a handled session.** -/
theorem run_handle {f : E → Session K D E F α} (hf : Handles fail f) (p : Session K D E F α)
    (pending : List (Statement D F)) (d : D) :
    (p.handle f).run fail pending d =
      match p.run fail pending d with
      | (.ok a, d') => (.ok a, d')
      | (.error e, d') => (f e).run fail [] d' := by
  have hfail (e : F) (d : D) : (f (fail e)).run fail [] d = (.error (fail e), d) := by
    rw [hf.passes]
    rfl
  induction p generalizing pending d with
  | ret a => rfl
  | raise e =>
    rcases hf.final e with ⟨a, ha⟩ | ⟨e', he⟩
    · simp [ha]
    · simp [he]
  | lock k next ih =>
    simp only [handle_lock, Session.run]
    cases flush pending d with
    | error e => exact (hfail e d).symm
    | ok view => exact ih _ _ _
  | query next ih =>
    simp only [handle_query, Session.run]
    cases flush pending d with
    | error e => exact (hfail e d).symm
    | ok view => exact ih _ _ _
  | write s next ih => exact ih _ _
  | commit next ih =>
    simp only [handle_commit, Session.run]
    cases flush pending d with
    | error e => exact ih _ _ _
    | ok d' => exact ih _ _ _

/-- A handled session leads to its rests, handled. -/
theorem Session.Leads.handle {rests rests' : Session K D E F α → Prop}
    {f : E → Session K D E F α} {p : Session K D E F α} (h : p.Leads rests)
    (hrests : ∀ q, rests q → rests' (q.handle f)) (hfinal : ∀ e, (f e).Final) :
    (p.handle f).Leads rests' := by
  induction h with
  | ret h => exact .ret (hrests _ h)
  | @raise e h =>
    have hrest := hrests _ h
    rw [handle_raise] at hrest ⊢
    rcases hfinal e with ⟨a, ha⟩ | ⟨e', he⟩
    · rw [ha] at hrest ⊢
      exact .ret hrest
    · rw [he] at hrest ⊢
      exact .raise hrest
  | lock _ ih => exact .lock ih
  | query _ ih => exact .query ih
  | write _ ih => exact .write ih
  | commit h => exact .commit fun r => hrests _ (h r)

theorem Session.Final.handle {f : E → Session K D E F α} {p : Session K D E F α} (h : p.Final)
    (hfinal : ∀ e, (f e).Final) : (p.handle f).Final := by
  rcases h with ⟨a, rfl⟩ | ⟨e, rfl⟩
  · exact .ret a
  · exact hfinal e

/-! ## Renaming results -/

theorem run_map (g : α → β) (p : Session K D E F α) (pending : List (Statement D F)) (d : D) :
    (p >>= fun a => pure (g a)).run fail pending d =
      ((p.run fail pending d).1.map g, (p.run fail pending d).2) := by
  induction p generalizing pending d with
  | ret a => rfl
  | raise e => rfl
  | lock k next ih =>
    rw [lock_bind]
    unfold Session.run
    split
    · rfl
    · exact ih _ _ _
  | query next ih =>
    rw [query_bind]
    unfold Session.run
    split
    · rfl
    · exact ih _ _ _
  | write s next ih => exact ih _ _
  | commit next ih =>
    rw [commit_bind]
    unfold Session.run
    split <;> exact ih _ _ _

end UnitOfWork
