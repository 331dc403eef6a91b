import Mathlib.Data.List.Basic

/-!
# Programs that raise, with the trace they leave

A `Traced ε τ α` is what a run of a program comes to: the steps it took, and the value or the
exception it ended with.

* The monad: a program that raises takes no further step; `try`/`catch` and `try`/`finally` keep
  the steps taken before the exception.
* `suppress_eq` — under a handler that does nothing, a program ends normally with the same trace.
* `forM_of_ok`, `forM_trace_iff` — a loop none of whose rounds raises; when the trace of a loop is
  all of it.
* `forM_completes_iff` — **a loop does all it is meant to do exactly when each round does**.
-/

/-- The steps a program took, and how it ended. -/
structure Traced (ε τ α : Type) where
  trace : List τ
  result : Except ε α

namespace Traced

variable {ε τ α β : Type}

protected def bind (p : Traced ε τ α) (f : α → Traced ε τ β) : Traced ε τ β :=
  match p.result with
  | .error e => ⟨p.trace, .error e⟩
  | .ok a => ⟨p.trace ++ (f a).trace, (f a).result⟩

instance : Monad (Traced ε τ) where
  pure a := ⟨[], .ok a⟩
  bind := Traced.bind

/-- One step. -/
def emit (t : τ) : Traced ε τ Unit := ⟨[t], .ok ()⟩

/-- A call that takes no step of its own. -/
def ofExcept (result : Except ε α) : Traced ε τ α := ⟨[], result⟩

instance : MonadExcept ε (Traced ε τ) where
  throw e := ⟨[], .error e⟩
  tryCatch p handler :=
    match p.result with
    | .error e => ⟨p.trace ++ (handler e).trace, (handler e).result⟩
    | .ok _ => p

instance : MonadFinally (Traced ε τ) where
  tryFinally' p finalizer :=
    match p.result, (finalizer p.result.toOption).result with
    | .ok a, .ok b => ⟨p.trace ++ (finalizer (some a)).trace, .ok (a, b)⟩
    -- an exception of the finalizer takes the place of the program's
    | _, .error e => ⟨p.trace ++ (finalizer p.result.toOption).trace, .error e⟩
    | .error e, .ok _ => ⟨p.trace ++ (finalizer none).trace, .error e⟩

theorem bind_of_ok {p : Traced ε τ α} {a : α} (h : p.result = .ok a) (f : α → Traced ε τ β) :
    p >>= f = ⟨p.trace ++ (f a).trace, (f a).result⟩ := by
  show p.bind f = _
  simp only [Traced.bind, h]

theorem bind_of_error {p : Traced ε τ α} {e : ε} (h : p.result = .error e)
    (f : α → Traced ε τ β) : p >>= f = ⟨p.trace, .error e⟩ := by
  show p.bind f = _
  simp only [Traced.bind, h]

@[simp] theorem emit_bind (t : τ) (f : Unit → Traced ε τ β) :
    emit t >>= f = ⟨t :: (f ()).trace, (f ()).result⟩ := rfl

/-- The exception is logged at most. -/
theorem suppress_eq (p : Traced ε τ Unit) :
    (tryCatch p fun _ => pure ()) = ⟨p.trace, .ok ()⟩ := by
  obtain ⟨trace, result⟩ := p
  cases result with
  | ok => rfl
  | error e =>
    show (⟨trace ++ [], .ok ()⟩ : Traced ε τ Unit) = _
    rw [List.append_nil]

/-- A finalizer that only logs. -/
theorem finally_pure (p : Traced ε τ α) : tryFinally p (pure ()) = p := by
  obtain ⟨trace, result⟩ := p
  cases result with
  | ok a =>
    show (⟨(trace ++ []) ++ [], .ok a⟩ : Traced ε τ α) = _
    rw [List.append_nil, List.append_nil]
  | error e =>
    show (⟨trace ++ [], .error e⟩ : Traced ε τ α) = _
    rw [List.append_nil]

/-! ## Loops -/

section

variable {xs : List α} {body : α → Traced ε τ Unit}

theorem forM_of_ok (h : ∀ x ∈ xs, (body x).result = .ok ()) :
    xs.forM body = ⟨xs.flatMap fun x => (body x).trace, .ok ()⟩ := by
  induction xs with
  | nil => rfl
  | cons x xs ih =>
    obtain ⟨hx, hxs⟩ := List.forall_mem_cons.mp h
    show (body x >>= fun _ => xs.forM body) = _
    rw [bind_of_ok hx, ih hxs, List.flatMap_cons]

/-- When every round takes a step, the loop takes those of all its rounds exactly when no round
but the last raises. -/
theorem forM_trace_iff (hstep : ∀ x ∈ xs, (body x).trace ≠ []) :
    (xs.forM body).trace = xs.flatMap (fun x => (body x).trace) ↔
      ∀ x ∈ xs.dropLast, (body x).result = .ok () := by
  induction xs with
  | nil => exact iff_of_true rfl (fun _ hmem => absurd hmem List.not_mem_nil)
  | cons x xs ih =>
    obtain ⟨-, hsteps⟩ := List.forall_mem_cons.mp hstep
    show (body x >>= fun _ => xs.forM body).trace = _ ↔ _
    rw [List.flatMap_cons]
    cases hx : (body x).result with
    | ok u =>
      rw [bind_of_ok hx, List.append_cancel_left_eq, ih hsteps]
      cases xs with
      | nil => simp
      | cons y ys => simp [hx]
    | error e =>
      rw [bind_of_error hx]
      cases xs with
      | nil => simp
      | cons y ys =>
        have hy := hsteps y List.mem_cons_self
        simp [hx, hy]

variable {plan : α → List τ} (hplan : ∀ x ∈ xs, (body x).trace.length ≤ (plan x).length)

include hplan

theorem length_forM_le : (xs.forM body).trace.length ≤ (xs.flatMap plan).length := by
  induction xs with
  | nil => exact Nat.zero_le _
  | cons x xs ih =>
    obtain ⟨hx, hxs⟩ := List.forall_mem_cons.mp hplan
    have hrest := ih hxs
    show (body x >>= fun _ => xs.forM body).trace.length ≤ _
    rw [List.flatMap_cons, List.length_append]
    cases hresult : (body x).result with
    | ok u =>
      rw [bind_of_ok hresult, List.length_append]
      omega
    | error e =>
      rw [bind_of_error hresult]
      dsimp only
      omega

/-- **A loop does all it is meant to do exactly when each round does**, if no round does more. -/
theorem forM_completes_iff :
    xs.forM body = ⟨xs.flatMap plan, .ok ()⟩ ↔ ∀ x ∈ xs, body x = ⟨plan x, .ok ()⟩ := by
  constructor
  · intro h
    induction xs with
    | nil => exact fun _ hmem => absurd hmem List.not_mem_nil
    | cons x xs ih =>
      obtain ⟨hx, hxs⟩ := List.forall_mem_cons.mp hplan
      replace h : (body x >>= fun _ => xs.forM body) = ⟨(x :: xs).flatMap plan, .ok ()⟩ := h
      cases hresult : (body x).result with
      | error e =>
        rw [bind_of_error hresult] at h
        cases congrArg Traced.result h
      | ok u =>
        rw [bind_of_ok hresult, List.flatMap_cons, Traced.mk.injEq] at h
        obtain ⟨htrace, hend⟩ := h
        -- neither part is longer than planned, so both are as planned
        have hrest := length_forM_le hxs
        have hlength := congrArg List.length htrace
        rw [List.length_append, List.length_append] at hlength
        obtain ⟨hround, hrounds⟩ := List.append_inj htrace (by omega)
        have hfirst : body x = ⟨plan x, .ok ()⟩ := by
          rw [← hround, ← hresult]
        have hothers : xs.forM body = ⟨xs.flatMap plan, .ok ()⟩ := by
          rw [← hrounds, ← hend]
        exact List.forall_mem_cons.mpr ⟨hfirst, ih hxs hothers⟩
  · intro h
    have hok : ∀ x ∈ xs, (body x).result = .ok () := fun x hmem => by rw [h x hmem]
    have htrace : xs.flatMap (fun x => (body x).trace) = xs.flatMap plan :=
      List.flatMap_congr fun x hmem => by rw [h x hmem]
    rw [forM_of_ok hok, htrace]

end

end Traced
