import PaymentService.Lib.Session

/-!
# Sessions that depend on a part of the database

`R d d'` says that two databases agree on the part a session works on.

* `Statement.Respects`, `Session.Respects` — the statements and reads of a session cannot tell
  related databases apart, and keep them related.  The rules follow the syntax, with one for `>>=`.
* `Session.Respects.run` — **such a session gives the same result on related databases, and
  leaves them related**.
-/

namespace UnitOfWork

variable {K D E F A B : Type} {R : D → D → Prop}

/-- Two results of a statement: related databases, or the same failure. -/
inductive Related (R : D → D → Prop) : Except F D → Except F D → Prop
  | ok {d d' : D} (h : R d d') : Related R (.ok d) (.ok d')
  | error (e : F) : Related R (.error e) (.error e)

def Statement.Respects (R : D → D → Prop) (s : Statement D F) : Prop :=
  ∀ d d', R d d' → Related R (s d) (s d')

inductive Session.Respects (R : D → D → Prop) : Session K D E F A → Prop
  | ret (a : A) : Respects R (.ret a)
  | raise (e : E) : Respects R (.raise e)
  | lock {k : K} {next : D → Session K D E F A} (hread : ∀ d d', R d d' → next d' = next d)
      (h : ∀ d, Respects R (next d)) : Respects R (.lock k next)
  | query {next : D → Session K D E F A} (hread : ∀ d d', R d d' → next d' = next d)
      (h : ∀ d, Respects R (next d)) : Respects R (.query next)
  | write {s : Statement D F} {next : Session K D E F A} (hs : Statement.Respects R s)
      (h : Respects R next) : Respects R (.write s next)
  | commit {next : Except F Unit → Session K D E F A} (h : ∀ r, Respects R (next r)) :
      Respects R (.commit next)

theorem Session.Respects.bind {p : Session K D E F A} (hp : p.Respects R)
    {f : A → Session K D E F B} (hf : ∀ a, (f a).Respects R) : (p >>= f).Respects R := by
  induction hp with
  | ret a => exact hf a
  | raise e => exact .raise e
  | lock hread h ih =>
    refine .lock ?_ ih
    intro d d' hR
    rw [hread d d' hR]
  | query hread h ih =>
    refine .query ?_ ih
    intro d d' hR
    rw [hread d d' hR]
  | write hs h ih => exact .write hs ih
  | commit h ih => exact .commit ih

theorem flush_related {pending : List (Statement D F)}
    (hpending : ∀ s ∈ pending, Statement.Respects R s) {d d' : D} (h : R d d') :
    Related R (flush pending d) (flush pending d') := by
  induction pending generalizing d d' with
  | nil => exact .ok h
  | cons s pending ih =>
    have htail : ∀ s ∈ pending, Statement.Respects R s :=
      fun s hmem => hpending s (List.mem_cons_of_mem _ hmem)
    have hs := hpending s List.mem_cons_self d d' h
    unfold flush
    generalize s d = r at hs ⊢
    generalize s d' = r' at hs ⊢
    cases hs with
    | ok h => exact ih htail h
    | error e => exact .error e

/-- **Locality**: the result is the same on related databases, and they stay related. -/
theorem Session.Respects.run {fail : F → E} {p : Session K D E F A} (hp : p.Respects R)
    {pending : List (Statement D F)} (hpending : ∀ s ∈ pending, Statement.Respects R s) {d d' : D}
    (h : R d d') :
    (p.run fail pending d').1 = (p.run fail pending d).1 ∧
      R (p.run fail pending d).2 (p.run fail pending d').2 := by
  have hnil : ∀ s ∈ ([] : List (Statement D F)), Statement.Respects R s :=
    fun s hmem => absurd hmem List.not_mem_nil
  induction hp generalizing pending d d' with
  | ret a => exact ⟨rfl, h⟩
  | raise e => exact ⟨rfl, h⟩
  | lock hread _ ih | query hread _ ih =>
    have hflush := flush_related hpending h
    simp only [Session.run]
    generalize flush pending d = r at hflush ⊢
    generalize flush pending d' = r' at hflush ⊢
    cases hflush with
    | ok hview =>
      dsimp only
      rw [hread _ _ hview]
      exact ih _ hpending h
    | error e => exact ⟨rfl, h⟩
  | write hs _ ih =>
    refine ih ?_ h
    intro s hmem
    rcases List.mem_append.mp hmem with hold | hnew
    · exact hpending s hold
    · rw [List.mem_singleton.mp hnew]
      exact hs
  | commit _ ih =>
    have hflush := flush_related hpending h
    simp only [Session.run]
    generalize flush pending d = r at hflush ⊢
    generalize flush pending d' = r' at hflush ⊢
    cases hflush with
    | ok hnext => exact ih _ hnil hnext
    | error e => exact ih _ hnil h

end UnitOfWork
