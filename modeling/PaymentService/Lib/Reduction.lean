import PaymentService.Lib.Runs
import PaymentService.Lib.Session
import Mathlib.Data.List.Nodup
import Mathlib.Tactic.Cases

/-!
# Interleaved sessions under row locks

Any number of sessions run against one database, one statement at a time, in an order chosen by
a schedule.  A locking read waits while another session owns the row and then sees the latest
committed version; every other read sees the latest commits, under the session's own pending
changes.  A commit publishes the pending changes and frees the session's rows.

* `System`, `System.step` — the interleaved system.  A session enters `log` when its result is
  decided: at its commit, at the statement that fails, or when it ends without a commit.
* `Guarded`, `Stable` — a session that locks its row before anything else, and whose later reads
  could as well be made at any later moment, whatever others commit on other rows meanwhile.
* `serializable` — **for guarded sessions every interleaving is equivalent to running them one
  after another in log order**: the same database, the same results.
-/

namespace UnitOfWork

variable {I K D E F A : Type}

/-! ## The interleaved system -/

inductive Thread (K D E F A : Type) where
  /-- Nothing is decided yet. -/
  | active (rest : Session K D E F A) (pending : List (Statement D F))
  /-- After the commit, or its failure; only reads are left. -/
  | decided (rest : Session K D E F A)
  | finished (outcome : Except E A)
  | crashed

structure System (I K D E F A : Type) where
  db : D
  owner : K → Option I
  threads : I → Thread K D E F A
  log : List I

/-- Run one statement of a session, or kill it: its pending changes and its locks are gone. -/
inductive Act (I : Type) where
  | step (i : I)
  | crash (i : I)

namespace System

def start (txn : I → Session K D E F A) (d : D) : System I K D E F A where
  db := d
  owner := fun _ => none
  threads := fun i => .active (txn i) []
  log := []

section Step

variable [DecidableEq I] [DecidableEq K] (fail : F → E) (present : K → D → Bool)

/-- The owners once the locks of `i` are free. -/
def release (σ : System I K D E F A) (i : I) : K → Option I :=
  fun k => if σ.owner k = some i then none else σ.owner k

/-- Session `i` goes on to `t`, its result still open or already known. -/
def setThread (σ : System I K D E F A) (i : I) (t : Thread K D E F A) (owner : K → Option I) :
    System I K D E F A :=
  { σ with owner := owner, threads := Function.update σ.threads i t }

/-- The result of `i` is decided and its locks are free. -/
def close (σ : System I K D E F A) (i : I) (t : Thread K D E F A) (d : D) :
    System I K D E F A where
  db := d
  owner := σ.release i
  threads := Function.update σ.threads i t
  log := σ.log ++ [i]

/-- One statement of a session whose result is still open. -/
def stepActive (σ : System I K D E F A) (i : I) (pending : List (Statement D F)) :
    Session K D E F A → System I K D E F A
  | .ret a => σ.close i (.finished (.ok a)) σ.db
  | .raise e => σ.close i (.finished (.error e)) σ.db
  | .lock k next =>
    if σ.owner k = none ∨ σ.owner k = some i then
      match flush pending σ.db with
      | .error e => σ.close i (.finished (.error (fail e))) σ.db
      | .ok view =>
        -- a missing row cannot be locked
        if present k σ.db then
          σ.setThread i (.active (next view) pending) (Function.update σ.owner k (some i))
        else σ.setThread i (.active (next view) pending) σ.owner
    else σ
  | .query next =>
    match flush pending σ.db with
    | .error e => σ.close i (.finished (.error (fail e))) σ.db
    | .ok view => σ.setThread i (.active (next view) pending) σ.owner
  | .write s next => σ.setThread i (.active next (pending ++ [s])) σ.owner
  | .commit next =>
    match flush pending σ.db with
    | .error e => σ.close i (.decided (next (.error e))) σ.db
    | .ok d => σ.close i (.decided (next (.ok ()))) d

/-- One statement of a session after its commit. -/
def stepDecided (σ : System I K D E F A) (i : I) : Session K D E F A → System I K D E F A
  | .ret a => σ.setThread i (.finished (.ok a)) σ.owner
  | .raise e => σ.setThread i (.finished (.error e)) σ.owner
  | .query next => σ.setThread i (.decided (next σ.db)) σ.owner
  | .lock _ _ | .write _ _ | .commit _ => σ

def step (σ : System I K D E F A) : Act I → System I K D E F A
  | .step i =>
    match σ.threads i with
    | .active rest pending => σ.stepActive fail present i pending rest
    | .decided rest => σ.stepDecided i rest
    | .finished _ | .crashed => σ
  | .crash i =>
    match σ.threads i with
    | .active _ _ | .decided _ => σ.setThread i .crashed (σ.release i)
    | .finished _ | .crashed => σ

end Step

end System

/-! ## Guarded sessions -/

/-- Whatever it still reads, the session ends with this outcome and changes nothing. -/
inductive Session.Settled (present : D → Bool) (outcome : Except E A) : Session K D E F A → Prop
  | ret {a : A} (h : outcome = .ok a) : Settled present outcome (.ret a)
  | raise {e : E} (h : outcome = .error e) : Settled present outcome (.raise e)
  | query {next : D → Session K D E F A}
      (h : ∀ d, present d = true → Settled present outcome (next d)) :
      Settled present outcome (.query next)

/-- The reads of the session could as well be made later: `interf d d'` says that others may
turn `d` into `d'` while the session holds its row. -/
inductive Session.Stable (fail : F → E) (interf : D → D → Prop) (present : D → Bool) :
    Session K D E F A → List (Statement D F) → Prop
  | ret (a : A) (pending : List (Statement D F)) : Stable fail interf present (.ret a) pending
  | raise (e : E) (pending : List (Statement D F)) : Stable fail interf present (.raise e) pending
  | query {next : D → Session K D E F A} {pending : List (Statement D F)}
      (hread : ∀ d d' view, interf d d' → flush pending d = .ok view →
        (Session.query next).run fail pending d' = (next view).run fail pending d')
      (hnext : ∀ d view, flush pending d = .ok view →
        Stable fail interf present (next view) pending) :
      Stable fail interf present (.query next) pending
  | write {s : Statement D F} {next : Session K D E F A} {pending : List (Statement D F)}
      (h : Stable fail interf present next (pending ++ [s])) :
      Stable fail interf present (.write s next) pending
  | commit {next : Except F Unit → Session K D E F A} {pending : List (Statement D F)}
      (huncommitted : ∀ r, (next r).Uncommitted)
      (hsettled : ∀ r, ∃ outcome, Settled present outcome (next r)) :
      Stable fail interf present (.commit next) pending

/-- The session locks the row `k` first, raises when it is missing, and is stable from there. -/
structure Session.Guarded (fail : F → E) (interf : D → D → Prop) (present : D → Bool) (k : K)
    (p : Session K D E F A) : Prop where
  locks : ∃ next, p = .lock k next ∧
    (∃ e, ∀ d, present d = false → next d = .raise e) ∧
    (∀ d, present d = true → Stable fail interf present (next d) []) ∧
    ∀ d d', present d = true → interf d d' →
      (next d').run fail [] d' = (next d).run fail [] d'

theorem Session.Settled.run {fail : F → E} {present : D → Bool} {outcome : Except E A}
    {p : Session K D E F A} (h : p.Settled present outcome) {d : D} (hd : present d = true) :
    p.run fail [] d = (outcome, d) := by
  induction h with
  | ret h => rw [h]; rfl
  | raise h => rw [h]; rfl
  | query h ih => exact ih d hd

/-! ## One after another -/

/-- The results of running these transactions one after another. -/
def serial (fail : F → E) (txn : I → Session K D E F A) : D → List I → List (I × Except E A)
  | _, [] => []
  | d, i :: is =>
    (i, ((txn i).run fail [] d).1) :: serial fail txn ((txn i).run fail [] d).2 is

/-- The database they leave. -/
def serialDb (fail : F → E) (txn : I → Session K D E F A) (d : D) (is : List I) : D :=
  Runs.run (fun d i => ((txn i).run fail [] d).2) d is

theorem serial_concat (fail : F → E) (txn : I → Session K D E F A) (d : D) (is : List I) (i : I) :
    serial fail txn d (is ++ [i]) =
      serial fail txn d is ++ [(i, ((txn i).run fail [] (serialDb fail txn d is)).1)] := by
  induction is generalizing d with
  | nil => rfl
  | cons j is ih => exact congrArg (_ :: ·) (ih _)

theorem serialDb_concat (fail : F → E) (txn : I → Session K D E F A) (d : D) (is : List I)
    (i : I) : serialDb fail txn d (is ++ [i]) =
      ((txn i).run fail [] (serialDb fail txn d is)).2 :=
  Runs.run_concat d is i

/-- A result is that of the session run on what its predecessors left. -/
theorem mem_serial {fail : F → E} {txn : I → Session K D E F A} {d : D} {is : List I} {i : I}
    {outcome : Except E A} (h : (i, outcome) ∈ serial fail txn d is) :
    ∃ pre post, is = pre ++ i :: post ∧
      ((txn i).run fail [] (serialDb fail txn d pre)).1 = outcome := by
  induction is generalizing d with
  | nil => cases h
  | cons j is ih =>
    rcases List.mem_cons.mp h with h | h
    · cases h
      exact ⟨[], is, rfl, rfl⟩
    · obtain ⟨pre, post, rfl, hrun⟩ := ih h
      exact ⟨j :: pre, post, rfl, hrun⟩

/-- A session has one place in a log. -/
theorem place_unique {pre pre' post post' : List I} {i : I} (hnodup : (pre ++ i :: post).Nodup)
    (h : pre ++ i :: post = pre' ++ i :: post') : pre = pre' := by
  induction pre generalizing pre' with
  | nil =>
    cases pre' with
    | nil => rfl
    | cons j pre' =>
      obtain ⟨rfl, htail⟩ := List.cons.inj h
      refine absurd ?_ (List.nodup_cons.mp hnodup).1
      rw [htail]
      exact List.mem_append_right _ List.mem_cons_self
  | cons j pre ih =>
    have hj := (List.nodup_cons.mp hnodup).1
    cases pre' with
    | nil =>
      obtain ⟨rfl, -⟩ := List.cons.inj h
      exact absurd (List.mem_append_right _ List.mem_cons_self) hj
    | cons j' pre' =>
      obtain ⟨rfl, htail⟩ := List.cons.inj h
      rw [ih (List.nodup_cons.mp hnodup).2 htail]

/-! ## The reduction -/

/-- What makes a family of sessions serializable; `interf k d d'`: sessions on other rows than
`k` may turn `d` into `d'`. -/
structure Reducible (fail : F → E) (present : K → D → Bool) (interf : K → D → D → Prop)
    (key : I → K) (txn : I → Session K D E F A) : Prop where
  refl : ∀ k d, interf k d d
  trans : ∀ k {d₁ d₂ d₃}, interf k d₁ d₂ → interf k d₂ d₃ → interf k d₁ d₃
  frame : ∀ i k d, key i ≠ k → interf k d ((txn i).run fail [] d).2
  present_run : ∀ i k d, present k ((txn i).run fail [] d).2 = present k d
  guarded : ∀ i, (txn i).Guarded fail (interf (key i)) (present (key i)) (key i)

section Reduction

variable {fail : F → E} {present : K → D → Bool} {interf : K → D → D → Prop} {key : I → K}
  {txn : I → Session K D E F A} {d₀ : D}

/-- What is known of a session at each point. -/
inductive ThreadInv (fail : F → E) (present : K → D → Bool) (interf : K → D → D → Prop)
    (key : I → K) (txn : I → Session K D E F A) (d₀ : D) (σ : System I K D E F A) (i : I) :
    Thread K D E F A → Prop
  | waiting : ThreadInv fail present interf key txn d₀ σ i (.active (txn i) [])
  | missed (e : E) (habsent : present (key i) σ.db = false)
      (hrun : ∀ d, present (key i) d = false → (txn i).run fail [] d = (.error e, d)) :
      ThreadInv fail present interf key txn d₀ σ i (.active (.raise e) [])
  /-- Run to its end at any later moment, the rest does what the whole session would do then. -/
  | holding {rest : Session K D E F A} {pending : List (Statement D F)}
      (howner : σ.owner (key i) = some i) (hpresent : present (key i) σ.db = true)
      (hstable : rest.Stable fail (interf (key i)) (present (key i)) pending)
      (hrun : ∀ d, interf (key i) σ.db d → rest.run fail pending d = (txn i).run fail [] d) :
      ThreadInv fail present interf key txn d₀ σ i (.active rest pending)
  | decided {rest : Session K D E F A} (outcome : Except E A)
      (hpresent : present (key i) σ.db = true)
      (hsettled : rest.Settled (present (key i)) outcome)
      (hmem : (i, outcome) ∈ serial fail txn d₀ σ.log) :
      ThreadInv fail present interf key txn d₀ σ i (.decided rest)
  | finished {outcome : Except E A} (hmem : (i, outcome) ∈ serial fail txn d₀ σ.log) :
      ThreadInv fail present interf key txn d₀ σ i (.finished outcome)
  | crashed : ThreadInv fail present interf key txn d₀ σ i .crashed

structure Inv (fail : F → E) (present : K → D → Bool) (interf : K → D → D → Prop) (key : I → K)
    (txn : I → Session K D E F A) (d₀ : D) (σ : System I K D E F A) : Prop where
  db : σ.db = serialDb fail txn d₀ σ.log
  nodup : σ.log.Nodup
  fresh : ∀ i rest pending, σ.threads i = .active rest pending → i ∉ σ.log
  thread : ∀ i, ThreadInv fail present interf key txn d₀ σ i (σ.threads i)

theorem inv_start (txn : I → Session K D E F A) (d₀ : D) :
    Inv fail present interf key txn d₀ (System.start txn d₀) where
  db := rfl
  nodup := List.nodup_nil
  fresh := fun _ _ _ _ => List.not_mem_nil
  thread := fun _ => .waiting

/-- What is known of a session survives what the others do. -/
theorem ThreadInv.frame (h : Reducible fail present interf key txn) {σ σ' : System I K D E F A}
    {j : I} {t : Thread K D E F A} (ht : ThreadInv fail present interf key txn d₀ σ j t)
    (howner : σ.owner (key j) = some j → σ'.owner (key j) = some j)
    (hdb : σ.owner (key j) = some j → interf (key j) σ.db σ'.db)
    (hpresent : present (key j) σ'.db = present (key j) σ.db)
    (hlog : ∀ x ∈ serial fail txn d₀ σ.log, x ∈ serial fail txn d₀ σ'.log) :
    ThreadInv fail present interf key txn d₀ σ' j t := by
  cases ht with
  | waiting => exact .waiting
  | missed e habsent hrun => exact .missed e (hpresent.trans habsent) hrun
  | holding hown hpres hstable hrun =>
    refine .holding (howner hown) (hpresent.trans hpres) hstable ?_
    intro d hd
    exact hrun d (h.trans _ (hdb hown) hd)
  | decided outcome hpres hsettled hmem =>
    exact .decided outcome (hpresent.trans hpres) hsettled (hlog _ hmem)
  | finished hmem => exact .finished (hlog _ hmem)
  | crashed => exact .crashed

variable [DecidableEq I]

/-- Freeing the locks of one session takes none from another. -/
theorem release_of_ne (σ : System I K D E F A) {i j : I} (hne : j ≠ i) {k : K}
    (h : σ.owner k = some j) : σ.release i k = some j := by
  unfold System.release
  rw [if_neg, h]
  rw [h, Option.some_inj]
  exact hne

/-- Replacing the state of one session by a known one keeps the invariant. -/
theorem Inv.setThread (h : Reducible fail present interf key txn) {σ : System I K D E F A}
    (hinv : Inv fail present interf key txn d₀ σ) {i : I} {t : Thread K D E F A}
    {owner : K → Option I}
    (howner : ∀ j, j ≠ i → σ.owner (key j) = some j → owner (key j) = some j)
    (hfresh : ∀ rest pending, t = .active rest pending → i ∉ σ.log)
    (ht : ThreadInv fail present interf key txn d₀ (σ.setThread i t owner) i t) :
    Inv fail present interf key txn d₀ (σ.setThread i t owner) where
  db := hinv.db
  nodup := hinv.nodup
  fresh := by
    intro j rest pending hj
    simp only [System.setThread, Function.update_apply] at hj
    split at hj
    · rename_i hji
      subst hji
      exact hfresh rest pending hj
    · exact hinv.fresh j rest pending hj
  thread := by
    intro j
    simp only [System.setThread, Function.update_apply]
    split
    · rename_i hji
      subst hji
      exact ht
    · rename_i hji
      exact (hinv.thread j).frame h (howner j hji) (fun _ => h.refl _ _) rfl (fun _ hx => hx)

/-- A session that ends the way it would on its own keeps the invariant. -/
theorem Inv.close (h : Reducible fail present interf key txn) {σ : System I K D E F A}
    (hinv : Inv fail present interf key txn d₀ σ) {i : I} {rest : Session K D E F A}
    {pending : List (Statement D F)} (hi : σ.threads i = .active rest pending)
    {t : Thread K D E F A} {d : D} {outcome : Except E A}
    (hrun : (txn i).run fail [] σ.db = (outcome, d))
    (hlock : d = σ.db ∨ σ.owner (key i) = some i)
    (ht : t = .finished outcome ∨ ∃ rest', t = .decided rest' ∧ present (key i) σ.db = true ∧
      rest'.Settled (present (key i)) outcome) :
    Inv fail present interf key txn d₀ (σ.close i t d) := by
  have hd : ((txn i).run fail [] σ.db).2 = d := congrArg Prod.snd hrun
  have hserial : serial fail txn d₀ (σ.log ++ [i]) = serial fail txn d₀ σ.log ++ [(i, outcome)] := by
    rw [serial_concat, ← hinv.db, hrun]
  have hpresent (k : K) : present k d = present k σ.db := by
    rw [← hd]
    exact h.present_run i k σ.db
  have hmem : (i, outcome) ∈ serial fail txn d₀ (σ.log ++ [i]) := by
    rw [hserial]
    exact List.mem_append_right _ (List.mem_singleton_self _)
  have hnew : i ∉ σ.log := hinv.fresh i rest pending hi
  refine ⟨?_, ?_, ?_, ?_⟩
  · show d = serialDb fail txn d₀ (σ.log ++ [i])
    rw [serialDb_concat, ← hinv.db, hd]
  · show (σ.log ++ [i]).Nodup
    rw [List.nodup_append]
    refine ⟨hinv.nodup, List.nodup_singleton i, ?_⟩
    intro a ha b hb
    rw [List.mem_singleton.mp hb]
    rintro rfl
    exact hnew ha
  · intro j rest' pending' hj
    simp only [System.close, Function.update_apply] at hj ⊢
    split at hj
    · rcases ht with rfl | ⟨_, rfl, -⟩ <;> cases hj
    · rename_i hji
      have hold := hinv.fresh j rest' pending' hj
      simp only [List.mem_append, List.mem_singleton, not_or]
      exact ⟨hold, hji⟩
  · intro j
    simp only [System.close, Function.update_apply]
    split
    · rename_i hji
      subst hji
      rcases ht with rfl | ⟨rest', rfl, hpres, hsettled⟩
      · exact .finished hmem
      · exact .decided outcome ((hpresent _).trans hpres) hsettled hmem
    · rename_i hji
      refine (hinv.thread j).frame h (release_of_ne σ hji) ?_ (hpresent _) ?_
      · intro hown
        rcases hlock with hsame | hlock
        · show interf (key j) σ.db d
          rw [hsame]
          exact h.refl _ _
        · -- both sessions hold their rows, so the rows differ
          have hne : key i ≠ key j := by
            intro heq
            rw [heq, hown, Option.some_inj] at hlock
            exact hji hlock
          have hframe := h.frame i (key j) σ.db hne
          rw [hd] at hframe
          exact hframe
      · intro x hx
        show x ∈ serial fail txn d₀ (σ.log ++ [i])
        rw [hserial]
        exact List.mem_append_left _ hx

/-- A read after the commit. -/
theorem Inv.step_decided (h : Reducible fail present interf key txn) {σ : System I K D E F A}
    (hinv : Inv fail present interf key txn d₀ σ) {i : I} {rest : Session K D E F A}
    {outcome : Except E A} (hpresent : present (key i) σ.db = true)
    (hsettled : rest.Settled (present (key i)) outcome)
    (hmem : (i, outcome) ∈ serial fail txn d₀ σ.log) :
    Inv fail present interf key txn d₀ (σ.stepDecided i rest) := by
  cases hsettled with
  | ret hout =>
    rw [hout] at hmem
    exact hinv.setThread h (fun _ _ hown => hown) (fun _ _ h => by cases h) (.finished hmem)
  | raise hout =>
    rw [hout] at hmem
    exact hinv.setThread h (fun _ _ hown => hown) (fun _ _ h => by cases h) (.finished hmem)
  | query hnext =>
    exact hinv.setThread h (fun _ _ hown => hown) (fun _ _ h => by cases h)
      (.decided outcome hpresent (hnext _ hpresent) hmem)

variable [DecidableEq K]

/-- The first statement of a session. -/
theorem Inv.step_waiting (h : Reducible fail present interf key txn) {σ : System I K D E F A}
    (hinv : Inv fail present interf key txn d₀ σ) {i : I} (hi : σ.threads i = .active (txn i) []) :
    Inv fail present interf key txn d₀ (σ.stepActive fail present i [] (txn i)) := by
  obtain ⟨next, hlock, ⟨e, habsent⟩, hstable, hread⟩ := (h.guarded i).locks
  have hfresh := hinv.fresh i _ _ hi
  rw [hlock]
  simp only [System.stepActive, flush_nil]
  split
  · rename_i hfree
    cases hpresent : present (key i) σ.db with
    | true =>
      rw [if_pos rfl]
      refine hinv.setThread h ?_ (fun _ _ _ => hfresh) ?_
      · intro j hji hown
        rw [Function.update_of_ne, hown]
        intro heq
        rw [heq] at hown
        rcases hfree with hnone | hself
        · cases hown.symm.trans hnone
        · exact hji (Option.some.inj (hown.symm.trans hself))
      · refine .holding (Function.update_self ..) hpresent (hstable _ hpresent) ?_
        intro d hd
        rw [hlock, run_lock_nil]
        exact (hread _ _ hpresent hd).symm
    | false =>
      rw [if_neg Bool.false_ne_true, habsent _ hpresent]
      refine hinv.setThread h (fun _ _ hown => hown) (fun _ _ _ => hfresh) ?_
      refine .missed e hpresent ?_
      intro d hd
      rw [hlock, run_lock_nil, habsent d hd, run_raise]
  · exact hinv

/-- A statement of a session that holds its row. -/
theorem Inv.step_holding (h : Reducible fail present interf key txn) {σ : System I K D E F A}
    (hinv : Inv fail present interf key txn d₀ σ) {i : I} {rest : Session K D E F A}
    {pending : List (Statement D F)} (hi : σ.threads i = .active rest pending)
    (howner : σ.owner (key i) = some i) (hpresent : present (key i) σ.db = true)
    (hstable : rest.Stable fail (interf (key i)) (present (key i)) pending)
    (hrun : ∀ d, interf (key i) σ.db d → rest.run fail pending d = (txn i).run fail [] d) :
    Inv fail present interf key txn d₀ (σ.stepActive fail present i pending rest) := by
  have hfresh := hinv.fresh i _ _ hi
  have hnow := (hrun σ.db (h.refl _ _)).symm
  cases hstable with
  | ret a => exact hinv.close h hi (hnow.trans rfl) (.inl rfl) (.inl rfl)
  | raise e => exact hinv.close h hi (hnow.trans rfl) (.inl rfl) (.inl rfl)
  | query hread hnext =>
    simp only [System.stepActive]
    split
    · rename_i e hflush
      exact hinv.close h hi (hnow.trans (run_query_error hflush _)) (.inl rfl) (.inl rfl)
    · rename_i view hflush
      refine hinv.setThread h (fun _ _ hown => hown) (fun _ _ _ => hfresh) ?_
      refine .holding howner hpresent (hnext _ _ hflush) ?_
      intro d hd
      rw [← hread _ _ _ hd hflush]
      exact hrun d hd
  | write hstable =>
    refine hinv.setThread h (fun _ _ hown => hown) (fun _ _ _ => hfresh) ?_
    refine .holding howner hpresent hstable ?_
    intro d hd
    rw [← run_write]
    exact hrun d hd
  | @commit next _ huncommitted hsettled =>
    simp only [System.stepActive]
    split
    · rename_i e hflush
      obtain ⟨outcome, hs⟩ := hsettled (.error e)
      rw [run_commit_error hflush, hs.run hpresent] at hnow
      exact hinv.close h hi hnow (.inl rfl) (.inr ⟨_, rfl, hpresent, hs⟩)
    · rename_i d hflush
      obtain ⟨outcome, hs⟩ := hsettled (.ok ())
      rw [run_commit_ok hflush] at hnow
      have hdb : ((txn i).run fail [] σ.db).2 = d := by
        rw [hnow]
        exact run_uncommitted (huncommitted _) [] d
      have hpresent' : present (key i) d = true := by
        rw [← hdb, h.present_run, hpresent]
      rw [hs.run hpresent'] at hnow
      exact hinv.close h hi hnow (.inr howner) (.inr ⟨_, rfl, hpresent, hs⟩)

/-- **One statement of any session, or its crash, keeps the invariant.** -/
theorem Inv.step (h : Reducible fail present interf key txn) {σ : System I K D E F A}
    (hinv : Inv fail present interf key txn d₀ σ) (act : Act I) :
    Inv fail present interf key txn d₀ (σ.step fail present act) := by
  cases act with
  | step i =>
    have hti := hinv.thread i
    simp only [System.step]
    split
    · rename_i rest pending hi
      rw [hi] at hti
      cases hti with
      | waiting => exact hinv.step_waiting h hi
      | missed e habsent hrun =>
        exact hinv.close h hi (hrun _ habsent) (.inl rfl) (.inl rfl)
      | holding howner hpresent hstable hrun =>
        exact hinv.step_holding h hi howner hpresent hstable hrun
    · rename_i rest hi
      rw [hi] at hti
      cases hti with
      | decided outcome hpresent hsettled hmem => exact hinv.step_decided h hpresent hsettled hmem
    · exact hinv
    · exact hinv
  | crash i =>
    simp only [System.step]
    split
    · exact hinv.setThread h (fun j hji hown => release_of_ne σ hji hown)
        (fun _ _ h => by cases h) .crashed
    · exact hinv.setThread h (fun j hji hown => release_of_ne σ hji hown)
        (fun _ _ h => by cases h) .crashed
    · exact hinv
    · exact hinv

/-- **Every interleaving of guarded sessions is equivalent to running them one after another**, in
the order in which their results were decided. -/
theorem serializable (h : Reducible fail present interf key txn) (d₀ : D)
    (schedule : List (Act I)) {σ : System I K D E F A}
    (hσ : σ = Runs.run (System.step fail present) (System.start txn d₀) schedule) :
    σ.db = serialDb fail txn d₀ σ.log ∧ σ.log.Nodup ∧
      ∀ i outcome, σ.threads i = .finished outcome → ∃ pre post, σ.log = pre ++ i :: post ∧
        ((txn i).run fail [] (serialDb fail txn d₀ pre)).1 = outcome := by
  have hinv : Inv fail present interf key txn d₀ σ := by
    rw [hσ]
    exact Runs.run_invariant (fun σ act hinv => hinv.step h act) schedule (inv_start txn d₀)
  refine ⟨hinv.db, hinv.nodup, ?_⟩
  intro i outcome hi
  have hti := hinv.thread i
  rw [hi] at hti
  cases hti with
  | finished hmem => exact mem_serial hmem

end Reduction

end UnitOfWork
