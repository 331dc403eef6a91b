import PaymentService.Lib.Reduction
import Mathlib.Algebra.Order.BigOperators.Group.Finset
import Mathlib.Data.Fintype.EquivFin

/-!
# Sessions racing to insert one row

Any number of sessions look whether a row is there, insert it if not, and commit.  The INSERT is
sent by the next read of the session (autoflush), waits while another session has inserted the
row and not committed, and fails once the row is there.

* `Race.Move`, `Race.Sound` — the race itself: where each competitor is, and what holds of them.
* `System.insertStep` — the sessions, statement by statement; `Inserter` — the program of one.
* `Sim.step` — **a statement of a session is at most one move of the race**.
* `can_finish` — no session waits forever.
* `EarlyCheck` — a session looks for the missing row while another one is between its own look
  and its commit.  `clean_of_no_early`, `broken_of_early`: without one a single session inserts its
  row and all others find it; with one an INSERT fails.
-/

namespace UnitOfWork

variable {I : Type}

/-! ## The race -/

namespace Race

inductive Phase where
  /-- Before the check. -/
  | idle
  /-- It found no row. -/
  | racing
  /-- It has inserted the row, and not committed. -/
  | holding
  | won
  /-- It found the row. -/
  | refused
  /-- Its INSERT failed. -/
  | broken
  deriving DecidableEq, Repr

structure State (I : Type) where
  taken : Bool
  phase : I → Phase

variable [DecidableEq I]

/-- What competitor `i` can do. -/
inductive Move (s : State I) (i : I) : State I → Prop
  | check (h : s.phase i = .idle) :
      Move s i ⟨s.taken, Function.update s.phase i (if s.taken then .refused else .racing)⟩
  | insert (h : s.phase i = .racing) (hfree : s.taken = false)
      (hnone : ∀ j, s.phase j ≠ .holding) :
      Move s i ⟨s.taken, Function.update s.phase i .holding⟩
  | fail (h : s.phase i = .racing) (htaken : s.taken = true) :
      Move s i ⟨s.taken, Function.update s.phase i .broken⟩
  | commit (h : s.phase i = .holding) : Move s i ⟨true, Function.update s.phase i .won⟩
  | stay (h : s.phase i ≠ .idle) : Move s i s

/-- Whoever holds the row is alone, and whoever won keeps it. -/
structure Sound (s : State I) : Prop where
  one : ∀ i j, s.phase i = .holding ∨ s.phase i = .won → s.phase j = .holding ∨ s.phase j = .won →
    i = j
  free : s.taken = false → ∀ i, s.phase i = .idle ∨ s.phase i = .racing ∨ s.phase i = .holding
  held : ∀ i, s.phase i = .holding → s.taken = false

/-- The row has an owner. -/
def Fair (s : State I) : Prop := s.taken = true → ∃ i, s.phase i = .won

/-- The row was there before. -/
def Late (s : State I) : Prop := s.taken = true ∧ ∀ i, s.phase i ≠ .won

/-- It found no row and has not committed. -/
def Phase.contends (p : Phase) : Prop := p = .racing ∨ p = .holding

/-- Nobody else has found the row missing. -/
structure Alone (s : State I) : Prop where
  free : s.taken = false → ∀ i j, (s.phase i).contends → (s.phase j).contends → i = j
  taken : s.taken = true → ∀ i, s.phase i ≠ .racing ∧ s.phase i ≠ .broken

/-- An INSERT is bound to fail, or has. -/
def Doomed (s : State I) : Prop :=
  (s.taken = false ∧ ∃ i j, i ≠ j ∧ (s.phase i).contends ∧ (s.phase j).contends) ∨
    (s.taken = true ∧ ∃ i, s.phase i = .racing ∨ s.phase i = .broken)

/-- `i` is about to look, and another one is open. -/
def Early (s : State I) (i : I) : Prop :=
  s.phase i = .idle ∧ s.taken = false ∧ ∃ j, (s.phase j).contends

variable {s s' : State I} {i : I}

omit [DecidableEq I] in
theorem sound_start (taken : Bool) : Sound (⟨taken, fun _ => .idle⟩ : State I) := by
  constructor <;> simp

omit [DecidableEq I] in
theorem fair_start : Fair (⟨false, fun _ => .idle⟩ : State I) := by
  intro htaken
  cases htaken

omit [DecidableEq I] in
theorem alone_start (taken : Bool) : Alone (⟨taken, fun _ => .idle⟩ : State I) := by
  constructor
  · rintro - i j (hi | hi) <;> cases hi
  · intro _ i
    exact ⟨nofun, nofun⟩

theorem Move.sound (hs : Sound s) (h : Move s i s') : Sound s' := by
  obtain ⟨hone, hfree, hheld⟩ := hs
  cases h with
  | check hi => constructor <;> grind
  | insert hi hfree' hnone => constructor <;> grind
  | fail hi htaken => constructor <;> grind
  | commit hi => constructor <;> grind
  | stay => exact ⟨hone, hfree, hheld⟩

theorem Move.fair (hfair : Fair s) (h : Move s i s') : Fair s' := by
  unfold Fair at hfair ⊢
  cases h with
  | check hi =>
    intro htaken
    obtain ⟨w, hw⟩ := hfair htaken
    exact ⟨w, by grind⟩
  | insert hi hfree hnone =>
    intro htaken
    cases hfree.symm.trans htaken
  | fail hi htaken =>
    intro _
    obtain ⟨w, hw⟩ := hfair htaken
    exact ⟨w, by grind⟩
  | commit hi => exact fun _ => ⟨i, Function.update_self i _ _⟩
  | stay => exact hfair

/-- Nobody wins a row that was there before. -/
theorem Move.late (hs : Sound s) (hlate : Late s) (h : Move s i s') : Late s' := by
  obtain ⟨htaken, hwon⟩ := hlate
  cases h with
  | check hi => exact ⟨htaken, by grind⟩
  | insert hi hfree hnone => cases hfree.symm.trans htaken
  | fail hi _ => exact ⟨htaken, by grind⟩
  | commit hi => cases (hs.held i hi).symm.trans htaken
  | stay => exact ⟨htaken, hwon⟩

/-- **Without an early look there is one competitor at a time.** -/
theorem Move.alone (hs : Sound s) (halone : Alone s) (hearly : ¬ Early s i) (h : Move s i s') :
    Alone s' := by
  obtain ⟨hfree, htaken⟩ := halone
  cases h with
  | check hi =>
    have hnone : s.taken = false → ∀ j, ¬ (s.phase j).contends :=
      fun hf j hj => hearly ⟨hi, hf, j, hj⟩
    constructor
    · intro hf a b ha hb
      have honly : ∀ j,
          (Function.update s.phase i (if s.taken then .refused else .racing) j).contends → j = i := by
        intro j hj
        by_contra hne
        rw [Function.update_of_ne hne] at hj
        exact hnone hf j hj
      rw [honly a ha, honly b hb]
    · intro ht j
      have hj := htaken ht j
      grind
  | insert hi hf hnone =>
    constructor
    · intro _ a b ha hb
      have hcontends : ∀ j, (Function.update s.phase i .holding j).contends →
          (s.phase j).contends := by
        intro j hj
        unfold Phase.contends at hj ⊢
        grind
      exact hfree hf a b (hcontends a ha) (hcontends b hb)
    · intro ht
      cases hf.symm.trans ht
  | fail hi ht => exact absurd hi (htaken ht i).1
  | commit hi =>
    have hf := hs.held i hi
    constructor
    · intro ht
      cases ht
    · intro _ j
      have hj := hs.free hf j
      have hone := hfree hf i j (.inr hi)
      unfold Phase.contends at hone
      grind
  | stay => exact ⟨hfree, htaken⟩

/-- Two that found no row cannot both win. -/
theorem Move.doomed (hs : Sound s) (hdoomed : Doomed s) (h : Move s i s') : Doomed s' := by
  unfold Doomed Phase.contends at hdoomed ⊢
  rcases hdoomed with ⟨hfree, a, b, hne, ha, hb⟩ | ⟨htaken, a, ha⟩
  · cases h with
    | check hi => exact .inl ⟨hfree, a, b, hne, by grind, by grind⟩
    | insert hi _ hnone => exact .inl ⟨hfree, a, b, hne, by grind, by grind⟩
    | fail hi htaken => cases hfree.symm.trans htaken
    | commit hi =>
      -- the other one of the two has its INSERT before it
      have hother : ∀ j, j ≠ i → s.phase j = .racing ∨ s.phase j = .holding →
          s.phase j = .racing := by
        intro j hj hcontends
        have hone := hs.one i j (.inl hi)
        grind
      by_cases hai : a = i
      · have hbi : b ≠ i := fun hbi => hne (hai.trans hbi.symm)
        exact .inr ⟨rfl, b, .inl ((Function.update_of_ne hbi _ _).trans (hother b hbi hb))⟩
      · exact .inr ⟨rfl, a, .inl ((Function.update_of_ne hai _ _).trans (hother a hai ha))⟩
    | stay => exact .inl ⟨hfree, a, b, hne, ha, hb⟩
  · cases h with
    | check hi => exact .inr ⟨htaken, a, by grind⟩
    | insert hi hfree hnone => cases hfree.symm.trans htaken
    | fail hi _ => exact .inr ⟨htaken, a, by grind⟩
    | commit hi => cases (hs.held i hi).symm.trans htaken
    | stay => exact .inr ⟨htaken, a, ha⟩

/-- An early look dooms one of the two. -/
theorem Early.doomed (h : Early s i) (hmove : Move s i s') : Doomed s' := by
  obtain ⟨hi, hfree, j, hj⟩ := h
  unfold Doomed Phase.contends at *
  cases hmove with
  | check _ => exact .inl ⟨hfree, i, j, by grind, by grind, by grind⟩
  | insert hi' | fail hi' | commit hi' => cases hi.symm.trans hi'
  | stay hne => exact absurd hi hne

/-! ### When the race is over -/

/-- Everybody has an answer. -/
def Over (s : State I) : Prop := ∀ i, s.phase i = .won ∨ s.phase i = .refused ∨ s.phase i = .broken

omit [DecidableEq I] in
theorem Doomed.broken (h : Doomed s) (hover : Over s) : ∃ i, s.phase i = .broken := by
  unfold Doomed Phase.contends at h
  rcases h with ⟨-, a, -, -, ha, -⟩ | ⟨-, a, ha | ha⟩
  · have := hover a
    grind
  · have := hover a
    grind
  · exact ⟨a, ha⟩

omit [DecidableEq I] in
/-- One winner, and everybody else was refused. -/
theorem Alone.winner [Nonempty I] (h : Alone s) (hs : Sound s) (hfair : Fair s) (hover : Over s) :
    ∃ w, s.phase w = .won ∧ ∀ j, j ≠ w → s.phase j = .refused := by
  have htaken : s.taken = true := by
    by_contra hfree
    obtain ⟨i⟩ := ‹Nonempty I›
    have hi := hs.free (Bool.eq_false_iff.mpr hfree) i
    have := hover i
    grind
  obtain ⟨w, hw⟩ := hfair htaken
  refine ⟨w, hw, fun j hne => ?_⟩
  rcases hover j with hj | hj | hj
  · exact absurd (hs.one j w (.inr hj) (.inr hw)) hne
  · exact hj
  · exact absurd hj (h.taken htaken j).2

end Race

/-! ## The sessions -/

variable {K D E F A : Type}

namespace System

section Step

variable [DecidableEq I] [DecidableEq K] (fail : F → E) (k : K)

/-- One statement of a session whose pending changes insert row `k`: sending them waits for a
session that has inserted it and not committed. -/
def insertActive (σ : System I K D E F A) (i : I) (pending : List (Statement D F)) :
    Session K D E F A → System I K D E F A
  | .ret a => σ.close i (.finished (.ok a)) σ.db
  | .raise e => σ.close i (.finished (.error e)) σ.db
  | .write s next => σ.setThread i (.active next (pending ++ [s])) σ.owner
  -- there is no row to lock, so a locking read is a plain one
  | .query next | .lock _ next =>
    match pending with
    | [] => σ.setThread i (.active (next σ.db) []) σ.owner
    | _ :: _ =>
      if σ.owner k = none ∨ σ.owner k = some i then
        match flush pending σ.db with
        | .error e => σ.close i (.finished (.error (fail e))) σ.db
        | .ok view =>
          σ.setThread i (.active (next view) pending) (Function.update σ.owner k (some i))
      else σ
  | .commit next =>
    if σ.owner k = none ∨ σ.owner k = some i then
      match flush pending σ.db with
      | .error e => σ.close i (.decided (next (.error e))) σ.db
      | .ok d => σ.close i (.decided (next (.ok ()))) d
    else σ

def insertStep (σ : System I K D E F A) (i : I) : System I K D E F A :=
  match σ.threads i with
  | .active rest pending => σ.insertActive fail k i pending rest
  | .decided rest => σ.stepDecided i rest
  | .finished _ | .crashed => σ

end Step

end System

/-- The session is about to look for the row. -/
def Thread.checking : Thread K D E F A → Bool
  | .active (.query _) [] => true
  | _ => false

/-- It has found no row, and has not committed. -/
def Thread.inserting : Thread K D E F A → Bool
  | .active (.write _ _) _ | .active _ (_ :: _) => true
  | _ => false

/-- How the session ended. -/
def Thread.outcome : Thread K D E F A → Option (Except E A)
  | .finished outcome => some outcome
  | .active _ _ | .decided _ | .crashed => none

theorem Thread.outcome_eq_some {t : Thread K D E F A} {outcome : Except E A} :
    t.outcome = some outcome ↔ t = .finished outcome := by
  cases t <;> simp [Thread.outcome]

/-- The statements it has before it, at most. -/
def Thread.remaining : Thread K D E F A → Nat
  | .active (.query _) [] => 7
  | .active (.write _ _) [] => 6
  | .active (.query _) (_ :: _) => 5
  | .active (.write _ _) (_ :: _) => 4
  | .active (.commit _) _ => 3
  | .decided (.query _) => 2
  | .active (.raise _) _ | .decided (.ret _) => 1
  | _ => 0

/-- Every session has ended. -/
def System.Finished (σ : System I K D E F A) : Prop :=
  ∀ i, ∃ outcome, σ.threads i = .finished outcome

theorem finished_of_outcome {σ : System I K D E F A}
    (h : ∀ i, (σ.threads i).outcome.isSome = true) : σ.Finished := by
  intro i
  obtain ⟨outcome, hi⟩ := Option.isSome_iff_exists.mp (h i)
  exact ⟨outcome, Thread.outcome_eq_some.mp hi⟩

/-- Session `i` looks for the missing row while another one is inserting it. -/
def EarlyCheck (present : D → Bool) (σ : System I K D E F A) (i : I) : Prop :=
  (σ.threads i).checking = true ∧ present σ.db = false ∧ ∃ j, (σ.threads j).inserting = true

/-- A session that inserts a row unless it finds it, in a database that starts as `d₀`. -/
structure Inserter (K D E F A : Type) (present : D → Bool) (d₀ : D) where
  /-- What it raises when it finds the row. -/
  conflict : E
  insert : Statement D F
  /-- How the INSERT fails when the row is there. -/
  duplicate : F
  view : D
  /-- What it writes with the row, from what it reads in between. -/
  more : D → Statement D F
  row : D
  done : Except F Unit → Session K D E F A
  reload : D → Session K D E F A
  answer : A
  insert_taken : ∀ d, present d = true → insert d = .error duplicate
  insert_free : present d₀ = false → insert d₀ = .ok view
  more_view : more view view = .ok row
  row_present : present row = true
  done_ok : done (.ok ()) = .query reload
  reload_row : reload row = .ret answer

namespace Inserter

variable {present : D → Bool} {d₀ : D} (x : Inserter K D E F A present d₀)

/-- After the check, and after the INSERT is pending. -/
def rest : Session K D E F A := .query fun d => .write (x.more d) (.commit x.done)

def checked : Session K D E F A := .write x.insert x.rest

def session : Session K D E F A :=
  .query fun d => if present d = true then .raise x.conflict else x.checked

/-- Where the session is, phase by phase. -/
inductive At (fail : F → E) : Race.Phase → Thread K D E F A → Prop
  | start : At fail .idle (.active x.session [])
  | checked : At fail .racing (.active x.checked [])
  | saved : At fail .racing (.active x.rest [x.insert])
  | inserted : At fail .holding (.active (.write (x.more x.view) (.commit x.done)) [x.insert])
  | complete : At fail .holding (.active (.commit x.done) [x.insert, x.more x.view])
  | committed : At fail .won (.decided (.query x.reload))
  | reloaded : At fail .won (.decided (.ret x.answer))
  | answered : At fail .won (.finished (.ok x.answer))
  | found : At fail .refused (.active (.raise x.conflict) [])
  | refused : At fail .refused (.finished (.error x.conflict))
  | broken : At fail .broken (.finished (.error (fail x.duplicate)))

variable {x} {fail : F → E} {p : Race.Phase} {t : Thread K D E F A}

/-- The three ways it can end. -/
theorem At.ended {outcome : Except E A} (h : x.At fail p (.finished outcome : Thread K D E F A)) :
    p = .won ∧ outcome = .ok x.answer ∨ p = .refused ∧ outcome = .error x.conflict ∨
      p = .broken ∧ outcome = .error (fail x.duplicate) := by
  cases h with
  | answered => exact .inl ⟨rfl, rfl⟩
  | refused => exact .inr (.inl ⟨rfl, rfl⟩)
  | broken => exact .inr (.inr ⟨rfl, rfl⟩)

theorem At.checking (h : x.At fail p t) : t.checking = true ↔ p = .idle := by
  cases h <;> simp [Thread.checking, session, Inserter.checked, rest]

theorem At.inserting (h : x.At fail p t) : t.inserting = true ↔ p.contends := by
  cases h <;> simp [Thread.inserting, session, Inserter.checked, rest, Race.Phase.contends]

theorem At.finished (h : x.At fail p t) (hzero : t.remaining = 0) :
    ∃ outcome, t = .finished outcome := by
  cases h with
  | answered | refused | broken => exact ⟨_, rfl⟩
  | start | checked | saved | inserted | complete | committed | reloaded | found => cases hzero

/-- The insert and what goes with it. -/
theorem flush_row (hfree : present d₀ = false) :
    flush [x.insert, x.more x.view] d₀ = .ok x.row := by
  rw [flush_cons_ok (x.insert_free hfree), flush_cons_ok x.more_view, flush_nil]

end Inserter

/-! ## The sessions run the race -/

section Simulation

variable {present : D → Bool} {d₀ : D} {x : I → Inserter K D E F A present d₀} {fail : F → E}
  {k : K} {σ : System I K D E F A} {s : Race.State I}

/-- The sessions are where the race says. -/
structure Sim (x : I → Inserter K D E F A present d₀) (fail : F → E) (k : K)
    (σ : System I K D E F A) (s : Race.State I) : Prop where
  threads : ∀ i, (x i).At fail (s.phase i) (σ.threads i)
  owner : ∀ i, σ.owner k = some i ↔ s.phase i = .holding
  taken : s.taken = present σ.db
  free : s.taken = false → σ.db = d₀
  row : ∀ i, s.phase i = .won → σ.db = (x i).row

theorem sim_start (x : I → Inserter K D E F A present d₀) (fail : F → E) (k : K) :
    Sim x fail k (System.start (fun i => (x i).session) d₀) ⟨present d₀, fun _ => .idle⟩ where
  threads := fun _ => .start
  owner := fun _ => ⟨fun h => (by cases h), fun h => (by cases h)⟩
  taken := rfl
  free := fun _ => rfl
  row := fun _ h => (by cases h)

theorem Sim.early (h : Sim x fail k σ s) {i : I} :
    EarlyCheck present σ i ↔ Race.Early s i := by
  unfold EarlyCheck Race.Early
  rw [(h.threads i).checking, ← h.taken]
  simp only [fun j => (h.threads j).inserting]

variable [DecidableEq I]

/-- Session `i` goes on to phase `p`. -/
theorem Sim.moved (h : Sim x fail k σ s) {σ' : System I K D E F A} {i : I} {p : Race.Phase}
    {t : Thread K D E F A} (hthreads : σ'.threads = Function.update σ.threads i t)
    (hat : (x i).At fail p t)
    (howner : ∀ j, σ'.owner k = some j ↔ Function.update s.phase i p j = .holding)
    (hdb : σ'.db = σ.db) (hwon : p = .won → s.phase i = .won) :
    Sim x fail k σ' ⟨s.taken, Function.update s.phase i p⟩ where
  threads := by
    intro j
    rw [hthreads]
    by_cases hj : j = i
    · subst hj
      simpa using hat
    · simpa [hj] using h.threads j
  owner := howner
  taken := by rw [hdb]; exact h.taken
  free := by rw [hdb]; exact h.free
  row := by
    intro j hj
    rw [hdb]
    by_cases hji : j = i
    · subst hji
      exact h.row j (hwon (by simpa using hj))
    · exact h.row j (by simpa [hji] using hj)

/-- Session `i` stays in its phase. -/
theorem Sim.stays (h : Sim x fail k σ s) {σ' : System I K D E F A} {i : I}
    {t : Thread K D E F A} (hthreads : σ'.threads = Function.update σ.threads i t)
    (hat : (x i).At fail (s.phase i) t) (howner : ∀ j, σ'.owner k = some j ↔ σ.owner k = some j)
    (hdb : σ'.db = σ.db) : Sim x fail k σ' s := by
  have hmoved := h.moved hthreads hat (fun j => ?_) hdb id
  · simpa using hmoved
  · rw [Function.update_eq_self, howner, h.owner]

/-- A session that owns nothing frees nothing. -/
theorem owner_release {i : I} (hne : σ.owner k ≠ some i) (j : I) :
    σ.release i k = some j ↔ σ.owner k = some j := by
  unfold System.release
  rw [if_neg hne]

theorem owner_released {i : I} (h : σ.owner k = some i) : σ.release i k = none := if_pos h

variable [DecidableEq K]

/-- The INSERT of a racing session waits, goes through, or finds the row. -/
theorem Sim.step_insert (h : Sim x fail k σ s) {i : I}
    (hphase : s.phase i = .racing) (ht : σ.threads i = .active (x i).rest [(x i).insert]) :
    ∃ s', Race.Move s i s' ∧ Sim x fail k (σ.insertStep fail k i) s' := by
  have hnot : σ.owner k ≠ some i := by
    rw [Ne, h.owner, hphase]
    decide
  simp only [System.insertStep, ht, Inserter.rest, System.insertActive]
  split
  · rename_i hwait
    have hfree : σ.owner k = none := hwait.resolve_right hnot
    cases htaken : present σ.db with
    | true =>
      rw [flush_cons_error ((x i).insert_taken σ.db htaken)]
      refine ⟨_, .fail hphase (h.taken.trans htaken), h.moved rfl .broken (fun j => ?_) rfl ?_⟩
      · refine (owner_release hnot j).trans ?_
        by_cases hj : j = i
        · subst hj
          simp [hnot]
        · simpa [hj] using h.owner j
      · intro hp
        cases hp
    | false =>
      have hstart := h.taken.trans htaken
      have hdb := h.free hstart
      have hnone : ∀ j, s.phase j ≠ .holding := by
        intro j hj
        rw [← h.owner, hfree] at hj
        cases hj
      rw [hdb] at htaken ⊢
      rw [flush_cons_ok ((x i).insert_free htaken), flush_nil]
      refine ⟨_, .insert hphase hstart hnone, h.moved rfl .inserted (fun j => ?_) rfl ?_⟩
      · by_cases hj : j = i
        · subst hj
          simp [System.setThread]
        · have hne : i ≠ j := fun hij => hj hij.symm
          simp [System.setThread, hj, hne, hnone j]
      · intro hp
        cases hp
  · exact ⟨s, .stay (by rw [hphase]; decide), h⟩

/-- The commit of the session that holds the row. -/
theorem Sim.step_commit (h : Sim x fail k σ s) (hs : Race.Sound s) {i : I}
    (hphase : s.phase i = .holding)
    (ht : σ.threads i = .active (.commit (x i).done) [(x i).insert, (x i).more (x i).view]) :
    ∃ s', Race.Move s i s' ∧ Sim x fail k (σ.insertStep fail k i) s' := by
  have hstart := hs.held i hphase
  have howner := (h.owner i).mpr hphase
  have hdb := h.free hstart
  have habsent : present d₀ = false := by rw [← hdb, ← h.taken, hstart]
  simp only [System.insertStep, ht, System.insertActive, howner, or_true, if_true, hdb,
    Inserter.flush_row habsent, (x i).done_ok]
  refine ⟨_, .commit hphase, ?_, ?_, (x i).row_present.symm, fun hf => (by cases hf), ?_⟩
  · intro j
    by_cases hj : j = i
    · subst hj
      simpa [System.close] using Inserter.At.committed
    · simpa [System.close, hj] using h.threads j
  · intro j
    have hnone : (σ.close i (.decided (.query (x i).reload)) (x i).row).owner k = none :=
      owner_released howner
    rw [hnone]
    by_cases hj : j = i
    · subst hj
      simp
    · have hother : s.phase j ≠ .holding :=
        fun hholds => hj (hs.one j i (.inl hholds) (.inl hphase))
      simp [hj, hother]
  · intro j hj
    have hji : j = i := by
      by_contra hne
      have hwon : s.phase j = .won := by simpa [hne] using hj
      exact hne (hs.one j i (.inr hwon) (.inl hphase))
    rw [hji]
    rfl

/-- **A statement of a session is at most one move of the race.** -/
theorem Sim.step (h : Sim x fail k σ s) (hs : Race.Sound s) (i : I) :
    ∃ s', Race.Move s i s' ∧ Sim x fail k (σ.insertStep fail k i) s' := by
  have hat := h.threads i
  have howner := h.owner i
  generalize hp : s.phase i = p at hat howner
  generalize ht : σ.threads i = t at hat
  cases hat with
  | start =>
    refine ⟨_, .check hp, ?_⟩
    simp only [System.insertStep, ht, Inserter.session, System.insertActive]
    refine h.moved rfl ?_ ?_ rfl ?_
    · rw [h.taken]
      split
      · exact .found
      · exact .checked
    · intro j
      refine (h.owner j).trans ?_
      grind
    · intro hwon
      split at hwon <;> cases hwon
  | checked =>
    simp only [System.insertStep, ht, Inserter.checked, System.insertActive]
    exact ⟨s, .stay (by rw [hp]; decide), h.stays rfl (hp ▸ .saved) (fun _ => Iff.rfl) rfl⟩
  | saved => exact h.step_insert hp ht
  | inserted =>
    simp only [System.insertStep, ht, System.insertActive]
    exact ⟨s, .stay (by rw [hp]; decide), h.stays rfl (hp ▸ .complete) (fun _ => Iff.rfl) rfl⟩
  | complete => exact h.step_commit hs hp ht
  | committed =>
    simp only [System.insertStep, ht, System.stepDecided, h.row i hp, (x i).reload_row]
    exact ⟨s, .stay (by rw [hp]; decide), h.stays rfl (hp ▸ .reloaded) (fun _ => Iff.rfl) rfl⟩
  | reloaded =>
    simp only [System.insertStep, ht, System.stepDecided]
    exact ⟨s, .stay (by rw [hp]; decide), h.stays rfl (hp ▸ .answered) (fun _ => Iff.rfl) rfl⟩
  | found =>
    have hnot : σ.owner k ≠ some i := fun howned => by cases howner.mp howned
    simp only [System.insertStep, ht, System.insertActive]
    exact ⟨s, .stay (by rw [hp]; decide), h.stays rfl (hp ▸ .refused) (owner_release hnot) rfl⟩
  | answered | refused | broken =>
    simp only [System.insertStep, ht]
    exact ⟨s, .stay (by rw [hp]; decide), h⟩

/-- A statement of one session moves no other. -/
theorem insertStep_other {i j : I} (hj : j ≠ i) :
    (σ.insertStep fail k i).threads j = σ.threads j := by
  unfold System.insertStep
  split
  · rename_i rest pending _
    unfold System.insertActive
    split
    · simp [System.close, hj]
    · simp [System.close, hj]
    · simp [System.setThread, hj]
    all_goals
      split <;> try split
      all_goals first | rfl | (try split) <;> simp [System.close, System.setThread, hj]
  · unfold System.stepDecided
    split <;> simp [System.setThread, hj]
  · rfl
  · rfl

/-- A session that does not wait comes closer to its end. -/
theorem Sim.progress (h : Sim x fail k σ s) (hs : Race.Sound s) {i : I}
    (howner : σ.owner k = none ∨ σ.owner k = some i) (hremaining : (σ.threads i).remaining ≠ 0) :
    ((σ.insertStep fail k i).threads i).remaining < (σ.threads i).remaining := by
  have hat := h.threads i
  generalize hp : s.phase i = p at hat
  generalize ht : σ.threads i = t at hat hremaining ⊢
  cases hat with
  | start =>
    simp only [System.insertStep, ht, Inserter.session, System.insertActive, System.setThread,
      Function.update_self]
    split <;> simp [Thread.remaining, Inserter.checked]
  | checked =>
    simp [System.insertStep, ht, System.insertActive, System.setThread, Inserter.checked,
      Inserter.rest, Thread.remaining]
  | saved =>
    simp only [System.insertStep, ht, Inserter.rest, System.insertActive, if_pos howner]
    split <;> simp [System.close, System.setThread, Thread.remaining]
  | inserted =>
    simp [System.insertStep, ht, System.insertActive, System.setThread, Thread.remaining]
  | complete =>
    have hdb := h.free (hs.held i hp)
    have habsent : present d₀ = false := by rw [← hdb, ← h.taken, hs.held i hp]
    simp only [System.insertStep, ht, System.insertActive, if_pos howner, hdb,
      Inserter.flush_row habsent, (x i).done_ok]
    simp [System.close, Thread.remaining]
  | committed =>
    simp [System.insertStep, ht, System.stepDecided, h.row i hp, (x i).reload_row,
      System.setThread, Thread.remaining]
  | reloaded =>
    simp [System.insertStep, ht, System.stepDecided, System.setThread, Thread.remaining]
  | found =>
    simp [System.insertStep, ht, System.insertActive, System.close, Thread.remaining]
  | answered | refused | broken => exact absurd rfl hremaining

/-- **Nobody waits forever.**  Whoever owns the row can go on, and so can all when nobody does. -/
theorem Sim.finish [Finite I] (h : Sim x fail k σ s) (hs : Race.Sound s) :
    ∃ schedule, (Runs.run (System.insertStep fail k) σ schedule).Finished := by
  have := Fintype.ofFinite I
  generalize hn : ∑ i, (σ.threads i).remaining = n
  induction n using Nat.strong_induction_on generalizing σ s with
  | _ n ih =>
    by_cases hdone : ∀ i, (σ.threads i).remaining = 0
    · exact ⟨[], fun i => (h.threads i).finished (hdone i)⟩
    · push Not at hdone
      have hgo : ∃ i, (σ.owner k = none ∨ σ.owner k = some i) ∧ (σ.threads i).remaining ≠ 0 := by
        cases howner : σ.owner k with
        | none =>
          obtain ⟨i, hi⟩ := hdone
          exact ⟨i, .inl rfl, hi⟩
        | some i =>
          refine ⟨i, .inr rfl, ?_⟩
          have hat := h.threads i
          rw [(h.owner i).mp howner] at hat
          generalize σ.threads i = t at hat ⊢
          cases hat <;> simp [Thread.remaining]
      obtain ⟨i, howner, hi⟩ := hgo
      have hless := h.progress hs howner hi
      obtain ⟨s', hmove, h'⟩ := h.step hs i
      have hsum : ∑ j, ((σ.insertStep fail k i).threads j).remaining < n := by
        rw [← hn]
        refine Finset.sum_lt_sum (fun j _ => ?_) ⟨i, Finset.mem_univ i, hless⟩
        by_cases hj : j = i
        · rw [hj]
          exact hless.le
        · rw [insertStep_other hj]
      obtain ⟨schedule, hfinished⟩ := ih _ hsum h' (hmove.sound hs) rfl
      exact ⟨i :: schedule, hfinished⟩

/-- What the moves of the race keep, the sessions keep. -/
theorem Sim.run {P : Race.State I → Prop} {Q : System I K D E F A → I → Prop}
    (hP : ∀ σ s i s', Sim x fail k σ s → Race.Sound s → Q σ i → P s → Race.Move s i s' → P s')
    (h : Sim x fail k σ s) (hs : Race.Sound s) (hp : P s) (schedule : List I)
    (hok : ∀ p ∈ Runs.history (System.insertStep fail k) σ schedule, Q p.1 p.2) :
    ∃ s', Sim x fail k (Runs.run (System.insertStep fail k) σ schedule) s' ∧ Race.Sound s' ∧
      P s' := by
  refine @Runs.run_induction _ _ (System.insertStep fail k)
    (fun σ => ∃ s, Sim x fail k σ s ∧ Race.Sound s ∧ P s) Q ?_ schedule σ ⟨s, h, hs, hp⟩ hok
  rintro σ i ⟨s, h, hs, hp⟩ hok
  obtain ⟨s', hmove, h'⟩ := h.step hs i
  exact ⟨s', h', hmove.sound hs, hP σ s i s' h hs hok hp hmove⟩

/-- One session has inserted its row, and every other one has found it. -/
def CleanInsertion (x : I → Inserter K D E F A present d₀) (σ : System I K D E F A) : Prop :=
  ∃ w, σ.threads w = .finished (.ok (x w).answer) ∧ σ.db = (x w).row ∧
    ∀ j, j ≠ w → σ.threads j = .finished (.error (x j).conflict)

omit [DecidableEq I] [DecidableEq K] in
theorem Sim.ended (h : Sim x fail k σ s) (hfinished : σ.Finished) :
    Race.Over s := by
  intro i
  obtain ⟨outcome, hi⟩ := hfinished i
  have hat := h.threads i
  rw [hi] at hat
  obtain ⟨hp, -⟩ | ⟨hp, -⟩ | ⟨hp, -⟩ := hat.ended
  · exact .inl hp
  · exact .inr (.inl hp)
  · exact .inr (.inr hp)

omit [DecidableEq I] [DecidableEq K] in
/-- When the race has a clean winner, so have the sessions. -/
theorem Sim.clean (h : Sim x fail k σ s) (hfinished : σ.Finished)
    {w : I} (hw : s.phase w = .won) (hothers : ∀ j, j ≠ w → s.phase j = .refused) :
    CleanInsertion x σ := by
  refine ⟨w, ?_, h.row w hw, fun j hj => ?_⟩
  · obtain ⟨outcome, hi⟩ := hfinished w
    have hat := h.threads w
    rw [hi, hw] at hat
    rw [hi]
    cases hat
    rfl
  · obtain ⟨outcome, hi⟩ := hfinished j
    have hat := h.threads j
    rw [hi, hothers j hj] at hat
    rw [hi]
    cases hat
    rfl

/-- Every schedule can be continued until all sessions have ended. -/
theorem can_finish [Finite I] (x : I → Inserter K D E F A present d₀) (fail : F → E) (k : K)
    (schedule : List I) : ∃ more, (Runs.run (System.insertStep fail k)
      (System.start (fun i => (x i).session) d₀) (schedule ++ more)).Finished := by
  obtain ⟨s, h, hs, -⟩ := (sim_start x fail k).run (P := fun _ => True) (Q := fun _ _ => True)
    (fun _ _ _ _ _ _ _ _ _ => trivial) (Race.sound_start _) trivial schedule (fun _ _ => trivial)
  obtain ⟨more, hfinished⟩ := h.finish hs
  exact ⟨more, Runs.run_append _ schedule more ▸ hfinished⟩

/-- **Without an early look the insertion is clean.** -/
theorem clean_of_no_early [Nonempty I] (schedule : List I)
    (hfinished : (Runs.run (System.insertStep fail k)
      (System.start (fun i => (x i).session) d₀) schedule).Finished)
    (hfree : present d₀ = false) (hnone : ∀ p ∈ Runs.history (System.insertStep fail k)
      (System.start (fun i => (x i).session) d₀) schedule, ¬ EarlyCheck present p.1 p.2) :
    CleanInsertion x (Runs.run (System.insertStep fail k)
      (System.start (fun i => (x i).session) d₀) schedule) := by
  obtain ⟨s, h, hs, hfair, halone⟩ := (sim_start x fail k).run
    (P := fun s => Race.Fair s ∧ Race.Alone s) (Q := fun σ i => ¬ EarlyCheck present σ i)
    (fun σ s i s' h hs hearly hp hmove =>
      ⟨hmove.fair hp.1, hmove.alone hs hp.2 (fun he => hearly (h.early.mpr he))⟩)
    (Race.sound_start _) ⟨hfree ▸ Race.fair_start, Race.alone_start _⟩ schedule hnone
  obtain ⟨w, hw, hothers⟩ := halone.winner hs hfair (h.ended hfinished)
  exact h.clean hfinished hw hothers

/-- A session that returns found the row missing at the start. -/
theorem free_of_answer {schedule : List I} {w : I} {answer : A}
    (hw : (Runs.run (System.insertStep fail k)
      (System.start (fun i => (x i).session) d₀) schedule).threads w = .finished (.ok answer)) :
    present d₀ = false := by
  by_contra htaken
  obtain ⟨s, h, -, -, hwon⟩ := (sim_start x fail k).run (P := Race.Late) (Q := fun _ _ => True)
    (fun _ _ _ _ _ hs _ hlate hmove => hmove.late hs hlate) (Race.sound_start _)
    ⟨by simpa using htaken, fun i hi => (by cases hi)⟩ schedule (fun _ _ => trivial)
  have hat := h.threads w
  rw [hw] at hat
  obtain ⟨hp, -⟩ | ⟨-, hout⟩ | ⟨-, hout⟩ := hat.ended
  · exact hwon w hp
  · cases hout
  · cases hout

/-- **An early look ends in a failed INSERT.** -/
theorem broken_of_early {schedule : List I} (hfinished : (Runs.run (System.insertStep fail k)
      (System.start (fun i => (x i).session) d₀) schedule).Finished) {p : System I K D E F A × I}
    (hp : p ∈ Runs.history (System.insertStep fail k) (System.start (fun i => (x i).session) d₀)
      schedule) (hearly : EarlyCheck present p.1 p.2) :
    ∃ i, (Runs.run (System.insertStep fail k) (System.start (fun i => (x i).session) d₀)
      schedule).threads i = .finished (.error (fail (x i).duplicate)) := by
  obtain ⟨pre, post, rfl, hpre⟩ := Runs.mem_history.mp hp
  -- the sessions up to the early look, at it, and after it
  obtain ⟨s, h, hs, -⟩ := (sim_start x fail k).run (P := fun _ => True) (Q := fun _ _ => True)
    (fun _ _ _ _ _ _ _ _ _ => trivial) (Race.sound_start _) trivial pre (fun _ _ => trivial)
  rw [← hpre] at h
  obtain ⟨s', hmove, h'⟩ := h.step hs p.2
  have hdoomed := (h.early.mp hearly).doomed hmove
  obtain ⟨s'', h'', -, hdoomed''⟩ := h'.run (P := Race.Doomed) (Q := fun _ _ => True)
    (fun _ _ _ _ _ hs _ hdoomed hmove => hmove.doomed hs hdoomed) (hmove.sound hs) hdoomed post
    (fun _ _ => trivial)
  rw [Runs.run_append, Runs.run_cons, ← hpre] at hfinished ⊢
  obtain ⟨i, hbroken⟩ := hdoomed''.broken (h''.ended hfinished)
  obtain ⟨outcome, hi⟩ := hfinished i
  refine ⟨i, ?_⟩
  have hat := h''.threads i
  rw [hi, hbroken] at hat
  rw [hi]
  cases hat
  rfl

end Simulation

end UnitOfWork
