import Mathlib.Data.List.Basic
import Mathlib.Order.Basic

/-!
# Runs of a deterministic labelled system

A system is a step function `S → L → S`: the label says what happens and with which inputs, so
a run is a list of labels and "for every interleaving" is "for every list".

* `run`, `history` — the state after a run, and every label with the state it acted on.
* `run_induction` — the invariant rule, for runs whose steps all satisfy a side condition.
* `exists_loss` — what a run loses it loses at a step.
* `run_latch` — a register that is only written while empty holds the first value offered.
* `countP_le_one_of` — what needs a condition, destroys it and never sees it again happens once.
* `run_count` — a counter that a step raises by one exactly when it fires counts the firings.
* `run_budget` — what a step can raise only when it fires is covered by the firings.
* `proj_run` — a system whose steps each stand for at most one step of a lower one runs it.
-/

namespace Runs

variable {S L : Type}

/-- The state after a run. -/
def run (step : S → L → S) (s : S) (ls : List L) : S := ls.foldl step s

/-- The steps of a run, each with the state it was taken in. -/
def history (step : S → L → S) : S → List L → List (S × L)
  | _, [] => []
  | s, l :: ls => (s, l) :: history step (step s l) ls

variable {step : S → L → S}

@[simp] theorem run_nil (s : S) : run step s [] = s := rfl

@[simp] theorem run_cons (s : S) (l : L) (ls : List L) :
    run step s (l :: ls) = run step (step s l) ls := rfl

theorem run_append (s : S) (ls ls' : List L) :
    run step s (ls ++ ls') = run step (run step s ls) ls' :=
  List.foldl_append

theorem run_concat (s : S) (ls : List L) (l : L) :
    run step s (ls ++ [l]) = step (run step s ls) l := by
  rw [run_append, run_cons, run_nil]

@[simp] theorem history_nil (s : S) : history step s [] = [] := rfl

@[simp] theorem history_cons (s : S) (l : L) (ls : List L) :
    history step s (l :: ls) = (s, l) :: history step (step s l) ls := rfl

theorem history_append (s : S) (ls ls' : List L) :
    history step s (ls ++ ls') = history step s ls ++ history step (run step s ls) ls' := by
  induction ls generalizing s with
  | nil => rfl
  | cons l ls ih => simp [ih]

/-- Every step of a run is taken in the state some prefix of the run reaches. -/
theorem mem_history {s : S} {ls : List L} {t : S} {l : L} :
    (t, l) ∈ history step s ls ↔ ∃ pre post, ls = pre ++ l :: post ∧ t = run step s pre := by
  constructor
  · induction ls generalizing s with
    | nil => intro h; cases h
    | cons a ls ih =>
      intro h
      rcases List.mem_cons.mp h with h | h
      · cases h; exact ⟨[], ls, rfl, rfl⟩
      · obtain ⟨pre, post, rfl, rfl⟩ := ih h
        exact ⟨a :: pre, post, rfl, rfl⟩
  · rintro ⟨pre, post, rfl, rfl⟩
    rw [history_append]
    exact List.mem_append_right _ List.mem_cons_self

/-- **Invariant rule** for runs whose every step satisfies `ok`. -/
theorem run_induction {I : S → Prop} {ok : S → L → Prop}
    (hstep : ∀ s l, I s → ok s l → I (step s l)) :
    ∀ (ls : List L) (s : S), I s → (∀ p ∈ history step s ls, ok p.1 p.2) → I (run step s ls)
  | [], _, h, _ => h
  | l :: ls, s, h, hok =>
    run_induction hstep ls (step s l) (hstep s l h (hok (s, l) List.mem_cons_self))
      (fun p hp => hok p (List.mem_cons_of_mem _ hp))

/-- The invariant rule without a side condition. -/
theorem run_invariant {I : S → Prop} (hstep : ∀ s l, I s → I (step s l)) (ls : List L) {s : S}
    (h : I s) : I (run step s ls) :=
  @run_induction _ _ step I (fun _ _ => True) (fun s l hs _ => hstep s l hs) ls s h
    (fun _ _ => trivial)

/-- What holds before a run and not after it is lost at one of its steps. -/
theorem exists_loss {P : S → Prop} :
    ∀ (ls : List L) (s : S), P s → ¬ P (run step s ls) →
      ∃ pre l post, ls = pre ++ l :: post ∧ P (run step s pre) ∧ ¬ P (step (run step s pre) l)
  | [], _, h, hlost => absurd h hlost
  | l :: ls, s, h, hlost => by
    by_cases hl : P (step s l)
    · obtain ⟨pre, l', post, rfl, hpre, hloss⟩ := exists_loss ls (step s l) hl hlost
      exact ⟨l :: pre, l', post, rfl, hpre, hloss⟩
    · exact ⟨[], l, ls, rfl, h, hl⟩

/-- An invariant holds wherever a step is taken. -/
theorem history_induction {I : S → Prop} {ok : S → L → Prop}
    (hstep : ∀ s l, I s → ok s l → I (step s l)) :
    ∀ (ls : List L) (s : S), I s → (∀ p ∈ history step s ls, ok p.1 p.2) →
      ∀ p ∈ history step s ls, I p.1
  | [], _, _, _, _, hp => absurd hp List.not_mem_nil
  | l :: ls, s, h, hok, p, hp => by
    rcases List.mem_cons.mp hp with rfl | hp
    · exact h
    · exact history_induction hstep ls _ (hstep s l h (hok (s, l) List.mem_cons_self))
        (fun q hq => hok q (List.mem_cons_of_mem _ hq)) p hp

/-- **At most once.**  A step that fires needs the system armed and disarms it, and no step
arms it again: over a run at most one step fires, and none when it starts disarmed. -/
theorem countP_le_one_of {I : S → Prop} {ok : S → L → Prop}
    (hstep : ∀ s l, I s → ok s l → I (step s l)) (fires : S → L → Bool) (armed : S → Prop)
    (hfire : ∀ s l, I s → ok s l → fires s l = true → armed s ∧ ¬ armed (step s l))
    (hstay : ∀ s l, I s → ok s l → ¬ armed s → ¬ armed (step s l)) :
    ∀ (ls : List L) (s : S), I s → (∀ p ∈ history step s ls, ok p.1 p.2) →
      (history step s ls).countP (fun p => fires p.1 p.2) ≤ 1 ∧
      (¬ armed s → (history step s ls).countP (fun p => fires p.1 p.2) = 0)
  | [], _, _, _ => by simp
  | l :: ls, s, h, hok => by
    have hl := hok (s, l) List.mem_cons_self
    obtain ⟨hle, hzero⟩ := countP_le_one_of hstep fires armed hfire hstay ls _ (hstep s l h hl)
      (fun p hp => hok p (List.mem_cons_of_mem _ hp))
    rw [history_cons, List.countP_cons]
    cases hf : fires s l with
    | true =>
      obtain ⟨harmed, hdis⟩ := hfire s l h hl hf
      rw [hzero hdis]
      exact ⟨by simp, fun hn => absurd harmed hn⟩
    | false =>
      exact ⟨by simpa using hle, fun hn => by simpa using hzero (hstay s l h hl hn)⟩

/-- **Counter rule.**  A counter that a step raises by one when it fires, and keeps otherwise,
counts the firings of a run. -/
theorem run_count {counter : S → Nat} {fires : S → L → Bool}
    (hstep : ∀ s l, counter (step s l) = counter s + (fires s l).toNat) :
    ∀ (ls : List L) (s : S), counter (run step s ls) =
      counter s + (history step s ls).countP (fun p => fires p.1 p.2)
  | [], _ => by simp
  | l :: ls, s => by
    rw [run_cons, run_count hstep ls (step s l), hstep s l, history_cons, List.countP_cons]
    cases fires s l with
    | true => simp only [Bool.toNat_true, if_pos]; omega
    | false => simp

/-- **Budget rule.**  What a step can raise only when it fires, and then by one, is covered by the
firings of a run. -/
theorem run_budget {I : S → Prop} {spent : S → Nat} {fires : S → L → Bool}
    (hI : ∀ s l, I s → I (step s l))
    (hstep : ∀ s l, I s → spent (step s l) ≤ spent s + (fires s l).toNat) :
    ∀ (ls : List L) (s : S), I s → spent (run step s ls) ≤
      spent s + (history step s ls).countP (fun p => fires p.1 p.2)
  | [], _, _ => by simp
  | l :: ls, s, hs => by
    have hrest := run_budget hI hstep ls (step s l) (hI s l hs)
    have hfirst := hstep s l hs
    rw [run_cons, history_cons, List.countP_cons]
    cases hfires : fires s l with
    | true =>
      rw [hfires, Bool.toNat_true] at hfirst
      simp only [if_pos]
      omega
    | false =>
      rw [hfires, Bool.toNat_false] at hfirst
      simp only [Bool.false_eq_true, if_false]
      omega

section Invariant

variable {I : S → Prop} (hI : ∀ s l, I s → I (step s l))

include hI

/-- **Latch rule.**  A register that a step fills with what it is offered when it is empty, and
leaves alone otherwise, holds after a run what it held before, or else the first offer. -/
theorem run_latch {V : Type} (reg : S → Option V) (offer : S → L → Option V)
    (hreg : ∀ s l, I s → reg (step s l) = (reg s).or (offer s l)) :
    ∀ (ls : List L) (s : S), I s →
      reg (run step s ls) = (reg s).or ((history step s ls).findSome? (fun p => offer p.1 p.2))
  | [], s, _ => by simp
  | l :: ls, s, h => by
    rw [run_cons, run_latch reg offer hreg ls _ (hI s l h), hreg s l h, history_cons,
      List.findSome?_cons]
    cases reg s <;> cases offer s l <;> rfl

/-- The same without a side condition on the steps. -/
theorem countP_le_one (fires : S → L → Bool) (armed : S → Prop)
    (hfire : ∀ s l, I s → fires s l = true → armed s ∧ ¬ armed (step s l))
    (hstay : ∀ s l, I s → ¬ armed s → ¬ armed (step s l)) (ls : List L) (s : S) (hs : I s) :
    (history step s ls).countP (fun p => fires p.1 p.2) ≤ 1 ∧
      (¬ armed s → (history step s ls).countP (fun p => fires p.1 p.2) = 0) :=
  @countP_le_one_of _ _ step I (fun _ _ => True) (fun s l h _ => hI s l h) fires armed
    (fun s l h _ => hfire s l h) (fun s l h _ => hstay s l h) ls s hs (fun _ _ => trivial)

end Invariant

/-! ## A system over another one -/

section Projection

variable {T M : Type}

/-- What a run makes a lower system do. -/
def trace (step : S → L → S) (emit : S → L → Option M) : S → List L → List M
  | _, [] => []
  | s, l :: ls => (emit s l).toList ++ trace step emit (step s l) ls

theorem trace_append {emit : S → L → Option M} (ls ls' : List L) (s : S) :
    trace step emit s (ls ++ ls') = trace step emit s ls ++ trace step emit (run step s ls) ls' := by
  induction ls generalizing s with
  | nil => rfl
  | cons l ls ih =>
    rw [List.cons_append, trace, trace, ih, List.append_assoc]
    rfl

/-- **Projection rule.**  When the lower system takes the step a step emits, or stays where none
is emitted, a whole run takes it along its trace. -/
theorem proj_run {emit : S → L → Option M} {lower : T → M → T} {proj : S → T}
    (h : ∀ s l, proj (step s l) = run lower (proj s) (emit s l).toList) :
    ∀ (ls : List L) (s : S), proj (run step s ls) = run lower (proj s) (trace step emit s ls)
  | [], _ => rfl
  | l :: ls, s => by
    rw [run_cons, proj_run h ls (step s l), h s l, trace, run_append]

end Projection

end Runs
