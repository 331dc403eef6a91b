import PaymentService.Lib.Runs

/-!
# Visible behaviour and simulation

A system is a relation `S → Option L → S → Prop`: a step shows a label or is silent (`none`).

* `Shows` — an execution with the labels it shows; `Trace` — what can be seen from a state.
* `Shows.invariant` — the invariant rule, for what holds of a state and the labels seen so far.
* `Shows.split`, `Shows.at_label` — an execution can be cut at any point of what it shows.
* `Simulates` — every step of the lower system is matched by an execution of the upper one that
  shows the same; `Simulates.shows`: then **the upper system shows all the lower one does**.
* `shows_run` — the runs of `Runs.lean`, with a label for some of their steps, as executions.
-/

namespace Visible

variable {S T U L A : Type}

/-- What a system can do: the state, what the step shows, the state after it. -/
abbrev Steps (S L : Type) := S → Option L → S → Prop

inductive Shows (step : Steps S L) : S → List L → S → Prop
  | refl (s : S) : Shows step s [] s
  | silent {s t u : S} {ls : List L} (h : step s none t) (hrest : Shows step t ls u) :
      Shows step s ls u
  | visible {s t u : S} {l : L} {ls : List L} (h : step s (some l) t)
      (hrest : Shows step t ls u) : Shows step s (l :: ls) u

/-- What can be seen of a system that starts in this state. -/
def Trace (step : Steps S L) (s : S) (ls : List L) : Prop := ∃ t, Shows step s ls t

section

variable {step : Steps S L}

theorem Shows.single {s t : S} {l : Option L} (h : step s l t) : Shows step s l.toList t := by
  cases l with
  | none => exact .silent h (.refl t)
  | some l => exact .visible h (.refl t)

theorem Shows.trans {s t u : S} {ls ls' : List L} (h : Shows step s ls t)
    (h' : Shows step t ls' u) : Shows step s (ls ++ ls') u := by
  induction h with
  | refl s => exact h'
  | silent hstep _ ih => exact .silent hstep (ih h')
  | visible hstep _ ih => exact .visible hstep (ih h')

/-- A step, and then more. -/
theorem Shows.cons {s t u : S} {l : Option L} {ls : List L} (h : step s l t)
    (hrest : Shows step t ls u) : Shows step s (l.toList ++ ls) u :=
  (Shows.single h).trans hrest

/-- **Invariant rule**, for a state and what has been seen on the way to it. -/
theorem Shows.invariant {I : List L → S → Prop}
    (hstep : ∀ {past : List L} {s t : S} {l : Option L}, I past s → step s l t →
      I (past ++ l.toList) t)
    {s t : S} {ls : List L} (h : Shows step s ls t) {past : List L} (hs : I past s) :
    I (past ++ ls) t := by
  induction h generalizing past with
  | refl s => rwa [List.append_nil]
  | silent h _ ih =>
    have hnext := hstep hs h
    rw [Option.toList_none, List.append_nil] at hnext
    exact ih hnext
  | @visible s t u l ls h _ ih =>
    have hnext := ih (hstep hs h)
    rwa [Option.toList_some, List.append_assoc, List.singleton_append] at hnext

/-- The rule for what does not depend on the labels. -/
theorem Shows.keeps {I : S → Prop} (hstep : ∀ {s t : S} {l : Option L}, I s → step s l t → I t)
    {s t : S} {ls : List L} (h : Shows step s ls t) (hs : I s) : I t :=
  @Shows.invariant _ _ _ (fun _ => I) (fun hs h => hstep hs h) _ _ _ h [] hs

/-- The same for a stretch of an execution whose labels all satisfy `ok`. -/
theorem Shows.keeps_of {I : S → Prop} {ok : L → Prop}
    (hstep : ∀ {s t : S} {l : Option L}, (∀ x ∈ l, ok x) → I s → step s l t → I t)
    {s t : S} {ls : List L} (h : Shows step s ls t) (hok : ∀ l ∈ ls, ok l) (hs : I s) : I t := by
  induction h with
  | refl s => exact hs
  | silent h _ ih => exact ih hok (hstep (fun _ hx => by cases hx) hs h)
  | visible h _ ih =>
    obtain ⟨hl, hls⟩ := List.forall_mem_cons.mp hok
    refine ih hls (hstep ?_ hs h)
    intro x hx
    cases hx
    exact hl

/-! ## Cutting executions -/

theorem Shows.split {s u : S} {ls ls' : List L} (h : Shows step s (ls ++ ls') u) :
    ∃ t, Shows step s ls t ∧ Shows step t ls' u := by
  generalize hall : ls ++ ls' = all at h
  induction h generalizing ls with
  | refl s =>
    obtain ⟨rfl, rfl⟩ := List.append_eq_nil_iff.mp hall
    exact ⟨s, .refl s, .refl s⟩
  | silent hstep _ ih =>
    obtain ⟨t, ht, hu⟩ := ih hall
    exact ⟨t, .silent hstep ht, hu⟩
  | @visible s t u l rest hstep hrest ih =>
    cases ls with
    | nil =>
      obtain rfl : ls' = l :: rest := hall
      exact ⟨s, .refl s, .visible hstep hrest⟩
    | cons l' ls =>
      obtain ⟨rfl, hrest'⟩ := List.cons.inj hall
      obtain ⟨t', ht', hu⟩ := ih hrest'
      exact ⟨t', .visible hstep ht', hu⟩

/-- The step that shows the first label, after some silent ones. -/
theorem Shows.at_label {s u : S} {l : L} {ls : List L} (h : Shows step s (l :: ls) u) :
    ∃ t t', Shows step s [] t ∧ step t (some l) t' ∧ Shows step t' ls u := by
  generalize hall : l :: ls = all at h
  induction h with
  | refl s => cases hall
  | silent hstep _ ih =>
    obtain ⟨t, t', ht, hl, hu⟩ := ih hall
    exact ⟨t, t', .silent hstep ht, hl, hu⟩
  | visible hstep hrest _ =>
    cases hall
    exact ⟨_, _, .refl _, hstep, hrest⟩

/-- What is seen up to some point is seen on its own. -/
theorem Trace.of_append {s : S} {ls ls' : List L} (h : Trace step s (ls ++ ls')) :
    Trace step s ls := by
  obtain ⟨u, hu⟩ := h
  obtain ⟨t, ht, -⟩ := hu.split
  exact ⟨t, ht⟩

end

/-! ## Simulation -/

/-- Every step of the lower system is matched by an execution of the upper one. -/
def Simulates (lower : Steps S L) (upper : Steps T L) (R : S → T → Prop) : Prop :=
  ∀ {s : S} {t : T} {l : Option L} {s' : S}, R s t → lower s l s' →
    ∃ t', Shows upper t l.toList t' ∧ R s' t'

section

variable {lower : Steps S L} {upper : Steps T L} {R : S → T → Prop}

/-- **The upper system shows all the lower one does.** -/
theorem Simulates.shows (h : Simulates lower upper R) {s s' : S} {ls : List L}
    (hs : Shows lower s ls s') {t : T} (hR : R s t) : ∃ t', Shows upper t ls t' ∧ R s' t' := by
  induction hs generalizing t with
  | refl s => exact ⟨t, .refl t, hR⟩
  | silent hstep _ ih =>
    obtain ⟨t₁, ht₁, hR₁⟩ := h hR hstep
    obtain ⟨t₂, ht₂, hR₂⟩ := ih hR₁
    exact ⟨t₂, ht₁.trans ht₂, hR₂⟩
  | visible hstep _ ih =>
    obtain ⟨t₁, ht₁, hR₁⟩ := h hR hstep
    obtain ⟨t₂, ht₂, hR₂⟩ := ih hR₁
    exact ⟨t₂, ht₁.trans ht₂, hR₂⟩

end

/-! ## Runs as executions -/

/-- The steps of a deterministic system, the ones with a label visible. -/
def stepsOf (next : S → A → S) (label : S → A → Option L) : Steps S L :=
  fun s l t => ∃ a, label s a = l ∧ t = next s a

section

variable {next : S → A → S} {label : S → A → Option L}

/-- A run shows the labels of its steps. -/
theorem shows_run (s : S) (as : List A) :
    Shows (stepsOf next label) s (Runs.trace next label s as) (Runs.run next s as) := by
  induction as generalizing s with
  | nil => exact .refl s
  | cons a as ih => exact .cons ⟨a, rfl, rfl⟩ (ih (next s a))

end

end Visible
