import PaymentService.Model
import PaymentService.Lib.Rounding

/-!
# `RetryPolicy`: exponential backoff with full jitter

Reference model of `app/services/retry_policy.py`.  Delays are seconds; a float is the rational it
stands for.  The product with a power of two and the minimum are exact; the product with the draw
and the microseconds of a fraction of a second are rounded to 53 binary digits.  Two things raise
`OverflowError`: the conversion of the integer power to a float, from `2 ^ 1024` on, and a time
after `datetime.max`.

Principal results: `timedelta_mono` — rounding to microseconds keeps the order of delays;
`nextRetryAt_eq_ok` — which retry times are computed; `default_window` — they lie between `now` and
`now` plus the capped delay; `default_answers_iff` — the default policy has such a time for the
attempts up to 1024 whose delay ends before the year 10000, and for no other.
-/

namespace PaymentService

open Rounding

/-- `datetime.max`: the last microsecond of the year 9999. -/
def datetimeMax : Timestamp := 253402300799999999

/-- The delays `RetryPolicy.__init__` accepts. -/
structure RetryPolicy where
  baseDelay : ℚ
  maxDelay : ℚ
  baseDelay_pos : 0 < baseDelay
  maxDelay_pos : 0 < maxDelay
  base_le_max : baseDelay ≤ maxDelay

/-- `RetryPolicy()`. -/
def RetryPolicy.default : RetryPolicy where
  baseDelay := 1
  maxDelay := 60
  baseDelay_pos := by decide
  maxDelay_pos := by decide
  base_le_max := by decide

/-- A draw of `random.random()`. -/
structure Draw where
  fraction : ℚ
  nonneg : 0 ≤ fraction
  le_one : fraction ≤ 1

/-- The result of a float operation that is not exact. -/
def float (x : ℚ) : ℚ := roundDigits 52 x

/-- `random.uniform(0, d)`. -/
def uniform (d : ℚ) (draw : Draw) : ℚ := float (d * draw.fraction)

/-- Microseconds of `timedelta(seconds=...)`: whole seconds are kept apart from the fraction, whose
microseconds are computed as a float and rounded, a tie to the even number. -/
def timedelta (seconds : ℚ) : Int :=
  ⌊seconds⌋ * 1000000 + nearest (float ((seconds - ⌊seconds⌋) * 1000000))

/-- `float * int`: the integer is converted to a float first. -/
def floatMul (x : ℚ) (n : Nat) : Except Error ℚ :=
  if n < 2 ^ 1024 then .ok (x * n) else .error .overflowError

/-- `datetime + timedelta`, of a delay that is not negative. -/
def datetimeAdd (now : Timestamp) (delay : Int) : Except Error Timestamp :=
  if now + delay ≤ datetimeMax then .ok (now + delay) else .error .overflowError

namespace RetryPolicy

/-- `min(base_delay * 2 ** (attempt - 1), max_delay)`. -/
def exponentialDelay (policy : RetryPolicy) (attempt : Nat) : Except Error ℚ :=
  match floatMul policy.baseDelay (2 ^ (attempt - 1)) with
  | .error e => .error e
  | .ok delay => .ok (min delay policy.maxDelay)

def nextRetryAt (policy : RetryPolicy) (attempt : Nat) (now : Timestamp) (draw : Draw) :
    Except Error Timestamp :=
  if attempt < 1 then .error (.valueError "Attempt must be greater than zero")
  else
    match policy.exponentialDelay attempt with
    | .error e => .error e
    | .ok exponentialDelay => datetimeAdd now (timedelta (uniform exponentialDelay draw))

end RetryPolicy

/-! ## The retry window -/

theorem float_nonneg {x : ℚ} (h : 0 ≤ x) : 0 ≤ float x := roundDigits_nonneg 52 h

theorem float_mono {x y : ℚ} (hx : 0 ≤ x) (h : x ≤ y) : float x ≤ float y :=
  roundDigits_mono 52 hx h

/-- Whole numbers below 2 ^ 53 are floats. -/
theorem float_natCast {n : Nat} (h : n < 2 ^ 53) : float n = n := roundDigits_natCast h

/-- The microseconds of a fraction of a second. -/
theorem microseconds_bounds {x : ℚ} (hx : 0 ≤ x) (h : x ≤ 1) :
    0 ≤ nearest (float (x * 1000000)) ∧ nearest (float (x * 1000000)) ≤ 1000000 := by
  have hmillion : float ((1000000 : Nat) : ℚ) = (1000000 : Nat) := float_natCast (by norm_num)
  have hlow : 0 ≤ x * 1000000 := mul_nonneg hx (by norm_num)
  have hhigh : x * 1000000 ≤ ((1000000 : Nat) : ℚ) := by
    push_cast
    linarith
  constructor
  · have h0 := nearest_mono (float_nonneg hlow)
    rwa [show nearest 0 = 0 from nearest_natCast 0] at h0
  · have h1 := nearest_mono (float_mono hlow hhigh)
    rw [hmillion, nearest_natCast] at h1
    exact h1

theorem timedelta_mono {s t : ℚ} (h : s ≤ t) : timedelta s ≤ timedelta t := by
  have hs := Int.floor_le s
  have hs' := (Int.lt_floor_add_one s).le
  have ht := Int.floor_le t
  have ht' := (Int.lt_floor_add_one t).le
  unfold timedelta
  rcases (Int.floor_le_floor h).lt_or_eq with hlt | heq
  · have hlast := (microseconds_bounds (sub_nonneg.mpr hs) (by linarith)).2
    have hfirst := (microseconds_bounds (sub_nonneg.mpr ht) (by linarith)).1
    omega
  · -- the same whole second
    have hrest : (s - ⌊s⌋) * 1000000 ≤ (t - ⌊t⌋) * 1000000 := by
      rw [heq]
      linarith
    have hnonneg : 0 ≤ (s - ⌊s⌋) * 1000000 := mul_nonneg (sub_nonneg.mpr hs) (by norm_num)
    have hmono := nearest_mono (float_mono hnonneg hrest)
    omega

/-- A whole number of seconds is not rounded. -/
theorem timedelta_whole (n : Nat) : timedelta n = n * 1000000 := by
  have hzero : nearest (float 0) = 0 := by
    rw [float, roundDigits_zero]
    exact nearest_natCast 0
  rw [timedelta, Int.floor_natCast, Int.cast_natCast, sub_self, zero_mul, hzero, add_zero]

theorem timedelta_zero : timedelta 0 = 0 := timedelta_whole 0

/-- The drawn delay of a whole number of seconds. -/
theorem uniform_bounds {n : Nat} (hn : n < 2 ^ 53) (draw : Draw) :
    0 ≤ timedelta (uniform n draw) ∧ timedelta (uniform n draw) ≤ n * 1000000 := by
  have hlow : 0 ≤ (n : ℚ) * draw.fraction := mul_nonneg (Nat.cast_nonneg n) draw.nonneg
  have hhigh : (n : ℚ) * draw.fraction ≤ n := mul_le_of_le_one_right (Nat.cast_nonneg n) draw.le_one
  have h := float_mono hlow hhigh
  rw [float_natCast hn] at h
  exact ⟨timedelta_zero ▸ timedelta_mono (float_nonneg hlow),
    (timedelta_mono h).trans_eq (timedelta_whole n)⟩

/-- A draw of 1 takes all of it. -/
theorem uniform_one {n : Nat} (hn : n < 2 ^ 53) :
    timedelta (uniform n ⟨1, zero_le_one, le_refl 1⟩) = n * 1000000 := by
  rw [uniform, mul_one, float_natCast hn, timedelta_whole]

namespace RetryPolicy

/-- The delay the documentation promises for an attempt, in seconds. -/
def cappedDelay (policy : RetryPolicy) (attempt : Nat) : ℚ :=
  min (policy.baseDelay * 2 ^ (attempt - 1)) policy.maxDelay

theorem cappedDelay_mono (policy : RetryPolicy) : Monotone policy.cappedDelay := by
  intro n m h
  have hpow : (2 : ℚ) ^ (n - 1) ≤ 2 ^ (m - 1) :=
    pow_le_pow_right₀ one_le_two (Nat.sub_le_sub_right h 1)
  exact min_le_min_right _ (mul_le_mul_of_nonneg_left hpow policy.baseDelay_pos.le)

/-- Once the delay has reached its maximum it stays there. -/
theorem cappedDelay_reached {policy : RetryPolicy} {n m : Nat}
    (hreached : policy.cappedDelay n = policy.maxDelay) (h : n ≤ m) :
    policy.cappedDelay m = policy.maxDelay :=
  le_antisymm (min_le_right _ _) (hreached ▸ policy.cappedDelay_mono h)

/-- The code computes it as long as the power fits a float. -/
theorem exponentialDelay_eq (policy : RetryPolicy) {attempt : Nat} (h : attempt ≤ 1024) :
    policy.exponentialDelay attempt = .ok (policy.cappedDelay attempt) := by
  have hpow (n : Nat) (hn : attempt - 1 < n) : 2 ^ (attempt - 1) < 2 ^ n :=
    Nat.pow_lt_pow_right Nat.one_lt_two hn
  unfold exponentialDelay floatMul cappedDelay
  rw [if_pos (hpow 1024 (by omega))]
  push_cast
  rfl

theorem exponentialDelay_overflow (policy : RetryPolicy) {attempt : Nat} (h : 1024 < attempt) :
    policy.exponentialDelay attempt = .error .overflowError := by
  have hpow (n : Nat) (hn : n ≤ attempt - 1) : ¬ 2 ^ (attempt - 1) < 2 ^ n :=
    not_lt.mpr (Nat.pow_le_pow_right Nat.two_pos hn)
  unfold exponentialDelay floatMul
  rw [if_neg (hpow 1024 (by omega))]

/-- The microseconds drawn for an attempt. -/
def drawnDelay (policy : RetryPolicy) (attempt : Nat) (draw : Draw) : Int :=
  timedelta (uniform (policy.cappedDelay attempt) draw)

/-- **The retry times that are computed.** -/
theorem nextRetryAt_eq_ok {policy : RetryPolicy} {attempt : Nat} {now t : Timestamp}
    {draw : Draw} (hattempt : 1 ≤ attempt) : policy.nextRetryAt attempt now draw = .ok t ↔
      attempt ≤ 1024 ∧ t = now + policy.drawnDelay attempt draw ∧ t ≤ datetimeMax := by
  unfold nextRetryAt
  rw [if_neg (not_lt.mpr hattempt)]
  by_cases hmax : attempt ≤ 1024
  · rw [policy.exponentialDelay_eq hmax]
    dsimp only
    rw [datetimeAdd, ← drawnDelay]
    constructor
    · intro h
      split at h
      · rename_i hlast
        cases h
        exact ⟨hmax, rfl, hlast⟩
      · cases h
    · rintro ⟨-, rfl, hlast⟩
      exact if_pos hlast
  · rw [policy.exponentialDelay_overflow (not_le.mp hmax)]
    exact iff_of_false (fun h => by cases h) (fun h => hmax h.1)

/-- From the first attempt on, the policy raises nothing but `OverflowError`. -/
theorem nextRetryAt_error {policy : RetryPolicy} {attempt : Nat} {now : Timestamp} {draw : Draw}
    {e : Error} (hattempt : 1 ≤ attempt) (h : policy.nextRetryAt attempt now draw = .error e) :
    e = .overflowError := by
  unfold nextRetryAt at h
  rw [if_neg (not_lt.mpr hattempt)] at h
  by_cases hmax : attempt ≤ 1024
  · rw [policy.exponentialDelay_eq hmax] at h
    dsimp only [datetimeAdd] at h
    split at h
    · cases h
    · cases h
      rfl
  · rw [policy.exponentialDelay_overflow (not_le.mp hmax)] at h
    cases h
    rfl

/-! ## The default policy -/

/-- The default delays are whole seconds. -/
theorem default_cappedDelay (attempt : Nat) :
    default.cappedDelay attempt = (min (2 ^ (attempt - 1)) 60 : Nat) := by
  show min (1 * 2 ^ (attempt - 1)) (60 : ℚ) = _
  rw [one_mul]
  push_cast
  rfl

theorem default_drawnDelay (attempt : Nat) (draw : Draw) :
    0 ≤ default.drawnDelay attempt draw ∧
      default.drawnDelay attempt draw ≤ (min (2 ^ (attempt - 1)) 60 : Nat) * 1000000 := by
  rw [drawnDelay, default_cappedDelay]
  exact uniform_bounds (by omega) draw

/-- It is at most `max_delay`. -/
theorem default_drawnDelay_le (attempt : Nat) (draw : Draw) :
    default.drawnDelay attempt draw ≤ timedelta default.maxDelay := by
  have hmax : timedelta default.maxDelay = (60 : Nat) * 1000000 := timedelta_whole 60
  rw [hmax]
  exact (default_drawnDelay attempt draw).2.trans (by omega)

/-- The policy answers: it returns a time from `now` to `now` plus the attempt's delay, which is
counted in seconds and the times in microseconds. -/
def Answers (policy : RetryPolicy) (attempt : Nat) (now : Timestamp) (draw : Draw) : Prop :=
  ∃ t, policy.nextRetryAt attempt now draw = .ok t ∧ now ≤ t ∧
    ((t - now : Int) : ℚ) ≤ policy.cappedDelay attempt * 1000000

/-- **A time the default policy computes lies in the attempt's window.** -/
theorem default_window {attempt : Nat} {now t : Timestamp} {draw : Draw}
    (hattempt : 1 ≤ attempt) (h : default.nextRetryAt attempt now draw = .ok t) :
    now ≤ t ∧ ((t - now : Int) : ℚ) ≤ default.cappedDelay attempt * 1000000 := by
  obtain ⟨-, rfl, -⟩ := (nextRetryAt_eq_ok hattempt).mp h
  obtain ⟨hlow, hhigh⟩ := default_drawnDelay attempt draw
  refine ⟨le_add_of_nonneg_right hlow, ?_⟩
  rw [add_sub_cancel_left, default_cappedDelay]
  calc ((default.drawnDelay attempt draw : Int) : ℚ)
      ≤ (((min (2 ^ (attempt - 1)) 60 : Nat) * 1000000 : Int) : ℚ) := Int.cast_le.mpr hhigh
    _ = ((min (2 ^ (attempt - 1)) 60 : Nat) : ℚ) * 1000000 := by push_cast; rfl

theorem default_answers {attempt : Nat} (hattempt : 1 ≤ attempt) (now : Timestamp) (draw : Draw) :
    default.Answers attempt now draw ↔
      attempt ≤ 1024 ∧ now + default.drawnDelay attempt draw ≤ datetimeMax := by
  constructor
  · rintro ⟨t, ht, -⟩
    obtain ⟨hmax, rfl, hlast⟩ := (nextRetryAt_eq_ok hattempt).mp ht
    exact ⟨hmax, hlast⟩
  · rintro ⟨hmax, hlast⟩
    have ht := (nextRetryAt_eq_ok hattempt).mpr ⟨hmax, rfl, hlast⟩
    exact ⟨_, ht, default_window hattempt ht⟩

/-- **The default policy answers exactly up to attempt 1024 and `datetime.max`**: for each draw, and
for all draws if the whole delay of the attempt ends by then. -/
theorem default_answers_iff {attempt : Nat} (hattempt : 1 ≤ attempt) (now : Timestamp) :
    (∀ draw, default.Answers attempt now draw ↔
      attempt ≤ 1024 ∧ now + default.drawnDelay attempt draw ≤ datetimeMax) ∧
    ((∀ draw, default.Answers attempt now draw) ↔
      attempt ≤ 1024 ∧ (now : ℚ) + default.cappedDelay attempt * 1000000 ≤ datetimeMax) ∧
    Monotone default.cappedDelay ∧
    ∀ n m, default.cappedDelay n = default.maxDelay → n ≤ m →
      default.cappedDelay m = default.maxDelay := by
  refine ⟨default_answers hattempt now, ?_, default.cappedDelay_mono,
    fun _ _ => cappedDelay_reached⟩
  -- the whole delay in microseconds
  have hwhole : (now : ℚ) + default.cappedDelay attempt * 1000000 ≤ datetimeMax ↔
      now + (min (2 ^ (attempt - 1)) 60 : Nat) * 1000000 ≤ datetimeMax := by
    rw [default_cappedDelay]
    exact_mod_cast Iff.rfl
  rw [hwhole]
  constructor
  · intro h
    obtain ⟨hmax, hlast⟩ := (default_answers hattempt now _).mp (h ⟨1, zero_le_one, le_refl 1⟩)
    rw [drawnDelay, default_cappedDelay, uniform_one (by omega)] at hlast
    exact ⟨hmax, hlast⟩
  · rintro ⟨hmax, hlast⟩ draw
    have hdraw := (default_drawnDelay attempt draw).2
    have hend := (add_le_add (le_refl now) hdraw).trans hlast
    exact (default_answers hattempt now draw).mpr ⟨hmax, hend⟩

theorem default_answers_first :
    (∀ draw, default.Answers 1 0 draw ↔ 1 ≤ 1024 ∧ 0 + default.drawnDelay 1 draw ≤ datetimeMax) ∧
    ((∀ draw, default.Answers 1 0 draw) ↔
      1 ≤ 1024 ∧ ((0 : Timestamp) : ℚ) + default.cappedDelay 1 * 1000000 ≤ datetimeMax) ∧
    Monotone default.cappedDelay ∧
    ∀ n m, default.cappedDelay n = default.maxDelay → n ≤ m →
      default.cappedDelay m = default.maxDelay :=
  default_answers_iff (le_refl 1) 0

/-- The power for attempt 1025 does not fit a float, and there is no time after the last one. -/
theorem default_not_answers :
    ¬ default.Answers 1025 0 ⟨1 / 2, by norm_num, by norm_num⟩ ∧
      ¬ default.Answers 1 datetimeMax ⟨1 / 2, by norm_num, by norm_num⟩ := by
  have hlate : ¬ datetimeMax + default.drawnDelay 1 ⟨1 / 2, by norm_num, by norm_num⟩ ≤
      datetimeMax := by decide +kernel
  constructor
  · intro h
    exact absurd ((default_answers (by decide) _ _).mp h).1 (by decide)
  · intro h
    exact hlate ((default_answers (le_refl 1) _ _).mp h).2

end RetryPolicy

/-- A third of four seconds is not a float. -/
example :
    RetryPolicy.default.nextRetryAt 3 0 ⟨1 / 3, by norm_num, by norm_num⟩ = .ok 1333333 := by
  decide +kernel

end PaymentService
