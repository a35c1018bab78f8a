import CortexGateway.RateLimit.Windows

/-! # The burst bound

The limiter's documentation bounds what a window of time admits by the limit
and the part of the previous window that remains.  The script admits the limit
and the part that is over: the weight of the previous window falls while the
requests it admitted still lie in the last window of time. -/
set_option autoImplicit false
namespace CortexGateway.RateLimiting
open SlidingWindow Transition

/-- Admitted calls of the last window of time up to `upTo`. -/
def Checked.burst (s : Checked) (windowSeconds : ℤ) (upTo : ℚ) : ℕ :=
  s.allowedTimes.countP fun t => upTo - windowSeconds < t ∧ t ≤ upTo

/-- `limit × (1 + fraction_of_previous_window_remaining)`, rounded up. -/
def documentedBurst (limit windowSeconds : ℤ) (upTo : ℚ) : ℤ :=
  ⌈(limit : ℚ) * (1 + (1 - Int.fract (upTo / windowSeconds)))⌉

section Burst
variable {scope identifier : String} {limit windowSeconds : ℤ} {counters : Counters} {upTo : ℚ}
variable (positive : 1 ≤ windowSeconds)

theorem limit_le_documentedBurst (nonneg : 0 ≤ limit) :
    limit ≤ documentedBurst limit windowSeconds upTo := by
  have part := (Int.fract_lt_one (upTo / windowSeconds)).le
  have remaining : (limit : ℚ) ≤ limit * (1 + (1 - Int.fract (upTo / windowSeconds))) :=
    le_mul_of_one_le_right (by exact_mod_cast nonneg) (by linarith)
  exact_mod_cast remaining.trans (Int.le_ceil _)

variable (limit) in
/-- Whatever the profile, the limit and the part of it that is over. -/
theorem worstBurst_le {f : ℚ} (nonneg : 0 ≤ limit) (fNonneg : 0 ≤ f) (fLeOne : f ≤ 1)
    (early prev curr : ℕ) : worstBurst limit early prev curr f ≤ limit + ⌊(limit : ℚ) * f⌋ := by
  have weight : 0 ≤ 1 - f := by linarith
  have part : 0 ≤ ⌊(limit : ℚ) * f⌋ :=
    Int.floor_nonneg.mpr (mul_nonneg (by exact_mod_cast nonneg) fNonneg)
  have allowed : min (prev : ℤ) limit + allowance limit prev f ≤ limit + ⌊(limit : ℚ) * f⌋ := by
    rcases le_total (prev : ℤ) limit with few | many
    · have within : (prev : ℚ) * f ≤ limit * f :=
        mul_le_mul_of_nonneg_right (by exact_mod_cast few) fNonneg
      rw [min_eq_left few, allowance, ← Int.floor_intCast_add, ← Int.floor_intCast_add]
      apply Int.floor_le_floor
      push_cast
      linarith
    · have within : (limit : ℚ) * (1 - f) ≤ prev * (1 - f) :=
        mul_le_mul_of_nonneg_right (by exact_mod_cast many) weight
      rw [min_eq_right many, allowance]
      apply Int.add_le_add_left
      apply Int.floor_le_floor
      linarith
  unfold worstBurst
  omega

include positive in
theorem msFraction_le_fract (t : ℚ) :
    msFraction windowSeconds t ≤ Int.fract (t / windowSeconds) := by
  have window := windowSeconds_cast positive
  have below := Int.floor_le ((t - slot (windowSeconds : ℚ) t * windowSeconds) * 1000)
  rw [msFraction, Int.fract, le_sub_iff_add_le, div_add' _ _ _ window.ne',
    div_le_div_iff_of_pos_right window, ← slot]
  linarith

include positive in
theorem burst_eq (fresh : Fresh scope identifier counters) (calls : List ℚ) (s : Checked)
    (reached : run (check scope identifier limit windowSeconds) (Checked.start counters) calls =
      some s) : s.burst windowSeconds upTo =
        admittedWithin (windowSeconds : ℚ) (msFraction windowSeconds) limit s.times upTo := by
  rw [Checked.burst, (follows_of_run positive fresh calls s reached).decided]
  rfl

include positive in
theorem burst_le (fresh : Fresh scope identifier counters) (calls : List ℚ) (s : Checked)
    (reached : run (check scope identifier limit windowSeconds) (Checked.start counters) calls =
      some s) (early prev curr : ℕ)
    (profile : Profile (windowSeconds : ℚ) s.times upTo early prev curr) :
    (s.burst windowSeconds upTo : ℤ) ≤
      worstBurst limit early prev curr (msFraction windowSeconds upTo) := by
  have follows := follows_of_run positive fresh calls s reached
  rw [burst_eq positive fresh calls s reached]
  exact admittedWithin_le (msFraction_measures positive) s.times upTo follows.clocked.tail early
    prev curr profile

variable (limit) in
include positive in
theorem exists_worstBurst (fresh : Fresh scope identifier counters)
    (after : (windowSeconds : ℚ) ≤ upTo) (early prev curr : ℕ) (fewer : early ≤ prev) :
    ∃ s, run (check scope identifier limit windowSeconds) (Checked.start counters)
        (worstTimes (windowSeconds : ℚ) upTo early prev curr).reverse = some s ∧
      Profile (windowSeconds : ℚ) s.times upTo early prev curr ∧
      (s.burst windowSeconds upTo : ℤ) =
        worstBurst limit early prev curr (msFraction windowSeconds upTo) := by
  have window := windowSeconds_cast positive
  obtain ⟨s, reached, times, -⟩ := run_of_clocked limit positive fresh
    (worstTimes (windowSeconds : ℚ) upTo early prev curr) (worstTimes_clocked window after)
  refine ⟨s, reached, ?_, ?_⟩
  · rw [times]
    exact worstTimes_profile window fewer
  · rw [burst_eq positive fresh _ s reached, times]
    exact admittedWithin_worst window fewer

include positive in
/-- In the first window nothing came before. -/
theorem burst_le_limit (nonneg : 0 ≤ limit) (fresh : Fresh scope identifier counters)
    (calls : List ℚ) (s : Checked)
    (reached : run (check scope identifier limit windowSeconds) (Checked.start counters) calls =
      some s) (first : upTo < windowSeconds) : (s.burst windowSeconds upTo : ℤ) ≤ limit := by
  have window := windowSeconds_cast positive
  have clocked := (follows_of_run positive fresh calls s reached).clocked.tail
  have none : ∀ p : ℚ → Prop, ∀ _ : DecidablePred p,
      s.times.countP (fun t => slot (windowSeconds : ℚ) t = slot (windowSeconds : ℚ) upTo - 1 ∧ p t)
        = 0 := by
    intro p _
    rw [List.countP_eq_zero]
    intro t member
    have begun : 0 ≤ slot (windowSeconds : ℚ) t :=
      Int.floor_nonneg.mpr (div_nonneg (clocked.nonneg t member) window.le)
    have ended : slot (windowSeconds : ℚ) upTo < 1 := by
      rw [slot, Int.floor_lt]
      exact_mod_cast (div_lt_one window).mpr first
    simp only [decide_eq_true_eq, not_and]
    intro same
    omega
  have profile : Profile (windowSeconds : ℚ) s.times upTo 0 0
      (s.times.countP fun t => slot (windowSeconds : ℚ) t = slot (windowSeconds : ℚ) upTo ∧
        t ≤ upTo) := by
    refine ⟨none (· ≤ upTo - windowSeconds) inferInstance, ?_, rfl⟩
    simpa [made] using none (fun _ => True) inferInstance
  have within := burst_le positive fresh calls s reached 0 0 _ profile
  rw [worstBurst, allowance_zero] at within
  omega

/-- Up to the middle of a window the documented bound holds of every run. -/
theorem burst_le_documented_of_half (limitPositive : 1 ≤ limit) (windowPositive : 1 ≤ windowSeconds)
    (fresh : Fresh scope identifier counters) (nonneg : 0 ≤ upTo)
    (half : Int.fract (upTo / windowSeconds) ≤ 1 / 2) (calls : List ℚ) (s : Checked)
    (reached : run (check scope identifier limit windowSeconds) (Checked.start counters) calls =
      some s) : (s.burst windowSeconds upTo : ℤ) ≤ documentedBurst limit windowSeconds upTo := by
  have measures := msFraction_measures windowPositive
  have within : (s.burst windowSeconds upTo : ℤ) ≤ _ :=
    burst_le windowPositive fresh calls s reached _ _ _ ⟨rfl, rfl, rfl⟩
  have worst := worstBurst_le limit (by omega) (measures.fractionNonneg upTo nonneg)
    (measures.fractionLeOne upTo nonneg)
    (s.times.countP fun t => slot (windowSeconds : ℚ) t = slot (windowSeconds : ℚ) upTo - 1 ∧
      t ≤ upTo - windowSeconds)
    (made (windowSeconds : ℚ) s.times (slot (windowSeconds : ℚ) upTo - 1))
    (s.times.countP fun t => slot (windowSeconds : ℚ) t = slot (windowSeconds : ℚ) upTo ∧
      t ≤ upTo)
  apply (within.trans worst).trans
  have remains : (limit : ℚ) * msFraction windowSeconds upTo ≤
      limit * (1 - Int.fract (upTo / windowSeconds)) := by
    apply mul_le_mul_of_nonneg_left _ (by exact_mod_cast (by omega : 0 ≤ limit))
    linarith [msFraction_le_fract windowPositive upTo]
  have limited : (limit + ⌊(limit : ℚ) * msFraction windowSeconds upTo⌋ : ℚ) ≤
      (limit : ℚ) * (1 + (1 - Int.fract (upTo / windowSeconds))) := by
    linarith [Int.floor_le ((limit : ℚ) * msFraction windowSeconds upTo)]
  exact_mod_cast limited.trans (Int.le_ceil _)

end Burst

end CortexGateway.RateLimiting
