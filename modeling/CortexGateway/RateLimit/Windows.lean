import CortexGateway.Lib.Run
import CortexGateway.Lib.SlidingWindow
import CortexGateway.RateLimit.Limiter

/-! # What a scope admits

Calls of `_check_scope` for one scope and identifier, on a Redis that is up and
on a clock that never goes back.  `Tracks` is what Redis holds after them: one
counter for each aligned window, alive as long as it is read.  The limiter then
decides as the two-slot sliding counter does. -/
set_option autoImplicit false
namespace CortexGateway.RateLimiting
open SlidingWindow Transition

/-! ## Aligned windows -/

/-- The elapsed fraction of the aligned window of `t`, to the millisecond. -/
def msFraction (windowSeconds : ℤ) (t : ℚ) : ℚ :=
  ⌊(t - slot (windowSeconds : ℚ) t * windowSeconds) * 1000⌋ / 1000 / windowSeconds

section Windows
variable {windowSeconds : ℤ} (positive : 1 ≤ windowSeconds)

include positive in
theorem windowSeconds_cast : (0 : ℚ) < windowSeconds := by
  exact_mod_cast (by omega : 0 < windowSeconds)

include positive in
theorem windowStart_eq (t : ℚ) (nonneg : 0 ≤ t) :
    windowStart windowSeconds t = slot (windowSeconds : ℚ) t * windowSeconds := by
  have whole : 0 ≤ windowSeconds := by omega
  rw [windowStart, truncate, if_pos nonneg, Int.fdiv_eq_ediv_of_nonneg _ whole, slot,
    Int.floor_div_cast_of_nonneg whole]

include positive in
theorem elapsedFraction_eq (t : ℚ) (nonneg : 0 ≤ t) :
    elapsedFraction (elapsedMs windowSeconds t) windowSeconds = msFraction windowSeconds t := by
  have begun := ((slot_eq_iff (windowSeconds_cast positive) t _).mp rfl).1
  have elapsed : 0 ≤ (t - slot (windowSeconds : ℚ) t * windowSeconds) * 1000 := by linarith
  rw [elapsedFraction, elapsedMs, windowStart_eq positive t nonneg, truncate]
  push_cast
  rw [if_pos elapsed, msFraction]

include positive in
theorem msFraction_measures : Measures (windowSeconds : ℚ) (msFraction windowSeconds) := by
  have window := windowSeconds_cast positive
  refine ⟨window, ?_, ?_, ?_⟩
  · intro t _
    have begun := ((slot_eq_iff window t _).mp rfl).1
    have elapsed : 0 ≤ (t - slot (windowSeconds : ℚ) t * windowSeconds) * 1000 := by linarith
    have floors := Int.cast_nonneg (R := ℚ) (Int.floor_nonneg.mpr elapsed)
    exact div_nonneg (div_nonneg floors (by norm_num)) window.le
  · intro t _
    have ends := ((slot_eq_iff window t _).mp rfl).2
    have below := Int.floor_le ((t - slot (windowSeconds : ℚ) t * windowSeconds) * 1000)
    rw [msFraction, div_le_one window]
    linarith
  · intro s t _ same le
    have later : (s - slot (windowSeconds : ℚ) s * windowSeconds) * 1000 ≤
        (t - slot (windowSeconds : ℚ) t * windowSeconds) * 1000 := by
      rw [same]
      linarith
    have floors := Int.cast_mono (R := ℚ) (Int.floor_le_floor later)
    unfold msFraction
    gcongr

end Windows

theorem counterKey_injective (scope identifier : String) :
    Function.Injective (counterKey scope identifier) := by
  intro first second same
  have starts : toString first = toString second := by
    simpa [counterKey] using same
  exact Int.repr_injective starts

/-! ## What Redis holds -/

section Tracks
variable (scope identifier : String) (limit windowSeconds : ℤ)

/-- The counter of an aligned window. -/
def windowKey (k : ℤ) : String := counterKey scope identifier (k * windowSeconds)

/-- After requests at these times every window that had any has its count, and
it does not expire before the next window is over. -/
def Tracks (counters : Counters) (times : List ℚ) : Prop :=
  ∀ k : ℤ, if made (windowSeconds : ℚ) times k = 0 then
      counters (windowKey scope identifier windowSeconds k) = none
    else ∃ expiresAt : ℚ, (k + 2) * windowSeconds ≤ expiresAt ∧
      counters (windowKey scope identifier windowSeconds k) =
        some ⟨made (windowSeconds : ℚ) times k, some expiresAt⟩

variable {scope identifier limit windowSeconds} {counters : Counters} {times : List ℚ} {t : ℚ}
variable (positive : 1 ≤ windowSeconds)

include positive in
theorem windowKey_injective : Function.Injective (windowKey scope identifier windowSeconds) := by
  intro first second same
  exact Int.eq_of_mul_eq_mul_right (by omega) (counterKey_injective scope identifier same)

variable (scope identifier limit) in
include positive in
theorem scriptCall_keys (nonneg : 0 ≤ t) :
    (scriptCall scope identifier limit windowSeconds t).currKey =
        windowKey scope identifier windowSeconds (slot (windowSeconds : ℚ) t) ∧
      (scriptCall scope identifier limit windowSeconds t).prevKey =
        windowKey scope identifier windowSeconds (slot (windowSeconds : ℚ) t - 1) := by
  simp only [scriptCall, windowStart_eq positive t nonneg, windowKey, sub_mul, one_mul, and_self]

theorem Tracks.find (tracks : Tracks scope identifier windowSeconds counters times) (k : ℤ)
    (alive : t < (k + 2) * windowSeconds) :
    counters.find t (windowKey scope identifier windowSeconds k) =
      counters (windowKey scope identifier windowSeconds k) := by
  have held := tracks k
  split_ifs at held with none
  · rw [Counters.find, held, Option.filter_none]
  · obtain ⟨expiresAt, late, found⟩ := held
    rw [Counters.find, found, Option.filter_some]
    simp [alive.trans_le late]

theorem Tracks.value (tracks : Tracks scope identifier windowSeconds counters times) (k : ℤ)
    (alive : t < (k + 2) * windowSeconds) :
    counters.value t (windowKey scope identifier windowSeconds k) =
      made (windowSeconds : ℚ) times k := by
  rw [Counters.value, tracks.find k alive]
  have held := tracks k
  split_ifs at held with none
  · rw [held, none]
    rfl
  · obtain ⟨expiresAt, -, found⟩ := held
    rw [found]
    rfl

theorem Tracks.update (tracks : Tracks scope identifier windowSeconds counters times)
    (key : String) (written : Option Counter)
    (other : ∀ k, windowKey scope identifier windowSeconds k ≠ key) :
    Tracks scope identifier windowSeconds (Function.update counters key written) times := by
  intro k
  rw [Function.update_of_ne (other k)]
  exact tracks k

include positive in
theorem slot_alive (t : ℚ) : t < (slot (windowSeconds : ℚ) t + 2) * windowSeconds := by
  have window := windowSeconds_cast positive
  obtain ⟨-, ends⟩ := (slot_eq_iff window t _).mp rfl
  linarith

variable (limit) in
include positive in
theorem Tracks.counted_first (tracks : Tracks scope identifier windowSeconds counters times)
    (nonneg : 0 ≤ t) (none : made (windowSeconds : ℚ) times (slot (windowSeconds : ℚ) t) = 0) :
    (scriptCall scope identifier limit windowSeconds t).count t counters =
      Function.update counters (windowKey scope identifier windowSeconds (slot (windowSeconds : ℚ) t))
        (some ⟨1, some (t + windowSeconds * 2)⟩) := by
  have alive := slot_alive positive t
  have value := tracks.value (slot (windowSeconds : ℚ) t) alive
  have found := tracks.find (slot (windowSeconds : ℚ) t) alive
  have held := tracks (slot (windowSeconds : ℚ) t)
  rw [if_pos none] at held
  simp only [ScriptCall.count, (scriptCall_keys scope identifier limit positive nonneg).1,
    Counters.incr, value, found]
  simp [held, none, Counters.value, Counters.find, Counters.expire, scriptCall, Option.filter_some]

variable (limit) in
include positive in
theorem Tracks.counted_again (tracks : Tracks scope identifier windowSeconds counters times)
    (nonneg : 0 ≤ t) {expiresAt : ℚ}
    (late : (slot (windowSeconds : ℚ) t + 2) * windowSeconds ≤ expiresAt)
    (some : made (windowSeconds : ℚ) times (slot (windowSeconds : ℚ) t) ≠ 0)
    (holds : counters (windowKey scope identifier windowSeconds (slot (windowSeconds : ℚ) t)) =
      .some ⟨made (windowSeconds : ℚ) times (slot (windowSeconds : ℚ) t), .some expiresAt⟩) :
    (scriptCall scope identifier limit windowSeconds t).count t counters =
      Function.update counters (windowKey scope identifier windowSeconds (slot (windowSeconds : ℚ) t))
        (.some ⟨made (windowSeconds : ℚ) times (slot (windowSeconds : ℚ) t) + 1,
          .some expiresAt⟩) := by
  have alive := slot_alive positive t
  have value := tracks.value (slot (windowSeconds : ℚ) t) alive
  have found := tracks.find (slot (windowSeconds : ℚ) t) alive
  have unexpired : t < expiresAt := alive.trans_le late
  simp only [ScriptCall.count, (scriptCall_keys scope identifier limit positive nonneg).1,
    Counters.incr, value, found]
  simp [holds, some, Counters.value, Counters.find, Option.filter_some, unexpired]

variable (limit) in
include positive in
theorem Tracks.counted (tracks : Tracks scope identifier windowSeconds counters times)
    (nonneg : 0 ≤ t) :
    ∃ expiresAt : ℚ, (slot (windowSeconds : ℚ) t + 2) * windowSeconds ≤ expiresAt ∧
      (scriptCall scope identifier limit windowSeconds t).count t counters =
        Function.update counters
          (windowKey scope identifier windowSeconds (slot (windowSeconds : ℚ) t))
          (some ⟨made (windowSeconds : ℚ) times (slot (windowSeconds : ℚ) t) + 1,
            some expiresAt⟩) := by
  by_cases none : made (windowSeconds : ℚ) times (slot (windowSeconds : ℚ) t) = 0
  · obtain ⟨begun, -⟩ := (slot_eq_iff (windowSeconds_cast positive) t _).mp rfl
    refine ⟨t + windowSeconds * 2, by linarith, ?_⟩
    rw [tracks.counted_first limit positive nonneg none, none]
  · have held := tracks (slot (windowSeconds : ℚ) t)
    rw [if_neg none] at held
    obtain ⟨expiresAt, late, holds⟩ := held
    exact ⟨expiresAt, late, tracks.counted_again limit positive nonneg late none holds⟩

variable (limit) in
include positive in
theorem Tracks.count (tracks : Tracks scope identifier windowSeconds counters times)
    (nonneg : 0 ≤ t) :
    Tracks scope identifier windowSeconds
      ((scriptCall scope identifier limit windowSeconds t).count t counters) (t :: times) := by
  obtain ⟨expiresAt, late, counted⟩ := tracks.counted limit positive nonneg
  intro k
  rw [counted, made_cons]
  by_cases here : slot (windowSeconds : ℚ) t = k
  · subst here
    rw [if_pos rfl, if_neg (Nat.succ_ne_zero _), Function.update_self]
    exact ⟨expiresAt, late, rfl⟩
  · rw [if_neg here, Function.update_of_ne fun same => here (windowKey_injective positive same).symm]
    exact tracks k

/-- What the second half of the script reads. -/
structure Reads (call : ScriptCall) (counters : Counters) (t : ℚ) (prev curr : ℕ) : Prop where
  prevCount : (call.count t counters).value t call.prevKey = prev
  currCount : (call.count t counters).value t call.currKey = curr

variable (limit) in
include positive in
theorem Tracks.reads (tracks : Tracks scope identifier windowSeconds counters times)
    (nonneg : 0 ≤ t) :
    Reads (scriptCall scope identifier limit windowSeconds t) counters t
      (made (windowSeconds : ℚ) times (slot (windowSeconds : ℚ) t - 1))
      (made (windowSeconds : ℚ) times (slot (windowSeconds : ℚ) t) + 1) := by
  have window := windowSeconds_cast positive
  obtain ⟨begun, ends⟩ := (slot_eq_iff window t _).mp rfl
  have after := tracks.count limit positive nonneg
  obtain ⟨currKey, prevKey⟩ := scriptCall_keys scope identifier limit positive nonneg
  constructor
  · rw [prevKey, after.value _ (by push_cast; linarith), made_cons, if_neg (by omega)]
  · rw [currKey, after.value _ (by linarith), made_cons, if_pos rfl]

/-! ## One call -/

variable (limit) in
/-- The result of a call at `t`, given what the script reads. -/
theorem run_checkScope (tracks : Tracks scope identifier windowSeconds counters times)
    (positive : 1 ≤ windowSeconds) (nonneg : 0 ≤ t) :
    ∃ result, (checkScope (some luaScript) scope identifier limit windowSeconds t).run counters =
        .ok result ((scriptCall scope identifier limit windowSeconds t).count t counters) ∧
      result.currentCount = ⌈(made (windowSeconds : ℚ) times (slot (windowSeconds : ℚ) t - 1) : ℚ) *
        (1 - msFraction windowSeconds t) +
          (made (windowSeconds : ℚ) times (slot (windowSeconds : ℚ) t) + 1 : ℕ)⌉ ∧
      result.allowed = decide (result.currentCount ≤ limit) := by
  have reads := tracks.reads limit positive nonneg
  refine ⟨resultOf scope limit windowSeconds
    ((scriptCall scope identifier limit windowSeconds t).reply t
      ((scriptCall scope identifier limit windowSeconds t).count t counters)), ?_, ?_, rfl⟩
  · simp only [checkScope, if_neg (by omega : windowSeconds ≠ 0)]
    rfl
  · simp only [resultOf, ScriptCall.reply, reads.prevCount, reads.currCount, effectiveCount]
    rw [← elapsedFraction_eq positive t nonneg]
    rfl

end Tracks

/-! ## Sequences of calls -/

/-- A call of `_check_scope` and what it returned. -/
structure Check where
  time : ℚ
  result : ScopeResult

/-- Redis, the shared clock and the calls so far, latest first. -/
structure Checked where
  counters : Counters
  now : ℚ
  log : List Check

namespace Checked

def start (counters : Counters) : Checked := ⟨counters, 0, []⟩

def times (s : Checked) : List ℚ := s.log.map Check.time

def allowedTimes (s : Checked) : List ℚ :=
  (s.log.filter fun check => check.result.allowed).map Check.time

theorem allowedTimes_cons (counters : Counters) (now : ℚ) (check : Check) (log : List Check) :
    (⟨counters, now, check :: log⟩ : Checked).allowedTimes =
      if check.result.allowed = true then
        check.time :: (⟨counters, now, log⟩ : Checked).allowedTimes
      else (⟨counters, now, log⟩ : Checked).allowedTimes := by
  simp only [allowedTimes, List.filter_cons]
  split_ifs <;> rfl

/-- The admitted calls of an aligned window that satisfy `p`. -/
def admitted (s : Checked) (windowSeconds k : ℤ) (p : ℚ → Prop) [DecidablePred p] : ℕ :=
  s.allowedTimes.countP fun t => slot (windowSeconds : ℚ) t = k ∧ p t

end Checked

section Calls
variable (scope identifier : String) (limit windowSeconds : ℤ)

def check (s : Checked) (t : ℚ) : Option Checked :=
  if s.now ≤ t then
    match (checkScope (some luaScript) scope identifier limit windowSeconds t).run s.counters with
    | .ok result counters => some ⟨counters, t, ⟨t, result⟩ :: s.log⟩
    | .error .. => none
  else none

/-- No window of the scope has a counter yet. -/
def Fresh (counters : Counters) : Prop :=
  ∀ start, counters (counterKey scope identifier start) = none

/-- Redis is up to date, and the calls were decided as the sliding counter does. -/
structure Follows (s : Checked) : Prop where
  tracks : Tracks scope identifier windowSeconds s.counters s.times
  clocked : Clocked (s.now :: s.times)
  decided : s.allowedTimes =
    admittedTimes (windowSeconds : ℚ) (msFraction windowSeconds) limit s.times

/-- What a call at `t` reads, reports and decides. -/
structure Decides (s : Checked) (t : ℚ) (prev curr : ℕ) : Prop where
  reads : Reads (scriptCall scope identifier limit windowSeconds t) s.counters t prev curr
  reports : ∃ result counters,
    (checkScope (some luaScript) scope identifier limit windowSeconds t).run s.counters =
        .ok result counters ∧
      result.currentCount = ⌈(prev : ℚ) * (1 - msFraction windowSeconds t) + curr⌉ ∧
      (result.allowed = true ↔ result.currentCount ≤ limit)

variable {scope identifier limit windowSeconds} {counters : Counters}
variable (positive : 1 ≤ windowSeconds)

theorem follows_start (fresh : Fresh scope identifier counters) :
    Follows scope identifier limit windowSeconds (Checked.start counters) :=
  ⟨fun k => fresh (k * windowSeconds), ⟨List.pairwise_singleton _ _, by simp [Checked.start,
    Checked.times]⟩, rfl⟩

include positive in
theorem check_eq (s : Checked) (t : ℚ) (follows : Follows scope identifier limit windowSeconds s)
    (later : s.now ≤ t) : ∃ next, check scope identifier limit windowSeconds s t = some next ∧
      next.now = t ∧ next.times = t :: s.times := by
  have nonneg : 0 ≤ t :=
    (follows.clocked.nonneg s.now (List.mem_cons_self ..)).trans later
  obtain ⟨result, ran, -, -⟩ := run_checkScope limit follows.tracks positive nonneg
  have stepped : check scope identifier limit windowSeconds s t =
      some ⟨(scriptCall scope identifier limit windowSeconds t).count t s.counters, t,
        ⟨t, result⟩ :: s.log⟩ := by
    rw [check, if_pos later, ran]
  exact ⟨_, stepped, rfl, rfl⟩

include positive in
theorem follows_check (s next : Checked) (t : ℚ)
    (follows : Follows scope identifier limit windowSeconds s)
    (stepped : check scope identifier limit windowSeconds s t = some next) :
    Follows scope identifier limit windowSeconds next := by
  obtain ⟨tracks, clocked, decided⟩ := follows
  unfold check at stepped
  split_ifs at stepped with later
  have nonneg : 0 ≤ t := (clocked.nonneg s.now (List.mem_cons_self ..)).trans later
  obtain ⟨result, ran, reported, allowed⟩ := run_checkScope limit tracks positive nonneg
  rw [ran] at stepped
  cases stepped
  refine ⟨tracks.count limit positive nonneg, (clocked.cons later).twice, ?_⟩
  have admits : result.allowed = true ↔
      Admits (windowSeconds : ℚ) (msFraction windowSeconds) limit s.times t := by
    rw [allowed, decide_eq_true_eq, reported, Int.ceil_le]
    exact Iff.rfl
  rw [Checked.allowedTimes_cons]
  change (if result.allowed = true then t :: s.allowedTimes else s.allowedTimes) = _
  rw [decided]
  simp only [Checked.times, List.map_cons, admittedTimes]
  exact if_congr admits rfl rfl

include positive in
theorem follows_of_run (fresh : Fresh scope identifier counters) (calls : List ℚ) (s : Checked)
    (reached : run (check scope identifier limit windowSeconds) (Checked.start counters) calls =
      some s) : Follows scope identifier limit windowSeconds s :=
  invariant_of_steps (check scope identifier limit windowSeconds) _ (fun _ _ => True)
    (fun before t next follows _ stepped => follows_check positive before next t follows stepped)
    _ (follows_start fresh) calls (fun _ _ _ _ _ _ _ => trivial) s reached

variable (limit) in
include positive in
theorem run_of_clocked (fresh : Fresh scope identifier counters) (times : List ℚ)
    (clocked : Clocked times) :
    ∃ s, run (check scope identifier limit windowSeconds) (Checked.start counters) times.reverse =
      some s ∧ s.times = times ∧ s.now = times.headD 0 := by
  induction times with
  | nil => exact ⟨_, rfl, rfl, rfl⟩
  | cons t earlier ih =>
      obtain ⟨s, reached, same, now⟩ := ih clocked.tail
      have follows := follows_of_run positive fresh _ s reached
      have later : s.now ≤ t := by
        rw [now]
        cases earlier with
        | nil => exact clocked.nonneg t (List.mem_cons_self ..)
        | cons before rest => exact clocked.le_head before (List.mem_cons_self ..)
      obtain ⟨next, stepped, advanced, called⟩ := check_eq positive s t follows later
      refine ⟨next, ?_, by rw [called, same], advanced⟩
      rw [List.reverse_cons, run_snoc _ _ s _ _ reached, stepped]

end Calls

end CortexGateway.RateLimiting
