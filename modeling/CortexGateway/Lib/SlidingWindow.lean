import Mathlib

/-! # Two-slot sliding counters

Time is cut into slots of one length.  A request counts with every request of
its slot so far, admitted or not, and with those of the slot before weighted by
what is left of the slot, as far as `fraction` measures it; it is admitted if
this does not exceed the limit.  Lists of times are latest first. -/
set_option autoImplicit false
namespace SlidingWindow

variable {K : Type} [Field K] [LinearOrder K] [IsStrictOrderedRing K] [FloorRing K]
variable (window : K) (fraction : K → K) (limit : ℤ)

def slot (t : K) : ℤ := ⌊t / window⌋

def made (times : List K) (k : ℤ) : ℕ := times.countP fun t => slot window t = k

/-- The count a request at `t` is judged by, itself included. -/
def effective (earlier : List K) (t : K) : K :=
  made window earlier (slot window t - 1) * (1 - fraction t) +
    (made window earlier (slot window t) + 1 : ℕ)

def Admits (earlier : List K) (t : K) : Prop := effective window fraction earlier t ≤ limit

instance (earlier : List K) (t : K) : Decidable (Admits window fraction limit earlier t) :=
  inferInstanceAs (Decidable (effective window fraction earlier t ≤ limit))

def admittedTimes : List K → List K
  | [] => []
  | t :: earlier =>
      if Admits window fraction limit earlier t then t :: admittedTimes earlier
      else admittedTimes earlier

/-- Times on a clock that starts at zero and never goes back. -/
structure Clocked (times : List K) : Prop where
  ordered : times.Pairwise (· ≥ ·)
  nonneg : ∀ t ∈ times, 0 ≤ t

/-- The measured fraction of a slot that is over grows with the time. -/
structure Measures : Prop where
  windowPositive : 0 < window
  fractionNonneg : ∀ t, 0 ≤ t → 0 ≤ fraction t
  fractionLeOne : ∀ t, 0 ≤ t → fraction t ≤ 1
  monotone : ∀ s t, 0 ≤ s → slot window s = slot window t → s ≤ t → fraction s ≤ fraction t

variable {window fraction limit}

omit [IsStrictOrderedRing K] [FloorRing K] in
theorem Clocked.tail {t : K} {earlier : List K} (clocked : Clocked (t :: earlier)) :
    Clocked earlier :=
  ⟨clocked.ordered.of_cons, fun s member => clocked.nonneg s (List.mem_cons_of_mem t member)⟩

omit [IsStrictOrderedRing K] [FloorRing K] in
theorem Clocked.le_head {t : K} {earlier : List K} (clocked : Clocked (t :: earlier)) :
    ∀ s ∈ earlier, s ≤ t := fun _ member =>
  List.rel_of_pairwise_cons clocked.ordered member

omit [IsStrictOrderedRing K] [FloorRing K] in
theorem Clocked.cons {t now : K} {earlier : List K} (clocked : Clocked (now :: earlier))
    (later : now ≤ t) : Clocked (t :: earlier) := by
  have nonneg : 0 ≤ t := (clocked.nonneg now (List.mem_cons_self ..)).trans later
  refine ⟨List.pairwise_cons.mpr ⟨fun s member => (clocked.le_head s member).trans later,
    clocked.ordered.of_cons⟩, ?_⟩
  intro s member
  rcases List.mem_cons.mp member with rfl | before
  · exact nonneg
  · exact clocked.nonneg s (List.mem_cons_of_mem _ before)

omit [IsStrictOrderedRing K] [FloorRing K] in
theorem Clocked.twice {t : K} {earlier : List K} (clocked : Clocked (t :: earlier)) :
    Clocked (t :: t :: earlier) := by
  refine ⟨List.pairwise_cons.mpr ⟨fun s member => ?_, clocked.ordered⟩, ?_⟩
  · rcases List.mem_cons.mp member with rfl | before
    · exact le_rfl
    · exact clocked.le_head s before
  · intro s member
    rcases List.mem_cons.mp member with rfl | before
    · exact clocked.nonneg _ (List.mem_cons_self ..)
    · exact clocked.nonneg s before

theorem slot_mono (positive : 0 < window) {s t : K} (le : s ≤ t) :
    slot window s ≤ slot window t :=
  Int.floor_le_floor ((div_le_div_iff_of_pos_right positive).mpr le)

omit [IsStrictOrderedRing K] in
@[simp] theorem made_nil (k : ℤ) : made window ([] : List K) k = 0 := rfl

omit [IsStrictOrderedRing K] in
theorem made_cons (t : K) (earlier : List K) (k : ℤ) :
    made window (t :: earlier) k =
      if slot window t = k then made window earlier k + 1 else made window earlier k := by
  by_cases here : slot window t = k <;> simp [made, here]

/-- Nothing was made yet in a slot the clock has not reached. -/
theorem countP_later {t : K} {earlier : List K} (positive : 0 < window)
    (clocked : Clocked (t :: earlier)) {k : ℤ} (later : slot window t < k) (p : K → Prop)
    [DecidablePred p] : earlier.countP (fun s => slot window s = k ∧ p s) = 0 := by
  rw [List.countP_eq_zero]
  intro s member
  have reached := slot_mono positive (clocked.le_head s member)
  simp only [decide_eq_true_eq, not_and]
  intro same
  omega

omit [IsStrictOrderedRing K] in
theorem admittedTimes_sublist (times : List K) :
    (admittedTimes window fraction limit times).Sublist times := by
  induction times with
  | nil => exact List.Sublist.refl []
  | cons t earlier ih =>
      simp only [admittedTimes]
      split_ifs
      · exact ih.cons_cons t
      · exact ih.cons t

/-- The admitted requests of slot `k` that satisfy `p`. -/
def admittedIn (window : K) (fraction : K → K) (limit : ℤ) (times : List K) (k : ℤ)
    (p : K → Prop) [DecidablePred p] : ℕ :=
  (admittedTimes window fraction limit times).countP fun t => slot window t = k ∧ p t

omit [IsStrictOrderedRing K] in
@[simp] theorem admittedIn_nil (k : ℤ) (p : K → Prop) [DecidablePred p] :
    admittedIn window fraction limit [] k p = 0 := rfl

omit [IsStrictOrderedRing K] in
theorem admittedIn_le (times : List K) (k : ℤ) (p : K → Prop) [DecidablePred p] :
    admittedIn window fraction limit times k p ≤
      times.countP fun t => slot window t = k ∧ p t :=
  (admittedTimes_sublist times).countP_le

omit [IsStrictOrderedRing K] in
theorem admittedIn_le_made (times : List K) (k : ℤ) (p : K → Prop) [DecidablePred p] :
    admittedIn window fraction limit times k p ≤ made window times k := by
  apply (admittedIn_le times k p).trans
  apply List.countP_mono_left
  intro t _ both
  simp only [decide_eq_true_eq] at both ⊢
  exact both.1

omit [IsStrictOrderedRing K] in
theorem admittedIn_cons (t : K) (earlier : List K) (k : ℤ) (p : K → Prop) [DecidablePred p] :
    admittedIn window fraction limit (t :: earlier) k p =
      if Admits window fraction limit earlier t ∧ slot window t = k ∧ p t then
        admittedIn window fraction limit earlier k p + 1
      else admittedIn window fraction limit earlier k p := by
  unfold admittedIn
  by_cases admits : Admits window fraction limit earlier t
  · by_cases here : slot window t = k ∧ p t
    · simp [admittedTimes, admits, here]
    · simp [admittedTimes, admits, here]
  · simp [admittedTimes, admits]

theorem made_lt_of_admits (measures : Measures window fraction) {earlier : List K} {t : K}
    (nonneg : 0 ≤ t) (admits : Admits window fraction limit earlier t) :
    (made window earlier (slot window t) : ℤ) + 1 ≤ limit := by
  have weight : 0 ≤ (made window earlier (slot window t - 1) : K) * (1 - fraction t) :=
    mul_nonneg (Nat.cast_nonneg _) (sub_nonneg.mpr (measures.fractionLeOne t nonneg))
  have counted : ((made window earlier (slot window t) + 1 : ℕ) : K) ≤ limit :=
    le_trans (le_add_of_nonneg_left weight) admits
  exact_mod_cast counted

/-- Of the requests of a slot after `y` only those are admitted that come
within the limit, and the ones up to `y` were counted before them. -/
theorem late_le (measures : Measures window fraction) (k : ℤ) (y : K) (times : List K)
    (clocked : Clocked times) :
    (admittedIn window fraction limit times k (y < ·) : ℤ) ≤
      max 0 (min (made window times k : ℤ) limit -
        (times.countP fun t => slot window t = k ∧ t ≤ y : ℕ)) := by
  induction times with
  | nil => simp
  | cons t earlier ih =>
      have before := ih clocked.tail
      have early : earlier.countP (fun s => decide (slot window s = k ∧ s ≤ y)) ≤
          made window earlier k := by
        apply List.countP_mono_left
        intro s _ both
        simp only [decide_eq_true_eq] at both ⊢
        exact both.1
      rw [admittedIn_cons, made_cons, List.countP_cons]
      by_cases here : slot window t = k
      · by_cases late : y < t
        · have admitted : Admits window fraction limit earlier t →
              (made window earlier k : ℤ) + 1 ≤ limit := by
            intro admits
            have counted := made_lt_of_admits measures (clocked.nonneg t (List.mem_cons_self ..))
              admits
            rwa [here] at counted
          simp only [here, late, not_le.mpr late, and_true, and_false, decide_false,
            if_true, if_false, Bool.false_eq_true, add_zero]
          split_ifs with admits
          · have room := admitted admits
            push_cast
            omega
          · push_cast
            omega
        · -- every earlier request of the slot came by `y` as well
          have none : admittedIn window fraction limit earlier k (y < ·) = 0 := by
            apply Nat.le_zero.mp
            apply (admittedIn_le earlier k _).trans
            rw [Nat.le_zero, List.countP_eq_zero]
            intro s member
            have by_t := clocked.le_head s member
            simp only [decide_eq_true_eq, not_and, not_lt]
            exact fun _ => by_t.trans (not_lt.mp late)
          simp only [here, late, none, and_false, if_false]
          exact_mod_cast le_max_left _ _
      · simp only [here, false_and, and_false, decide_false, if_false, Bool.false_eq_true, add_zero]
        exact before

theorem admittedIn_le_limit (measures : Measures window fraction) (nonneg : 0 ≤ limit) (k : ℤ)
    (p : K → Prop) [DecidablePred p] (times : List K) (clocked : Clocked times) :
    (admittedIn window fraction limit times k p : ℤ) ≤ limit := by
  induction times with
  | nil => simpa using nonneg
  | cons t earlier ih =>
      rw [admittedIn_cons]
      split_ifs with admitted
      · have counted := made_lt_of_admits measures (clocked.nonneg t (List.mem_cons_self ..))
          admitted.1
        rw [admitted.2.1] at counted
        have within : admittedIn window fraction limit earlier k p ≤ made window earlier k :=
          admittedIn_le_made earlier k p
        push_cast
        omega
      · exact ih clocked.tail

/-- While the measured fraction is at most `f`, the admitted requests of a slot
fit beside the weighted ones of the slot before. -/
theorem head_fits (measures : Measures window fraction) (k : ℤ) (f : K) (p : K → Prop)
    [DecidablePred p] (upTo : ∀ t, 0 ≤ t → slot window t = k → p t → fraction t ≤ f)
    (times : List K) (clocked : Clocked times)
    (some : admittedIn window fraction limit times k p ≠ 0) :
    (made window times (k - 1) : K) * (1 - f) + admittedIn window fraction limit times k p ≤
      limit := by
  induction times with
  | nil => simp at some
  | cons t earlier ih =>
      have nonneg := clocked.nonneg t (List.mem_cons_self ..)
      rw [admittedIn_cons] at some ⊢
      rw [made_cons]
      by_cases admitted : Admits window fraction limit earlier t ∧ slot window t = k ∧ p t
      · obtain ⟨admits, here, within⟩ := admitted
        rw [if_neg (by omega : ¬ slot window t = k - 1), if_pos ⟨admits, here, within⟩]
        have counted : admittedIn window fraction limit earlier k p ≤ made window earlier k :=
          admittedIn_le_made earlier k p
        have judged : (made window earlier (k - 1) : K) * (1 - fraction t) +
            (made window earlier k + 1 : ℕ) ≤ limit := by
          simpa only [Admits, effective, here] using admits
        calc (made window earlier (k - 1) : K) * (1 - f) +
              (admittedIn window fraction limit earlier k p + 1 : ℕ)
            ≤ made window earlier (k - 1) * (1 - fraction t) +
              (made window earlier k + 1 : ℕ) := by
              apply add_le_add
              · apply mul_le_mul_of_nonneg_left _ (Nat.cast_nonneg _)
                linarith only [upTo t nonneg here within]
              · exact_mod_cast Nat.succ_le_succ counted
          _ ≤ limit := judged
      · rw [if_neg admitted] at some ⊢
        by_cases before : slot window t = k - 1
        · -- the slot `k` has not begun
          have later : slot window t < k := by omega
          have none := countP_later measures.windowPositive clocked later p
          have nothing : admittedIn window fraction limit earlier k p ≤ _ :=
            admittedIn_le earlier k p
          omega
        · rw [if_neg before]
          exact ih clocked.tail some

/-! ## Bursts across a boundary -/

/-- How many requests of a slot are admitted while the fraction is `f`. -/
def allowance (limit : ℤ) (prev : ℕ) (f : K) : ℤ := ⌊(limit : K) - prev * (1 - f)⌋

/-- Without requests in the slot before, the limit itself. -/
@[simp] theorem allowance_zero (f : K) : allowance limit 0 f = limit := by simp [allowance]

theorem admits_iff (earlier : List K) (t : K) :
    Admits window fraction limit earlier t ↔ (made window earlier (slot window t) : ℤ) + 1 ≤
      allowance limit (made window earlier (slot window t - 1)) (fraction t) := by
  rw [allowance, Int.le_floor, Admits, effective]
  push_cast
  constructor <;> intro h <;> linarith only [h]

/-- The admitted requests of the last window of time up to `upTo`. -/
def admittedWithin (window : K) (fraction : K → K) (limit : ℤ) (times : List K) (upTo : K) : ℕ :=
  (admittedTimes window fraction limit times).countP fun t => upTo - window < t ∧ t ≤ upTo

theorem slot_eq_iff (positive : 0 < window) (t : K) (k : ℤ) :
    slot window t = k ↔ k * window ≤ t ∧ t < (k + 1) * window := by
  rw [slot, Int.floor_eq_iff, le_div_iff₀ positive, div_lt_iff₀ positive]

/-- A window of time meets the slot it ends in and the slot before. -/
theorem admittedWithin_eq (positive : 0 < window) (times : List K) (upTo : K) :
    admittedWithin window fraction limit times upTo =
      admittedIn window fraction limit times (slot window upTo - 1) (upTo - window < ·) +
        admittedIn window fraction limit times (slot window upTo) (· ≤ upTo) := by
  obtain ⟨begun, unfinished⟩ := (slot_eq_iff positive upTo _).mp rfl
  unfold admittedWithin admittedIn
  induction admittedTimes window fraction limit times with
  | nil => rfl
  | cons t rest ih =>
      have before := slot_eq_iff positive t (slot window upTo - 1)
      have within := slot_eq_iff positive t (slot window upTo)
      push_cast at before
      rw [sub_add_cancel, sub_mul, one_mul] at before
      simp only [List.countP_cons, ih, before, within, decide_eq_true_eq]
      by_cases ends : t ≤ upTo
      · by_cases begins : upTo - window < t
        · by_cases here : slot window upTo * window ≤ t
          · have reached : t < (slot window upTo + 1) * window := ends.trans_lt unfinished
            simp [ends, begins, here, reached, not_lt.mpr here, add_assoc]
          · have near : slot window upTo * window - window ≤ t := by linarith
            simp [ends, begins, here, not_le.mp here, near, add_right_comm]
        · have far : ¬ slot window upTo * window ≤ t := by
            intro reached
            apply begins
            linarith
          simp [begins, far]
      · have beyond : ¬ t < slot window upTo * window := by
          intro earlier
          exact ends (earlier.le.trans begun)
        simp [ends, beyond]

/-- What the last window of time admits at most, when `prev` requests were made
in the slot before it ends, `early` of them too early for it, and `curr` in the
slot it ends in. -/
def worstBurst (limit : ℤ) (early prev curr : ℕ) (f : K) : ℤ :=
  max 0 (min (prev : ℤ) limit - early) + max 0 (min (curr : ℤ) (allowance limit prev f))

/-- The requests made around a window of time that ends at `upTo`. -/
structure Profile (window : K) (times : List K) (upTo : K) (early prev curr : ℕ) : Prop where
  early : times.countP (fun t => slot window t = slot window upTo - 1 ∧ t ≤ upTo - window) = early
  prev : made window times (slot window upTo - 1) = prev
  curr : times.countP (fun t => slot window t = slot window upTo ∧ t ≤ upTo) = curr

theorem admittedWithin_le (measures : Measures window fraction) (times : List K) (upTo : K)
    (clocked : Clocked times) (early prev curr : ℕ)
    (profile : Profile window times upTo early prev curr) :
    (admittedWithin window fraction limit times upTo : ℤ) ≤
      worstBurst limit early prev curr (fraction upTo) := by
  rw [admittedWithin_eq measures.windowPositive]
  have tail : (admittedIn window fraction limit times (slot window upTo - 1) (upTo - window < ·) :
      ℤ) ≤ _ := late_le measures (slot window upTo - 1) (upTo - window) times clocked
  have made_head : admittedIn window fraction limit times (slot window upTo) (· ≤ upTo) ≤ _ :=
    admittedIn_le times (slot window upTo) (· ≤ upTo)
  rw [profile.early, profile.prev] at tail
  rw [profile.curr] at made_head
  have head : (admittedIn window fraction limit times (slot window upTo) (· ≤ upTo) : ℤ) ≤
      max 0 (min (curr : ℤ) (allowance limit prev (fraction upTo))) := by
    by_cases none : admittedIn window fraction limit times (slot window upTo) (· ≤ upTo) = 0
    · rw [none]
      exact le_max_left _ _
    · have fits := head_fits measures (slot window upTo) (fraction upTo) (· ≤ upTo)
        (fun t nonneg same le => measures.monotone t upTo nonneg same le) times clocked none
      rw [profile.prev] at fits
      apply le_max_of_le_right
      apply le_min (by exact_mod_cast made_head)
      rw [allowance, Int.le_floor]
      push_cast
      linarith only [fits]
  unfold worstBurst
  push_cast
  exact add_le_add tail head

/-! ## The worst case -/

omit [IsStrictOrderedRing K] in
/-- `n` requests at one time. -/
theorem made_batch (n : ℕ) (t : K) (earlier : List K) (k : ℤ) :
    made window (List.replicate n t ++ earlier) k =
      made window earlier k + if slot window t = k then n else 0 := by
  induction n with
  | zero => simp
  | succ n ih =>
      rw [List.replicate_succ, List.cons_append, made_cons, ih]
      split_ifs <;> omega

variable (window fraction limit) in
theorem admittedIn_batch (n : ℕ) (t : K) (earlier : List K) (p : K → Prop) [DecidablePred p]
    (holds : p t) :
    (admittedIn window fraction limit (List.replicate n t ++ earlier) (slot window t) p : ℤ) =
      admittedIn window fraction limit earlier (slot window t) p +
        max 0 (min (made window earlier (slot window t) + n : ℤ)
          (allowance limit (made window earlier (slot window t - 1)) (fraction t)) -
            made window earlier (slot window t)) := by
  induction n with
  | zero => simp
  | succ n ih =>
      have judged : Admits window fraction limit (List.replicate n t ++ earlier) t ↔
          (made window earlier (slot window t) + n : ℤ) + 1 ≤
            allowance limit (made window earlier (slot window t - 1)) (fraction t) := by
        rw [admits_iff, made_batch, made_batch, if_pos rfl, if_neg (by omega), add_zero]
        push_cast
        exact Iff.rfl
      rw [List.replicate_succ, List.cons_append, admittedIn_cons]
      simp only [holds, and_true, judged]
      split_ifs with admits
      · push_cast
        omega
      · push_cast
        omega

omit [IsStrictOrderedRing K] in
theorem admittedIn_batch_other (n : ℕ) (t : K) (earlier : List K) (k : ℤ) (p : K → Prop)
    [DecidablePred p] (misses : ¬ (slot window t = k ∧ p t)) :
    admittedIn window fraction limit (List.replicate n t ++ earlier) k p =
      admittedIn window fraction limit earlier k p := by
  induction n with
  | zero => simp
  | succ n ih =>
      rw [List.replicate_succ, List.cons_append, admittedIn_cons, if_neg fun h => misses h.2, ih]

omit [IsStrictOrderedRing K] [FloorRing K] in
theorem Clocked.batch {earlier : List K} {t : K} (clocked : Clocked earlier) (n : ℕ)
    (nonneg : 0 ≤ t) (reached : ∀ s ∈ earlier, s ≤ t) :
    Clocked (List.replicate n t ++ earlier) where
  ordered := by
    rw [List.pairwise_append]
    refine ⟨List.pairwise_replicate.mpr (Or.inr le_rfl), clocked.ordered, ?_⟩
    intro s batched r member
    rw [List.eq_of_mem_replicate batched]
    exact reached r member
  nonneg := by
    intro s member
    rcases List.mem_append.mp member with batched | before
    · rw [List.eq_of_mem_replicate batched]
      exact nonneg
    · exact clocked.nonneg s before

/-- Requests at the start of a slot, late in it, and at `upTo` in the next. -/
def worstTimes (window upTo : K) (early prev curr : ℕ) : List K :=
  let boundary := slot window upTo * window
  List.replicate curr upTo ++
    (List.replicate (prev - early) ((upTo - window + boundary) / (2 : ℕ)) ++
      (List.replicate early (boundary - window) ++ []))

section Worst
variable {upTo : K} {early prev curr : ℕ}

/-- Where the three batches lie. -/
theorem worstTimes_slots (positive : 0 < window) (upTo : K) :
    slot window (slot window upTo * window - window) = slot window upTo - 1 ∧
      slot window ((upTo - window + slot window upTo * window) / 2) = slot window upTo - 1 ∧
      upTo - window < (upTo - window + slot window upTo * window) / 2 ∧
      slot window upTo * window - window ≤ upTo - window := by
  obtain ⟨begun, unfinished⟩ := (slot_eq_iff positive upTo _).mp rfl
  have reached : (slot window upTo + 1) * window = slot window upTo * window + window := by ring
  rw [reached] at unfinished
  refine ⟨?_, ?_, by linarith, by linarith⟩
  · rw [slot_eq_iff positive]
    push_cast
    constructor <;> linarith
  · rw [slot_eq_iff positive]
    push_cast
    constructor <;> linarith

theorem worstTimes_clocked (positive : 0 < window) (after : window ≤ upTo) :
    Clocked (worstTimes window upTo early prev curr) := by
  obtain ⟨-, -, late, begins⟩ := worstTimes_slots positive upTo
  obtain ⟨begun, -⟩ := (slot_eq_iff positive upTo _).mp rfl
  have first : (1 : K) ≤ slot window upTo := by
    exact_mod_cast Int.le_floor.mpr (by exact_mod_cast (one_le_div positive).mpr after)
  have start : 0 ≤ slot window upTo * window - window := by nlinarith
  have none : Clocked ([] : List K) := ⟨List.Pairwise.nil, by simp⟩
  refine Clocked.batch (Clocked.batch (none.batch early start (by simp)) _ (by linarith) ?_) _
    (by linarith) ?_
  · intro s member
    rw [List.append_nil] at member
    rw [List.eq_of_mem_replicate member]
    linarith
  · intro s member
    rw [List.append_nil, List.mem_append] at member
    rcases member with batched | batched
    · rw [List.eq_of_mem_replicate batched]
      linarith
    · rw [List.eq_of_mem_replicate batched]
      linarith

theorem worstTimes_profile (positive : 0 < window) (fewer : early ≤ prev) :
    Profile window (worstTimes window upTo early prev curr) upTo early prev curr := by
  obtain ⟨slotFirst, slotLate, late, begins⟩ := worstTimes_slots positive upTo
  have other : slot window upTo - 1 ≠ slot window upTo := by omega
  constructor
  · simp [worstTimes, List.countP_append, List.countP_replicate, slotFirst, slotLate, other.symm,
      not_le.mpr late, begins]
  · simp only [worstTimes, Nat.cast_ofNat, made_batch, slotFirst, slotLate, other.symm, if_true,
      if_false]
    simp [made]
    omega
  · simp [worstTimes, List.countP_append, List.countP_replicate, slotFirst, slotLate, other]

theorem admittedWithin_worst (positive : 0 < window) (fewer : early ≤ prev) :
    (admittedWithin window fraction limit (worstTimes window upTo early prev curr) upTo : ℤ) =
      worstBurst limit early prev curr (fraction upTo) := by
  obtain ⟨slotFirst, slotLate, late, begins⟩ := worstTimes_slots positive upTo
  have other : slot window upTo - 1 ≠ slot window upTo := by omega
  have earlier : slot window upTo - 1 ≠ slot window upTo - 1 - 1 := by omega
  rw [admittedWithin_eq positive, worstTimes]
  -- the late batch meets an empty slot before its own
  have tail := admittedIn_batch window fraction limit
    (prev - early) ((upTo - window + slot window upTo * window) / 2)
    (List.replicate early (slot window upTo * window - window) ++ []) (upTo - window < ·) late
  rw [slotLate, admittedIn_batch_other early _ [] _ _ fun h => h.2.not_ge begins, made_batch,
    made_batch, slotFirst, if_pos rfl, if_neg earlier] at tail
  have head := admittedIn_batch window fraction limit
    curr upTo (List.replicate (prev - early) ((upTo - window + slot window upTo * window) / 2) ++
      (List.replicate early (slot window upTo * window - window) ++ [])) (· ≤ upTo) le_rfl
  rw [admittedIn_batch_other _ _ _ _ _ fun h => other (slotLate.symm.trans h.1),
    admittedIn_batch_other _ _ _ _ _ fun h => other (slotFirst.symm.trans h.1), made_batch,
    made_batch, made_batch, made_batch, slotFirst, slotLate, if_neg other, if_neg other,
    if_pos rfl, if_pos rfl] at head
  rw [admittedIn_batch_other curr _ _ _ _ fun h => other.symm h.1]
  have all : (early : ℤ) + (prev - early : ℕ) = prev := by omega
  have whole : early + (prev - early) = prev := by omega
  simp only [made_nil, admittedIn_nil, allowance_zero, Nat.cast_zero, zero_add, all] at tail
  simp only [made_nil, admittedIn_nil, Nat.cast_zero, zero_add, add_zero, sub_zero, whole] at head
  push_cast
  rw [tail, head, worstBurst]

end Worst

/-! ## The next request -/

variable (window) in
/-- The first request of a slot. -/
def firstIn (times : List K) (k : ℤ) : K :=
  ((times.filter fun t => slot window t = k).getLast?).getD 0

omit [IsStrictOrderedRing K] in
theorem filter_slot_eq_nil_iff (times : List K) (k : ℤ) :
    (times.filter fun t => slot window t = k) = [] ↔ made window times k = 0 := by
  rw [made, List.countP_eq_length_filter, List.length_eq_zero_iff]

omit [IsStrictOrderedRing K] in
theorem firstIn_cons (t : K) (earlier : List K) (k : ℤ) :
    firstIn window (t :: earlier) k =
      if slot window t = k ∧ made window earlier k = 0 then t else firstIn window earlier k := by
  by_cases here : slot window t = k
  · have others : made window earlier k = 0 ↔ (earlier.filter fun t => slot window t = k) = [] :=
      (filter_slot_eq_nil_iff earlier k).symm
    rw [firstIn, List.filter_cons_of_pos (by simpa using here), List.getLast?_cons, firstIn]
    simp only [here, true_and, others]
    cases earlier.filter fun t => slot window t = k with
    | nil => simp
    | cons first rest => simp [List.getLast?_cons]
  · rw [firstIn, List.filter_cons_of_neg (by simpa using here), if_neg fun both => here both.1,
      firstIn]

omit [IsStrictOrderedRing K] in
theorem slot_firstIn {times : List K} {k : ℤ} (some : made window times k ≠ 0) :
    slot window (firstIn window times k) = k := by
  rw [Ne, ← filter_slot_eq_nil_iff] at some
  have member := List.getLast_mem some
  rw [firstIn, List.getLast?_eq_some_getLast some, Option.getD_some]
  exact of_decide_eq_true (List.mem_filter.mp member).2

variable (window fraction limit) in
/-- A request at `u` finds room after one at `t` if none comes between. -/
def RoomAfter (earlier : List K) (t u : K) : Prop :=
  (slot window u = slot window t →
      made window earlier (slot window t - 1) * (1 - fraction u) +
        (made window earlier (slot window t) + 2 : ℕ) ≤ limit) ∧
    (slot window u = slot window t + 1 →
      (made window earlier (slot window t) + 1 : ℕ) * (1 - fraction u) + 1 ≤ limit)

theorem admits_next_iff (positive : 0 < window) (room : 1 ≤ limit) {earlier : List K} {t u : K}
    (clocked : Clocked (t :: earlier)) (later : t ≤ u) :
    Admits window fraction limit (t :: earlier) u ↔
      RoomAfter window fraction limit earlier t u := by
  have after : slot window t ≤ slot window u := slot_mono positive later
  have unmade : ∀ k, slot window t < k → made window (t :: earlier) k = 0 := by
    intro k beyond
    have none := countP_later positive clocked beyond fun _ => True
    rw [made_cons, if_neg (by omega), made]
    simpa using none
  unfold Admits effective RoomAfter
  rcases eq_or_lt_of_le after with same | beyond
  · rw [← same, made_cons, if_neg (by omega), made_cons, if_pos rfl]
    simp [add_assoc]
  · rw [unmade _ beyond]
    by_cases next : slot window u = slot window t + 1
    · rw [next, add_sub_cancel_right, made_cons, if_pos rfl]
      simp
    · rw [unmade _ (by omega)]
      have within : (1 : K) ≤ limit := by exact_mod_cast room
      simp [next, beyond.ne', within]

end SlidingWindow
