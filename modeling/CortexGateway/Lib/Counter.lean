import Mathlib

/-! # Counters and histograms

A counter has one child for each label it was incremented with.  Incremented with
the labels of the events of a run, it shows for each label how many of them had
it, and its children add up to the number of those that had any.  A histogram
counts each value once, at the first bound it does not exceed; up to any of its
bounds it counts the values that do not exceed that one. -/
set_option autoImplicit false

universe u v

/-- Each label that was incremented, with its count. -/
structure Counter (κ : Type u) where
  children : List (κ × ℕ)
  distinct : (children.map Prod.fst).Nodup

namespace Counter
variable {κ : Type u}

def fresh : Counter κ := ⟨[], List.nodup_nil⟩

/-- The sum over all labels. -/
def total (counter : Counter κ) : ℕ := (counter.children.map Prod.snd).sum

@[simp] theorem total_fresh : (fresh : Counter κ).total = 0 := rfl

section Labels
variable [DecidableEq κ]

/-- The count of the child, zero where there is none. -/
def count (label : κ) : List (κ × ℕ) → ℕ
  | [] => 0
  | child :: rest => if child.1 = label then child.2 else count label rest

/-- The child is made where there is none. -/
def bump (label : κ) : List (κ × ℕ) → List (κ × ℕ)
  | [] => [(label, 1)]
  | child :: rest =>
      if child.1 = label then (child.1, child.2 + 1) :: rest else child :: bump label rest

theorem bump_labels (label : κ) (children : List (κ × ℕ)) :
    (bump label children).map Prod.fst =
      if label ∈ children.map Prod.fst then children.map Prod.fst
      else children.map Prod.fst ++ [label] := by
  induction children with
  | nil => simp [bump]
  | cons child rest ih =>
      by_cases own : child.1 = label
      · simp [bump, own]
      · simp only [bump, if_neg own, List.map_cons, ih, List.mem_cons, Ne.symm own, false_or]
        split_ifs <;> rfl

theorem bump_distinct (label : κ) {children : List (κ × ℕ)}
    (distinct : (children.map Prod.fst).Nodup) : ((bump label children).map Prod.fst).Nodup := by
  rw [bump_labels]
  split_ifs with known
  · exact distinct
  · rw [List.nodup_append]
    refine ⟨distinct, List.nodup_singleton label, fun other member new single => ?_⟩
    rintro rfl
    cases List.mem_singleton.mp single
    exact known member

def value (counter : Counter κ) (label : κ) : ℕ := count label counter.children

def inc (counter : Counter κ) (label : κ) : Counter κ :=
  ⟨bump label counter.children, bump_distinct label counter.distinct⟩

@[simp] theorem value_fresh (label : κ) : (fresh : Counter κ).value label = 0 := rfl

theorem count_bump (label other : κ) (children : List (κ × ℕ)) :
    count other (bump label children) = count other children + if label = other then 1 else 0 := by
  induction children with
  | nil => simp [bump, count]
  | cons child rest ih =>
      by_cases own : child.1 = label
      · subst own
        by_cases same : child.1 = other
        · simp [bump, count, same]
        · simp [bump, count, same]
      · rw [bump, if_neg own]
        by_cases same : child.1 = other
        · have apart : label ≠ other := fun eq => own (same.trans eq.symm)
          simp [count, same, apart]
        · simp [count, same, ih]

theorem value_inc (counter : Counter κ) (label other : κ) :
    (counter.inc label).value other = counter.value other + if label = other then 1 else 0 :=
  count_bump label other counter.children

theorem total_inc (counter : Counter κ) (label : κ) :
    (counter.inc label).total = counter.total + 1 := by
  obtain ⟨children, distinct⟩ := counter
  change ((bump label children).map Prod.snd).sum = (children.map Prod.snd).sum + 1
  clear distinct
  induction children with
  | nil => rfl
  | cons child rest ih =>
      rw [bump]
      split_ifs with own
      · simp only [List.map_cons, List.sum_cons]
        omega
      · simp only [List.map_cons, List.sum_cons, ih]
        omega

/-! ## Runs -/

/-- Incremented with the label, where there is one. -/
def incAny (counter : Counter κ) (label : Option κ) : Counter κ := label.elim counter counter.inc

theorem value_incAny (counter : Counter κ) (label : Option κ) (other : κ) :
    (counter.incAny label).value other =
      counter.value other + if label = some other then 1 else 0 := by
  cases label with
  | none => simp [incAny]
  | some label => simp [incAny, value_inc]

theorem total_incAny (counter : Counter κ) (label : Option κ) :
    (counter.incAny label).total = counter.total + if label.isSome then 1 else 0 := by
  cases label with
  | none => simp [incAny]
  | some label => simp [incAny, total_inc]

section Events
variable {α : Type v} (label : α → Option κ)

/-- The counter shows how many events had each label, and how many had any. -/
structure Counts (counter : Counter κ) (events : List α) : Prop where
  value : ∀ other, counter.value other = events.countP fun event => label event = some other
  total : counter.total = events.countP fun event => (label event).isSome

variable {label}

theorem counts_fresh : Counts label fresh [] := ⟨fun _ => rfl, rfl⟩

theorem Counts.event {counter : Counter κ} {events : List α} (counts : Counts label counter events)
    (event : α) : Counts label (counter.incAny (label event)) (events ++ [event]) where
  value other := by
    rw [value_incAny, counts.value, List.countP_append, List.countP_singleton]
    simp only [decide_eq_true_eq]
  total := by
    rw [total_incAny, counts.total, List.countP_append, List.countP_singleton]

end Events

end Labels
end Counter

/-! ## Histograms -/

/-- Each bound, ascending, with the values that were put there, those above all of
them, and the sum of all. -/
structure Histogram where
  buckets : List (ℚ × ℕ)
  above : ℕ
  sum : ℚ

namespace Histogram

def fresh (bounds : List ℚ) : Histogram := ⟨bounds.map fun bound => (bound, 0), 0, 0⟩

/-- The value is counted at the first bound it does not exceed. -/
def place (value : ℚ) : List (ℚ × ℕ) → List (ℚ × ℕ)
  | [] => []
  | bucket :: rest =>
      if value ≤ bucket.1 then (bucket.1, bucket.2 + 1) :: rest else bucket :: place value rest

def observe (histogram : Histogram) (value : ℚ) : Histogram :=
  { buckets := place value histogram.buckets
    above := if ∃ bucket ∈ histogram.buckets, value ≤ bucket.1 then histogram.above
      else histogram.above + 1
    sum := histogram.sum + value }

/-- What is counted up to the bound. -/
def upTo (histogram : Histogram) (bound : ℚ) : ℕ :=
  ((histogram.buckets.filter fun bucket => bucket.1 ≤ bound).map Prod.snd).sum

def count (histogram : Histogram) : ℕ := (histogram.buckets.map Prod.snd).sum + histogram.above

theorem place_bounds (value : ℚ) (buckets : List (ℚ × ℕ)) :
    (place value buckets).map Prod.fst = buckets.map Prod.fst := by
  induction buckets with
  | nil => rfl
  | cons bucket rest ih =>
      rw [place]
      split_ifs
      · rfl
      · rw [List.map_cons, List.map_cons, ih]

theorem place_total (value : ℚ) (buckets : List (ℚ × ℕ)) :
    ((place value buckets).map Prod.snd).sum =
      (buckets.map Prod.snd).sum + if ∃ bucket ∈ buckets, value ≤ bucket.1 then 1 else 0 := by
  induction buckets with
  | nil => simp [place]
  | cons bucket rest ih =>
      rw [place]
      by_cases within : value ≤ bucket.1
      · rw [if_pos within, if_pos ⟨bucket, List.mem_cons_self, within⟩, List.map_cons,
          List.map_cons, List.sum_cons, List.sum_cons]
        omega
      · rw [if_neg within, List.map_cons, List.map_cons, List.sum_cons, List.sum_cons, ih]
        simp only [List.exists_mem_cons_iff, within, false_or, add_assoc]

theorem count_observe (histogram : Histogram) (value : ℚ) :
    (histogram.observe value).count = histogram.count + 1 := by
  simp only [count, observe, place_total]
  split_ifs <;> omega

theorem place_upTo (value bound : ℚ) {buckets : List (ℚ × ℕ)}
    (ascending : (buckets.map Prod.fst).Pairwise (· < ·)) (listed : bound ∈ buckets.map Prod.fst) :
    (((place value buckets).filter fun bucket => bucket.1 ≤ bound).map Prod.snd).sum =
      ((buckets.filter fun bucket => bucket.1 ≤ bound).map Prod.snd).sum +
        if value ≤ bound then 1 else 0 := by
  induction buckets with
  | nil => cases listed
  | cons bucket rest ih =>
      rw [List.map_cons, List.pairwise_cons] at ascending
      obtain ⟨below, ascending⟩ := ascending
      have first_le : bucket.1 ≤ bound := by
        rcases List.mem_cons.mp listed with rfl | later
        · exact le_rfl
        · exact (below bound later).le
      rw [place]
      split_ifs with within small small
      · simp only [List.filter_cons, first_le, decide_true, if_true, List.map_cons, List.sum_cons]
        omega
      · exact absurd (within.trans first_le) small
      · have later : bound ∈ rest.map Prod.fst := by
          rcases List.mem_cons.mp listed with rfl | later
          · exact absurd small within
          · exact later
        have onward := ih ascending later
        rw [if_pos small] at onward
        simp only [List.filter_cons, first_le, decide_true, if_true, List.map_cons, List.sum_cons,
          onward]
        omega
      · rcases List.mem_cons.mp listed with rfl | later
        · -- No later bucket is within the bound, before or after.
          have empty : ∀ buckets : List (ℚ × ℕ), buckets.map Prod.fst = rest.map Prod.fst →
              buckets.filter (fun other => other.1 ≤ bucket.1) = [] := by
            intro buckets same
            refine List.filter_eq_nil_iff.mpr fun other member => ?_
            have known : other.1 ∈ rest.map Prod.fst := same ▸ List.mem_map_of_mem member
            simpa using below other.1 known
          simp [empty rest rfl, empty _ (place_bounds value rest)]
        · have onward := ih ascending later
          rw [if_neg small] at onward
          simp only [List.filter_cons, first_le, decide_true, if_true, List.map_cons,
            List.sum_cons, onward]
          omega

/-- The histogram shows the values. -/
structure Shows (bounds : List ℚ) (histogram : Histogram) (values : List ℚ) : Prop where
  bounded : histogram.buckets.map Prod.fst = bounds
  count : histogram.count = values.length
  sum : histogram.sum = values.sum
  upTo : ∀ bound ∈ bounds, histogram.upTo bound = values.countP (· ≤ bound)

theorem shows_fresh (bounds : List ℚ) : Shows bounds (fresh bounds) [] := by
  refine ⟨?_, ?_, rfl, fun bound _ => ?_⟩
  · simp [fresh, Function.comp_def]
  · simp [fresh, count, Function.comp_def]
  · rw [Histogram.upTo, fresh, List.filter_map, List.map_map]
    simp [Function.comp_def]

theorem Shows.observe {bounds : List ℚ} (ascending : bounds.Pairwise (· < ·))
    {histogram : Histogram} {values : List ℚ} (shows : Shows bounds histogram values)
    (value : ℚ) : Shows bounds (histogram.observe value) (values ++ [value]) where
  bounded := (place_bounds value histogram.buckets).trans shows.bounded
  count := by rw [count_observe, shows.count, List.length_append, List.length_singleton]
  sum := by rw [Histogram.observe, shows.sum, List.sum_append, List.sum_singleton]
  upTo bound listed := by
    rw [← shows.bounded] at ascending listed
    have before := shows.upTo bound (shows.bounded ▸ listed)
    rw [Histogram.upTo] at before ⊢
    change (((place value histogram.buckets).filter _).map _).sum = _
    rw [place_upTo value bound ascending listed, before, List.countP_append,
      List.countP_singleton]
    simp only [decide_eq_true_eq]

end Histogram
