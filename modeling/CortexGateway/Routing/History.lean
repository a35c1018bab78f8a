import CortexGateway.Lib.Refinement
import CortexGateway.Routing.Stats

/-! # What the statistics say about the past

The tracker has one window for each provider and model under their normalized
names.  After any records it tells of a model exactly what was recorded of it:
all counts, the share and the mean of the last fifty, and a moving average that
stays between the fastest and the slowest answer. -/
set_option autoImplicit false
namespace CortexGateway.Stats
open Refinement

/-! ## The last of a list -/

theorem appendRecent_eq {α : Type} (recent : List α) (value : α) :
    appendRecent recent value = (recent ++ [value]).rtake 50 := by
  rw [appendRecent, List.rtake, List.length_append, List.length_singleton]

/-- A window of a window of more is the window. -/
theorem rtake_rtake_concat {α : Type} (n : ℕ) (values : List α) (value : α) :
    (values.rtake n ++ [value]).rtake n = (values ++ [value]).rtake n := by
  cases n with
  | zero => rw [List.rtake_zero, List.rtake_zero]
  | succ n =>
      rw [List.rtake_concat_succ, List.rtake_concat_succ, List.rtake_eq_reverse_take_reverse,
        List.rtake_eq_reverse_take_reverse, List.rtake_eq_reverse_take_reverse,
        List.reverse_reverse, List.take_take, Nat.min_eq_left (Nat.le_succ n)]

theorem rtake_eq_nil_iff {α : Type} (n : ℕ) (values : List α) :
    values.rtake (n + 1) = [] ↔ values = [] := by
  rw [List.rtake_eq_reverse_take_reverse, List.reverse_eq_nil_iff, List.take_eq_nil_iff,
    List.reverse_eq_nil_iff]
  simp

theorem mem_of_mem_rtake {α : Type} {n : ℕ} {values : List α} {value : α}
    (member : value ∈ values.rtake n) : value ∈ values := List.mem_of_mem_drop member

/-- A mean lies where all its values do. -/
theorem mean_between {low high : ℚ} {values : List ℚ} (nonempty : values ≠ [])
    (between : ∀ value ∈ values, low ≤ value ∧ value ≤ high) :
    low ≤ values.sum / values.length ∧ values.sum / values.length ≤ high := by
  have positive : (0 : ℚ) < values.length := by
    exact_mod_cast List.length_pos_of_ne_nil nonempty
  have least := List.card_nsmul_le_sum values low fun value member => (between value member).1
  have most := List.sum_le_card_nsmul values high fun value member => (between value member).2
  rw [nsmul_eq_mul] at least most
  constructor
  · rw [le_div_iff₀ positive]
    linarith
  · rw [div_le_iff₀ positive]
    linarith

/-! ## Records -/

/-- A success with its latency, or a failure. -/
abbrev Outcome := Option ℚ

structure Record where
  provider : String
  model : String
  outcome : Outcome

def ModelStats.record (stats : ModelStats) : Outcome → ModelStats
  | some latencyMs => stats.recordSuccess latencyMs
  | none => stats.recordFailure

namespace ProviderStatsTracker

def record (tracker : ProviderStatsTracker) (entry : Record) : ProviderStatsTracker :=
  match entry.outcome with
  | some latencyMs => tracker.recordSuccess entry.provider entry.model latencyMs
  | none => tracker.recordFailure entry.provider entry.model

/-- The statistics of one model. -/
def window (name : String × String) (stats : Option ModelStats) (outcome : Outcome) :
    Unit × Option ModelStats := ((), some ((stats.getD (.new name)).record outcome))

def aimed (name : String × String) (entry : Record) : Option Outcome :=
  if name = key entry.provider entry.model then some entry.outcome else none

theorem record_own (tracker : ProviderStatsTracker) (entry : Record) :
    tracker.record entry (key entry.provider entry.model) =
      (window (key entry.provider entry.model) (tracker (key entry.provider entry.model))
        entry.outcome).2 := by
  unfold record window
  cases entry.outcome with
  | none => exact Function.update_self _ _ tracker
  | some latencyMs => exact Function.update_self _ _ tracker

theorem record_other (tracker : ProviderStatsTracker) (entry : Record) {name : String × String}
    (other : name ≠ key entry.provider entry.model) : tracker.record entry name = tracker name := by
  unfold record
  cases entry.outcome with
  | none => exact Function.update_of_ne other _ tracker
  | some latencyMs => exact Function.update_of_ne other _ tracker

/-- For one model the tracker is the window of that model. -/
theorem record_refines (name : String × String) :
    Refines (fun (tracker : ProviderStatsTracker) entry => ((), tracker.record entry))
      (fun _ => aimed name) id (window name) fun tracker => tracker name where
  commanded tracker entry outcome given := by
    dsimp only [aimed] at given
    split_ifs at given with own
    cases given
    subst own
    exact Prod.ext rfl (record_own tracker entry)
  silent tracker entry given := by
    dsimp only [aimed] at given
    split_ifs at given with own
    exact record_other tracker entry own

/-- What was recorded of a model, under any spelling of its names. -/
def outcomesOf (provider model : String) (records : List Record) : List Outcome :=
  records.filterMap (aimed (key provider model))

theorem foldl_record (records : List Record) (provider model : String)
    (tracker : ProviderStatsTracker) :
    records.foldl record tracker (key provider model) =
      (outcomesOf provider model records).foldl
        (fun stats outcome => (window (key provider model) stats outcome).2)
        (tracker (key provider model)) := by
  have alone := congrArg Prod.snd ((record_refines (key provider model)).run records tracker)
  rw [commands_aimed, Isolation.run_state, Isolation.run_state] at alone
  exact alone

end ProviderStatsTracker

/-! ## The window of a model -/

/-- The latencies of the successes. -/
def latencies (outcomes : List Outcome) : List ℚ := outcomes.reduceOption

/-- A window that has seen these outcomes. -/
structure Saw (stats : ModelStats) (outcomes : List Outcome) : Prop where
  total : stats.totalRequests = outcomes.length
  successful : stats.successfulRequests = (latencies outcomes).length
  failed : stats.failedRequests + (latencies outcomes).length = outcomes.length
  recentOutcomes : stats.recentOutcomes = (outcomes.map Option.isSome).rtake 50
  recentLatencies : stats.recentLatencies = (latencies outcomes).rtake 50
  last : stats.lastLatencyMs = (latencies outcomes).getLast?
  average : stats.averageLatencyMs.isSome = !(latencies outcomes).isEmpty
  between : ∀ low high, (∀ latency ∈ latencies outcomes, low ≤ latency ∧ latency ≤ high) →
    ∀ average ∈ stats.averageLatencyMs, low ≤ average ∧ average ≤ high

theorem saw_new (name : String × String) : Saw (.new name) [] :=
  ⟨rfl, rfl, rfl, rfl, rfl, rfl, rfl, fun _ _ _ _ none => by cases none⟩

@[simp] theorem latencies_success (outcomes : List Outcome) (latencyMs : ℚ) :
    latencies (outcomes ++ [some latencyMs]) = latencies outcomes ++ [latencyMs] := by
  simp [latencies, List.reduceOption_append]

@[simp] theorem latencies_failure (outcomes : List Outcome) :
    latencies (outcomes ++ [none]) = latencies outcomes := by
  simp [latencies, List.reduceOption_append]

theorem Saw.recordFailure {stats : ModelStats} {outcomes : List Outcome}
    (saw : Saw stats outcomes) : Saw stats.recordFailure (outcomes ++ [none]) where
  total := by simp [ModelStats.recordFailure, saw.total]
  successful := by simpa [ModelStats.recordFailure] using saw.successful
  failed := by
    have before := saw.failed
    simp only [ModelStats.recordFailure, latencies_failure, List.length_append,
      List.length_singleton]
    omega
  recentOutcomes := by
    simp only [ModelStats.recordFailure, appendRecent_eq, saw.recentOutcomes, rtake_rtake_concat,
      List.map_append, List.map_cons, List.map_nil, Option.isSome_none]
  recentLatencies := by simpa [ModelStats.recordFailure] using saw.recentLatencies
  last := by simpa [ModelStats.recordFailure] using saw.last
  average := by simpa [ModelStats.recordFailure] using saw.average
  between low high bounds := by
    rw [latencies_failure] at bounds
    exact saw.between low high bounds

theorem Saw.recordSuccess {stats : ModelStats} {outcomes : List Outcome}
    (saw : Saw stats outcomes) (latencyMs : ℚ) :
    Saw (stats.recordSuccess latencyMs) (outcomes ++ [some latencyMs]) where
  total := by simp [ModelStats.recordSuccess, saw.total]
  successful := by simp [ModelStats.recordSuccess, saw.successful]
  failed := by
    have before := saw.failed
    simp only [ModelStats.recordSuccess, latencies_success, List.length_append,
      List.length_singleton]
    omega
  recentOutcomes := by
    simp only [ModelStats.recordSuccess, appendRecent_eq, saw.recentOutcomes, rtake_rtake_concat,
      List.map_append, List.map_cons, List.map_nil, Option.isSome_some]
  recentLatencies := by
    simp only [ModelStats.recordSuccess, appendRecent_eq, saw.recentLatencies, rtake_rtake_concat,
      latencies_success]
  last := by simp [ModelStats.recordSuccess]
  average := by
    simp only [ModelStats.recordSuccess, latencies_success]
    cases stats.averageLatencyMs <;> simp
  between low high bounds average present := by
    have newest : low ≤ latencyMs ∧ latencyMs ≤ high := bounds latencyMs (by simp)
    have older := saw.between low high fun latency member => bounds latency (by simp [member])
    simp only [ModelStats.recordSuccess] at present
    cases before : stats.averageLatencyMs with
    | none =>
        rw [before] at present
        cases present
        exact newest
    | some earlier =>
        rw [before] at present
        cases present
        have earlierBounds := older earlier before
        constructor <;> linarith [newest.1, newest.2, earlierBounds.1, earlierBounds.2]

theorem Saw.record {stats : ModelStats} {outcomes : List Outcome} (saw : Saw stats outcomes)
    (outcome : Outcome) : Saw (stats.record outcome) (outcomes ++ [outcome]) := by
  cases outcome with
  | none => exact saw.recordFailure
  | some latencyMs => exact saw.recordSuccess latencyMs

namespace ProviderStatsTracker

/-- A window after the outcomes of its model, from none. -/
theorem window_saw (name : String × String) (outcomes : List Outcome) :
    match outcomes.foldl (fun stats outcome => (window name stats outcome).2) none with
    | none => outcomes = []
    | some stats => outcomes ≠ [] ∧ Saw stats outcomes := by
  induction outcomes using List.reverseRecOn with
  | nil => rfl
  | append_singleton outcomes outcome ih =>
      rw [List.foldl_append, List.foldl_cons, List.foldl_nil]
      generalize outcomes.foldl (fun stats outcome => (window name stats outcome).2) none = before
        at ih ⊢
      refine ⟨by simp, ?_⟩
      cases before with
      | none =>
          subst ih
          exact (saw_new name).record outcome
      | some stats => exact ih.2.record outcome

end ProviderStatsTracker

/-! ## What is reported -/

theorem Saw.successRate {stats : ModelStats} {outcomes : List Outcome} (saw : Saw stats outcomes)
    (nonempty : outcomes ≠ []) :
    stats.successRate =
      (((outcomes.map Option.isSome).rtake 50).count true : ℚ) / min 50 outcomes.length := by
  have seen : ¬stats.recentOutcomes = [] := by
    rw [saw.recentOutcomes, rtake_eq_nil_iff, List.map_eq_nil_iff]
    exact nonempty
  have length : ((outcomes.map Option.isSome).rtake 50).length = min 50 outcomes.length := by
    rw [List.rtake_eq_reverse_take_reverse, List.length_reverse, List.length_take,
      List.length_reverse, List.length_map]
  rw [ModelStats.successRate, if_neg seen, saw.recentOutcomes, length]

theorem successRate_between (stats : ModelStats) :
    0 ≤ stats.successRate ∧ stats.successRate ≤ 1 := by
  unfold ModelStats.successRate
  split_ifs with none
  · exact ⟨zero_le_one, le_rfl⟩
  · have positive : (0 : ℚ) < stats.recentOutcomes.length := by
      exact_mod_cast List.length_pos_of_ne_nil none
    have counted : (stats.recentOutcomes.count true : ℚ) ≤ stats.recentOutcomes.length := by
      exact_mod_cast List.count_le_length
    exact ⟨by positivity, (div_le_one positive).mpr counted⟩

theorem Saw.latencyMs {stats : ModelStats} {outcomes : List Outcome} (saw : Saw stats outcomes) :
    stats.latencyMs =
      if latencies outcomes = [] then none
      else some (((latencies outcomes).rtake 50).sum / ((latencies outcomes).rtake 50).length) := by
  unfold ModelStats.latencyMs
  simp only [saw.recentLatencies, rtake_eq_nil_iff]
  split_ifs with none
  · rw [saw.last, none]
    rfl
  · rfl

/-- What the tracker tells of a model after any records, of this model and of
others, under any spellings: nothing if nothing was recorded of it, and otherwise
the number of its records, the share of successes among the last fifty and the
mean of its last fifty latencies.  The share is in [0, 1], and the mean and the
moving average are where all its latencies are. -/
theorem stats_tell_the_past (records : List Record) (provider model : String) :
    let tracker := records.foldl ProviderStatsTracker.record fun _ => none
    let outcomes := ProviderStatsTracker.outcomesOf provider model records
    (outcomes = [] → tracker.getStats provider model = none) ∧
      (outcomes ≠ [] →
        ∃ stats, tracker (ProviderStatsTracker.key provider model) = some stats ∧
          stats.totalRequests = outcomes.length ∧
          stats.successfulRequests = (latencies outcomes).length ∧
          stats.successfulRequests + stats.failedRequests = stats.totalRequests ∧
          stats.successRate =
            (((outcomes.map Option.isSome).rtake 50).count true : ℚ) / min 50 outcomes.length ∧
          (0 ≤ stats.successRate ∧ stats.successRate ≤ 1) ∧
          stats.latencyMs = (if latencies outcomes = [] then none
            else some (((latencies outcomes).rtake 50).sum /
              ((latencies outcomes).rtake 50).length)) ∧
          ∀ low high, (∀ latency ∈ latencies outcomes, low ≤ latency ∧ latency ≤ high) →
            (∀ mean ∈ stats.latencyMs, low ≤ mean ∧ mean ≤ high) ∧
              ∀ average ∈ stats.averageLatencyMs, low ≤ average ∧ average ≤ high) := by
  intro tracker outcomes
  have kept : tracker (ProviderStatsTracker.key provider model) = _ :=
    ProviderStatsTracker.foldl_record records provider model fun _ => none
  have saw := ProviderStatsTracker.window_saw (ProviderStatsTracker.key provider model) outcomes
  rw [← kept] at saw
  cases found : tracker (ProviderStatsTracker.key provider model) with
  | none =>
      rw [found] at saw
      refine ⟨fun _ => ?_, fun nonempty => absurd saw nonempty⟩
      rw [ProviderStatsTracker.getStats, found]
      rfl
  | some stats =>
      rw [found] at saw
      obtain ⟨nonempty, saw⟩ := saw
      refine ⟨fun empty => absurd empty nonempty, fun _ => ⟨stats, rfl, saw.total, saw.successful, ?_,
        saw.successRate nonempty, successRate_between stats, saw.latencyMs,
        fun low high bounds => ⟨fun mean member => ?_, saw.between low high bounds⟩⟩⟩
      · have failed := saw.failed
        rw [saw.total, saw.successful]
        omega
      · rw [saw.latencyMs] at member
        split_ifs at member with none
        · cases member
        · cases member
          have window : (latencies outcomes).rtake 50 ≠ [] := by
            rw [ne_eq, rtake_eq_nil_iff]
            exact none
          exact mean_between window fun latency inside => bounds latency (mem_of_mem_rtake inside)

end CortexGateway.Stats
