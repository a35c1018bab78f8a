import Mathlib

/-! # A running best with a threshold

A loop keeps the best score so far and, where that score reaches the threshold,
the item it came with.  Started below the threshold, it ends with the first item
of maximal score if the maximum reaches the threshold, and with none otherwise. -/
set_option autoImplicit false
namespace RunningBest

universe u v
variable {β : Type u} {α : Type v} [LinearOrder β]

/-- The first of maximal score. -/
def FirstBest (scored : List (β × α)) (best : β × α) : Prop :=
  ∃ before after, scored = before ++ best :: after ∧ (∀ p ∈ before, p.1 < best.1) ∧
    ∀ p ∈ after, p.1 ≤ best.1

/-- One turn of the loop. -/
def keep (threshold : β) (best : β × Option α) (next : β × α) : β × Option α :=
  if best.1 < next.1 then (next.1, if threshold ≤ next.1 then some next.2 else best.2) else best

/-- What the loop knows of the scores it has seen. -/
structure Tracks (threshold : β) (scored : List (β × α)) (best : β × Option α) : Prop where
  upper : ∀ p ∈ scored, p.1 ≤ best.1
  below : best.1 < threshold → best.2 = none
  above : threshold ≤ best.1 → ∃ item, best.2 = some item ∧ FirstBest scored (best.1, item)

theorem FirstBest.mem {scored : List (β × α)} {best : β × α} (first : FirstBest scored best) :
    best ∈ scored := by
  obtain ⟨before, after, rfl, -, -⟩ := first
  exact List.mem_append_right before List.mem_cons_self

theorem Tracks.keep {threshold : β} {scored : List (β × α)} {best : β × Option α}
    (tracks : Tracks threshold scored best) (next : β × α) :
    Tracks threshold (scored ++ [next]) (keep threshold best next) := by
  unfold RunningBest.keep
  by_cases better : best.1 < next.1
  · rw [if_pos better]
    have lower : ∀ p ∈ scored, p.1 < next.1 := fun p member =>
      (tracks.upper p member).trans_lt better
    refine ⟨fun p member => ?_, fun under => ?_, fun reaches => ?_⟩
    · rcases List.mem_append.mp member with earlier | last
      · exact (lower p earlier).le
      · rw [List.mem_singleton.mp last]
    · have before : best.2 = none := tracks.below (better.trans under)
      simp only [if_neg (not_le.mpr under), before]
    · simp only [if_pos reaches]
      exact ⟨next.2, rfl, scored, [], rfl, lower, fun p member => by cases member⟩
  · rw [if_neg better]
    have behind : next.1 ≤ best.1 := not_lt.mp better
    refine ⟨fun p member => ?_, tracks.below, fun reaches => ?_⟩
    · rcases List.mem_append.mp member with earlier | last
      · exact tracks.upper p earlier
      · rw [List.mem_singleton.mp last]
        exact behind
    · obtain ⟨item, held, before, after, split, earlier, later⟩ := tracks.above reaches
      refine ⟨item, held, before, after ++ [next], by rw [split]; simp, earlier, fun p member => ?_⟩
      rcases List.mem_append.mp member with inAfter | last
      · exact later p inAfter
      · rw [List.mem_singleton.mp last]
        exact behind

theorem tracks_foldl {threshold floor : β} (low : floor < threshold) (scored : List (β × α)) :
    Tracks threshold scored (scored.foldl (keep threshold) (floor, none)) := by
  induction scored using List.reverseRecOn with
  | nil =>
      exact ⟨fun p member => absurd member List.not_mem_nil, fun _ => rfl,
        fun reaches => absurd low (not_lt.mpr reaches)⟩
  | append_singleton scored next ih =>
      rw [List.foldl_append]
      exact ih.keep next

/-- Something is held exactly if some score reaches the threshold, and it is the
first of the best. -/
theorem Tracks.held_iff {threshold : β} {scored : List (β × α)} {best : β × Option α}
    (tracks : Tracks threshold scored best) :
    ((∃ item, (if best.1 < threshold then none else best.2) = some item) ↔
        ∃ p ∈ scored, threshold ≤ p.1) ∧
      ∀ item, (if best.1 < threshold then none else best.2) = some item →
        FirstBest scored (best.1, item) := by
  by_cases under : best.1 < threshold
  · rw [if_pos under]
    refine ⟨iff_of_false (fun ⟨_, held⟩ => by cases held) fun ⟨p, member, reaches⟩ => ?_,
      fun _ held => by cases held⟩
    exact absurd (reaches.trans (tracks.upper p member)) (not_le.mpr under)
  · rw [if_neg under]
    obtain ⟨item, held, first⟩ := tracks.above (not_lt.mp under)
    refine ⟨iff_of_true ⟨item, held⟩ ⟨_, first.mem, not_lt.mp under⟩, fun other also => ?_⟩
    rw [held] at also
    rw [← Option.some_inj.mp also]
    exact first

end RunningBest
