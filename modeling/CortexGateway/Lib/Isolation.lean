import Mathlib

/-! # Two runs of one list of actions

Every action answers and moves the state.  When a projection of the state
decides the answers and moves as the state does, two runs that start with one
projection cannot be told apart; what every action leaves alone, a run leaves
alone. -/
set_option autoImplicit false
namespace Isolation

universe u v w
variable {σ : Type u} {α : Type v} {ρ : Type w} (step : σ → α → ρ × σ)

/-- The answers of a run, and the state it ends in. -/
def run : σ → List α → List ρ × σ
  | s, [] => ([], s)
  | s, a :: rest =>
      let later := run (step s a).2 rest
      ((step s a).1 :: later.1, later.2)

/-- Where a run ends. -/
theorem run_state (actions : List α) (s : σ) :
    (run step s actions).2 = actions.foldl (fun s a => (step s a).2) s := by
  induction actions generalizing s with
  | nil => rfl
  | cons a rest ih => exact ih _

/-- Every action of the run meets the guard in the state it is taken in. -/
def Along (guard : σ → α → Prop) : σ → List α → Prop
  | _, [] => True
  | s, a :: rest => guard s a ∧ Along guard (step s a).2 rest

/-- Guarded actions keep the invariant, and the projection decides what they do. -/
structure Projects (inv : σ → Prop) (guard : σ → α → Prop) (project : σ → σ) : Prop where
  keeps : ∀ s a, inv s → guard s a → inv (step s a).2
  answers : ∀ s a, inv s → guard s a → (step s a).1 = (step (project s) a).1
  moves : ∀ s a, inv s → guard s a → project (step s a).2 = (step (project s) a).2

variable {step} {inv : σ → Prop} {guard : σ → α → Prop} {project : σ → σ}

/-- A run is simulated by the run of its projection. -/
theorem Projects.run (projects : Projects step inv guard project) (actions : List α) (s : σ)
    (start : inv s) (along : Along step guard s actions) :
    (run step s actions).1 = (Isolation.run step (project s) actions).1 ∧
      project (Isolation.run step s actions).2 = (Isolation.run step (project s) actions).2 := by
  induction actions generalizing s with
  | nil => exact ⟨rfl, rfl⟩
  | cons a rest ih =>
      obtain ⟨met, later⟩ := along
      obtain ⟨answers, moves⟩ := ih _ (projects.keeps s a start met) later
      rw [projects.moves s a start met] at answers moves
      refine ⟨?_, moves⟩
      simp only [Isolation.run]
      rw [projects.answers s a start met, answers]

/-- What the run starts with and every guarded action keeps holds at its end. -/
theorem Projects.invariant (projects : Projects step inv guard project) (actions : List α) (s : σ)
    (start : inv s) (along : Along step guard s actions) : inv (Isolation.run step s actions).2 := by
  induction actions generalizing s with
  | nil => exact start
  | cons a rest ih => exact ih _ (projects.keeps s a start along.1) along.2

/-- Two runs whose starts have one projection get the same answers. -/
theorem Projects.noninterference {inv' : σ → Prop} {guard' : σ → α → Prop}
    (projects : Projects step inv guard project) (projects' : Projects step inv' guard' project)
    (actions : List α) (s t : σ) (starts : inv s) (startt : inv' t) (agree : project s = project t)
    (alongs : Along step guard s actions) (alongt : Along step guard' t actions) :
    (Isolation.run step s actions).1 = (Isolation.run step t actions).1 := by
  rw [(projects.run actions s starts alongs).1, (projects'.run actions t startt alongt).1, agree]

/-! ## Actions of several owners -/

section Owners
variable {ω : Type*} {υ : Type*} [DecidableEq ω]
variable (step) (owner : α → ω) (mine : ω)

/-- Actions of others leave the view alone, and the view decides what the owner's
actions answer and make of it. -/
structure Separates (guard : α → Prop) (view : σ → υ) : Prop where
  foreign : ∀ s a, guard a → owner a ≠ mine → view (step s a).2 = view s
  own : ∀ s t a, owner a = mine → view s = view t →
    (step s a).1 = (step t a).1 ∧ view (step s a).2 = view (step t a).2

/-- What the owner is answered in a run. -/
def ownAnswers : σ → List α → List ρ
  | _, [] => []
  | s, a :: rest =>
      if owner a = mine then (step s a).1 :: ownAnswers (step s a).2 rest
      else ownAnswers (step s a).2 rest

variable {step owner mine} {guard : α → Prop} {view : σ → υ}

/-- Without the actions of the others the owner is answered the same. -/
theorem Separates.purge (separates : Separates step owner mine guard view) (actions : List α)
    (guarded : ∀ a ∈ actions, guard a) (s t : σ) (agree : view s = view t) :
    ownAnswers step owner mine s actions =
      ownAnswers step owner mine t (actions.filter (owner · = mine)) := by
  induction actions generalizing s t with
  | nil => rfl
  | cons a rest ih =>
      have later := ih fun b member => guarded b (List.mem_cons_of_mem a member)
      by_cases own : owner a = mine
      · obtain ⟨answers, views⟩ := separates.own s t a own agree
        rw [List.filter_cons_of_pos (by simpa using own)]
        simp only [ownAnswers, if_pos own]
        rw [answers, later _ _ views]
      · rw [List.filter_cons_of_neg (by simpa using own)]
        simp only [ownAnswers, if_neg own]
        exact later _ _ ((separates.foreign s a (guarded a List.mem_cons_self) own).trans agree)

/-- Two runs with the same actions of the owner, whatever the others do between them. -/
theorem Separates.indistinguishable (separates : Separates step owner mine guard view)
    (first second : List α) (guardedFirst : ∀ a ∈ first, guard a)
    (guardedSecond : ∀ a ∈ second, guard a)
    (same : first.filter (owner · = mine) = second.filter (owner · = mine)) (s t : σ)
    (agree : view s = view t) :
    ownAnswers step owner mine s first = ownAnswers step owner mine t second := by
  rw [separates.purge first guardedFirst s s rfl, separates.purge second guardedSecond t s agree.symm,
    same]

end Owners

end Isolation
