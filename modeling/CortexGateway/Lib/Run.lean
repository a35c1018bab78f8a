import Mathlib

/-! # Runs of a guarded step function

`step s a = none` says that `a` cannot be taken from `s`.  A law can be asked
of every state a run reaches (`HoldsThroughout`), a guard of every step a run
takes (`StepsMeet`).  `invariant_of_steps` is the induction every safety
theorem uses; `holdsThroughout_iff_stepsMeet` turns an exact step condition
into an exact condition on whole runs. -/
set_option autoImplicit false
namespace Transition

universe u v
variable {σ : Type u} {α : Type v} (step : σ → α → Option σ)

def run : σ → List α → Option σ
  | s, [] => some s
  | s, a :: rest => (step s a).bind fun next => run next rest

/-- The law holds in the state after every prefix of the run. -/
def HoldsThroughout (law : σ → Prop) (s : σ) (actions : List α) : Prop :=
  ∀ before, before <+: actions → ∀ reached, run step s before = some reached → law reached

/-- Every step the run takes meets the guard in the state it is taken from. -/
def StepsMeet (guard : σ → α → Prop) (s : σ) (actions : List α) : Prop :=
  ∀ before a, before ++ [a] <+: actions → ∀ reached next, run step s before = some reached →
    step reached a = some next → guard reached a

theorem run_append (s : σ) (first second : List α) :
    run step s (first ++ second) = (run step s first).bind fun next => run step next second := by
  induction first generalizing s with
  | nil => rfl
  | cons a rest ih =>
      simp only [List.cons_append, run]
      cases step s a with
      | none => rfl
      | some next => simpa using ih next

theorem run_snoc (s reached : σ) (actions : List α) (a : α)
    (taken : run step s actions = some reached) :
    run step s (actions ++ [a]) = step reached a := by
  rw [run_append, taken]
  simp only [Option.bind_some, run]
  cases step reached a <;> rfl

theorem run_snoc_some (s final : σ) (actions : List α) (a : α)
    (taken : run step s (actions ++ [a]) = some final) :
    ∃ reached, run step s actions = some reached ∧ step reached a = some final := by
  rw [run_append] at taken
  obtain ⟨reached, first, last⟩ := Option.bind_eq_some_iff.mp taken
  refine ⟨reached, first, ?_⟩
  simp only [run] at last
  obtain ⟨next, stepped, same⟩ := Option.bind_eq_some_iff.mp last
  cases same
  exact stepped

theorem HoldsThroughout.of_prefix {law : σ → Prop} {s : σ} {before actions : List α}
    (throughout : HoldsThroughout step law s actions) (initial : before <+: actions) :
    HoldsThroughout step law s before := fun earlier sub =>
  throughout earlier (sub.trans initial)

theorem StepsMeet.of_prefix {guard : σ → α → Prop} {s : σ} {before actions : List α}
    (met : StepsMeet step guard s actions) (initial : before <+: actions) :
    StepsMeet step guard s before := fun earlier a sub =>
  met earlier a (sub.trans initial)

theorem StepsMeet.imp {guard weaker : σ → α → Prop} {s : σ} {actions : List α}
    (met : StepsMeet step guard s actions)
    (implies : ∀ s a next, step s a = some next → guard s a → weaker s a) :
    StepsMeet step weaker s actions := fun before a initial reached next taken last =>
  implies reached a next last (met before a initial reached next taken last)

/-- What a run still does, from the state it has reached. -/
theorem StepsMeet.of_append {guard : σ → α → Prop} {s reached : σ} {before after : List α}
    (met : StepsMeet step guard s (before ++ after)) (taken : run step s before = some reached) :
    StepsMeet step guard reached after := by
  intro earlier a initial final next first last
  apply met (before ++ earlier) a _ final next _ last
  · rw [List.append_assoc]
    exact (List.prefix_append_right_inj before).mpr initial
  · rw [run_append, taken]
    exact first

theorem holdsThroughout_nil (law : σ → Prop) (s : σ) :
    HoldsThroughout step law s [] ↔ law s := by
  constructor
  · intro throughout
    exact throughout [] (List.prefix_refl _) s rfl
  · intro holds before initial reached taken
    cases List.prefix_nil.mp initial
    cases taken
    exact holds

theorem holdsThroughout_cons (law : σ → Prop) (s : σ) (a : α) (rest : List α) :
    HoldsThroughout step law s (a :: rest) ↔
      law s ∧ ∀ next, step s a = some next → HoldsThroughout step law next rest := by
  constructor
  · intro throughout
    refine ⟨throughout [] (List.nil_prefix) s rfl, fun next stepped before initial reached taken => ?_⟩
    apply throughout (a :: before) (List.cons_prefix_cons.mpr ⟨rfl, initial⟩) reached
    simpa [run, stepped] using taken
  · rintro ⟨holds, later⟩ before initial reached taken
    cases before with
    | nil =>
        cases taken
        exact holds
    | cons first before =>
        obtain ⟨rfl, shorter⟩ := List.cons_prefix_cons.mp initial
        obtain ⟨next, stepped, taken⟩ := Option.bind_eq_some_iff.mp taken
        exact later next stepped before shorter reached taken

theorem stepsMeet_nil (guard : σ → α → Prop) (s : σ) : StepsMeet step guard s [] := by
  intro before a initial
  have empty := List.prefix_nil.mp initial
  simp at empty

theorem stepsMeet_cons (guard : σ → α → Prop) (s : σ) (a : α) (rest : List α) :
    StepsMeet step guard s (a :: rest) ↔
      ∀ next, step s a = some next → guard s a ∧ StepsMeet step guard next rest := by
  constructor
  · intro met next stepped
    refine ⟨met [] a (by simp) s next rfl stepped, fun before b initial reached final taken last => ?_⟩
    apply met (a :: before) b (List.cons_prefix_cons.mpr ⟨rfl, initial⟩) reached final _ last
    simpa [run, stepped] using taken
  · intro met before b initial reached final taken last
    cases before with
    | nil =>
        obtain ⟨rfl, -⟩ := List.cons_prefix_cons.mp initial
        cases taken
        exact (met final last).1
    | cons first before =>
        obtain ⟨rfl, shorter⟩ := List.cons_prefix_cons.mp initial
        obtain ⟨next, stepped, taken⟩ := Option.bind_eq_some_iff.mp taken
        exact (met next stepped).2 before b shorter reached final taken last

/-- A run is checked state by state. -/
instance decidableHoldsThroughout (law : σ → Prop) [DecidablePred law] :
    (s : σ) → (actions : List α) → Decidable (HoldsThroughout step law s actions)
  | s, [] => decidable_of_iff (law s) (holdsThroughout_nil step law s).symm
  | s, a :: rest =>
      match stepped : step s a with
      | none => decidable_of_iff (law s) (by simp [holdsThroughout_cons, stepped])
      | some next =>
          have := decidableHoldsThroughout law next rest
          decidable_of_iff (law s ∧ HoldsThroughout step law next rest)
            (by simp [holdsThroughout_cons, stepped])

instance decidableStepsMeet (guard : σ → α → Prop) [∀ s a, Decidable (guard s a)] :
    (s : σ) → (actions : List α) → Decidable (StepsMeet step guard s actions)
  | s, [] => isTrue (stepsMeet_nil step guard s)
  | s, a :: rest =>
      match stepped : step s a with
      | none => isTrue (by simp [stepsMeet_cons, stepped])
      | some next =>
          have := decidableStepsMeet guard next rest
          decidable_of_iff (guard s a ∧ StepsMeet step guard next rest)
            (by simp [stepsMeet_cons, stepped])

/-- An invariant that every guarded step keeps holds at the end of every run
whose steps meet the guard. -/
theorem invariant_of_steps (inv : σ → Prop) (guard : σ → α → Prop)
    (keeps : ∀ s a next, inv s → guard s a → step s a = some next → inv next)
    (s : σ) (start : inv s) (actions : List α) (met : StepsMeet step guard s actions)
    (final : σ) (taken : run step s actions = some final) : inv final := by
  induction actions using List.reverseRecOn generalizing final with
  | nil =>
      cases taken
      exact start
  | append_singleton earlier a ih =>
      obtain ⟨reached, first, last⟩ := run_snoc_some step s final earlier a taken
      have earlierInv := ih (met.of_prefix step (List.prefix_append earlier [a])) reached first
      exact keeps reached a final earlierInv
        (met earlier a (List.prefix_refl _) reached final first last) last

theorem holdsThroughout_of_steps (inv : σ → Prop) (guard : σ → α → Prop)
    (keeps : ∀ s a next, inv s → guard s a → step s a = some next → inv next)
    (s : σ) (start : inv s) (actions : List α) (met : StepsMeet step guard s actions) :
    HoldsThroughout step inv s actions := fun before initial reached taken =>
  invariant_of_steps step inv guard keeps s start before (met.of_prefix step initial) reached taken

theorem HoldsThroughout.imp {law weaker : σ → Prop} {s : σ} {actions : List α}
    (throughout : HoldsThroughout step law s actions) (implies : ∀ s, law s → weaker s) :
    HoldsThroughout step weaker s actions := fun before initial reached taken =>
  implies reached (throughout before initial reached taken)

/-- When, from a state with the frame and the law, a step that may be taken
keeps the frame and re-establishes the law exactly if it meets the guard, a run
obeys the law throughout exactly if all its steps meet the guard. -/
theorem holdsThroughout_iff_stepsMeet (law frame : σ → Prop) (allowed guard : σ → α → Prop)
    (exact_step : ∀ s a next, frame s → law s → allowed s a → step s a = some next →
      (law next ↔ guard s a) ∧ (law next → frame next))
    (s : σ) (startFrame : frame s) (startLaw : law s) (actions : List α)
    (permitted : StepsMeet step allowed s actions) :
    HoldsThroughout step law s actions ↔ StepsMeet step guard s actions := by
  constructor
  · intro throughout
    have framed : ∀ before, before <+: actions → ∀ reached, run step s before = some reached →
        frame reached := by
      intro before
      induction before using List.reverseRecOn with
      | nil =>
          intro _ reached taken
          cases taken
          exact startFrame
      | append_singleton earlier a ih =>
          intro initial final taken
          have shorter : earlier <+: actions := (List.prefix_append earlier [a]).trans initial
          obtain ⟨reached, first, last⟩ := run_snoc_some step s final earlier a taken
          exact (exact_step reached a final (ih shorter reached first)
            (throughout earlier shorter reached first)
            (permitted earlier a initial reached final first last) last).2
            (throughout _ initial final taken)
    intro before a initial reached next first last
    have shorter : before <+: actions := (List.prefix_append before [a]).trans initial
    have lawNext : law next := by
      apply throughout (before ++ [a]) initial next
      rw [run_snoc step s reached before a first, last]
    exact (exact_step reached a next (framed before shorter reached first)
      (throughout before shorter reached first)
      (permitted before a initial reached next first last) last).1.mp lawNext
  · intro met
    have both := holdsThroughout_of_steps step (fun s => frame s ∧ law s)
      (fun s a => allowed s a ∧ guard s a)
      (fun s a next holds meets stepped => by
        obtain ⟨law_iff, frameNext⟩ := exact_step s a next holds.1 holds.2 meets.1 stepped
        exact ⟨frameNext (law_iff.mpr meets.2), law_iff.mpr meets.2⟩)
      s ⟨startFrame, startLaw⟩ actions
      (fun before a initial reached next first last =>
        ⟨permitted before a initial reached next first last,
          met before a initial reached next first last⟩)
    exact both.imp step fun _ holds => holds.2

end Transition
