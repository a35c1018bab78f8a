import Mathlib

/-! # Where a program with exceptions ends

A program returns a value or raises an exception, and leaves a state either
way.  `Ends` is a pre- and postcondition for both exits; `Keeps` is the part of
it that programs are put together by: an invariant of the state, and a law
every exception obeys. -/
set_option autoImplicit false
namespace Exits

universe u
variable {ε σ α β : Type u}

/-- Run from `s`, the program returns within `returns` or raises within `raises`. -/
def Ends (program : EStateM ε σ α) (s : σ) (returns : α → σ → Prop) (raises : ε → σ → Prop) :
    Prop :=
  match program.run s with
  | .ok value t => returns value t
  | .error exc t => raises exc t

/-- The state a program leaves, however it ends. -/
def exitState : EStateM.Result ε σ α → σ
  | .ok _ t => t
  | .error _ t => t

theorem ends_iff (program : EStateM ε σ α) (s : σ) (returns : α → σ → Prop)
    (raises : ε → σ → Prop) :
    Ends program s returns raises ↔
      (∀ value t, program.run s = .ok value t → returns value t) ∧
        ∀ exc t, program.run s = .error exc t → raises exc t := by
  unfold Ends
  cases program.run s with
  | ok value t => simp
  | error exc t => simp

theorem Ends.returned {program : EStateM ε σ α} {s t : σ} {value : α} {returns : α → σ → Prop}
    {raises : ε → σ → Prop} (ends : Ends program s returns raises)
    (returned : program.run s = .ok value t) : returns value t :=
  ((ends_iff program s returns raises).mp ends).1 value t returned

theorem Ends.raised {program : EStateM ε σ α} {s t : σ} {exc : ε} {returns : α → σ → Prop}
    {raises : ε → σ → Prop} (ends : Ends program s returns raises)
    (raised : program.run s = .error exc t) : raises exc t :=
  ((ends_iff program s returns raises).mp ends).2 exc t raised

theorem ends_any (program : EStateM ε σ α) (s : σ) {returns : α → σ → Prop}
    {raises : ε → σ → Prop} (returned : ∀ value t, returns value t)
    (raised : ∀ exc t, raises exc t) : Ends program s returns raises :=
  (ends_iff program s returns raises).mpr ⟨fun value t _ => returned value t,
    fun exc t _ => raised exc t⟩

theorem Ends.mono {program : EStateM ε σ α} {s : σ} {returns weaker : α → σ → Prop}
    {raises weakerRaises : ε → σ → Prop} (ends : Ends program s returns raises)
    (onReturn : ∀ value t, returns value t → weaker value t)
    (onRaise : ∀ exc t, raises exc t → weakerRaises exc t) :
    Ends program s weaker weakerRaises := by
  rw [ends_iff] at ends ⊢
  exact ⟨fun value t returned => onReturn value t (ends.1 value t returned),
    fun exc t raised => onRaise exc t (ends.2 exc t raised)⟩

/-- What both exits establish holds of the state the program leaves. -/
theorem Ends.exit {program : EStateM ε σ α} {s : σ} {holds : σ → Prop}
    (ends : Ends program s (fun _ t => holds t) fun _ t => holds t) :
    holds (exitState (program.run s)) := by
  unfold Ends at ends
  cases outcome : program.run s with
  | ok value t =>
      rw [outcome] at ends
      exact ends
  | error exc t =>
      rw [outcome] at ends
      exact ends

theorem ends_pure {value : α} {s : σ} {returns : α → σ → Prop} {raises : ε → σ → Prop}
    (holds : returns value s) : Ends (pure value) s returns raises := holds

theorem ends_bind {program : EStateM ε σ α} {rest : α → EStateM ε σ β} {s : σ}
    {returns : β → σ → Prop} {raises : ε → σ → Prop}
    (first : Ends program s (fun value t => Ends (rest value) t returns raises) raises) :
    Ends (program >>= rest) s returns raises := by
  unfold Ends at *
  rw [EStateM.run_bind]
  cases outcome : program.run s with
  | ok value t =>
      rw [outcome] at first
      exact first
  | error exc t =>
      rw [outcome] at first
      exact first

theorem run_tryCatch (program : EStateM ε σ α) (handler : ε → EStateM ε σ α) (s : σ) :
    (tryCatch program handler).run s =
      match program.run s with
      | .ok value t => .ok value t
      | .error exc t => (handler exc).run t := by
  simp only [tryCatch, tryCatchThe, MonadExceptOf.tryCatch, EStateM.tryCatch, EStateM.run]
  cases program s <;> rfl

theorem ends_tryCatch_returned {program : EStateM ε σ α} {handler : ε → EStateM ε σ α} {s t : σ}
    {value : α} {returns : α → σ → Prop} {raises : ε → σ → Prop}
    (returned : program.run s = .ok value t) (holds : returns value t) :
    Ends (tryCatch program handler) s returns raises := by
  unfold Ends
  rw [run_tryCatch, returned]
  exact holds

theorem ends_tryCatch_raised {program : EStateM ε σ α} {handler : ε → EStateM ε σ α} {s t : σ}
    {exc : ε} {returns : α → σ → Prop} {raises : ε → σ → Prop}
    (raised : program.run s = .error exc t) (handled : Ends (handler exc) t returns raises) :
    Ends (tryCatch program handler) s returns raises := by
  unfold Ends at *
  rw [run_tryCatch, raised]
  exact handled

/-- Whichever way the program ends, the invariant holds again, and what it
raises obeys the law. -/
def Keeps (inv : σ → Prop) (law : ε → Prop) (program : EStateM ε σ α) : Prop :=
  ∀ s, inv s → Ends program s (fun _ t => inv t) fun exc t => law exc ∧ inv t

section Keeps
variable {inv : σ → Prop} {law : ε → Prop}

theorem keeps_pure (value : α) : Keeps inv law (pure value : EStateM ε σ α) := by
  intro s holds
  exact holds

theorem keeps_throw (exc : ε) (obeys : law exc) : Keeps inv law (throw exc : EStateM ε σ α) := by
  intro s holds
  exact ⟨obeys, holds⟩

theorem keeps_modify (update : σ → σ) (stable : ∀ s, inv s → inv (update s)) :
    Keeps inv law (modify update : EStateM ε σ PUnit) := by
  intro s holds
  exact stable s holds

theorem keeps_bind {program : EStateM ε σ α} {rest : α → EStateM ε σ β}
    (first : Keeps inv law program) (later : ∀ value, Keeps inv law (rest value)) :
    Keeps inv law (program >>= rest) := by
  intro s holds
  apply ends_bind
  exact (first s holds).mono (fun value t kept => later value t kept) fun _ _ raised => raised

/-- A handler runs in the state the exception left. -/
theorem keeps_tryCatch {program : EStateM ε σ α} {handler : ε → EStateM ε σ α}
    (body : Keeps inv law program) (handled : ∀ exc, law exc → Keeps inv law (handler exc)) :
    Keeps inv law (tryCatch program handler) := by
  intro s holds
  have ends := body s holds
  cases outcome : program.run s with
  | ok value t => exact ends_tryCatch_returned outcome (ends.returned outcome)
  | error exc t =>
      have obeys := ends.raised outcome
      exact ends_tryCatch_raised outcome (handled exc obeys.1 t obeys.2)

end Keeps

/-! ## Results without a state -/

theorem bind_eq_ok_iff {result : Except ε α} {rest : α → Except ε β} {value : β} :
    result >>= rest = .ok value ↔ ∃ first, result = .ok first ∧ rest first = .ok value := by
  constructor
  · intro returned
    cases result with
    | ok first => exact ⟨first, rfl, returned⟩
    | error exc => cases returned
  · rintro ⟨first, returned, later⟩
    rw [returned]
    exact later

section Raises
variable {law : ε → Prop}

/-- If the result is an exception, it obeys the law. -/
def Raises (law : ε → Prop) (result : Except ε α) : Prop :=
  ∀ exc, result = .error exc → law exc

theorem raises_ok (value : α) : Raises law (.ok value : Except ε α) := by
  intro exc raised
  cases raised

theorem raises_error (exc : ε) (obeys : law exc) : Raises law (.error exc : Except ε α) := by
  intro other raised
  cases raised
  exact obeys

theorem raises_ite (p : Prop) [Decidable p] {first second : Except ε α}
    (whenTrue : Raises law first) (whenFalse : Raises law second) :
    Raises law (if p then first else second) := by
  split_ifs
  · exact whenTrue
  · exact whenFalse

theorem raises_bind {result : Except ε α} {rest : α → Except ε β} (first : Raises law result)
    (later : ∀ value, result = .ok value → Raises law (rest value)) :
    Raises law (result >>= rest) := by
  cases result with
  | ok value => exact later value rfl
  | error exc => exact raises_error exc (first exc rfl)

theorem raises_map (convert : α → β) {result : Except ε α} (obeys : Raises law result) :
    Raises law (result.map convert) := by
  cases result with
  | ok value => exact raises_ok _
  | error exc => exact raises_error exc (obeys exc rfl)

theorem raises_mapM {convert : α → Except ε β} (obeys : ∀ value, Raises law (convert value))
    (values : List α) : Raises law (values.mapM convert) := by
  induction values with
  | nil => exact raises_ok []
  | cons value rest ih =>
      rw [List.mapM_cons]
      refine raises_bind (obeys value) fun _ _ => ?_
      exact raises_bind ih fun _ _ => raises_ok _

end Raises

end Exits
