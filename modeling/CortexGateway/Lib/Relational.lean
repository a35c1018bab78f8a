import CortexGateway.Lib.Exits

/-! # Programs that agree

Started in related states, one program returns the value the other returns, or
raises the exception the other raises, and the states they leave are related
again.  Programs are put together side by side; what one of them does besides
has to keep its state related. -/
set_option autoImplicit false
namespace Relational
open Exits

universe u
variable {ε σ τ α β : Type u}

/-- Two runs end alike. -/
inductive EndAlike (related : σ → τ → Prop) :
    EStateM.Result ε σ α → EStateM.Result ε τ α → Prop
  | returned (value : α) {s : σ} {t : τ} (left : related s t) :
      EndAlike related (.ok value s) (.ok value t)
  | raised (exc : ε) {s : σ} {t : τ} (left : related s t) :
      EndAlike related (.error exc s) (.error exc t)

def Agree (related : σ → τ → Prop) (program : EStateM ε σ α) (other : EStateM ε τ α) : Prop :=
  ∀ s t, related s t → EndAlike related (program.run s) (other.run t)

variable {related : σ → τ → Prop}

theorem agree_pure (value : α) :
    Agree related (pure value : EStateM ε σ α) (pure value : EStateM ε τ α) :=
  fun _ _ start => .returned value start

theorem agree_throw (exc : ε) :
    Agree related (throw exc : EStateM ε σ α) (throw exc : EStateM ε τ α) :=
  fun _ _ start => .raised exc start

theorem agree_modify {update : σ → σ} {otherUpdate : τ → τ}
    (kept : ∀ s t, related s t → related (update s) (otherUpdate t)) :
    Agree related (modify update : EStateM ε σ PUnit) (modify otherUpdate : EStateM ε τ PUnit) := by
  intro s t start
  change EndAlike related (.ok PUnit.unit (update s)) (.ok PUnit.unit (otherUpdate t))
  exact .returned _ (kept s t start)

theorem agree_bind {program : EStateM ε σ α} {other : EStateM ε τ α}
    {rest : α → EStateM ε σ β} {otherRest : α → EStateM ε τ β}
    (first : Agree related program other)
    (later : ∀ value, Agree related (rest value) (otherRest value)) :
    Agree related (program >>= rest) (other >>= otherRest) := by
  intro s t start
  rw [EStateM.run_bind, EStateM.run_bind]
  have ends := first s t start
  generalize program.run s = outcome at ends
  generalize other.run t = otherOutcome at ends
  cases ends with
  | returned value left => exact later value _ _ left
  | raised exc left => exact .raised exc left

theorem agree_tryCatch {program : EStateM ε σ α} {other : EStateM ε τ α}
    {handler : ε → EStateM ε σ α} {otherHandler : ε → EStateM ε τ α}
    (body : Agree related program other)
    (handled : ∀ exc, Agree related (handler exc) (otherHandler exc)) :
    Agree related (tryCatch program handler) (tryCatch other otherHandler) := by
  intro s t start
  rw [run_tryCatch, run_tryCatch]
  have ends := body s t start
  generalize program.run s = outcome at ends
  generalize other.run t = otherOutcome at ends
  cases ends with
  | returned value left => exact .returned value left
  | raised exc left => exact handled exc _ _ left

/-- What only one program does. -/
theorem agree_besides {update : σ → σ} {program : EStateM ε σ α} {other : EStateM ε τ α}
    (kept : ∀ s t, related s t → related (update s) t) (agree : Agree related program other) :
    Agree related (modify update >>= fun _ => program) other :=
  fun s t start => agree (update s) t (kept s t start)

end Relational
