import CortexGateway.Lib.Isolation

/-! # A run as commands to an abstract machine

Some actions are commands to a machine that knows less, in the state they are
taken in; the others leave its state alone.  When each command is answered and
carried out as the machine does, so is every run. -/
set_option autoImplicit false
namespace Refinement

variable {σ α ρ τ β ω : Type*}
variable (step : σ → α → ρ × σ) (command : σ → α → Option β) (reading : ρ → ω)

/-- The commands of a run, each in the state it is given in. -/
def commands : σ → List α → List β
  | _, [] => []
  | s, a :: rest => (command s a).toList ++ commands (step s a).2 rest

/-- What the commands of a run are answered. -/
def answers : σ → List α → List ω
  | _, [] => []
  | s, a :: rest =>
      ((command s a).map fun _ => reading (step s a).1).toList ++ answers (step s a).2 rest

/-- Commands that can be told from the action alone. -/
theorem commands_aimed (aimed : α → Option β) (actions : List α) (s : σ) :
    commands step (fun _ => aimed) s actions = actions.filterMap aimed := by
  induction actions generalizing s with
  | nil => rfl
  | cons a rest ih =>
      rw [commands, ih]
      cases hit : aimed a <;> simp [hit]

/-- A command is answered and carried out as the machine does. -/
structure Refines (machine : τ → β → ω × τ) (view : σ → τ) : Prop where
  commanded : ∀ s a b, command s a = some b →
    (reading (step s a).1, view (step s a).2) = machine (view s) b
  silent : ∀ s a, command s a = none → view (step s a).2 = view s

variable {step command reading} {machine : τ → β → ω × τ} {view : σ → τ}

/-- A run answers its commands, and ends, as the machine does. -/
theorem Refines.run (refines : Refines step command reading machine view) (actions : List α)
    (s : σ) :
    (answers step command reading s actions, view (Isolation.run step s actions).2) =
      Isolation.run machine (view s) (commands step command s actions) := by
  induction actions generalizing s with
  | nil => rfl
  | cons a rest ih =>
      have later := ih (step s a).2
      cases given : command s a with
      | none =>
          rw [refines.silent s a given] at later
          simpa [answers, commands, Isolation.run, given] using later
      | some b =>
          have first := refines.commanded s a b given
          have answer : reading (step s a).1 = (machine (view s) b).1 := congrArg Prod.fst first
          have moved : view (step s a).2 = (machine (view s) b).2 := congrArg Prod.snd first
          rw [moved] at later
          simp only [answers, commands, Isolation.run, given, Option.map_some, Option.toList_some,
            List.singleton_append, answer, ← later]

end Refinement
