import CortexGateway.Lib.Exits
import CortexGateway.Lib.Run

/-! # Programs that follow a protocol

A program keeps a log of what it does, latest first.  A protocol says by its
phases what may be done next.  `Follows` is a pre- and postcondition in phases:
from the phase it starts in, the program adds a trace that the protocol allows,
and each exit is reached in a phase it is allowed in.  What increases with the
phases can be done once at most, and in that order. -/
set_option autoImplicit false
namespace Protocol
open Exits Transition

universe u v w
variable {ε σ α β : Type u} {κ : Type v} {φ : Type w}

section Follows
variable (log : σ → List κ) (advance : φ → κ → Option φ)

def Follows (start : φ) (program : EStateM ε σ α) (returns : α → φ → Prop)
    (raises : ε → φ → Prop) : Prop :=
  ∀ s, Ends program s
    (fun value t => ∃ trace phase, log t = trace.reverse ++ log s ∧
      run advance start trace = some phase ∧ returns value phase)
    fun exc t => ∃ trace phase, log t = trace.reverse ++ log s ∧
      run advance start trace = some phase ∧ raises exc phase

variable {log advance} {start : φ} {returns : α → φ → Prop} {raises : ε → φ → Prop}

theorem follows_pure (value : α) (allowed : returns value start) :
    Follows log advance start (pure value : EStateM ε σ α) returns raises := fun _ =>
  ends_pure ⟨[], start, rfl, rfl, allowed⟩

theorem follows_throw (exc : ε) (allowed : raises exc start) :
    Follows log advance start (throw exc : EStateM ε σ α) returns raises := fun _ =>
  ⟨[], start, rfl, rfl, allowed⟩

/-- A program that does nothing the log shows. -/
theorem follows_silent {program : EStateM ε σ α}
    (silent : ∀ s, Ends program s (fun _ t => log t = log s) fun _ t => log t = log s)
    (returned : ∀ value, returns value start) (raised : ∀ exc, raises exc start) :
    Follows log advance start program returns raises := fun s =>
  (silent s).mono (fun value _ same => ⟨[], start, same, rfl, returned value⟩)
    fun exc _ same => ⟨[], start, same, rfl, raised exc⟩

/-- A program that does one thing. -/
theorem follows_single {program : EStateM ε σ α} {action : κ} {phase : φ}
    (single : ∀ s, Ends program s (fun _ t => log t = action :: log s) fun _ _ => False)
    (allowed : advance start action = some phase) (returned : ∀ value, returns value phase) :
    Follows log advance start program returns raises := fun s =>
  (single s).mono
    (fun value _ same => ⟨[action], phase, same, by simp [run, allowed], returned value⟩)
    fun _ _ => False.elim

theorem Follows.mono {program : EStateM ε σ α} {weaker : α → φ → Prop}
    {weakerRaises : ε → φ → Prop} (follows : Follows log advance start program returns raises)
    (onReturn : ∀ value phase, returns value phase → weaker value phase)
    (onRaise : ∀ exc phase, raises exc phase → weakerRaises exc phase) :
    Follows log advance start program weaker weakerRaises := fun s =>
  (follows s).mono
    (fun value _ ⟨trace, phase, grown, taken, allowed⟩ =>
      ⟨trace, phase, grown, taken, onReturn value phase allowed⟩)
    fun exc _ ⟨trace, phase, grown, taken, allowed⟩ =>
      ⟨trace, phase, grown, taken, onRaise exc phase allowed⟩

/-- What is done later goes on where the protocol stands. -/
theorem Follows.after {program : EStateM ε σ α} {s t : σ} {trace : List κ} {phase : φ}
    (follows : Follows log advance phase program returns raises)
    (grown : log t = trace.reverse ++ log s) (taken : run advance start trace = some phase) :
    Ends program t
      (fun value u => ∃ trace phase, log u = trace.reverse ++ log s ∧
        run advance start trace = some phase ∧ returns value phase)
      fun exc u => ∃ trace phase, log u = trace.reverse ++ log s ∧
        run advance start trace = some phase ∧ raises exc phase := by
  have joined : ∀ (u : σ) (later : List κ) (final : φ), log u = later.reverse ++ log t →
      run advance phase later = some final →
      log u = (trace ++ later).reverse ++ log s ∧
        run advance start (trace ++ later) = some final := by
    intro u later final grownLater takenLater
    refine ⟨?_, ?_⟩
    · rw [grownLater, grown, List.reverse_append, List.append_assoc]
    · rw [run_append, taken]
      exact takenLater
  refine (follows t).mono ?_ ?_
  · rintro value u ⟨later, final, grownLater, takenLater, allowed⟩
    obtain ⟨grownAll, takenAll⟩ := joined u later final grownLater takenLater
    exact ⟨trace ++ later, final, grownAll, takenAll, allowed⟩
  · rintro exc u ⟨later, final, grownLater, takenLater, allowed⟩
    obtain ⟨grownAll, takenAll⟩ := joined u later final grownLater takenLater
    exact ⟨trace ++ later, final, grownAll, takenAll, allowed⟩

theorem follows_bind {program : EStateM ε σ α} {rest : α → EStateM ε σ β} {mid : α → φ → Prop}
    {later : β → φ → Prop} (first : Follows log advance start program mid raises)
    (second : ∀ value phase, mid value phase →
      Follows log advance phase (rest value) later raises) :
    Follows log advance start (program >>= rest) later raises := by
  intro s
  apply ends_bind
  refine (first s).mono ?_ fun exc t raised => raised
  rintro value t ⟨trace, phase, grown, taken, reached⟩
  exact (second value phase reached).after grown taken

/-- A handler goes on in the phase the exception was raised in. -/
theorem follows_tryCatch {program : EStateM ε σ α} {handler : ε → EStateM ε σ α}
    {mid : ε → φ → Prop} (body : Follows log advance start program returns mid)
    (handled : ∀ exc phase, mid exc phase →
      Follows log advance phase (handler exc) returns raises) :
    Follows log advance start (tryCatch program handler) returns raises := by
  intro s
  cases outcome : program.run s with
  | ok value t => exact ends_tryCatch_returned outcome ((body s).returned outcome)
  | error exc t =>
      obtain ⟨trace, phase, grown, taken, reached⟩ := (body s).raised outcome
      exact ends_tryCatch_raised outcome ((handled exc phase reached).after grown taken)

end Follows

/-! ## Ranked phases -/

section Ranked
variable {advance : φ → κ → Option φ} {rank : φ → ℕ} {stage : κ → ℕ}

/-- Every action leads to a later phase, whose rank is the stage of the action. -/
def Ranked (advance : φ → κ → Option φ) (rank : φ → ℕ) (stage : κ → ℕ) : Prop :=
  ∀ phase action next, advance phase action = some next →
    rank phase < rank next ∧ rank next = stage action

/-- No stage comes twice, and none before an earlier one. -/
theorem Ranked.pairwise (ranked : Ranked advance rank stage) {start final : φ} {trace : List κ}
    (taken : run advance start trace = some final) :
    (trace.map stage).Pairwise (· < ·) ∧ ∀ action ∈ trace, rank start < stage action := by
  induction trace generalizing start with
  | nil => exact ⟨List.Pairwise.nil, fun action member => by cases member⟩
  | cons action rest ih =>
      obtain ⟨next, stepped, taken⟩ := Option.bind_eq_some_iff.mp taken
      obtain ⟨later, stageOf⟩ := ranked start action next stepped
      obtain ⟨pairwise, above⟩ := ih taken
      refine ⟨List.pairwise_cons.mpr ⟨fun value member => ?_, pairwise⟩, fun other member => ?_⟩
      · obtain ⟨other, listed, rfl⟩ := List.mem_map.mp member
        exact stageOf ▸ above other listed
      · rcases List.mem_cons.mp member with rfl | listed
        · exact stageOf ▸ later
        · exact later.trans (above other listed)

/-- The phase a trace ends in is as late as anything in it. -/
theorem Ranked.le_final (ranked : Ranked advance rank stage) {start final : φ} {trace : List κ}
    (taken : run advance start trace = some final) {action : κ} (member : action ∈ trace) :
    stage action ≤ rank final := by
  induction trace using List.reverseRecOn generalizing final with
  | nil => cases member
  | append_singleton earlier last ih =>
      obtain ⟨reached, before, stepped⟩ := run_snoc_some _ _ _ _ _ taken
      obtain ⟨later, stageOf⟩ := ranked reached last final stepped
      rcases List.mem_append.mp member with listed | isLast
      · exact (ih before listed).trans later.le
      · rw [List.mem_singleton.mp isLast]
        exact stageOf.ge

end Ranked

end Protocol
