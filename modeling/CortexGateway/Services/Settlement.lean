import CortexGateway.Services.Stages

/-! # How a reservation is settled

After the reservation `complete` releases it when the executor raises an
`Exception` and reconciles it when the actual cost is known.  Two exits do
neither: a cancellation while the executor runs, and an exception of the
actual-cost calculation. -/
set_option autoImplicit false
namespace CortexGateway
open Budgeting Exits

/-- The team and the estimate a settling call is for. -/
def Call.settles : Call → Option (String × ℚ)
  | .releaseReservation teamId estimatedCost => some (teamId, estimatedCost)
  | .reconcile teamId estimatedCost _ => some (teamId, estimatedCost)
  | _ => none

section Settlement
variable {σ τ : Type}

def World.settlements (world : World σ τ) : List (String × ℚ) :=
  world.calls.filterMap Call.settles

namespace ChatService
variable (svc : Collaborators σ τ) (settings : Settings) (policy : ResolvedPolicy)
variable (request : ChatCompletionRequest) (requestId : String) (context : RequestContext)

/-- Exactly one settling call was made, and it was for this estimate. -/
def SettledOnce (result : EStateM.Result Exc (World σ τ) ChatCompletionResponse)
    (estimatedCost : ℚ) : Prop :=
  (exitState result).settlements = [(context.teamId, estimatedCost)]

/-- The executor returned and the actual cost is known, or it raised an `Exception`. -/
def EndsCleanly (quote : Quote) (reserved : World σ τ) : Prop :=
  match (svc.execute (execRequest policy request) quote.target.provider quote.target.model
      quote.target.routingMode).run reserved.shared with
  | .ok response _ => ∀ cost ∈ svc.costCalculator, (actualCost cost quote response).isOk = true
  | .error exc _ => exc.isException = true

/-! ## Before the reservation -/

theorem undisturbed_settlements (settled : List (String × ℚ)) :
    Undisturbed fun world : World σ τ => world.settlements = settled :=
  ⟨fun _ _ same => same, fun _ same => same⟩

theorem awaitSession_settlements {α : Type} (settled : List (String × ℚ))
    (program : EStateM Exc (σ × τ) α) :
    Keeps (fun world : World σ τ => world.settlements = settled) (fun _ => True)
      (awaitSession program) :=
  keeps_awaitSession (fun _ _ _ same => same) program fun _ _ _ _ => trivial

theorem settlements_reserved (world quoted reserved : World σ τ) (admitted : Admitted)
    (quote : Quote) (reservation : Reservation) (fresh : world.calls = [])
    (prepared : (prepare svc settings policy request requestId (some context)).run world =
      .ok (.inr (admitted, quote)) quoted)
    (reserves : (reserve svc settings (some context) quote).run quoted =
      .ok reservation reserved) : reserved.settlements = [] := by
  have none : world.settlements = [] := by simp [World.settlements, fresh]
  have untilQuote := prepare_keeps svc settings policy request requestId (some context)
    (undisturbed_settlements []) (collaborators_obey svc)
    (fun _ _ _ => awaitSession_settlements [] _) (fun _ _ _ _ => trivial)
  have quotedNone := (untilQuote world none).returned prepared
  have reserving : Keeps (fun world : World σ τ => world.settlements = []) (fun _ => True)
      (reserve svc settings (some context) quote) :=
    reserve_keeps svc settings (some context) quote (fun _ _ _ same => same)
      fun _ _ _ _ _ => awaitSession_settlements [] _
  exact (reserving quoted quotedNone).returned reserves

/-! ## After the reservation -/

theorem ends_noted {α : Type} (call : Call) (entry : String × ℚ) (world : World σ τ)
    (settles : call.settles = some entry) (program : ServiceM σ τ α)
    (keeps : ∀ settled, Keeps (fun world : World σ τ => world.settlements = settled)
      (fun _ => True) program) :
    Ends (do note call; program) world
      (fun _ t => t.settlements = entry :: world.settlements)
      fun _ t => t.settlements = entry :: world.settlements := by
  apply ends_bind
  have noted : World.settlements { world with calls := call :: world.calls } =
      entry :: world.settlements := by
    simp [World.settlements, settles]
  exact (keeps _ _ noted).mono (fun _ _ same => same) fun _ _ same => same.2

theorem releaseFailed_ends (budgetService : BudgetClient (σ × τ)) (estimatedCost : ℚ)
    (given : svc.budgetService = some budgetService) (positive : 0 < estimatedCost)
    (world : World σ τ) :
    Ends (releaseFailed svc (some context) estimatedCost) world
      (fun _ t => t.settlements = (context.teamId, estimatedCost) :: world.settlements)
      fun _ t => t.settlements = (context.teamId, estimatedCost) :: world.settlements := by
  simp only [releaseFailed, given, if_pos positive]
  apply ends_noted _ _ _ rfl
  intro settled
  exact keeps_failOpen _ _ (awaitSession_settlements settled _)

theorem settle_ends (budgetService : BudgetClient (σ × τ)) (cost : CostClient) (quote : Quote)
    (response : ChatCompletionResponse) (given : svc.budgetService = some budgetService)
    (calculator : svc.costCalculator = some cost) (positive : 0 < quote.estimatedCost)
    (world : World σ τ) (known : ℚ) (computed : actualCost cost quote response = .ok known) :
    Ends (settle svc settings (some context) quote response) world
      (fun _ t => t.settlements = (context.teamId, quote.estimatedCost) :: world.settlements)
      fun _ t => t.settlements = (context.teamId, quote.estimatedCost) :: world.settlements := by
  simp only [settle, given, calculator, if_pos positive.le, computed, ofExcept]
  apply ends_bind
  apply ends_pure
  apply ends_noted _ _ _ rfl
  intro settled
  apply keeps_bind (awaitSession_settlements settled _)
  intro reconciled
  exact keeps_pure _

theorem settle_unknown (budgetService : BudgetClient (σ × τ)) (cost : CostClient) (quote : Quote)
    (response : ChatCompletionResponse) (given : svc.budgetService = some budgetService)
    (calculator : svc.costCalculator = some cost) (nonneg : 0 ≤ quote.estimatedCost)
    (world : World σ τ) (exc : Exc) (failed : actualCost cost quote response = .error exc) :
    (settle svc settings (some context) quote response).run world = .error exc world := by
  simp only [settle, given, calculator, if_pos nonneg, failed, ofExcept]
  rfl

theorem scheduleStore_settlements (settled : List (String × ℚ))
    (response : ChatCompletionResponse) :
    Keeps (fun world : World σ τ => world.settlements = settled) (fun _ => True)
      (scheduleStore svc (some context) response) :=
  scheduleStore_keeps svc (some context) response fun _ same => same

/-! ## Every exit -/

section Serving
variable (admitted : Admitted) (reservation : Reservation) (world : World σ τ)
variable (budgetService : BudgetClient (σ × τ)) (cost : CostClient)
variable (given : svc.budgetService = some budgetService)
variable (calculator : svc.costCalculator = some cost)
variable (positive : 0 < reservation.quote.estimatedCost)

include positive given in
/-- When the executor raised, only an `Exception` is followed by the release. -/
theorem serve_failed (exc : Exc) (shared : σ)
    (raised : (svc.execute (execRequest policy request) reservation.quote.target.provider
      reservation.quote.target.model reservation.quote.target.routingMode).run world.shared =
      .error exc shared) :
    Ends (serve svc settings policy request (some context) admitted reservation) world
      (fun _ _ => False) fun _ t => t.settlements =
        if exc.isException then
          (context.teamId, reservation.quote.estimatedCost) :: world.settlements
        else world.settlements := by
  have ran := run_execute svc policy request reservation.quote world
  rw [raised] at ran
  apply ends_bind
  apply ends_tryCatch_raised ran
  cases ordinary : exc.isException with
  | true =>
      apply ends_bind
      apply (releaseFailed_ends svc context budgetService _ given positive _).mono
      · intro _ after released
        exact released
      · intro _ after released
        exact released
  | false => rfl

include positive given calculator in
theorem serve_answered (response : ChatCompletionResponse) (shared : σ)
    (answered : (svc.execute (execRequest policy request) reservation.quote.target.provider
      reservation.quote.target.model reservation.quote.target.routingMode).run world.shared =
      .ok response shared) (known : ℚ)
    (computed : actualCost cost reservation.quote response = .ok known) :
    Ends (serve svc settings policy request (some context) admitted reservation) world
      (fun _ t => t.settlements =
        (context.teamId, reservation.quote.estimatedCost) :: world.settlements)
      fun _ t => t.settlements =
        (context.teamId, reservation.quote.estimatedCost) :: world.settlements := by
  have ran := run_execute svc policy request reservation.quote world
  rw [answered] at ran
  apply ends_bind
  apply ends_tryCatch_returned ran
  apply ends_bind
  apply (settle_ends svc settings context budgetService cost _ response given calculator positive _
    known computed).mono
  · intro _ after settled
    apply ends_bind
    exact (scheduleStore_settlements svc context _ _ after settled).mono (fun _ _ same => same)
      fun _ _ same => same.2
  · intro _ after settled
    exact settled

include positive given calculator in
/-- When the actual cost cannot be computed, nothing is settled. -/
theorem serve_uncomputed (response : ChatCompletionResponse) (shared : σ)
    (answered : (svc.execute (execRequest policy request) reservation.quote.target.provider
      reservation.quote.target.model reservation.quote.target.routingMode).run world.shared =
      .ok response shared) (exc : Exc)
    (failed : actualCost cost reservation.quote response = .error exc) :
    Ends (serve svc settings policy request (some context) admitted reservation) world
      (fun _ _ => False) fun _ t => t.settlements = world.settlements := by
  have ran := run_execute svc policy request reservation.quote world
  rw [answered] at ran
  apply ends_bind
  apply ends_tryCatch_returned ran
  apply ends_bind
  have stops := settle_unknown svc settings context budgetService cost _ response given calculator
    positive.le (executed reservation.quote world shared) exc failed
  unfold Ends
  rw [stops]
  rfl

end Serving

/-- A reservation is settled exactly once if and only if the executor and the
cost calculation end cleanly. -/
theorem settledOnce_iff_endsCleanly (world reserved : World σ τ) (reservation : Reservation)
    (fresh : world.calls = [])
    (reserves : reservationOf svc settings policy request requestId (some context) world =
      some (reservation, reserved))
    (held : reservation.budgetObj.isSome = true) (positive : 0 < reservation.quote.estimatedCost) :
    SettledOnce context
        ((complete svc settings policy request requestId (some context)).run world)
        reservation.quote.estimatedCost ↔
      EndsCleanly svc policy request reservation.quote reserved := by
  obtain ⟨admitted, quote, quoted, prepared, reserves⟩ := (reservationOf_eq_some svc settings policy
    request requestId (some context) world reserved reservation).mp reserves
  have untouched := settlements_reserved svc settings policy request requestId context world quoted
    reserved admitted quote reservation fresh prepared reserves
  have services := ((reserve_ends svc settings (some context) quote quoted).returned reserves).2 held
  obtain ⟨budgetService, given⟩ := Option.isSome_iff_exists.mp services.1
  obtain ⟨cost, calculator⟩ := Option.isSome_iff_exists.mp services.2
  unfold SettledOnce
  rw [run_complete svc settings policy request requestId (some context) world quoted reserved
    admitted quote reservation prepared reserves]
  unfold EndsCleanly
  cases outcome : (svc.execute (execRequest policy request) reservation.quote.target.provider
      reservation.quote.target.model reservation.quote.target.routingMode).run reserved.shared with
  | ok response shared =>
      cases computed : actualCost cost reservation.quote response with
      | ok known =>
          have settled := (serve_answered svc settings policy request context admitted reservation
            reserved budgetService cost given calculator positive response shared outcome known
            computed).exit
          rw [untouched] at settled
          simp [settled, calculator, computed, Except.isOk, Except.toBool]
      | error exc =>
          have unsettled := ((serve_uncomputed svc settings policy request context admitted
            reservation reserved budgetService cost given calculator positive response shared outcome
            exc computed).mono (fun _ _ never => never.elim) fun _ _ same => same).exit
          rw [untouched] at unsettled
          simp [unsettled, calculator, computed, Except.isOk, Except.toBool]
  | error exc shared =>
      have unserved := ((serve_failed svc settings policy request context admitted reservation
        reserved budgetService given positive exc shared outcome).mono
        (fun _ _ never => never.elim) fun _ _ same => same).exit
      rw [untouched] at unserved
      cases ordinary : exc.isException with
      | true =>
          rw [ordinary, if_pos rfl] at unserved
          exact iff_of_true unserved ordinary
      | false =>
          rw [ordinary, if_neg (by simp)] at unserved
          refine iff_of_false ?_ (by simp [ordinary])
          rw [unserved]
          simp

instance (quote : Quote) (reserved : World σ τ) :
    Decidable (EndsCleanly svc policy request quote reserved) :=
  match outcome : (svc.execute (execRequest policy request) quote.target.provider
      quote.target.model quote.target.routingMode).run reserved.shared with
  | .ok response _ =>
      decidable_of_iff (∀ cost ∈ svc.costCalculator, (actualCost cost quote response).isOk = true)
        (by simp only [EndsCleanly, outcome])
  | .error exc _ => decidable_of_iff (exc.isException = true) (by simp only [EndsCleanly, outcome])

end ChatService
end Settlement

/-! ## A cancelled request -/

open ChatService

def april : Datetime := .ofDate .aprilFirst

/-- An unused blocking budget of ten dollars. -/
def unusedBudget : Budget :=
  { id := "budget-1"
    teamId := "team-1"
    limitAmount := 10
    currentUsage := 0
    reserved := 0
    period := .monthly
    periodStart := april
    periodEnd := computePeriodEnd .monthly april
    policy := .BLOCK
    enabled := true
    updatedAt := april }

def unusedWorld : World BudgetTable AsyncSession :=
  ⟨fun teamId => if teamId = "team-1" then some unusedBudget else none, .fresh, []⟩

/-- The reservation of a request against it, whose executor is this one. -/
def unusedRun (execute : EStateM Exc BudgetTable ChatCompletionResponse) :
    Option (Reservation × World BudgetTable AsyncSession) :=
  reservationOf (oneProvider april execute) defaultSettings globalDefaultPolicy hello "req-1"
    (some member) unusedWorld

def unusedResult (execute : EStateM Exc BudgetTable ChatCompletionResponse) :
    EStateM.Result Exc (World BudgetTable AsyncSession) ChatCompletionResponse :=
  (complete (oneProvider april execute) defaultSettings globalDefaultPolicy hello "req-1"
    (some member)).run unusedWorld

theorem cancelled_never_settled :
    ∃ reservation reserved, unusedRun (throw .cancelledError) = some (reservation, reserved) ∧
      reservation.budgetObj.isSome = true ∧ 0 < reservation.quote.estimatedCost ∧
      ¬ SettledOnce member (unusedResult (throw .cancelledError))
        reservation.quote.estimatedCost := by
  have found : (unusedRun (throw .cancelledError)).map (fun (reservation, _) =>
      (reservation.budgetObj.isSome, decide (0 < reservation.quote.estimatedCost))) =
        some (true, true) := by decide +kernel
  have unsettled : (exitState (unusedResult (throw .cancelledError))).settlements = [] := by
    decide +kernel
  obtain ⟨⟨reservation, reserved⟩, reserves, facts⟩ := Option.map_eq_some_iff.mp found
  simp only [Prod.mk.injEq, decide_eq_true_eq] at facts
  refine ⟨reservation, reserved, reserves, facts.1, facts.2, ?_⟩
  unfold SettledOnce
  rw [unsettled]
  simp

/-- The same request answered by the provider. -/
theorem answered_settledOnce :
    ∃ reservation reserved, unusedRun (pure helloBack) = some (reservation, reserved) ∧
      SettledOnce member (unusedResult (pure helloBack)) reservation.quote.estimatedCost := by
  have found : (unusedRun (pure helloBack)).map (fun (reservation, reserved) =>
      (reservation.budgetObj.isSome, decide (0 < reservation.quote.estimatedCost),
        decide (EndsCleanly (oneProvider april (pure helloBack)) globalDefaultPolicy hello
          reservation.quote reserved))) = some (true, true, true) := by decide +kernel
  obtain ⟨⟨reservation, reserved⟩, reserves, facts⟩ := Option.map_eq_some_iff.mp found
  simp only [Prod.mk.injEq, decide_eq_true_eq] at facts
  obtain ⟨held, positive, clean⟩ := facts
  exact ⟨reservation, reserved, reserves,
    (settledOnce_iff_endsCleanly _ _ _ _ _ _ _ _ _ rfl reserves held positive).mpr clean⟩

end CortexGateway
