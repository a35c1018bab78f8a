import CortexGateway.Reliability.Targets
import CortexGateway.Services.Settlement

/-! # What a reservation covers

The estimate that is reserved is the estimate of the first target.  The
executor calls this target until it fails over; a fallback is chosen by its
score, and its estimate is compared with nothing. -/
set_option autoImplicit false
namespace CortexGateway
open Budgeting Exits Reliability Transition

namespace ChatService
section Covered
variable {σ τ : Type} (svc : Collaborators σ τ) (settings : Settings) (policy : ResolvedPolicy)
variable (request : ChatCompletionRequest) (requestId : String) (context : Option RequestContext)

/-- What `complete` passes to the executor. -/
def executorArguments (quote : Quote) : Arguments :=
  ⟨execRequest policy request, quote.target.provider, quote.target.model,
    some quote.target.routingMode⟩

/-! ## The quote -/

/-- The estimate is the one of the target, also after a downgrade. -/
def Estimated (cost : CostClient) (quote : Quote) : Prop :=
  quote.estimatedCost = cost.estimateCost quote.target.provider quote.target.model request

theorem attemptBudgetDowngrade_ends (budgetService : BudgetClient (σ × τ)) (cost : CostClient)
    (present : RequestContext) (target : Target) (world : World σ τ) :
    Ends (attemptBudgetDowngrade svc request budgetService cost present target
        (cost.estimateCost target.provider target.model request)) world
      (fun quote _ => Estimated request cost quote) fun _ _ => True := by
  unfold attemptBudgetDowngrade
  apply ends_bind
  apply ends_any
  · intro found after
    cases found with
    | none => exact ends_pure rfl
    | some budget =>
        dsimp only
        split_ifs
        · exact ends_pure rfl
        · apply ends_bind
          apply ends_any
          · intro candidates later
            split
            · trivial
            · exact ends_pure rfl
          · exact fun _ _ => trivial
  · exact fun _ _ => trivial

theorem quote_ends (cost : CostClient) (calculator : svc.costCalculator = some cost)
    (on : budgeted svc settings context = true) (target : Target) (world : World σ τ) :
    Ends (quote svc settings policy request context target) world
      (fun quote _ => Estimated request cost quote) fun _ _ => True := by
  unfold quote
  split
  · rename_i present budgetService known given same enabled
    rw [calculator] at same
    cases same
    dsimp only
    split_ifs
    · exact attemptBudgetDowngrade_ends svc request budgetService cost present target world
    · exact ends_pure rfl
  · rename_i off
    simp only [budgeted, Bool.and_eq_true, Option.isSome_iff_exists] at on
    obtain ⟨⟨⟨⟨present, given⟩, budgetService, service⟩, -⟩, enabled⟩ := on
    exact absurd enabled fun enabled =>
      off present budgetService cost given service calculator enabled

theorem prepare_ends (cost : CostClient) (calculator : svc.costCalculator = some cost)
    (on : budgeted svc settings context = true) (world : World σ τ) :
    Ends (prepare svc settings policy request requestId context) world
      (fun admission _ => ∀ admitted quote, admission = .inr (admitted, quote) →
        Estimated request cost quote) fun _ _ => True := by
  unfold prepare
  apply ends_bind
  apply ends_any
  · intro admission after
    cases admission with
    | inl cached =>
        apply ends_pure
        intro _ _ same
        cases same
    | inr admitted =>
        apply ends_bind
        apply (quote_ends svc settings policy request context cost calculator on _ _).mono
        · intro quote later estimated
          apply ends_pure
          intro _ _ same
          cases same
          exact estimated
        · exact fun _ _ _ => trivial
  · exact fun _ _ => trivial

/-! ## The reservation -/

/-- The quote was passed to `check_and_reserve`. -/
def Reserved (quote : Quote) (world : World σ τ) : Prop :=
  ∃ teamId, Call.checkAndReserve teamId quote.estimatedCost ∈ world.calls

theorem reserve_reserved (quote : Quote) (on : budgeted svc settings context = true)
    (world : World σ τ) :
    Ends (reserve svc settings context quote) world
      (fun reservation after => reservation.quote = quote ∧ Reserved quote after)
      fun _ _ => True := by
  unfold reserve
  split
  · rename_i present budgetService cost given calculator enabled
    apply ends_bind
    have noted : Ends (note (.checkAndReserve present.teamId quote.estimatedCost) : ServiceM σ τ Unit)
        world (fun _ after => Reserved quote after) fun _ _ => True :=
      ⟨present.teamId, List.mem_cons_self⟩
    apply noted.mono
    · intro _ after reserved
      have stays : Keeps (Reserved quote) (fun _ => True) (awaitSession
          (budgetService.checkAndReserve present.teamId quote.estimatedCost
            settings.budgetWarningThresholdPercent) : ServiceM σ τ (Option Budget × Bool)) :=
        keeps_awaitSession (fun _ _ _ same => same) _ fun _ _ _ _ => trivial
      apply ends_bind
      apply (stays after reserved).mono
      · intro outcome later still
        exact ends_pure ⟨rfl, still⟩
      · exact fun _ _ _ => trivial
    · exact fun _ _ _ => trivial
  · rename_i off
    simp only [budgeted, Bool.and_eq_true, Option.isSome_iff_exists] at on
    obtain ⟨⟨⟨⟨present, given⟩, budgetService, service⟩, cost, calculator⟩, enabled⟩ := on
    exact absurd enabled fun enabled =>
      off present budgetService cost given service calculator enabled

/-! ## What is called for it -/

/-- Until it fails over, the task calls what the reservation is for; without
failover it always does, and a fallback is a candidate with the required
capabilities. -/
structure Covered (cost : CostClient) (reserved : ℚ) (pool : RoutingCandidate → Prop)
    (task : Task) : Prop where
  first : task.failoverTriggered = false →
    cost.estimateCost task.currentProvider task.currentModel request = reserved
  disabled : (execRequest policy request).failoverEnabled = some false →
    cost.estimateCost task.currentProvider task.currentModel request = reserved
  fallback : task.failoverTriggered = true → ∃ c, pool c ∧ task.currentProvider = c.provider ∧
    task.currentModel = c.model ∧
      (request.requiredCaps ≠ [] → supports request.requiredCaps c = true)

@[simp] theorem execRequest_requiredCaps :
    (execRequest policy request).requiredCaps = request.requiredCaps := by
  unfold execRequest
  split_ifs <;> rfl

theorem covered_of_targeted (cost : CostClient) (quote : Quote) (pool : RoutingCandidate → Prop)
    (task : Task) (estimated : Estimated request cost quote)
    (targeted : Targeted (executorArguments policy request quote) pool task) :
    Covered policy request cost quote.estimatedCost pool task := by
  have first : task.failoverTriggered = false →
      cost.estimateCost task.currentProvider task.currentModel request = quote.estimatedCost := by
    intro untriggered
    obtain ⟨provider, model⟩ := targeted.initial untriggered
    rw [provider, model]
    exact estimated.symm
  refine ⟨first, fun disabled => ?_, fun triggered => ?_⟩
  · apply first
    by_contra triggered
    rw [Bool.not_eq_false] at triggered
    exact targeted.enabled (Or.inl triggered) disabled
  · obtain ⟨c, found, provider, model, capable⟩ := targeted.fallback triggered
    exact ⟨c, found, provider, model, by simpa [executorArguments] using capable⟩

/-- The reserved amount is the estimate of what the executor calls until it
fails over. -/
theorem reserved_until_failover (cost : CostClient) (calculator : svc.costCalculator = some cost)
    (on : budgeted svc settings context = true) (world reserved : World σ τ)
    (reservation : Reservation)
    (reserves : reservationOf svc settings policy request requestId context world =
      some (reservation, reserved))
    (executor : ReliabilityExecutor) (system : System) (call : ℕ)
    (absent : system.tasks call = none) (pool : RoutingCandidate → Prop) (actions : List Action)
    (executes : StepsMeet (step executor)
      (Executes (executorArguments policy request reservation.quote) pool call) system actions) :
    Reserved reservation.quote reserved ∧
      HoldsThroughout (step executor) (fun system => ∀ task ∈ system.tasks call,
        Covered policy request cost reservation.quote.estimatedCost pool task) system actions := by
  obtain ⟨admitted, quote, quoted, prepared, reserves⟩ := (reservationOf_eq_some svc settings policy
    request requestId context world reserved reservation).mp reserves
  obtain ⟨rfl, noted⟩ :=
    (reserve_reserved svc settings context quote on quoted).returned reserves
  have estimated := (prepare_ends svc settings policy request requestId context cost calculator on
    world).returned prepared admitted _ rfl
  refine ⟨noted, ?_⟩
  have targeted := requestTargeted_throughout executor
    (executorArguments policy request reservation.quote) pool call system absent actions executes
  exact targeted.imp (step executor) fun system targeted task found =>
    covered_of_targeted policy request cost reservation.quote pool task estimated
      (targeted task found)

end Covered
end ChatService

/-! ## A fallback beyond the reservation -/

open ChatService

/-- Ten times the prices of `llamaPrices`. -/
def grandPrices : ModelMetadata :=
  { llamaPrices with
    provider := "gemini"
    model := "grand"
    costPer1kTokens := 1/10
    inputCostPer1k := 1/20
    outputCostPer1k := 1/10
    costNonneg := by norm_num
    inputCostNonneg := by norm_num
    outputCostNonneg := by norm_num }

def twoPrices : CostClient :=
  costClient ⟨fun name => if name = "groq:llama" then some llamaPrices
    else if name = "gemini:grand" then some grandPrices else none, 0, free_nonneg⟩

def grand : RoutingCandidate := ⟨"gemini", "grand", ["text"], 8192, 1/10, true, 500, none, 1, 0⟩

/-- Two providers, no retries and one failover. -/
def twoProviders : ReliabilityExecutor :=
  { engine := ⟨⟨["gemini", "groq"]⟩, .auto⟩
    retryPolicy := ⟨0, 1/4, 2, false⟩
    totalRequestTimeoutSeconds := 120
    maxFailoverAttempts := 1 }

/-- The reservation of a greeting against the unused blocking budget. -/
def greetingReservation : Option (Reservation × World BudgetTable AsyncSession) :=
  reservationOf { oneProvider april (pure helloBack) with costCalculator := some twoPrices }
    defaultSettings globalDefaultPolicy hello "req-1" (some member) unusedWorld

/-- The provider times out, and the grand model is the only candidate. -/
def failsOver (quote : Quote) : List Action :=
  [.spawn 0 (executorArguments globalDefaultPolicy hello quote),
    .event 0 (.failed (.provider .providerTimeoutError "timed out") 0),
    .event 0 (.candidates [grand])]

/-- The executor calls a model whose estimate is above the reserved amount. -/
theorem fallback_beyond_reservation :
    ∃ reservation reserved, greetingReservation = some (reservation, reserved) ∧
      reservation.budgetObj.isSome = true ∧
      ∃ final task, run (step twoProviders) (start 0 5 1 30) (failsOver reservation.quote) =
          some final ∧
        final.tasks 0 = some task ∧ task.control = .calling 0 ∧
        reservation.quote.estimatedCost <
          twoPrices.estimateCost task.currentProvider task.currentModel hello := by
  have found : (greetingReservation.bind fun (reservation, _) =>
      (run (step twoProviders) (start 0 5 1 30) (failsOver reservation.quote)).bind fun final =>
        (final.tasks 0).map fun task => (reservation.budgetObj.isSome,
          decide (task.control = .calling 0), decide (reservation.quote.estimatedCost <
            twoPrices.estimateCost task.currentProvider task.currentModel hello))) =
      some (true, true, true) := by decide +kernel
  obtain ⟨⟨reservation, reserved⟩, reserves, found⟩ := Option.bind_eq_some_iff.mp found
  obtain ⟨final, taken, found⟩ := Option.bind_eq_some_iff.mp found
  obtain ⟨task, present, facts⟩ := Option.map_eq_some_iff.mp found
  simp only [Prod.mk.injEq, decide_eq_true_eq] at facts
  exact ⟨reservation, reserved, reserves, facts.1, final, task, taken, present, facts.2.1,
    facts.2.2⟩

/-- The call before the timeout is covered. -/
theorem greeting_covered :
    ∃ reservation reserved, greetingReservation = some (reservation, reserved) ∧
      Reserved reservation.quote reserved ∧
      HoldsThroughout (step twoProviders) (fun system => ∀ task ∈ system.tasks 0,
        Covered globalDefaultPolicy hello twoPrices reservation.quote.estimatedCost
          (fun c => c = grand) task) (start 0 5 1 30) (failsOver reservation.quote) := by
  have found : greetingReservation.isSome = true := by decide +kernel
  obtain ⟨⟨reservation, reserved⟩, reserves⟩ := Option.isSome_iff_exists.mp found
  refine ⟨reservation, reserved, reserves, reserved_until_failover _ _ _ _ _ _ twoPrices rfl rfl _ _
    _ reserves twoProviders (start 0 5 1 30) 0 rfl _ _ ?_⟩
  intro before action initial system next first last
  have member : action ∈ failsOver reservation.quote :=
    initial.subset (List.mem_append_right before (List.mem_singleton_self action))
  simp only [failsOver, List.mem_cons, List.not_mem_nil, or_false] at member
  rcases member with rfl | rfl | rfl
  · exact fun _ => rfl
  · trivial
  · intro _ c listed
    exact List.mem_singleton.mp listed

end CortexGateway
