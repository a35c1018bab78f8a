import CortexGateway.Auth.Schemas
import CortexGateway.Budget.Cost
import CortexGateway.Budget.Service
import CortexGateway.Experiment.Assigner
import CortexGateway.RateLimit.Models
import CortexGateway.Routing.Router

/-! # The chat service

`app/services/chat_service.py`.  `complete` is cut where its section comments
cut it.  What it is given or awaits is a collaborator: a program over the
state that all requests share, for the budget service together with the
session of this request.  An await may end in any exception, cancellation
included.  `calls` lists the awaits that matter to the accounts, latest first,
and is read by no function. -/
set_option autoImplicit false
namespace CortexGateway
open Budgeting

/-- The settings `complete` reads. -/
structure Settings where
  rateLimitEnabled : Bool
  rateLimitApiKeyRequests : ℤ
  rateLimitApiKeyWindowSeconds : ℤ
  rateLimitTeamRequests : ℤ
  rateLimitTeamWindowSeconds : ℤ
  rateLimitOrgRequests : ℤ
  rateLimitOrgWindowSeconds : ℤ
  budgetEnabled : Bool
  budgetWarningThresholdPercent : ℕ
  budgetExposeRemaining : Bool

structure BudgetClient (σ : Type) where
  getBudget : String → EStateM Exc σ (Option Budget)
  checkAndReserve : String → ℚ → ℕ → EStateM Exc σ (Option Budget × Bool)
  reconcile : String → ℚ → ℚ → EStateM Exc σ (Option Budget)
  releaseReservation : String → ℚ → EStateM Exc σ Unit

structure CostClient where
  estimateCost : String → String → ChatCompletionRequest → ℚ
  calculateActualCost : String → String → Option UsageMetadata → ℚ → Except Exc ℚ

/-- What `ChatService` holds and what `complete` is passed; `none` is disabled. -/
structure Collaborators (σ τ : Type) where
  rateLimiter : Option (RateLimits → EStateM Exc σ RateLimitOutcome)
  teamRequestsPerMinute : Option (String → EStateM Exc σ (Option ℤ))
  routingEngine : RoutingEngine
  buildCandidates : EStateM Exc σ (List RoutingCandidate)
  semanticCache : Option (ChatCompletionRequest → RequestContext →
    EStateM Exc σ (Option ChatCompletionResponse))
  experimentDigest : String → ℕ
  budgetService : Option (BudgetClient (σ × τ))
  costCalculator : Option CostClient
  execute : ChatCompletionRequest → String → String → RoutingMode →
    EStateM Exc σ ChatCompletionResponse

inductive Call
  | lookup
  | checkAndReserve (teamId : String) (estimatedCost : ℚ)
  | execute (provider model : String)
  | releaseReservation (teamId : String) (estimatedCost : ℚ)
  | reconcile (teamId : String) (estimatedCost actualCost : ℚ)
  | store (response : ChatCompletionResponse)
  deriving DecidableEq

/-- `shared` is seen by every request, `session` is the session of this one. -/
structure World (σ τ : Type) where
  shared : σ
  session : τ
  calls : List Call

section Monad
variable {σ τ α : Type}

abbrev ServiceM (σ τ : Type) := EStateM Exc (World σ τ)

def awaitShared (program : EStateM Exc σ α) : ServiceM σ τ α := fun world =>
  match program.run world.shared with
  | .ok value shared => .ok value { world with shared := shared }
  | .error exc shared => .error exc { world with shared := shared }

def awaitSession (program : EStateM Exc (σ × τ) α) : ServiceM σ τ α := fun world =>
  match program.run (world.shared, world.session) with
  | .ok value (shared, session) => .ok value { world with shared := shared, session := session }
  | .error exc (shared, session) => .error exc { world with shared := shared, session := session }

def note (call : Call) : ServiceM σ τ Unit :=
  modify fun world => { world with calls := call :: world.calls }

/-- `try: program except Exception: handler; raise`. -/
def onException (program : ServiceM σ τ α) (handler : ServiceM σ τ Unit) : ServiceM σ τ α :=
  tryCatch program fun exc => do
    if exc.isException then handler
    throw exc

/-- `try: program except Exception: pass`, with a default. -/
def failOpen (program : ServiceM σ τ α) (fallback : α) : ServiceM σ τ α :=
  tryCatch program fun exc => if exc.isException then pure fallback else throw exc

end Monad

/-- Explicit provider and concrete model, in manual mode or with no mode and no
required capabilities. -/
def ChatCompletionRequest.isManual (request : ChatCompletionRequest) : Bool :=
  request.routingMode = some .manual ||
    (request.provider.getD "" ≠ "" && lower request.model ≠ "auto" &&
      request.routingMode = none && request.requiredCaps = [])

structure Target where
  provider : String
  model : String
  routingMode : RoutingMode
  deriving DecidableEq

/-- Whether a candidate can stand in for the original one within the budget. -/
def affordable (cost : CostClient) (request : ChatCompletionRequest) (target : Target)
    (remaining : ℚ) (c : RoutingCandidate) : Bool :=
  c.isHealthy && !(c.provider = target.provider && c.model = target.model) &&
    (request.requiredCaps.all fun r => (c.capabilities.map lower).contains (lower r)) &&
    cost.estimateCost c.provider c.model request ≤ remaining

/-- What is reserved: the target after any downgrade, and its estimated cost. -/
structure Quote where
  target : Target
  estimatedCost : ℚ
  budgetDowngraded : Bool
  deriving DecidableEq

structure Reservation where
  quote : Quote
  budgetObj : Option Budget
  budgetWarning : Bool

/-- What the steps before the budget hand on. -/
structure Admitted where
  target : Target
  rateLimitRemaining : Option ℤ
  assignment : Option ExperimentAssignment

namespace ChatService
variable {σ τ : Type} (svc : Collaborators σ τ) (settings : Settings) (policy : ResolvedPolicy)
variable (request : ChatCompletionRequest) (requestId : String) (context : Option RequestContext)

/-! ## Steps 1 to 3 -/

/-- The team's override, else the global default; a failing database does not
fail the request. -/
def teamRpm (context : RequestContext) : ServiceM σ τ ℤ := do
  match svc.teamRequestsPerMinute with
  | some teamRateLimitService =>
      if context.teamId = "" then return settings.rateLimitTeamRequests
      let teamOverride ← failOpen (awaitShared (teamRateLimitService context.teamId)) none
      return teamOverride.getD settings.rateLimitTeamRequests
  | none => return settings.rateLimitTeamRequests

def checkRateLimits : ServiceM σ τ (Option ℤ) := do
  match context, svc.rateLimiter, settings.rateLimitEnabled with
  | some context, some rateLimiter, true =>
      let teamLimit ← teamRpm svc settings context
      let outcome ← awaitShared (rateLimiter
        { apiKeyId := context.apiKeyId
          teamId := context.teamId
          orgId := context.organizationId
          keyLimit := settings.rateLimitApiKeyRequests
          keyWindow := settings.rateLimitApiKeyWindowSeconds
          teamLimit := teamLimit
          teamWindow := settings.rateLimitTeamWindowSeconds
          orgLimit := settings.rateLimitOrgRequests
          orgWindow := settings.rateLimitOrgWindowSeconds })
      if outcome.allowed then return some outcome.bindingResult.remaining
      else
        throw (.rateLimitExceeded "Rate limit exceeded. Please retry after the window resets."
          outcome.bindingResult.retryAfterSeconds outcome.bindingResult.scope)
  | _, _, _ => return none

/-- `route` awaits the candidates unless it resolves the request to manual mode. -/
def routableCandidates : ServiceM σ τ (List RoutingCandidate) :=
  if svc.routingEngine.resolveRoutingMode request = .manual then pure []
  else awaitShared svc.buildCandidates

def manualTarget : Except Exc Target :=
  let provider := request.provider.getD ""
  if provider = "" || lower request.model = "auto" then
    .error (.provider .invalidManualRoutingError ("Manual routing mode requires both a valid " ++
      "'provider' and a concrete 'model' name."))
  else .ok ⟨provider, request.model, .manual⟩

def resolveTarget : ServiceM σ τ Target := do
  if request.isManual then ofExcept (manualTarget request)
  else
    let candidates ← routableCandidates svc request
    -- the mode of the decision replaces the strategy of the policy
    let decision ← ofExcept (svc.routingEngine.route request candidates)
    return ⟨decision.provider, decision.model, decision.routingMode⟩

def lookupCache : ServiceM σ τ (Option ChatCompletionResponse) := do
  match svc.semanticCache, context, policy.cacheEnabled with
  | some lookup, some context, true =>
      note .lookup
      awaitShared (lookup request context)
  | _, _, _ => return none

def assignExperiment : Option ExperimentAssignment := do
  let context ← context
  ExperimentAssigner.assign svc.experimentDigest context.teamId requestId policy.experiment

/-- Steps 1 to 3: an answer from the cache, or the target to reserve for. -/
def admission : ServiceM σ τ (ChatCompletionResponse ⊕ Admitted) := do
  let rateLimitRemaining ← checkRateLimits svc settings context
  let target ← resolveTarget svc request
  match ← lookupCache svc policy request context with
  | some cached =>
      return .inl { cached with
        metadata := { cached.metadata with
          rateLimitRemaining := rateLimitRemaining
          requestId := requestId } }
  | none =>
      match assignExperiment svc policy requestId context with
      | some assignment =>
          return .inr ⟨{ target with provider := assignment.provider, model := assignment.model },
            rateLimitRemaining, some assignment⟩
      | none => return .inr ⟨target, rateLimitRemaining, none⟩

/-! ## Step 4 -/

/-- `_attempt_budget_downgrade`. -/
def attemptBudgetDowngrade (budgetService : BudgetClient (σ × τ)) (cost : CostClient)
    (context : RequestContext) (target : Target) (estimatedCost : ℚ) : ServiceM σ τ Quote := do
  let original : Quote := ⟨target, estimatedCost, false⟩
  match ← awaitSession (budgetService.getBudget context.teamId) with
  | none => return original
  | some budget =>
      let remaining := budget.remainingAmount
      if !budget.enabled || estimatedCost ≤ remaining then return original
      else
        let allCandidates ← awaitShared svc.buildCandidates
        let pool := allCandidates.filter (affordable cost request target remaining)
        match scoreCandidates pool defaultWeights with
        | [] => throw (.budgetExceeded ("Budget exhausted and no cheaper compatible provider " ++
            "found. Remaining: $" ++ formatFixed6 remaining ++ ".") context.teamId remaining)
        | best :: _ =>
            let chosen : Target :=
              { target with provider := best.candidate.provider, model := best.candidate.model }
            return ⟨chosen, cost.estimateCost chosen.provider chosen.model request, true⟩

/-- The estimate and, for a DOWNGRADE policy, the cheaper target. -/
def quote (target : Target) : ServiceM σ τ Quote := do
  match context, svc.budgetService, svc.costCalculator, settings.budgetEnabled with
  | some context, some budgetService, some cost, true =>
      let estimatedCost := cost.estimateCost target.provider target.model request
      if policy.budgetAction = .DOWNGRADE then
        attemptBudgetDowngrade svc request budgetService cost context target estimatedCost
      else return ⟨target, estimatedCost, false⟩
  | _, _, _, _ => return ⟨target, 0, false⟩

def reserve (quote : Quote) : ServiceM σ τ Reservation := do
  match context, svc.budgetService, svc.costCalculator, settings.budgetEnabled with
  | some context, some budgetService, some _, true =>
      note (.checkAndReserve context.teamId quote.estimatedCost)
      let (budgetObj, budgetWarning) ← awaitSession (budgetService.checkAndReserve context.teamId
        quote.estimatedCost settings.budgetWarningThresholdPercent)
      return ⟨quote, budgetObj, budgetWarning⟩
  | _, _, _, _ => return ⟨quote, none, false⟩

/-- Everything before the reservation: an answer from the cache, or the quote. -/
def prepare : ServiceM σ τ (ChatCompletionResponse ⊕ Admitted × Quote) := do
  match ← admission svc settings policy request requestId context with
  | .inl cached => return .inl cached
  | .inr admitted =>
      let quote ← quote svc settings policy request context admitted.target
      return .inr (admitted, quote)

/-! ## Steps 5 to 8 -/

/-- Releases the reservation of a failed request; a failing release is logged. -/
def releaseFailed (estimatedCost : ℚ) : ServiceM σ τ Unit := do
  match context, svc.budgetService with
  | some context, some budgetService =>
      if 0 < estimatedCost then
        note (.releaseReservation context.teamId estimatedCost)
        failOpen (awaitSession (budgetService.releaseReservation context.teamId estimatedCost)) ()
  | _, _ => return ()

/-- The request the executor gets: no failover when the policy has none. -/
def execRequest : ChatCompletionRequest :=
  if !policy.fallbackEnabled && request.failoverEnabled ≠ some false then
    { request with failoverEnabled := some false }
  else request

def executeProvider (quote : Quote) : ServiceM σ τ ChatCompletionResponse :=
  onException
    (do
      note (.execute quote.target.provider quote.target.model)
      awaitShared (svc.execute (execRequest policy request) quote.target.provider quote.target.model
        quote.target.routingMode))
    (releaseFailed svc context quote.estimatedCost)

/-- `first or second` for strings. -/
def orElse (first : Option String) (second : String) : String :=
  if first.getD "" = "" then second else first.getD ""

/-- The cost of what the provider and model that answered have used. -/
def actualCost (cost : CostClient) (quote : Quote) (response : ChatCompletionResponse) :
    Except Exc ℚ :=
  cost.calculateActualCost (orElse response.metadata.selectedProvider quote.target.provider)
    (orElse response.metadata.selectedModel quote.target.model) (some response.usage)
    quote.estimatedCost

/-- The actual cost and the remaining budget, if it is exposed. -/
def settle (quote : Quote) (response : ChatCompletionResponse) : ServiceM σ τ (ℚ × Option ℚ) := do
  match context, svc.budgetService, svc.costCalculator with
  | some context, some budgetService, some cost =>
      if 0 ≤ quote.estimatedCost then
        let actualCost ← ofExcept (actualCost cost quote response)
        note (.reconcile context.teamId quote.estimatedCost actualCost)
        let reconciled ← awaitSession (budgetService.reconcile context.teamId quote.estimatedCost
          actualCost)
        return (actualCost,
          if settings.budgetExposeRemaining then reconciled.map Budget.remainingAmount else none)
      else return (0, none)
  | _, _, _ => return (0, none)

def attachMetadata (admitted : Admitted) (reservation : Reservation) (actualCost : ℚ)
    (remainingBudget : Option ℚ) (response : ChatCompletionResponse) : ChatCompletionResponse :=
  let positive (cost : ℚ) : Option ℚ := if cost = 0 then none else some (roundTo cost 8)
  let metadata := { response.metadata with
    estimatedCost := positive reservation.quote.estimatedCost
    actualCost := positive actualCost
    remainingBudget := remainingBudget
    budgetWarning := reservation.budgetWarning
    budgetDowngraded := reservation.quote.budgetDowngraded
    rateLimitRemaining := admitted.rateLimitRemaining }
  match admitted.assignment with
  | some assignment =>
      { response with
        metadata := { metadata with
          experimentId := some assignment.experimentId
          experimentVersion := some assignment.experimentVersion
          experimentArm := some assignment.armName } }
  | none => { response with metadata := metadata }

/-- The cache write is scheduled, not awaited. -/
def scheduleStore (response : ChatCompletionResponse) : ServiceM σ τ Unit :=
  if svc.semanticCache.isSome && context.isSome then note (.store response) else pure ()

/-- Steps 5 to 8. -/
def serve (admitted : Admitted) (reservation : Reservation) :
    ServiceM σ τ ChatCompletionResponse := do
  let response ← executeProvider svc policy request context reservation.quote
  let (actualCost, remainingBudget) ← settle svc settings context reservation.quote response
  let response := attachMetadata admitted reservation actualCost remainingBudget response
  scheduleStore svc context response
  return response

def complete : ServiceM σ τ ChatCompletionResponse := do
  match ← prepare svc settings policy request requestId context with
  | .inl cached => return cached
  | .inr (admitted, quote) =>
      let reservation ← reserve svc settings context quote
      serve svc settings policy request context admitted reservation

/-- The quote a request comes to, with the state in which it is reserved. -/
def quoteOf (world : World σ τ) : Option (Admitted × Quote × World σ τ) :=
  match (prepare svc settings policy request requestId context).run world with
  | .ok (.inr (admitted, quote)) quoted => some (admitted, quote, quoted)
  | _ => none

/-- Budgets are switched on for this request. -/
def budgeted : Bool :=
  context.isSome && svc.budgetService.isSome && svc.costCalculator.isSome && settings.budgetEnabled

/-- The quote `check_and_reserve` is called with, and the state it is called in. -/
def checkedQuote (world : World σ τ) : Option (Quote × World σ τ) := do
  let (_, quote, quoted) ← quoteOf svc settings policy request requestId context world
  guard (budgeted svc settings context)
  return (quote, quoted)

/-- The reservation a request makes, with the state after it. -/
def reservationOf (world : World σ τ) : Option (Reservation × World σ τ) := do
  let (_, quote, quoted) ← quoteOf svc settings policy request requestId context world
  match (reserve svc settings context quote).run quoted with
  | .ok reservation reserved => some (reservation, reserved)
  | .error .. => none

end ChatService

/-! ## The gateway's own budget service -/

/-- A call of `BudgetService` on the session of the request. -/
def onSession {α : Type} (program : BudgetM α) : EStateM Exc (BudgetTable × AsyncSession) α :=
  fun (budgets, session) =>
    match program.run ⟨budgets, session⟩ with
    | .ok value store => .ok value (store.budgets, store.session)
    | .error exc store => .error exc (store.budgets, store.session)

/-- The calls read the clock when the request reserves and when it settles. -/
def budgetClient (reservedAt settledAt : Datetime) : BudgetClient (BudgetTable × AsyncSession) :=
  { getBudget := fun teamId => onSession (getBudget teamId)
    checkAndReserve := fun teamId estimatedCost percent =>
      onSession (checkAndReserve teamId estimatedCost percent reservedAt)
    reconcile := fun teamId estimatedCost actualCost =>
      onSession (reconcile teamId estimatedCost actualCost settledAt)
    releaseReservation := fun teamId estimatedCost =>
      onSession (releaseReservation teamId estimatedCost settledAt) }

def costClient (calculator : CostCalculator) : CostClient :=
  { estimateCost := calculator.estimateCost
    calculateActualCost := fun provider model usage estimatedCost =>
      .ok (calculator.calculateActualCost provider model usage estimatedCost) }

/-! ## One provider -/

/-- Half a cent a thousand input tokens, a cent a thousand output tokens. -/
def llamaPrices : ModelMetadata :=
  { provider := "groq"
    model := "llama"
    costPer1kTokens := 1/100
    inputCostPer1k := 1/200
    outputCostPer1k := 1/100
    capabilities := ["text"]
    contextWindow := 8192
    baselineLatencyMs := 500
    costNonneg := by norm_num
    inputCostNonneg := by norm_num
    outputCostNonneg := by norm_num }

def llamaModel : RoutingCandidate := ⟨"groq", "llama", ["text"], 8192, 1/100, true, 500, none, 1, 0⟩

def llamaCatalog : ModelMetadataCatalog :=
  ⟨fun name => if name = "groq:llama" then some llamaPrices else none, 0, free_nonneg⟩

/-- The gateway's own budget and costs, no rate limits and no cache. -/
def oneProvider (now : Datetime) (execute : EStateM Exc BudgetTable ChatCompletionResponse) :
    Collaborators BudgetTable AsyncSession :=
  { rateLimiter := none
    teamRequestsPerMinute := none
    routingEngine := ⟨⟨["groq"]⟩, .auto⟩
    buildCandidates := pure []
    semanticCache := none
    experimentDigest := fun _ => 0
    budgetService := some (budgetClient now now)
    costCalculator := some (costClient ⟨llamaCatalog⟩)
    execute := fun _ _ _ _ => execute }

def defaultSettings : Settings := ⟨true, 100, 60, 500, 60, 2000, 60, true, 80, false⟩

def member : RequestContext := ⟨"org-1", "team-1", "key-1", "member"⟩

end CortexGateway
