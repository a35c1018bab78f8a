import CortexGateway.Guardrails.Runner
import CortexGateway.Observability.LogWriter
import CortexGateway.Services.ChatService

/-! # The chat completion endpoint

`app/api/v1/endpoints/chat.py`.  The metrics are left out: whatever happens to
them is swallowed.  Tasks are added to the background tasks of the request;
FastAPI runs them once the response has been sent. -/
set_option autoImplicit false
namespace CortexGateway

/-- What FastAPI injects; `complete` gets no team rate-limit service. -/
structure ChatDependencies (σ τ : Type) where
  rateLimiter : RateLimits → EStateM Exc σ RateLimitOutcome
  routingEngine : RoutingEngine
  buildCandidates : EStateM Exc σ (List RoutingCandidate)
  semanticCache : ChatCompletionRequest → RequestContext →
    EStateM Exc σ (Option ChatCompletionResponse)
  experimentDigest : String → ℕ
  budgetService : BudgetClient (σ × τ)
  costCalculator : CostClient
  execute : ChatCompletionRequest → String → String → RoutingMode →
    EStateM Exc σ ChatCompletionResponse

def ChatDependencies.collaborators {σ τ : Type} (deps : ChatDependencies σ τ) :
    Collaborators σ τ :=
  { rateLimiter := some deps.rateLimiter
    teamRequestsPerMinute := none
    routingEngine := deps.routingEngine
    buildCandidates := deps.buildCandidates
    semanticCache := some deps.semanticCache
    experimentDigest := deps.experimentDigest
    budgetService := some deps.budgetService
    costCalculator := some deps.costCalculator
    execute := deps.execute }

theorem ChatDependencies.collaborators_execute {σ τ : Type} (deps : ChatDependencies σ τ) :
    deps.collaborators.execute = deps.execute := rfl

structure ChatSettings extends Settings where
  requestLogEnabled : Bool

inductive ChatError
  | guardrailBlocked (guardrail : String) (guardrailsTriggered : List String)
      (reasonCode : Option String) (message : String)
  | pipeline (exc : Exc)
  deriving DecidableEq

structure ChatState (σ τ : Type) where
  world : World σ τ
  backgroundTasks : List RequestLog

section Endpoint
variable {σ τ : Type}

abbrev ChatM (σ τ : Type) := EStateM ChatError (ChatState σ τ)

def awaitComplete {α : Type} (program : ServiceM σ τ α) : ChatM σ τ α := fun state =>
  match program.run state.world with
  | .ok value world => .ok value { state with world := world }
  | .error exc world => .error (.pipeline exc) { state with world := world }

variable (deps : ChatDependencies σ τ) (patterns : GuardrailPatterns) (settings : ChatSettings)
variable (policy : ResolvedPolicy) (request : ChatCompletionRequest)

/-- `background_tasks.add_task(write_request_log, log)`. -/
def addLogTask (log : RequestLog) : ChatM σ τ Unit :=
  if settings.requestLogEnabled then
    modify fun state => { state with backgroundTasks := state.backgroundTasks ++ [log] }
  else pure ()

/-- The result that a block is reported for. -/
def primaryBlock (guardrailRun : GuardrailRunResult) : Option GuardrailResult :=
  (guardrailRun.results.find? (·.action = .block)).or guardrailRun.results.head?

def triggeredJson (guardrailRun : GuardrailRunResult) : Option (List String) :=
  if guardrailRun.anyTriggered then some guardrailRun.triggeredNames else none

def guardrailLog (logged : LoggedRequest) (guardrailRun : GuardrailRunResult) : RequestLog :=
  buildErrorLog logged "guardrail_blocked" 400 "INVALID_REQUEST" none (triggeredJson guardrailRun)
    (some "block")

def guardrailError (guardrailRun : GuardrailRunResult) : ChatError :=
  let primary := primaryBlock guardrailRun
  .guardrailBlocked ((primary.map GuardrailResult.guardrail).getD "unknown")
    guardrailRun.triggeredNames (primary.bind GuardrailResult.reasonCode)
    "Request blocked by guardrail."

/-- The three `except` clauses. -/
def failureLog (logged : LoggedRequest) (exc : Exc) : RequestLog :=
  match exc with
  | .rateLimitExceeded .. => buildErrorLog logged "rate_limited" 429 exc.code
  | .budgetExceeded .. => buildErrorLog logged "budget_blocked" 402 exc.code (some "blocked")
  | _ => buildErrorLog logged "failure" exc.statusCode exc.code

def GuardrailAction.text : GuardrailAction → String
  | .warn => "warn"
  | .block => "block"

def successLog (logged : LoggedRequest) (guardrailRun : GuardrailRunResult)
    (response : ChatCompletionResponse) : RequestLog :=
  buildSuccessLog logged response policy.budgetAction (triggeredJson guardrailRun)
    (if guardrailRun.anyTriggered then guardrailRun.finalAction.map GuardrailAction.text else none)

def chatCompletions (logged : LoggedRequest) : ChatM σ τ ChatCompletionResponse := do
  let guardrailRun := GuardrailRunner.run patterns request policy.guardrails
  if guardrailRun.isBlocked then
    addLogTask settings (guardrailLog logged guardrailRun)
    throw (guardrailError guardrailRun)
  else
    let response ← tryCatch
      (awaitComplete (ChatService.complete deps.collaborators settings.toSettings policy request
        logged.requestId (some logged.context)))
      fun exc => do
        match exc with
        | .pipeline exc => if exc.isException then addLogTask settings (failureLog logged exc)
        | .guardrailBlocked .. => pure ()
        throw exc
    addLogTask settings (successLog policy logged guardrailRun response)
    return response

/-- The `write_request_log` calls that FastAPI makes for a request. -/
def writesRun (sent : Bool) :
    EStateM.Result ChatError (ChatState σ τ) ChatCompletionResponse → List RequestLog
  | .ok _ state => if sent then state.backgroundTasks else []
  | .error .. => []

end Endpoint

/-! ## One provider -/

/-- The gateway's own budget and costs, a rate limiter that lets everything
pass and an empty cache. -/
def oneProviderDependencies (now : Datetime)
    (execute : EStateM Exc Budgeting.BudgetTable ChatCompletionResponse) :
    ChatDependencies Budgeting.BudgetTable Budgeting.AsyncSession :=
  { rateLimiter := fun _ => pure ⟨true, ⟨"key", 99, 0⟩⟩
    routingEngine := ⟨⟨["groq"]⟩, .auto⟩
    buildCandidates := pure []
    semanticCache := fun _ _ => pure none
    experimentDigest := fun _ => 0
    budgetService := budgetClient now now
    costCalculator := costClient ⟨llamaCatalog⟩
    execute := fun _ _ _ _ => execute }

end CortexGateway
