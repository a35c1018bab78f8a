import CortexGateway.Auth.Schemas
import CortexGateway.Lib.Exits
import CortexGateway.Policy.Schemas

/-! # The request log

`app/observability/log_writer.py`.  A `RequestLog` is the dict the builders
build: the columns of a row that its writer sets. -/
set_option autoImplicit false
namespace CortexGateway

structure RequestLog where
  requestId : String
  traceId : Option String
  organizationId : String
  teamId : String
  provider : Option String := none
  model : Option String := none
  routingMode : Option RoutingMode := none
  status : String
  httpStatusCode : ℕ
  errorCode : Option String := none
  latencyMs : Option ℚ := none
  promptTokens : Option ℤ := none
  completionTokens : Option ℤ := none
  totalTokens : Option ℤ := none
  estimatedCost : Option ℚ := none
  actualCost : Option ℚ := none
  retryCount : ℕ := 0
  failoverTriggered : Bool := false
  failoverFromProvider : Option String := none
  failoverToProvider : Option String := none
  circuitBreakerState : Option String := none
  budgetPolicyApplied : Option Budgeting.BudgetPolicy := none
  budgetAction : Option String := none
  cacheHit : Bool := false
  experimentId : Option String := none
  experimentVersion : Option ℤ := none
  experimentArm : Option String := none
  guardrailsTriggered : Option (List String) := none
  guardrailAction : Option String := none
  deriving DecidableEq

/-- The request a log is about. -/
structure LoggedRequest where
  requestId : String
  context : RequestContext
  traceId : Option String

def buildSuccessLog (request : LoggedRequest) (response : ChatCompletionResponse)
    (budgetPolicy : Budgeting.BudgetPolicy) (guardrailsTriggered : Option (List String))
    (guardrailAction : Option String) : RequestLog :=
  let metadata := response.metadata
  { requestId := request.requestId
    traceId := request.traceId
    organizationId := request.context.organizationId
    teamId := request.context.teamId
    provider := metadata.selectedProvider
    model := metadata.selectedModel
    routingMode := metadata.routingMode
    status := "success"
    httpStatusCode := 200
    latencyMs := some metadata.latencyMs
    promptTokens := response.usage.promptTokens
    completionTokens := response.usage.completionTokens
    totalTokens := response.usage.totalTokens
    estimatedCost := metadata.estimatedCost
    actualCost := metadata.actualCost
    retryCount := metadata.retryCount
    failoverTriggered := metadata.failoverTriggered
    failoverFromProvider := if metadata.failoverTriggered then metadata.originalProvider else none
    failoverToProvider := if metadata.failoverTriggered then metadata.selectedProvider else none
    circuitBreakerState := metadata.circuitBreakerState
    budgetPolicyApplied := some budgetPolicy
    budgetAction := some (if metadata.budgetDowngraded then "downgraded"
      else if metadata.budgetWarning then "warned" else "none")
    cacheHit := metadata.cacheHit
    experimentId := metadata.experimentId
    experimentVersion := metadata.experimentVersion
    experimentArm := metadata.experimentArm
    guardrailsTriggered := guardrailsTriggered
    guardrailAction := guardrailAction }

def buildErrorLog (request : LoggedRequest) (status : String) (httpStatusCode : ℕ)
    (errorCode : String) (budgetAction : Option String := none)
    (guardrailsTriggered : Option (List String) := none)
    (guardrailAction : Option String := none) : RequestLog :=
  { requestId := request.requestId
    traceId := request.traceId
    organizationId := request.context.organizationId
    teamId := request.context.teamId
    status := status
    httpStatusCode := httpStatusCode
    errorCode := some errorCode
    budgetAction := budgetAction
    guardrailsTriggered := guardrailsTriggered
    guardrailAction := guardrailAction }

section Write
variable {σ : Type} (insert : RequestLog → EStateM Exc σ Unit)

/-- A log without a request id is skipped, and a failing database loses the row. -/
def writeRequestLog (log : RequestLog) : EStateM Exc σ Unit :=
  tryCatch (if log.requestId = "" then pure () else insert log)
    fun exc => if exc.isException then pure () else throw exc

/-- No failure of a write reaches its caller. -/
theorem writeRequestLog_ends (log : RequestLog) (s : σ) :
    Exits.Ends (writeRequestLog insert log) s (fun _ _ => True)
      fun exc _ => exc.isException = false := by
  unfold writeRequestLog
  cases outcome : (if log.requestId = "" then pure () else insert log : EStateM Exc σ Unit).run s with
  | ok value after => exact Exits.ends_tryCatch_returned outcome trivial
  | error exc after =>
      apply Exits.ends_tryCatch_raised outcome
      cases ordinary : exc.isException with
      | true => exact trivial
      | false => exact ordinary

end Write

end CortexGateway
