import CortexGateway.Core.Text

/-! # Chat completion schemas

`app/schemas/chat.py`.  What the validators guarantee is part of the types:
message contents are not blank, a request has a message and its sampling
parameters are in range. -/
set_option autoImplicit false
namespace CortexGateway

inductive Role
  | system
  | user
  | assistant
  deriving DecidableEq, Repr

structure ChatMessage where
  role : Role
  content : String
  contentNotEmpty : strip content ≠ ""
  deriving DecidableEq

/-- The `RoutingMode` literals. -/
inductive RoutingMode
  | manual
  | auto
  | lowestCost
  | lowestLatency
  | bestAvailable
  | capabilityBased
  deriving DecidableEq, Repr

structure ChatCompletionRequest where
  provider : Option String
  model : String
  messages : List ChatMessage
  routingMode : Option RoutingMode
  requiredCapabilities : Option (List String)
  temperature : Option ℚ
  maxTokens : Option ℤ
  topP : Option ℚ
  stop : Option (List String)
  failoverEnabled : Option Bool
  stream : Option Bool
  messagesNotEmpty : messages ≠ []
  temperatureRange : ∀ value ∈ temperature, 0 ≤ value ∧ value ≤ 2
  maxTokensPositive : ∀ value ∈ maxTokens, 0 < value
  topPRange : ∀ value ∈ topP, 0 ≤ value ∧ value ≤ 1
  deriving DecidableEq

/-- `request.required_capabilities or []`. -/
def ChatCompletionRequest.requiredCaps (request : ChatCompletionRequest) : List String :=
  request.requiredCapabilities.getD []

/-- `request.model_copy(update={"provider": ..., "model": ...})`. -/
def ChatCompletionRequest.withTarget (request : ChatCompletionRequest) (provider model : String) :
    ChatCompletionRequest :=
  { request with provider := some provider, model := model }

/-- The role of an answer is the literal `assistant`. -/
structure ChatCompletionChoice where
  index : ℤ
  role : Role
  content : String
  finishReason : Option String
  roleAssistant : role = .assistant
  deriving DecidableEq

structure UsageMetadata where
  promptTokens : Option ℤ
  completionTokens : Option ℤ
  totalTokens : Option ℤ
  deriving DecidableEq

structure ResponseMetadata where
  requestId : String
  latencyMs : ℚ
  routingMode : Option RoutingMode := none
  selectedProvider : Option String := none
  selectedModel : Option String := none
  originalProvider : Option String := none
  failoverTriggered : Bool := false
  retryCount : ℕ := 0
  failoverAttempts : ℕ := 0
  circuitBreakerState : Option String := none
  estimatedCost : Option ℚ := none
  actualCost : Option ℚ := none
  remainingBudget : Option ℚ := none
  budgetWarning : Bool := false
  budgetDowngraded : Bool := false
  rateLimitRemaining : Option ℤ := none
  cacheHit : Bool := false
  experimentId : Option String := none
  experimentVersion : Option ℤ := none
  experimentArm : Option String := none
  deriving DecidableEq

structure ChatCompletionResponse where
  id : String
  created : ℤ
  provider : String
  model : String
  choices : List ChatCompletionChoice
  usage : UsageMetadata
  metadata : ResponseMetadata
  deriving DecidableEq

/-! ## A request and its answer -/

def hello : ChatCompletionRequest :=
  { provider := some "groq"
    model := "llama"
    messages := [⟨.user, "hello", by decide +kernel⟩]
    routingMode := none
    requiredCapabilities := none
    temperature := none
    maxTokens := none
    topP := none
    stop := none
    failoverEnabled := some true
    stream := some false
    messagesNotEmpty := by simp
    temperatureRange := by simp
    maxTokensPositive := by simp
    topPRange := by simp }

def helloBack : ChatCompletionResponse :=
  { id := "ctx_1"
    created := 0
    provider := "groq"
    model := "llama"
    choices := [⟨0, .assistant, "hello", some "stop", rfl⟩]
    usage := ⟨some 1, some 1, some 2⟩
    metadata := { requestId := "req-1", latencyMs := 10 } }

end CortexGateway
