import CortexGateway.Lib.Run
import CortexGateway.Reliability.Failover

/-! # The reliability executor

`app/reliability/executor.py` and `retry.py`.  `execute` is cut at its awaits:
a `Task` is one run of it, its `control` says at which await it stands, and
each function below is a stretch of the coroutine between two awaits, which no
other task interleaves and which takes no time.  What an await returns is an
event.  `ticket` (the HALF_OPEN episode a trial slot was taken in), `failures`
(the calls of the current provider that failed) and the departures are read by
no function. -/
set_option autoImplicit false
namespace CortexGateway.Reliability

structure RetryPolicy where
  maxRetries : ℤ
  baseDelaySeconds : ℚ
  maxDelaySeconds : ℚ
  jitter : Bool

/-- `compute_delay`; `draw` in `[0, 1]` is what `random.uniform` draws. -/
def RetryPolicy.computeDelay (policy : RetryPolicy) (retryAttempt : ℕ) (draw : ℚ) : ℚ :=
  let rawDelay := policy.baseDelaySeconds * 2 ^ retryAttempt
  let cappedDelay := min policy.maxDelaySeconds rawDelay
  if policy.jitter then
    let jitterAmount := 15/100 * cappedDelay * draw
    roundTo (min policy.maxDelaySeconds (cappedDelay + jitterAmount)) 4
  else roundTo cappedDelay 4

structure ReliabilityExecutor where
  engine : RoutingEngine
  retryPolicy : RetryPolicy
  totalRequestTimeoutSeconds : ℚ
  maxFailoverAttempts : ℤ

/-- Where a task stands: at the await in `select_fallback`, in a backoff sleep
before an attempt, in a provider call, or at its end. -/
inductive Control
  | selecting (circuitErr : Option Exc)
  | sleeping (attemptIdx : ℕ) (wakeAt : ℚ)
  | calling (attemptIdx : ℕ)
  | returned (response : ChatCompletionResponse)
  | raised (exc : Exc)
  deriving DecidableEq

structure Task where
  request : ChatCompletionRequest
  routingMode : Option RoutingMode
  deadlineTimestamp : ℚ
  originalProvider : String
  attemptedProviders : List String
  retryCount : ℕ
  failoverAttempts : ℕ
  failoverTriggered : Bool
  currentProvider : String
  currentModel : String
  lastError : Option Exc
  control : Control
  ticket : Option ℕ
  failures : List Exc

/-- A request leaves its attempt loop for a provider: the calls that failed
there, and whether `record_failure` was applied. -/
structure Departure where
  provider : String
  failures : List Exc
  recorded : Bool

structure Shared where
  now : ℚ
  circuits : CircuitBreakerRegistry
  departures : List Departure
  successes : List String

def Shared.leave (shared : Shared) (task : Task) (recorded : Bool) : Shared :=
  { shared with
    departures := ⟨task.currentProvider, task.failures, recorded⟩ :: shared.departures }

@[simp] theorem leave_departures (shared : Shared) (task : Task) (recorded : Bool) :
    (shared.leave task recorded).departures =
      ⟨task.currentProvider, task.failures, recorded⟩ :: shared.departures := rfl

@[simp] theorem leave_successes (shared : Shared) (task : Task) (recorded : Bool) :
    (shared.leave task recorded).successes = shared.successes := rfl

@[simp] theorem leave_circuits (shared : Shared) (task : Task) (recorded : Bool) :
    (shared.leave task recorded).circuits = shared.circuits := rfl

def Task.raising (task : Task) (exc : Exc) : Task := { task with control := .raised exc }

/-- `raise last_error if last_error else FailoverExhaustedError()`. -/
def Task.raiseLast (task : Task) : Task :=
  task.raising (task.lastError.getD failoverExhaustedError)

section Executor
variable (executor : ReliabilityExecutor)

/-- The head of the `try` block, up to the await of `provider.chat`.  The
`InvalidProviderError` of the registry is not transient and is raised again. -/
def callProvider (shared : Shared) (task : Task) (attemptIdx : ℕ) : Shared × Task :=
  match executor.engine.registry.get task.currentProvider with
  | .ok _ => (shared, { task with control := .calling attemptIdx })
  | .error exc => (shared.leave task false, { task with lastError := some exc }.raising exc)

/-- The head of the loop body for the first attempt. -/
def firstAttempt (shared : Shared) (task : Task) : Shared × Task :=
  if task.deadlineTimestamp ≤ shared.now then
    (shared.leave task false, task.raising totalDeadlineExceededError)
  else callProvider executor shared task 0

/-- The head of the loop body for a later attempt, with its backoff. -/
def retryAttempt (shared : Shared) (task : Task) (attemptIdx : ℕ) (draw : ℚ) : Shared × Task :=
  if task.deadlineTimestamp ≤ shared.now then
    (shared.leave task false, task.raising totalDeadlineExceededError)
  else
    let delay := executor.retryPolicy.computeDelay (attemptIdx - 1) draw
    if task.deadlineTimestamp ≤ shared.now + delay then
      (shared.leave task false, task.raising totalDeadlineExceededError)
    else
      let task := { task with retryCount := task.retryCount + 1 }
      if 0 < delay then
        (shared, { task with control := .sleeping attemptIdx (shared.now + delay) })
      else callProvider executor shared task attemptIdx

/-- After the retry loop. -/
def failoverTrigger (shared : Shared) (task : Task) (recorded : Bool) : Shared × Task :=
  let shared := shared.leave task recorded
  if task.request.failoverEnabled = some false then (shared, task.raiseLast)
  else if executor.maxFailoverAttempts ≤ (task.failoverAttempts : ℤ) then (shared, task.raiseLast)
  else (shared, { task with control := .selecting none })

/-- The `except Exception` branch of an attempt. -/
def attemptFailed (shared : Shared) (task : Task) (attemptIdx : ℕ) (exc : Exc) (draw : ℚ) :
    Shared × Task :=
  let task := { task with lastError := some exc, failures := exc :: task.failures }
  if !isTransientError exc then (shared.leave task false, task.raising exc)
  else if (attemptIdx : ℤ) = executor.retryPolicy.maxRetries then
    failoverTrigger executor
      { shared with
        circuits := shared.circuits.recordFailure task.currentProvider exc shared.now } task true
  else retryAttempt executor shared task (attemptIdx + 1) draw

/-- The success path of an attempt. -/
def attemptSucceeded (shared : Shared) (task : Task) (response : ChatCompletionResponse) :
    Shared × Task :=
  let circuits := shared.circuits.recordSuccess task.currentProvider shared.now
  let (state, circuits) := circuits.getState task.currentProvider shared.now
  let metadata := { response.metadata with
    routingMode := task.routingMode
    selectedProvider := some task.currentProvider
    selectedModel := some task.currentModel
    originalProvider := some task.originalProvider
    failoverTriggered := task.failoverTriggered
    retryCount := task.retryCount
    failoverAttempts := task.failoverAttempts
    circuitBreakerState := some state.value }
  ({ shared with
      circuits := circuits
      successes := CircuitBreakerRegistry.key task.currentProvider :: shared.successes },
    { task with control := .returned { response with metadata := metadata } })

/-- The episode of the trial slot an admission has just taken, if it took one. -/
def ticketOf (circuits : CircuitBreakerRegistry) (provider : String) : Option ℕ :=
  let breaker := circuits.getBreaker provider
  if breaker.state = .HALF_OPEN then some breaker.episode else none

/-- One round of the `while` loop. -/
def enterProvider (shared : Shared) (task : Task) : Shared × Task :=
  if executor.maxFailoverAttempts < (task.failoverAttempts : ℤ) then (shared, task.raiseLast)
  else if task.deadlineTimestamp ≤ shared.now then
    (shared, task.raising totalDeadlineExceededError)
  else
    let task := { task with
      attemptedProviders := lower task.currentProvider :: task.attemptedProviders }
    let (allowed, circuits) := shared.circuits.canExecute task.currentProvider shared.now
    let shared := { shared with circuits := circuits }
    if allowed then
      let task := { task with ticket := ticketOf circuits task.currentProvider, failures := [] }
      if executor.retryPolicy.maxRetries < 0 then failoverTrigger executor shared task false
      else firstAttempt executor shared task
    else
      let circuitErr := circuitOpenError task.currentProvider
      let task := { task with lastError := some circuitErr }
      if task.request.failoverEnabled = some false then (shared, task.raising circuitErr)
      else (shared, { task with control := .selecting (some circuitErr) })

/-- What `build_candidates` found is handed to `select_fallback`. -/
def candidatesFound (shared : Shared) (task : Task) (circuitErr : Option Exc)
    (candidates : List RoutingCandidate) : Shared × Task :=
  let (fallback, circuits) := selectFallback executor.engine shared.circuits task.request
    task.attemptedProviders candidates shared.now
  let shared := { shared with circuits := circuits }
  match fallback, circuitErr with
  | none, some exc => (shared, task.raising exc)
  | none, none => (shared, task.raiseLast)
  | some fallback, _ =>
      enterProvider executor shared { task with
        failoverTriggered := true
        failoverAttempts := task.failoverAttempts + 1
        currentProvider := fallback.provider
        currentModel := fallback.model }

/-- The arguments of `execute`. -/
structure Arguments where
  request : ChatCompletionRequest
  initialProvider : String
  initialModel : String
  routingMode : Option RoutingMode

/-- `execute` up to its first await. -/
def execute (shared : Shared) (arguments : Arguments) : Shared × Task :=
  enterProvider executor shared
    { request := arguments.request
      routingMode := arguments.routingMode
      deadlineTimestamp := shared.now + executor.totalRequestTimeoutSeconds
      originalProvider := arguments.initialProvider
      attemptedProviders := []
      retryCount := 0
      failoverAttempts := 0
      failoverTriggered := false
      currentProvider := arguments.initialProvider
      currentModel := arguments.initialModel
      lastError := none
      control := .selecting none
      ticket := none
      failures := [] }

/-- What can end the await a task stands at. -/
inductive Event
  | woken
  | responded (response : ChatCompletionResponse)
  | failed (exc : Exc) (draw : ℚ)
  | candidates (found : List RoutingCandidate)
  | cancelled

/-- A task runs on from its await.  `CancelledError` and other exceptions that
are no `Exception` pass through `except Exception`. -/
def resume (shared : Shared) (task : Task) (event : Event) : Option (Shared × Task) :=
  match task.control, event with
  | .sleeping attemptIdx wakeAt, .woken =>
      if wakeAt ≤ shared.now then some (callProvider executor shared task attemptIdx) else none
  | .calling _, .responded response => some (attemptSucceeded shared task response)
  | .calling attemptIdx, .failed exc draw =>
      if draw < 0 ∨ 1 < draw then none
      else if exc.isException then some (attemptFailed executor shared task attemptIdx exc draw)
      else some (shared, task.raising exc)
  | .selecting circuitErr, .candidates found =>
      some (candidatesFound executor shared task circuitErr found)
  | .selecting _, .cancelled => some (shared, task.raising .cancelledError)
  | .sleeping .., .cancelled => some (shared, task.raising .cancelledError)
  | .calling _, .cancelled => some (shared, task.raising .cancelledError)
  | _, _ => none

/-! ## Concurrent requests -/

/-- `requests` lists the requests that have a task. -/
structure System where
  shared : Shared
  tasks : ℕ → Option Task
  requests : List ℕ

inductive Action
  | spawn (request : ℕ) (arguments : Arguments)
  | tick (seconds : ℚ)
  | event (request : ℕ) (event : Event)

def System.put (system : System) (request : ℕ) (outcome : Shared × Task) : System :=
  { system with
    shared := outcome.1
    tasks := Function.update system.tasks request (some outcome.2) }

def step (system : System) : Action → Option System
  | .spawn request arguments =>
      match system.tasks request with
      | none => some
          { system.put request (execute executor system.shared arguments) with
            requests := request :: system.requests }
      | some _ => none
  | .tick seconds =>
      if seconds < 0 then none
      else some { system with
        shared := { system.shared with now := system.shared.now + seconds } }
  | .event request event =>
      match system.tasks request with
      | none => none
      | some task => (resume executor system.shared task event).map (system.put request)

/-- A fresh registry and no request. -/
def start (now : ℚ) (failureThreshold halfOpenTrials : ℤ) (cooldownSeconds : ℚ) : System :=
  { shared :=
      { now := now
        circuits := ⟨failureThreshold, cooldownSeconds, halfOpenTrials, fun _ => none⟩
        departures := []
        successes := [] }
    tasks := fun _ => none
    requests := [] }

end Executor

end CortexGateway.Reliability
