import CortexGateway.Lib.Blocks
import CortexGateway.Reliability.Deadline
import CortexGateway.Reliability.Targets
import CortexGateway.Routing.Stats

/-! # The attempts of a request and their accounts

An attempt is one registry lookup with the call that follows it.  `Accounts`
holds the attempts that have ended, the latest first, and the tracker that
`execute` tells of each.  The functions below say of each stretch of `execute`
what it records.  Between two stretches everything but the task may have
changed. -/
set_option autoImplicit false
namespace CortexGateway.Reliability
open CircuitBreakerRegistry Stats Blocks

structure Attempt where
  provider : String
  model : String
  isSuccess : Bool
  deriving DecidableEq

structure Accounts where
  attempts : List Attempt
  tracker : ProviderStatsTracker

namespace Accounts

/-- The success path of an attempt. -/
def succeeded (accounts : Accounts) (task : Task) (response : ChatCompletionResponse) : Accounts :=
  { attempts := ⟨task.currentProvider, task.currentModel, true⟩ :: accounts.attempts
    tracker := accounts.tracker.recordSuccess task.currentProvider task.currentModel
      response.metadata.latencyMs }

/-- The `except Exception` branch of an attempt. -/
def failed (accounts : Accounts) (task : Task) : Accounts :=
  { attempts := ⟨task.currentProvider, task.currentModel, false⟩ :: accounts.attempts
    tracker := accounts.tracker.recordFailure task.currentProvider task.currentModel }

def providers (accounts : Accounts) : List String := accounts.attempts.map Attempt.provider

/-- The attempts on a provider and model, as the tracker names them. -/
def attemptsAt (accounts : Accounts) (name : String × String) : List Attempt :=
  accounts.attempts.filter fun attempt =>
    ProviderStatsTracker.key attempt.provider attempt.model = name

end Accounts

section Recording
variable (executor : ReliabilityExecutor)

/-- `callProvider`: the registry knows no such provider. -/
def callRecords (task : Task) (accounts : Accounts) : Accounts :=
  match executor.engine.registry.get task.currentProvider with
  | .ok _ => accounts
  | .error _ => accounts.failed task

/-- `retryAttempt`: without a delay the next call starts at once. -/
def retryRecords (now : ℚ) (task : Task) (attemptIdx : ℕ) (draw : ℚ) (accounts : Accounts) :
    Accounts :=
  if task.deadlineTimestamp ≤ now then accounts
  else
    let delay := executor.retryPolicy.computeDelay (attemptIdx - 1) draw
    if task.deadlineTimestamp ≤ now + delay then accounts
    else if 0 < delay then accounts
    else callRecords executor task accounts

/-- `attemptFailed`. -/
def failureRecords (now : ℚ) (task : Task) (attemptIdx : ℕ) (exc : Exc) (draw : ℚ)
    (accounts : Accounts) : Accounts :=
  let accounts := accounts.failed task
  if !isTransientError exc then accounts
  else if (attemptIdx : ℤ) = executor.retryPolicy.maxRetries then accounts
  else retryRecords executor now task (attemptIdx + 1) draw accounts

/-- `enterProvider`: an admitted request is called at once. -/
def enterRecords (shared : Shared) (task : Task) (accounts : Accounts) : Accounts :=
  if executor.maxFailoverAttempts < (task.failoverAttempts : ℤ) then accounts
  else if task.deadlineTimestamp ≤ shared.now then accounts
  else if !(shared.circuits.canExecute task.currentProvider shared.now).1 then accounts
  else if executor.retryPolicy.maxRetries < 0 then accounts
  else callRecords executor task accounts

/-- `candidatesFound`. -/
def candidateRecords (shared : Shared) (task : Task) (found : List RoutingCandidate)
    (accounts : Accounts) : Accounts :=
  let (fallback, circuits) := selectFallback executor.engine shared.circuits task.request
    task.attemptedProviders found shared.now
  match fallback with
  | none => accounts
  | some fallback =>
      enterRecords executor { shared with circuits := circuits }
        { task with
          failoverAttempts := task.failoverAttempts + 1
          currentProvider := fallback.provider
          currentModel := fallback.model } accounts

/-- `resume`. -/
def resumeRecords (shared : Shared) (task : Task) (event : Event) (accounts : Accounts) :
    Accounts :=
  match task.control, event with
  | .sleeping _ _, .woken => callRecords executor task accounts
  | .calling _, .responded response => accounts.succeeded task response
  | .calling attemptIdx, .failed exc draw =>
      if exc.isException then failureRecords executor shared.now task attemptIdx exc draw accounts
      else accounts
  | .selecting _, .candidates found => candidateRecords executor shared task found accounts
  | _, _ => accounts

/-- `execute` up to its first await, with a tracker that may know other requests. -/
def executeRecords (shared : Shared) (arguments : Arguments) (tracker : ProviderStatsTracker) :
    Accounts :=
  enterRecords executor shared (firstTask executor shared arguments) ⟨[], tracker⟩

/-- The event ends the await the task stands at: a sleep is over, the provider has
answered or raised, the candidates are there. -/
def EndsAwait (shared : Shared) (task : Task) (event : Event) : Prop :=
  match task.control, event with
  | .sleeping _ wakeAt, .woken => wakeAt ≤ shared.now
  | .calling _, .responded _ => True
  | .calling _, .failed exc draw => exc.isException = true ∧ 0 ≤ draw ∧ draw ≤ 1
  | .selecting _, .candidates _ => True
  | _, _ => False

/-- One request after `awaits` awaits, each ended in a state that others have left. -/
inductive Running (arguments : Arguments) (tracker : ProviderStatsTracker) :
    ℕ → Accounts → Task → Prop
  | started (shared : Shared) :
      Running arguments tracker 0 (executeRecords executor shared arguments tracker)
        (execute executor shared arguments).2
  | resumed {awaits : ℕ} {accounts : Accounts} {task : Task}
      (running : Running arguments tracker awaits accounts task) (shared : Shared) (event : Event)
      (ends : EndsAwait shared task event) (after : Shared × Task)
      (outcome : resume executor shared task event = some after) :
      Running arguments tracker (awaits + 1) (resumeRecords executor shared task event accounts)
        after.2

/-- The ways a task can run on when its await has ended, with what is recorded. -/
inductive Turned (shared : Shared) (task : Task) (accounts : Accounts) :
    Shared × Task → Accounts → Prop
  | woken (attemptIdx : ℕ) (wakeAt : ℚ) (control : task.control = .sleeping attemptIdx wakeAt) :
      Turned shared task accounts (callProvider executor shared task attemptIdx)
        (callRecords executor task accounts)
  | responded (attemptIdx : ℕ) (response : ChatCompletionResponse)
      (control : task.control = .calling attemptIdx) :
      Turned shared task accounts (attemptSucceeded shared task response)
        (accounts.succeeded task response)
  | failed (attemptIdx : ℕ) (exc : Exc) (draw : ℚ) (control : task.control = .calling attemptIdx) :
      Turned shared task accounts (attemptFailed executor shared task attemptIdx exc draw)
        (failureRecords executor shared.now task attemptIdx exc draw accounts)
  | candidates (circuitErr : Option Exc) (found : List RoutingCandidate)
      (control : task.control = .selecting circuitErr) :
      Turned shared task accounts (candidatesFound executor shared task circuitErr found)
        (candidateRecords executor shared task found accounts)

/-- A task runs on whenever its await ends. -/
theorem turned_of_ends (shared : Shared) (task : Task) (event : Event) (accounts : Accounts)
    (ends : EndsAwait shared task event) :
    ∃ after, resume executor shared task event = some after ∧
      Turned executor shared task accounts after
        (resumeRecords executor shared task event accounts) := by
  unfold EndsAwait at ends
  split at ends
  · next attemptIdx wakeAt control =>
      refine ⟨callProvider executor shared task attemptIdx, by simp [resume, control, ends], ?_⟩
      simp only [resumeRecords, control]
      exact .woken attemptIdx wakeAt control
  · next attemptIdx response control =>
      refine ⟨attemptSucceeded shared task response, by simp [resume, control], ?_⟩
      simp only [resumeRecords, control]
      exact .responded attemptIdx response control
  · next attemptIdx exc draw control =>
      obtain ⟨ordinary, low, high⟩ := ends
      refine ⟨attemptFailed executor shared task attemptIdx exc draw,
        by simp [resume, control, ordinary, not_lt.mpr low, not_lt.mpr high], ?_⟩
      simp only [resumeRecords, control, ordinary, if_true]
      exact .failed attemptIdx exc draw control
  · next circuitErr found control =>
      refine ⟨candidatesFound executor shared task circuitErr found, by simp [resume, control], ?_⟩
      simp only [resumeRecords, control]
      exact .candidates circuitErr found control
  · exact ends.elim

end Recording

end CortexGateway.Reliability
