import CortexGateway.Reliability.Stretches

/-! # What the executor calls

A task calls the provider and model it was given until it fails over, and from
then on candidates that `select_fallback` has returned. -/
set_option autoImplicit false
namespace CortexGateway.Reliability
open CircuitBreakerRegistry Transition

theorem selectFallback_supports (engine : RoutingEngine) (circuits : CircuitBreakerRegistry)
    (request : ChatCompletionRequest) (attemptedProviders : List String)
    (candidates : List RoutingCandidate) (now : ℚ) (fallback : RoutingCandidate)
    (selected : (selectFallback engine circuits request attemptedProviders candidates now).1 =
      some fallback) (required : request.requiredCaps ≠ []) :
    supports request.requiredCaps fallback = true := by
  obtain ⟨scored, head, rfl⟩ := Option.map_eq_some_iff.mp selected
  have inPool := scoreCandidates_mem _ _ scored (List.mem_of_mem_head? head)
  simp only [if_pos required] at inPool
  split_ifs at inPool
  · exact (List.mem_filter.mp (List.mem_of_mem_filter inPool)).2
  · exact (List.mem_filter.mp inPool).2

def Task.Selecting (task : Task) : Prop := ∃ circuitErr, task.control = .selecting circuitErr

/-- The task calls what it called before, and looks for a fallback only if the
request allows it. -/
structure Stays (before after : Task) : Prop where
  request : after.request = before.request
  failoverTriggered : after.failoverTriggered = before.failoverTriggered
  currentProvider : after.currentProvider = before.currentProvider
  currentModel : after.currentModel = before.currentModel
  selecting : after.Selecting → before.request.failoverEnabled ≠ some false

theorem Stays.of_target {first second third : Task} (late : Stays second third)
    (request : second.request = first.request)
    (failoverTriggered : second.failoverTriggered = first.failoverTriggered)
    (currentProvider : second.currentProvider = first.currentProvider)
    (currentModel : second.currentModel = first.currentModel) : Stays first third :=
  ⟨late.request.trans request, late.failoverTriggered.trans failoverTriggered,
    late.currentProvider.trans currentProvider, late.currentModel.trans currentModel,
    fun selecting => request ▸ late.selecting selecting⟩

theorem stays_at (task : Task) (control : Control)
    (settled : ∀ circuitErr, control ≠ .selecting circuitErr) :
    Stays task { task with control := control } :=
  ⟨rfl, rfl, rfl, rfl, fun ⟨circuitErr, same⟩ => absurd same (settled circuitErr)⟩

theorem raising_stays (task : Task) (exc : Exc) : Stays task (task.raising exc) :=
  stays_at task (.raised exc) fun _ same => by cases same

section Targets
variable (executor : ReliabilityExecutor)

theorem callProvider_stays (shared : Shared) (task : Task) (attemptIdx : ℕ) :
    Stays task (callProvider executor shared task attemptIdx).2 := by
  unfold callProvider
  split
  · exact stays_at task (.calling attemptIdx) fun _ same => by cases same
  · exact (raising_stays { task with lastError := some _ } _).of_target rfl rfl rfl rfl

theorem failoverTrigger_stays (shared : Shared) (task : Task) (recorded : Bool) :
    Stays task (failoverTrigger executor shared task recorded).2 := by
  simp only [failoverTrigger]
  split_ifs with disabled
  · exact raising_stays task _
  · exact raising_stays task _
  · exact ⟨rfl, rfl, rfl, rfl, fun _ => disabled⟩

theorem retryAttempt_stays (shared : Shared) (task : Task) (attemptIdx : ℕ) (draw : ℚ) :
    Stays task (retryAttempt executor shared task attemptIdx draw).2 := by
  simp only [retryAttempt]
  split_ifs
  · exact raising_stays task _
  · exact raising_stays task _
  · exact (stays_at { task with retryCount := task.retryCount + 1 } (.sleeping attemptIdx _)
      fun _ same => by cases same).of_target rfl rfl rfl rfl
  · exact (callProvider_stays executor shared { task with retryCount := task.retryCount + 1 }
      attemptIdx).of_target rfl rfl rfl rfl

theorem attemptFailed_stays (shared : Shared) (task : Task) (attemptIdx : ℕ) (exc : Exc)
    (draw : ℚ) : Stays task (attemptFailed executor shared task attemptIdx exc draw).2 := by
  cases transient : isTransientError exc with
  | false =>
      rw [attemptFailed_permanent executor shared task attemptIdx exc draw transient]
      exact (raising_stays (task.failing exc) exc).of_target rfl rfl rfl rfl
  | true =>
      by_cases last : (attemptIdx : ℤ) = executor.retryPolicy.maxRetries
      · rw [attemptFailed_last executor shared task attemptIdx exc draw transient last]
        exact (failoverTrigger_stays executor _ (task.failing exc) true).of_target rfl rfl rfl rfl
      · rw [attemptFailed_again executor shared task attemptIdx exc draw transient last]
        exact (retryAttempt_stays executor shared (task.failing exc) (attemptIdx + 1)
          draw).of_target rfl rfl rfl rfl

theorem enterProvider_stays (shared : Shared) (task : Task) :
    Stays task (enterProvider executor shared task).2 := by
  by_cases exhausted : executor.maxFailoverAttempts < (task.failoverAttempts : ℤ)
  · simp only [enterProvider, if_pos exhausted]
    exact raising_stays task _
  by_cases late : task.deadlineTimestamp ≤ shared.now
  · simp only [enterProvider, if_neg exhausted, if_pos late]
    exact raising_stays task _
  rcases outcome : shared.circuits.canExecute task.currentProvider shared.now with
    ⟨allowed, circuits⟩
  cases allowed with
  | true =>
      by_cases noRetries : executor.retryPolicy.maxRetries < 0
      · rw [enterProvider_emptyLoop executor shared task circuits exhausted late noRetries outcome]
        exact (failoverTrigger_stays executor _ (task.ticketed circuits) false).of_target rfl rfl
          rfl rfl
      · rw [enterProvider_admitted executor shared task circuits exhausted late
          (not_lt.mp noRetries) outcome]
        exact (callProvider_stays executor _ (task.ticketed circuits) 0).of_target rfl rfl rfl rfl
  | false =>
      simp only [enterProvider, if_neg exhausted, if_neg late, outcome, Bool.false_eq_true, if_false]
      by_cases disabled : task.request.failoverEnabled = some false
      · rw [if_pos disabled]
        refine ⟨rfl, rfl, rfl, rfl, ?_⟩
        rintro ⟨_, same⟩
        cases same
      · rw [if_neg disabled]
        exact ⟨rfl, rfl, rfl, rfl, fun _ => disabled⟩

theorem attemptSucceeded_stays (shared : Shared) (task : Task)
    (response : ChatCompletionResponse) :
    Stays task (attemptSucceeded shared task response).2 :=
  stays_at task (.returned _) fun _ same => by cases same

theorem candidatesFound_target (shared : Shared) (task : Task) (circuitErr : Option Exc)
    (found : List RoutingCandidate) :
    Stays task (candidatesFound executor shared task circuitErr found).2 ∨
      ∃ fallback ∈ found,
        (task.request.requiredCaps ≠ [] → supports task.request.requiredCaps fallback = true) ∧
        ∃ moved : Task, moved.request = task.request ∧ moved.failoverTriggered = true ∧
          moved.currentProvider = fallback.provider ∧ moved.currentModel = fallback.model ∧
          Stays moved (candidatesFound executor shared task circuitErr found).2 := by
  simp only [candidatesFound]
  cases selected : (selectFallback executor.engine shared.circuits task.request
      task.attemptedProviders found shared.now).1 with
  | none =>
      refine Or.inl ?_
      cases circuitErr with
      | none => exact raising_stays task _
      | some exc => exact raising_stays task exc
  | some fallback =>
      refine Or.inr ⟨fallback, (selectFallback_not_attempted _ _ _ _ _ _ _ selected).1,
        selectFallback_supports _ _ _ _ _ _ _ selected, ?_⟩
      refine ⟨{ task with
        failoverTriggered := true
        failoverAttempts := task.failoverAttempts + 1
        currentProvider := fallback.provider
        currentModel := fallback.model }, rfl, rfl, rfl, rfl, ?_⟩
      cases circuitErr with
      | none => exact enterProvider_stays executor _ _
      | some exc => exact enterProvider_stays executor _ _

/-! ## Runs -/

/-- The task of this call of `execute` calls what it was given, or a candidate
of the pool that has the required capabilities. -/
structure Targeted (arguments : Arguments) (pool : RoutingCandidate → Prop) (task : Task) :
    Prop where
  request : task.request = arguments.request
  initial : task.failoverTriggered = false →
    task.currentProvider = arguments.initialProvider ∧ task.currentModel = arguments.initialModel
  fallback : task.failoverTriggered = true → ∃ c, pool c ∧ task.currentProvider = c.provider ∧
    task.currentModel = c.model ∧ (arguments.request.requiredCaps ≠ [] →
      supports arguments.request.requiredCaps c = true)
  enabled : task.failoverTriggered = true ∨ task.Selecting →
    arguments.request.failoverEnabled ≠ some false

section Pool
variable (arguments : Arguments) (pool : RoutingCandidate → Prop)

theorem targeted_stays (before after : Task) (targeted : Targeted arguments pool before)
    (stays : Stays before after) : Targeted arguments pool after where
  request := stays.request.trans targeted.request
  initial := by
    rw [stays.failoverTriggered, stays.currentProvider, stays.currentModel]
    exact targeted.initial
  fallback := by
    rw [stays.failoverTriggered, stays.currentProvider, stays.currentModel]
    exact targeted.fallback
  enabled := by
    rintro (triggered | selecting)
    · exact targeted.enabled (Or.inl (stays.failoverTriggered ▸ triggered))
    · exact targeted.request ▸ stays.selecting selecting

theorem execute_targeted (shared : Shared) :
    Targeted arguments pool (execute executor shared arguments).2 := by
  have stays := enterProvider_stays executor shared (firstTask executor shared arguments)
  constructor
  · exact stays.request
  · exact fun _ => ⟨stays.currentProvider, stays.currentModel⟩
  · intro triggered
    rw [execute_eq, stays.failoverTriggered] at triggered
    cases triggered
  · rintro (triggered | selecting)
    · rw [execute_eq, stays.failoverTriggered] at triggered
      cases triggered
    · exact stays.selecting selecting

theorem candidatesFound_targeted (shared : Shared) (task : Task) (circuitErr : Option Exc)
    (found : List RoutingCandidate) (targeted : Targeted arguments pool task)
    (selecting : task.Selecting) (pooled : ∀ c ∈ found, pool c) :
    Targeted arguments pool (candidatesFound executor shared task circuitErr found).2 := by
  have allowed := targeted.enabled (Or.inr selecting)
  rcases candidatesFound_target executor shared task circuitErr found with
    stays | ⟨fallback, member, capable, moved, request, triggered, provider, model, stays⟩
  · exact targeted_stays arguments pool task _ targeted stays
  · apply targeted_stays arguments pool moved _ _ stays
    constructor
    · exact request.trans targeted.request
    · intro untriggered
      rw [triggered] at untriggered
      cases untriggered
    · intro _
      exact ⟨fallback, pooled fallback member, provider, model, targeted.request ▸ capable⟩
    · exact fun _ => allowed

theorem resume_targeted (shared : Shared) (task : Task) (event : Event) (after : Shared × Task)
    (targeted : Targeted arguments pool task)
    (pooled : ∀ found, event = .candidates found → ∀ c ∈ found, pool c)
    (resumed : resume executor shared task event = some after) :
    Targeted arguments pool after.2 := by
  cases resumed_of_resume executor shared task event after resumed with
  | woken attemptIdx wakeAt control =>
      exact targeted_stays arguments pool task _ targeted (callProvider_stays executor _ _ _)
  | responded attemptIdx response control =>
      exact targeted_stays arguments pool task _ targeted (attemptSucceeded_stays _ _ _)
  | failed attemptIdx exc draw control =>
      exact targeted_stays arguments pool task _ targeted (attemptFailed_stays executor _ _ _ _ _)
  | escaped attemptIdx exc draw control =>
      exact targeted_stays arguments pool task _ targeted (raising_stays task _)
  | candidates circuitErr found control =>
      exact candidatesFound_targeted executor arguments pool shared task circuitErr found targeted
        ⟨circuitErr, control⟩ (pooled found rfl)
  | cancelled => exact targeted_stays arguments pool task _ targeted (raising_stays task _)

/-- The request is executed with these arguments, and finds its candidates in the pool. -/
def Executes (request : ℕ) (_ : System) : Action → Prop
  | .spawn other given => other = request → given = arguments
  | .event other (.candidates found) => other = request → ∀ c ∈ found, pool c
  | _ => True

/-- The task of the request, if it has one, calls what it may call. -/
def RequestTargeted (request : ℕ) (system : System) : Prop :=
  ∀ task ∈ system.tasks request, Targeted arguments pool task

theorem requestTargeted_step (request : ℕ) (system next : System) (action : Action)
    (targeted : RequestTargeted arguments pool request system)
    (executes : Executes arguments pool request system action)
    (stepped : step executor system action = some next) :
    RequestTargeted arguments pool request next := by
  intro task found
  cases stepped_of_step executor system next action stepped with
  | spawn other given free =>
      rcases put_cases system other _ request task found with ⟨same, rfl⟩ | ⟨-, found⟩
      · rw [executes same.symm]
        exact execute_targeted executor arguments pool system.shared
      · exact targeted task found
  | tick seconds forward => exact targeted task found
  | event other event running after present resumed =>
      rcases put_cases system other after request task found with ⟨same, rfl⟩ | ⟨-, found⟩
      · subst same
        apply resume_targeted executor arguments pool system.shared running event after
          (targeted running present) _ resumed
        rintro found rfl
        exact executes rfl
      · exact targeted task found

theorem requestTargeted_throughout (request : ℕ) (system : System)
    (absent : system.tasks request = none) (actions : List Action)
    (executes : StepsMeet (step executor) (Executes arguments pool request) system actions) :
    HoldsThroughout (step executor) (RequestTargeted arguments pool request) system actions := by
  apply holdsThroughout_of_steps (step executor) _ (Executes arguments pool request)
    (fun system action next => requestTargeted_step executor arguments pool request system next
      action) system _ actions executes
  intro task found
  rw [absent] at found
  cases found

end Pool
end Targets

end CortexGateway.Reliability
