import CortexGateway.Reliability.Targets

/-! # What the executor answers

A response carries the routing mode `execute` was given, and the provider and
the model its task called last. -/
set_option autoImplicit false
namespace CortexGateway.Reliability
open CircuitBreakerRegistry ProviderCircuitBreaker Transition

/-- The task has this routing mode and has returned nothing. -/
def Unanswered (mode : Option RoutingMode) (task : Task) : Prop :=
  task.routingMode = mode ∧ ∀ response, task.control ≠ .returned response

/-- What the task has returned names its mode, its provider and its model. -/
structure Recorded (mode : Option RoutingMode) (task : Task) : Prop where
  routingMode : task.routingMode = mode
  response : ∀ response, task.control = .returned response →
    response.metadata.routingMode = mode ∧
    response.metadata.selectedProvider = some task.currentProvider ∧
    response.metadata.selectedModel = some task.currentModel ∧
    response.metadata.failoverTriggered = task.failoverTriggered

theorem Unanswered.recorded {mode : Option RoutingMode} {task : Task}
    (unanswered : Unanswered mode task) : Recorded mode task :=
  ⟨unanswered.1, fun response returned => absurd returned (unanswered.2 response)⟩

theorem raising_unanswered {mode : Option RoutingMode} {task : Task} (exc : Exc)
    (moded : task.routingMode = mode) : Unanswered mode (task.raising exc) :=
  ⟨moded, fun _ same => by cases same⟩

section Answers
variable (executor : ReliabilityExecutor) {mode : Option RoutingMode}

theorem callProvider_unanswered (shared : Shared) (task : Task) (attemptIdx : ℕ)
    (moded : task.routingMode = mode) :
    Unanswered mode (callProvider executor shared task attemptIdx).2 := by
  unfold callProvider
  split
  · exact ⟨moded, fun _ same => by cases same⟩
  · exact raising_unanswered _ moded

theorem failoverTrigger_unanswered (shared : Shared) (task : Task) (recorded : Bool)
    (moded : task.routingMode = mode) :
    Unanswered mode (failoverTrigger executor shared task recorded).2 := by
  simp only [failoverTrigger]
  split_ifs
  · exact raising_unanswered _ moded
  · exact raising_unanswered _ moded
  · exact ⟨moded, fun _ same => by cases same⟩

theorem retryAttempt_unanswered (shared : Shared) (task : Task) (attemptIdx : ℕ) (draw : ℚ)
    (moded : task.routingMode = mode) :
    Unanswered mode (retryAttempt executor shared task attemptIdx draw).2 := by
  simp only [retryAttempt]
  split_ifs
  · exact raising_unanswered _ moded
  · exact raising_unanswered _ moded
  · exact ⟨moded, fun _ same => by cases same⟩
  · exact callProvider_unanswered executor shared _ attemptIdx moded

theorem attemptFailed_unanswered (shared : Shared) (task : Task) (attemptIdx : ℕ) (exc : Exc)
    (draw : ℚ) (moded : task.routingMode = mode) :
    Unanswered mode (attemptFailed executor shared task attemptIdx exc draw).2 := by
  simp only [attemptFailed]
  split_ifs
  · exact raising_unanswered _ moded
  · exact failoverTrigger_unanswered executor _ _ true moded
  · exact retryAttempt_unanswered executor shared _ (attemptIdx + 1) draw moded

theorem enterProvider_unanswered (shared : Shared) (task : Task)
    (moded : task.routingMode = mode) :
    Unanswered mode (enterProvider executor shared task).2 := by
  simp only [enterProvider, firstAttempt]
  split_ifs
  · exact raising_unanswered _ moded
  · exact raising_unanswered _ moded
  · exact failoverTrigger_unanswered executor _ _ false moded
  · exact callProvider_unanswered executor _ _ 0 moded
  · exact raising_unanswered _ moded
  · exact ⟨moded, fun _ same => by cases same⟩

theorem candidatesFound_unanswered (shared : Shared) (task : Task) (circuitErr : Option Exc)
    (found : List RoutingCandidate) (moded : task.routingMode = mode) :
    Unanswered mode (candidatesFound executor shared task circuitErr found).2 := by
  simp only [candidatesFound]
  split
  · exact raising_unanswered _ moded
  · exact raising_unanswered _ moded
  · exact enterProvider_unanswered executor _ _ moded

theorem resume_recorded (shared : Shared) (task : Task) (event : Event) (after : Shared × Task)
    (moded : task.routingMode = mode)
    (resumed : resume executor shared task event = some after) : Recorded mode after.2 := by
  cases resumed_of_resume executor shared task event after resumed with
  | woken attemptIdx wakeAt control =>
      exact (callProvider_unanswered executor shared task _ moded).recorded
  | responded attemptIdx response control =>
      refine ⟨moded, fun response returned => ?_⟩
      cases returned
      exact ⟨moded, rfl, rfl, rfl⟩
  | failed attemptIdx exc draw control =>
      exact (attemptFailed_unanswered executor shared task _ _ _ moded).recorded
  | escaped attemptIdx exc draw control => exact (raising_unanswered _ moded).recorded
  | candidates circuitErr found control =>
      exact (candidatesFound_unanswered executor shared task _ _ moded).recorded
  | cancelled => exact (raising_unanswered _ moded).recorded

/-! ## Runs -/

theorem execute_unanswered (arguments : Arguments) (shared : Shared) :
    Unanswered arguments.routingMode (execute executor shared arguments).2 := by
  unfold execute
  exact enterProvider_unanswered executor shared _ rfl

/-- The task of the request, if it has one, answers in this mode. -/
def RequestRecorded (mode : Option RoutingMode) (request : ℕ) (system : System) : Prop :=
  ∀ task ∈ system.tasks request, Recorded mode task

theorem requestRecorded_step (arguments : Arguments) (pool : RoutingCandidate → Prop)
    (request : ℕ) (system next : System) (action : Action)
    (recorded : RequestRecorded arguments.routingMode request system)
    (executes : Executes arguments pool request system action)
    (stepped : step executor system action = some next) :
    RequestRecorded arguments.routingMode request next := by
  intro task found
  cases stepped_of_step executor system next action stepped with
  | spawn other given free =>
      rcases put_cases system other _ request task found with ⟨same, rfl⟩ | ⟨-, found⟩
      · rw [executes same.symm]
        exact (execute_unanswered executor arguments system.shared).recorded
      · exact recorded task found
  | tick seconds forward => exact recorded task found
  | event other event running after present resumed =>
      rcases put_cases system other after request task found with ⟨same, rfl⟩ | ⟨-, found⟩
      · subst same
        exact resume_recorded executor system.shared running event after
          (recorded running present).routingMode resumed
      · exact recorded task found

theorem requestRecorded_throughout (arguments : Arguments) (pool : RoutingCandidate → Prop)
    (request : ℕ) (system : System) (absent : system.tasks request = none) (actions : List Action)
    (executes : StepsMeet (step executor) (Executes arguments pool request) system actions) :
    HoldsThroughout (step executor) (RequestRecorded arguments.routingMode request) system
      actions := by
  apply holdsThroughout_of_steps (step executor) _ (Executes arguments pool request)
    (fun system action next => requestRecorded_step executor arguments pool request system next
      action) system _ actions executes
  intro task found
  rw [absent] at found
  cases found

/-- A response that some run of the executor returns for these arguments. -/
def Answers (arguments : Arguments) (response : ChatCompletionResponse) : Prop :=
  ∃ system call actions final task, system.tasks call = none ∧
    StepsMeet (step executor) (Executes arguments (fun _ => True) call) system actions ∧
    run (step executor) system actions = some final ∧ final.tasks call = some task ∧
    task.control = .returned response

/-- A response records its mode, and without a failover the provider and the
model it was asked of. -/
theorem answers_recorded (arguments : Arguments) (response : ChatCompletionResponse)
    (answers : Answers executor arguments response) :
    response.metadata.routingMode = arguments.routingMode ∧
      (response.metadata.failoverTriggered = false →
        response.metadata.selectedProvider = some arguments.initialProvider ∧
        response.metadata.selectedModel = some arguments.initialModel) := by
  obtain ⟨system, call, actions, final, task, absent, executes, taken, found, returned⟩ := answers
  have recorded := requestRecorded_throughout executor arguments _ call system absent actions
    executes actions (List.prefix_refl actions) final taken task found
  have targeted := requestTargeted_throughout executor arguments _ call system absent actions
    executes actions (List.prefix_refl actions) final taken task found
  obtain ⟨mode, provider, model, triggered⟩ := recorded.response response returned
  refine ⟨mode, fun untriggered => ?_⟩
  obtain ⟨sameProvider, sameModel⟩ := targeted.initial (triggered.symm.trans untriggered)
  exact ⟨sameProvider ▸ provider, sameModel ▸ model⟩

end Answers

/-! ## The call that succeeds at once -/

/-- One attempt, for a provider that is registered. -/
def immediate (provider : String) : ReliabilityExecutor :=
  { engine := ⟨⟨[ProviderRegistry.key provider]⟩, .auto⟩
    retryPolicy := ⟨0, 1/4, 2, false⟩
    totalRequestTimeoutSeconds := 120
    maxFailoverAttempts := 2 }

theorem start_admits (now : ℚ) (failureThreshold halfOpenTrials : ℤ) (cooldownSeconds : ℚ)
    (provider : String) (later : ℚ) :
    (start now failureThreshold halfOpenTrials cooldownSeconds).shared.circuits.canExecute provider
        later =
      (true, ((start now failureThreshold halfOpenTrials
        cooldownSeconds).shared.circuits.canExecute provider later).2) := by
  apply Prod.ext
  · simp [start, CircuitBreakerRegistry.canExecute, getBreaker, breakerAt, newBreaker,
      ProviderCircuitBreaker.canExecute, resolveState]
  · rfl

/-- Its breaker is new, so it is called at once. -/
theorem immediate_enters (provider : String) (task : Task)
    (current : task.currentProvider = provider) (first : task.failoverAttempts = 0)
    (early : 0 < task.deadlineTimestamp) :
    ((enterProvider (immediate provider) (start 0 5 1 30).shared task).2).control =
        .calling 0 ∧
      ((enterProvider (immediate provider) (start 0 5 1 30).shared
        task).2).failoverTriggered = task.failoverTriggered := by
  subst current
  have registered : (immediate task.currentProvider).engine.registry.isRegistered
      task.currentProvider = true := by
    simp [immediate, ProviderRegistry.isRegistered]
  have inRange : ¬ (immediate task.currentProvider).maxFailoverAttempts <
      (task.failoverAttempts : ℤ) := by simp [immediate, first]
  rw [enterProvider_admitted (immediate task.currentProvider) (start 0 5 1 30).shared task _ inRange
    (not_le.mpr early) (le_refl 0) (start_admits 0 5 1 30 task.currentProvider _),
    callProvider_registered _ _ (task.ticketed _) _ registered]
  exact ⟨rfl, rfl⟩

theorem immediate_calls (arguments : Arguments) :
    ((execute (immediate arguments.initialProvider) (start 0 5 1 30).shared arguments).2).control =
        .calling 0 ∧
      ((execute (immediate arguments.initialProvider) (start 0 5 1 30).shared
        arguments).2).failoverTriggered = false := by
  have early : 0 < (start 0 5 1 30).shared.now +
      (immediate arguments.initialProvider).totalRequestTimeoutSeconds := by
    norm_num [immediate, start]
  exact immediate_enters arguments.initialProvider
    (firstTask (immediate arguments.initialProvider) (start 0 5 1 30).shared arguments) rfl rfl early

/-- So some run calls what it was given. -/
theorem calls_exist (arguments : Arguments) :
    ∃ final task, run (step (immediate arguments.initialProvider)) (start 0 5 1 30)
        [.spawn 0 arguments] = some final ∧
      final.tasks 0 = some task ∧ task.control = .calling 0 ∧
      task.currentProvider = arguments.initialProvider ∧
      task.currentModel = arguments.initialModel := by
  obtain ⟨calling, untriggered⟩ := immediate_calls arguments
  obtain ⟨provider, model⟩ := (execute_targeted (immediate arguments.initialProvider) arguments
    (fun _ => True) (start 0 5 1 30).shared).initial untriggered
  refine ⟨{ (start 0 5 1 30).put 0 (execute (immediate arguments.initialProvider)
    (start 0 5 1 30).shared arguments) with requests := [0] }, _, ?_, ?_, calling, provider, model⟩
  · rfl
  · simp [System.put]

/-- Every target can answer. -/
theorem answers_exist (arguments : Arguments) (reply : ChatCompletionResponse) :
    ∃ response, Answers (immediate arguments.initialProvider) arguments response ∧
      response.metadata.failoverTriggered = false := by
  obtain ⟨calling, untriggered⟩ := immediate_calls arguments
  generalize spawned : execute (immediate arguments.initialProvider) (start 0 5 1 30).shared
    arguments = outcome at calling untriggered
  obtain ⟨shared, task⟩ := outcome
  let called : System :=
    { (start 0 5 1 30).put 0 (shared, task) with requests := [0] }
  have first : step (immediate arguments.initialProvider) (start 0 5 1 30) (.spawn 0 arguments) =
      some called := by
    simp only [step]
    rw [spawned]
    rfl
  have second : step (immediate arguments.initialProvider) called (.event 0 (.responded reply)) =
      some (called.put 0 (attemptSucceeded shared task reply)) := by
    have present : called.tasks 0 = some task := by simp [called, System.put]
    have resumed : resume (immediate arguments.initialProvider) called.shared task
        (.responded reply) = some (attemptSucceeded shared task reply) := by
      unfold resume
      rw [calling]
      rfl
    simp only [step, present, resumed, Option.map_some]
  refine ⟨_, ⟨start 0 5 1 30, 0, [.spawn 0 arguments, .event 0 (.responded reply)],
    called.put 0 (attemptSucceeded shared task reply), (attemptSucceeded shared task reply).2,
    rfl, ?_, ?_, by simp [System.put], rfl⟩, untriggered⟩
  · rw [stepsMeet_cons]
    intro next _
    refine ⟨fun _ => rfl, ?_⟩
    rw [stepsMeet_cons]
    exact fun _ _ => ⟨trivial, stepsMeet_nil _ _ _⟩
  · simp only [run, first, second, Option.bind_some]

end CortexGateway.Reliability
