import CortexGateway.Reliability.Operations

/-! # One healthy provider is enough

If no more providers fail than `max_failover_attempts`, and a healthy one is
among the candidates whenever they are asked for, then no request fails but for
its deadline, whatever the failing providers do to their circuits. -/
set_option autoImplicit false
namespace CortexGateway.Reliability
open CircuitBreakerRegistry ProviderCircuitBreaker Transition

/-! ## A closed circuit -/

theorem admitted_of_closed (circuits : CircuitBreakerRegistry) (provider : String) (now : ℚ)
    (closed : (circuits.breakerAt (key provider)).state = .CLOSED) :
    (circuits.canExecute provider now).1 = true := by
  change ((circuits.breakerAt (key provider)).canExecute now).1 = true
  simp [ProviderCircuitBreaker.canExecute, resolveState_closed _ now closed, closed]

/-- Questions do not open a circuit. -/
theorem asked_closed {now : ℚ} {before after : ProviderCircuitBreaker}
    (asked : Asked now before after) (closed : before.state = .CLOSED) :
    after.state = .CLOSED := by
  refine asked.keeps (fun breaker => breaker.state = .CLOSED)
    (fun breaker operation asks closed => ?_) closed
  have same := resolveState_closed breaker now closed
  cases operation with
  | canExecute => simp [perform, ProviderCircuitBreaker.canExecute, same, closed]
  | getState => rw [perform, same, closed]
  | recordSuccess => cases asks
  | recordFailure exc => cases asks
  | trip => cases asks
  | reset => cases asks

theorem mem_filterAvailable_of_closed (now : ℚ) (circuits : CircuitBreakerRegistry)
    (pool : List RoutingCandidate) (c : RoutingCandidate) (member : c ∈ pool)
    (closed : (circuits.breakerAt (key c.provider)).state = .CLOSED) :
    c ∈ (filterAvailable now circuits pool).1 := by
  induction pool generalizing circuits with
  | nil => cases member
  | cons first rest ih =>
      simp only [filterAvailable]
      rcases List.mem_cons.mp member with rfl | later
      · rw [admitted_of_closed circuits c.provider now closed, if_pos rfl]
        exact List.mem_cons_self
      · have kept := ih _ later
          (asked_closed (asked_canExecute circuits first.provider now (key c.provider)) closed)
        split_ifs
        · exact List.mem_cons_of_mem _ kept
        · exact kept

theorem rankFirst_finds (engine : RoutingEngine) (request : ChatCompletionRequest)
    (available : List RoutingCandidate) (c : RoutingCandidate) (member : c ∈ available)
    (capable : supports request.requiredCaps c = true) :
    ∃ best, rankFirst engine request available = some best := by
  have inCapable : c ∈ if request.requiredCaps ≠ [] then
      filterByCapabilities available request.requiredCaps else available := by
    split_ifs
    · exact List.mem_filter.mpr ⟨member, capable⟩
    · exact member
  simp only [rankFirst]
  generalize (if request.requiredCaps ≠ [] then
    filterByCapabilities available request.requiredCaps else available) = capableOnes at inCapable ⊢
  have someone : (if capableOnes.filter (·.isHealthy) ≠ [] then
      capableOnes.filter (·.isHealthy) else capableOnes) ≠ [] := by
    split_ifs with healthy
    · exact healthy
    · exact List.ne_nil_of_mem inCapable
  generalize scored :
    scoreCandidates _ (policyWeights (engine.resolveRoutingMode request)) = ranking
  cases ranking with
  | cons best rest => exact ⟨best.candidate, rfl⟩
  | nil =>
      have empty := congrArg List.length scored
      rw [scoreCandidates_length, List.length_nil, List.length_eq_zero_iff] at empty
      exact absurd empty someone

/-- A capable candidate of a new provider with a closed circuit is enough. -/
theorem selectFallback_finds (engine : RoutingEngine) (circuits : CircuitBreakerRegistry)
    (request : ChatCompletionRequest) (attemptedProviders : List String)
    (found : List RoutingCandidate) (now : ℚ) (c : RoutingCandidate) (member : c ∈ found)
    (fresh : lower c.provider ∉ attemptedProviders.map lower)
    (closed : (circuits.breakerAt (key c.provider)).state = .CLOSED)
    (capable : supports request.requiredCaps c = true) :
    ∃ fallback,
      (selectFallback engine circuits request attemptedProviders found now).1 = some fallback := by
  have inEligible : c ∈ eligible attemptedProviders found :=
    List.mem_filter.mpr ⟨member, by simpa using fresh⟩
  have available := mem_filterAvailable_of_closed now circuits _ c inEligible closed
  exact rankFirst_finds engine request _ c available capable

section Availability
variable (executor : ReliabilityExecutor) (sick : Finset String)

/-- A registered provider by its plain name. -/
structure Known (provider : String) : Prop where
  plain : key provider = provider
  registered : executor.engine.registry.isRegistered provider = true

/-- Different sick providers, `number` of them. -/
structure OnlySick (providers : List String) (number : ℕ) : Prop where
  nodup : providers.Nodup
  plain : ∀ provider ∈ providers, lower provider = provider
  sick : ∀ provider ∈ providers, provider ∈ sick
  number : providers.length = number

/-- In the attempt loop of a provider, after sick ones. -/
structure Entering (task : Task) : Prop where
  known : Known executor task.currentProvider
  attempted : ∃ past, task.attemptedProviders = task.currentProvider :: past ∧
    task.currentProvider ∉ past ∧ OnlySick sick past task.failoverAttempts

/-- The request may fail over, and has not failed but for its deadline. -/
structure Alive (task : Task) : Prop where
  enabled : task.request.failoverEnabled ≠ some false
  standing : match task.control with
    | .selecting _ => OnlySick sick task.attemptedProviders (task.failoverAttempts + 1)
    | .sleeping _ _ => Entering executor sick task
    | .calling _ => Entering executor sick task
    | .returned _ => True
    | .raised exc => exc = totalDeadlineExceededError ∨ exc = .cancelledError

def WellClosed (circuits : CircuitBreakerRegistry) : Prop :=
  ∀ breakerKey ∉ sick, (circuits.breakerAt breakerKey).state = .CLOSED

variable {executor sick}

theorem Known.lower {provider : String} (known : Known executor provider) :
    lower provider = provider := by
  have plain := known.plain
  unfold key at plain
  rw [← plain, ← strip_lower, lower_lower]

theorem OnlySick.number_le {providers : List String} {number : ℕ}
    (only : OnlySick sick providers number) : number ≤ sick.card := by
  rw [← only.number, ← List.toFinset_card_of_nodup only.nodup]
  apply Finset.card_le_card
  intro provider member
  exact only.sick provider (List.mem_toFinset.mp member)

theorem OnlySick.cons {providers : List String} {number : ℕ} {provider : String}
    (only : OnlySick sick providers number) (fresh : provider ∉ providers)
    (plain : CortexGateway.lower provider = provider) (ill : provider ∈ sick) :
    OnlySick sick (provider :: providers) (number + 1) where
  nodup := List.nodup_cons.mpr ⟨fresh, only.nodup⟩
  plain := List.forall_mem_cons.mpr ⟨plain, only.plain⟩
  sick := List.forall_mem_cons.mpr ⟨ill, only.sick⟩
  number := by rw [List.length_cons, only.number]

/-! ### What a stretch of a task keeps -/

section Stretch
variable (executor) (shared : Shared) (task : Task)
variable (enabled : task.request.failoverEnabled ≠ some false)
include enabled

theorem callProvider_alive (entering : Entering executor sick task) (attemptIdx : ℕ) :
    Alive executor sick (callProvider executor shared task attemptIdx).2 := by
  rw [callProvider_registered executor shared task attemptIdx entering.known.registered]
  exact ⟨enabled, entering.known, entering.attempted⟩

theorem retryAttempt_alive (entering : Entering executor sick task) (attemptIdx : ℕ) (draw : ℚ) :
    Alive executor sick (retryAttempt executor shared task attemptIdx draw).2 := by
  unfold retryAttempt
  dsimp only
  split_ifs
  · exact ⟨enabled, .inl rfl⟩
  · exact ⟨enabled, .inl rfl⟩
  · exact ⟨enabled, entering.known, entering.attempted⟩
  · exact callProvider_alive executor shared { task with retryCount := task.retryCount + 1 } enabled
      ⟨entering.known, entering.attempted⟩ attemptIdx

variable (few : (sick.card : ℤ) ≤ executor.maxFailoverAttempts)
include few

/-- After a sick provider there is an attempt left. -/
theorem failoverTrigger_alive (entering : Entering executor sick task)
    (ill : task.currentProvider ∈ sick) (recorded : Bool) :
    Alive executor sick (failoverTrigger executor shared task recorded).2 := by
  obtain ⟨past, attempted, fresh, only⟩ := entering.attempted
  have visited := only.cons fresh entering.known.lower ill
  have room := visited.number_le
  have more : ¬ executor.maxFailoverAttempts ≤ (task.failoverAttempts : ℤ) := by omega
  simp only [failoverTrigger, if_neg enabled, if_neg more]
  refine ⟨enabled, ?_⟩
  rw [← attempted] at visited
  exact visited

theorem attemptFailed_alive (entering : Entering executor sick task)
    (ill : task.currentProvider ∈ sick) (attemptIdx : ℕ) (exc : Exc) (draw : ℚ)
    (transient : isTransientError exc = true) :
    Alive executor sick (attemptFailed executor shared task attemptIdx exc draw).2 := by
  have still : Entering executor sick (task.failing exc) := ⟨entering.known, entering.attempted⟩
  by_cases last : (attemptIdx : ℤ) = executor.retryPolicy.maxRetries
  · rw [attemptFailed_last executor shared task attemptIdx exc draw transient last]
    exact failoverTrigger_alive executor _ (task.failing exc) enabled few still ill true
  · rw [attemptFailed_again executor shared task attemptIdx exc draw transient last]
    exact retryAttempt_alive executor shared (task.failing exc) enabled still _ draw

variable (retries : 0 ≤ executor.retryPolicy.maxRetries)
include retries

/-- Only a sick provider is refused. -/
theorem enterProvider_alive (known : Known executor task.currentProvider)
    (fresh : task.currentProvider ∉ task.attemptedProviders)
    (only : OnlySick sick task.attemptedProviders task.failoverAttempts)
    (closed : WellClosed sick shared.circuits) :
    Alive executor sick (enterProvider executor shared task).2 := by
  have number := only.number_le
  have inRange : ¬ executor.maxFailoverAttempts < (task.failoverAttempts : ℤ) := by omega
  by_cases late : task.deadlineTimestamp ≤ shared.now
  · simp only [enterProvider, if_neg inRange, if_pos late]
    exact ⟨enabled, .inl rfl⟩
  rcases outcome : shared.circuits.canExecute task.currentProvider shared.now with
    ⟨allowed, circuits⟩
  cases allowed with
  | true =>
      rw [enterProvider_admitted executor shared task circuits inRange late retries outcome]
      have named : lower task.currentProvider :: task.attemptedProviders =
          task.currentProvider :: task.attemptedProviders := by rw [known.lower]
      exact callProvider_alive executor _ (task.ticketed circuits) enabled
        ⟨known, task.attemptedProviders, named, fresh, only⟩ 0
  | false =>
      have ill : task.currentProvider ∈ sick := by
        by_contra well
        have admitted := admitted_of_closed shared.circuits task.currentProvider shared.now
          (closed _ (by rwa [known.plain]))
        rw [outcome] at admitted
        cases admitted
      have visited := only.cons fresh known.lower ill
      rw [← known.lower] at visited
      simp only [enterProvider, if_neg inRange, if_neg late, outcome, Bool.false_eq_true, if_false,
        if_neg enabled]
      exact ⟨enabled, visited⟩

/-- The healthy candidate cannot have been attempted, so there is a fallback. -/
theorem candidatesFound_alive (circuitErr : Option Exc) (found : List RoutingCandidate)
    (only : OnlySick sick task.attemptedProviders (task.failoverAttempts + 1))
    (known : ∀ c ∈ found, Known executor c.provider)
    (well : ∃ c ∈ found, c.provider ∉ sick ∧ supports task.request.requiredCaps c = true)
    (closed : WellClosed sick shared.circuits) :
    Alive executor sick (candidatesFound executor shared task circuitErr found).2 := by
  have attempted : task.attemptedProviders.map lower = task.attemptedProviders :=
    (List.map_congr_left only.plain).trans (List.map_id' _)
  obtain ⟨c, member, healthy, capable⟩ := well
  have plain := known c member
  obtain ⟨fallback, selected⟩ := selectFallback_finds executor.engine shared.circuits task.request
    task.attemptedProviders found shared.now c member
    (by rw [attempted, plain.lower]; exact fun past => healthy (only.sick _ past))
    (closed _ (by rwa [plain.plain])) capable
  obtain ⟨offered, unattempted⟩ := selectFallback_not_attempted _ _ _ _ _ _ _ selected
  rw [attempted, (known fallback offered).lower] at unattempted
  have still : WellClosed sick (filterAvailable shared.now shared.circuits
      (eligible task.attemptedProviders found)).2 := fun breakerKey healthy =>
    asked_closed (asked_filterAvailable shared.now shared.circuits _ breakerKey)
      (closed breakerKey healthy)
  simp only [candidatesFound]
  rw [selected]
  exact enterProvider_alive executor _
    { task with
      failoverTriggered := true
      failoverAttempts := task.failoverAttempts + 1
      currentProvider := fallback.provider
      currentModel := fallback.model }
    enabled few retries (known fallback offered) unattempted only still

end Stretch

/-! ### What a step keeps -/

variable (executor sick)

/-- Only sick providers fail, and in a way that may pass, and whenever candidates
are asked for a capable healthy one is there. -/
def Healthy (task : Task) : Event → Prop
  | .failed exc _ => task.currentProvider ∈ sick ∧ isTransientError exc = true
  | .candidates found => (∀ c ∈ found, Known executor c.provider) ∧
      ∃ c ∈ found, c.provider ∉ sick ∧ supports task.request.requiredCaps c = true
  | _ => True

/-- Requests may fail over and name registered providers, and what happens to
them is as `Healthy` says. -/
def OneWell (system : System) : Action → Prop
  | .spawn _ arguments =>
      arguments.request.failoverEnabled ≠ some false ∧ Known executor arguments.initialProvider
  | .tick _ => True
  | .event request event =>
      match system.tasks request with
      | some task => Healthy executor sick task event
      | none => True

instance (provider : String) : Decidable (Known executor provider) :=
  decidable_of_iff
    (key provider = provider ∧ executor.engine.registry.isRegistered provider = true)
    ⟨fun ⟨plain, registered⟩ => ⟨plain, registered⟩, fun known => ⟨known.plain, known.registered⟩⟩

instance (task : Task) : DecidablePred (Healthy executor sick task)
  | .failed .. => inferInstanceAs (Decidable (_ ∧ _))
  | .candidates _ => inferInstanceAs (Decidable (_ ∧ _))
  | .woken => isTrue trivial
  | .responded _ => isTrue trivial
  | .cancelled => isTrue trivial

instance (system : System) : DecidablePred (OneWell executor sick system)
  | .spawn .. => inferInstanceAs (Decidable (_ ∧ _))
  | .tick _ => isTrue trivial
  | .event request event =>
      match found : system.tasks request with
      | some task => decidable_of_iff (Healthy executor sick task event) (by simp [OneWell, found])
      | none => isTrue (by simp [OneWell, found])

structure Survives (system : System) : Prop where
  alive : ∀ request task, system.tasks request = some task → Alive executor sick task
  closed : WellClosed sick system.shared.circuits

variable {executor sick}

theorem reported_wellClosed (shared : Shared) (task : Task) (event : Event)
    (alive : Alive executor sick task) (healthy : Healthy executor sick task event)
    (closed : WellClosed sick shared.circuits) :
    WellClosed sick (shared.reported executor task event).circuits := by
  intro breakerKey well
  have before := closed breakerKey well
  cases made : reportOf executor task event with
  | none =>
      rw [reported_none executor shared task event made]
      exact before
  | some report =>
      rw [reported_some executor shared task event report made]
      by_cases own : breakerKey = key task.currentProvider
      · rw [own] at before
        rw [own, setBreaker_self]
        unfold reportOf at made
        split at made
        · cases made
          change (((shared.circuits.breakerAt (key task.currentProvider)).recordSuccess
            shared.now).state = .CLOSED)
          simp [ProviderCircuitBreaker.recordSuccess, resolveState_closed _ shared.now before, before]
        · rename_i attemptIdx exc draw control
          have standing := alive.standing
          rw [control] at standing
          rw [own, standing.known.plain] at well
          exact absurd healthy.1 well
        · cases made
      · rw [setBreaker_other _ _ _ _ own]
        exact before

theorem resume_alive (few : (sick.card : ℤ) ≤ executor.maxFailoverAttempts)
    (retries : 0 ≤ executor.retryPolicy.maxRetries) (shared : Shared) (task : Task) (event : Event)
    (after : Shared × Task) (resumed : resume executor shared task event = some after)
    (alive : Alive executor sick task) (healthy : Healthy executor sick task event)
    (closed : WellClosed sick shared.circuits) : Alive executor sick after.2 := by
  obtain ⟨enabled, standing⟩ := alive
  cases resumed_of_resume executor shared task event after resumed with
  | woken attemptIdx wakeAt control =>
      rw [control] at standing
      exact callProvider_alive executor shared task enabled standing attemptIdx
  | responded attemptIdx response control => exact ⟨enabled, trivial⟩
  | failed attemptIdx exc draw control ordinary =>
      rw [control] at standing
      exact attemptFailed_alive executor shared task enabled few standing healthy.1 attemptIdx exc draw
        healthy.2
  | escaped attemptIdx exc draw control other =>
      rw [isException_of_isTransientError exc healthy.2] at other
      cases other
  | candidates circuitErr found control =>
      rw [control] at standing
      exact candidatesFound_alive executor shared task enabled few retries circuitErr found standing
        healthy.1 healthy.2 closed
  | cancelled => exact ⟨enabled, .inr rfl⟩

theorem survives_step (few : (sick.card : ℤ) ≤ executor.maxFailoverAttempts)
    (retries : 0 ≤ executor.retryPolicy.maxRetries) (system : System) (action : Action)
    (next : System) (survives : Survives executor sick system)
    (well : OneWell executor sick system action)
    (stepped : step executor system action = some next) : Survives executor sick next := by
  obtain ⟨alive, closed⟩ := survives
  cases stepped_of_step executor system next action stepped with
  | spawn request arguments free =>
      obtain ⟨enabled, known⟩ := well
      have entered := enterProvider_alive executor system.shared
        (firstTask executor system.shared arguments) enabled few retries known
        List.not_mem_nil ⟨List.nodup_nil, by simp [firstTask], by simp [firstTask], rfl⟩ closed
      refine ⟨fun other task found => ?_, fun breakerKey healthy => ?_⟩
      · rcases put_cases system request _ other task found with ⟨-, rfl⟩ | ⟨-, found⟩
        · exact entered
        · exact alive other task found
      · have asked : OnlyAsked system.shared (execute executor system.shared arguments).1 :=
          enterProvider_asks executor system.shared _
        exact asked_closed (asked.breakers breakerKey) (closed breakerKey healthy)
  | tick seconds forward => exact ⟨alive, closed⟩
  | event request event task after present resumed =>
      simp only [OneWell, present] at well
      have running := alive request task present
      have reported := reported_wellClosed system.shared task event running well closed
      have asked := resume_asks executor system.shared task event after resumed
      refine ⟨fun other later found => ?_, fun breakerKey healthy => ?_⟩
      · rcases put_cases system request after other later found with ⟨-, rfl⟩ | ⟨-, found⟩
        · exact resume_alive few retries system.shared task event after resumed running well closed
        · exact alive other later found
      · exact asked_closed (asked.breakers breakerKey) (reported breakerKey healthy)

/-- No request fails but for its deadline or by being cancelled, over every run of
any requests in which at most `max_failover_attempts` providers fail, whatever
their circuits do and whatever the thresholds are; and no other provider is ever
refused. -/
theorem one_well_is_enough (executor : ReliabilityExecutor) (sick : Finset String)
    (few : (sick.card : ℤ) ≤ executor.maxFailoverAttempts)
    (retries : 0 ≤ executor.retryPolicy.maxRetries) (now : ℚ)
    (failureThreshold halfOpenTrials : ℤ) (cooldownSeconds : ℚ) (actions : List Action)
    (well : StepsMeet (step executor) (OneWell executor sick)
      (start now failureThreshold halfOpenTrials cooldownSeconds) actions) :
    HoldsThroughout (step executor)
      (fun system =>
        (∀ request task exc, system.tasks request = some task → task.control = .raised exc →
          exc = totalDeadlineExceededError ∨ exc = .cancelledError) ∧
        ∀ provider, key provider ∉ sick → ∀ later,
          (system.shared.circuits.canExecute provider later).1 = true)
      (start now failureThreshold halfOpenTrials cooldownSeconds) actions := by
  have fresh : Survives executor sick (start now failureThreshold halfOpenTrials cooldownSeconds) :=
    ⟨fun request task found => (by cases found), fun breakerKey healthy => rfl⟩
  have throughout := holdsThroughout_of_steps (step executor) (Survives executor sick)
    (OneWell executor sick)
    (fun system action next survives well => survives_step few retries system action next survives well)
    _ fresh actions well
  refine throughout.imp _ fun system survives => ⟨fun request task exc found raised => ?_,
    fun provider healthy later => ?_⟩
  · have standing := (survives.alive request task found).standing
    rw [raised] at standing
    exact standing
  · exact admitted_of_closed _ provider later (survives.closed _ healthy)

end Availability

/-! ## Two providers -/

/-- No retries and one failover. -/
def twoProviders : ReliabilityExecutor :=
  { oneAttempt with
    engine := ⟨⟨["gemini", "groq"]⟩, .auto⟩
    maxFailoverAttempts := 1 }

/-- Groq times out, and Gemini answers. -/
def rescue : List Action :=
  [.spawn 0 helloArguments, .event 0 (.failed .httpxTimeoutException 0),
    .event 0 (.candidates [slowModel]), .event 0 (.responded helloBack)]

theorem rescue_answered :
    (((run (step twoProviders) (start 0 1 1 30) rescue).bind fun final =>
        final.tasks 0).map Task.currentProvider) = some "gemini" ∧
      HoldsThroughout (step twoProviders)
        (fun system =>
          (∀ request task exc, system.tasks request = some task → task.control = .raised exc →
            exc = totalDeadlineExceededError ∨ exc = .cancelledError) ∧
          ∀ provider, key provider ∉ ({"groq"} : Finset String) → ∀ later,
            (system.shared.circuits.canExecute provider later).1 = true)
        (start 0 1 1 30) rescue :=
  ⟨by decide +kernel,
    one_well_is_enough twoProviders {"groq"} (by decide) (by decide) 0 1 1 30 rescue
      (by decide +kernel)⟩

end CortexGateway.Reliability
