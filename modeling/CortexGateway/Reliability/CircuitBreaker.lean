import CortexGateway.Core.Exceptions
import CortexGateway.Core.Text

/-! # Failure classification and the circuit breaker

`app/reliability/errors.py` and `circuit_breaker.py`.  Every method runs
without an await, so it is a function of the clock and the breaker.  `episode`
numbers the HALF_OPEN episodes of a breaker and is read by no method. -/
set_option autoImplicit false
namespace CortexGateway.Reliability

/-- Exceptions neither classifier ever counts. -/
def isPermanentError (exc : Exc) : Bool :=
  exc.isinstance [.invalidModelError, .invalidProviderError, .providerDisabledError,
    .providerAuthError] || exc.isValueOrTypeError

/-- The status code of a `ProviderException` is one of these. -/
def hasStatusCode (exc : Exc) (codes : List ℕ) : Bool :=
  match exc with
  | .provider cls _ => codes.contains cls.statusCode
  | _ => false

def isTransientError (exc : Exc) : Bool :=
  if isPermanentError exc then false
  else if exc.isinstance [.providerTimeoutError, .providerUnavailableError,
      .providerRateLimitError] then true
  else if exc.isNetworkError then true
  else hasStatusCode exc [429, 500, 502, 503, 504]

def isCircuitBreakerFailure (exc : Exc) : Bool :=
  if isPermanentError exc then false
  else if exc.isinstance [.providerTimeoutError, .providerUnavailableError] then true
  else if exc.isNetworkError then true
  else hasStatusCode exc [500, 502, 503, 504]

/-- Whatever counts toward the circuit is retried. -/
theorem isTransientError_of_isCircuitBreakerFailure (exc : Exc)
    (counts : isCircuitBreakerFailure exc = true) : isTransientError exc = true := by
  cases exc with
  | provider cls message => cases cls <;> first | rfl | cases counts
  | valueError message => cases counts
  | typeError message => cases counts
  | httpxTimeoutException => rfl
  | httpxConnectError => rfl
  | httpxNetworkError => rfl
  | connectionError => rfl
  | timeoutError => rfl
  | _ => cases counts

/-- A failure of the provider is an `Exception`. -/
theorem isException_of_isTransientError (exc : Exc) (transient : isTransientError exc = true) :
    exc.isException = true := by
  cases exc with
  | cancelledError => cases transient
  | otherBaseException name => cases transient
  | _ => rfl

inductive CircuitState
  | CLOSED
  | OPEN
  | HALF_OPEN
  deriving DecidableEq, Repr

def CircuitState.value : CircuitState → String
  | .CLOSED => "CLOSED"
  | .OPEN => "OPEN"
  | .HALF_OPEN => "HALF_OPEN"

structure ProviderCircuitBreaker where
  failureThreshold : ℤ
  cooldownSeconds : ℚ
  halfOpenTrials : ℤ
  state : CircuitState
  failureCount : ℕ
  lastFailureTime : Option ℚ
  halfOpenTrialCount : ℕ
  episode : ℕ
  deriving DecidableEq

namespace ProviderCircuitBreaker

/-- `_resolve_state`: an open breaker whose cooldown is over starts an episode. -/
def resolveState (breaker : ProviderCircuitBreaker) (now : ℚ) : ProviderCircuitBreaker :=
  match breaker.state, breaker.lastFailureTime with
  | .OPEN, some failed =>
      if breaker.cooldownSeconds ≤ now - failed then
        { breaker with
          state := .HALF_OPEN
          halfOpenTrialCount := 0
          episode := breaker.episode + 1 }
      else breaker
  | _, _ => breaker

/-- The breaker would admit a request as a trial. -/
def takesTrial (breaker : ProviderCircuitBreaker) (now : ℚ) : Bool :=
  let resolved := breaker.resolveState now
  resolved.state = .HALF_OPEN && (resolved.halfOpenTrialCount : ℤ) < resolved.halfOpenTrials

def canExecute (breaker : ProviderCircuitBreaker) (now : ℚ) : Bool × ProviderCircuitBreaker :=
  let resolved := breaker.resolveState now
  match resolved.state with
  | .CLOSED => (true, resolved)
  | .HALF_OPEN =>
      if (resolved.halfOpenTrialCount : ℤ) < resolved.halfOpenTrials then
        (true, { resolved with halfOpenTrialCount := resolved.halfOpenTrialCount + 1 })
      else (false, resolved)
  | .OPEN => (false, resolved)

def recordSuccess (breaker : ProviderCircuitBreaker) (now : ℚ) : ProviderCircuitBreaker :=
  let resolved := breaker.resolveState now
  match resolved.state with
  | .HALF_OPEN =>
      { resolved with
        state := .CLOSED
        failureCount := 0
        halfOpenTrialCount := 0
        lastFailureTime := none }
  | .CLOSED => { resolved with failureCount := 0 }
  | .OPEN => resolved

def recordFailure (breaker : ProviderCircuitBreaker) (exc : Exc) (now : ℚ) :
    ProviderCircuitBreaker :=
  if isCircuitBreakerFailure exc then
    -- the failure time is stored first, so a cooldown that was over is not any more
    let resolved := { breaker with lastFailureTime := some now }.resolveState now
    match resolved.state with
    | .HALF_OPEN => { resolved with state := .OPEN }
    | .CLOSED =>
        if resolved.failureThreshold ≤ (resolved.failureCount : ℤ) + 1 then
          { resolved with failureCount := resolved.failureCount + 1, state := .OPEN }
        else { resolved with failureCount := resolved.failureCount + 1 }
    | .OPEN => resolved
  else breaker

/-- `trip`; a negative threshold counts as zero. -/
def trip (breaker : ProviderCircuitBreaker) (now : ℚ) : ProviderCircuitBreaker :=
  { breaker with
    state := .OPEN
    lastFailureTime := some now
    failureCount := breaker.failureThreshold.toNat }

def reset (breaker : ProviderCircuitBreaker) : ProviderCircuitBreaker :=
  { breaker with
    state := .CLOSED
    failureCount := 0
    halfOpenTrialCount := 0
    lastFailureTime := none }

/-- Every trial slot of the current episode is taken. -/
def Full (breaker : ProviderCircuitBreaker) : Prop :=
  breaker.state = .HALF_OPEN ∧ (breaker.halfOpenTrialCount : ℤ) = breaker.halfOpenTrials

instance : DecidablePred Full := fun breaker =>
  inferInstanceAs (Decidable (breaker.state = .HALF_OPEN ∧
    (breaker.halfOpenTrialCount : ℤ) = breaker.halfOpenTrials))

/-! ## What each method does -/

/-- Resolving changes nothing but to start a new episode. -/
theorem resolveState_cases (breaker : ProviderCircuitBreaker) (now : ℚ) :
    breaker.resolveState now = breaker ∨
      (breaker.state = .OPEN ∧ breaker.resolveState now = { breaker with
        state := .HALF_OPEN
        halfOpenTrialCount := 0
        episode := breaker.episode + 1 }) := by
  unfold resolveState
  split
  · rename_i failed open? last
    split_ifs
    · exact Or.inr ⟨open?, rfl⟩
    · exact Or.inl rfl
  · exact Or.inl rfl

/-- Both were created with the same settings. -/
structure SameSettings (after before : ProviderCircuitBreaker) : Prop where
  failureThreshold : after.failureThreshold = before.failureThreshold
  cooldownSeconds : after.cooldownSeconds = before.cooldownSeconds
  halfOpenTrials : after.halfOpenTrials = before.halfOpenTrials

theorem SameSettings.trans {last middle first : ProviderCircuitBreaker}
    (later : SameSettings last middle) (earlier : SameSettings middle first) :
    SameSettings last first :=
  ⟨later.failureThreshold.trans earlier.failureThreshold,
    later.cooldownSeconds.trans earlier.cooldownSeconds,
    later.halfOpenTrials.trans earlier.halfOpenTrials⟩

theorem resolveState_settings (breaker : ProviderCircuitBreaker) (now : ℚ) :
    SameSettings (breaker.resolveState now) breaker := by
  rcases resolveState_cases breaker now with same | ⟨-, started⟩
  · rw [same]
    exact ⟨rfl, rfl, rfl⟩
  · rw [started]
    exact ⟨rfl, rfl, rfl⟩

@[simp] theorem resolveState_halfOpenTrials (breaker : ProviderCircuitBreaker) (now : ℚ) :
    (breaker.resolveState now).halfOpenTrials = breaker.halfOpenTrials :=
  (resolveState_settings breaker now).halfOpenTrials

@[simp] theorem resolveState_cooldownSeconds (breaker : ProviderCircuitBreaker) (now : ℚ) :
    (breaker.resolveState now).cooldownSeconds = breaker.cooldownSeconds :=
  (resolveState_settings breaker now).cooldownSeconds

@[simp] theorem resolveState_failureThreshold (breaker : ProviderCircuitBreaker) (now : ℚ) :
    (breaker.resolveState now).failureThreshold = breaker.failureThreshold :=
  (resolveState_settings breaker now).failureThreshold

theorem resolveState_closed (breaker : ProviderCircuitBreaker) (now : ℚ)
    (closed : breaker.state = .CLOSED) : breaker.resolveState now = breaker := by
  simp [resolveState, closed]

theorem resolveState_halfOpen (breaker : ProviderCircuitBreaker) (now : ℚ)
    (halfOpen : breaker.state = .HALF_OPEN) : breaker.resolveState now = breaker := by
  simp [resolveState, halfOpen]

/-- The breaker after a request was admitted as a trial. -/
def afterTrial (breaker : ProviderCircuitBreaker) (now : ℚ) : ProviderCircuitBreaker :=
  { breaker.resolveState now with
    halfOpenTrialCount := (breaker.resolveState now).halfOpenTrialCount + 1 }

theorem halfOpen_of_takesTrial (breaker : ProviderCircuitBreaker) (now : ℚ)
    (takes : breaker.takesTrial now = true) : (breaker.resolveState now).state = .HALF_OPEN := by
  simp only [takesTrial, Bool.and_eq_true, decide_eq_true_eq] at takes
  exact takes.1

@[simp] theorem afterTrial_halfOpenTrials (breaker : ProviderCircuitBreaker) (now : ℚ) :
    (breaker.afterTrial now).halfOpenTrials = breaker.halfOpenTrials :=
  resolveState_halfOpenTrials breaker now

@[simp] theorem afterTrial_halfOpenTrialCount (breaker : ProviderCircuitBreaker) (now : ℚ) :
    (breaker.afterTrial now).halfOpenTrialCount =
      (breaker.resolveState now).halfOpenTrialCount + 1 := rfl

theorem resolveState_afterTrial (breaker : ProviderCircuitBreaker) (now : ℚ)
    (takes : breaker.takesTrial now = true) :
    (breaker.afterTrial now).resolveState now = breaker.afterTrial now :=
  resolveState_halfOpen _ now (halfOpen_of_takesTrial breaker now takes)

/-- A refusal leaves the breaker as it was, and an admission either finds it
closed or takes a trial slot of the episode it returns. -/
theorem canExecute_cases (breaker : ProviderCircuitBreaker) (now : ℚ)
    (trials : 1 ≤ breaker.halfOpenTrials) :
    (breaker.canExecute now = (false, breaker) ∧ breaker.state ≠ .CLOSED ∧
        breaker.takesTrial now = false) ∨
      (breaker.canExecute now = (true, breaker) ∧ breaker.state = .CLOSED) ∨
      (breaker.takesTrial now = true ∧
        breaker.canExecute now = (true, breaker.afterTrial now)) := by
  cases shown : (breaker.resolveState now).state with
  | CLOSED =>
      rcases resolveState_cases breaker now with same | ⟨-, started⟩
      · rw [same] at shown
        exact Or.inr (Or.inl ⟨by simp [canExecute, same, shown], shown⟩)
      · rw [started] at shown
        cases shown
  | OPEN =>
      rcases resolveState_cases breaker now with same | ⟨-, started⟩
      · rw [same] at shown
        exact Or.inl ⟨by simp [canExecute, same, shown], by simp [shown],
          by simp [takesTrial, same, shown]⟩
      · rw [started] at shown
        cases shown
  | HALF_OPEN =>
      by_cases room : ((breaker.resolveState now).halfOpenTrialCount : ℤ) <
          (breaker.resolveState now).halfOpenTrials
      · refine Or.inr (Or.inr ⟨?_, ?_⟩)
        · simpa [takesTrial, shown] using room
        · simp only [canExecute, afterTrial, shown]
          rw [if_pos room]
      · have same : breaker.resolveState now = breaker := by
          rcases resolveState_cases breaker now with same | ⟨-, started⟩
          · exact same
          · rw [started] at room
            simp only [Nat.cast_zero] at room
            omega
        rw [same] at shown room
        exact Or.inl ⟨by simp [canExecute, same, shown, room], by simp [shown],
          by simpa [takesTrial, same, shown] using room⟩

/-- Nor is it when `get_state` resolves it once more. -/
theorem resolveState_recordSuccess (breaker : ProviderCircuitBreaker) (now : ℚ) :
    ((breaker.recordSuccess now).resolveState now).state ≠ .HALF_OPEN := by
  cases shown : (breaker.resolveState now).state with
  | CLOSED =>
      have closed : (breaker.recordSuccess now).state = .CLOSED := by simp [recordSuccess, shown]
      rw [resolveState_closed _ now closed, closed]
      simp
  | HALF_OPEN =>
      have closed : (breaker.recordSuccess now).state = .CLOSED := by simp [recordSuccess, shown]
      rw [resolveState_closed _ now closed, closed]
      simp
  | OPEN =>
      have same : breaker.resolveState now = breaker := by
        rcases resolveState_cases breaker now with same | ⟨-, started⟩
        · exact same
        · rw [started] at shown
          cases shown
      have kept : breaker.recordSuccess now = breaker := by
        simp only [recordSuccess, shown]
        exact same
      rw [kept, shown]
      simp

theorem recordFailure_uncounted (breaker : ProviderCircuitBreaker) (exc : Exc) (now : ℚ)
    (uncounted : isCircuitBreakerFailure exc = false) :
    breaker.recordFailure exc now = breaker := by
  simp [recordFailure, uncounted]

theorem recordFailure_not_halfOpen (breaker : ProviderCircuitBreaker) (exc : Exc) (now : ℚ)
    (counted : isCircuitBreakerFailure exc = true) :
    (breaker.recordFailure exc now).state ≠ .HALF_OPEN := by
  simp only [recordFailure, counted, if_true]
  generalize ({ breaker with lastFailureTime := some now } : ProviderCircuitBreaker).resolveState
    now = resolved
  cases shown : resolved.state with
  | OPEN => simp [shown]
  | HALF_OPEN => simp
  | CLOSED =>
      simp only
      split_ifs <;> simp

theorem recordFailure_closed (breaker : ProviderCircuitBreaker) (exc : Exc) (now : ℚ)
    (counted : isCircuitBreakerFailure exc = true) (closed : breaker.state = .CLOSED) :
    (breaker.recordFailure exc now).failureCount = breaker.failureCount + 1 ∧
      (breaker.recordFailure exc now).state =
        if breaker.failureThreshold ≤ (breaker.failureCount : ℤ) + 1 then .OPEN else .CLOSED := by
  have resolved : ({ breaker with lastFailureTime := some now } :
      ProviderCircuitBreaker).resolveState now = { breaker with lastFailureTime := some now } :=
    resolveState_closed _ _ closed
  simp only [recordFailure, counted, if_true, resolved]
  simp only [closed]
  split_ifs <;> simp

theorem recordFailure_halfOpen (breaker : ProviderCircuitBreaker) (exc : Exc) (now : ℚ)
    (counted : isCircuitBreakerFailure exc = true) (halfOpen : breaker.state = .HALF_OPEN) :
    breaker.recordFailure exc now =
      { breaker with state := .OPEN, lastFailureTime := some now } := by
  simp [recordFailure, counted, resolveState, halfOpen]

theorem recordFailure_open (breaker : ProviderCircuitBreaker) (exc : Exc) (now : ℚ)
    (counted : isCircuitBreakerFailure exc = true) (opened : breaker.state = .OPEN)
    (cooldown : 0 < breaker.cooldownSeconds) :
    breaker.recordFailure exc now = { breaker with lastFailureTime := some now } := by
  simp [recordFailure, counted, resolveState, opened, not_le.mpr cooldown]

theorem recordFailure_instant (breaker : ProviderCircuitBreaker) (exc : Exc) (now : ℚ)
    (counted : isCircuitBreakerFailure exc = true) (opened : breaker.state = .OPEN)
    (instant : breaker.cooldownSeconds ≤ 0) :
    breaker.recordFailure exc now =
      { breaker with
        lastFailureTime := some now
        halfOpenTrialCount := 0
        episode := breaker.episode + 1 } := by
  simp [recordFailure, counted, resolveState, opened, instant]

theorem recordSuccess_settings (breaker : ProviderCircuitBreaker) (now : ℚ) :
    SameSettings (breaker.recordSuccess now) breaker := by
  obtain ⟨threshold, cooldown, trials⟩ := resolveState_settings breaker now
  simp only [recordSuccess]
  split <;> exact ⟨threshold, cooldown, trials⟩

theorem recordFailure_settings (breaker : ProviderCircuitBreaker) (exc : Exc) (now : ℚ) :
    SameSettings (breaker.recordFailure exc now) breaker := by
  obtain ⟨threshold, cooldown, trials⟩ := resolveState_settings
    ({ breaker with lastFailureTime := some now } : ProviderCircuitBreaker) now
  cases counted : isCircuitBreakerFailure exc with
  | false =>
      rw [recordFailure_uncounted breaker exc now counted]
      exact ⟨rfl, rfl, rfl⟩
  | true =>
      simp only [recordFailure, counted, if_true]
      split
      · exact ⟨threshold, cooldown, trials⟩
      · split_ifs <;> exact ⟨threshold, cooldown, trials⟩
      · exact ⟨threshold, cooldown, trials⟩

@[simp] theorem recordSuccess_halfOpenTrials (breaker : ProviderCircuitBreaker) (now : ℚ) :
    (breaker.recordSuccess now).halfOpenTrials = breaker.halfOpenTrials :=
  (recordSuccess_settings breaker now).halfOpenTrials

@[simp] theorem recordFailure_halfOpenTrials (breaker : ProviderCircuitBreaker) (exc : Exc)
    (now : ℚ) : (breaker.recordFailure exc now).halfOpenTrials = breaker.halfOpenTrials :=
  (recordFailure_settings breaker exc now).halfOpenTrials

theorem recordFailure_lastFailureTime (breaker : ProviderCircuitBreaker) (exc : Exc) (now : ℚ)
    (counted : isCircuitBreakerFailure exc = true) :
    (breaker.recordFailure exc now).lastFailureTime = some now := by
  have stamped : (({ breaker with lastFailureTime := some now } :
      ProviderCircuitBreaker).resolveState now).lastFailureTime = some now := by
    rcases resolveState_cases { breaker with lastFailureTime := some now } now with
      same | ⟨-, started⟩
    · rw [same]
    · rw [started]
  simp only [recordFailure, counted, if_true]
  split
  · exact stamped
  · split_ifs <;> exact stamped
  · exact stamped

end ProviderCircuitBreaker

/-! ## The registry -/

structure CircuitBreakerRegistry where
  failureThreshold : ℤ
  cooldownSeconds : ℚ
  halfOpenTrials : ℤ
  breakers : String → Option ProviderCircuitBreaker

namespace CircuitBreakerRegistry

/-- `provider.lower().strip()`. -/
def key (provider : String) : String := strip (lower provider)

/-- A breaker as the registry constructs it. -/
def newBreaker (registry : CircuitBreakerRegistry) : ProviderCircuitBreaker :=
  { failureThreshold := registry.failureThreshold
    cooldownSeconds := registry.cooldownSeconds
    halfOpenTrials := registry.halfOpenTrials
    state := .CLOSED
    failureCount := 0
    lastFailureTime := none
    halfOpenTrialCount := 0
    episode := 0 }

/-- The breaker stored under a key, or the one `get_breaker` would construct. -/
def breakerAt (registry : CircuitBreakerRegistry) (key : String) : ProviderCircuitBreaker :=
  (registry.breakers key).getD registry.newBreaker

def getBreaker (registry : CircuitBreakerRegistry) (provider : String) : ProviderCircuitBreaker :=
  registry.breakerAt (key provider)

def setBreaker (registry : CircuitBreakerRegistry) (provider : String)
    (breaker : ProviderCircuitBreaker) : CircuitBreakerRegistry :=
  { registry with
    breakers := Function.update registry.breakers (key provider) (some breaker) }

def canExecute (registry : CircuitBreakerRegistry) (provider : String) (now : ℚ) :
    Bool × CircuitBreakerRegistry :=
  let (allowed, breaker) := (registry.getBreaker provider).canExecute now
  (allowed, registry.setBreaker provider breaker)

def recordSuccess (registry : CircuitBreakerRegistry) (provider : String) (now : ℚ) :
    CircuitBreakerRegistry :=
  registry.setBreaker provider ((registry.getBreaker provider).recordSuccess now)

def recordFailure (registry : CircuitBreakerRegistry) (provider : String) (exc : Exc) (now : ℚ) :
    CircuitBreakerRegistry :=
  registry.setBreaker provider ((registry.getBreaker provider).recordFailure exc now)

def getState (registry : CircuitBreakerRegistry) (provider : String) (now : ℚ) :
    CircuitState × CircuitBreakerRegistry :=
  let breaker := (registry.getBreaker provider).resolveState now
  (breaker.state, registry.setBreaker provider breaker)

@[simp] theorem setBreaker_self (registry : CircuitBreakerRegistry) (provider : String)
    (breaker : ProviderCircuitBreaker) :
    (registry.setBreaker provider breaker).breakerAt (key provider) = breaker := by
  simp [breakerAt, setBreaker]

theorem setBreaker_other (registry : CircuitBreakerRegistry) (provider other : String)
    (breaker : ProviderCircuitBreaker) (different : other ≠ key provider) :
    (registry.setBreaker provider breaker).breakerAt other = registry.breakerAt other := by
  simp [breakerAt, setBreaker, Function.update_of_ne different, newBreaker]

@[simp] theorem setBreaker_getBreaker (registry : CircuitBreakerRegistry) (provider : String) :
    (registry.setBreaker provider (registry.getBreaker provider)).breakerAt =
      registry.breakerAt := by
  funext other
  by_cases own : other = key provider
  · rw [own, setBreaker_self, getBreaker]
  · exact setBreaker_other _ _ _ _ own

/-- An admission or a refusal, as the breaker of the provider decides. -/
theorem canExecute_cases (registry : CircuitBreakerRegistry) (provider : String) (now : ℚ)
    (trials : 1 ≤ (registry.getBreaker provider).halfOpenTrials) :
    (registry.canExecute provider now =
        (false, registry.setBreaker provider (registry.getBreaker provider)) ∧
        (registry.getBreaker provider).state ≠ .CLOSED) ∨
      (registry.canExecute provider now =
        (true, registry.setBreaker provider (registry.getBreaker provider)) ∧
        (registry.getBreaker provider).state = .CLOSED) ∨
      (registry.canExecute provider now =
        (true, registry.setBreaker provider ((registry.getBreaker provider).afterTrial now)) ∧
        (registry.getBreaker provider).takesTrial now = true) := by
  rcases ProviderCircuitBreaker.canExecute_cases (registry.getBreaker provider) now trials with
    ⟨refused, other, -⟩ | ⟨admitted, closed⟩ | ⟨takes, admitted⟩
  · exact Or.inl ⟨by rw [canExecute, refused], other⟩
  · exact Or.inr (Or.inl ⟨by rw [canExecute, admitted], closed⟩)
  · exact Or.inr (Or.inr ⟨by rw [canExecute, admitted], takes⟩)

theorem canExecute_kept_or_taken (registry : CircuitBreakerRegistry) (provider : String) (now : ℚ)
    (trials : 1 ≤ (registry.getBreaker provider).halfOpenTrials) :
    (registry.canExecute provider now).2.breakerAt = registry.breakerAt ∨
      (registry.canExecute provider now =
        (true, registry.setBreaker provider ((registry.getBreaker provider).afterTrial now)) ∧
        (registry.getBreaker provider).takesTrial now = true) := by
  rcases canExecute_cases registry provider now trials with
    ⟨outcome, -⟩ | ⟨outcome, -⟩ | taken
  · rw [outcome]
    exact Or.inl (setBreaker_getBreaker _ _)
  · rw [outcome]
    exact Or.inl (setBreaker_getBreaker _ _)
  · exact Or.inr taken

end CircuitBreakerRegistry

end CortexGateway.Reliability
