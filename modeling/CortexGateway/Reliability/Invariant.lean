import CortexGateway.Reliability.Cooldown

/-! # The invariant of a circuit breaker

A history lists the operations on one breaker with their times, the latest
first.  What it says about the breaker is counted from the operations and the
states they leave, not from the breaker's own counters. -/
set_option autoImplicit false
namespace CortexGateway.Reliability.ProviderCircuitBreaker
open CircuitBreakerRegistry

abbrev History := List (ℚ × Operation)

/-- The breaker after the operations of a history. -/
def after (start : ProviderCircuitBreaker) : History → ProviderCircuitBreaker
  | [] => start
  | (now, operation) :: earlier => (after start earlier).perform now operation

def Operation.counted : Operation → Bool
  | .recordFailure exc => isCircuitBreakerFailure exc
  | _ => false

/-- A success, or an entry into CLOSED; a reset enters it anew. -/
def clears (breaker : ProviderCircuitBreaker) (now : ℚ) (operation : Operation) : Bool :=
  operation = .recordSuccess || operation = .reset ||
    (breaker.state ≠ .CLOSED && (breaker.perform now operation).state = .CLOSED)

def failuresAfter (breaker : ProviderCircuitBreaker) (now : ℚ) (operation : Operation)
    (failures : ℕ) : ℕ :=
  if breaker.clears now operation then 0 else failures + operation.counted.toNat

/-- The counted failures since the later of the last entry into CLOSED and the
last success. -/
def failuresSince (start : ProviderCircuitBreaker) : History → ℕ
  | [] => 0
  | (now, operation) :: earlier =>
      (after start earlier).failuresAfter now operation (failuresSince start earlier)

/-- `can_execute` returned True. -/
def allowed (breaker : ProviderCircuitBreaker) (now : ℚ) (operation : Operation) : Bool :=
  operation = .canExecute && (breaker.canExecute now).1

def trialsAfter (breaker : ProviderCircuitBreaker) (now : ℚ) (operation : Operation)
    (trials : ℕ) : ℕ :=
  if (breaker.perform now operation).state = .HALF_OPEN then
    (if breaker.state = .HALF_OPEN then trials else 0) + (breaker.allowed now operation).toNat
  else 0

/-- How often `can_execute` returned True since the last entry into HALF_OPEN,
none once it has been left. -/
def trialsSince (start : ProviderCircuitBreaker) : History → ℕ
  | [] => 0
  | (now, operation) :: earlier =>
      (after start earlier).trialsAfter now operation (trialsSince start earlier)

/-! ## What one operation keeps -/

/-- The counters agree with what was counted, an open breaker knows its last
failure, and a HALF_OPEN one keeps to its trials. -/
structure Agrees (breaker : ProviderCircuitBreaker) (failures trials : ℕ) : Prop where
  closed : breaker.state = .CLOSED → breaker.failureCount = failures ∧
    (failures : ℤ) < breaker.failureThreshold
  opened : breaker.state = .OPEN → breaker.lastFailureTime.isSome = true
  halfOpen : breaker.state = .HALF_OPEN → breaker.halfOpenTrialCount = trials ∧
    (trials : ℤ) ≤ breaker.halfOpenTrials

variable {breaker : ProviderCircuitBreaker} {now : ℚ} {operation : Operation} {failures trials : ℕ}

theorem Agrees.same (agrees : breaker.Agrees failures trials)
    (unchanged : breaker.perform now operation = breaker) (uncounted : operation.counted = false)
    (silent : breaker.allowed now operation = true → breaker.state = .CLOSED)
    (quiet : operation ≠ .recordSuccess ∧ operation ≠ .reset) :
    (breaker.perform now operation).Agrees (breaker.failuresAfter now operation failures)
      (breaker.trialsAfter now operation trials) := by
  have kept : breaker.clears now operation = false := by
    simp [clears, unchanged, quiet.1, quiet.2]
  rw [failuresAfter, trialsAfter, unchanged, kept, uncounted]
  refine ⟨by simpa using agrees.closed, agrees.opened, fun halfOpen => ?_⟩
  have refused : breaker.allowed now operation = false := by
    by_contra admitted
    have closed := silent (by simpa using admitted)
    rw [halfOpen] at closed
    cases closed
  simpa [halfOpen, refused] using agrees.halfOpen halfOpen

theorem agrees_canExecute (enough : 1 ≤ breaker.halfOpenTrials)
    (agrees : breaker.Agrees failures trials) :
    (breaker.perform now .canExecute).Agrees (breaker.failuresAfter now .canExecute failures)
      (breaker.trialsAfter now .canExecute trials) := by
  rcases canExecute_cases breaker now enough with
    ⟨outcome, -, -⟩ | ⟨outcome, closed⟩ | ⟨takes, outcome⟩
  · exact agrees.same (by simp [perform, outcome]) rfl (by simp [allowed, outcome]) (by simp)
  · exact agrees.same (by simp [perform, outcome]) rfl (fun _ => closed) (by simp)
  · have halfOpen := halfOpen_of_takesTrial breaker now takes
    have room : ((breaker.resolveState now).halfOpenTrialCount : ℤ) < breaker.halfOpenTrials := by
      simpa [takesTrial, halfOpen] using takes
    have performed : breaker.perform now .canExecute = breaker.afterTrial now := by
      simp [perform, outcome]
    have shown : (breaker.afterTrial now).state = .HALF_OPEN := halfOpen
    have counted : breaker.trialsAfter now .canExecute trials =
        (breaker.resolveState now).halfOpenTrialCount + 1 := by
      rw [trialsAfter, performed, if_pos shown]
      simp only [allowed, outcome, decide_true, Bool.and_self, Bool.toNat_true]
      congr 1
      split_ifs with already
      · rw [resolveState_halfOpen breaker now already, (agrees.halfOpen already).1]
      · rcases resolveState_cases breaker now with same | ⟨-, started⟩
        · exact absurd (same ▸ halfOpen) already
        · rw [started]
    rw [performed, counted]
    refine ⟨fun closed => ?_, fun opened => ?_, fun _ => ⟨rfl, ?_⟩⟩
    · rw [shown] at closed
      cases closed
    · rw [shown] at opened
      cases opened
    · rw [afterTrial_halfOpenTrials]
      push_cast
      omega

theorem agrees_getState (enough : 1 ≤ breaker.halfOpenTrials)
    (agrees : breaker.Agrees failures trials) :
    (breaker.perform now .getState).Agrees (breaker.failuresAfter now .getState failures)
      (breaker.trialsAfter now .getState trials) := by
  rcases resolveState_cases breaker now with same | ⟨wasOpen, started⟩
  · exact agrees.same same rfl (by simp [allowed]) (by simp)
  · have entered : breaker.trialsAfter now .getState trials = 0 := by
      simp [trialsAfter, perform, started, wasOpen, allowed]
    rw [entered, perform, started]
    refine ⟨fun closed => (by cases closed), fun opened => (by cases opened), fun _ => ⟨rfl, ?_⟩⟩
    change (((0 : ℕ)) : ℤ) ≤ breaker.halfOpenTrials
    omega

/-- A success closes the circuit and starts the count anew, unless it is open. -/
theorem recordSuccess_cases (breaker : ProviderCircuitBreaker) (now : ℚ) :
    ((breaker.recordSuccess now).state = .CLOSED ∧ (breaker.recordSuccess now).failureCount = 0) ∨
      breaker.recordSuccess now = breaker ∧ breaker.state = .OPEN := by
  cases shown : (breaker.resolveState now).state with
  | CLOSED => simp [recordSuccess, shown]
  | HALF_OPEN => simp [recordSuccess, shown]
  | OPEN =>
      rcases resolveState_cases breaker now with same | ⟨-, started⟩
      · rw [same] at shown
        simp [recordSuccess, same, shown]
      · rw [started] at shown
        cases shown

theorem agrees_recordSuccess (some : 1 ≤ breaker.failureThreshold)
    (agrees : breaker.Agrees failures trials) :
    (breaker.perform now .recordSuccess).Agrees (breaker.failuresAfter now .recordSuccess failures)
      (breaker.trialsAfter now .recordSuccess trials) := by
  have cleared : breaker.failuresAfter now .recordSuccess failures = 0 := by
    simp [failuresAfter, clears]
  rw [cleared, perform]
  rcases recordSuccess_cases breaker now with ⟨closed, none⟩ | ⟨same, opened⟩
  · refine ⟨fun _ => ⟨none, ?_⟩, fun opened => ?_, fun halfOpen => ?_⟩
    · rw [(recordSuccess_settings breaker now).failureThreshold]
      push_cast
      omega
    · rw [closed] at opened
      cases opened
    · rw [closed] at halfOpen
      cases halfOpen
  · rw [same]
    refine ⟨fun closed => ?_, agrees.opened, fun halfOpen => ?_⟩
    · rw [opened] at closed
      cases closed
    · rw [opened] at halfOpen
      cases halfOpen

/-- A counted failure leaves the circuit open, or closed with one more failure
that the threshold still has room for. -/
theorem recordFailure_cases (breaker : ProviderCircuitBreaker) (exc : Exc) (now : ℚ)
    (counted : isCircuitBreakerFailure exc = true) :
    (breaker.recordFailure exc now).state = .OPEN ∨
      (breaker.state = .CLOSED ∧ (breaker.recordFailure exc now).state = .CLOSED ∧
        (breaker.recordFailure exc now).failureCount = breaker.failureCount + 1 ∧
        (breaker.failureCount : ℤ) + 1 < breaker.failureThreshold) := by
  cases shown : breaker.state with
  | CLOSED =>
      obtain ⟨count, state⟩ := recordFailure_closed breaker exc now counted shown
      split_ifs at state with trips
      · exact .inl state
      · exact .inr ⟨rfl, state, count, not_le.mp trips⟩
  | HALF_OPEN =>
      left
      rw [recordFailure_halfOpen breaker exc now counted shown]
  | OPEN =>
      left
      by_cases instant : breaker.cooldownSeconds ≤ 0
      · rw [recordFailure_instant breaker exc now counted shown instant]
        exact shown
      · rw [recordFailure_open breaker exc now counted shown (not_le.mp instant)]
        exact shown

theorem agrees_recordFailure (exc : Exc) (agrees : breaker.Agrees failures trials) :
    (breaker.perform now (.recordFailure exc)).Agrees
      (breaker.failuresAfter now (.recordFailure exc) failures)
      (breaker.trialsAfter now (.recordFailure exc) trials) := by
  cases counted : isCircuitBreakerFailure exc with
  | false =>
      exact agrees.same (recordFailure_uncounted breaker exc now counted) counted
        (by simp [allowed]) (by simp)
  | true =>
      rcases recordFailure_cases breaker exc now counted with opened | ⟨wasClosed, closed, count, room⟩
      · rw [perform]
        refine ⟨fun closed => ?_, fun _ => ?_, fun halfOpen => ?_⟩
        · rw [opened] at closed
          cases closed
        · rw [recordFailure_lastFailureTime breaker exc now counted]
          rfl
        · rw [opened] at halfOpen
          cases halfOpen
      · have another : breaker.failuresAfter now (.recordFailure exc) failures = failures + 1 := by
          simp [failuresAfter, clears, wasClosed, Operation.counted, counted]
        rw [another, perform]
        obtain ⟨before, -⟩ := agrees.closed wasClosed
        refine ⟨fun _ => ⟨by rw [count, before], ?_⟩, fun opened => ?_, fun halfOpen => ?_⟩
        · rw [(recordFailure_settings breaker exc now).failureThreshold, ← before]
          exact_mod_cast room
        · rw [closed] at opened
          cases opened
        · rw [closed] at halfOpen
          cases halfOpen

theorem agrees_perform (some : 1 ≤ breaker.failureThreshold) (enough : 1 ≤ breaker.halfOpenTrials)
    (operation : Operation) (agrees : breaker.Agrees failures trials) :
    (breaker.perform now operation).Agrees (breaker.failuresAfter now operation failures)
      (breaker.trialsAfter now operation trials) := by
  cases operation with
  | canExecute => exact agrees_canExecute enough agrees
  | getState => exact agrees_getState enough agrees
  | recordSuccess => exact agrees_recordSuccess some agrees
  | recordFailure exc => exact agrees_recordFailure exc agrees
  | trip => exact ⟨fun closed => (by cases closed), fun _ => rfl, fun halfOpen => (by cases halfOpen)⟩
  | reset =>
      have cleared : breaker.failuresAfter now .reset failures = 0 := by
        simp [failuresAfter, clears]
      rw [cleared]
      refine ⟨fun _ => ⟨rfl, ?_⟩, fun opened => (by cases opened), fun halfOpen => (by cases halfOpen)⟩
      change (((0 : ℕ)) : ℤ) < breaker.failureThreshold
      omega

theorem after_settings (start : ProviderCircuitBreaker) (history : History) :
    SameSettings (start.after history) start := by
  induction history with
  | nil => exact ⟨rfl, rfl, rfl⟩
  | cons latest earlier ih =>
      exact (perform_settings (start.after earlier) latest.1 latest.2).trans ih

theorem agrees_after (start : ProviderCircuitBreaker) (some : 1 ≤ start.failureThreshold)
    (enough : 1 ≤ start.halfOpenTrials) (fresh : start.Agrees 0 0) (history : History) :
    (start.after history).Agrees (failuresSince start history) (trialsSince start history) := by
  induction history with
  | nil => exact fresh
  | cons latest earlier ih =>
      obtain ⟨threshold, -, trials⟩ := after_settings start earlier
      exact agrees_perform (threshold ▸ some) (trials ▸ enough) latest.2 ih

theorem trialsSince_left (start : ProviderCircuitBreaker) (history : History)
    (left : (start.after history).state ≠ .HALF_OPEN) :
    trialsSince start history = 0 := by
  cases history with
  | nil => rfl
  | cons latest earlier => exact if_neg left

/-- What every history of a new breaker leaves. -/
theorem breaker_invariant (registry : CircuitBreakerRegistry)
    (threshold : 1 ≤ registry.failureThreshold) (trials : 1 ≤ registry.halfOpenTrials)
    (history : History) :
    ((registry.newBreaker.after history).state = .CLOSED →
        (registry.newBreaker.after history).failureCount =
          failuresSince registry.newBreaker history ∧
        ((registry.newBreaker.after history).failureCount : ℤ) < registry.failureThreshold) ∧
      ((registry.newBreaker.after history).state = .OPEN →
        ∃ failed, (registry.newBreaker.after history).lastFailureTime = some failed ∧
          ∀ later, failed + (registry.newBreaker.after history).cooldownSeconds ≤ later →
            ((registry.newBreaker.after history).resolveState later).state = .HALF_OPEN) ∧
      (trialsSince registry.newBreaker history : ℤ) ≤ registry.halfOpenTrials := by
  have fresh : registry.newBreaker.Agrees 0 0 :=
    ⟨fun _ => ⟨rfl, by simpa [newBreaker] using by omega⟩, fun opened => (by cases opened),
      fun halfOpen => (by cases halfOpen)⟩
  have agrees := agrees_after registry.newBreaker threshold trials fresh history
  obtain ⟨sameThreshold, -, sameTrials⟩ := after_settings registry.newBreaker history
  refine ⟨fun closed => ?_, fun opened => ?_, ?_⟩
  · obtain ⟨count, room⟩ := agrees.closed closed
    rw [count]
    exact ⟨rfl, room.trans_eq sameThreshold⟩
  · obtain ⟨failed, last⟩ := Option.isSome_iff_exists.mp (agrees.opened opened)
    refine ⟨failed, last, fun later due => ?_⟩
    have cooled : (registry.newBreaker.after history).cooldownSeconds ≤ later - failed := by
      linarith
    simp [resolveState, opened, last, cooled]
  · by_cases halfOpen : (registry.newBreaker.after history).state = .HALF_OPEN
    · exact (agrees.halfOpen halfOpen).2.trans_eq sameTrials
    · rw [trialsSince_left registry.newBreaker history halfOpen]
      push_cast
      omega

/-- Three failures open a breaker, and half a minute later one trial is let through. -/
def threeFailures : History :=
  [(33, .canExecute), (33, .canExecute), (2, .recordFailure .timeoutError),
    (1, .recordFailure .timeoutError), (0, .recordFailure .timeoutError)]

theorem threeFailures_oneTrial :
    (trialsSince (newBreaker ⟨3, 30, 1, fun _ => none⟩) threeFailures : ℤ) ≤ 1 :=
  (breaker_invariant ⟨3, 30, 1, fun _ => none⟩ (by decide) le_rfl threeFailures).2.2

end CortexGateway.Reliability.ProviderCircuitBreaker
