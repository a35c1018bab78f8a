import CortexGateway.Reliability.Operations

/-! # The deadline of a request

`execute` compares the clock with the deadline at the head of its loops and before
a backoff sleep.  Nothing interrupts a provider call or the discovery of
candidates that is still under way when the deadline passes. -/
set_option autoImplicit false
namespace CortexGateway.Reliability
open CircuitBreakerRegistry Transition

/-- `execute` has returned or raised. -/
def Task.Ended (task : Task) : Prop :=
  match task.control with
  | .returned _ => True
  | .raised _ => True
  | _ => False

instance : DecidablePred Task.Ended := fun task =>
  match h : task.control with
  | .returned _ => isTrue (by simp [Task.Ended, h])
  | .raised _ => isTrue (by simp [Task.Ended, h])
  | .selecting _ => isFalse (by simp [Task.Ended, h])
  | .sleeping .. => isFalse (by simp [Task.Ended, h])
  | .calling _ => isFalse (by simp [Task.Ended, h])

/-- `execute` has returned a response. -/
def Task.answered (task : Task) : Bool :=
  match task.control with
  | .returned _ => true
  | _ => false

/-- The task waits for a provider or for candidates. -/
def Task.Waiting (task : Task) : Prop :=
  match task.control with
  | .selecting _ => True
  | .calling _ => True
  | _ => False

theorem ended_or_awaits (task : Task) :
    task.Ended ∨ task.Waiting ∨ ∃ attemptIdx wakeAt, task.control = .sleeping attemptIdx wakeAt := by
  unfold Task.Ended Task.Waiting
  cases task.control <;> simp

theorem ended_not_waiting {task : Task} (waiting : task.Waiting) : ¬task.Ended := by
  unfold Task.Waiting at waiting
  unfold Task.Ended
  cases control : task.control <;> simp [control] at waiting ⊢

/-- No request is unfinished after its deadline. -/
def Punctual (system : System) : Prop :=
  ∀ request task, system.tasks request = some task → ¬task.Ended →
    system.shared.now ≤ task.deadlineTimestamp

/-- A sleep lasts as long as it was asked to: no time passes beyond its end. -/
def SleepsExactly (system : System) : Action → Prop
  | .tick seconds => ∀ request task attemptIdx wakeAt, system.tasks request = some task →
      task.control = .sleeping attemptIdx wakeAt → system.shared.now + seconds ≤ wakeAt
  | _ => True

/-- No provider call and no discovery of candidates goes on past the deadline. -/
def AnswersInTime (system : System) : Action → Prop
  | .tick seconds => ∀ request task, system.tasks request = some task → task.Waiting →
      system.shared.now + seconds ≤ task.deadlineTimestamp
  | _ => True

/-! ## What a stretch keeps -/

/-- The deadline stays and a sleep ends before it. -/
structure KeepsDeadline (before after : Task) : Prop where
  deadline : after.deadlineTimestamp = before.deadlineTimestamp
  wakes : ∀ attemptIdx wakeAt, after.control = .sleeping attemptIdx wakeAt →
    wakeAt < after.deadlineTimestamp

theorem keepsDeadline_at (task : Task) (control : Control)
    (awake : ∀ attemptIdx wakeAt, control ≠ .sleeping attemptIdx wakeAt) :
    KeepsDeadline task { task with control := control } :=
  ⟨rfl, fun attemptIdx wakeAt same => absurd same (awake attemptIdx wakeAt)⟩

theorem KeepsDeadline.from {first second third : Task} (late : KeepsDeadline second third)
    (deadline : second.deadlineTimestamp = first.deadlineTimestamp) : KeepsDeadline first third :=
  ⟨late.deadline.trans deadline, late.wakes⟩

theorem raising_keepsDeadline (task : Task) (exc : Exc) : KeepsDeadline task (task.raising exc) :=
  keepsDeadline_at task (.raised exc) fun _ _ same => by cases same

section Stretches
variable (executor : ReliabilityExecutor)

theorem callProvider_keepsDeadline (shared : Shared) (task : Task) (attemptIdx : ℕ) :
    KeepsDeadline task (callProvider executor shared task attemptIdx).2 := by
  unfold callProvider
  split
  · exact keepsDeadline_at task (.calling attemptIdx) fun _ _ same => by cases same
  · exact (raising_keepsDeadline { task with lastError := some _ } _).from rfl

theorem failoverTrigger_keepsDeadline (shared : Shared) (task : Task) (recorded : Bool) :
    KeepsDeadline task (failoverTrigger executor shared task recorded).2 := by
  simp only [failoverTrigger]
  split_ifs
  · exact raising_keepsDeadline task _
  · exact raising_keepsDeadline task _
  · exact keepsDeadline_at task (.selecting none) fun _ _ same => by cases same

theorem retryAttempt_keepsDeadline (shared : Shared) (task : Task) (attemptIdx : ℕ) (draw : ℚ) :
    KeepsDeadline task (retryAttempt executor shared task attemptIdx draw).2 := by
  simp only [retryAttempt]
  split_ifs with late tooLong sleeps
  · exact raising_keepsDeadline task _
  · exact raising_keepsDeadline task _
  · refine ⟨rfl, fun idx wakeAt same => ?_⟩
    cases same
    exact not_le.mp tooLong
  · exact (callProvider_keepsDeadline executor shared { task with retryCount := task.retryCount + 1 }
      attemptIdx).from rfl

theorem attemptFailed_keepsDeadline (shared : Shared) (task : Task) (attemptIdx : ℕ) (exc : Exc)
    (draw : ℚ) : KeepsDeadline task (attemptFailed executor shared task attemptIdx exc draw).2 := by
  cases transient : isTransientError exc with
  | false =>
      rw [attemptFailed_permanent executor shared task attemptIdx exc draw transient]
      exact (raising_keepsDeadline (task.failing exc) exc).from rfl
  | true =>
      by_cases last : (attemptIdx : ℤ) = executor.retryPolicy.maxRetries
      · rw [attemptFailed_last executor shared task attemptIdx exc draw transient last]
        exact (failoverTrigger_keepsDeadline executor _ (task.failing exc) true).from rfl
      · rw [attemptFailed_again executor shared task attemptIdx exc draw transient last]
        exact (retryAttempt_keepsDeadline executor shared (task.failing exc) (attemptIdx + 1)
          draw).from rfl

theorem enterProvider_late (shared : Shared) (task : Task)
    (late : task.deadlineTimestamp ≤ shared.now) : (enterProvider executor shared task).2.Ended := by
  simp only [enterProvider]
  split_ifs <;> trivial

theorem enterProvider_keepsDeadline (shared : Shared) (task : Task) :
    KeepsDeadline task (enterProvider executor shared task).2 := by
  simp only [enterProvider, firstAttempt]
  split_ifs
  · exact raising_keepsDeadline task _
  · exact raising_keepsDeadline task _
  · exact (failoverTrigger_keepsDeadline executor _ (task.ticketed _) false).from rfl
  · exact (callProvider_keepsDeadline executor _ (task.ticketed _) 0).from rfl
  · exact ⟨rfl, fun _ _ same => by cases same⟩
  · exact ⟨rfl, fun _ _ same => by cases same⟩

theorem candidatesFound_keepsDeadline (shared : Shared) (task : Task) (circuitErr : Option Exc)
    (found : List RoutingCandidate) :
    KeepsDeadline task (candidatesFound executor shared task circuitErr found).2 := by
  simp only [candidatesFound]
  split
  · exact raising_keepsDeadline task _
  · exact raising_keepsDeadline task _
  · exact (enterProvider_keepsDeadline executor _ _).from rfl

theorem resume_keepsDeadline (shared : Shared) (task : Task) (event : Event)
    (after : Shared × Task) (resumed : resume executor shared task event = some after) :
    KeepsDeadline task after.2 := by
  cases resumed_of_resume executor shared task event after resumed with
  | woken attemptIdx wakeAt control => exact callProvider_keepsDeadline executor _ _ _
  | responded attemptIdx response control => exact ⟨rfl, fun _ _ same => by cases same⟩
  | failed attemptIdx exc draw control ordinary => exact attemptFailed_keepsDeadline executor _ _ _ _ _
  | escaped attemptIdx exc draw control other => exact raising_keepsDeadline task exc
  | candidates circuitErr found control => exact candidatesFound_keepsDeadline executor _ _ _ _
  | cancelled => exact raising_keepsDeadline task _

theorem resume_unended (shared : Shared) (task : Task) (event : Event) (after : Shared × Task)
    (resumed : resume executor shared task event = some after) : ¬task.Ended := by
  intro ended
  unfold Task.Ended at ended
  unfold resume at resumed
  cases control : task.control <;> simp [control] at ended resumed

/-! ## Steps and runs -/

/-- A sleeping task wakes before its deadline. -/
def WakesInTime (system : System) : Prop :=
  ∀ request task attemptIdx wakeAt, system.tasks request = some task →
    task.control = .sleeping attemptIdx wakeAt → wakeAt < task.deadlineTimestamp

theorem wakesInTime_step (system next : System) (action : Action) (inTime : WakesInTime system)
    (stepped : step executor system action = some next) : WakesInTime next := by
  intro other task attemptIdx wakeAt found sleeps
  cases stepped_of_step executor system next action stepped with
  | spawn request arguments free =>
      rcases put_cases system request _ other task found with ⟨-, rfl⟩ | ⟨-, found⟩
      · exact (enterProvider_keepsDeadline executor _ _).wakes attemptIdx wakeAt sleeps
      · exact inTime other task attemptIdx wakeAt found sleeps
  | tick seconds forward => exact inTime other task attemptIdx wakeAt found sleeps
  | event request event running after present resumed =>
      rcases put_cases system request after other task found with ⟨-, rfl⟩ | ⟨-, found⟩
      · exact (resume_keepsDeadline executor system.shared running event after resumed).wakes
          attemptIdx wakeAt sleeps
      · exact inTime other task attemptIdx wakeAt found sleeps

/-- Only time can pass a deadline, and only over a task that waits for an answer. -/
theorem punctual_step (system next : System) (action : Action) (wakes : WakesInTime system)
    (punctual : Punctual system) (exactly : SleepsExactly system action)
    (stepped : step executor system action = some next) :
    Punctual next ↔ AnswersInTime system action := by
  cases stepped_of_step executor system next action stepped with
  | spawn request arguments free =>
      refine iff_of_true (fun other task found unended => ?_) trivial
      have moment : (execute executor system.shared arguments).1.now = system.shared.now :=
        (enterProvider_asks executor system.shared _).now
      change (execute executor system.shared arguments).1.now ≤ _
      rw [moment]
      rcases put_cases system request _ other task found with ⟨-, rfl⟩ | ⟨-, found⟩
      · by_contra late
        have kept : (execute executor system.shared arguments).2.deadlineTimestamp = _ :=
          (enterProvider_keepsDeadline executor system.shared _).deadline
        rw [kept] at late
        exact unended (enterProvider_late executor system.shared _ (not_le.mp late).le)
      · exact punctual other task found unended
  | tick seconds forward =>
      constructor
      · intro later request task found waiting
        exact later request task found (ended_not_waiting waiting)
      · intro answers request task found unended
        rcases ended_or_awaits task with ended | waiting | ⟨attemptIdx, wakeAt, sleeps⟩
        · exact absurd ended unended
        · exact answers request task found waiting
        · exact (exactly request task attemptIdx wakeAt found sleeps).trans
            (wakes request task attemptIdx wakeAt found sleeps).le
  | event request event running after present resumed =>
      refine iff_of_true (fun other task found unended => ?_) trivial
      have moment : after.1.now = system.shared.now :=
        (resume_asks executor system.shared running event after resumed).now.trans
          (reported_now executor system.shared running event)
      change after.1.now ≤ _
      rw [moment]
      rcases put_cases system request after other task found with ⟨-, rfl⟩ | ⟨-, found⟩
      · rw [(resume_keepsDeadline executor system.shared running event after resumed).deadline]
        exact punctual request running present
          (resume_unended executor system.shared running event after resumed)
      · exact punctual other task found unended

/-- No request outlives its deadline in a run exactly if no provider call and no
discovery of candidates goes on past one. -/
theorem punctual_iff_answersInTime (now : ℚ) (failureThreshold halfOpenTrials : ℤ)
    (cooldownSeconds : ℚ) (actions : List Action)
    (exactly : StepsMeet (step executor) SleepsExactly
      (start now failureThreshold halfOpenTrials cooldownSeconds) actions) :
    HoldsThroughout (step executor) Punctual
        (start now failureThreshold halfOpenTrials cooldownSeconds) actions ↔
      StepsMeet (step executor) AnswersInTime
        (start now failureThreshold halfOpenTrials cooldownSeconds) actions := by
  refine holdsThroughout_iff_stepsMeet (step executor) Punctual WakesInTime SleepsExactly
    AnswersInTime (fun system action next wakes punctual allowed stepped => ?_) _ ?_ ?_ actions
    exactly
  · exact ⟨punctual_step executor system next action wakes punctual allowed stepped,
      fun _ => wakesInTime_step executor system next action wakes stepped⟩
  · intro request task attemptIdx wakeAt found
    cases found
  · intro request task found
    cases found

end Stretches

/-! ## A slow provider -/

/-- The call takes this long, and then an answer arrives. -/
def slowCall (seconds : ℚ) : List Action :=
  [.spawn 0 helloArguments, .tick seconds, .event 0 (.responded helloBack)]

/-- The request while its first call is under way. -/
def underWay : System :=
  { (start 0 5 1 30).put 0 (execute oneAttempt (start 0 5 1 30).shared helloArguments) with
    requests := [0] }

theorem underWay_task (request : ℕ) (task : Task) (found : underWay.tasks request = some task) :
    task = (execute oneAttempt (start 0 5 1 30).shared helloArguments).2 := by
  have placed : ((start 0 5 1 30).put 0 (execute oneAttempt (start 0 5 1 30).shared
    helloArguments)).tasks request = some task := found
  rcases put_cases (start 0 5 1 30) 0 _ request task placed with ⟨-, same⟩ | ⟨-, absent⟩
  · exact same
  · cases absent

/-- With two minutes for the request the first call takes two hundred seconds, and
its answer is returned. -/
theorem slow_answer_returned :
    ((run (step oneAttempt) (start 0 5 1 30) (slowCall 200)).map fun final =>
        (final.shared.now, (final.tasks 0).map fun task =>
          (task.deadlineTimestamp, task.answered))) = some (200, some (120, true)) ∧
      ¬HoldsThroughout (step oneAttempt) Punctual (start 0 5 1 30) (slowCall 200) := by
  constructor
  · decide +kernel
  · intro throughout
    have late := throughout [.spawn 0 helloArguments, .tick 200] ⟨_, rfl⟩ _ rfl 0 _ rfl
      (by decide +kernel)
    revert late
    decide +kernel

/-- An answer after ten seconds is in time. -/
theorem quick_answer_punctual :
    HoldsThroughout (step oneAttempt) Punctual (start 0 5 1 30) (slowCall 10) := by
  have calls : (execute oneAttempt (start 0 5 1 30).shared helloArguments).2.control =
      .calling 0 := by decide +kernel
  have guards : ∀ guard : System → Action → Prop,
      (∀ system, guard system (.spawn 0 helloArguments)) → guard underWay (.tick 10) →
      (∀ system, guard system (.event 0 (.responded helloBack))) →
        StepsMeet (step oneAttempt) guard (start 0 5 1 30) (slowCall 10) := by
    intro guard spawn tick answer
    rw [slowCall, stepsMeet_cons]
    intro spawned stepped
    obtain rfl : underWay = spawned := Option.some.inj stepped
    refine ⟨spawn _, ?_⟩
    rw [stepsMeet_cons]
    intro later _
    refine ⟨tick, ?_⟩
    rw [stepsMeet_cons]
    exact fun last _ => ⟨answer later, stepsMeet_nil _ _ last⟩
  refine (punctual_iff_answersInTime oneAttempt 0 5 1 30 (slowCall 10)
    (guards SleepsExactly (fun _ => trivial) ?_ fun _ => trivial)).mpr
    (guards AnswersInTime (fun _ => trivial) ?_ fun _ => trivial)
  · intro request task attemptIdx wakeAt found sleeps
    rw [underWay_task request task found, calls] at sleeps
    cases sleeps
  · intro request task found _
    rw [underWay_task request task found]
    decide +kernel

end CortexGateway.Reliability
