import CortexGateway.Reliability.Accounts
import CortexGateway.Services.ChatService

/-! # How often a request is attempted

`complete` hands the executor a request without failover when the policy has
none.  Such a request is attempted on the initial provider only; every request
ends, and its accounts are exact. -/
set_option autoImplicit false
namespace CortexGateway
open Reliability

namespace Reliability
open CircuitBreakerRegistry Stats Blocks

/-! ## Without failover -/

/-- What is recorded is an attempt on this provider. -/
def Adds (provider : String) (before after : Accounts) : Prop :=
  ∀ other ∈ after.providers, other = provider ∨ other ∈ before.providers

theorem adds_nothing (provider : String) (accounts : Accounts) : Adds provider accounts accounts :=
  fun _ member => .inr member

theorem adds_attempt {provider : String} {before after : Accounts}
    (adds : after.providers = provider :: before.providers) : Adds provider before after :=
  fun _ member => List.mem_cons.mp (adds ▸ member)

theorem Adds.trans {provider : String} {first second third : Accounts}
    (early : Adds provider first second) (late : Adds provider second third) :
    Adds provider first third := by
  intro other member
  rcases late other member with same | earlier
  · exact .inl same
  · exact early other earlier

section Records
variable (executor : ReliabilityExecutor)

theorem callRecords_adds (task : Task) (accounts : Accounts) :
    Adds task.currentProvider accounts (callRecords executor task accounts) := by
  unfold callRecords
  split
  · exact adds_nothing _ accounts
  · exact adds_attempt (providers_failed accounts task)

theorem retryRecords_adds (now : ℚ) (task : Task) (attemptIdx : ℕ) (draw : ℚ)
    (accounts : Accounts) :
    Adds task.currentProvider accounts
      (retryRecords executor now task attemptIdx draw accounts) := by
  simp only [retryRecords]
  split_ifs
  · exact adds_nothing _ accounts
  · exact adds_nothing _ accounts
  · exact adds_nothing _ accounts
  · exact callRecords_adds executor task accounts

theorem failureRecords_adds (now : ℚ) (task : Task) (attemptIdx : ℕ) (exc : Exc) (draw : ℚ)
    (accounts : Accounts) :
    Adds task.currentProvider accounts
      (failureRecords executor now task attemptIdx exc draw accounts) := by
  have failed : Adds task.currentProvider accounts (accounts.failed task) :=
    adds_attempt (providers_failed accounts task)
  simp only [failureRecords]
  split_ifs
  · exact failed
  · exact failed
  · exact failed.trans (retryRecords_adds executor now task (attemptIdx + 1) draw _)

theorem enterRecords_adds (shared : Shared) (task : Task) (accounts : Accounts) :
    Adds task.currentProvider accounts (enterRecords executor shared task accounts) := by
  simp only [enterRecords]
  split_ifs
  · exact adds_nothing _ accounts
  · exact adds_nothing _ accounts
  · exact adds_nothing _ accounts
  · exact adds_nothing _ accounts
  · exact callRecords_adds executor task accounts

/-- The task is still with the initial provider and looks for no other. -/
structure Confined (arguments : Arguments) (accounts : Accounts) (task : Task) : Prop where
  request : task.request = arguments.request
  provider : task.currentProvider = arguments.initialProvider
  settled : ¬ task.Selecting
  only : ∀ provider ∈ accounts.providers, provider = arguments.initialProvider

variable {arguments : Arguments} (disabled : arguments.request.failoverEnabled = some false)

include disabled

theorem Confined.stays {before after : Task} {accounts next : Accounts}
    (confined : Confined arguments accounts before) (stays : Stays before after)
    (adds : Adds before.currentProvider accounts next) : Confined arguments next after := by
  refine ⟨stays.request.trans confined.request, stays.currentProvider.trans confined.provider,
    ?_, ?_⟩
  · intro selecting
    exact stays.selecting selecting (confined.request ▸ disabled)
  · intro other member
    rcases adds other member with rfl | earlier
    · exact confined.provider
    · exact confined.only other earlier

theorem Confined.turned {shared : Shared} {task : Task} {accounts next : Accounts}
    {after : Shared × Task} (confined : Confined arguments accounts task)
    (turned : Turned executor shared task accounts after next) :
    Confined arguments next after.2 := by
  cases turned with
  | woken attemptIdx wakeAt control =>
      exact confined.stays disabled (callProvider_stays executor shared task attemptIdx)
        (callRecords_adds executor task accounts)
  | responded attemptIdx response control =>
      exact confined.stays disabled (attemptSucceeded_stays shared task response)
        (adds_attempt (providers_succeeded accounts task response))
  | failed attemptIdx exc draw control =>
      exact confined.stays disabled (attemptFailed_stays executor shared task attemptIdx exc draw)
        (failureRecords_adds executor shared.now task attemptIdx exc draw accounts)
  | candidates circuitErr found control => exact absurd ⟨circuitErr, control⟩ confined.settled

theorem running_confined {tracker : ProviderStatsTracker} {awaits : ℕ} {accounts : Accounts}
    {task : Task} (running : Running executor arguments tracker awaits accounts task) :
    Confined arguments accounts task := by
  induction running with
  | started shared =>
      have stays := enterProvider_stays executor shared (firstTask executor shared arguments)
      refine ⟨stays.request, stays.currentProvider,
        fun selecting => stays.selecting selecting disabled, fun other member => ?_⟩
      rcases enterRecords_adds executor shared _ ⟨[], tracker⟩ other member with same | earlier
      · exact same
      · cases earlier
  | @resumed awaits accounts task running shared event ends after outcome confined =>
      obtain ⟨_, resumed, turned⟩ := turned_of_ends executor shared task event accounts ends
      cases outcome.symm.trans resumed
      exact confined.turned executor disabled turned

end Records

/-! ## The end -/

/-- The await of the task can end, and the task runs on when it does. -/
def RunsOn (executor : ReliabilityExecutor) (task : Task) : Prop :=
  (∃ shared event, EndsAwait shared task event) ∧
    ∀ shared event, EndsAwait shared task event → (resume executor shared task event).isSome

theorem ended_or_runsOn (executor : ReliabilityExecutor) (task : Task) (shared : Shared)
    (accounts : Accounts) : task.Ended ∨ RunsOn executor task := by
  have runs : ∀ shared event, EndsAwait shared task event →
      (resume executor shared task event).isSome := by
    intro shared event ends
    obtain ⟨after, resumed, -⟩ := turned_of_ends executor shared task event accounts ends
    exact Option.isSome_of_eq_some resumed
  cases control : task.control with
  | selecting circuitErr =>
      exact .inr ⟨⟨shared, .candidates [], by simp [EndsAwait, control]⟩, runs⟩
  | sleeping attemptIdx wakeAt =>
      exact .inr ⟨⟨{ shared with now := wakeAt }, .woken, by simp [EndsAwait, control]⟩, runs⟩
  | calling attemptIdx =>
      exact .inr ⟨⟨shared, .failed .httpxTimeoutException 0, by
        simp [EndsAwait, control, Exc.isException]⟩, runs⟩
  | returned response => exact .inl (by simp [Task.Ended, control])
  | raised exc => exact .inl (by simp [Task.Ended, control])

/-- The accounts of a request, whatever has become of it. -/
structure Exact (executor : ReliabilityExecutor) (tracker : ProviderStatsTracker)
    (accounts : Accounts) (task : Task) : Prop where
  attempts : (accounts.attempts.length : ℤ) ≤
    (1 + executor.maxFailoverAttempts) * (1 + executor.retryPolicy.maxRetries)
  consecutive : ∀ provider, ∃ before n after,
    accounts.providers = before ++ List.replicate n provider ++ after ∧
      provider ∉ before ∧ provider ∉ after ∧ (n : ℤ) ≤ 1 + executor.retryPolicy.maxRetries
  told : Told tracker accounts
  retries : ∀ response, task.control = .returned response →
    (response.metadata.retryCount : ℤ) =
      accounts.attempts.length - accounts.providers.toFinset.card
  failovers : ∀ response, task.control = .returned response →
    (response.metadata.failoverAttempts : ℤ) = task.attemptedProviders.toFinset.card - 1 ∧
      (response.metadata.failoverAttempts : ℤ) ≤ executor.maxFailoverAttempts

theorem Sound.exact {executor : ReliabilityExecutor} {R F : ℕ} {tracker : ProviderStatsTracker}
    {awaits : ℕ} {accounts : Accounts} {task : Task}
    (retries : executor.retryPolicy.maxRetries = R) (failovers : executor.maxFailoverAttempts = F)
    (sound : Sound R F tracker awaits accounts task) : Exact executor tracker accounts task := by
  obtain ⟨booked, standing, -⟩ := sound
  have answered : ∀ response, task.control = .returned response →
      Answered F task accounts response := by
    intro response control
    unfold Standing at standing
    rw [control] at standing
    exact standing
  have length : accounts.providers.length = accounts.attempts.length := List.length_map _
  constructor
  · have most : accounts.attempts.length ≤ (1 + F) * (1 + R) := by
      calc accounts.attempts.length = accounts.providers.length := length.symm
        _ ≤ accounts.providers.toFinset.card * (1 + R) := length_le_card_mul _ _ booked.few
        _ ≤ (1 + F) * (1 + R) := Nat.mul_le_mul_right _ booked.spread
    rw [retries, failovers]
    exact_mod_cast most
  · intro provider
    obtain ⟨before, n, after, split, absent, gone⟩ := booked.grouped.block provider
    refine ⟨before, n, after, split, absent, gone, ?_⟩
    have few := booked.few provider
    rw [split, List.count_append, List.count_append, List.count_replicate_self,
      List.count_eq_zero.mpr absent, List.count_eq_zero.mpr gone] at few
    omega
  · exact booked.told
  · intro response control
    have counted := (answered response control).retries
    omega
  · intro response control
    have counted := (answered response control).failovers
    have within := (answered response control).within
    omega

end Reliability

namespace ChatService
open Stats

/-- However its attempts end, a request comes to an end and its accounts are exact;
without failover it is attempted on the initial provider only. -/
theorem execute_accounted (executor : ReliabilityExecutor) (policy : ResolvedPolicy)
    (request : ChatCompletionRequest) (initialProvider initialModel : String)
    (routingMode : Option RoutingMode) (tracker : ProviderStatsTracker)
    (someRetries : 0 ≤ executor.retryPolicy.maxRetries)
    (someFailovers : 0 ≤ executor.maxFailoverAttempts) :
    ∃ most : ℕ, ∀ awaits accounts task,
      Running executor ⟨execRequest policy request, initialProvider, initialModel, routingMode⟩
          tracker awaits accounts task →
        awaits ≤ most ∧ (task.Ended ∨ RunsOn executor task) ∧
          Exact executor tracker accounts task ∧
          (request.failoverEnabled = some false ∨ policy.fallbackEnabled = false →
            ∀ attempt ∈ accounts.attempts, attempt.provider = initialProvider) := by
  obtain ⟨R, retries⟩ := Int.eq_ofNat_of_zero_le someRetries
  obtain ⟨F, failovers⟩ := Int.eq_ofNat_of_zero_le someFailovers
  refine ⟨(F + 1) * (2 * R + 3), fun awaits accounts task running => ?_⟩
  have sound := running_sound executor retries failovers running
  refine ⟨sound.awaits_le, ended_or_runsOn executor task ?_ accounts, sound.exact retries failovers,
    fun forbidden attempt member => ?_⟩
  · exact (start 0 5 1 30).shared
  · have disabled : (execRequest policy request).failoverEnabled = some false := by
      unfold execRequest
      split_ifs with patched
      · rfl
      · rcases forbidden with own | policys
        · exact own
        · simpa [policys] using patched
    exact (running_confined executor disabled running).only attempt.provider
      (List.mem_map_of_mem member)

/-- One call that is answered at once. -/
theorem hello_accounted :
    ∃ accounts task, Running oneAttempt
        ⟨execRequest globalDefaultPolicy hello, "groq", "llama", some .manual⟩ (fun _ => none) 1
        accounts task ∧
      task.Ended ∧ accounts.attempts = [⟨"groq", "llama", true⟩] ∧
      Exact oneAttempt (fun _ => none) accounts task := by
  obtain ⟨most, accounted⟩ := execute_accounted oneAttempt globalDefaultPolicy hello "groq" "llama"
    (some .manual) (fun _ => none) (by decide) (by decide)
  let arguments : Arguments :=
    ⟨execRequest globalDefaultPolicy hello, "groq", "llama", some .manual⟩
  let shared := (start 0 5 1 30).shared
  let task := (execute oneAttempt shared arguments).2
  have calls : task.control = .calling 0 := by decide +kernel
  have answers : resume oneAttempt shared task (.responded helloBack) =
      some (attemptSucceeded shared task helloBack) := by
    simp only [resume, calls]
  have started : Running oneAttempt arguments (fun _ => none) 0 _ task := .started shared
  have running := started.resumed shared (.responded helloBack) (by simp only [EndsAwait, calls])
    _ answers
  refine ⟨_, _, running, trivial, ?_, (accounted _ _ _ running).2.2.1⟩
  decide +kernel

end ChatService

end CortexGateway
