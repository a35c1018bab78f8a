import CortexGateway.Api.Chat
import CortexGateway.Lib.Run
import CortexGateway.SemanticCache.Hits
import CortexGateway.Services.Settlement

/-! # What a team leaves in the cache

Requests of one team under a policy that changes, and the cache writes they
schedule, which run later and in any order.  The lookup asks the policy, the
write does not: what is answered while caching is off is stored. -/
set_option autoImplicit false
namespace CortexGateway
open Exits

section Stores
variable {σ τ : Type}

/-- The responses whose cache write is scheduled. -/
def World.stores (world : World σ τ) : List ChatCompletionResponse :=
  world.calls.filterMap fun
    | .store response => some response
    | _ => none

namespace ChatService
variable (svc : Collaborators σ τ) (settings : Settings) (policy : ResolvedPolicy)
variable (request : ChatCompletionRequest) (requestId : String) (context : RequestContext)

theorem undisturbed_stores (stores : List ChatCompletionResponse) :
    Undisturbed fun world : World σ τ => world.stores = stores :=
  ⟨fun _ _ same => same, fun _ same => same⟩

theorem awaitSession_stores {α : Type} (stores : List ChatCompletionResponse)
    (program : EStateM Exc (σ × τ) α) :
    Keeps (fun world : World σ τ => world.stores = stores) (fun _ => True)
      (awaitSession program) :=
  keeps_awaitSession (fun _ _ _ same => same) program fun _ _ _ _ => trivial

/-- Up to the reservation no write is scheduled. -/
theorem prepare_stores (stores : List ChatCompletionResponse) :
    Keeps (fun world : World σ τ => world.stores = stores) (fun _ => True)
      (prepare svc settings policy request requestId (some context)) :=
  prepare_keeps svc settings policy request requestId (some context) (undisturbed_stores stores)
    (collaborators_obey svc) (fun _ _ _ => awaitSession_stores stores _) fun _ _ _ _ => trivial

theorem reserve_stores (stores : List ChatCompletionResponse) (quote : Quote) :
    Keeps (fun world : World σ τ => world.stores = stores) (fun _ => True)
      (reserve svc settings (some context) quote) :=
  reserve_keeps svc settings (some context) quote (fun _ _ _ same => same)
    fun _ _ _ _ _ => awaitSession_stores stores _

/-- With caching off nothing is looked up. -/
theorem admission_uncached (off : policy.cacheEnabled = false) (world : World σ τ) :
    Ends (admission svc settings policy request requestId (some context)) world
      (fun answer _ => answer.isRight = true) fun _ _ => True := by
  have unasked : (lookupCache svc policy request (some context) : ServiceM σ τ _) = pure none := by
    unfold lookupCache
    split
    · rename_i on
      rw [off] at on
      cases on
    · rfl
  unfold admission
  rw [unasked]
  apply ends_bind
  apply ends_any _ _ _ fun _ _ => trivial
  intro remaining limited
  apply ends_bind
  apply ends_any _ _ _ fun _ _ => trivial
  intro target resolved
  apply ends_bind
  apply ends_pure
  dsimp only
  split
  · exact ends_pure rfl
  · exact ends_pure rfl

theorem prepare_uncached (off : policy.cacheEnabled = false) (world : World σ τ) :
    Ends (prepare svc settings policy request requestId (some context)) world
      (fun answer _ => answer.isRight = true) fun _ _ => True := by
  unfold prepare
  apply ends_bind
  apply (admission_uncached svc settings policy request requestId context off world).mono
  · intro answer admitted right
    cases answer with
    | inl cached => cases right
    | inr admission =>
        apply ends_bind
        apply ends_any _ _ _ fun _ _ => trivial
        intro quote quoted
        exact ends_pure rfl
  · exact fun _ _ _ => trivial

theorem executeProvider_stores (stores : List ChatCompletionResponse) (quote : Quote) :
    Keeps (fun world : World σ τ => world.stores = stores) (fun _ => True)
      (executeProvider svc policy request (some context) quote) :=
  executeProvider_keeps svc policy request (some context) quote (undisturbed_stores stores)
    (collaborators_obey svc) (fun _ _ _ same => same) (fun _ _ _ same => same)
    fun _ _ _ _ => awaitSession_stores stores _

theorem settle_stores (stores : List ChatCompletionResponse) (quote : Quote)
    (response : ChatCompletionResponse) :
    Keeps (fun world : World σ τ => world.stores = stores) (fun _ => True)
      (settle svc settings (some context) quote response) :=
  settle_keeps svc settings (some context) quote response (collaborators_obey svc)
    (fun _ _ _ _ same => same) fun _ _ _ _ _ => awaitSession_stores stores _

/-- An answer of the executor is stored as the client gets it. -/
theorem serve_stores (cached : svc.semanticCache.isSome = true) (admitted : Admitted)
    (reservation : Reservation) (world : World σ τ) :
    Ends (serve svc settings policy request (some context) admitted reservation) world
      (fun response t => t.stores = response :: world.stores)
      fun _ t => t.stores = world.stores := by
  unfold serve
  apply ends_bind
  apply (executeProvider_stores svc policy request context world.stores reservation.quote world
    rfl).mono _ fun _ _ raised => raised.2
  intro response answered executed
  apply ends_bind
  apply (settle_stores svc settings context world.stores reservation.quote response answered
    executed).mono _ fun _ _ raised => raised.2
  intro settled after same
  apply ends_bind
  unfold scheduleStore
  rw [cached, Option.isSome_some, Bool.and_self, if_pos rfl]
  exact congrArg (_ :: ·) same

/-- With caching off an answer is stored all the same, and nothing else is. -/
theorem complete_stores (off : policy.cacheEnabled = false)
    (cached : svc.semanticCache.isSome = true) (world : World σ τ) (fresh : world.stores = []) :
    Ends (complete svc settings policy request requestId (some context)) world
      (fun response t => t.stores = [response]) fun _ t => t.stores = [] := by
  unfold complete
  apply ends_bind
  have prepared := prepare_stores svc settings policy request requestId context [] world fresh
  rw [ends_iff]
  constructor
  · intro answer quoted returned
    have right := (prepare_uncached svc settings policy request requestId context off
      world).returned returned
    have none := prepared.returned returned
    cases answer with
    | inl cached => cases right
    | inr admission =>
        apply ends_bind
        apply (reserve_stores svc settings context [] admission.2 quoted none).mono _
          fun _ _ raised => raised.2
        intro reservation reserved same
        have serves := serve_stores svc settings policy request context cached admission.1
          reservation reserved
        rw [same] at serves
        exact serves
  · exact fun _ _ raised => (prepared.raised raised).2

end ChatService
end Stores

/-! ## One team's cache -/

namespace Caching
open SemanticCache Transition

/-- A scheduled `store`, with the cache section of the policy it was answered under. -/
structure StoreTask where
  request : ChatCompletionRequest
  context : RequestContext
  response : ChatCompletionResponse
  cacheEnabled : Bool
  deriving DecidableEq

/-- `pending` tasks have not run yet; `ran` lists the others with the ids of
their entries. -/
structure State (κ : Type) where
  redis : Redis κ
  policy : ResolvedPolicy
  pending : List StoreTask
  ran : List (String × StoreTask)

/-- A request is served in any world and by any services; a task runs with a
fresh UUID. -/
inductive Action (σ τ : Type)
  | setPolicy (policy : ResolvedPolicy)
  | request (deps : ChatDependencies σ τ) (settings : Settings) (request : ChatCompletionRequest)
      (requestId : String) (context : RequestContext) (world : World σ τ)
  | store (index : ℕ) (entryId : String) (now : ℚ)

section Step
variable {κ σ τ : Type} (cache : Cache κ) (teamId : String)

/-- `complete` under the policy, as the endpoint calls it. -/
def answer (policy : ResolvedPolicy) (deps : ChatDependencies σ τ) (settings : Settings)
    (request : ChatCompletionRequest) (requestId : String) (context : RequestContext)
    (world : World σ τ) : EStateM.Result Exc (World σ τ) ChatCompletionResponse :=
  (ChatService.complete deps.collaborators settings policy request requestId (some context)).run
    { world with calls := [] }

/-- The tasks a request schedules. -/
def scheduled (policy : ResolvedPolicy) (deps : ChatDependencies σ τ) (settings : Settings)
    (request : ChatCompletionRequest) (requestId : String) (context : RequestContext)
    (world : World σ τ) : List StoreTask :=
  (exitState (answer policy deps settings request requestId context world)).stores.map
    fun response => ⟨request, context, response, policy.cacheEnabled⟩

/-- A `store` that raises has written nothing. -/
def written (redis : Redis κ) (now : ℚ) (task : StoreTask) (entryId : String) : Redis κ :=
  match cache.store redis now task.request task.context.attributes task.response entryId with
  | .ok redis => redis
  | .error _ => redis

/-- The waiting task at `index` runs. -/
def State.finish (s : State κ) (index : ℕ) (task : StoreTask) (entryId : String) (now : ℚ) :
    State κ :=
  { s with
    redis := written cache s.redis now task entryId
    pending := s.pending.eraseIdx index
    ran := (entryId, task) :: s.ran }

def step (s : State κ) : Action σ τ → Option (State κ)
  | .setPolicy policy => some { s with policy := policy }
  | .request deps settings request requestId context world =>
      if context.teamId = teamId then
        some { s with
          pending := s.pending ++ scheduled s.policy deps settings request requestId context world }
      else none
  | .store index entryId now => do
      let task ← s.pending[index]?
      if entryId ∈ s.ran.map Prod.fst then none else some (s.finish cache index task entryId now)

theorem step_request (s next : State κ) (deps : ChatDependencies σ τ) (settings : Settings)
    (request : ChatCompletionRequest) (requestId : String) (context : RequestContext)
    (world : World σ τ) :
    step cache teamId s (.request deps settings request requestId context world) = some next ↔
      context.teamId = teamId ∧ next = { s with
        pending := s.pending ++
          scheduled s.policy deps settings request requestId context world } := by
  simp only [step]
  split_ifs with own
  · simp [own, eq_comm]
  · simp [own]

theorem step_store (s next : State κ) (index : ℕ) (entryId : String) (now : ℚ) :
    step cache teamId s (.store index entryId now : Action σ τ) = some next ↔
      ∃ task, s.pending[index]? = some task ∧ entryId ∉ s.ran.map Prod.fst ∧
        next = s.finish cache index task entryId now := by
  simp only [step, bind, Option.bind_eq_some_iff]
  refine exists_congr fun task => and_congr_right fun _ => ?_
  split_ifs with used
  · simp [used]
  · simp [used, eq_comm]

/-- The cache of a team that has none of its own yet. -/
def start (redis : Redis κ) (policy : ResolvedPolicy) : State κ := ⟨redis, policy, [], []⟩

/-- A task that ran with this id was answered while caching was on. -/
def CachedOn (s : State κ) (entryId : String) : Prop :=
  ∃ task, (entryId, task) ∈ s.ran ∧ task.cacheEnabled = true

/-- Nothing in the team's index and under its entry keys is from a reply
produced while caching was off. -/
structure OnlyCached (s : State κ) : Prop where
  index : ∀ entryId ∈ s.redis.lists (cache.indexKey teamId), CachedOn s entryId
  entries : ∀ entryId, (s.redis.hashes (cache.entryKey teamId entryId)).isSome = true →
    CachedOn s entryId

/-- `store` has something to store for the request. -/
def Cacheable (request : ChatCompletionRequest) : Prop :=
  isEligible request = true ∧ (cache.getEmbedding (extractEmbeddingText request)).isOk = true

/-- A request answered while caching is off has nothing to store. -/
def Uncacheable (s : State κ) : Action σ τ → Prop
  | .request deps settings request requestId context world =>
      s.policy.cacheEnabled = false →
        (∃ response after, answer s.policy deps settings request requestId context world =
          .ok response after) → ¬ Cacheable cache request
  | _ => True

/-! ## One write -/

theorem written_cases (redis : Redis κ) (now : ℚ) (task : StoreTask) (entryId : String) :
    written cache redis now task entryId = redis ∨
      Cacheable cache task.request ∧ ∃ entry, written cache redis now task entryId =
        cache.write redis now task.context.teamId entryId entry := by
  have team : task.context.attributes "team_id" = .ok task.context.teamId := rfl
  simp only [written, Cache.store, team, bind, Except.bind, Bool.not_eq_true']
  split_ifs with disabled ineligible skipped
  · exact Or.inl rfl
  · exact Or.inl rfl
  · exact Or.inl rfl
  · cases embedded : cache.getEmbedding (extractEmbeddingText task.request) with
    | ok embedding =>
        refine Or.inr ⟨⟨by simpa using ineligible, by rw [embedded]; rfl⟩, ?_⟩
        exact ⟨cache.entryOf task.request task.response embedding, rfl⟩
    | error exc =>
        left
        dsimp only
        split_ifs <;> rfl

theorem written_cacheable (enabled : cache.enabled = true) (redis : Redis κ) (now : ℚ)
    (task : StoreTask) (entryId : String) (named : task.context.teamId ≠ "")
    (unset : redis.keys (cache.disabledKey task.context.teamId) = false)
    (cacheable : Cacheable cache task.request) :
    ∃ entry, written cache redis now task entryId =
      cache.write redis now task.context.teamId entryId entry := by
  obtain ⟨eligible, embeds⟩ := cacheable
  have team : task.context.attributes "team_id" = .ok task.context.teamId := rfl
  cases embedded : cache.getEmbedding (extractEmbeddingText task.request) with
  | ok embedding =>
      refine ⟨cache.entryOf task.request task.response embedding, ?_⟩
      simp [written, Cache.store, team, enabled, eligible, unset, named, embedded, bind, Except.bind,
        pure, Except.pure]
  | error exc =>
      rw [embedded] at embeds
      cases embeds

theorem mem_ltrim {entries : List String} {stop : ℤ} {entryId : String}
    (kept : entryId ∈ ltrim entries stop) : entryId ∈ entries :=
  List.mem_of_mem_take kept

theorem entryKey_inj {first second : String}
    (same : cache.entryKey teamId first = cache.entryKey teamId second) : first = second := by
  unfold Cache.entryKey at same
  rw [String.append_right_inj] at same
  exact same

variable {cache teamId}

/-- A task answered while caching was on, or with nothing to store. -/
def StoreTask.Harmless (cache : Cache κ) (task : StoreTask) : Prop :=
  task.cacheEnabled = true ∨ ¬ Cacheable cache task.request

theorem onlyCached_ran (s : State κ) (now : ℚ) (task : StoreTask) (entryId : String) (index : ℕ)
    (only : OnlyCached cache teamId s) (own : task.context.teamId = teamId)
    (harmless : task.Harmless cache) :
    OnlyCached cache teamId (s.finish cache index task entryId now) := by
  have still : ∀ other, CachedOn s other → ∀ redis : Redis κ,
      CachedOn ⟨redis, s.policy, s.pending.eraseIdx index, (entryId, task) :: s.ran⟩ other := by
    intro other ⟨earlier, ran, on⟩ _
    exact ⟨earlier, List.mem_cons_of_mem _ ran, on⟩
  unfold State.finish
  rcases written_cases cache s.redis now task entryId with same | ⟨cacheable, entry, wrote⟩
  · rw [same]
    exact ⟨fun other listed => still other (only.index other listed) _,
      fun other held => still other (only.entries other held) _⟩
  · have on : task.cacheEnabled = true := harmless.resolve_right fun no => no cacheable
    rw [wrote, own]
    constructor
    · intro other listed
      simp only [Cache.write, Function.update_self] at listed
      rcases List.mem_cons.mp (mem_ltrim listed) with rfl | before
      · exact ⟨task, List.mem_cons_self .., on⟩
      · exact still other (only.index other before) _
    · intro other held
      by_cases here : other = entryId
      · subst here
        exact ⟨task, List.mem_cons_self .., on⟩
      · simp only [Cache.write] at held
        rw [Function.update_of_ne fun same => here (entryKey_inj cache teamId same)] at held
        exact still other (only.entries other held) _

/-! ## Runs -/

/-- With caching off a request that is answered schedules one task, any other
request none. -/
theorem answer_stores (policy : ResolvedPolicy) (deps : ChatDependencies σ τ) (settings : Settings)
    (request : ChatCompletionRequest) (requestId : String) (context : RequestContext)
    (world : World σ τ) (off : policy.cacheEnabled = false) :
    Ends (ChatService.complete deps.collaborators settings policy request requestId (some context))
      { world with calls := [] } (fun response t => t.stores = [response])
      fun _ t => t.stores = [] :=
  ChatService.complete_stores _ _ _ _ _ _ off rfl _ rfl

theorem scheduled_harmless_iff (policy : ResolvedPolicy) (deps : ChatDependencies σ τ)
    (settings : Settings) (request : ChatCompletionRequest) (requestId : String)
    (context : RequestContext) (world : World σ τ) :
    (∀ task ∈ scheduled policy deps settings request requestId context world,
      task.Harmless cache) ↔
        (policy.cacheEnabled = false →
          (∃ response after, answer policy deps settings request requestId context world =
            .ok response after) → ¬ Cacheable cache request) := by
  cases on : policy.cacheEnabled with
  | true =>
      refine iff_of_true ?_ fun off => by cases off
      intro task member
      obtain ⟨response, -, rfl⟩ := List.mem_map.mp member
      exact Or.inl on
  | false =>
      have stores := answer_stores policy deps settings request requestId context world on
      unfold scheduled
      cases answered : answer policy deps settings request requestId context world with
      | ok response after =>
          have one : after.stores = [response] := stores.returned answered
          simp [exitState, one, StoreTask.Harmless, on]
      | error exc after =>
          have none : after.stores = [] := (stores.raised answered)
          simp [exitState, none]

/-- The tasks that wait are the team's and store nothing answered while caching
was off. -/
def Waiting (cache : Cache κ) (teamId : String) (s : State κ) : Prop :=
  ∀ task ∈ s.pending, task.context.teamId = teamId ∧ task.Harmless cache

theorem step_keeps (s next : State κ) (a : Action σ τ)
    (kept : OnlyCached cache teamId s ∧ Waiting cache teamId s) (meets : Uncacheable cache s a)
    (stepped : step cache teamId s a = some next) :
    OnlyCached cache teamId next ∧ Waiting cache teamId next := by
  obtain ⟨only, waiting⟩ := kept
  cases a with
  | setPolicy policy =>
      cases stepped
      exact ⟨⟨only.index, only.entries⟩, waiting⟩
  | request deps settings request requestId context world =>
      obtain ⟨own, rfl⟩ := (step_request cache teamId ..).mp stepped
      refine ⟨⟨only.index, only.entries⟩, ?_⟩
      intro task member
      rcases List.mem_append.mp member with before | new
      · exact waiting task before
      · refine ⟨?_, (scheduled_harmless_iff s.policy deps settings request requestId context
          world).mpr meets task new⟩
        obtain ⟨response, -, rfl⟩ := List.mem_map.mp new
        exact own
  | store index entryId now =>
      obtain ⟨task, found, -, rfl⟩ := (step_store cache teamId ..).mp stepped
      obtain ⟨own, harmless⟩ := waiting task (List.mem_of_getElem? found)
      exact ⟨onlyCached_ran s now task entryId index only own harmless,
        fun other member => waiting other (List.mem_of_mem_eraseIdx member)⟩

/-- The team's flag is not set, and its requests are its own. -/
structure Framed (cache : Cache κ) (teamId : String) (s : State κ) : Prop where
  unset : s.redis.keys (cache.disabledKey teamId) = false
  own : ∀ task ∈ s.pending, task.context.teamId = teamId

theorem written_keys (redis : Redis κ) (now : ℚ) (task : StoreTask) (entryId : String) :
    (written cache redis now task entryId).keys = redis.keys := by
  rcases written_cases cache redis now task entryId with same | ⟨-, entry, wrote⟩
  · rw [same]
  · rw [wrote]
    rfl

theorem framed_step (s next : State κ) (a : Action σ τ) (framed : Framed cache teamId s)
    (stepped : step cache teamId s a = some next) : Framed cache teamId next := by
  obtain ⟨unset, own⟩ := framed
  cases a with
  | setPolicy policy =>
      cases stepped
      exact ⟨unset, own⟩
  | request deps settings request requestId context world =>
      obtain ⟨same, rfl⟩ := (step_request cache teamId ..).mp stepped
      refine ⟨unset, ?_⟩
      intro task member
      rcases List.mem_append.mp member with before | new
      · exact own task before
      · obtain ⟨response, -, rfl⟩ := List.mem_map.mp new
        exact same
  | store index entryId now =>
      obtain ⟨task, found, -, rfl⟩ := (step_store cache teamId ..).mp stepped
      refine ⟨?_, fun other member => own other (List.mem_of_mem_eraseIdx member)⟩
      exact (congrFun (written_keys s.redis now task entryId) _).trans unset

/-- What a task with something to store leaves shows when it was answered. -/
theorem harmless_of_onlyCached (enabled : cache.enabled = true) (named : teamId ≠ "") (s : State κ)
    (framed : Framed cache teamId s) (index : ℕ) (entryId : String) (now : ℚ) (task : StoreTask)
    (found : s.pending[index]? = some task) (fresh : entryId ∉ s.ran.map Prod.fst)
    (only : OnlyCached cache teamId (s.finish cache index task entryId now)) :
    task.Harmless cache := by
  by_cases cacheable : Cacheable cache task.request
  · left
    have own := framed.own task (List.mem_of_getElem? found)
    obtain ⟨entry, wrote⟩ := written_cacheable cache enabled s.redis now task entryId
      (by rw [own]; exact named) (by rw [own]; exact framed.unset) cacheable
    obtain ⟨witness, ran, on⟩ := only.entries entryId (by
      unfold State.finish
      rw [wrote, own]
      simp [Cache.write])
    rcases List.mem_cons.mp ran with same | before
    · cases same
      exact on
    · exact absurd (List.mem_map_of_mem (f := Prod.fst) before) fresh
  · exact Or.inr cacheable

/-- In a run that leaves no task waiting, a clean cache means that every task
was harmless. -/
theorem uncacheable_of_onlyCached (enabled : cache.enabled = true) (named : teamId ≠ "")
    (actions : List (Action σ τ)) (s final : State κ) (framed : Framed cache teamId s)
    (throughout : HoldsThroughout (step cache teamId) (OnlyCached cache teamId) s actions)
    (reached : run (step cache teamId) s actions = some final) (drained : final.pending = []) :
    (∀ task ∈ s.pending, task.Harmless cache) ∧
      StepsMeet (step cache teamId) (Uncacheable cache) s actions := by
  induction actions generalizing s with
  | nil =>
      cases reached
      rw [drained]
      exact ⟨by simp, stepsMeet_nil _ _ _⟩
  | cons a rest ih =>
      obtain ⟨next, stepped, later⟩ := Option.bind_eq_some_iff.mp reached
      have onward := ((holdsThroughout_cons _ _ s a rest).mp throughout).2 next stepped
      obtain ⟨harmless, meets⟩ := ih next (framed_step s next a framed stepped) onward later
      have only := ((holdsThroughout_nil _ _ next).mp
        (onward.of_prefix _ (List.nil_prefix)))
      suffices first : (∀ task ∈ s.pending, task.Harmless cache) ∧ Uncacheable cache s a by
        refine ⟨first.1, (stepsMeet_cons _ _ s a rest).mpr ?_⟩
        intro other same
        rw [stepped] at same
        cases same
        exact ⟨first.2, meets⟩
      cases a with
      | setPolicy policy =>
          cases stepped
          exact ⟨harmless, trivial⟩
      | request deps settings request requestId context world =>
          obtain ⟨own, rfl⟩ := (step_request cache teamId ..).mp stepped
          refine ⟨fun task before => harmless task (List.mem_append_left _ before), ?_⟩
          apply (scheduled_harmless_iff s.policy deps settings request requestId context world).mp
          exact fun task new => harmless task (List.mem_append_right _ new)
      | store index entryId now =>
          obtain ⟨task, found, fresh, rfl⟩ := (step_store cache teamId ..).mp stepped
          refine ⟨?_, trivial⟩
          intro other member
          rcases eq_or_ne other task with rfl | differs
          · exact harmless_of_onlyCached enabled named s framed index entryId now other found fresh
              only
          · obtain ⟨position, placed⟩ := List.mem_iff_getElem?.mp member
            refine harmless other (List.mem_eraseIdx_iff_getElem?.mpr ⟨position, ?_, placed⟩)
            rintro rfl
            exact differs (Option.some_inj.mp (placed.symm.trans found))

/-- In every run whose requests leave nothing to store while caching is off,
the cache is clean throughout, and a run that leaves no task waiting is clean
only then. -/
theorem onlyCached_throughout (enabled : cache.enabled = true) (named : teamId ≠ "")
    (redis : Redis κ) (policy : ResolvedPolicy)
    (unset : redis.keys (cache.disabledKey teamId) = false)
    (empty : OnlyCached cache teamId (start redis policy)) (actions : List (Action σ τ)) :
    (StepsMeet (step cache teamId) (Uncacheable cache) (start redis policy) actions →
        HoldsThroughout (step cache teamId) (OnlyCached cache teamId) (start redis policy)
          actions) ∧
      ∀ final, run (step cache teamId) (start redis policy) actions = some final →
        final.pending = [] →
        HoldsThroughout (step cache teamId) (OnlyCached cache teamId) (start redis policy)
          actions →
        StepsMeet (step cache teamId) (Uncacheable cache) (start redis policy) actions := by
  constructor
  · intro met
    have kept := holdsThroughout_of_steps (step cache teamId)
      (fun s => OnlyCached cache teamId s ∧ Waiting cache teamId s) (Uncacheable cache)
      (fun s a next => step_keeps s next a) (start redis policy)
      ⟨empty, fun task member => by cases member⟩ actions met
    exact kept.imp _ fun _ holds => holds.1
  · intro final reached drained throughout
    exact (uncacheable_of_onlyCached enabled named actions (start redis policy) final
      ⟨unset, fun task member => by cases member⟩ throughout reached drained).2

end Step

/-! ## The greeting, answered while caching is off -/

def cachingPolicy : ResolvedPolicy := { globalDefaultPolicy with cacheEnabled := true }

def greeting : Action Budgeting.BudgetTable Budgeting.AsyncSession :=
  .request (oneProviderDependencies april (pure helloBack)) defaultSettings hello "req-1" member
    unusedWorld

def cleanStart (policy : ResolvedPolicy) : State CacheConfig := start emptyRedis policy

theorem cleanStart_onlyCached (policy : ResolvedPolicy) :
    OnlyCached oneCache "team-1" (cleanStart policy) :=
  ⟨fun _ listed => (List.not_mem_nil listed).elim, fun _ held => Bool.noConfusion held⟩

/-- The answer is in the index when the policy turns caching on. -/
theorem uncached_answer_stored :
    ∃ s, run (step oneCache "team-1") (cleanStart globalDefaultPolicy)
        [greeting, .store 0 "entry-1" 0, .setPolicy cachingPolicy] = some s ∧
      s.policy.cacheEnabled = true ∧ s.redis.lists (oneCache.indexKey "team-1") = ["entry-1"] ∧
      ¬ OnlyCached oneCache "team-1" s := by
  have ran : (run (step oneCache "team-1") (cleanStart globalDefaultPolicy)
      [greeting, .store 0 "entry-1" 0, .setPolicy cachingPolicy]).map (fun s =>
        (s.policy.cacheEnabled, s.redis.lists (oneCache.indexKey "team-1"),
          s.ran.map fun (entryId, task) => (entryId, task.cacheEnabled))) =
            some (true, ["entry-1"], [("entry-1", false)]) := by decide +kernel
  obtain ⟨s, reached, facts⟩ := Option.map_eq_some_iff.mp ran
  simp only [Prod.mk.injEq] at facts
  obtain ⟨on, listed, tasks⟩ := facts
  refine ⟨s, reached, on, listed, ?_⟩
  intro only
  obtain ⟨task, member, cached⟩ := only.index "entry-1" (by rw [listed]; simp)
  have off : ("entry-1", task.cacheEnabled) ∈ [("entry-1", false)] := by
    rw [← tasks]
    exact List.mem_map_of_mem (f := fun entry : String × StoreTask =>
      (entry.1, entry.2.cacheEnabled)) member
  rw [cached] at off
  simp at off

/-- The same answer, given while caching is on. -/
theorem cached_answer_onlyCached :
    HoldsThroughout (step oneCache "team-1") (OnlyCached oneCache "team-1")
      (cleanStart cachingPolicy) [greeting, .store 0 "entry-1" 0, .setPolicy globalDefaultPolicy] := by
  apply (onlyCached_throughout rfl (by decide) emptyRedis cachingPolicy rfl
    (cleanStart_onlyCached cachingPolicy) _).1
  rw [stepsMeet_cons]
  intro answered _
  refine ⟨fun off => Bool.noConfusion off, ?_⟩
  rw [stepsMeet_cons]
  intro stored _
  refine ⟨trivial, ?_⟩
  rw [stepsMeet_cons]
  exact fun _ _ => ⟨trivial, stepsMeet_nil _ _ _⟩

end Caching

end CortexGateway
