import CortexGateway.Lib.Relational
import CortexGateway.RateLimit.Limiter
import CortexGateway.SemanticCache.Embedding
import CortexGateway.Services.Manual

/-! # A gateway without its Redis

When Redis is down, every rate-limit check passes and every lookup of the
semantic cache misses.  A request is then answered, charged and failed exactly
as by a gateway that has no Redis and no cache. -/
set_option autoImplicit false
namespace CortexGateway
open Budgeting Relational RateLimiting

/-! ## The cache beside the other calls -/

/-- A lookup or a scheduled store. -/
def Call.isCaching : Call → Bool
  | .lookup => true
  | .store _ => true
  | _ => false

section Agreement
variable {σ τ : Type}

/-- The same but for the calls of the cache. -/
structure SameButCaching (world other : World σ τ) : Prop where
  shared : world.shared = other.shared
  session : world.session = other.session
  calls : world.calls.filter (!·.isCaching) = other.calls.filter (!·.isCaching)

theorem agree_awaitShared {α : Type} (program : EStateM Exc σ α) :
    Agree SameButCaching (awaitShared program : ServiceM σ τ α) (awaitShared program) := by
  rintro world other ⟨shared, session, calls⟩
  simp only [awaitShared, EStateM.run, shared]
  cases program other.shared with
  | ok value after => exact .returned value ⟨rfl, session, calls⟩
  | error exc after => exact .raised exc ⟨rfl, session, calls⟩

theorem agree_awaitSession {α : Type} (program : EStateM Exc (σ × τ) α) :
    Agree SameButCaching (awaitSession program) (awaitSession program) := by
  rintro world other ⟨shared, session, calls⟩
  simp only [awaitSession, EStateM.run, shared, session]
  cases program (other.shared, other.session) with
  | ok value after => exact .returned value ⟨rfl, rfl, calls⟩
  | error exc after => exact .raised exc ⟨rfl, rfl, calls⟩

theorem agree_note (call : Call) :
    Agree SameButCaching (note call : ServiceM σ τ Unit) (note call) := by
  refine agree_modify fun world other same => ⟨same.shared, same.session, ?_⟩
  rw [List.filter_cons, List.filter_cons, same.calls]

theorem agree_ofExcept {α : Type} (result : Except Exc α) :
    Agree SameButCaching (ofExcept result : ServiceM σ τ α) (ofExcept result) := by
  cases result with
  | ok value => exact agree_pure value
  | error exc => exact agree_throw exc

theorem agree_failOpen {α : Type} {program other : ServiceM σ τ α}
    (agree : Agree SameButCaching program other) (fallback : α) :
    Agree SameButCaching (failOpen program fallback) (failOpen other fallback) := by
  refine agree_tryCatch agree fun exc => ?_
  split_ifs
  · exact agree_pure fallback
  · exact agree_throw exc

/-- The same gateway without a semantic cache. -/
def Collaborators.uncached (svc : Collaborators σ τ) : Collaborators σ τ :=
  { svc with semanticCache := none }

/-- Every lookup returns None, and does nothing else. -/
def Collaborators.Misses (svc : Collaborators σ τ) : Prop :=
  ∀ lookup ∈ svc.semanticCache, ∀ request context shared,
    (lookup request context).run shared = .ok none shared

namespace ChatService
variable (svc : Collaborators σ τ) (settings : Settings) (policy : ResolvedPolicy)
variable (request : ChatCompletionRequest) (requestId : String) (context : Option RequestContext)

theorem teamRpm_agree (context : RequestContext) :
    Agree SameButCaching (teamRpm svc settings context) (teamRpm svc.uncached settings context) := by
  change Agree _ _ (teamRpm svc settings context)
  unfold teamRpm
  split
  · rename_i service _
    split_ifs
    · exact agree_pure _
    · exact agree_bind (agree_failOpen (agree_awaitShared _) none) fun _ => agree_pure _
  · exact agree_pure _

theorem checkRateLimits_agree :
    Agree SameButCaching (checkRateLimits svc settings context)
      (checkRateLimits svc.uncached settings context) := by
  change Agree _ _ (checkRateLimits svc settings context)
  unfold checkRateLimits
  split
  · rename_i present limiter _ _
    refine agree_bind (teamRpm_agree svc settings present) fun teamLimit => ?_
    refine agree_bind (agree_awaitShared _) fun outcome => ?_
    split_ifs
    · exact agree_pure _
    · exact agree_throw _
  · exact agree_pure none

theorem resolveTarget_agree :
    Agree SameButCaching (resolveTarget svc request) (resolveTarget svc.uncached request) := by
  change Agree _ _ (resolveTarget svc request)
  unfold resolveTarget
  split_ifs
  · exact agree_ofExcept _
  · refine agree_bind ?_ fun candidates => ?_
    · unfold routableCandidates
      split_ifs
      · exact agree_pure []
      · exact agree_awaitShared _
    · exact agree_bind (agree_ofExcept _) fun decision => agree_pure _

/-- A lookup that misses is as good as none. -/
theorem lookupCache_agree (misses : svc.Misses) :
    Agree SameButCaching (lookupCache svc policy request context)
      (lookupCache svc.uncached policy request context) := by
  have off : lookupCache svc.uncached policy request context = (pure none : ServiceM σ τ _) := by
    unfold lookupCache Collaborators.uncached
    split
    · rename_i held _
      cases held
    · rfl
  rw [off]
  unfold lookupCache
  split
  · rename_i lookup present held _
    refine agree_besides (fun world other same => ⟨same.shared, same.session, ?_⟩) ?_
    · rw [List.filter_cons_of_neg (by simp [Call.isCaching])]
      exact same.calls
    · rintro world other ⟨shared, session, calls⟩
      have missed := misses lookup held request present world.shared
      simp only [awaitShared, EStateM.run] at missed ⊢
      rw [missed]
      exact .returned none ⟨shared, session, calls⟩
  · exact agree_pure none

theorem admission_agree (misses : svc.Misses) :
    Agree SameButCaching (admission svc settings policy request requestId context)
      (admission svc.uncached settings policy request requestId context) := by
  unfold admission
  refine agree_bind (checkRateLimits_agree svc settings context) fun rateLimitRemaining => ?_
  refine agree_bind (resolveTarget_agree svc request) fun target => ?_
  refine agree_bind (lookupCache_agree svc policy request context misses) fun answer => ?_
  cases answer with
  | some cached => exact agree_pure _
  | none =>
      have same : assignExperiment svc.uncached policy requestId context =
          assignExperiment svc policy requestId context := rfl
      rw [same]
      cases assignExperiment svc policy requestId context with
      | some assignment => exact agree_pure _
      | none => exact agree_pure _

theorem attemptBudgetDowngrade_agree (budgetService : BudgetClient (σ × τ)) (cost : CostClient)
    (context : RequestContext) (target : Target) (estimatedCost : ℚ) :
    Agree SameButCaching
      (attemptBudgetDowngrade svc request budgetService cost context target estimatedCost)
      (attemptBudgetDowngrade svc.uncached request budgetService cost context target
        estimatedCost) := by
  change Agree _ _ (attemptBudgetDowngrade svc request budgetService cost context target
    estimatedCost)
  unfold attemptBudgetDowngrade
  refine agree_bind (agree_awaitSession _) fun found => ?_
  cases found with
  | none => exact agree_pure _
  | some budget =>
      dsimp only
      split_ifs
      · exact agree_pure _
      · refine agree_bind (agree_awaitShared _) fun candidates => ?_
        split
        · exact agree_throw _
        · exact agree_pure _

theorem quote_agree (target : Target) :
    Agree SameButCaching (quote svc settings policy request context target)
      (quote svc.uncached settings policy request context target) := by
  change Agree _ _ (quote svc settings policy request context target)
  unfold quote
  split
  · dsimp only
    split_ifs
    · exact attemptBudgetDowngrade_agree svc request _ _ _ target _
    · exact agree_pure _
  · exact agree_pure _

theorem prepare_agree (misses : svc.Misses) :
    Agree SameButCaching (prepare svc settings policy request requestId context)
      (prepare svc.uncached settings policy request requestId context) := by
  unfold prepare
  refine agree_bind (admission_agree svc settings policy request requestId context misses)
    fun admission => ?_
  cases admission with
  | inl cached => exact agree_pure _
  | inr admitted =>
      exact agree_bind (quote_agree svc settings policy request context admitted.target)
        fun quote => agree_pure _

theorem reserve_agree (quote : Quote) :
    Agree SameButCaching (reserve svc settings context quote)
      (reserve svc.uncached settings context quote) := by
  change Agree _ _ (reserve svc settings context quote)
  unfold reserve
  split
  · refine agree_bind (agree_note _) fun _ => ?_
    exact agree_bind (agree_awaitSession _) fun _ => agree_pure _
  · exact agree_pure _

theorem releaseFailed_agree (estimatedCost : ℚ) :
    Agree SameButCaching (releaseFailed svc context estimatedCost)
      (releaseFailed svc.uncached context estimatedCost) := by
  change Agree _ _ (releaseFailed svc context estimatedCost)
  unfold releaseFailed
  split
  · split_ifs
    · exact agree_bind (agree_note _) fun _ => agree_failOpen (agree_awaitSession _) ()
    · exact agree_pure _
  · exact agree_pure _

theorem executeProvider_agree (quote : Quote) :
    Agree SameButCaching (executeProvider svc policy request context quote)
      (executeProvider svc.uncached policy request context quote) := by
  refine agree_tryCatch (agree_bind (agree_note _) fun _ => agree_awaitShared _) fun exc => ?_
  cases exc.isException with
  | false => exact agree_throw exc
  | true =>
      exact agree_bind (releaseFailed_agree svc context quote.estimatedCost) fun _ => agree_throw exc

theorem settle_agree (quote : Quote) (response : ChatCompletionResponse) :
    Agree SameButCaching (settle svc settings context quote response)
      (settle svc.uncached settings context quote response) := by
  change Agree _ _ (settle svc settings context quote response)
  unfold settle
  split
  · by_cases nonneg : 0 ≤ quote.estimatedCost
    · rw [if_pos nonneg]
      refine agree_bind (agree_ofExcept _) fun actualCost => ?_
      refine agree_bind (agree_note _) fun _ => ?_
      exact agree_bind (agree_awaitSession _) fun _ => agree_pure _
    · rw [if_neg nonneg]
      exact agree_pure _
  · exact agree_pure _

/-- What is scheduled for the cache is no other call. -/
theorem scheduleStore_agree (response : ChatCompletionResponse) :
    Agree SameButCaching (scheduleStore svc context response)
      (scheduleStore svc.uncached context response) := by
  have off : scheduleStore svc.uncached context response = (pure () : ServiceM σ τ _) := rfl
  rw [off]
  unfold scheduleStore
  split_ifs
  · rintro world other ⟨shared, session, calls⟩
    refine .returned () ⟨shared, session, ?_⟩
    rw [← calls]
    exact List.filter_cons_of_neg (by simp [Call.isCaching])
  · exact agree_pure ()

theorem serve_agree (admitted : Admitted) (reservation : Reservation) :
    Agree SameButCaching (serve svc settings policy request context admitted reservation)
      (serve svc.uncached settings policy request context admitted reservation) := by
  unfold serve
  refine agree_bind (executeProvider_agree svc policy request context reservation.quote)
    fun response => ?_
  refine agree_bind (settle_agree svc settings context reservation.quote response) fun settled => ?_
  exact agree_bind (scheduleStore_agree svc context _) fun _ => agree_pure _

/-- A cache that only misses changes nothing. -/
theorem complete_agree (misses : svc.Misses) :
    Agree SameButCaching (complete svc settings policy request requestId context)
      (complete svc.uncached settings policy request requestId context) := by
  unfold complete
  refine agree_bind (prepare_agree svc settings policy request requestId context misses)
    fun prepared => ?_
  cases prepared with
  | inl cached => exact agree_pure cached
  | inr quoted =>
      exact agree_bind (reserve_agree svc settings context quoted.2) fun reservation =>
        serve_agree svc settings policy request context quoted.1 reservation

end ChatService

end Agreement

/-! ## Redis is down -/

section Outage
variable {σ τ κ : Type} [DecidableEq κ]

/-- `check_all` as a collaborator. -/
def limiterClient (redis : Script σ) (times : CheckTimes) (limits : RateLimits) :
    EStateM Exc σ RateLimitOutcome := do
  let outcome ← checkAll redis times limits
  return outcome.toRateLimitOutcome

/-- Every evaluation of the script raises an `Exception`, and nothing happens. -/
def ScriptDown (script : ℚ → ScriptCall → EStateM Exc σ ScriptReply) : Prop :=
  ∀ now call shared, ∃ exc, exc.isException = true ∧
    (script now call).run shared = .error exc shared

/-- Every read raises an `Exception`. -/
structure ReadsDown (reads : SemanticCache.RedisReads κ) : Prop where
  existsKey : ∀ key, ∃ exc, exc.isException = true ∧ reads.existsKey key = .error exc
  lrange : ∀ key, ∃ exc, exc.isException = true ∧ reads.lrange key = .error exc

theorem checkScope_down {script : ℚ → ScriptCall → EStateM Exc σ ScriptReply}
    (down : ScriptDown script) (scope identifier : String) (limit windowSeconds : ℤ)
    (window : windowSeconds ≠ 0) (now : ℚ) :
    checkScope (some script) scope identifier limit windowSeconds now =
      checkScope none scope identifier limit windowSeconds now := by
  funext shared
  obtain ⟨exc, ordinary, raised⟩ :=
    down now (scriptCall scope identifier limit windowSeconds now) shared
  change (checkScope (some script) scope identifier limit windowSeconds now).run shared =
    .ok (failingOpen scope limit) shared
  simp only [checkScope, if_neg window]
  rw [Exits.run_tryCatch, EStateM.run_bind, raised]
  simp only [ordinary, if_true]
  rfl

/-- Each check passes, as without a Redis. -/
theorem limiterClient_down {script : ℚ → ScriptCall → EStateM Exc σ ScriptReply}
    (down : ScriptDown script) (times : CheckTimes) (limits : RateLimits)
    (keyWindow : limits.keyWindow ≠ 0) (teamWindow : limits.teamWindow ≠ 0)
    (orgWindow : limits.orgWindow ≠ 0) :
    limiterClient (some script) times limits = limiterClient none times limits := by
  simp only [limiterClient, checkAll]
  rw [checkScope_down down _ _ _ _ keyWindow, checkScope_down down _ _ _ _ teamWindow,
    checkScope_down down _ _ _ _ orgWindow]

open SemanticCache in
/-- A lookup in a Redis that is down misses, when no exception but `EmbeddingError`
comes of the embedding. -/
theorem lookup_down (cache : Cache κ) (reads : RedisReads κ) (down : ReadsDown reads)
    (embeds : ∀ embed ∈ cache.embed, ∀ text exc, embed text = .error exc → exc = embeddingError)
    (request : ChatCompletionRequest) (context : RequestContext) (fresh : Fresh) :
    cache.lookup (some reads) request context.attributes fresh = .ok none := by
  obtain ⟨unanswered, ordinary, asked⟩ := down.existsKey (cache.disabledKey context.teamId)
  have enabled : cache.isTeamDisabled reads context.teamId = .ok false := by
    simp [Cache.isTeamDisabled, fallbackOn, asked, ordinary]
  obtain ⟨unread, unreadable, listed⟩ := down.lrange (cache.indexKey context.teamId)
  have missed : cache.select reads context.teamId request = .ok none := by
    have index : fallbackOn ((reads.lrange (cache.indexKey context.teamId)).map some) none =
        .ok none := by
      rw [listed]
      simp [fallbackOn, Except.map, unreadable]
    simp only [Cache.select]
    cases embedded : cache.getEmbedding (extractEmbeddingText request) with
    | ok queryEmbedding => simp only [index, bind, Except.bind, pure, Except.pure]
    | error exc =>
        have ours : exc = embeddingError := by
          unfold Cache.getEmbedding at embedded
          split at embedded
          · rename_i embed given
            exact embeds embed given _ exc embedded
          · exact (Except.error.inj embedded).symm
        simp only [ours, if_true, pure, Except.pure]
  unfold Cache.lookup
  have team : context.attributes "team_id" = .ok context.teamId := rfl
  simp only [team, bind, Except.bind, pure, Except.pure, enabled, missed]
  split_ifs <;> rfl

namespace ChatService
variable (settings : Settings) (policy : ResolvedPolicy) (request : ChatCompletionRequest)
variable (requestId : String) (context : Option RequestContext)

theorem checkRateLimits_down (svc : Collaborators σ τ)
    {script : ℚ → ScriptCall → EStateM Exc σ ScriptReply} (down : ScriptDown script)
    (times : CheckTimes) (keyWindow : settings.rateLimitApiKeyWindowSeconds ≠ 0)
    (teamWindow : settings.rateLimitTeamWindowSeconds ≠ 0)
    (orgWindow : settings.rateLimitOrgWindowSeconds ≠ 0) :
    checkRateLimits { svc with rateLimiter := some (limiterClient (some script) times) } settings
        context =
      checkRateLimits { svc with rateLimiter := some (limiterClient none times) } settings
        context := by
  unfold checkRateLimits
  cases context with
  | none => rfl
  | some present =>
      cases settings.rateLimitEnabled with
      | false => rfl
      | true =>
          refine bind_congr fun teamLimit => ?_
          rw [limiterClient_down down times _ keyWindow teamWindow orgWindow]

/-- A Redis that is down is a Redis that is not there: every request ends as it
would by a gateway with neither, with the same answer or exception, the same
shared state and session, and the same calls but for those of the cache. -/
theorem redis_outage_invisible (svc : Collaborators σ τ) (times : CheckTimes)
    (script : ℚ → ScriptCall → EStateM Exc σ ScriptReply) (scriptDown : ScriptDown script)
    (cache : SemanticCache.Cache κ) (fresh : SemanticCache.Fresh)
    (reads : σ → SemanticCache.RedisReads κ) (readsDown : ∀ shared, ReadsDown (reads shared))
    (client : Option SemanticCache.OllamaEmbeddingClient)
    (wired : cache.embed = client.map SemanticCache.OllamaEmbeddingClient.embed)
    (uncancelled : ∀ own ∈ client, ∀ endpoint body exc, own.post endpoint body = .error exc →
      exc.isException = true)
    (keyWindow : settings.rateLimitApiKeyWindowSeconds ≠ 0)
    (teamWindow : settings.rateLimitTeamWindowSeconds ≠ 0)
    (orgWindow : settings.rateLimitOrgWindowSeconds ≠ 0) (world : World σ τ) :
    EndAlike SameButCaching
      ((complete { svc with
          rateLimiter := some (limiterClient (some script) times)
          semanticCache := some (cacheClient cache (fun shared => some (reads shared)) fresh) }
        settings policy request requestId context).run world)
      ((complete { svc with
          rateLimiter := some (limiterClient none times)
          semanticCache := none }
        settings policy request requestId context).run world) := by
  have embeds : ∀ embed ∈ cache.embed, ∀ text exc, embed text = .error exc →
      exc = embeddingError := by
    intro embed given text exc raised
    rw [wired] at given
    obtain ⟨own, used, rfl⟩ := Option.map_eq_some_iff.mp given
    rcases own.embed_error text raised with ours | ⟨posted, cancelled⟩
    · exact ours
    · rw [uncancelled own used _ _ exc posted] at cancelled
      cases cancelled
  have misses : Collaborators.Misses { svc with
      rateLimiter := some (limiterClient (some script) times)
      semanticCache := some (cacheClient cache (fun shared => some (reads shared)) fresh) } := by
    intro lookup given request context shared
    cases given
    change cacheClient cache _ fresh request context shared = _
    simp only [cacheClient]
    rw [lookup_down cache (reads shared) (readsDown shared) embeds]
  have agree := complete_agree _ settings policy request requestId context misses world world
    ⟨rfl, rfl, rfl⟩
  have checks := checkRateLimits_down settings context { svc with semanticCache := none } scriptDown
    times keyWindow teamWindow orgWindow
  have same : complete { svc with
      rateLimiter := some (limiterClient (some script) times)
      semanticCache := none } settings policy request requestId context =
    complete { svc with
      rateLimiter := some (limiterClient none times)
      semanticCache := none } settings policy request requestId context := by
    unfold complete prepare admission
    rw [checks]
    rfl
  rw [← same]
  exact agree

end ChatService

end Outage

/-! ## A greeting without Redis -/

def refusedScript (_ : ℚ) (_ : ScriptCall) : EStateM Exc BudgetTable ScriptReply :=
  throw .connectionError

def refusedReads : SemanticCache.RedisReads SemanticCache.CacheConfig :=
  ⟨fun _ => .error .connectionError, fun _ => .error .connectionError,
    fun _ => .error .connectionError⟩

/-- Ollama is down too. -/
def downOllama : SemanticCache.OllamaEmbeddingClient :=
  ⟨"http://localhost:11434", "nomic-embed-text", fun _ _ => .error .httpxConnectError,
    fun _ => none⟩

def downCache : SemanticCache.Cache SemanticCache.CacheConfig :=
  { SemanticCache.oneCache with embed := some downOllama.embed }

def withRefusedRedis : Collaborators BudgetTable AsyncSession :=
  { oneProvider april (pure helloBack) with
    rateLimiter := some (limiterClient (some refusedScript) ⟨0, 0, 0⟩)
    semanticCache := some (cacheClient downCache (fun _ => some refusedReads)
      ⟨"req-2", "ctx_2", 1⟩) }

def withoutRedis : Collaborators BudgetTable AsyncSession :=
  { oneProvider april (pure helloBack) with
    rateLimiter := some (limiterClient none ⟨0, 0, 0⟩)
    semanticCache := none }

/-- Both answer the greeting. -/
theorem greeting_without_redis :
    ∃ response world other,
      (ChatService.complete withRefusedRedis defaultSettings globalDefaultPolicy hello "req-1"
        (some member)).run unusedWorld = .ok response world ∧
      (ChatService.complete withoutRedis defaultSettings globalDefaultPolicy hello "req-1"
        (some member)).run unusedWorld = .ok response other ∧
      SameButCaching world other := by
  have alike : EndAlike SameButCaching
      ((ChatService.complete withRefusedRedis defaultSettings globalDefaultPolicy hello "req-1"
        (some member)).run unusedWorld)
      ((ChatService.complete withoutRedis defaultSettings globalDefaultPolicy hello "req-1"
        (some member)).run unusedWorld) :=
    ChatService.redis_outage_invisible defaultSettings globalDefaultPolicy hello "req-1"
      (some member) (oneProvider april (pure helloBack)) ⟨0, 0, 0⟩ refusedScript
      (fun _ _ _ => ⟨.connectionError, rfl, rfl⟩) downCache ⟨"req-2", "ctx_2", 1⟩
      (fun _ => refusedReads)
      (fun _ => ⟨fun _ => ⟨.connectionError, rfl, rfl⟩, fun _ => ⟨.connectionError, rfl, rfl⟩⟩)
      (some downOllama) rfl (fun own used _ _ exc failed => by cases used; cases failed; rfl)
      (by decide) (by decide) (by decide) unusedWorld
  have answers : ((ChatService.complete withoutRedis defaultSettings globalDefaultPolicy hello
      "req-1" (some member)).run' unusedWorld).isSome = true := by decide +kernel
  rw [EStateM.run'] at answers
  generalize (ChatService.complete withRefusedRedis defaultSettings globalDefaultPolicy hello
    "req-1" (some member)).run unusedWorld = outcome at alike ⊢
  generalize (ChatService.complete withoutRedis defaultSettings globalDefaultPolicy hello "req-1"
    (some member)).run unusedWorld = other at alike answers ⊢
  cases alike with
  | returned response left => exact ⟨response, _, _, rfl, rfl, left⟩
  | raised exc left => cases answers

end CortexGateway
