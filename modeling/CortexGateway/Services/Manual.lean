import CortexGateway.SemanticCache.Hits
import CortexGateway.Services.Strategy

/-! # Manual targets

A request that names its provider and model is resolved to them, whatever the
policy.  The gateway's own cache never answers in their place; the arm of an
experiment, which is part of the policy, does. -/
set_option autoImplicit false
namespace CortexGateway
open Budgeting Exits Reliability

/-- The semantic cache as a collaborator; `reads` is what Redis replies. -/
def cacheClient {σ κ : Type} [DecidableEq κ] (cache : SemanticCache.Cache κ)
    (reads : σ → Option (SemanticCache.RedisReads κ)) (fresh : SemanticCache.Fresh) :
    ChatCompletionRequest → RequestContext → EStateM Exc σ (Option ChatCompletionResponse) :=
  fun request context shared =>
    match cache.lookup (reads shared) request context.attributes fresh with
    | .ok found => .ok found shared
    | .error exc => .error exc shared

theorem cacheClient_misses {σ κ : Type} [DecidableEq κ] (cache : SemanticCache.Cache κ)
    (reads : σ → Option (SemanticCache.RedisReads κ)) (fresh : SemanticCache.Fresh)
    (request : ChatCompletionRequest) (context : RequestContext) (shared after : σ)
    (found : ChatCompletionResponse) :
    (cacheClient cache reads fresh request context).run shared ≠ .ok (some found) after := by
  intro returned
  simp only [cacheClient, EStateM.run] at returned
  split at returned
  · rename_i answer looked
    cases returned
    exact SemanticCache.lookup_misses cache request fresh (reads _) context found looked
  · cases returned

namespace ChatService
variable {σ τ κ : Type} [DecidableEq κ] (svc : Collaborators σ τ) (settings : Settings)
variable (policy : ResolvedPolicy) (request : ChatCompletionRequest) (requestId : String)
variable (context : Option RequestContext)

/-! ## The cache -/

section Cached
variable (cache : SemanticCache.Cache κ) (reads : σ → Option (SemanticCache.RedisReads κ))
variable (fresh : SemanticCache.Fresh)
variable (own : ∀ lookup ∈ svc.semanticCache, lookup = cacheClient cache reads fresh)

include own

theorem lookupCache_misses (world after : World σ τ) (found : ChatCompletionResponse) :
    (lookupCache svc policy request context).run world ≠ .ok (some found) after := by
  intro returned
  unfold lookupCache at returned
  split at returned
  · rename_i lookup present held _
    rw [EStateM.run_bind] at returned
    have missed := awaitShared_returned (lookup request present) _ after (some found) returned
    rw [own lookup held] at missed
    exact cacheClient_misses cache reads fresh request present _ _ found missed
  · cases returned

theorem admission_not_cached (world : World σ τ) :
    Ends (admission svc settings policy request requestId context) world
      (fun admission _ => ∀ cached, admission ≠ .inl cached) fun _ _ => True := by
  unfold admission
  apply ends_bind
  refine ends_any _ _ (fun remaining limits => ?_) fun _ _ => trivial
  apply ends_bind
  refine ends_any _ _ (fun target routed => ?_) fun _ _ => trivial
  apply ends_bind
  rw [ends_iff]
  refine ⟨fun answer after looked => ?_, fun _ _ _ => trivial⟩
  cases answer with
  | some found =>
      exact absurd looked
        (lookupCache_misses svc policy request context cache reads fresh own routed after found)
  | none =>
      dsimp only
      split <;> exact ends_pure fun _ same => by cases same

/-- So no request is answered from the cache. -/
theorem prepare_not_cached (world : World σ τ) :
    Ends (prepare svc settings policy request requestId context) world
      (fun prepared _ => ∀ cached, prepared ≠ .inl cached) fun _ _ => True := by
  unfold prepare
  apply ends_bind
  apply (admission_not_cached svc settings policy request requestId context cache reads fresh own
    world).mono
  · intro admission arrived live
    cases admission with
    | inl cached => exact absurd rfl (live cached)
    | inr admitted =>
        apply ends_bind
        exact ends_any _ _ (fun given quoted => ends_pure fun _ same => by cases same)
          fun _ _ => trivial
  · exact fun _ _ _ => trivial

end Cached

/-! ## The target -/

/-- A manual request is resolved to the provider and model it names. -/
theorem resolveTarget_manual (manual : request.isManual = true) (world after : World σ τ)
    (target : Target) (resolved : (resolveTarget svc request).run world = .ok target after) :
    target = ⟨request.provider.getD "", request.model, .manual⟩ := by
  unfold resolveTarget at resolved
  rw [if_pos manual] at resolved
  unfold manualTarget at resolved
  dsimp only at resolved
  split_ifs at resolved with incomplete
  · cases resolved
  · cases resolved
    rfl

/-- The request was answered by the provider and the model it names. -/
def AnsweredAsAsked (response : ChatCompletionResponse) : Prop :=
  response.metadata.selectedProvider = request.provider ∧
    response.metadata.selectedModel = some request.model

/-- Whatever answers the request is what it names, unless a downgrade or a
failover has replaced it. -/
structure ManualWins (world : World σ τ) : Prop where
  cached : ∀ response after,
    (prepare svc settings policy request requestId context).run world = .ok (.inl response) after →
      AnsweredAsAsked request response
  live : ∀ admitted quote quoted,
    (prepare svc settings policy request requestId context).run world =
        .ok (.inr (admitted, quote)) quoted →
      quote.budgetDowngraded = false →
      ∀ executor response, Answers executor (executorArguments policy request quote) response →
        response.metadata.failoverTriggered = false →
        ∀ reservation actualCost remainingBudget, AnsweredAsAsked request
          (attachMetadata admitted reservation actualCost remainingBudget response)

/-- If the request is assigned an arm, it is the arm of what it names. -/
def ArmAgrees : Prop :=
  ∀ assignment ∈ assignExperiment svc policy requestId context,
    some assignment.provider = request.provider ∧ assignment.model = request.model

theorem attachMetadata_selected (admitted : Admitted) (reservation : Reservation) (actualCost : ℚ)
    (remainingBudget : Option ℚ) (response : ChatCompletionResponse) :
    AnsweredAsAsked request
        (attachMetadata admitted reservation actualCost remainingBudget response) ↔
      AnsweredAsAsked request response := by
  unfold attachMetadata
  split <;> rfl

/-- The target after the experiment is the named one exactly if the arm agrees. -/
theorem assignedTarget_named (provider : String) (explicit : request.provider = some provider) :
    ((assignedTarget svc policy requestId context ⟨provider, request.model, .manual⟩).provider =
        provider ∧
      (assignedTarget svc policy requestId context ⟨provider, request.model, .manual⟩).model =
        request.model) ↔
      ArmAgrees svc policy request requestId context := by
  unfold assignedTarget ArmAgrees
  cases assignExperiment svc policy requestId context with
  | none => simp
  | some assignment => simp [explicit]

/-- An undowngraded quote is for the target after the experiment. -/
theorem manual_quote (manual : request.isManual = true) (provider : String)
    (explicit : request.provider = some provider) (world quoted : World σ τ) (admitted : Admitted)
    (quote : Quote)
    (prepared : (prepare svc settings policy request requestId context).run world =
      .ok (.inr (admitted, quote)) quoted) (kept : quote.budgetDowngraded = false) :
    quote.target = assignedTarget svc policy requestId context ⟨provider, request.model, .manual⟩ := by
  obtain ⟨arrived, arrives, quotes⟩ := prepare_admitted svc settings policy request requestId context
    world quoted admitted quote prepared
  obtain ⟨_, limits, target, routed, -, resolved, assigned⟩ := admission_resolved svc settings policy
    request requestId context world arrived admitted arrives
  have named := resolveTarget_manual svc request manual limits routed target resolved
  rw [explicit] at named
  subst named
  rcases (quote_target svc settings policy request context admitted.target arrived).returned quotes with
    ⟨-, same⟩ | ⟨downgraded, -⟩
  · exact same.trans assigned
  · rw [downgraded] at kept
    cases kept

/-- A manual target wins if the arm of the experiment agrees with it, and only
then where an undowngraded target is executed. -/
theorem manualWins_iff (cache : SemanticCache.Cache κ)
    (reads : σ → Option (SemanticCache.RedisReads κ)) (fresh : SemanticCache.Fresh)
    (own : ∀ lookup ∈ svc.semanticCache, lookup = cacheClient cache reads fresh)
    (manual : request.isManual = true) (provider : String)
    (explicit : request.provider = some provider) (world : World σ τ) :
    (ArmAgrees svc policy request requestId context →
        ManualWins svc settings policy request requestId context world) ∧
      ∀ admitted quote quoted,
        (prepare svc settings policy request requestId context).run world =
            .ok (.inr (admitted, quote)) quoted →
          quote.budgetDowngraded = false →
          ManualWins svc settings policy request requestId context world →
          ArmAgrees svc policy request requestId context := by
  have named := assignedTarget_named svc policy request requestId context provider explicit
  constructor
  · intro agrees
    constructor
    · intro response after prepared
      have live := prepare_not_cached svc settings policy request requestId context cache reads fresh
        own world
      exact absurd rfl (live.returned prepared response)
    · intro admitted quote quoted prepared kept executor response answers untriggered _ _ _
      rw [attachMetadata_selected]
      obtain ⟨sameProvider, sameModel⟩ := (answers_recorded executor _ response answers).2 untriggered
      have target := manual_quote svc settings policy request requestId context manual provider
        explicit world quoted admitted quote prepared kept
      simp only [executorArguments, target] at sameProvider sameModel
      rw [(named.mpr agrees).1] at sameProvider
      rw [(named.mpr agrees).2] at sameModel
      exact ⟨sameProvider.trans explicit.symm, sameModel⟩
  · intro admitted quote quoted prepared kept wins
    have target := manual_quote svc settings policy request requestId context manual provider explicit
      world quoted admitted quote prepared kept
    obtain ⟨response, answers, untriggered⟩ := answers_exist (executorArguments policy request quote)
      helloBack
    obtain ⟨sameProvider, sameModel⟩ := (answers_recorded _ _ response answers).2 untriggered
    have asked := wins.live admitted quote quoted prepared kept _ response answers untriggered
      ⟨quote, none, false⟩ 0 none
    rw [attachMetadata_selected, AnsweredAsAsked, sameProvider, sameModel] at asked
    simp only [executorArguments, target, explicit, Option.some.injEq] at asked
    exact named.mp asked

end ChatService
/-! ## An experiment on a greeting with a target -/

open ChatService

/-- Half of the traffic goes to another provider. -/
def flashExperiment : ExperimentConfig :=
  { enabled := true
    id := "exp-1"
    version := 1
    type := .abTest
    arms :=
      [⟨"treatment", "gemini", "flash", 50, by decide⟩, ⟨"control", "groq", "llama", 50, by decide⟩]
    versionPositive := by decide
    twoArms := by decide
    distinctNames := by decide
    weightsSum := by decide }

def experimentPolicy : ResolvedPolicy :=
  .merge { noSections with experiment := some flashExperiment }

/-- The provider and the cache of the gateway, with nothing in it. -/
def cachedProvider : Collaborators BudgetTable AsyncSession :=
  { oneProvider april (pure helloBack) with
    semanticCache := some (cacheClient SemanticCache.oneCache
      (fun _ => some (SemanticCache.emptyRedis.reads 0)) ⟨"req-2", "ctx_2", 1⟩) }

/-- The greeting asks for groq and is put to gemini. -/
theorem flash_answers :
    ∃ admitted quote quoted, (prepare cachedProvider defaultSettings experimentPolicy hello "req-1"
        (some member)).run unusedWorld = .ok (.inr (admitted, quote)) quoted ∧
      quote.budgetDowngraded = false ∧ quote.target = ⟨"gemini", "flash", .manual⟩ ∧
      ¬ ManualWins cachedProvider defaultSettings experimentPolicy hello "req-1" (some member)
        unusedWorld := by
  have comes : (quoteOf cachedProvider defaultSettings experimentPolicy hello "req-1" (some member)
      unusedWorld).map (fun found => (found.2.1.budgetDowngraded, found.2.1.target)) =
        some (false, ⟨"gemini", "flash", .manual⟩) := by decide +kernel
  obtain ⟨⟨admitted, quote, quoted⟩, found, shown⟩ := Option.map_eq_some_iff.mp comes
  obtain ⟨kept, target⟩ := Prod.ext_iff.mp shown
  have prepared := (quoteOf_eq_some _ _ _ _ _ _ _ _ _ _).mp found
  refine ⟨admitted, quote, quoted, prepared, kept, target, fun wins => ?_⟩
  obtain ⟨response, answers, untriggered⟩ :=
    answers_exist (executorArguments experimentPolicy hello quote) helloBack
  obtain ⟨gemini, -⟩ := (answers_recorded _ _ response answers).2 untriggered
  have asked := wins.live admitted quote quoted prepared kept _ response answers untriggered
    ⟨quote, none, false⟩ 0 none
  rw [attachMetadata_selected] at asked
  have groq : response.metadata.selectedProvider = some "groq" := asked.1
  rw [gemini, executorArguments, show quote.target = ⟨"gemini", "flash", .manual⟩ from target] at groq
  revert groq
  decide

/-- With the cache on and no experiment, it is put to groq. -/
theorem llama_answers :
    ManualWins cachedProvider defaultSettings (.merge { noSections with cacheEnabled := some true })
      hello "req-1" (some member) unusedWorld :=
  (manualWins_iff cachedProvider defaultSettings _ hello "req-1" (some member)
    SemanticCache.oneCache _ _ (fun _ same => (Option.some.inj same).symm) (by decide +kernel) "groq"
    rfl unusedWorld).1 fun _ assigned => by cases assigned

end CortexGateway
