import CortexGateway.Api.Books
import CortexGateway.Lib.Relational
import CortexGateway.Observability.Metrics

/-! # The metrics and the request log

The endpoint with the metrics it updates.  They change nothing that it answers,
logs or leaves; and over any requests they tell what the analytics tell of the
request log. -/
set_option autoImplicit false
namespace CortexGateway
open Exits Relational

structure MeteredState (σ τ : Type) where
  chat : ChatState σ τ
  metrics : Metrics

abbrev MeteredM (σ τ : Type) := EStateM ChatError (MeteredState σ τ)

section Endpoint
variable {σ τ : Type}

def onChat {α : Type} (program : ChatM σ τ α) : MeteredM σ τ α := fun state =>
  match program.run state.chat with
  | .ok value chat => .ok value { state with chat := chat }
  | .error exc chat => .error exc { state with chat := chat }

def measure (update : Metrics → Metrics) : MeteredM σ τ Unit :=
  modify fun state => { state with metrics := update state.metrics }

/-- `rate_limit_exceeded_total.labels(scope=exc.scope).inc()`, in its `except` clause. -/
def Metrics.failed (exc : Exc) (metrics : Metrics) : Metrics :=
  match exc with
  | .rateLimitExceeded _ _ scope => metrics.recordRejection scope
  | _ => metrics

variable (deps : ChatDependencies σ τ) (patterns : GuardrailPatterns) (settings : ChatSettings)
variable (policy : ResolvedPolicy) (request : ChatCompletionRequest)

/-- `chat_completions` with its metrics. -/
def meteredCompletions (logged : LoggedRequest) : MeteredM σ τ ChatCompletionResponse := do
  let guardrailRun := GuardrailRunner.run patterns request policy.guardrails
  if guardrailRun.isBlocked then
    onChat (addLogTask settings (guardrailLog logged guardrailRun))
    throw (guardrailError guardrailRun)
  else
    let response ← tryCatch
      (onChat (awaitComplete (ChatService.complete deps.collaborators settings.toSettings policy
        request logged.requestId (some logged.context))))
      fun exc => do
        match exc with
        | .pipeline exc =>
            measure (Metrics.failed exc)
            if exc.isException then onChat (addLogTask settings (failureLog logged exc))
        | .guardrailBlocked .. => pure ()
        throw exc
    measure (Metrics.answered · response.metadata)
    onChat (addLogTask settings (successLog policy logged guardrailRun response))
    return response

/-! ## One request -/

/-- The endpoint, but for what it leaves in the metrics. -/
def meteredOf (metrics : Metrics) :
    EStateM.Result ChatError (ChatState σ τ) ChatCompletionResponse →
      EStateM.Result ChatError (MeteredState σ τ) ChatCompletionResponse
  | .ok response chat => .ok response ⟨chat, metrics.answered response.metadata⟩
  | .error (.pipeline exc) chat => .error (.pipeline exc) ⟨chat, metrics.failed exc⟩
  | .error (.guardrailBlocked guardrail triggered reason message) chat =>
      .error (.guardrailBlocked guardrail triggered reason message) ⟨chat, metrics⟩

theorem run_onChat {α : Type} (program : ChatM σ τ α) (chat : ChatState σ τ) (metrics : Metrics) :
    (onChat program).run ⟨chat, metrics⟩ =
      match program.run chat with
      | .ok value left => .ok value ⟨left, metrics⟩
      | .error exc left => .error exc ⟨left, metrics⟩ := rfl

theorem run_measure (update : Metrics → Metrics) (chat : ChatState σ τ) (metrics : Metrics) :
    (measure update : MeteredM σ τ Unit).run ⟨chat, metrics⟩ = .ok () ⟨chat, update metrics⟩ := rfl

/-- Whatever is measured, the endpoint ends as it does without. -/
theorem run_meteredCompletions (logged : LoggedRequest) (chat : ChatState σ τ)
    (metrics : Metrics) :
    (meteredCompletions deps patterns settings policy request logged).run ⟨chat, metrics⟩ =
      meteredOf metrics
        ((chatCompletions deps patterns settings policy request logged).run chat) := by
  unfold meteredCompletions chatCompletions
  dsimp only
  split_ifs with blocked
  · rw [EStateM.run_bind, EStateM.run_bind, run_onChat, run_addLogTask_eq]
    rfl
  · rw [EStateM.run_bind, EStateM.run_bind, run_tryCatch, run_tryCatch, run_onChat]
    cases (awaitComplete (ChatService.complete deps.collaborators settings.toSettings policy
      request logged.requestId (some logged.context))).run chat with
    | ok response left =>
        dsimp only
        rw [EStateM.run_bind, run_measure]
        dsimp only
        rw [EStateM.run_bind, EStateM.run_bind, run_onChat, run_addLogTask_eq]
        rfl
    | error exc left =>
        cases exc with
        | guardrailBlocked guardrail triggered reason message => rfl
        | pipeline exc =>
            dsimp only
            rw [EStateM.run_bind, run_measure]
            dsimp only
            split_ifs with ordinary
            · rw [EStateM.run_bind, EStateM.run_bind, run_onChat, run_addLogTask_eq]
              rfl
            · rfl

end Endpoint

/-! ## One request after the other -/

section Run
variable {σ τ : Type}

/-- The answer, or what was raised. -/
def outcomeOf {α : Type} : EStateM.Result ChatError α ChatCompletionResponse →
    Except ChatError ChatCompletionResponse
  | .ok response _ => .ok response
  | .error exc _ => .error exc

def withoutMetrics : EStateM.Result ChatError (MeteredState σ τ) ChatCompletionResponse →
    EStateM.Result ChatError (ChatState σ τ) ChatCompletionResponse
  | .ok response state => .ok response state.chat
  | .error exc state => .error exc state.chat

/-- What the answers and the errors, the table and the metrics have become. -/
structure Observed where
  outcomes : List (Except ChatError ChatCompletionResponse)
  table : List RequestLogRow
  metrics : Metrics

def Observed.fresh : Observed := ⟨[], [], .fresh⟩

namespace Exchange
variable (e : Exchange σ τ)

def metered (shared : σ) (metrics : Metrics) :
    EStateM.Result ChatError (MeteredState σ τ) ChatCompletionResponse :=
  (meteredCompletions e.deps e.patterns e.settings e.policy e.request e.logged).run
    ⟨e.start shared, metrics⟩

/-- The background tasks of an answer that is sent write to the table. -/
def observe (shared : σ) (before : Observed) : Observed :=
  let result := e.metered shared before.metrics
  { outcomes := before.outcomes ++ [outcomeOf result]
    table := exitState (((writesRun e.sent (withoutMetrics result)).forM
      (writeRequestLog (insertLog e.accepted))).run before.table)
    metrics := (exitState result).metrics }

/-- The log of an answer becomes a row. -/
structure Kept : Prop where
  enabled : e.settings.requestLogEnabled = true
  sent : e.sent = true
  accepted : e.accepted.isSome = true
  named : e.logged.requestId ≠ ""

end Exchange

def observed : σ → Observed → List (Exchange σ τ) → Observed
  | _, before, [] => before
  | shared, before, e :: rest =>
      observed (exitState (e.metered shared before.metrics)).chat.world.shared
        (e.observe shared before) rest

theorem withoutMetrics_meteredOf (metrics : Metrics)
    (result : EStateM.Result ChatError (ChatState σ τ) ChatCompletionResponse) :
    withoutMetrics (meteredOf metrics result) = result := by
  cases result with
  | ok response chat => rfl
  | error exc chat => cases exc <;> rfl

theorem Exchange.metered_eq (e : Exchange σ τ) (shared : σ) (metrics : Metrics) :
    e.metered shared metrics = meteredOf metrics (e.result shared) :=
  run_meteredCompletions e.deps e.patterns e.settings e.policy e.request e.logged _ metrics

/-- The scope of a rejection. -/
def Metrics.ofError (outcome : Except ChatError ChatCompletionResponse) : Option String :=
  match outcome with
  | .error (.pipeline (.rateLimitExceeded _ _ scope)) => some scope
  | _ => none

theorem Metrics.failed_rejections (exc : Exc) (metrics : Metrics) :
    (metrics.failed exc).rateLimitExceededTotal =
      metrics.rateLimitExceededTotal.incAny (ofError (.error (.pipeline exc))) := by
  cases exc <;> rfl

/-- One exchange whose rows are kept: an answer with its row and its metrics, or an
error that leaves the table alone. -/
inductive Exchange.Observes (e : Exchange σ τ) (before : Observed) : Observed → Prop
  | answered (response : ChatCompletionResponse) (id : String) (createdAt : Datetime) :
      Observes e before
        { outcomes := before.outcomes ++ [.ok response]
          table := before.table ++ [(successLog e.policy e.logged
            (GuardrailRunner.run e.patterns e.request e.policy.guardrails) response).toRow id
              createdAt]
          metrics := before.metrics.answered response.metadata }
  | raised (exc : Exc) :
      Observes e before
        { before with
          outcomes := before.outcomes ++ [.error (.pipeline exc)]
          metrics := before.metrics.failed exc }
  | blocked (exc : ChatError) (notPipeline : ∀ inner, exc ≠ .pipeline inner) :
      Observes e before { before with outcomes := before.outcomes ++ [.error exc] }

theorem write_kept (table : List RequestLogRow) (log : RequestLog) (id : String)
    (createdAt : Datetime) (named : log.requestId ≠ "") :
    exitState (([log].forM (writeRequestLog (insertLog (some (id, createdAt))))).run table) =
      table ++ [log.toRow id createdAt] := by
  simp [writeRequestLog, insertLog, named, exitState]

theorem Exchange.observes (e : Exchange σ τ) (kept : e.Kept) (shared : σ) (before : Observed) :
    e.Observes before (e.observe shared before) := by
  obtain ⟨⟨id, createdAt⟩, inserted⟩ := Option.isSome_iff_exists.mp kept.accepted
  unfold Exchange.observe
  dsimp only
  rw [e.metered_eq, withoutMetrics_meteredOf, inserted, kept.sent]
  cases blocked : (GuardrailRunner.run e.patterns e.request e.policy.guardrails).isBlocked with
  | true =>
      rw [Exchange.result, chatCompletions_blocked e.deps e.patterns e.settings e.policy e.request
        e.logged _ kept.enabled blocked]
      exact .blocked _ fun inner eq => by cases eq
  | false =>
      cases ended : served e.deps e.settings e.policy e.request e.logged (e.start shared) with
      | ok response world =>
          rw [Exchange.result, chatCompletions_answered e.deps e.patterns e.settings e.policy
            e.request e.logged _ kept.enabled blocked response world ended]
          have writes : writesRun true (.ok response (ChatState.register
              { e.start shared with world := world } (successLog e.policy e.logged
                (GuardrailRunner.run e.patterns e.request e.policy.guardrails) response)) :
                EStateM.Result ChatError (ChatState σ τ) ChatCompletionResponse) =
              [successLog e.policy e.logged
                (GuardrailRunner.run e.patterns e.request e.policy.guardrails) response] := rfl
          rw [writes, write_kept before.table _ id createdAt kept.named]
          exact .answered response id createdAt
      | error exc world =>
          rw [Exchange.result, chatCompletions_failed e.deps e.patterns e.settings e.policy
            e.request e.logged _ kept.enabled blocked exc world ended]
          exact .raised exc

/-! ## The metrics tell what the table tells -/

namespace Metrics

def requestLabels (row : RequestLogRow) : Option (String × String × String) :=
  some (orUnknown row.provider, orUnknown row.model, row.status)

def fallbackLabels (row : RequestLogRow) : Option (String × String) :=
  if row.failoverTriggered ∧ row.failoverFromProvider.getD "" ≠ "" then
    some (row.failoverFromProvider.getD "", orUnknown row.provider)
  else none

/-- The seconds that are observed of a row under these labels. -/
def seconds (labels : String × String) (row : RequestLogRow) : Option ℚ :=
  if labels = (orUnknown row.provider, orUnknown row.model) ∧ 0 < row.latencyMs.getD 0 then
    some (row.latencyMs.getD 0 / 1000)
  else none

/-- The state a row tells of the provider's circuit. -/
def stateTold (provider : String) (row : RequestLogRow) : Option ℕ :=
  if orUnknown row.provider = provider ∧ row.circuitBreakerState.getD "" ≠ "" then
    some (stateNumber (row.circuitBreakerState.getD ""))
  else none

def isHit : Except ChatError ChatCompletionResponse → Bool
  | .ok response => response.metadata.cacheHit
  | .error _ => false

/-- Every series against the table and the outcomes. -/
structure Agrees (seen : Observed) : Prop where
  successes : ∀ row ∈ seen.table, row.status = "success"
  targets : ∀ row ∈ seen.table, row.failoverTriggered = true →
    row.failoverToProvider = row.provider
  requests : Counter.Counts requestLabels seen.metrics.gatewayRequestsTotal seen.table
  latencies : ∀ labels, Histogram.Shows latencyBuckets
    (seen.metrics.gatewayRequestLatencySeconds labels) (seen.table.filterMap (seconds labels))
  fallbacks : Counter.Counts fallbackLabels seen.metrics.fallbackRequestsTotal seen.table
  states : ∀ provider, seen.metrics.circuitBreakerState provider =
    seen.table.reverse.findSome? (stateTold provider)
  downgrades : seen.metrics.budgetDowngradeTotal =
    seen.table.countP (·.budgetAction = some "downgraded")
  hits : seen.metrics.semanticCacheHitsTotal = seen.outcomes.countP isHit
  lookups : seen.metrics.semanticCacheHitsTotal + seen.metrics.semanticCacheMissesTotal =
    seen.table.length
  rejections : Counter.Counts ofError seen.metrics.rateLimitExceededTotal seen.outcomes

theorem agrees_fresh : Agrees .fresh where
  successes := fun row member => by cases member
  targets := fun row member => by cases member
  requests := Counter.counts_fresh
  latencies := fun _ => Histogram.shows_fresh latencyBuckets
  fallbacks := Counter.counts_fresh
  states := fun _ => rfl
  downgrades := rfl
  hits := rfl
  lookups := rfl
  rejections := Counter.counts_fresh

section Row
variable (policy : ResolvedPolicy) (logged : LoggedRequest) (guardrailRun : GuardrailRunResult)
variable (response : ChatCompletionResponse) (id : String) (createdAt : Datetime)

theorem fallbackLabels_row :
    fallbackLabels ((successLog policy logged guardrailRun response).toRow id createdAt) =
      fallbackOf response.metadata := by
  change (if response.metadata.failoverTriggered = true ∧ ((if response.metadata.failoverTriggered
    then response.metadata.originalProvider else none).getD "") ≠ "" then _ else none) = _
  unfold fallbackOf
  cases triggered : response.metadata.failoverTriggered with
  | false => simp
  | true =>
      have original : ((successLog policy logged guardrailRun response).toRow id
          createdAt).failoverFromProvider = response.metadata.originalProvider := by
        change (if response.metadata.failoverTriggered then _ else none) = _
        rw [if_pos triggered]
      rw [original, if_pos rfl]
      rfl

theorem downgraded_row :
    ((successLog policy logged guardrailRun response).toRow id createdAt).budgetAction =
      some "downgraded" ↔ response.metadata.budgetDowngraded = true := by
  change some (if response.metadata.budgetDowngraded then "downgraded"
    else if response.metadata.budgetWarning then "warned" else "none") = some "downgraded" ↔ _
  split_ifs with downgraded warned
  · simp [downgraded]
  · simp [downgraded]
  · simp [downgraded]

end Row

theorem Agrees.answered {seen : Observed} (agrees : Agrees seen) (policy : ResolvedPolicy)
    (logged : LoggedRequest) (guardrailRun : GuardrailRunResult)
    (response : ChatCompletionResponse) (id : String) (createdAt : Datetime) :
    Agrees
      { outcomes := seen.outcomes ++ [.ok response]
        table := seen.table ++
          [(successLog policy logged guardrailRun response).toRow id createdAt]
        metrics := seen.metrics.answered response.metadata } where
  successes row member := by
    rcases List.mem_append.mp member with earlier | last
    · exact agrees.successes row earlier
    · cases List.mem_singleton.mp last
      rfl
  targets row member triggered := by
    rcases List.mem_append.mp member with earlier | last
    · exact agrees.targets row earlier triggered
    · cases List.mem_singleton.mp last
      exact if_pos triggered
  requests := by
    rw [answered_requests]
    exact agrees.requests.event
      ((successLog policy logged guardrailRun response).toRow id createdAt)
  latencies labels := by
    rw [answered_latencies, List.filterMap_append]
    have before := agrees.latencies labels
    by_cases observed : labels = (orUnknown response.metadata.selectedProvider,
        orUnknown response.metadata.selectedModel) ∧ 0 < response.metadata.latencyMs
    · have told : seconds labels
          ((successLog policy logged guardrailRun response).toRow id createdAt) =
            some (response.metadata.latencyMs / 1000) := if_pos observed
      rw [if_pos observed, List.filterMap_cons_some told]
      exact before.observe latencyBuckets_ascending _
    · have untold : seconds labels
          ((successLog policy logged guardrailRun response).toRow id createdAt) = none :=
        if_neg observed
      rw [if_neg observed, List.filterMap_cons_none untold, List.filterMap_nil, List.append_nil]
      exact before
  fallbacks := by
    rw [answered_fallbacks, ← fallbackLabels_row policy logged guardrailRun response id createdAt]
    exact agrees.fallbacks.event _
  states provider := by
    rw [answered_state, List.reverse_append, List.reverse_singleton, List.singleton_append,
      List.findSome?_cons, agrees.states provider]
    by_cases told : orUnknown response.metadata.selectedProvider = provider ∧
        response.metadata.circuitBreakerState.getD "" ≠ ""
    · have now : stateTold provider
          ((successLog policy logged guardrailRun response).toRow id createdAt) =
            some (stateNumber (response.metadata.circuitBreakerState.getD "")) := if_pos told
      rw [if_pos told, now]
    · have untold : stateTold provider
          ((successLog policy logged guardrailRun response).toRow id createdAt) = none :=
        if_neg told
      rw [if_neg told, untold]
  downgrades := by
    rw [answered_downgrades, agrees.downgrades, List.countP_append, List.countP_singleton]
    simp only [decide_eq_true_eq, downgraded_row]
  hits := by
    rw [answered_hits, agrees.hits, List.countP_append, List.countP_singleton]
    rfl
  lookups := by
    rw [answered_hits, answered_misses, List.length_append, List.length_singleton,
      ← agrees.lookups]
    split_ifs <;> omega
  rejections := by
    rw [answered_rejections]
    exact agrees.rejections.event (.ok response)

theorem Agrees.raised {seen : Observed} (agrees : Agrees seen) (exc : Exc) :
    Agrees
      { seen with
        outcomes := seen.outcomes ++ [.error (.pipeline exc)]
        metrics := seen.metrics.failed exc } := by
  obtain ⟨rejected, same⟩ : ∃ rejections, seen.metrics.failed exc =
      { seen.metrics with rateLimitExceededTotal := rejections } := by
    cases exc <;> exact ⟨_, rfl⟩
  have counted := agrees.rejections.event (.error (.pipeline exc))
  rw [← failed_rejections, same] at counted
  rw [same]
  exact { agrees with
    hits := by
      rw [List.countP_append, List.countP_singleton]
      exact agrees.hits
    rejections := counted }

theorem Agrees.blocked {seen : Observed} (agrees : Agrees seen) (exc : ChatError)
    (notPipeline : ∀ inner, exc ≠ .pipeline inner) :
    Agrees { seen with outcomes := seen.outcomes ++ [.error exc] } := by
  have counted := agrees.rejections.event (.error exc)
  have unlabelled : ofError (.error exc) = none := by
    cases exc with
    | guardrailBlocked guardrail triggered reason message => rfl
    | pipeline inner => exact absurd rfl (notPipeline inner)
  rw [unlabelled] at counted
  exact { agrees with
    hits := by
      rw [List.countP_append, List.countP_singleton]
      exact agrees.hits
    rejections := counted }

theorem Agrees.step {seen next : Observed} (agrees : Agrees seen) (e : Exchange σ τ)
    (observes : e.Observes seen next) : Agrees next := by
  cases observes with
  | answered response id createdAt => exact agrees.answered _ _ _ response id createdAt
  | raised exc => exact agrees.raised exc
  | blocked exc notPipeline => exact agrees.blocked exc notPipeline

theorem agrees_observed (exchanges : List (Exchange σ τ)) (kept : ∀ e ∈ exchanges, e.Kept)
    (shared : σ) {seen : Observed} (agrees : Agrees seen) :
    Agrees (observed shared seen exchanges) := by
  induction exchanges generalizing shared seen with
  | nil => exact agrees
  | cons e rest ih =>
      exact ih (fun other member => kept other (List.mem_cons_of_mem e member)) _
        (agrees.step e (e.observes (kept e List.mem_cons_self) shared seen))

end Metrics

end Run

/-! ## The reports over all organizations -/

section Reports
variable {organizations : List String} {table : List RequestLogRow}

/-- Each row is of one of the organizations. -/
def RowsOf (organizations : List String) (table : List RequestLogRow) : Prop :=
  ∀ row ∈ table, ∃ organizationId ∈ organizations, row.organizationId = some organizationId

theorem sum_organizations (distinct : organizations.Nodup) (known : RowsOf organizations table)
    (p : RequestLogRow → Bool) :
    (organizations.map fun organizationId =>
      (table.filter fun row => row.organizationId = some organizationId).countP p).sum =
      table.countP p := by
  have owned : ∀ row ∈ table, row.organizationId ∈ organizations.map some := by
    intro row member
    obtain ⟨organizationId, listed, own⟩ := known row member
    exact own ▸ List.mem_map_of_mem listed
  have sums := Grouping.sum_filters (fun row : RequestLogRow => row.organizationId)
    (fun row => if p row then 1 else 0)
    (distinct.map (Option.some_injective String)) table owned
  rw [countP_eq_sum, ← sums, List.map_map]
  refine congrArg List.sum (List.map_congr_left fun organizationId _ => ?_)
  exact countP_eq_sum p _

theorem applyCommonFilters_nothing (organizationId : String) :
    applyCommonFilters organizationId {} table =
      table.filter fun row => row.organizationId = some organizationId := by
  unfold applyCommonFilters
  exact List.filter_eq_self.mpr fun row _ => rfl

/-- The listing of the successes of one model. -/
theorem sum_listed (distinct : organizations.Nodup) (known : RowsOf organizations table)
    {provider model status : String} (providerNamed : provider ≠ "") (modelNamed : model ≠ "")
    (statusNamed : status ≠ "") :
    (organizations.map fun organizationId => (AnalyticsService.listRequests table organizationId
      { provider := some provider, model := some model, status := some status } 1
        AnalyticsService.maxPageSize).2).sum =
      table.countP fun row =>
        row.provider = some provider ∧ row.model = some model ∧ row.status = status := by
  rw [← sum_organizations distinct known]
  refine congrArg List.sum (List.map_congr_left fun organizationId _ => ?_)
  change (applyCommonFilters _ _ _).length = _
  rw [applyCommonFilters, ← List.countP_eq_length_filter]
  refine List.countP_congr fun row _ => ?_
  simp [wantedColumn, providerNamed, modelNamed, statusNamed, and_assoc]

theorem sum_filter_eq {α : Type} (p : α → Bool) (amount : α → ℕ) (elements : List α) :
    ((elements.filter p).map amount).sum =
      (elements.map fun a => if p a then amount a else 0).sum := by
  induction elements with
  | nil => rfl
  | cons a rest ih =>
      rw [List.filter_cons, List.map_cons, List.sum_cons, ← ih]
      split_ifs with kept
      · rw [List.map_cons, List.sum_cons]
      · rw [zero_add]

/-- The groups of certain keys count the rows that have them. -/
theorem sum_countedGroups_of {κ : Type} [DecidableEq κ] (key : RequestLogRow → κ)
    (found : List RequestLogRow) (p : κ → Bool) :
    (((AnalyticsService.countedGroups key found).filter fun group => p group.1).map
      Prod.snd).sum = found.countP fun row => p (key row) := by
  rw [sum_filter_eq, AnalyticsService.countedGroups, sum_sorted, List.map_map, countP_eq_sum]
  refine (congrArg List.sum ?_).trans
    (Grouping.sum_groups key (fun row => if p (key row) then 1 else 0) found)
  refine List.map_congr_left fun group member => ?_
  obtain ⟨value, -, rfl⟩ := List.mem_map.mp member
  change (if p value then _ else 0) = _
  have own : ∀ row ∈ found.filter fun row => key row = value, key row = value :=
    fun row listed => by simpa using (List.mem_filter.mp listed).2
  rw [← countP_eq_sum]
  split_ifs with wanted
  · exact (List.countP_eq_length.mpr fun row listed => by rw [own row listed, wanted]).symm
  · exact (List.countP_eq_zero.mpr fun row listed => by rw [own row listed]; exact wanted).symm

theorem sum_fallbacks (distinct : organizations.Nodup) (known : RowsOf organizations table)
    (first second : String) :
    (organizations.map fun organizationId =>
      (((AnalyticsService.aggregateFallbacks table organizationId {}).filter fun item =>
        item.fromProvider = some first ∧ item.toProvider = some second).map
          FallbackGroupItem.count).sum).sum =
      table.countP fun row => row.failoverTriggered ∧ row.failoverFromProvider = some first ∧
        row.failoverToProvider = some second := by
  rw [← sum_organizations distinct known]
  refine congrArg List.sum (List.map_congr_left fun organizationId _ => ?_)
  rw [AnalyticsService.aggregateFallbacks, List.filter_map, List.map_map,
    applyCommonFilters_nothing]
  refine (sum_countedGroups_of _ _ fun key : Option String × Option String =>
    decide (key.1 = some first ∧ key.2 = some second)).trans ?_
  rw [List.countP_filter]
  refine List.countP_congr fun row _ => ?_
  simp [and_comm]

theorem sum_downgraded (distinct : organizations.Nodup) (known : RowsOf organizations table) :
    (organizations.map fun organizationId =>
      (((AnalyticsService.aggregateBudgetEvents table organizationId {} none).filter fun item =>
        item.budgetAction = some "downgraded").map BudgetEventItem.eventCount).sum).sum =
      table.countP (·.budgetAction = some "downgraded") := by
  rw [← sum_organizations distinct known]
  refine congrArg List.sum (List.map_congr_left fun organizationId _ => ?_)
  rw [AnalyticsService.aggregateBudgetEvents, List.filter_map, List.map_map,
    applyCommonFilters_nothing]
  refine (sum_countedGroups_of _ _ fun key : Option String × Option String =>
    decide (key.1 = some "downgraded")).trans ?_
  rw [List.countP_filter]
  refine List.countP_congr fun row _ => ?_
  simp only [wantedColumn, Option.map_none, Option.all_none, Bool.and_true, Bool.and_eq_true,
    decide_eq_true_eq]
  constructor
  · rintro ⟨downgraded, -⟩
    exact downgraded
  · intro downgraded
    rw [downgraded]
    decide

theorem sum_series (distinct : organizations.Nodup) (known : RowsOf organizations table)
    (bucket : String) :
    (organizations.map fun organizationId =>
      ((AnalyticsService.timeseries table organizationId {} bucket).map
        TimeseriesBucket.successCount).sum).sum = table.countP (·.status = "success") := by
  rw [← sum_organizations distinct known]
  refine congrArg List.sum (List.map_congr_left fun organizationId _ => ?_)
  rw [AnalyticsService.sum_successCount, applyCommonFilters_nothing]

end Reports

/-! ## Two books -/

section Books
variable {σ τ : Type}

theorem rowsOf_observed {organizations : List String} (exchanges : List (Exchange σ τ))
    (kept : ∀ e ∈ exchanges, e.Kept)
    (known : ∀ e ∈ exchanges, e.logged.context.organizationId ∈ organizations) (shared : σ)
    {seen : Observed} (rows : RowsOf organizations seen.table) :
    RowsOf organizations (observed shared seen exchanges).table := by
  induction exchanges generalizing shared seen with
  | nil => exact rows
  | cons e rest ih =>
      refine ih (fun other member => kept other (List.mem_cons_of_mem e member))
        (fun other member => known other (List.mem_cons_of_mem e member)) _ ?_
      have observes := e.observes (kept e List.mem_cons_self) shared seen
      generalize e.observe shared seen = next at observes
      cases observes with
      | answered response id createdAt =>
          intro row member
          rcases List.mem_append.mp member with earlier | last
          · exact rows row earlier
          · cases List.mem_singleton.mp last
            exact ⟨_, known e List.mem_cons_self, rfl⟩
      | raised exc => exact rows
      | blocked exc notPipeline => exact rows

/-- A label that is not what stands for no label. -/
def Labelled (label : String) : Prop := label ≠ "" ∧ label ≠ "unknown"

instance (label : String) : Decidable (Labelled label) := inferInstanceAs (Decidable (_ ∧ _))

theorem orUnknown_eq_iff {column : Option String} {label : String} (named : Labelled label) :
    Metrics.orUnknown column = label ↔ column = some label := by
  unfold Metrics.orUnknown
  cases column with
  | none => simp [Ne.symm named.2]
  | some value =>
      by_cases empty : value = ""
      · subst empty
        simp [Ne.symm named.1, Ne.symm named.2]
      · simp [empty]

theorem fallbackLabels_eq_iff {row : RequestLogRow} {fromProvider toProvider : String}
    (fromNamed : fromProvider ≠ "") (toNamed : Labelled toProvider) :
    Metrics.fallbackLabels row = some (fromProvider, toProvider) ↔
      row.failoverTriggered = true ∧ row.failoverFromProvider = some fromProvider ∧
        row.provider = some toProvider := by
  rw [← orUnknown_eq_iff toNamed]
  unfold Metrics.fallbackLabels
  split_ifs with counted
  · obtain ⟨triggered, told⟩ := counted
    cases original : row.failoverFromProvider with
    | none => exact absurd (by rw [original]; rfl) told
    | some value => simp [triggered]
  · simp only [false_iff, not_and]
    intro triggered original
    exact absurd ⟨triggered, by rw [original]; exact fromNamed⟩ counted

/-- The metrics tell what the analytics of all the organizations tell, but for the
rejections, which no row is about. -/
structure MetricsAgree (organizations : List String) (seen : Observed) : Prop where
  /-- Of each model, the answers that are listed. -/
  requests : ∀ provider model, Labelled provider → Labelled model →
    seen.metrics.gatewayRequestsTotal.value (provider, model, "success") =
      (organizations.map fun organizationId =>
        (AnalyticsService.listRequests seen.table organizationId
          { provider := some provider, model := some model, status := some "success" } 1
            AnalyticsService.maxPageSize).2).sum
  /-- In all, the answers in the time series. -/
  total : ∀ bucket, seen.metrics.gatewayRequestsTotal.total =
    (organizations.map fun organizationId =>
      ((AnalyticsService.timeseries seen.table organizationId {} bucket).map
        TimeseriesBucket.successCount).sum).sum
  lookups : seen.metrics.semanticCacheHitsTotal + seen.metrics.semanticCacheMissesTotal =
    seen.metrics.gatewayRequestsTotal.total
  fallbacks : ∀ fromProvider toProvider, Labelled fromProvider → Labelled toProvider →
    seen.metrics.fallbackRequestsTotal.value (fromProvider, toProvider) =
      (organizations.map fun organizationId =>
        (((AnalyticsService.aggregateFallbacks seen.table organizationId {}).filter fun item =>
          item.fromProvider = some fromProvider ∧ item.toProvider = some toProvider).map
            FallbackGroupItem.count).sum).sum
  downgrades : seen.metrics.budgetDowngradeTotal =
    (organizations.map fun organizationId =>
      (((AnalyticsService.aggregateBudgetEvents seen.table organizationId {} none).filter
        fun item => item.budgetAction = some "downgraded").map BudgetEventItem.eventCount).sum).sum
  latencies : ∀ labels, Histogram.Shows latencyBuckets
    (seen.metrics.gatewayRequestLatencySeconds labels)
      (seen.table.filterMap (Metrics.seconds labels))
  /-- The state of a circuit is the one its last row tells. -/
  states : ∀ provider, seen.metrics.circuitBreakerState provider =
    seen.table.reverse.findSome? (Metrics.stateTold provider)
  rejections : ∀ scope, seen.metrics.rateLimitExceededTotal.value scope =
    seen.outcomes.countP fun outcome => Metrics.ofError outcome = some scope
  successes : ∀ row ∈ seen.table, row.status = "success"

/-- The endpoint ends as it does without metrics; and over any requests of any
organizations whose rows are kept, the metrics agree with the analytics. -/
theorem metrics_agree (exchanges : List (Exchange σ τ)) (kept : ∀ e ∈ exchanges, e.Kept)
    (shared : σ) (organizations : List String) (distinct : organizations.Nodup)
    (known : ∀ e ∈ exchanges, e.logged.context.organizationId ∈ organizations) :
    (∀ e ∈ exchanges, ∀ state metrics,
      withoutMetrics (e.metered state metrics) = e.result state) ∧
    MetricsAgree organizations (observed shared .fresh exchanges) := by
  have agrees := Metrics.agrees_observed exchanges kept shared Metrics.agrees_fresh
  have rows : RowsOf organizations (observed shared .fresh exchanges).table :=
    rowsOf_observed exchanges kept known shared fun row member => by cases member
  generalize observed shared .fresh exchanges = seen at agrees rows ⊢
  have every : seen.table.countP (·.status = "success") = seen.table.length :=
    List.countP_eq_length.mpr fun row member => decide_eq_true (agrees.successes row member)
  have total : seen.metrics.gatewayRequestsTotal.total = seen.table.length := by
    rw [agrees.requests.total]
    exact List.countP_eq_length.mpr fun row _ => rfl
  refine ⟨fun e _ state metrics => by rw [e.metered_eq, withoutMetrics_meteredOf], ?_⟩
  constructor
  case requests =>
    intro provider model providerNamed modelNamed
    rw [agrees.requests.value]
    refine Eq.trans ?_
      (sum_listed distinct rows providerNamed.1 modelNamed.1 (by decide : "success" ≠ "")).symm
    refine List.countP_congr fun row _ => ?_
    simp only [Metrics.requestLabels, decide_eq_true_eq, Option.some.injEq, Prod.mk.injEq,
      orUnknown_eq_iff providerNamed, orUnknown_eq_iff modelNamed]
  case total =>
    intro bucket
    rw [total, ← every]
    exact (sum_series distinct rows bucket).symm
  case lookups =>
    rw [total]
    exact agrees.lookups
  case fallbacks =>
    intro fromProvider toProvider fromNamed toNamed
    rw [agrees.fallbacks.value]
    refine Eq.trans ?_ (sum_fallbacks distinct rows fromProvider toProvider).symm
    refine List.countP_congr fun row member => ?_
    simp only [decide_eq_true_eq, fallbackLabels_eq_iff fromNamed.1 toNamed]
    refine and_congr_right fun triggered => ?_
    rw [agrees.targets row member triggered]
  case downgrades =>
    rw [agrees.downgrades]
    exact (sum_downgraded distinct rows).symm
  case latencies => exact agrees.latencies
  case states => exact agrees.states
  case rejections => exact agrees.rejections.value
  case successes => exact agrees.successes

end Books

/-! ## Two greetings -/

theorem greeting_counted :
    (∀ e ∈ [greetingExchange, greetingExchange], ∀ state metrics,
      withoutMetrics (e.metered state metrics) = e.result state) ∧
    MetricsAgree ["org-1"]
      (observed unusedWorld.shared .fresh [greetingExchange, greetingExchange]) := by
  refine metrics_agree [greetingExchange, greetingExchange] (fun e member => ?_)
    unusedWorld.shared ["org-1"] (by decide) fun e member => ?_
  · rcases List.mem_cons.mp member with rfl | member
    · exact ⟨rfl, rfl, rfl, by decide⟩
    · cases List.mem_singleton.mp member
      exact ⟨rfl, rfl, rfl, by decide⟩
  · rcases List.mem_cons.mp member with rfl | member
    · decide
    · cases List.mem_singleton.mp member
      decide

/-- The two answers name no provider and no model. -/
example : (observed unusedWorld.shared .fresh
    [greetingExchange, greetingExchange]).metrics.gatewayRequestsTotal.children =
      [(("unknown", "unknown", "success"), 2)] := by decide +kernel

end CortexGateway
