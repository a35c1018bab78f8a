import CortexGateway.Api.Logging
import CortexGateway.Observability.Totals
import CortexGateway.Policy.Input
import CortexGateway.SemanticCache.Hits

/-! # What is charged is what is reported

The budget service is told the cost of an answer once; the answer, the row that
is logged for it and the reports over the rows all say the same, rounded to
eight digits, for the same team and at the prices of the provider and model they
name. -/
set_option autoImplicit false
namespace CortexGateway
open Budgeting Exits

/-- What is charged: the team, and the actual cost. -/
def Call.charge : Call → Option (String × ℚ)
  | .reconcile teamId _ actualCost => some (teamId, actualCost)
  | _ => none

section Charges
variable {σ τ : Type}

def World.charges (world : World σ τ) : List (String × ℚ) := world.calls.filterMap Call.charge

/-- The charge for an answer, to the team and at the prices of the provider and the
model it names, where it names them. -/
structure ChargedFor (cost : Option CostClient) (teamId : String)
    (response : ChatCompletionResponse) (charge : String × ℚ) : Prop where
  team : charge.1 = teamId
  priced : ∃ calculator ∈ cost, ∃ provider model estimatedCost,
    calculator.calculateActualCost provider model (some response.usage) estimatedCost =
        .ok charge.2 ∧
      (response.metadata.selectedProvider.getD "" ≠ "" →
        response.metadata.selectedProvider = some provider) ∧
        (response.metadata.selectedModel.getD "" ≠ "" →
          response.metadata.selectedModel = some model)

/-- What was charged for an answer, and what it says. -/
structure AnswerCharged (cost : Option CostClient) (teamId : String)
    (response : ChatCompletionResponse) (charges : List (String × ℚ)) : Prop where
  atMostOne : charges.length ≤ 1
  each : ∀ charge ∈ charges, ChargedFor cost teamId response charge
  stated : response.metadata.actualCost.getD 0 = roundTo (charges.map Prod.snd).sum 8

/-- Cached answers state that they cost nothing. -/
def FreeHits (svc : Collaborators σ τ) : Prop :=
  ∀ lookup ∈ svc.semanticCache, ∀ request context shared hit after,
    (lookup request context).run shared = .ok (some hit) after → hit.metadata.actualCost = some 0

/-- What is read back is put together by `cachedResponse`. -/
theorem deserialized_eq {κ : Type} (raw : SemanticCache.EntryHash κ) (requestId : String)
    (fresh : SemanticCache.Fresh) (found : ChatCompletionResponse)
    (returned : SemanticCache.deserializeResponse raw requestId fresh = .ok found) :
    ∃ provider model choices usage,
      found = SemanticCache.cachedResponse provider model choices usage requestId fresh := by
  obtain ⟨text, -, returned⟩ := bind_eq_ok_iff.mp returned
  obtain ⟨data, -, returned⟩ := bind_eq_ok_iff.mp returned
  obtain ⟨items, -, returned⟩ := bind_eq_ok_iff.mp returned
  obtain ⟨values, -, returned⟩ := bind_eq_ok_iff.mp returned
  obtain ⟨choices, -, returned⟩ := bind_eq_ok_iff.mp returned
  obtain ⟨counts, -, returned⟩ := bind_eq_ok_iff.mp returned
  obtain ⟨usage, -, returned⟩ := bind_eq_ok_iff.mp returned
  obtain ⟨named, -, returned⟩ := bind_eq_ok_iff.mp returned
  obtain ⟨provider, -, returned⟩ := bind_eq_ok_iff.mp returned
  obtain ⟨modelled, -, returned⟩ := bind_eq_ok_iff.mp returned
  obtain ⟨model, -, returned⟩ := bind_eq_ok_iff.mp returned
  cases returned
  exact ⟨provider, model, choices, usage, rfl⟩

/-- The gateway's own cache answers for free. -/
theorem SemanticCache.lookup_free {κ : Type} [DecidableEq κ] (cache : SemanticCache.Cache κ)
    (reads : Option (SemanticCache.RedisReads κ)) (request : ChatCompletionRequest)
    (context : Attributes) (fresh : SemanticCache.Fresh) (hit : ChatCompletionResponse)
    (returned : cache.lookup reads request context fresh = .ok (some hit)) :
    hit.metadata.actualCost = some 0 := by
  obtain ⟨raw, reconstructed⟩ :=
    SemanticCache.reconstructed_of_lookup cache request fresh reads context hit returned
  obtain ⟨requestId, -, deserialized⟩ := bind_eq_ok_iff.mp reconstructed
  obtain ⟨provider, model, choices, usage, rfl⟩ :=
    deserialized_eq raw _ fresh hit deserialized
  rfl

theorem roundTo_zero (digits : ℕ) : roundTo 0 digits = 0 := by
  have below : roundHalfEven 0 = 0 := by decide +kernel
  rw [roundTo, zero_mul, below, Int.cast_zero, zero_div]

/-- Nothing was charged, and nothing is stated. -/
theorem answerCharged_free {cost : Option CostClient} {teamId : String}
    {response : ChatCompletionResponse} (free : response.metadata.actualCost.getD 0 = 0) :
    AnswerCharged cost teamId response [] where
  atMostOne := Nat.zero_le 1
  each := fun _ member => by cases member
  stated := by rw [free, List.map_nil, List.sum_nil, roundTo_zero]

/-! ## One request -/

namespace ChatService
variable (svc : Collaborators σ τ) (settings : Settings) (policy : ResolvedPolicy)
variable (request : ChatCompletionRequest) (requestId : String) (context : RequestContext)

theorem undisturbed_charges (charges : List (String × ℚ)) :
    Undisturbed fun world : World σ τ => world.charges = charges :=
  ⟨fun _ _ same => same, fun _ same => same⟩

theorem awaitSession_charges {α : Type} (charges : List (String × ℚ))
    (program : EStateM Exc (σ × τ) α) :
    Keeps (fun world : World σ τ => world.charges = charges) (fun _ => True)
      (awaitSession program) :=
  keeps_awaitSession (fun _ _ _ same => same) program fun _ _ _ _ => trivial

theorem ends_note {call : Call} {world : World σ τ} {returns : Unit → World σ τ → Prop}
    {raises : Exc → World σ τ → Prop}
    (noted : returns () { world with calls := call :: world.calls }) :
    Ends (note call : ServiceM σ τ Unit) world returns raises := noted

/-- An answer before the reservation is what the cache has returned, but for the
request id and the rate limit. -/
theorem admission_ends (free : FreeHits svc) (present : Option RequestContext)
    (world : World σ τ) :
    Ends (admission svc settings policy request requestId present) world
      (fun outcome _ => ∀ cached, outcome = .inl cached → cached.metadata.actualCost = some 0)
      fun _ _ => True := by
  unfold admission
  refine ends_bind (ends_any _ _ (fun remaining limited => ?_) fun _ _ => trivial)
  refine ends_bind (ends_any _ _ (fun target resolved => ?_) fun _ _ => trivial)
  have looked : Ends (lookupCache svc policy request present) resolved
      (fun found _ => ∀ hit ∈ found, hit.metadata.actualCost = some 0) fun _ _ => True := by
    unfold lookupCache
    split
    · rename_i lookup own given _
      refine ends_bind (ends_any _ _ (fun _ noted => ?_) fun _ _ => trivial)
      rw [ends_iff]
      refine ⟨fun found after returned hit held => ?_, fun _ _ _ => trivial⟩
      simp only [awaitShared, EStateM.run] at returned
      split at returned
      · rename_i answered
        cases returned
        rw [Option.mem_def] at held
        subst held
        exact free lookup given request own _ hit _ answered
      · cases returned
    · intro hit held
      cases held
  refine ends_bind (looked.mono ?_ fun _ _ _ => trivial)
  intro found after hits
  cases found with
  | some hit =>
      rintro cached ⟨⟩
      exact hits hit rfl
  | none =>
      dsimp only
      split
      · intro cached answered
        cases answered
      · intro cached answered
        cases answered

theorem prepare_free (free : FreeHits svc) (present : Option RequestContext)
    (world : World σ τ) :
    Ends (prepare svc settings policy request requestId present) world
      (fun outcome _ => ∀ cached, outcome = .inl cached → cached.metadata.actualCost = some 0)
      fun _ _ => True := by
  unfold prepare
  refine ends_bind ((admission_ends svc settings policy request requestId free present world).mono
    ?_ fun _ _ _ => trivial)
  intro outcome after cached
  cases outcome with
  | inl hit =>
      rintro found ⟨⟩
      exact cached hit rfl
  | inr admitted =>
      refine ends_bind (ends_any _ _ (fun quote quoted => ?_) fun _ _ => trivial)
      intro found answered
      cases answered

/-- The provider or model that is charged is the one the answer names, if it names one. -/
theorem orElse_named {first : Option String} {second : String} (named : first.getD "" ≠ "") :
    first = some (orElse first second) := by
  cases first with
  | none => exact absurd rfl named
  | some name => rw [orElse, if_neg named, Option.getD_some]

/-- What is charged is what `settle` hands on. -/
theorem settle_charges (quote : Quote) (response : ChatCompletionResponse) (world : World σ τ) :
    Ends (settle svc settings (some context) quote response) world
      (fun settled after => ∃ charges, after.charges = charges ++ world.charges ∧
        charges.length ≤ 1 ∧
        (∀ charge ∈ charges, ChargedFor svc.costCalculator context.teamId response charge) ∧
          settled.1 = (charges.map Prod.snd).sum)
      fun _ _ => True := by
  have nothing : ∃ charges, world.charges = charges ++ world.charges ∧ charges.length ≤ 1 ∧
      (∀ charge ∈ charges, ChargedFor svc.costCalculator context.teamId response charge) ∧
        (0 : ℚ) = (charges.map Prod.snd).sum :=
    ⟨[], rfl, Nat.zero_le 1, (fun _ member => by cases member), rfl⟩
  unfold settle
  split
  · rename_i present budgetService cost own given calculator
    cases own
    by_cases nonneg : 0 ≤ quote.estimatedCost
    · rw [if_pos nonneg]
      cases known : actualCost cost quote response with
      | error exc => exact ends_bind trivial
      | ok amount =>
          refine ends_bind (ends_pure ?_)
          refine ends_bind (ends_note ?_)
          have noted : World.charges { world with
              calls := .reconcile context.teamId quote.estimatedCost amount :: world.calls } =
              (context.teamId, amount) :: world.charges := rfl
          refine ends_bind ((awaitSession_charges _ _ _ noted).mono ?_ fun _ _ _ => trivial)
          intro reconciled after charged
          refine ends_pure ⟨[(context.teamId, amount)], charged, le_rfl, ?_, by simp⟩
          intro charge member
          rw [List.mem_singleton.mp member]
          exact ⟨rfl, cost, calculator, _, _, _, known, orElse_named, orElse_named⟩
    · rw [if_neg nonneg]
      exact nothing
  · exact nothing

/-- The metadata state what was charged; usage, provider and model stay. -/
theorem attachMetadata_charged {cost : Option CostClient} {teamId : String}
    (admitted : Admitted) (reservation : Reservation) (remainingBudget : Option ℚ)
    (response : ChatCompletionResponse) (charges : List (String × ℚ))
    (atMostOne : charges.length ≤ 1)
    (each : ∀ charge ∈ charges, ChargedFor cost teamId response charge) :
    AnswerCharged cost teamId (attachMetadata admitted reservation (charges.map Prod.snd).sum
      remainingBudget response) charges := by
  have stated : (if (charges.map Prod.snd).sum = 0 then none
      else some (roundTo (charges.map Prod.snd).sum 8)).getD 0 =
        roundTo (charges.map Prod.snd).sum 8 := by
    split_ifs with zero
    · rw [zero, roundTo_zero, Option.getD_none]
    · rfl
  unfold attachMetadata
  cases admitted.assignment with
  | some assignment => exact ⟨atMostOne, fun charge member => ⟨(each charge member).team,
      (each charge member).priced⟩, stated⟩
  | none => exact ⟨atMostOne, fun charge member => ⟨(each charge member).team,
      (each charge member).priced⟩, stated⟩

theorem serve_charges (admitted : Admitted) (reservation : Reservation) (world : World σ τ) :
    Ends (serve svc settings policy request (some context) admitted reservation) world
      (fun response after => ∃ charges, after.charges = charges ++ world.charges ∧
        AnswerCharged svc.costCalculator context.teamId response charges)
      fun _ _ => True := by
  unfold serve
  have executes : Keeps (fun after : World σ τ => after.charges = world.charges) (fun _ => True)
      (executeProvider svc policy request (some context) reservation.quote) :=
    executeProvider_keeps svc policy request (some context) _ (undisturbed_charges _)
      (collaborators_obey svc) (fun _ _ _ same => same) (fun _ _ _ same => same)
      fun _ _ _ _ => awaitSession_charges _ _
  refine ends_bind ((executes world rfl).mono ?_ fun _ _ _ => trivial)
  intro response answered same
  refine ends_bind ((settle_charges svc settings context reservation.quote response answered).mono
    ?_ fun _ _ _ => trivial)
  rintro ⟨actualCost, remainingBudget⟩ settled ⟨charges, grown, atMostOne, each, stated⟩
  dsimp only at stated
  subst stated
  refine ends_bind ?_
  have schedules : Keeps (fun after : World σ τ => after.charges = charges ++ world.charges)
      (fun _ => True) (scheduleStore svc (some context)
        (attachMetadata admitted reservation (charges.map Prod.snd).sum remainingBudget
          response)) :=
    scheduleStore_keeps svc (some context) _ fun _ same => same
  refine (schedules settled (same ▸ grown)).mono ?_ fun _ _ _ => trivial
  intro _ after scheduled
  exact ⟨charges, scheduled,
    attachMetadata_charged admitted reservation remainingBudget response charges atMostOne each⟩

/-- Whatever its collaborators do, a request that is answered is charged what its
answer states. -/
theorem complete_charges (free : FreeHits svc) (world : World σ τ) :
    Ends (complete svc settings policy request requestId (some context)) world
      (fun response after => ∃ charges, after.charges = charges ++ world.charges ∧
        AnswerCharged svc.costCalculator context.teamId response charges)
      fun _ _ => True := by
  unfold complete
  have prepares : Keeps (fun after : World σ τ => after.charges = world.charges) (fun _ => True)
      (prepare svc settings policy request requestId (some context)) :=
    prepare_keeps svc settings policy request requestId (some context) (undisturbed_charges _)
      (collaborators_obey svc) (fun _ _ _ => awaitSession_charges _ _) fun _ _ _ _ => trivial
  have prepared := prepares world rfl
  have cached := prepare_free svc settings policy request requestId free (some context) world
  apply ends_bind
  rw [ends_iff] at prepared cached ⊢
  refine ⟨fun outcome quoted returned => ?_, fun _ _ _ => trivial⟩
  have same := prepared.1 outcome quoted returned
  cases outcome with
  | inl hit =>
      refine ends_pure ⟨[], same, answerCharged_free ?_⟩
      rw [cached.1 _ quoted returned hit rfl, Option.getD_some]
  | inr prepared =>
      obtain ⟨admitted, quote⟩ := prepared
      have reserves : Keeps (fun after : World σ τ => after.charges = world.charges)
          (fun _ => True) (reserve svc settings (some context) quote) :=
        reserve_keeps svc settings (some context) quote (fun _ _ _ same => same)
          fun _ _ _ _ _ => awaitSession_charges _ _
      refine ends_bind ((reserves quoted same).mono ?_ fun _ _ _ => trivial)
      intro reservation reserved unchanged
      have served := serve_charges svc settings policy request context admitted reservation reserved
      rw [unchanged] at served
      exact served

end ChatService
end Charges

/-! ## Rounding -/

theorem abs_roundHalfEven_sub_le (x : ℚ) : |(roundHalfEven x : ℚ) - x| ≤ 1 / 2 := by
  have below := Int.floor_le x
  have above := Int.lt_floor_add_one x
  have cases : roundHalfEven x = ⌊x⌋ ∧ x - ⌊x⌋ ≤ 1 / 2 ∨
      roundHalfEven x = ⌊x⌋ + 1 ∧ 1 / 2 ≤ x - ⌊x⌋ := by
    simp only [roundHalfEven]
    split_ifs with low high even
    · exact .inl ⟨rfl, low.le⟩
    · exact .inr ⟨rfl, high.le⟩
    · exact .inl ⟨rfl, not_lt.mp high⟩
    · exact .inr ⟨rfl, not_lt.mp low⟩
  rw [abs_le]
  rcases cases with ⟨down, half⟩ | ⟨up, half⟩
  · rw [down]
    constructor <;> linarith
  · rw [up]
    push_cast
    constructor <;> linarith

theorem abs_roundTo_sub_le (x : ℚ) (digits : ℕ) :
    |roundTo x digits - x| ≤ 1 / (2 * 10 ^ digits) := by
  have scale : (0 : ℚ) < 10 ^ digits := by positivity
  have scaled : roundTo x digits - x =
      ((roundHalfEven (x * 10 ^ digits) : ℚ) - x * 10 ^ digits) / 10 ^ digits := by
    rw [roundTo, sub_div, mul_div_cancel_right₀ _ scale.ne']
  rw [scaled, abs_div, abs_of_pos scale, ← div_div]
  exact div_le_div_of_nonneg_right (abs_roundHalfEven_sub_le _) scale.le

/-! ## The rows -/

/-- The columns that the analytics read of the row of a log. -/
def RequestLog.toRow (log : RequestLog) (id : String) (createdAt : Datetime) : RequestLogRow :=
  { id := id
    requestId := log.requestId
    teamId := some log.teamId
    organizationId := some log.organizationId
    provider := log.provider
    model := log.model
    routingMode := log.routingMode.map RoutingMode.value
    status := log.status
    httpStatusCode := some log.httpStatusCode
    latencyMs := log.latencyMs
    promptTokens := log.promptTokens
    completionTokens := log.completionTokens
    totalTokens := log.totalTokens
    estimatedCost := log.estimatedCost
    actualCost := log.actualCost
    retryCount := log.retryCount
    failoverTriggered := log.failoverTriggered
    failoverFromProvider := log.failoverFromProvider
    failoverToProvider := log.failoverToProvider
    circuitBreakerState := log.circuitBreakerState
    budgetPolicyApplied := log.budgetPolicyApplied.map BudgetPolicy.value
    budgetAction := log.budgetAction
    errorCode := log.errorCode
    traceId := log.traceId
    createdAt := createdAt }

/-- The row is added with this id and time, or the database fails. -/
def insertLog (accepted : Option (String × Datetime)) (log : RequestLog) :
    EStateM Exc (List RequestLogRow) Unit :=
  match accepted with
  | some (id, createdAt) => modify (· ++ [log.toRow id createdAt])
  | none => throw (.otherException "OperationalError")

/-- A request to the endpoint, its session, whether its answer is sent, and what the
database makes of its row. -/
structure Exchange (σ τ : Type) where
  deps : ChatDependencies σ τ
  patterns : GuardrailPatterns
  settings : ChatSettings
  policy : ResolvedPolicy
  request : ChatCompletionRequest
  logged : LoggedRequest
  session : τ
  sent : Bool
  accepted : Option (String × Datetime)

/-- A row, with what was charged for the answer it is about. -/
structure Entry where
  row : RequestLogRow
  charges : List (String × ℚ)

def Entry.charged (entry : Entry) : ℚ := (entry.charges.map Prod.snd).sum

section Exchanges
variable {σ τ : Type}

namespace Exchange
variable (e : Exchange σ τ) (shared : σ)

def start : ChatState σ τ := ⟨⟨shared, e.session, []⟩, []⟩

def result : EStateM.Result ChatError (ChatState σ τ) ChatCompletionResponse :=
  (chatCompletions e.deps e.patterns e.settings e.policy e.request e.logged).run (e.start shared)

def rows : List RequestLogRow :=
  exitState ((((writesRun e.sent (e.result shared)).forM
    (writeRequestLog (insertLog e.accepted)))).run [])

def entries : List Entry :=
  (e.rows shared).map fun row => ⟨row, (exitState (e.result shared)).world.charges⟩

end Exchange

/-- The rows of one exchange after the other. -/
def bookOf : σ → List (Exchange σ τ) → List Entry
  | _, [] => []
  | shared, e :: rest =>
      e.entries shared ++ bookOf (exitState (e.result shared)).world.shared rest

/-- The row states what was charged, and for what. -/
structure RowCharged (cost : CostClient) (row : RequestLogRow) (charges : List (String × ℚ)) :
    Prop where
  atMostOne : charges.length ≤ 1
  team : ∀ charge ∈ charges, row.teamId = some charge.1
  priced : ∀ charge ∈ charges, ∃ usage provider model estimatedCost,
    cost.calculateActualCost provider model (some usage) estimatedCost = .ok charge.2 ∧
      (row.provider.getD "" ≠ "" → row.provider = some provider) ∧
      (row.model.getD "" ≠ "" → row.model = some model) ∧
        usage = ⟨row.promptTokens, row.completionTokens, row.totalTokens⟩
  stated : row.actualCost.getD 0 = roundTo (charges.map Prod.snd).sum 8

theorem run_addLogTask_eq (settings : ChatSettings) (state : ChatState σ τ) (log : RequestLog) :
    (addLogTask settings log : ChatM σ τ Unit).run state =
      .ok () (if settings.requestLogEnabled then state.register log else state) := by
  unfold addLogTask
  split_ifs <;> rfl

/-- An answered request has registered one row, or logs are switched off. -/
theorem answered_of_result (e : Exchange σ τ) (shared : σ) {response : ChatCompletionResponse}
    {state : ChatState σ τ} (returned : e.result shared = .ok response state) :
    served e.deps e.settings e.policy e.request e.logged (e.start shared) =
        .ok response state.world ∧
      (state.backgroundTasks = [] ∨ state.backgroundTasks = [successLog e.policy e.logged
        (GuardrailRunner.run e.patterns e.request e.policy.guardrails) response]) := by
  unfold Exchange.result chatCompletions at returned
  dsimp only at returned
  split_ifs at returned with blocked
  · rw [EStateM.run_bind, run_addLogTask_eq] at returned
    cases returned
  rw [EStateM.run_bind, run_tryCatch] at returned
  cases ended : served e.deps e.settings e.policy e.request e.logged (e.start shared) with
  | ok answer world =>
      have awaited : (awaitComplete (ChatService.complete e.deps.collaborators
          e.settings.toSettings e.policy e.request e.logged.requestId
            (some e.logged.context))).run (e.start shared) = .ok answer ⟨world, []⟩ := by
        unfold served at ended
        simp only [awaitComplete, EStateM.run] at ended ⊢
        rw [ended]
        rfl
      rw [awaited] at returned
      dsimp only at returned
      rw [EStateM.run_bind, run_addLogTask_eq] at returned
      cases returned
      split_ifs
      · exact ⟨rfl, .inr rfl⟩
      · exact ⟨rfl, .inl rfl⟩
  | error exc world =>
      have awaited : (awaitComplete (ChatService.complete e.deps.collaborators
          e.settings.toSettings e.policy e.request e.logged.requestId
            (some e.logged.context))).run (e.start shared) =
              .error (.pipeline exc) ⟨world, []⟩ := by
        unfold served at ended
        simp only [awaitComplete, EStateM.run] at ended ⊢
        rw [ended]
        rfl
      rw [awaited] at returned
      dsimp only at returned
      split_ifs at returned
      · rw [EStateM.run_bind, run_addLogTask_eq] at returned
        cases returned
      · cases returned

/-- At most one log is written, as a row or not at all. -/
theorem rows_of_writes (accepted : Option (String × Datetime)) {writes : List RequestLog}
    {log : RequestLog} (single : writes = [] ∨ writes = [log]) :
    ∀ row ∈ exitState ((writes.forM (writeRequestLog (insertLog accepted))).run []),
      ∃ id createdAt, row = log.toRow id createdAt := by
  rcases single with rfl | rfl
  · intro row member
    cases member
  · intro row member
    cases accepted with
    | none =>
        by_cases unnamed : log.requestId = ""
        · simp [writeRequestLog, unnamed, exitState] at member
        · simp [writeRequestLog, insertLog, unnamed, exitState, Exc.isException] at member
          cases member
    | some entry =>
        obtain ⟨id, createdAt⟩ := entry
        by_cases unnamed : log.requestId = ""
        · simp [writeRequestLog, unnamed, exitState] at member
        · refine ⟨id, createdAt, ?_⟩
          simpa [writeRequestLog, insertLog, unnamed, exitState] using member

theorem entries_charged (e : Exchange σ τ) (free : FreeHits e.deps.collaborators) (shared : σ) :
    ∀ entry ∈ e.entries shared, RowCharged e.deps.costCalculator entry.row entry.charges := by
  intro entry member
  obtain ⟨row, written, rfl⟩ := List.mem_map.mp member
  cases ended : e.result shared with
  | error exc state =>
      rw [Exchange.rows, ended] at written
      cases written
  | ok response state =>
      obtain ⟨completed, tasks⟩ := answered_of_result e shared ended
      have single : writesRun e.sent (e.result shared) = [] ∨
          writesRun e.sent (e.result shared) = [successLog e.policy e.logged
            (GuardrailRunner.run e.patterns e.request e.policy.guardrails) response] := by
        rw [ended, writesRun]
        split_ifs
        · exact tasks
        · exact .inl rfl
      obtain ⟨id, createdAt, rfl⟩ := rows_of_writes e.accepted single row written
      obtain ⟨charges, grown, charged⟩ := (ChatService.complete_charges e.deps.collaborators
        e.settings.toSettings e.policy e.request e.logged.requestId e.logged.context free
          (e.start shared).world).returned completed
      have own : state.world.charges = charges := by
        rw [grown]
        exact List.append_nil charges
      dsimp only [exitState]
      rw [own]
      refine ⟨charged.atMostOne, fun charge listed => ?_, fun charge listed => ?_, charged.stated⟩
      · exact congrArg some (charged.each charge listed).team.symm
      · obtain ⟨calculator, given, provider, model, estimatedCost, computed, names⟩ :=
          (charged.each charge listed).priced
        cases given
        exact ⟨response.usage, provider, model, estimatedCost, computed, names.1, names.2, rfl⟩

theorem book_charged (exchanges : List (Exchange σ τ))
    (free : ∀ e ∈ exchanges, FreeHits e.deps.collaborators) (shared : σ) :
    ∀ entry ∈ bookOf shared exchanges, ∃ e ∈ exchanges,
      RowCharged e.deps.costCalculator entry.row entry.charges := by
  induction exchanges generalizing shared with
  | nil =>
      intro entry member
      cases member
  | cons e rest ih =>
      intro entry member
      rcases List.mem_append.mp member with own | later
      · exact ⟨e, List.mem_cons_self, entries_charged e (free e List.mem_cons_self) shared entry own⟩
      · obtain ⟨other, listed, charged⟩ :=
          ih (fun other listed => free other (List.mem_cons_of_mem e listed)) _ entry later
        exact ⟨other, List.mem_cons_of_mem e listed, charged⟩

/-! ## The report -/

/-- The row is in the reports with this filter. -/
def reports (organizationId : String) (filter : AnalyticsFilter) (row : RequestLogRow) : Bool :=
  !(applyCommonFilters organizationId filter [row]).isEmpty

/-- Two filters in a row keep what both keep on its own. -/
theorem filter_filter_eq {α : Type} (p q : α → Bool) (elements : List α) :
    (elements.filter p).filter q =
      elements.filter fun a => !(([a].filter p).filter q).isEmpty := by
  rw [List.filter_filter]
  refine List.filter_congr fun a _ => ?_
  cases kept : p a <;> cases stays : q a <;> simp [kept, stays]

theorem applyCommonFilters_eq (organizationId : String) (filter : AnalyticsFilter)
    (rows : List RequestLogRow) :
    applyCommonFilters organizationId filter rows = rows.filter (reports organizationId filter) :=
  filter_filter_eq _ _ rows

theorem abs_sum_roundTo_sub_le (entries : List Entry) :
    |(entries.map fun entry => roundTo entry.charged 8).sum - (entries.map Entry.charged).sum| ≤
      entries.length * (1 / (2 * 10 ^ 8)) := by
  induction entries with
  | nil => simp
  | cons entry rest ih =>
      have here := abs_roundTo_sub_le entry.charged 8
      rw [List.map_cons, List.map_cons, List.sum_cons, List.sum_cons, List.length_cons,
        add_sub_add_comm, Nat.cast_succ, add_mul, one_mul, add_comm _ (1 / (2 * 10 ^ 8))]
      exact (abs_add_le _ _).trans (add_le_add here ih)

/-- The cost report of any log of answers to any requests, by any column and with
any filter, adds up to what the budget service was told to charge for the answers
in it, each rounded to eight digits; every row states its own charge. -/
theorem report_matches_charges (exchanges : List (Exchange σ τ))
    (free : ∀ e ∈ exchanges, FreeHits e.deps.collaborators) (shared : σ) (organizationId : String)
    (filter : AnalyticsFilter) (groupBy : String) :
    let book := bookOf shared exchanges
    let reported := book.filter fun entry => reports organizationId filter entry.row
    let totals := Totals.ofCosts
      (AnalyticsService.aggregateCosts (book.map Entry.row) organizationId filter groupBy)
    totals = ⟨reported.length, (reported.map fun entry => roundTo entry.charged 8).sum⟩ ∧
      |totals.cost - (reported.map Entry.charged).sum| ≤ reported.length * (1 / (2 * 10 ^ 8)) ∧
      ∀ entry ∈ book, ∃ e ∈ exchanges,
        RowCharged e.deps.costCalculator entry.row entry.charges := by
  intro book reported totals
  have charged := book_charged exchanges free shared
  have totals_eq : totals =
      ⟨reported.length, (reported.map fun entry => roundTo entry.charged 8).sum⟩ := by
    change Totals.ofCosts _ = _
    rw [AnalyticsService.ofCosts_aggregateCosts, applyCommonFilters_eq, List.filter_map]
    ext
    · exact List.length_map _
    · change total _ _ = _
      rw [total, List.map_map]
      refine congrArg List.sum (List.map_congr_left fun entry member => ?_)
      obtain ⟨e, -, states⟩ := charged entry (List.mem_of_mem_filter member)
      exact states.stated
  refine ⟨totals_eq, ?_, charged⟩
  rw [totals_eq]
  exact abs_sum_roundTo_sub_le reported

end Exchanges

/-! ## One answer -/

/-- The greeting is answered, sent and logged. -/
def greetingExchange : Exchange BudgetTable AsyncSession :=
  { deps := oneProviderDependencies april (pure helloBack)
    patterns := ⟨[], []⟩
    settings := loggingSettings
    policy := globalDefaultPolicy
    request := hello
    logged := ⟨"req-1", member, none⟩
    session := .fresh
    sent := true
    accepted := some ("log-1", april) }

theorem greeting_reported :
    let book := bookOf unusedWorld.shared [greetingExchange, greetingExchange]
    let reported := book.filter fun entry => reports "org-1" {} entry.row
    let totals := Totals.ofCosts
      (AnalyticsService.aggregateCosts (book.map Entry.row) "org-1" {} "team")
    totals = ⟨reported.length, (reported.map fun entry => roundTo entry.charged 8).sum⟩ ∧
      |totals.cost - (reported.map Entry.charged).sum| ≤ reported.length * (1 / (2 * 10 ^ 8)) ∧
      ∀ entry ∈ book, ∃ e ∈ [greetingExchange, greetingExchange],
        RowCharged e.deps.costCalculator entry.row entry.charges := by
  refine report_matches_charges [greetingExchange, greetingExchange] ?_ unusedWorld.shared "org-1"
    {} "team"
  intro e member lookup given request context shared hit after returned
  rcases List.mem_cons.mp member with rfl | member
  · cases given
    cases returned
  · cases List.mem_singleton.mp member
    cases given
    cases returned

/-- Both answers are in the report. -/
example : ((bookOf unusedWorld.shared [greetingExchange, greetingExchange]).map fun entry =>
    (entry.charges.length, decide (0 < entry.charged))) = [(1, true), (1, true)] := by
  decide +kernel

end CortexGateway
