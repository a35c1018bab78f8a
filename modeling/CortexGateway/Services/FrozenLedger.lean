import CortexGateway.Api.Chat
import CortexGateway.Budget.Calls
import CortexGateway.Services.Settlement

/-! # The ledger with budgets switched off

The switch guards the estimate and the reservation.  A failed request then has
nothing to release, but an answered one is reconciled all the same: the actual
cost is charged to the team's enabled row. -/
set_option autoImplicit false
namespace CortexGateway
open Budgeting Exits

section Ledger
variable {σ α : Type}

/-- A program on the budget table and the session, which no other service reaches. -/
def onLedger (program : EStateM Exc (BudgetTable × AsyncSession) α) :
    EStateM Exc (σ × BudgetTable × AsyncSession) α := fun (shared, ledger) =>
  match program.run ledger with
  | .ok value ledger => .ok value (shared, ledger)
  | .error exc ledger => .error exc (shared, ledger)

def ledgerClient (reservedAt settledAt : Datetime) :
    BudgetClient (σ × BudgetTable × AsyncSession) :=
  let client := budgetClient reservedAt settledAt
  { getBudget := fun teamId => onLedger (client.getBudget teamId)
    checkAndReserve := fun teamId estimatedCost percent =>
      onLedger (client.checkAndReserve teamId estimatedCost percent)
    reconcile := fun teamId estimatedCost actualCost =>
      onLedger (client.reconcile teamId estimatedCost actualCost)
    releaseReservation := fun teamId estimatedCost =>
      onLedger (client.releaseReservation teamId estimatedCost) }

/-- The table after a reconciliation without a reservation. -/
def chargedTable (budgets : BudgetTable) (teamId : String) (actualCost : ℚ) (now : Datetime) :
    BudgetTable :=
  match budgets teamId with
  | some row =>
      if row.enabled then setRow budgets teamId (some (reconciled row 0 actualCost now)) else budgets
  | none => budgets

theorem chargedTable_eq_iff (budgets : BudgetTable) (teamId : String) (actualCost : ℚ)
    (now : Datetime) :
    chargedTable budgets teamId actualCost now = budgets ↔
      ∀ row, budgets teamId = some row → row.enabled = true →
        reconciled row 0 actualCost now = row := by
  unfold chargedTable
  cases found : budgets teamId with
  | none => simp
  | some row =>
      simp only [Option.some_inj]
      split_ifs with enabled
      · rw [setRow, Function.update_eq_self_iff, found, Option.some_inj]
        constructor
        · rintro same other rfl -
          exact same
        · intro settled
          exact settled row rfl enabled
      · refine iff_of_true rfl ?_
        rintro other rfl on
        exact absurd on enabled

theorem run_reconcile_fresh (teamId : String) (actualCost : ℚ) (reservedAt settledAt : Datetime)
    (shared : σ) (budgets : BudgetTable) :
    ∃ found session, ((ledgerClient reservedAt settledAt).reconcile teamId 0 actualCost).run
        (shared, budgets, AsyncSession.fresh) =
      .ok found (shared, chargedTable budgets teamId actualCost settledAt, session) := by
  rcases enabled_or_unbudgeted budgets teamId with ⟨row, found, enabled⟩ | unbudgeted
  · have ran := reconcile_enabled teamId 0 actualCost settledAt ⟨budgets, .fresh⟩ row row found
      enabled rfl
    rw [stored_reconciled_current] at ran
    refine ⟨some (reconciled row 0 actualCost settledAt),
      ⟨some (.ofRow (reconciled row 0 actualCost settledAt))⟩, ?_⟩
    simp only [ledgerClient, budgetClient, onLedger, onSession, EStateM.run] at ran ⊢
    rw [ran]
    simp only [chargedTable, found, enabled, if_true]
  · have ran := reconcile_unbudgeted teamId 0 actualCost settledAt ⟨budgets, .fresh⟩ unbudgeted
    have same : chargedTable budgets teamId actualCost settledAt = budgets :=
      (chargedTable_eq_iff ..).mpr fun row found enabled => by
        rw [unbudgeted row found] at enabled
        cases enabled
    refine ⟨none, .fresh, ?_⟩
    simp only [ledgerClient, budgetClient, onLedger, onSession, EStateM.run] at ran ⊢
    rw [ran, same]

end Ledger

namespace ChatService

section Off
variable {σ τ : Type} (svc : Collaborators σ τ) (settings : Settings) (policy : ResolvedPolicy)
variable (request : ChatCompletionRequest) (requestId : String) (context : Option RequestContext)
variable (off : settings.budgetEnabled = false)

include off in
theorem quote_off (target : Target) :
    (quote svc settings policy request context target : ServiceM σ τ Quote) =
      pure ⟨target, 0, false⟩ := by
  unfold quote
  split
  · rename_i on
    rw [off] at on
    cases on
  · rfl

include off in
theorem reserve_off (quote : Quote) :
    (reserve svc settings context quote : ServiceM σ τ Reservation) =
      pure ⟨quote, none, false⟩ := by
  unfold reserve
  split
  · rename_i on
    rw [off] at on
    cases on
  · rfl

include off in
theorem prepare_off (world : World σ τ) :
    Ends (prepare svc settings policy request requestId context) world
      (fun answer _ => ∀ admitted quote, answer = .inr (admitted, quote) →
        quote.estimatedCost = 0) fun _ _ => True := by
  unfold prepare
  apply ends_bind
  apply ends_any _ _ _ fun _ _ => trivial
  intro answer after
  cases answer with
  | inl cached =>
      apply ends_pure
      intro _ _ same
      cases same
  | inr admitted =>
      dsimp only
      rw [quote_off svc settings policy request context off]
      apply ends_pure
      intro _ _ same
      cases same
      rfl

theorem releaseFailed_free (cost : ℚ) (free : cost = 0) :
    (releaseFailed svc context cost : ServiceM σ τ Unit) = pure () := by
  unfold releaseFailed
  split
  · rw [if_neg (by rw [free]; exact lt_irrefl 0)]
  · rfl

end Off

section Frozen
variable {σ : Type} (deps : ChatDependencies σ (BudgetTable × AsyncSession))
variable (settings : Settings) (policy : ResolvedPolicy) (request : ChatCompletionRequest)
variable (requestId : String) (context : RequestContext) (reservedAt settledAt : Datetime)

/-- What the executor answers a request with, and the quote it was called for. -/
def executorAnswer (world : World σ (BudgetTable × AsyncSession)) :
    Option (Quote × ChatCompletionResponse) := do
  let (_, quote, quoted) ← quoteOf deps.collaborators settings policy request requestId
    (some context) world
  match (deps.execute (execRequest policy request) quote.target.provider quote.target.model
      quote.target.routingMode).run quoted.shared with
  | .ok response _ => some (quote, response)
  | .error .. => none

/-- The request is not answered by a provider, the team has no enabled budget,
or its row already is as the actual cost leaves it. -/
def NothingToSettle (world : World σ (BudgetTable × AsyncSession)) : Prop :=
  ∀ quote response,
    executorAnswer deps settings policy request requestId context world = some (quote, response) →
    ∀ cost, actualCost deps.costCalculator quote response = .ok cost →
      ∀ row, world.session.1 context.teamId = some row → row.enabled = true →
        reconciled row 0 cost settledAt = row

variable (ledger : deps.budgetService = ledgerClient reservedAt settledAt)

theorem undisturbed_session (session : BudgetTable × AsyncSession) :
    Undisturbed fun world : World σ (BudgetTable × AsyncSession) => world.session = session :=
  ⟨fun _ _ same => same, fun _ same => same⟩

include ledger in
/-- Up to the reservation the ledger is at most read. -/
theorem prepare_session (session : BudgetTable × AsyncSession) :
    Keeps (fun world : World σ (BudgetTable × AsyncSession) => world.session = session)
      (fun _ => True)
      (prepare deps.collaborators settings policy request requestId (some context)) := by
  apply prepare_keeps _ _ _ _ _ _ (undisturbed_session session) (collaborators_obey _)
  · intro budgetService given teamId
    cases given
    intro world same
    rw [ledger]
    exact same
  · exact fun _ _ _ _ => trivial

include ledger in
/-- An answer whose cost is known is charged. -/
theorem settle_session (world : World σ (BudgetTable × AsyncSession)) (quote : Quote)
    (free : quote.estimatedCost = 0) (fresh : world.session.2 = .fresh)
    (response : ChatCompletionResponse) (cost : ℚ)
    (known : actualCost deps.costCalculator quote response = .ok cost) :
    Ends (settle deps.collaborators settings (some context) quote response) world
      (fun _ after => after.session.1 =
        chargedTable world.session.1 context.teamId cost settledAt) fun _ _ => False := by
  obtain ⟨found, session, ran⟩ := run_reconcile_fresh context.teamId cost reservedAt settledAt
    world.shared world.session.1
  rw [← fresh] at ran
  unfold Ends
  simp only [settle, ChatDependencies.collaborators, free, le_refl, if_true, known, ofExcept,
    ledger]
  simp only [EStateM.run] at ran
  simp only [note, awaitSession, EStateM.run, bind, EStateM.bind, pure, EStateM.pure, modify,
    modifyGet, MonadStateOf.modifyGet, EStateM.modifyGet, ran]

/-- The table a request leaves that is served in this world. -/
def servedTable (world : World σ (BudgetTable × AsyncSession)) (quote : Quote) : BudgetTable :=
  match (deps.execute (execRequest policy request) quote.target.provider quote.target.model
      quote.target.routingMode).run world.shared with
  | .ok response _ =>
      match actualCost deps.costCalculator quote response with
      | .ok cost => chargedTable world.session.1 context.teamId cost settledAt
      | .error _ => world.session.1
  | .error .. => world.session.1

include ledger in
theorem serve_table (world : World σ (BudgetTable × AsyncSession)) (admitted : Admitted)
    (quote : Quote) (free : quote.estimatedCost = 0) (fresh : world.session.2 = .fresh) :
    (exitState ((serve deps.collaborators settings policy request (some context) admitted
      ⟨quote, none, false⟩).run world)).session.1 =
      servedTable deps policy request context settledAt world quote := by
  suffices ends : Ends (serve deps.collaborators settings policy request (some context) admitted
      ⟨quote, none, false⟩) world
      (fun _ t => t.session.1 = servedTable deps policy request context settledAt world quote)
      fun _ t => t.session.1 = servedTable deps policy request context settledAt world quote from
    ends.exit
  have ran := run_execute deps.collaborators policy request quote world
  rw [ChatDependencies.collaborators_execute] at ran
  unfold servedTable serve
  apply ends_bind
  cases outcome : (deps.execute (execRequest policy request) quote.target.provider
      quote.target.model quote.target.routingMode).run world.shared with
  | ok response shared =>
      rw [outcome] at ran
      apply ends_tryCatch_returned ran
      apply ends_bind
      dsimp only
      cases known : actualCost deps.costCalculator quote response with
      | ok cost =>
          apply (settle_session deps settings context reservedAt settledAt ledger
            (executed quote world shared) quote free fresh response cost known).mono
          · intro value after charged
            exact charged
          · intro _ _ never
            exact never.elim
      | error exc =>
          have stops := settle_unknown deps.collaborators settings context deps.budgetService
            deps.costCalculator quote response rfl rfl free.ge (executed quote world shared) exc known
          unfold Ends
          rw [stops]
          rfl
  | error exc shared =>
      rw [outcome] at ran
      apply ends_tryCatch_raised ran
      rw [releaseFailed_free _ _ _ free]
      split_ifs <;> rfl

include ledger in
theorem complete_table (off : settings.budgetEnabled = false)
    (world : World σ (BudgetTable × AsyncSession)) (fresh : world.session.2 = .fresh) :
    (exitState ((complete deps.collaborators settings policy request requestId
      (some context)).run world)).session.1 =
      match quoteOf deps.collaborators settings policy request requestId (some context) world with
      | some (_, quote, quoted) => servedTable deps policy request context settledAt quoted quote
      | none => world.session.1 := by
  have untouched := prepare_session deps settings policy request requestId context reservedAt
    settledAt ledger world.session world rfl
  have free := prepare_off deps.collaborators settings policy request requestId (some context) off
    world
  cases prepared : (prepare deps.collaborators settings policy request requestId
      (some context)).run world with
  | ok answer quoted =>
      cases answer with
      | inl cached =>
          have none : quoteOf deps.collaborators settings policy request requestId (some context)
              world = none := by simp only [quoteOf, prepared]
          rw [none, run_complete_cached deps.collaborators settings policy request requestId
            (some context) world quoted cached prepared]
          exact congrArg Prod.fst (untouched.returned prepared)
      | inr admission =>
          obtain ⟨admitted, quote⟩ := admission
          have comes := (quoteOf_eq_some deps.collaborators settings policy request requestId
            (some context) world quoted admitted quote).mpr prepared
          have same : quoted.session = world.session := untouched.returned prepared
          have reserves : (reserve deps.collaborators settings (some context) quote).run quoted =
              .ok ⟨quote, none, false⟩ quoted := by
            rw [reserve_off deps.collaborators settings (some context) off]
            rfl
          rw [comes, run_complete deps.collaborators settings policy request requestId (some context)
            world quoted quoted admitted quote _ prepared reserves]
          exact serve_table deps settings policy request context reservedAt settledAt ledger quoted
            admitted quote (free.returned prepared admitted quote rfl) (by rw [same]; exact fresh)
  | error exc stopped =>
      have none : quoteOf deps.collaborators settings policy request requestId (some context)
          world = none := by simp only [quoteOf, prepared]
      rw [none, run_complete_stopped deps.collaborators settings policy request requestId
        (some context) world stopped exc prepared]
      exact congrArg Prod.fst (untouched.raised prepared).2

include ledger in
/-- With budgets off the ledger is frozen if and only if there is nothing to settle. -/
theorem frozen_iff (off : settings.budgetEnabled = false)
    (world : World σ (BudgetTable × AsyncSession)) (fresh : world.session.2 = .fresh) :
    (exitState ((complete deps.collaborators settings policy request requestId
        (some context)).run world)).session.1 = world.session.1 ↔
      NothingToSettle deps settings policy request requestId context settledAt world := by
  have untouched := prepare_session deps settings policy request requestId context reservedAt
    settledAt ledger world.session world rfl
  rw [complete_table deps settings policy request requestId context reservedAt settledAt ledger off
    world fresh]
  unfold NothingToSettle executorAnswer
  cases comes : quoteOf deps.collaborators settings policy request requestId (some context)
      world with
  | none => simp
  | some found =>
      obtain ⟨admitted, quote, quoted⟩ := found
      have same : quoted.session = world.session := untouched.returned
        ((quoteOf_eq_some deps.collaborators settings policy request requestId (some context) world
          quoted admitted quote).mp comes)
      simp only [servedTable, same, Option.bind_eq_bind, Option.bind_some]
      cases outcome : (deps.execute (execRequest policy request) quote.target.provider
          quote.target.model quote.target.routingMode).run quoted.shared with
      | ok response shared =>
          cases known : actualCost deps.costCalculator quote response with
          | ok cost =>
              dsimp only
              rw [known]
              dsimp only
              rw [chargedTable_eq_iff]
              constructor
              · rintro settled _ _ answered other costs
                cases answered
                rw [known] at costs
                cases costs
                exact settled
              · intro settled
                exact settled quote response rfl cost known
          | error exc =>
              dsimp only
              rw [known]
              refine iff_of_true rfl ?_
              rintro _ _ answered other costs
              cases answered
              rw [known] at costs
              cases costs
      | error exc shared =>
          refine iff_of_true rfl ?_
          rintro _ _ answered
          cases answered

end Frozen
end ChatService

/-! ## The greeting with budgets off -/

open ChatService

/-- A single provider and an unused budget, out of reach of the other services. -/
def greetingDependencies (execute : EStateM Exc Unit ChatCompletionResponse) :
    ChatDependencies Unit (BudgetTable × AsyncSession) :=
  { rateLimiter := fun _ => pure ⟨true, ⟨"key", 99, 0⟩⟩
    routingEngine := ⟨⟨["groq"]⟩, .auto⟩
    buildCandidates := pure []
    semanticCache := fun _ _ => pure none
    experimentDigest := fun _ => 0
    budgetService := ledgerClient april april
    costCalculator := costClient ⟨llamaCatalog⟩
    execute := fun _ _ _ _ => execute }

def unbudgetedSettings : Settings := { defaultSettings with budgetEnabled := false }

def unusedLedger : World Unit (BudgetTable × AsyncSession) :=
  ⟨(), (fun teamId => if teamId = "team-1" then some unusedBudget else none, .fresh), []⟩

def ledgerAfter (execute : EStateM Exc Unit ChatCompletionResponse) : BudgetTable :=
  (exitState ((complete (greetingDependencies execute).collaborators unbudgetedSettings
    globalDefaultPolicy hello "req-1" (some member)).run unusedLedger)).session.1

/-- An answer is charged although budgets are off. -/
theorem answer_charged_off :
    unbudgetedSettings.budgetEnabled = false ∧
      (ledgerAfter (pure helloBack) "team-1").map Budget.currentUsage ≠
        (unusedLedger.session.1 "team-1").map Budget.currentUsage ∧
      ledgerAfter (pure helloBack) ≠ unusedLedger.session.1 := by
  have charged : (ledgerAfter (pure helloBack) "team-1").map Budget.currentUsage ≠
      (unusedLedger.session.1 "team-1").map Budget.currentUsage := by decide +kernel
  refine ⟨rfl, charged, ?_⟩
  intro same
  rw [same] at charged
  exact charged rfl

theorem failure_frozen :
    ledgerAfter (throw (.provider .providerUnavailableError "The provider is down.")) =
      unusedLedger.session.1 := by
  apply (frozen_iff (greetingDependencies (throw (.provider .providerUnavailableError
    "The provider is down."))) unbudgetedSettings globalDefaultPolicy hello "req-1" member april
    april rfl rfl unusedLedger rfl).mpr
  have unanswered : executorAnswer (greetingDependencies (throw (.provider .providerUnavailableError
      "The provider is down."))) unbudgetedSettings globalDefaultPolicy hello "req-1" member
      unusedLedger = none := by decide +kernel
  intro quote response answered
  rw [unanswered] at answered
  cases answered

end CortexGateway
