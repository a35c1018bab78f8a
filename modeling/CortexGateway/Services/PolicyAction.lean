import CortexGateway.Budget.Calls
import CortexGateway.Services.Settlement

/-! # The resolved policy and the policy of the row

The resolved policy decides whether a downgrade is tried, the row's own policy
whether a reservation is rejected.  The two agree on every request only as
long as both enforce the limit or both do not. -/
set_option autoImplicit false
namespace CortexGateway
open Budgeting Exits

def Call.isExecution : Call → Bool
  | .execute .. => true
  | _ => false

def Exc.isBudgetExceeded : Exc → Bool
  | .budgetExceeded .. => true
  | _ => false

theorem isBudgetRejection_of_exceeded (exc : Exc) (exceeded : exc.isBudgetExceeded = true) :
    exc.isBudgetRejection = true := by
  cases exc <;> first | rfl | cases exceeded

theorem warn_of_not_enforces {action : BudgetPolicy} (lenient : action.enforces = false) :
    action = .WARN := by
  cases action <;> first | rfl | cases lenient

/-- A request-scoped session holds at most an unexpired copy of the row. -/
def Calm (session : AsyncSession) : Prop := ∃ copy : Option Budget, session = ⟨copy.map .ofRow⟩

theorem calm_load (session : AsyncSession) (row : Budget) (calm : Calm session) :
    ∃ copy, session.load row = ⟨some (.ofRow copy)⟩ := by
  obtain ⟨copy, rfl⟩ := calm
  cases copy with
  | none => exact ⟨row, rfl⟩
  | some copy =>
      simp only [AsyncSession.load, Option.map_some]
      split_ifs
      · exact ⟨copy, rfl⟩
      · exact ⟨row, rfl⟩

section OwnBudget
variable {α : Type} {inv : World BudgetTable AsyncSession → Prop} {law : Exc → Prop}

theorem run_onSession (program : BudgetM α) (world : World BudgetTable AsyncSession) (value : α)
    (store : Store) (returned : program.run ⟨world.shared, world.session⟩ = .ok value store) :
    (awaitSession (onSession program)).run world =
      .ok value { world with shared := store.budgets, session := store.session } := by
  simp only [awaitSession, onSession, EStateM.run] at returned ⊢
  rw [returned]

theorem keeps_onSession (program : BudgetM α)
    (runs : ∀ world, inv world → ∃ value store,
      program.run ⟨world.shared, world.session⟩ = .ok value store ∧
        inv { world with shared := store.budgets, session := store.session }) :
    Keeps inv law (awaitSession (onSession program)) := by
  intro world holds
  obtain ⟨value, store, returned, again⟩ := runs world holds
  unfold Ends
  rw [run_onSession program world value store returned]
  exact again

theorem run_getBudget (teamId : String) (store : Store) :
    ∃ found, (getBudget teamId).run store = .ok found store := by
  simp [getBudget]

/-- Settling on a calm session never raises and leaves it calm. -/
theorem reconcile_calm (teamId : String) (estimatedCost actualCost : ℚ) (now : Datetime)
    (store : Store) (calm : Calm store.session) :
    ∃ outcome after, (reconcile teamId estimatedCost actualCost now).run store =
      .ok outcome after ∧ Calm after.session := by
  rcases enabled_or_unbudgeted store.budgets teamId with ⟨row, found, enabled⟩ | unbudgeted
  · obtain ⟨copy, loads⟩ := calm_load store.session row calm
    exact ⟨_, _, reconcile_enabled teamId estimatedCost actualCost now store row copy found enabled
      loads, some _, rfl⟩
  · exact ⟨_, _, reconcile_unbudgeted teamId estimatedCost actualCost now store unbudgeted, calm⟩

theorem releaseReservation_calm (teamId : String) (estimatedCost : ℚ) (now : Datetime)
    (store : Store) (calm : Calm store.session) :
    ∃ outcome after, (releaseReservation teamId estimatedCost now).run store =
      .ok outcome after ∧ Calm after.session := by
  rcases enabled_or_unbudgeted store.budgets teamId with ⟨row, found, enabled⟩ | unbudgeted
  · obtain ⟨copy, loads⟩ := calm_load store.session row calm
    exact ⟨_, _, releaseReservation_enabled teamId estimatedCost now store row copy found enabled
      loads, some _, rfl⟩
  · exact ⟨_, _, releaseReservation_unbudgeted teamId estimatedCost now store unbudgeted, calm⟩

end OwnBudget

/-! ## The gateway's own services -/

/-- The budget service is the gateway's, and nothing else raises a budget exception. -/
structure Collaborators.Own (svc : Collaborators BudgetTable AsyncSession)
    (reservedAt settledAt : Datetime) : Prop where
  budget : ∀ budgetService ∈ svc.budgetService, budgetService = budgetClient reservedAt settledAt
  others : svc.Obey fun exc => exc.isBudgetRejection = false

namespace ChatService
variable (svc : Collaborators BudgetTable AsyncSession) (settings : Settings)
variable (policy : ResolvedPolicy) (request : ChatCompletionRequest) (requestId : String)
variable (context : Option RequestContext) (reservedAt settledAt : Datetime)

/-- Nothing has been executed and the session holds nothing. -/
def Unserved (world : World BudgetTable AsyncSession) : Prop :=
  world.session = .fresh ∧ ∀ call ∈ world.calls, call.isExecution = false

theorem unserved_undisturbed : Undisturbed Unserved := by
  constructor
  · intro world shared unserved
    exact unserved
  · rintro world ⟨fresh, unexecuted⟩
    refine ⟨fresh, fun call member => ?_⟩
    rcases List.mem_cons.mp member with rfl | earlier
    · rfl
    · exact unexecuted call earlier

theorem prepare_unserved (own : svc.Own reservedAt settledAt) :
    Keeps Unserved (fun exc => policy.budgetAction ≠ .DOWNGRADE → exc.isBudgetRejection = false)
      (prepare svc settings policy request requestId context) := by
  apply prepare_keeps
  · exact unserved_undisturbed
  · exact own.others.mono fun exc foreign _ => foreign
  · intro budgetService given teamId
    rw [own.budget budgetService given]
    simp only [budgetClient]
    apply keeps_onSession
    intro world unserved
    obtain ⟨found, ran⟩ := run_getBudget teamId ⟨world.shared, world.session⟩
    exact ⟨found, _, ran, unserved⟩
  · intro downgrade message teamId remaining other
    exact absurd downgrade other

/-- Serving on a calm session raises no budget exception. -/
theorem serve_calm (own : svc.Own reservedAt settledAt) (admitted : Admitted)
    (reservation : Reservation) :
    Keeps (fun world => Calm world.session) (fun exc => exc.isBudgetRejection = false)
      (serve svc settings policy request context admitted reservation) := by
  apply serve_keeps svc settings policy request context admitted reservation own.others
  · exact fun _ _ calm => calm
  · exact fun _ _ calm => calm
  · intro budgetService given teamId estimatedCost
    rw [own.budget budgetService given]
    simp only [budgetClient]
    apply keeps_onSession
    intro world calm
    exact releaseReservation_calm teamId estimatedCost settledAt ⟨world.shared, world.session⟩ calm
  · intro budgetService given teamId estimatedCost actualCost
    rw [own.budget budgetService given]
    simp only [budgetClient]
    apply keeps_onSession
    intro world calm
    exact reconcile_calm teamId estimatedCost actualCost settledAt ⟨world.shared, world.session⟩ calm

def Executed (world : World BudgetTable AsyncSession) : Prop :=
  ∃ call ∈ world.calls, call.isExecution = true

theorem executed_noted (world : World BudgetTable AsyncSession) (call : Call)
    (before : Executed world) : Executed { world with calls := call :: world.calls } := by
  obtain ⟨earlier, member, executes⟩ := before
  exact ⟨earlier, List.mem_cons_of_mem call member, executes⟩

theorem awaitSession_executed {α : Type}
    (program : EStateM Exc (BudgetTable × AsyncSession) α) :
    Keeps Executed (fun _ => True) (awaitSession program) :=
  keeps_awaitSession (fun _ _ _ before => before) program fun _ _ _ _ => trivial

/-- Whatever happens after the reservation, the executor has been called. -/
theorem serve_executes (admitted : Admitted) (reservation : Reservation)
    (world : World BudgetTable AsyncSession) :
    Ends (serve svc settings policy request context admitted reservation) world
      (fun _ t => Executed t) fun _ t => Executed t := by
  have called : ∀ shared, Executed (executed reservation.quote world shared) := fun _ =>
    ⟨_, List.mem_cons_self, rfl⟩
  have ran := run_execute svc policy request reservation.quote world
  have answered : ∀ response, Keeps Executed (fun _ => True) _ := fun response =>
    answered_keeps svc settings context reservation.quote response admitted reservation
      (collaborators_obey svc) executed_noted fun _ _ _ _ _ => awaitSession_executed _
  unfold serve
  apply ends_bind
  cases outcome : (svc.execute (execRequest policy request) reservation.quote.target.provider
      reservation.quote.target.model reservation.quote.target.routingMode).run world.shared with
  | ok response shared =>
      rw [outcome] at ran
      apply ends_tryCatch_returned ran
      exact (answered response _ (called shared)).mono (fun _ _ holds => holds)
        fun _ _ holds => holds.2
  | error exc shared =>
      rw [outcome] at ran
      apply ends_tryCatch_raised ran
      have failed : Keeps Executed (fun _ => True) (do
          if exc.isException then releaseFailed svc context reservation.quote.estimatedCost
          throw exc : ServiceM BudgetTable AsyncSession ChatCompletionResponse) :=
        failed_keeps svc context _ exc trivial (fun world _ _ => executed_noted world _)
          fun _ _ _ _ => awaitSession_executed _
      apply (failed _ (called shared)).mono
      · intro response after holds
        exact (answered response after holds).mono (fun _ _ holds => holds) fun _ _ holds => holds.2
      · intro _ after holds
        exact holds.2

/-! ## The reservation -/

/-- The enabled budget of the team of the request. -/
def enabledBudget (budgets : BudgetTable) : Option Budget :=
  context.bind fun context => (budgets context.teamId).filter (·.enabled)

theorem reserve_unchecked (quote : Quote) (world : World BudgetTable AsyncSession)
    (off : budgeted svc settings context = false) :
    (reserve svc settings context quote).run world = .ok ⟨quote, none, false⟩ world := by
  unfold reserve
  split
  · rename_i given calculator enabled
    simp [budgeted, given, calculator, enabled] at off
  · rfl

theorem services_of_budgeted (on : budgeted svc settings context = true) :
    ∃ present budgetService cost, context = some present ∧
      svc.budgetService = some budgetService ∧ svc.costCalculator = some cost ∧
      settings.budgetEnabled = true := by
  simp only [budgeted, Bool.and_eq_true, Option.isSome_iff_exists] at on
  obtain ⟨⟨⟨⟨present, given⟩, budgetService, service⟩, cost, calculator⟩, enabled⟩ := on
  exact ⟨present, budgetService, cost, given, service, calculator, enabled⟩

/-- The world after `check_and_reserve` left this store. -/
def checked (present : RequestContext) (quote : Quote) (world : World BudgetTable AsyncSession)
    (store : Store) : World BudgetTable AsyncSession :=
  ⟨store.budgets, store.session, .checkAndReserve present.teamId quote.estimatedCost :: world.calls⟩

theorem run_reserve (present : RequestContext) (quote : Quote)
    (world : World BudgetTable AsyncSession) (own : svc.Own reservedAt settledAt)
    (on : budgeted svc settings (some present) = true) :
    (reserve svc settings (some present) quote).run world =
      match (checkAndReserve present.teamId quote.estimatedCost
          settings.budgetWarningThresholdPercent reservedAt).run ⟨world.shared, world.session⟩ with
      | .ok (budgetObj, budgetWarning) store =>
          .ok ⟨quote, budgetObj, budgetWarning⟩ (checked present quote world store)
      | .error exc store => .error exc (checked present quote world store) := by
  obtain ⟨_, budgetService, cost, same, service, calculator, enabled⟩ :=
    services_of_budgeted svc settings (some present) on
  cases same
  rw [own.budget budgetService service] at service
  simp only [reserve, service, calculator, enabled]
  rw [EStateM.run_bind]
  change ((awaitSession (onSession _) >>= _ : ServiceM _ _ Reservation)).run
    { world with calls := _ :: world.calls } = _
  rw [EStateM.run_bind]
  simp only [awaitSession, onSession, EStateM.run, checked]
  cases checkAndReserve present.teamId quote.estimatedCost settings.budgetWarningThresholdPercent
    reservedAt ⟨world.shared, world.session⟩ <;> rfl

/-- Budgets that are on reject with `MissingGreenlet` before anything is
executed, or go on to serve. -/
theorem reserve_checked (own : svc.Own reservedAt settledAt) (quote : Quote)
    (world : World BudgetTable AsyncSession) (unserved : Unserved world)
    (on : budgeted svc settings context = true) :
    (∃ row, enabledBudget context world.shared = some row ∧
      rejects row quote.estimatedCost reservedAt = true ∧
      ∃ after, (reserve svc settings context quote).run world = .error .missingGreenlet after ∧
        ∀ call ∈ after.calls, call.isExecution = false) ∨
    ((∀ row, enabledBudget context world.shared = some row →
        rejects row quote.estimatedCost reservedAt = false) ∧
      ∃ reservation after, (reserve svc settings context quote).run world =
        .ok reservation after ∧ Calm after.session) := by
  obtain ⟨present, -, -, rfl, -⟩ := services_of_budgeted svc settings context on
  have ran := run_reserve svc settings reservedAt settledAt present quote world own on
  rcases enabled_or_unbudgeted world.shared present.teamId with ⟨row, found, enabled⟩ | unbudgeted
  · have here : enabledBudget (some present) world.shared = some row := by
      simp [enabledBudget, found, Option.filter, enabled]
    have sees : SeesRow world.session row := by
      rw [unserved.1]
      exact load_fresh row
    cases decision : rejects row quote.estimatedCost reservedAt with
    | true =>
        rw [checkAndReserve_rejects present.teamId quote.estimatedCost
          settings.budgetWarningThresholdPercent reservedAt ⟨world.shared, world.session⟩ row found
          enabled sees decision] at ran
        refine Or.inl ⟨row, here, decision, _, ran, fun call member => ?_⟩
        rcases List.mem_cons.mp member with rfl | earlier
        · rfl
        · exact unserved.2 call earlier
    | false =>
        rw [checkAndReserve_admits present.teamId quote.estimatedCost
          settings.budgetWarningThresholdPercent reservedAt ⟨world.shared, world.session⟩ row found
          enabled sees decision] at ran
        refine Or.inr ⟨fun other same => ?_, _, _, ran, some _, rfl⟩
        rw [here] at same
        cases same
        exact decision
  · have absent : enabledBudget (some present) world.shared = none := by
      cases found : world.shared present.teamId with
      | none => simp [enabledBudget, found]
      | some row => simp [enabledBudget, found, Option.filter, unbudgeted row found]
    rw [checkAndReserve_unbudgeted present.teamId quote.estimatedCost
      settings.budgetWarningThresholdPercent reservedAt ⟨world.shared, world.session⟩
      unbudgeted] at ran
    refine Or.inr ⟨fun row found => ?_, _, _, ran, none, unserved.1⟩
    rw [absent] at found
    cases found

/-! ## Every request -/

/-- The enabled budget of the team, when `check_and_reserve` is called with an
estimate that takes it over its limit. -/
def rowBeyond (world : World BudgetTable AsyncSession) : Option Budget := do
  let (quote, quoted) ← checkedQuote svc settings policy request requestId context world
  let row ← enabledBudget context quoted.shared
  guard ((rolledOver row reservedAt).exceeds quote.estimatedCost)
  return row

theorem checkedQuote_eq_some (world quoted : World BudgetTable AsyncSession) (quote : Quote) :
    checkedQuote svc settings policy request requestId context world = some (quote, quoted) ↔
      budgeted svc settings context = true ∧ ∃ admitted,
        (prepare svc settings policy request requestId context).run world =
          .ok (.inr (admitted, quote)) quoted := by
  constructor
  · intro found
    obtain ⟨⟨admitted, same, after⟩, comes, found⟩ := Option.bind_eq_some_iff.mp found
    obtain ⟨_, on, found⟩ := Option.bind_eq_some_iff.mp found
    cases found
    refine ⟨by simpa [guard] using on, admitted, ?_⟩
    exact (quoteOf_eq_some svc settings policy request requestId context world _ _ _).mp comes
  · rintro ⟨on, admitted, prepared⟩
    have comes := (quoteOf_eq_some svc settings policy request requestId context world quoted
      admitted quote).mpr prepared
    simp [checkedQuote, comes, on]

theorem rowBeyond_eq_some (world : World BudgetTable AsyncSession) (row : Budget) :
    row ∈ rowBeyond svc settings policy request requestId context reservedAt world ↔
      ∃ quote quoted,
        checkedQuote svc settings policy request requestId context world = some (quote, quoted) ∧
          enabledBudget context quoted.shared = some row ∧
          (rolledOver row reservedAt).exceeds quote.estimatedCost = true := by
  simp [rowBeyond, guard, Option.bind_eq_some_iff]

/-- The request fails with an exception of this kind. -/
def FailsWith (kind : Exc → Bool)
    (result : EStateM.Result Exc (World BudgetTable AsyncSession) ChatCompletionResponse) : Prop :=
  ∃ exc after, result = .error exc after ∧ kind exc = true

instance (kind : Exc → Bool)
    (result : EStateM.Result Exc (World BudgetTable AsyncSession) ChatCompletionResponse) :
    Decidable (FailsWith kind result) :=
  match result with
  | .ok .. => isFalse fun ⟨_, _, raised, _⟩ => nomatch raised
  | .error exc after => decidable_of_iff (kind exc = true)
      ⟨fun fails => ⟨exc, after, rfl, fails⟩, fun ⟨_, _, raised, fails⟩ => by
        cases raised
        exact fails⟩

/-- What the resolved policy promises of a run: under WARN no budget exception
of this kind, under BLOCK and DOWNGRADE no execution beyond the limit. -/
structure PolicyDecides (kind : Exc → Bool) (world : World BudgetTable AsyncSession) : Prop where
  warns : policy.budgetAction = .WARN →
    ¬ FailsWith kind ((complete svc settings policy request requestId context).run world)
  enforces : policy.budgetAction.enforces = true →
    Executed (exitState ((complete svc settings policy request requestId context).run world)) →
    ∀ row, row ∉ rowBeyond svc settings policy request requestId context reservedAt world

section Request
variable (world : World BudgetTable AsyncSession) (unserved : Unserved world)
variable (own : svc.Own reservedAt settledAt)

include unserved own

theorem prepared_unserved (admitted : Admitted) (quote : Quote)
    (quoted : World BudgetTable AsyncSession)
    (prepared : (prepare svc settings policy request requestId context).run world =
      .ok (.inr (admitted, quote)) quoted) : Unserved quoted :=
  (prepare_unserved svc settings policy request requestId context reservedAt settledAt own world
    unserved).returned prepared

omit unserved in
/-- A request that got its reservation is executed and meets no budget exception. -/
theorem complete_served (admitted : Admitted) (quote : Quote) (reservation : Reservation)
    (quoted reserved : World BudgetTable AsyncSession)
    (prepared : (prepare svc settings policy request requestId context).run world =
      .ok (.inr (admitted, quote)) quoted)
    (reserves : (reserve svc settings context quote).run quoted = .ok reservation reserved)
    (calm : Calm reserved.session) :
    Executed (exitState ((complete svc settings policy request requestId context).run world)) ∧
      ¬ FailsWith Exc.isBudgetRejection
        ((complete svc settings policy request requestId context).run world) := by
  rw [run_complete svc settings policy request requestId context world quoted reserved admitted
    quote reservation prepared reserves]
  constructor
  · exact (serve_executes svc settings policy request context admitted reservation reserved).exit
  · rintro ⟨exc, after, raised, budgetary⟩
    have foreign := ((serve_calm svc settings policy request context reservedAt settledAt own
      admitted reservation reserved calm).raised raised).1
    rw [foreign] at budgetary
    cases budgetary

/-- The check of a row beyond its limit: an enforcing row raises, any other row
lets the reservation through. -/
theorem rowBeyond_checked (row : Budget)
    (beyond : row ∈ rowBeyond svc settings policy request requestId context reservedAt world) :
    ∃ admitted quote quoted,
      (prepare svc settings policy request requestId context).run world =
        .ok (.inr (admitted, quote)) quoted ∧
      ((row.policy.enforces = true ∧
          ∃ after, (reserve svc settings context quote).run quoted =
              .error .missingGreenlet after ∧
            ∀ call ∈ after.calls, call.isExecution = false) ∨
        (row.policy.enforces = false ∧
          ∃ reservation reserved, (reserve svc settings context quote).run quoted =
              .ok reservation reserved ∧ Calm reserved.session)) := by
  obtain ⟨quote, quoted, comes, found, exceeds⟩ := (rowBeyond_eq_some svc settings policy request
    requestId context reservedAt world row).mp beyond
  obtain ⟨on, admitted, prepared⟩ := (checkedQuote_eq_some svc settings policy request requestId
    context world quoted quote).mp comes
  have still := prepared_unserved svc settings policy request requestId context reservedAt settledAt
    world unserved own admitted quote quoted prepared
  refine ⟨admitted, quote, quoted, prepared, ?_⟩
  rcases reserve_checked svc settings context reservedAt settledAt own quote quoted still on with
    ⟨other, same, rejected, raises⟩ | ⟨admits, reserves⟩
  · rw [found] at same
    cases same
    rw [rejects, Bool.and_eq_true] at rejected
    exact Or.inl ⟨rejected.1, raises⟩
  · have warning := admits row found
    rw [rejects, exceeds, Bool.and_true] at warning
    exact Or.inr ⟨warning, reserves⟩

/-- A row that enforces its limit stops the request, whatever the policy says. -/
theorem complete_rejected (row : Budget)
    (beyond : row ∈ rowBeyond svc settings policy request requestId context reservedAt world)
    (enforcing : row.policy.enforces = true) :
    ∃ after, (complete svc settings policy request requestId context).run world =
      .error .missingGreenlet after ∧ ¬ Executed after := by
  obtain ⟨admitted, quote, quoted, prepared, checked⟩ := rowBeyond_checked svc settings policy
    request requestId context reservedAt settledAt world unserved own row beyond
  rcases checked with ⟨-, after, raised, unexecuted⟩ | ⟨warning, -⟩
  · refine ⟨after, ?_, ?_⟩
    · exact run_complete_refused svc settings policy request requestId context world quoted after
        admitted quote .missingGreenlet prepared raised
    · rintro ⟨call, member, executes⟩
      rw [unexecuted call member] at executes
      cases executes
  · rw [enforcing] at warning
    cases warning

/-- A row that only warns lets the request pass, whatever the policy says. -/
theorem complete_admitted (row : Budget)
    (beyond : row ∈ rowBeyond svc settings policy request requestId context reservedAt world)
    (warning : row.policy.enforces = false) :
    Executed (exitState ((complete svc settings policy request requestId context).run world)) ∧
      ¬ FailsWith Exc.isBudgetRejection
        ((complete svc settings policy request requestId context).run world) := by
  obtain ⟨admitted, quote, quoted, prepared, checked⟩ := rowBeyond_checked svc settings policy
    request requestId context reservedAt settledAt world unserved own row beyond
  rcases checked with ⟨enforcing, -⟩ | ⟨-, reservation, reserved, reserves, calm⟩
  · rw [warning] at enforcing
    cases enforcing
  · exact complete_served svc settings policy request requestId context reservedAt settledAt world
      own admitted quote reservation quoted reserved prepared reserves calm

/-- Within the limit only a downgrade can meet a budget exception. -/
theorem complete_within
    (within : ∀ row, row ∉ rowBeyond svc settings policy request requestId context reservedAt world)
    (noDowngrade : policy.budgetAction ≠ .DOWNGRADE) :
    ¬ FailsWith Exc.isBudgetRejection
      ((complete svc settings policy request requestId context).run world) := by
  have kept := prepare_unserved svc settings policy request requestId context reservedAt settledAt
    own world unserved
  cases prepared : (prepare svc settings policy request requestId context).run world with
  | error exc after =>
      have foreign := (kept.raised prepared).1 noDowngrade
      rintro ⟨other, _, raised, budgetary⟩
      rw [run_complete_stopped svc settings policy request requestId context world after exc
        prepared] at raised
      cases raised
      rw [foreign] at budgetary
      cases budgetary
  | ok admission quoted =>
      rcases admission with cached | ⟨admitted, quote⟩
      · rintro ⟨_, _, raised, -⟩
        rw [run_complete_cached svc settings policy request requestId context world quoted cached
          prepared] at raised
        cases raised
      · have still : Unserved quoted := kept.returned prepared
        cases on : budgeted svc settings context with
        | false =>
            exact (complete_served svc settings policy request requestId context reservedAt
              settledAt world own admitted quote _ quoted quoted prepared
              (reserve_unchecked svc settings context quote quoted on) ⟨none, still.1⟩).2
        | true =>
            rcases reserve_checked svc settings context reservedAt settledAt own quote quoted still
              on with ⟨row, found, rejected, -⟩ | ⟨-, reservation, reserved, reserves, calm⟩
            · have comes := (checkedQuote_eq_some svc settings policy request requestId context
                world quoted quote).mpr ⟨on, admitted, prepared⟩
              rw [rejects, Bool.and_eq_true] at rejected
              exact absurd ((rowBeyond_eq_some svc settings policy request requestId context reservedAt
                world row).mpr ⟨quote, quoted, comes, found, rejected.2⟩) (within row)
            · exact (complete_served svc settings policy request requestId context reservedAt
                settledAt world own admitted quote reservation quoted reserved prepared reserves
                calm).2

/-- Where the policy downgrades nothing, only an enforcing row causes a budget exception. -/
theorem rejected_by_row (noDowngrade : policy.budgetAction ≠ .DOWNGRADE)
    (failed : FailsWith Exc.isBudgetRejection
      ((complete svc settings policy request requestId context).run world)) :
    ∃ row ∈ rowBeyond svc settings policy request requestId context reservedAt world,
      row.policy.enforces = true := by
  by_contra none
  apply complete_within svc settings policy request requestId context reservedAt settledAt world
    unserved own ?_ noDowngrade failed
  intro row beyond
  cases enforcing : row.policy.enforces with
  | true => exact none ⟨row, beyond, enforcing⟩
  | false =>
      exact (complete_admitted svc settings policy request requestId context reservedAt settledAt
        world unserved own row beyond enforcing).2 failed

/-- A row beyond its limit is executed exactly when it only warns. -/
theorem executed_iff_warning (row : Budget)
    (beyond : row ∈ rowBeyond svc settings policy request requestId context reservedAt world) :
    Executed (exitState ((complete svc settings policy request requestId context).run world)) ↔
      row.policy.enforces = false := by
  constructor
  · intro executed
    by_contra enforcing
    rw [Bool.not_eq_false] at enforcing
    obtain ⟨after, raised, unexecuted⟩ := complete_rejected svc settings policy request requestId
      context reservedAt settledAt world unserved own row beyond enforcing
    rw [raised] at executed
    exact unexecuted executed
  · intro warning
    exact (complete_admitted svc settings policy request requestId context reservedAt settledAt
      world unserved own row beyond warning).1

/-- A WARN policy never sees `BudgetExceeded`: a rejection by the row ends in
another exception. -/
theorem warn_never_exceeded (warn : policy.budgetAction = .WARN) :
    ¬ FailsWith Exc.isBudgetExceeded
      ((complete svc settings policy request requestId context).run world) := by
  rintro ⟨exc, after, raised, exceeded⟩
  obtain ⟨row, beyond, enforcing⟩ := rejected_by_row svc settings policy request requestId context
    reservedAt settledAt world unserved own (by rw [warn]; decide)
    ⟨exc, after, raised, isBudgetRejection_of_exceeded exc exceeded⟩
  obtain ⟨_, greenlet, -⟩ := complete_rejected svc settings policy request requestId context
    reservedAt settledAt world unserved own row beyond enforcing
  rw [raised] at greenlet
  cases greenlet
  cases exceeded

/-- The row decides.  The policy's promise is kept exactly where a row that the
reservation takes over its limit enforces it whenever the policy does; with
every exception of a rejection counted, where it enforces it just when the
policy does. -/
theorem policyDecides_iff :
    (PolicyDecides svc settings policy request requestId context reservedAt
        Exc.isBudgetExceeded world ↔
      ∀ row ∈ rowBeyond svc settings policy request requestId context reservedAt world,
        policy.budgetAction.enforces = true → row.policy.enforces = true) ∧
    (PolicyDecides svc settings policy request requestId context reservedAt
        Exc.isBudgetRejection world ↔
      ∀ row ∈ rowBeyond svc settings policy request requestId context reservedAt world,
        row.policy.enforces = policy.budgetAction.enforces) := by
  have runs := executed_iff_warning svc settings policy request requestId context reservedAt
    settledAt world unserved own
  -- with an enforcing policy the promise is about the executed requests alone
  have stops (kind : Exc → Bool) (row : Budget)
      (beyond : row ∈ rowBeyond svc settings policy request requestId context reservedAt world)
      (decides : PolicyDecides svc settings policy request requestId context reservedAt kind world)
      (enforces : policy.budgetAction.enforces = true) : row.policy.enforces = true := by
    by_contra warning
    rw [Bool.not_eq_true] at warning
    exact decides.enforces enforces ((runs row beyond).mpr warning) row beyond
  constructor
  · constructor
    · intro decides row beyond
      exact stops _ row beyond decides
    · intro agrees
      constructor
      · exact warn_never_exceeded svc settings policy request requestId context reservedAt settledAt
          world unserved own
      · intro enforces executed row beyond
        have warning := (runs row beyond).mp executed
        rw [agrees row beyond enforces] at warning
        cases warning
  · constructor
    · intro decides row beyond
      cases enforces : policy.budgetAction.enforces with
      | true => exact stops _ row beyond decides enforces
      | false =>
          by_contra enforcing
          rw [Bool.not_eq_false] at enforcing
          obtain ⟨after, raised, -⟩ := complete_rejected svc settings policy request requestId
            context reservedAt settledAt world unserved own row beyond enforcing
          exact decides.warns (warn_of_not_enforces enforces) ⟨_, after, raised, rfl⟩
    · intro agrees
      constructor
      · intro warn failed
        obtain ⟨row, beyond, enforcing⟩ := rejected_by_row svc settings policy request requestId
          context reservedAt settledAt world unserved own (by rw [warn]; decide) failed
        rw [agrees row beyond, warn] at enforcing
        cases enforcing
      · intro enforces executed row beyond
        have warning := (runs row beyond).mp executed
        rw [agrees row beyond, enforces] at warning
        cases warning

end Request
end ChatService

/-! ## A spent budget -/

open ChatService

theorem oneProvider_own (now : Datetime) (execute : EStateM Exc BudgetTable ChatCompletionResponse)
    (foreign : ∀ shared exc after,
      execute.run shared = .error exc after → exc.isBudgetRejection = false) :
    (oneProvider now execute).Own now now where
  budget := by
    intro budgetService given
    cases given
    rfl
  others :=
    { own := fun _ foreign => foreign
      rateLimiter := fun _ given => by cases given
      teamRequestsPerMinute := fun _ given => by cases given
      buildCandidates := fun _ _ _ raised => by cases raised
      semanticCache := fun _ given => by cases given
      execute := fun _ _ _ _ => foreign
      actualCost := by
        intro cost given provider model usage estimatedCost
        cases given
        exact raises_ok _ }

/-- The budget of the team with all of its ten dollars used. -/
def spentWorld (policy : BudgetPolicy) : World BudgetTable AsyncSession :=
  { unusedWorld with
    shared := fun teamId =>
      if teamId = "team-1" then some { unusedBudget with currentUsage := 10, policy := policy }
      else none }

/-- Under the default policy, BLOCK, a WARN row lets a request through with no
budget left; under a WARN policy a BLOCK row stops it. -/
theorem row_overrules_policy :
    ¬ PolicyDecides (oneProvider april (pure helloBack)) defaultSettings globalDefaultPolicy hello
        "req-1" (some member) april Exc.isBudgetExceeded (spentWorld .WARN) ∧
      ¬ PolicyDecides (oneProvider april (pure helloBack)) defaultSettings
        (.merge { noSections with budgetAction := some .WARN }) hello "req-1" (some member) april
        Exc.isBudgetRejection (spentWorld .BLOCK) := by
  constructor
  · intro decides
    have spent : (rowBeyond (oneProvider april (pure helloBack)) defaultSettings globalDefaultPolicy
        hello "req-1" (some member) april (spentWorld .WARN)).isSome = true := by decide +kernel
    obtain ⟨row, beyond⟩ := Option.isSome_iff_exists.mp spent
    have called : (exitState ((complete (oneProvider april (pure helloBack)) defaultSettings
        globalDefaultPolicy hello "req-1" (some member)).run (spentWorld .WARN))).calls.any
          Call.isExecution = true := by decide +kernel
    exact decides.enforces rfl (List.any_eq_true.mp called) row beyond
  · intro decides
    have stopped : FailsWith Exc.isBudgetRejection
        ((complete (oneProvider april (pure helloBack)) defaultSettings
          (.merge { noSections with budgetAction := some .WARN }) hello "req-1" (some member)).run
            (spentWorld .BLOCK)) := by decide +kernel
    exact decides.warns rfl stopped

/-- A spent BLOCK row under the default policy. -/
theorem policyDecides_spent :
    PolicyDecides (oneProvider april (pure helloBack)) defaultSettings globalDefaultPolicy hello
        "req-1" (some member) april Exc.isBudgetExceeded (spentWorld .BLOCK) ∧
      PolicyDecides (oneProvider april (pure helloBack)) defaultSettings globalDefaultPolicy hello
        "req-1" (some member) april Exc.isBudgetRejection (spentWorld .BLOCK) := by
  have own := oneProvider_own april (pure helloBack) (fun _ _ _ raised => by cases raised)
  have decided := policyDecides_iff (oneProvider april (pure helloBack)) defaultSettings
    globalDefaultPolicy hello "req-1" (some member) april april (spentWorld .BLOCK)
    ⟨rfl, fun _ member => by cases member⟩ own
  have side : (rowBeyond (oneProvider april (pure helloBack)) defaultSettings globalDefaultPolicy
      hello "req-1" (some member) april (spentWorld .BLOCK)).map (·.policy.enforces) =
        some true := by decide +kernel
  have agrees : ∀ row ∈ rowBeyond (oneProvider april (pure helloBack)) defaultSettings
      globalDefaultPolicy hello "req-1" (some member) april (spentWorld .BLOCK),
      row.policy.enforces = true := by
    intro row beyond
    rw [Option.mem_def.mp beyond] at side
    simpa using side
  constructor
  · apply decided.1.mpr
    intro row beyond _
    exact agrees row beyond
  · apply decided.2.mpr
    exact agrees

end CortexGateway
