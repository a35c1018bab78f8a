import CortexGateway.Api.Effects
import CortexGateway.Lib.Refinement

/-! # What a team has set

The budget, the rate-limit overrides and the policy of a team, as an admin sees
them: commands on one value for each team.  The endpoints for them answer and
write as these commands do, and nothing else the API does touches them. -/
set_option autoImplicit false
namespace CortexGateway.AdminApi
open Budgeting RateLimiting Exits

/-! ## The settings and their commands -/

/-- A budget without its usage. -/
structure BudgetSettings where
  limitAmount : ℚ
  period : BudgetPeriod
  policy : BudgetPolicy
  enabled : Bool
  deriving DecidableEq

structure Overrides where
  requestsPerMinute : Option ℤ
  requestsPerHour : Option ℤ
  deriving DecidableEq

/-- The inner `none` of a policy is a document that is not valid. -/
@[ext] structure TeamSettings where
  budget : Option BudgetSettings
  overrides : Option Overrides
  policy : Option (Option TeamPolicyInput)

abbrev SettingsStore := String → TeamSettings

inductive SettingsCommand
  | createBudget (body : BudgetCreate)
  | getBudget
  | updateBudget (body : BudgetUpdate)
  | deleteBudget
  | getRateLimits
  | setRateLimits (body : TeamRateLimitSet)
  | deleteRateLimits
  | getPolicy
  | putPolicy (body : Except String TeamPolicyInput)
  | deletePolicy

inductive SettingsAnswer
  | refused (statusCode : ℕ)
  | budget (statusCode : ℕ) (budget : BudgetSettings)
  | rateLimits (response : TeamRateLimitResponse)
  | policy (resolved : ResolvedPolicy × String)
  | deleted
  -- an answer about something else
  | other
  deriving DecidableEq

/-- An experiment that is on goes to registered providers. -/
def armsRegistered (registry : ProviderRegistry) (input : TeamPolicyInput) : Bool :=
  input.experiment.all fun experiment =>
    !experiment.enabled || experiment.arms.all fun arm => registry.isRegistered arm.provider

namespace TeamSettings

def updatedBudget (budget : BudgetSettings) (body : BudgetUpdate) : BudgetSettings :=
  { budget with
    limitAmount := body.limitAmount.getD budget.limitAmount
    policy := body.policy.getD budget.policy
    enabled := body.enabled.getD budget.enabled }

/-- The policy in force, with its source. -/
def resolved (settings : TeamSettings) (teamId : String) : ResolvedPolicy × String :=
  if teamId = "" then (globalDefaultPolicy, "global")
  else
    match settings.policy.join with
    | some input => (.merge input, "team")
    | none => (globalDefaultPolicy, "global")

def rateLimits (settings : TeamSettings) (teamId : String) (defaults : Settings) :
    TeamRateLimitResponse :=
  let perMinute := settings.overrides.bind Overrides.requestsPerMinute
  let perHour := settings.overrides.bind Overrides.requestsPerHour
  { teamId := teamId
    effectiveRequestsPerMinute := perMinute.getD defaults.rateLimitTeamRequests
    effectiveRequestsPerHour := perHour
    overrideRequestsPerMinute := perMinute
    overrideRequestsPerHour := perHour
    globalRequestsPerMinute := defaults.rateLimitTeamRequests
    globalRequestsPerHour := none }

/-- The answer to a command and the settings after it. -/
def perform (env : AdminEnv) (teamId : String) (settings : TeamSettings) :
    SettingsCommand → SettingsAnswer × TeamSettings
  | .createBudget body =>
      match settings.budget with
      | some _ => (.refused 409, settings)
      | none =>
          let budget := ⟨body.limitAmount, body.period, body.policy, body.enabled⟩
          (.budget 201 budget, { settings with budget := some budget })
  | .getBudget =>
      match settings.budget with
      | some budget => (.budget 200 budget, settings)
      | none => (.refused 404, settings)
  | .updateBudget body =>
      match settings.budget with
      | some budget =>
          (.budget 200 (updatedBudget budget body),
            { settings with budget := some (updatedBudget budget body) })
      | none => (.refused 404, settings)
  | .deleteBudget =>
      if settings.budget.isSome then (.deleted, { settings with budget := none })
      else (.refused 404, settings)
  | .getRateLimits => (.rateLimits (settings.rateLimits teamId env.settings), settings)
  | .setRateLimits body =>
      let after :=
        { settings with overrides := some ⟨body.requestsPerMinute, body.requestsPerHour⟩ }
      (.rateLimits (after.rateLimits teamId env.settings), after)
  | .deleteRateLimits =>
      if settings.overrides.isSome then (.deleted, { settings with overrides := none })
      else (.refused 404, settings)
  | .getPolicy => (.policy (settings.resolved teamId), settings)
  | .putPolicy (.error _) => (.refused 422, settings)
  | .putPolicy (.ok input) =>
      if armsRegistered env.registry input then
        let after := { settings with policy := some (some input) }
        (.policy (after.resolved teamId), after)
      else (.refused 500, settings)
  | .deletePolicy =>
      if settings.policy.isSome then (.deleted, { settings with policy := none })
      else (.refused 404, settings)

end TeamSettings

def settingsStep (env : AdminEnv) (store : SettingsStore) (command : String × SettingsCommand) :
    SettingsAnswer × SettingsStore :=
  let (answer, settings) := (store command.1).perform env command.1 command.2
  (answer, Function.update store command.1 settings)

/-! ## The rows as settings -/

def BudgetSettings.ofRow (budget : Budget) : BudgetSettings :=
  ⟨budget.limitAmount, budget.period, budget.policy, budget.enabled⟩

def settingsOfRows (rows : TeamRows) : TeamSettings :=
  { budget := rows.budget.map fun row => .ofRow row.1
    overrides := rows.rateLimit.map fun row => ⟨row.requestsPerMinute, row.requestsPerHour⟩
    policy := (rows.policy.filter TeamPolicyModel.enabled).map TeamPolicyModel.policy }

def settingsOf (db : Database) : SettingsStore := fun teamId => settingsOfRows (db.teamRows teamId)

def Success.setting : Success → SettingsAnswer
  | .budgetCreated response =>
      .budget 201 ⟨response.limitAmount, response.period, response.policy, response.enabled⟩
  | .budget response =>
      .budget 200 ⟨response.limitAmount, response.period, response.policy, response.enabled⟩
  | .noContent => .deleted
  | .rateLimits response => .rateLimits response
  | .policy response => .policy (response.policy, response.source)
  | _ => .other

def GatewayReply.setting : GatewayReply → SettingsAnswer
  | .api (some (.ok success)) => success.setting
  | .api (some (.error error)) => .refused error.statusCode
  | _ => .other

def Endpoint.setting : Endpoint → Option (String × SettingsCommand)
  | .createBudget teamId body _ => some (teamId, .createBudget body)
  | .getBudget teamId => some (teamId, .getBudget)
  | .updateBudget teamId body => some (teamId, .updateBudget body)
  | .deleteBudget teamId => some (teamId, .deleteBudget)
  | .getTeamRateLimits teamId => some (teamId, .getRateLimits)
  | .setTeamRateLimits teamId body _ => some (teamId, .setRateLimits body)
  | .deleteTeamRateLimits teamId => some (teamId, .deleteRateLimits)
  | .getPolicy teamId => some (teamId, .getPolicy)
  | .putPolicy teamId body _ => some (teamId, .putPolicy body)
  | .deletePolicy teamId => some (teamId, .deletePolicy)
  | _ => none

/-- A call of an admin about the settings of a team of its organization. -/
def settingsCommand (env : AdminEnv) (state : ApiState) :
    GatewayAction → Option (String × SettingsCommand)
  | .api (.call call) =>
      match getRequestContext env state.db call.credentials call.now with
      | .ok context =>
          if context.role = "admin" then
            call.endpoint.setting.filter fun command =>
              state.db.owns context.organizationId command.1
          else none
      | .error _ => none
  | _ => none

/-! ## Reading and writing the rows -/

section Rows
variable {env : AdminEnv} {db after : Database} {context : RequestContext} {now : Datetime}
variable {teamId : String}

theorem resolvePolicy_settings (db : Database) (teamId : String) :
    resolvePolicy db teamId = (settingsOf db teamId).resolved teamId := by
  unfold resolvePolicy TeamSettings.resolved
  split_ifs
  · rfl
  · simp only [settingsOf, settingsOfRows, getPolicyModel]
    cases (db.teamRows teamId).policy.filter TeamPolicyModel.enabled with
    | none => rfl
    | some row => rfl

theorem buildResponse_settings (rows : TeamRows) (teamId : String) (defaults : Settings) :
    buildResponse teamId rows.rateLimit defaults =
      (settingsOfRows rows).rateLimits teamId defaults := by
  simp only [buildResponse, TeamSettings.rateLimits, settingsOfRows]
  cases rows.rateLimit <;> rfl

theorem resolveTeam_of_owns (owned : db.owns context.organizationId teamId = true) :
    resolveTeam db teamId context = .ok () := by
  obtain ⟨team, listed, own, same⟩ := Database.owns_iff.mp owned
  unfold resolveTeam
  split
  · rename_i absent
    have refused := List.find?_eq_none.mp absent team listed
    simp [own, same] at refused
  · rfl

theorem writeTeamRows_owned {organizationId : String} (owned : db.owns organizationId teamId = true)
    (rows : TeamRows) : ∃ after, db.writeTeamRows teamId rows = .ok after ∧
      after.teamRows = Function.update db.teamRows teamId rows := by
  rw [Database.writeTeamRows, dif_pos (Database.hasTeam_of_owns owned)]
  exact ⟨_, rfl, rfl⟩

theorem settingsOf_written {rows : TeamRows}
    (written : after.teamRows = Function.update db.teamRows teamId rows) :
    settingsOf after = Function.update (settingsOf db) teamId (settingsOfRows rows) := by
  funext other
  by_cases same : other = teamId
  · subst same
    simp only [settingsOf, written, Function.update_self]
  · simp only [settingsOf, written, Function.update_of_ne same]

/-- What a handler answers and leaves of the settings. -/
def outcomeOf (db : Database) : Except ApiError (Success × Database) → SettingsAnswer × SettingsStore
  | .error error => (.refused error.statusCode, settingsOf db)
  | .ok (success, after) => (success.setting, settingsOf after)

/-- A command that leaves the settings as they are. -/
theorem settingsStep_stays {command : SettingsCommand} {answer : SettingsAnswer}
    {store : SettingsStore} (performed : (store teamId).perform env teamId command =
      (answer, store teamId)) : settingsStep env store (teamId, command) = (answer, store) := by
  simp only [settingsStep, performed, Function.update_eq_self]

theorem settingsStep_moves {command : SettingsCommand} {answer : SettingsAnswer}
    {store : SettingsStore} {settings : TeamSettings}
    (performed : (store teamId).perform env teamId command = (answer, settings)) :
    settingsStep env store (teamId, command) = (answer, Function.update store teamId settings) := by
  simp only [settingsStep, performed]

end Rows

/-! ## The handlers -/

section Handlers
variable {env : AdminEnv} {db : Database} {context : RequestContext} (now : Datetime)
variable {teamId : String}

/-- A budget call on a team of the caller's organization: what it makes of the
row of the team is written. -/
theorem budgetCall_written {α : Type} {program : BudgetM α}
    {result : Option Budget → Except Exc (α × Option Budget)} {value : α} {row : Option Budget}
    (owned : db.owns context.organizationId teamId = true) (oneRow : OneRow teamId program result)
    (computed : result ((db.teamRows teamId).budget.map Prod.fst) = .ok (value, row)) :
    ∃ after, runBudget db teamId now program = .ok (value, after) ∧
      settingsOf after = Function.update (settingsOf db) teamId
        { settingsOf db teamId with budget := row.map BudgetSettings.ofRow } := by
  obtain ⟨after, written, rows⟩ := writeTeamRows_owned owned
    { db.teamRows teamId with
      budget := row.map fun budget => (budget, createdAtOf db teamId now) }
  refine ⟨after, ?_, (settingsOf_written rows).trans ?_⟩
  · rw [oneRow.runBudget, computed]
    simp only [bind, Except.bind, written]
    rfl
  · simp only [settingsOfRows, settingsOf, Option.map_map, Function.comp_def]

theorem budgetCall_refused {α : Type} {program : BudgetM α}
    {result : Option Budget → Except Exc (α × Option Budget)} {exc : Exc}
    (oneRow : OneRow teamId program result)
    (computed : result ((db.teamRows teamId).budget.map Prod.fst) = .error exc) :
    runBudget db teamId now program = .error exc := by
  rw [oneRow.runBudget, computed]
  rfl

theorem budget_setting (db : Database) (teamId : String) :
    (settingsOf db teamId).budget = ((db.teamRows teamId).budget.map Prod.fst).map .ofRow := by
  simp only [settingsOf, settingsOfRows, Option.map_map, Function.comp_def]

theorem createBudget_setting (owned : db.owns context.organizationId teamId = true)
    (body : BudgetCreate) (newId : String) :
    outcomeOf db (createBudget db teamId body newId context now) =
      settingsStep env (settingsOf db) (teamId, .createBudget body) := by
  have resolved := resolveTeam_of_owns owned
  have setting := budget_setting db teamId
  have oneRow := oneRow_createBudget teamId newId body now
  cases found : (db.teamRows teamId).budget.map Prod.fst with
  | none =>
      rw [found] at setting
      have computed : createResult teamId newId body now
          ((db.teamRows teamId).budget.map Prod.fst) =
          .ok (created teamId newId body now, some (created teamId newId body now)) := by
        rw [found]
        rfl
      obtain ⟨after, ran, written⟩ := budgetCall_written now owned oneRow computed
      rw [settingsStep_moves (by simp only [TeamSettings.perform, setting, Option.map_none]; rfl)]
      simp only [createBudget, resolved, ran, bind, Except.bind, Except.mapError, pure, Except.pure,
        outcomeOf, written]
      rfl
  | some row =>
      rw [found] at setting
      have computed : ∃ message, createResult teamId newId body now
          ((db.teamRows teamId).budget.map Prod.fst) =
          .error (.budgetConfigurationError message) := by
        rw [found]
        exact ⟨_, rfl⟩
      obtain ⟨message, computed⟩ := computed
      have ran := budgetCall_refused now oneRow computed
      rw [settingsStep_stays (by simp only [TeamSettings.perform, setting, Option.map_some]; rfl)]
      simp only [createBudget, resolved, ran, bind, Except.bind, Except.mapError]
      rfl

theorem getBudget_setting (owned : db.owns context.organizationId teamId = true) :
    outcomeOf db (getBudget db teamId context) =
      settingsStep env (settingsOf db) (teamId, .getBudget) := by
  have resolved := resolveTeam_of_owns owned
  cases found : (db.teamRows teamId).budget with
  | none =>
      have setting : (settingsOf db teamId).budget = none := by simp [budget_setting, found]
      rw [settingsStep_stays (by simp only [TeamSettings.perform, setting]; rfl)]
      simp only [getBudget, resolved, found, bind, Except.bind]
      rfl
  | some row =>
      have setting : (settingsOf db teamId).budget = some (.ofRow row.1) := by
        simp [budget_setting, found]
      rw [settingsStep_stays (by simp only [TeamSettings.perform, setting]; rfl)]
      simp only [getBudget, resolved, found, bind, Except.bind]
      rfl

theorem updateBudget_setting (owned : db.owns context.organizationId teamId = true)
    (body : BudgetUpdate) :
    outcomeOf db (updateBudget db teamId body context now) =
      settingsStep env (settingsOf db) (teamId, .updateBudget body) := by
  have resolved := resolveTeam_of_owns owned
  have setting := budget_setting db teamId
  have oneRow := oneRow_updateBudget teamId body now
  cases found : (db.teamRows teamId).budget.map Prod.fst with
  | none =>
      rw [found] at setting
      have computed : ∃ message, updateResult teamId body now
          ((db.teamRows teamId).budget.map Prod.fst) =
          .error (.budgetConfigurationError message) := by
        rw [found]
        exact ⟨_, rfl⟩
      obtain ⟨message, computed⟩ := computed
      have ran := budgetCall_refused now oneRow computed
      rw [settingsStep_stays (by simp only [TeamSettings.perform, setting, Option.map_none]; rfl)]
      simp only [updateBudget, resolved, ran, bind, Except.bind, Except.mapError]
      rfl
  | some row =>
      rw [found] at setting
      have computed : updateResult teamId body now ((db.teamRows teamId).budget.map Prod.fst) =
          .ok (updated row body now, some (updated row body now)) := by
        rw [found]
        rfl
      obtain ⟨after, ran, written⟩ := budgetCall_written now owned oneRow computed
      rw [settingsStep_moves (by simp only [TeamSettings.perform, setting, Option.map_some]; rfl)]
      simp only [updateBudget, resolved, ran, bind, Except.bind, Except.mapError, pure, Except.pure,
        outcomeOf, written]
      rfl

theorem deleteBudget_setting (owned : db.owns context.organizationId teamId = true) :
    outcomeOf db (deleteBudget db teamId context now) =
      settingsStep env (settingsOf db) (teamId, .deleteBudget) := by
  have resolved := resolveTeam_of_owns owned
  have setting := budget_setting db teamId
  have computed : deleteResult ((db.teamRows teamId).budget.map Prod.fst) =
      .ok (((db.teamRows teamId).budget.map Prod.fst).isSome, none) := rfl
  obtain ⟨after, ran, written⟩ :=
    budgetCall_written now owned (oneRow_deleteBudget teamId) computed
  cases found : (db.teamRows teamId).budget.map Prod.fst with
  | none =>
      rw [found] at setting ran
      rw [settingsStep_stays (by simp only [TeamSettings.perform, setting, Option.map_none]; rfl)]
      simp only [deleteBudget, resolved, ran, unhandled, bind, Except.bind, Except.mapError]
      rfl
  | some row =>
      rw [found] at setting ran
      rw [settingsStep_moves (by simp only [TeamSettings.perform, setting, Option.map_some]; rfl)]
      simp only [deleteBudget, resolved, ran, unhandled, bind, Except.bind, Except.mapError, pure,
        Except.pure, Option.isSome_some, if_true, outcomeOf, written]
      rfl

theorem getTeamRateLimits_setting (owned : db.owns context.organizationId teamId = true) :
    outcomeOf db (getTeamRateLimits env db teamId context) =
      settingsStep env (settingsOf db) (teamId, .getRateLimits) := by
  have resolved := resolveTeam_of_owns owned
  rw [settingsStep_stays rfl]
  simp only [getTeamRateLimits, resolved, TeamRateLimitService.get, bind, Except.bind,
    buildResponse_settings (db.teamRows teamId)]
  rfl

theorem setTeamRateLimits_setting (owned : db.owns context.organizationId teamId = true)
    (body : TeamRateLimitSet) (newId : String) :
    outcomeOf db (setTeamRateLimits env db teamId body newId context now) =
      settingsStep env (settingsOf db) (teamId, .setRateLimits body) := by
  have resolved := resolveTeam_of_owns owned
  let row := TeamRateLimitService.overrideRow (db.teamRows teamId).rateLimit teamId newId
    body.requestsPerMinute body.requestsPerHour now
  let rows : TeamRows := { db.teamRows teamId with rateLimit := some row }
  have overrides : settingsOfRows rows = { settingsOf db teamId with
      overrides := some ⟨body.requestsPerMinute, body.requestsPerHour⟩ } := by
    simp only [settingsOfRows, rows, row, TeamRateLimitService.overrideRow, settingsOf]
    cases (db.teamRows teamId).rateLimit <;> rfl
  obtain ⟨after, stored, teamRows⟩ := writeTeamRows_owned owned rows
  have written := settingsOf_written teamRows
  rw [overrides] at written
  have shown := buildResponse_settings rows teamId env.settings
  rw [overrides] at shown
  rw [settingsStep_moves rfl, ← written]
  have answered : setTeamRateLimits env db teamId body newId context now =
      .ok (.rateLimits (buildResponse teamId (some row) env.settings), after) := by
    simp only [setTeamRateLimits, resolved, TeamRateLimitService.set, TeamRateLimitService.get,
      Function.update_self, bind, Except.bind]
    have wrote : db.writeTeamRows teamId { db.teamRows teamId with rateLimit := some row } =
        .ok after := stored
    rw [wrote]
    rfl
  rw [answered, outcomeOf]
  exact congrArg (fun response => (SettingsAnswer.rateLimits response, settingsOf after)) shown

theorem deleteTeamRateLimits_setting (owned : db.owns context.organizationId teamId = true) :
    outcomeOf db (deleteTeamRateLimits db teamId context) =
      settingsStep env (settingsOf db) (teamId, .deleteRateLimits) := by
  have resolved := resolveTeam_of_owns owned
  have setting : (settingsOf db teamId).overrides = (db.teamRows teamId).rateLimit.map
      fun row => ⟨row.requestsPerMinute, row.requestsPerHour⟩ := rfl
  cases found : (db.teamRows teamId).rateLimit with
  | none =>
      rw [found] at setting
      rw [settingsStep_stays (by simp only [TeamSettings.perform, setting, Option.map_none]; rfl)]
      simp only [deleteTeamRateLimits, resolved, TeamRateLimitService.delete,
        TeamRateLimitService.get, found, bind, Except.bind]
      rfl
  | some row =>
      rw [found] at setting
      obtain ⟨after, stored, teamRows⟩ := writeTeamRows_owned owned
        { db.teamRows teamId with rateLimit := none }
      have written := settingsOf_written teamRows
      rw [settingsStep_moves (by simp only [TeamSettings.perform, setting, Option.map_some]; rfl)]
      simp only [deleteTeamRateLimits, resolved, TeamRateLimitService.delete,
        TeamRateLimitService.get, found, Function.update_self, stored, unhandled, bind, Except.bind,
        Except.mapError, if_true, pure, Except.pure, outcomeOf, written]
      rfl

theorem getPolicy_setting (owned : db.owns context.organizationId teamId = true) :
    outcomeOf db (getPolicy db teamId context) =
      settingsStep env (settingsOf db) (teamId, .getPolicy) := by
  have resolved := resolveTeam_of_owns owned
  rw [settingsStep_stays rfl]
  simp only [getPolicy, resolved, bind, Except.bind, resolvePolicy_settings]
  rfl

theorem validatePolicy_eq (env : AdminEnv) (input : TeamPolicyInput) :
    validatePolicy env input = if armsRegistered env.registry input then .ok ()
      else .error (.unhandled (.typeError "'list' object is not callable")) := by
  unfold validatePolicy armsRegistered
  cases input.experiment with
  | none => rfl
  | some experiment =>
      cases enabled : experiment.enabled with
      | false => simp [enabled]
      | true =>
          simp only [enabled, if_true, Option.all_some, Bool.not_true, Bool.false_or,
            validateExperimentArms]
          rfl

theorem putPolicy_setting (owned : db.owns context.organizationId teamId = true)
    (body : Except String TeamPolicyInput) (newId : String) :
    outcomeOf db (putPolicy env db teamId body newId context now) =
      settingsStep env (settingsOf db) (teamId, .putPolicy body) := by
  have resolved := resolveTeam_of_owns owned
  cases body with
  | error detail =>
      rw [settingsStep_stays rfl]
      simp only [putPolicy, resolved, bind, Except.bind, Except.mapError]
      rfl
  | ok input =>
      rw [putPolicy_eq, resolved]
      simp only [bind, Except.bind, validatePolicy_eq]
      by_cases registered : armsRegistered env.registry input = true
      · let row := upsertPolicy (db.teamRows teamId).policy teamId newId input now
        let rows : TeamRows := { db.teamRows teamId with policy := some row }
        have policy : settingsOfRows rows =
            { settingsOf db teamId with policy := some (some input) } := by
          simp only [settingsOfRows, rows, row, upsertPolicy, settingsOf]
          cases (db.teamRows teamId).policy <;> rfl
        obtain ⟨after, stored, teamRows⟩ := writeTeamRows_owned owned rows
        have written := settingsOf_written teamRows
        rw [policy] at written
        have shown := resolvePolicy_settings after teamId
        rw [written, Function.update_self] at shown
        rw [settingsStep_moves (by simp only [TeamSettings.perform, if_pos registered]; rfl),
          ← written, ← shown]
        have saved : savePolicy teamId input newId now db = .ok (.policy (toPolicyResponse teamId
            (resolvePolicy after teamId) (some row.updatedAt)), after) := by
          simp only [savePolicy, bind, Except.bind]
          have wrote : db.writeTeamRows teamId { db.teamRows teamId with policy := some row } =
              .ok after := stored
          rw [wrote]
          rfl
        simp only [if_pos registered, saved]
        rfl
      · rw [settingsStep_stays (by simp only [TeamSettings.perform, if_neg registered]; rfl)]
        simp only [if_neg registered]
        rfl

theorem deletePolicy_setting (owned : db.owns context.organizationId teamId = true) :
    outcomeOf db (deletePolicy db teamId context) =
      settingsStep env (settingsOf db) (teamId, .deletePolicy) := by
  have resolved := resolveTeam_of_owns owned
  have setting : (settingsOf db teamId).policy =
      (getPolicyModel db teamId).map TeamPolicyModel.policy := rfl
  cases found : getPolicyModel db teamId with
  | none =>
      rw [found] at setting
      rw [settingsStep_stays (by simp only [TeamSettings.perform, setting, Option.map_none]; rfl)]
      simp only [deletePolicy, resolved, found, bind, Except.bind]
      rfl
  | some row =>
      rw [found] at setting
      obtain ⟨after, stored, teamRows⟩ := writeTeamRows_owned owned
        { db.teamRows teamId with policy := none }
      have written := settingsOf_written teamRows
      rw [settingsStep_moves (by simp only [TeamSettings.perform, setting, Option.map_some]; rfl)]
      simp only [deletePolicy, resolved, found, stored, unhandled, bind, Except.bind,
        Except.mapError, pure, Except.pure, outcomeOf, written]
      rfl

theorem handle_setting {endpoint : Endpoint} {command : SettingsCommand}
    (given : endpoint.setting = some (teamId, command))
    (owned : db.owns context.organizationId teamId = true) :
    outcomeOf db (handle env db context now endpoint) =
      settingsStep env (settingsOf db) (teamId, command) := by
  cases endpoint with
  | createBudget team body newId => cases given; exact createBudget_setting now owned body newId
  | getBudget team => cases given; exact getBudget_setting owned
  | updateBudget team body => cases given; exact updateBudget_setting now owned body
  | deleteBudget team => cases given; exact deleteBudget_setting now owned
  | getTeamRateLimits team => cases given; exact getTeamRateLimits_setting owned
  | setTeamRateLimits team body newId =>
      cases given; exact setTeamRateLimits_setting now owned body newId
  | deleteTeamRateLimits team => cases given; exact deleteTeamRateLimits_setting owned
  | getPolicy team => cases given; exact getPolicy_setting owned
  | putPolicy team body newId => cases given; exact putPolicy_setting now owned body newId
  | deletePolicy team => cases given; exact deletePolicy_setting owned
  | _ => cases given

end Handlers

/-! ## Runs -/

section Runs
variable {env : AdminEnv}

theorem settingsOf_congr {db after : Database} (same : after.teamRows = db.teamRows) :
    settingsOf after = settingsOf db := by
  unfold settingsOf
  rw [same]

/-- Rows are written by the endpoint of a command to that team. -/
theorem RowsWritten.setting {now : Datetime} {rows after : TeamRows} {endpoint : Endpoint}
    {teamId : String} (became : RowsWritten now rows endpoint teamId after) :
    ∃ command, endpoint.setting = some (teamId, command) := by
  cases became <;> exact ⟨_, rfl⟩

/-- Whatever is no command leaves the settings of every team. -/
theorem Moves.settings {state : ApiState} {action : GatewayAction} {reply : GatewayReply}
    {after : Database} (moves : Moves env state.db action reply after)
    (silent : settingsCommand env state action = none) :
    settingsOf after = settingsOf state.db := by
  cases moves with
  | same action reply unanswered => rfl
  | touched task keyId now => rfl
  | organizationInserted call body newId reply after unanswered inserted =>
      unfold Database.insertOrganization at inserted
      split_ifs at inserted
      cases inserted
      rfl
  | handled call context success after authenticated admin handled =>
      simp only [settingsCommand, authenticated, if_pos admin] at silent
      generalize call.endpoint = endpoint at handled silent
      cases handled with
      | read endpoint success noChange => rfl
      | keyRevoked key member own => rfl
      | teamInserted body newId after inserted =>
          unfold Database.insertTeam at inserted
          split_ifs at inserted
          cases inserted
          rfl
      | keyInserted body newId randomPart after inserted =>
          unfold Database.insertKey at inserted
          split_ifs at inserted
          cases inserted
          rfl
      | rowsWritten endpoint success teamId rows after noChange owned became written =>
          obtain ⟨command, given⟩ := became.setting
          rw [given, Option.filter_some, if_pos owned] at silent
          cases silent

/-- Commands to other teams leave a team alone. -/
theorem settingsStep_others {teamId : String} {commands : List (String × SettingsCommand)}
    (others : ∀ command ∈ commands, command.1 ≠ teamId) (store : SettingsStore) :
    (Isolation.run (settingsStep env) store commands).2 teamId = store teamId := by
  induction commands generalizing store with
  | nil => rfl
  | cons command rest ih =>
      refine (ih (fun other member => others other (List.mem_cons_of_mem _ member)) _).trans ?_
      exact Function.update_of_ne (others command List.mem_cons_self).symm _ _

/-- The API refines the commands. -/
theorem settings_refines (env : AdminEnv) :
    Refinement.Refines (gatewayStep env) (settingsCommand env) GatewayReply.setting
      (settingsStep env) fun state => settingsOf state.db := by
  refine ⟨fun state action command given => ?_, fun state action silent =>
    (gatewayStep_moves state action).settings silent⟩
  cases action with
  | account call => cases given
  | api action =>
      cases action with
      | lastUsed task now => cases given
      | call call =>
          obtain ⟨credentials, endpoint, now⟩ := call
          unfold settingsCommand at given
          dsimp only at given
          cases authenticated : getRequestContext env state.db credentials now with
          | error error => simp [authenticated] at given
          | ok context =>
              simp only [authenticated] at given
              split_ifs at given with admin
              obtain ⟨setting, owned⟩ := Option.filter_eq_some_iff.mp given
              have outcome : outcomeOf state.db (handle env state.db context now endpoint) = _ :=
                handle_setting now setting owned
              have allowed : requireAdmin context = .ok () := by
                simp [requireAdmin, admin, pure, Except.pure]
              rw [← outcome]
              simp only [gatewayStep, apiStep, perform, authenticated, allowed]
              cases handle env state.db context now endpoint with
              | error error => rfl
              | ok returned => rfl

end Runs

end CortexGateway.AdminApi
