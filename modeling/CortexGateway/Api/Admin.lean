import CortexGateway.Auth.Service
import CortexGateway.Observability.Analytics

/-! # The admin API

The endpoints for teams, API keys, budgets, rate limits, policies and
analytics, over one database.  A call authenticates, must have the admin role,
and is committed when its handler returns.  Fresh ids, the random part of a key
and the clock come with the call. -/
set_option autoImplicit false
namespace CortexGateway

/-- `usage_percentage`. -/
def Budgeting.Budget.usagePercentage (budget : Budgeting.Budget) : ℚ :=
  if budget.limitAmount ≤ 0 then 0 else roundTo (budget.currentUsage / budget.limitAmount * 100) 2

namespace AdminApi
open Budgeting RateLimiting

/-- What the process has loaded: the keyed hash, the settings and the providers. -/
structure AdminEnv where
  hmac : String → String → String
  apiKeyPepper : String
  settings : Settings
  registry : ProviderRegistry

/-! ## Bodies and responses -/

structure TeamCreate where
  name : String
  slug : String

structure APIKeyCreate where
  name : String
  role : String
  expiresAt : Option Datetime

structure TeamRateLimitSet where
  requestsPerMinute : Option ℤ
  requestsPerHour : Option ℤ

/-- The date range of an analytics query. -/
structure DateRange where
  fromDt : Option Datetime
  toDt : Option Datetime

/-- The safe columns of a key. -/
structure APIKeyResponse where
  id : String
  name : String
  keyPrefix : String
  role : String
  expiresAt : Option Datetime
  revokedAt : Option Datetime
  createdAt : Datetime
  lastUsedAt : Option Datetime
  deriving DecidableEq

def APIKeyResponse.ofRow (key : APIKey) : APIKeyResponse :=
  ⟨key.id, key.name, key.keyPrefix, key.role, key.expiresAt, key.revokedAt, key.createdAt,
    key.lastUsedAt⟩

structure APIKeyCreatedResponse where
  id : String
  name : String
  key : String
  keyPrefix : String
  role : String
  expiresAt : Option Datetime
  createdAt : Datetime
  deriving DecidableEq

/-- `reserved` is not shown. -/
structure BudgetResponse where
  id : String
  teamId : String
  limitAmount : ℚ
  currentUsage : ℚ
  period : BudgetPeriod
  periodStart : Datetime
  periodEnd : Datetime
  policy : BudgetPolicy
  enabled : Bool
  createdAt : Datetime
  updatedAt : Datetime
  remainingAmount : ℚ
  usagePercentage : ℚ
  deriving DecidableEq

def BudgetResponse.fromOrmWithDerived (budget : Budget) (createdAt : Datetime) : BudgetResponse :=
  { id := budget.id
    teamId := budget.teamId
    limitAmount := budget.limitAmount
    currentUsage := budget.currentUsage
    period := budget.period
    periodStart := budget.periodStart
    periodEnd := budget.periodEnd
    policy := budget.policy
    enabled := budget.enabled
    createdAt := createdAt
    updatedAt := budget.updatedAt
    remainingAmount := budget.remainingAmount
    usagePercentage := budget.usagePercentage }

structure PolicyResponse where
  teamId : String
  policy : ResolvedPolicy
  source : String
  updatedAt : Option String
  deriving DecidableEq

/-- What a handler answers with. -/
inductive Success
  | team (team : Team)
  | teams (teams : List Team)
  | keyCreated (key : APIKeyCreatedResponse)
  | keys (keys : List APIKeyResponse)
  | keyRevoked (key : APIKeyResponse)
  | keyNotFound
  | budgetCreated (budget : BudgetResponse)
  | budget (budget : BudgetResponse)
  | noContent
  | rateLimits (response : TeamRateLimitResponse)
  | policy (response : PolicyResponse)
  | requests (data : List RequestLogItem) (page pageSize total : ℕ)
  | costs (groupBy : String) (fromText toText : Option String) (data : List CostGroupItem)
  | latency (data : List LatencyGroupItem)
  | errors (data : List ErrorGroupItem)
  | fallbacks (data : List FallbackGroupItem)
  | budgetEvents (data : List BudgetEventItem)
  | timeseries (bucket : String) (data : List TimeseriesBucket)
  deriving DecidableEq

def Success.statusCode : Success → ℕ
  | .team _ => 201
  | .keyCreated _ => 201
  | .budgetCreated _ => 201
  | .keyNotFound => 404
  | .noContent => 204
  | _ => 200

/-- An endpoint with its path, its body and its query.  `newId` is drawn if a
row is inserted. -/
inductive Endpoint
  | createTeam (orgId : String) (body : TeamCreate) (newId : String)
  | listTeams (orgId : String)
  | createApiKey (teamId : String) (body : APIKeyCreate) (newId randomPart : String)
  | listApiKeys (teamId : String)
  | revokeApiKey (teamId keyId : String)
  | createBudget (teamId : String) (body : BudgetCreate) (newId : String)
  | getBudget (teamId : String)
  | updateBudget (teamId : String) (body : BudgetUpdate)
  | deleteBudget (teamId : String)
  | getTeamRateLimits (teamId : String)
  | setTeamRateLimits (teamId : String) (body : TeamRateLimitSet) (newId : String)
  | deleteTeamRateLimits (teamId : String)
  | getPolicy (teamId : String)
  -- what `_parse_policy_body` makes of the body
  | putPolicy (teamId : String) (body : Except String TeamPolicyInput) (newId : String)
  | deletePolicy (teamId : String)
  | getRequests (teamId provider model status requestId : Option String) (range : DateRange)
      (page pageSize : ℕ)
  -- the datetimes are echoed as they were given
  | getCosts (groupBy : String) (teamId : Option String) (range : DateRange)
      (fromText toText : Option String)
  | getLatency (provider teamId : Option String) (range : DateRange)
  | getErrors (provider teamId : Option String) (range : DateRange)
  | getFallbacks (teamId : Option String) (range : DateRange)
  | getBudgetEvents (teamId policy : Option String) (range : DateRange)
  | getTimeseries (bucket : String) (teamId : Option String) (range : DateRange)

/-! ## Authentication -/

def genericAuthError : ApiError :=
  .authenticationError "Authentication required. Provide a valid API key."

section Handlers
variable (env : AdminEnv) (db : Database)

/-- The key's team and organization exist. -/
def joined (key : APIKey) : Bool :=
  db.teams.any fun team =>
    team.id = key.teamId && db.organizations.any fun row => row.id = team.organizationId

def verifyApiKey (plaintext storedHash : String) : Bool :=
  env.hmac env.apiKeyPepper plaintext = storedHash

def authenticate (plaintext : String) (now : Datetime) : Except ApiError RequestContext := do
  if plaintext = "" || !startsWith plaintext "cxg_" then throw genericAuthError
  let computedHash := env.hmac env.apiKeyPepper plaintext
  match db.apiKeys.filter fun key => key.keyHash = computedHash && joined db key with
  | [] => throw genericAuthError
  | [apiKey] =>
      if !verifyApiKey env plaintext apiKey.keyHash then throw genericAuthError
      if !apiKey.isActive now then throw genericAuthError
      let some team := db.teams.find? fun team => team.id = apiKey.teamId
        | throw genericAuthError
      let some organization := db.organizations.find? fun row => row.id = team.organizationId
        | throw genericAuthError
      return ⟨organization.id, team.id, apiKey.id, apiKey.role⟩
  | _ => throw (.unhandled (.otherException "MultipleResultsFound"))

def getRequestContext (credentials : Option String) (now : Datetime) :
    Except ApiError RequestContext :=
  match credentials with
  | none => throw genericAuthError
  | some plaintext => authenticate env db plaintext now

def requireAdmin (context : RequestContext) : Except ApiError Unit :=
  if context.role ≠ "admin" then
    throw (.authorizationError "This operation requires admin privileges.")
  else return ()

/-! ## Handlers -/

/-- `_resolve_team`: the team is one of the caller's organization. -/
def resolveTeam (teamId : String) (context : RequestContext) : Except ApiError Unit :=
  match db.teams.find? fun team =>
      team.id = teamId && team.organizationId = context.organizationId with
  | none => throw (.httpException 403 "Team not found in your organization.")
  | some _ => return ()

def unhandled {α : Type} (answer : Except Exc α) : Except ApiError α :=
  answer.mapError .unhandled

def createTeam (orgId : String) (body : TeamCreate) (newId : String) (context : RequestContext)
    (now : Datetime) : Except ApiError (Success × Database) := do
  if context.organizationId ≠ orgId then throw (.authorizationError "Access denied.")
  let team := AuthService.newTeam newId orgId body.name body.slug now
  let after ← unhandled (db.insertTeam team)
  return (.team team, after)

def listTeams (orgId : String) (context : RequestContext) :
    Except ApiError (Success × Database) := do
  if context.organizationId ≠ orgId then throw (.authorizationError "Access denied.")
  let teams := db.teams.filter fun team => team.organizationId = orgId
  return (.teams (teams.insertionSort fun team other => team.createdAt ≤ other.createdAt), db)

def createApiKey (teamId : String) (body : APIKeyCreate) (newId randomPart : String)
    (context : RequestContext) (now : Datetime) : Except ApiError (Success × Database) := do
  if context.teamId ≠ teamId then throw (.authorizationError "Access denied.")
  let plaintext := generateApiKey randomPart
  let key := AuthService.newApiKey env.hmac env.apiKeyPepper newId teamId body.name body.role
    plaintext body.expiresAt now
  let after ← unhandled (db.insertKey key)
  return (.keyCreated ⟨key.id, key.name, plaintext, key.keyPrefix, key.role, key.expiresAt,
    key.createdAt⟩, after)

def listApiKeys (teamId : String) (context : RequestContext) :
    Except ApiError (Success × Database) := do
  if context.teamId ≠ teamId then throw (.authorizationError "Access denied.")
  let keys := db.apiKeys.filter fun key => key.teamId = teamId
  let sorted := keys.insertionSort fun key other => key.createdAt ≤ other.createdAt
  return (.keys (sorted.map .ofRow), db)

/-- The UPDATE of a revocation. -/
def revoked (keyId : String) (now : Datetime) (key : APIKey) : APIKey :=
  if key.id = keyId then { key with revokedAt := some now } else key

@[simp] theorem revoked_id (keyId : String) (now : Datetime) (key : APIKey) :
    (revoked keyId now key).id = key.id := by
  unfold revoked
  split_ifs <;> rfl

@[simp] theorem revoked_teamId (keyId : String) (now : Datetime) (key : APIKey) :
    (revoked keyId now key).teamId = key.teamId := by
  unfold revoked
  split_ifs <;> rfl

def revokeApiKey (teamId keyId : String) (context : RequestContext) (now : Datetime) :
    Except ApiError (Success × Database) := do
  if context.teamId ≠ teamId then throw (.authorizationError "Access denied.")
  match db.apiKeys.find? fun key => key.id = keyId && key.teamId = teamId with
  | none => return (.keyNotFound, db)
  | some key =>
      return (.keyRevoked (.ofRow (revoked key.id now key)),
        db.updateKeys (revoked key.id now) (revoked_id key.id now) (revoked_teamId key.id now))

/-- A call of `BudgetService` on a fresh session.  What it changes is the row of
the team, as `oneRow_createBudget` and its companions show. -/
def runBudget {α : Type} (teamId : String) (now : Datetime) (program : BudgetM α) :
    Except Exc (α × Database) := do
  let table : BudgetTable := fun id => (db.teamRows id).budget.map Prod.fst
  match program.run ⟨table, .fresh⟩ with
  | .error exc _ => throw exc
  | .ok value store =>
      let rows := db.teamRows teamId
      let createdAt := (rows.budget.map Prod.snd).getD now
      let after ← db.writeTeamRows teamId
        { rows with budget := (store.budgets teamId).map fun budget => (budget, createdAt) }
      return (value, after)

/-- `except BudgetConfigurationError` of the endpoints. -/
def budgetError (status : ℕ) : Exc → ApiError
  | .budgetConfigurationError message => .httpException status message
  | exc => .unhandled exc

def createdAtOf (teamId : String) (now : Datetime) : Datetime :=
  ((db.teamRows teamId).budget.map Prod.snd).getD now

def createBudget (teamId : String) (body : BudgetCreate) (newId : String)
    (context : RequestContext) (now : Datetime) : Except ApiError (Success × Database) := do
  resolveTeam db teamId context
  let (budget, after) ← (runBudget db teamId now
    (Budgeting.createBudget teamId newId body now)).mapError (budgetError 409)
  return (.budgetCreated (.fromOrmWithDerived budget (createdAtOf after teamId now)), after)

def noBudget (teamId : String) : ApiError :=
  .httpException 404 ("No budget configured for team '" ++ teamId ++ "'.")

def getBudget (teamId : String) (context : RequestContext) :
    Except ApiError (Success × Database) := do
  resolveTeam db teamId context
  match (db.teamRows teamId).budget with
  | none => throw (noBudget teamId)
  | some (budget, createdAt) => return (.budget (.fromOrmWithDerived budget createdAt), db)

def updateBudget (teamId : String) (body : BudgetUpdate) (context : RequestContext)
    (now : Datetime) : Except ApiError (Success × Database) := do
  resolveTeam db teamId context
  let (budget, after) ← (runBudget db teamId now
    (Budgeting.updateBudget teamId body now)).mapError (budgetError 404)
  return (.budget (.fromOrmWithDerived budget (createdAtOf after teamId now)), after)

def deleteBudget (teamId : String) (context : RequestContext) (now : Datetime) :
    Except ApiError (Success × Database) := do
  resolveTeam db teamId context
  let (deleted, after) ← unhandled (runBudget db teamId now (Budgeting.deleteBudget teamId))
  if deleted then return (.noContent, after) else throw (noBudget teamId)

def getTeamRateLimits (teamId : String) (context : RequestContext) :
    Except ApiError (Success × Database) := do
  resolveTeam db teamId context
  let row := TeamRateLimitService.get (fun id => (db.teamRows id).rateLimit) teamId
  return (.rateLimits (buildResponse teamId row env.settings), db)

def setTeamRateLimits (teamId : String) (body : TeamRateLimitSet) (newId : String)
    (context : RequestContext) (now : Datetime) : Except ApiError (Success × Database) := do
  resolveTeam db teamId context
  let (row, table) := TeamRateLimitService.set (fun id => (db.teamRows id).rateLimit) teamId newId
    body.requestsPerMinute body.requestsPerHour now
  let after ← unhandled (db.writeTeamRows teamId
    { db.teamRows teamId with rateLimit := table teamId })
  return (.rateLimits (buildResponse teamId (some row) env.settings), after)

def deleteTeamRateLimits (teamId : String) (context : RequestContext) :
    Except ApiError (Success × Database) := do
  resolveTeam db teamId context
  let (deleted, table) := TeamRateLimitService.delete (fun id => (db.teamRows id).rateLimit) teamId
  if deleted then
    let after ← unhandled (db.writeTeamRows teamId
      { db.teamRows teamId with rateLimit := table teamId })
    return (.noContent, after)
  else throw (.httpException 404 ("No rate limit overrides configured for team '" ++ teamId ++ "'."))

/-- `get_policy_model`: the row, if it is enabled. -/
def getPolicyModel (teamId : String) : Option TeamPolicyModel :=
  (db.teamRows teamId).policy.filter TeamPolicyModel.enabled

/-- `resolve`, with the source: a document that is invalid is ignored. -/
def resolvePolicy (teamId : String) : ResolvedPolicy × String :=
  if teamId = "" then (globalDefaultPolicy, "global")
  else
    match (getPolicyModel db teamId).bind TeamPolicyModel.policy with
    | some partialPolicy => (.merge partialPolicy, "team")
    | none => (globalDefaultPolicy, "global")

def toPolicyResponse (teamId : String) (resolved : ResolvedPolicy × String)
    (updatedAt : Option Datetime) : PolicyResponse :=
  ⟨teamId, resolved.1, resolved.2, updatedAt.map Datetime.isoformat⟩

def getPolicy (teamId : String) (context : RequestContext) :
    Except ApiError (Success × Database) := do
  resolveTeam db teamId context
  return (.policy (toPolicyResponse teamId (resolvePolicy db teamId)
    ((getPolicyModel db teamId).map TeamPolicyModel.updatedAt)), db)

/-- `_validate_experiment_arms`.  The text of the 422 calls the list that
`provider_names` is, which raises. -/
def validateExperimentArms (experiment : ExperimentConfig) : Except ApiError Unit :=
  if experiment.arms.all fun arm => env.registry.isRegistered arm.provider then return ()
  else throw (.unhandled (.typeError "'list' object is not callable"))

/-- INSERT ... ON CONFLICT DO UPDATE. -/
def upsertPolicy (existing : Option TeamPolicyModel) (teamId newId : String)
    (input : TeamPolicyInput) (now : Datetime) : TeamPolicyModel :=
  match existing with
  | none => ⟨newId, teamId, some input, true, now, now⟩
  | some row => { row with policy := some input, enabled := true, updatedAt := now }

def putPolicy (teamId : String) (body : Except String TeamPolicyInput) (newId : String)
    (context : RequestContext) (now : Datetime) : Except ApiError (Success × Database) := do
  resolveTeam db teamId context
  let input ← body.mapError fun detail => ApiError.httpException 422 detail
  match input.experiment with
  | some experiment => if experiment.enabled then validateExperimentArms env experiment
  | none => pure ()
  let rows := db.teamRows teamId
  let row := upsertPolicy rows.policy teamId newId input now
  let after ← unhandled (db.writeTeamRows teamId { rows with policy := some row })
  return (.policy (toPolicyResponse teamId (resolvePolicy after teamId) (some row.updatedAt)), after)

def deletePolicy (teamId : String) (context : RequestContext) :
    Except ApiError (Success × Database) := do
  resolveTeam db teamId context
  match getPolicyModel db teamId with
  | none => throw (.httpException 404 ("No policy configured for team '" ++ teamId ++ "'."))
  | some _ =>
      let after ← unhandled (db.writeTeamRows teamId { db.teamRows teamId with policy := none })
      return (.noContent, after)

/-- The analytics endpoints: the organization comes from the context alone. -/
def analytics (context : RequestContext) : Endpoint → Option Success
  | .getRequests teamId provider model status requestId range page pageSize =>
      let (data, total) := AnalyticsService.listRequests db.requestLogs context.organizationId
        ⟨teamId, provider, model, status, requestId, range.fromDt, range.toDt⟩ page pageSize
      some (.requests data page pageSize total)
  | .getCosts groupBy teamId range fromText toText =>
      some (.costs groupBy fromText toText (AnalyticsService.aggregateCosts db.requestLogs
        context.organizationId { teamId := teamId, fromDt := range.fromDt, toDt := range.toDt }
        groupBy))
  | .getLatency provider teamId range =>
      some (.latency (AnalyticsService.aggregateLatency db.requestLogs context.organizationId
        { provider := provider, teamId := teamId, fromDt := range.fromDt, toDt := range.toDt }))
  | .getErrors provider teamId range =>
      some (.errors (AnalyticsService.aggregateErrors db.requestLogs context.organizationId
        { provider := provider, teamId := teamId, fromDt := range.fromDt, toDt := range.toDt }))
  | .getFallbacks teamId range =>
      some (.fallbacks (AnalyticsService.aggregateFallbacks db.requestLogs context.organizationId
        { teamId := teamId, fromDt := range.fromDt, toDt := range.toDt }))
  | .getBudgetEvents teamId policy range =>
      some (.budgetEvents (AnalyticsService.aggregateBudgetEvents db.requestLogs
        context.organizationId { teamId := teamId, fromDt := range.fromDt, toDt := range.toDt }
        policy))
  | .getTimeseries bucket teamId range =>
      some (.timeseries bucket (AnalyticsService.timeseries db.requestLogs context.organizationId
        { teamId := teamId, fromDt := range.fromDt, toDt := range.toDt } bucket))
  | _ => none

/-- The handler of an endpoint. -/
def handle (context : RequestContext) (now : Datetime) :
    Endpoint → Except ApiError (Success × Database)
  | .createTeam orgId body newId => createTeam db orgId body newId context now
  | .listTeams orgId => listTeams db orgId context
  | .createApiKey teamId body newId randomPart =>
      createApiKey env db teamId body newId randomPart context now
  | .listApiKeys teamId => listApiKeys db teamId context
  | .revokeApiKey teamId keyId => revokeApiKey db teamId keyId context now
  | .createBudget teamId body newId => createBudget db teamId body newId context now
  | .getBudget teamId => getBudget db teamId context
  | .updateBudget teamId body => updateBudget db teamId body context now
  | .deleteBudget teamId => deleteBudget db teamId context now
  | .getTeamRateLimits teamId => getTeamRateLimits env db teamId context
  | .setTeamRateLimits teamId body newId => setTeamRateLimits env db teamId body newId context now
  | .deleteTeamRateLimits teamId => deleteTeamRateLimits db teamId context
  | .getPolicy teamId => getPolicy db teamId context
  | .putPolicy teamId body newId => putPolicy env db teamId body newId context now
  | .deletePolicy teamId => deletePolicy db teamId context
  | endpoint =>
      match analytics db context endpoint with
      | some success => return (success, db)
      | none => throw (.httpException 404 "Not Found")

end Handlers

/-! ## Calls -/

structure ApiCall where
  credentials : Option String
  endpoint : Endpoint
  now : Datetime

/-- The database, and the `_update_last_used` tasks that have not run. -/
structure ApiState where
  db : Database
  tasks : List String

/-- A call, or one of the scheduled tasks: it commits at an instant, or fails. -/
inductive ApiAction
  | call (call : ApiCall)
  | lastUsed (task : ℕ) (now : Option Datetime)

/-- The UPDATE of `_update_last_used`. -/
def touched (keyId : String) (now : Datetime) (key : APIKey) : APIKey :=
  if key.id = keyId then { key with lastUsedAt := some now } else key

@[simp] theorem touched_id (keyId : String) (now : Datetime) (key : APIKey) :
    (touched keyId now key).id = key.id := by
  unfold touched
  split_ifs <;> rfl

@[simp] theorem touched_teamId (keyId : String) (now : Datetime) (key : APIKey) :
    (touched keyId now key).teamId = key.teamId := by
  unfold touched
  split_ifs <;> rfl

section Step
variable (env : AdminEnv)

/-- A call that fails is rolled back; once authenticated it has its task. -/
def perform (state : ApiState) (call : ApiCall) : Except ApiError Success × ApiState :=
  match getRequestContext env state.db call.credentials call.now with
  | .error error => (.error error, state)
  | .ok context =>
      let state := { state with tasks := state.tasks ++ [context.apiKeyId] }
      match requireAdmin context with
      | .error error => (.error error, state)
      | .ok () =>
          match handle env state.db context call.now call.endpoint with
          | .error error => (.error error, state)
          | .ok (success, after) => (.ok success, { state with db := after })

/-- What a task leaves; a task that is not there is skipped. -/
def runTask (state : ApiState) (task : ℕ) (now : Option Datetime) : ApiState :=
  match state.tasks[task]? with
  | none => state
  | some keyId =>
      { db :=
          match now with
          | none => state.db
          | some now =>
              state.db.updateKeys (touched keyId now) (touched_id keyId now)
                (touched_teamId keyId now)
        tasks := state.tasks.eraseIdx task }

def apiStep (state : ApiState) : ApiAction → Option (Except ApiError Success) × ApiState
  | .call call =>
      let (reply, after) := perform env state call
      (some reply, after)
  | .lastUsed task now => (none, runTask state task now)

end Step

end AdminApi
end CortexGateway
