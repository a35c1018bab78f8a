import CortexGateway.Api.Isolation
import CortexGateway.Api.Organizations
import CortexGateway.Lib.Exits

/-! # What a call does to the database

A handler that answers reads, inserts one team or key, revokes one key of the
caller's team, or writes the rows of one team of the caller's organization.
Everything later is derived from this description, and no proof unfolds a
handler again. -/
set_option autoImplicit false
namespace CortexGateway.AdminApi
open Budgeting RateLimiting Exits

/-- What an endpoint makes of the rows of its team. -/
inductive RowsWritten (now : Datetime) (rows : TeamRows) : Endpoint → String → TeamRows → Prop
  | budgetCreated (teamId newId : String) (body : BudgetCreate) (createdAt : Datetime) :
      RowsWritten now rows (.createBudget teamId body newId) teamId
        { rows with budget := some (created teamId newId body now, createdAt) }
  | budgetUpdated (teamId : String) (body : BudgetUpdate) (budget : Budget) (createdAt : Datetime)
      (found : rows.budget = some (budget, createdAt)) :
      RowsWritten now rows (.updateBudget teamId body) teamId
        { rows with budget := some (updated budget body now, createdAt) }
  | budgetDeleted (teamId : String) :
      RowsWritten now rows (.deleteBudget teamId) teamId { rows with budget := none }
  | limitsSet (teamId newId : String) (body : TeamRateLimitSet) :
      RowsWritten now rows (.setTeamRateLimits teamId body newId) teamId
        { rows with rateLimit := some (TeamRateLimitService.overrideRow rows.rateLimit teamId newId
          body.requestsPerMinute body.requestsPerHour now) }
  | limitsDeleted (teamId : String) :
      RowsWritten now rows (.deleteTeamRateLimits teamId) teamId { rows with rateLimit := none }
  | policyPut (teamId newId : String) (body : Except String TeamPolicyInput)
      (input : TeamPolicyInput) :
      RowsWritten now rows (.putPolicy teamId body newId) teamId
        { rows with policy := some (upsertPolicy rows.policy teamId newId input now) }
  | policyDeleted (teamId : String) :
      RowsWritten now rows (.deletePolicy teamId) teamId { rows with policy := none }

/-- The answer to a created or a revoked key. -/
def Success.isKeyChange : Success → Bool
  | .keyCreated _ => true
  | .keyRevoked _ => true
  | _ => false

section Handled
variable (env : AdminEnv) (db : Database) (context : RequestContext) (now : Datetime)

/-- The row of a key that the caller adds to its own team. -/
def newKeyOf (body : APIKeyCreate) (newId randomPart : String) : APIKey :=
  AuthService.newApiKey env.hmac env.apiKeyPepper newId context.teamId body.name body.role
    (generateApiKey randomPart) body.expiresAt now

def createdResponse (key : APIKey) (plaintext : String) : APIKeyCreatedResponse :=
  ⟨key.id, key.name, plaintext, key.keyPrefix, key.role, key.expiresAt, key.createdAt⟩

inductive Handled : Endpoint → Success → Database → Prop
  | read (endpoint : Endpoint) (success : Success) (noChange : success.isKeyChange = false) :
      Handled endpoint success db
  | teamInserted (body : TeamCreate) (newId : String) (after : Database)
      (inserted : db.insertTeam (AuthService.newTeam newId context.organizationId body.name
        body.slug now) = .ok after) :
      Handled (.createTeam context.organizationId body newId)
        (.team (AuthService.newTeam newId context.organizationId body.name body.slug now)) after
  | keyInserted (body : APIKeyCreate) (newId randomPart : String) (after : Database)
      (inserted : db.insertKey (newKeyOf env context now body newId randomPart) = .ok after) :
      Handled (.createApiKey context.teamId body newId randomPart)
        (.keyCreated (createdResponse (newKeyOf env context now body newId randomPart)
          (generateApiKey randomPart))) after
  | keyRevoked (key : APIKey) (member : key ∈ db.apiKeys) (own : key.teamId = context.teamId) :
      Handled (.revokeApiKey context.teamId key.id)
        (.keyRevoked (.ofRow (revoked key.id now key)))
        (db.updateKeys (revoked key.id now) (revoked_id key.id now) (revoked_teamId key.id now))
  | rowsWritten (endpoint : Endpoint) (success : Success) (teamId : String) (rows : TeamRows)
      (after : Database) (noChange : success.isKeyChange = false)
      (owned : db.owns context.organizationId teamId = true)
      (became : RowsWritten now (db.teamRows teamId) endpoint teamId rows)
      (written : db.writeTeamRows teamId rows = .ok after) : Handled endpoint success after

end Handled

section Inversion
variable {env : AdminEnv} {db after : Database} {context : RequestContext} {now : Datetime}
variable {success : Success}

theorem mapError_eq_ok {α ε ε' : Type} {answer : Except ε α} {raise : ε → ε'} {value : α} :
    answer.mapError raise = .ok value ↔ answer = .ok value := by
  cases answer <;> simp [Except.mapError]

/-! ### Teams and keys -/

theorem createTeam_handled {orgId newId : String} {body : TeamCreate}
    (handled : createTeam db orgId body newId context now = .ok (success, after)) :
    Handled env db context now (.createTeam orgId body newId) success after := by
  unfold createTeam at handled
  split_ifs at handled with foreign
  · cases handled
  · obtain ⟨inserted, done, answered⟩ := bind_eq_ok_iff.mp handled
    cases answered
    cases not_not.mp foreign
    exact .teamInserted body newId after (mapError_eq_ok.mp done)

theorem listTeams_handled {orgId : String}
    (handled : listTeams db orgId context = .ok (success, after)) :
    Handled env db context now (.listTeams orgId) success after := by
  unfold listTeams at handled
  split_ifs at handled
  · cases handled
  · cases handled
    exact .read _ _ rfl

theorem createApiKey_handled {teamId newId randomPart : String} {body : APIKeyCreate}
    (handled : createApiKey env db teamId body newId randomPart context now =
      .ok (success, after)) :
    Handled env db context now (.createApiKey teamId body newId randomPart) success after := by
  unfold createApiKey at handled
  split_ifs at handled with foreign
  · cases handled
  · obtain ⟨inserted, done, answered⟩ := bind_eq_ok_iff.mp handled
    cases answered
    cases not_not.mp foreign
    exact .keyInserted body newId randomPart after (mapError_eq_ok.mp done)

theorem listApiKeys_handled {teamId : String}
    (handled : listApiKeys db teamId context = .ok (success, after)) :
    Handled env db context now (.listApiKeys teamId) success after := by
  unfold listApiKeys at handled
  split_ifs at handled
  · cases handled
  · cases handled
    exact .read _ _ rfl

theorem revokeApiKey_handled {teamId keyId : String}
    (handled : revokeApiKey db teamId keyId context now = .ok (success, after)) :
    Handled env db context now (.revokeApiKey teamId keyId) success after := by
  unfold revokeApiKey at handled
  split_ifs at handled with foreign
  · cases handled
  cases found : db.apiKeys.find? fun key => key.id = keyId && key.teamId = teamId with
  | none =>
      simp only [found] at handled
      cases handled
      exact .read _ _ rfl
  | some key =>
      simp only [found] at handled
      cases handled
      have matched := List.find?_some found
      simp only [Bool.and_eq_true, decide_eq_true_eq] at matched
      obtain ⟨rfl, rfl⟩ := matched
      have own := (not_not.mp foreign).symm
      rw [own]
      exact .keyRevoked key (List.mem_of_find?_eq_some found) own

/-! ### Budgets -/

/-- A budget call on the rows of a team of the caller's organization. -/
theorem budgetCall_handled {α : Type} {endpoint : Endpoint} {teamId : String} {program : BudgetM α}
    {result : Option Budget → Except Exc (α × Option Budget)}
    (oneRow : OneRow teamId program result) {value : α}
    (resolved : resolveTeam db teamId context = .ok ())
    (ran : runBudget db teamId now program = .ok (value, after))
    (noChange : success.isKeyChange = false)
    (became : ∀ row, result ((db.teamRows teamId).budget.map Prod.fst) = .ok (value, row) →
      RowsWritten now (db.teamRows teamId) endpoint teamId
        { db.teamRows teamId with
          budget := row.map fun budget => (budget, createdAtOf db teamId now) }) :
    Handled env db context now endpoint success after := by
  rw [oneRow.runBudget] at ran
  obtain ⟨⟨_, row⟩, computed, ran⟩ := bind_eq_ok_iff.mp ran
  obtain ⟨written, done, answered⟩ := bind_eq_ok_iff.mp ran
  cases answered
  exact .rowsWritten endpoint success teamId _ after noChange (owns_of_resolveTeam rfl resolved)
    (became row computed) done

theorem createBudget_handled {teamId newId : String} {body : BudgetCreate}
    (handled : createBudget db teamId body newId context now = .ok (success, after)) :
    Handled env db context now (.createBudget teamId body newId) success after := by
  unfold createBudget at handled
  obtain ⟨_, resolved, handled⟩ := bind_eq_ok_iff.mp handled
  obtain ⟨⟨budget, _⟩, ran, answered⟩ := bind_eq_ok_iff.mp handled
  cases answered
  refine budgetCall_handled (oneRow_createBudget teamId newId body now) resolved
    (mapError_eq_ok.mp ran) rfl fun row computed => ?_
  cases found : (db.teamRows teamId).budget with
  | some _ => simp [createResult, found] at computed
  | none =>
      simp only [createResult, found, Option.map_none, Except.ok.injEq, Prod.mk.injEq] at computed
      rw [← computed.2]
      exact .budgetCreated teamId newId body _

theorem getBudget_handled {teamId : String}
    (handled : getBudget db teamId context = .ok (success, after)) :
    Handled env db context now (.getBudget teamId) success after := by
  unfold getBudget at handled
  obtain ⟨_, resolved, handled⟩ := bind_eq_ok_iff.mp handled
  cases found : (db.teamRows teamId).budget with
  | none =>
      simp only [found] at handled
      cases handled
  | some row =>
      simp only [found] at handled
      cases handled
      exact .read _ _ rfl

theorem updateBudget_handled {teamId : String} {body : BudgetUpdate}
    (handled : updateBudget db teamId body context now = .ok (success, after)) :
    Handled env db context now (.updateBudget teamId body) success after := by
  unfold updateBudget at handled
  obtain ⟨_, resolved, handled⟩ := bind_eq_ok_iff.mp handled
  obtain ⟨⟨budget, _⟩, ran, answered⟩ := bind_eq_ok_iff.mp handled
  cases answered
  refine budgetCall_handled (oneRow_updateBudget teamId body now) resolved
    (mapError_eq_ok.mp ran) rfl fun row computed => ?_
  cases found : (db.teamRows teamId).budget with
  | none => simp [updateResult, found] at computed
  | some stored =>
      simp only [updateResult, found, Option.map_some, Except.ok.injEq, Prod.mk.injEq] at computed
      rw [← computed.2]
      have since : createdAtOf db teamId now = stored.2 := by simp [createdAtOf, found]
      rw [Option.map_some, since]
      exact .budgetUpdated teamId body stored.1 stored.2 found

theorem deleteBudget_handled {teamId : String}
    (handled : deleteBudget db teamId context now = .ok (success, after)) :
    Handled env db context now (.deleteBudget teamId) success after := by
  unfold deleteBudget at handled
  obtain ⟨_, resolved, handled⟩ := bind_eq_ok_iff.mp handled
  obtain ⟨⟨deleted, _⟩, ran, answered⟩ := bind_eq_ok_iff.mp handled
  dsimp only at answered
  split_ifs at answered
  cases answered
  refine budgetCall_handled (oneRow_deleteBudget teamId) resolved (mapError_eq_ok.mp ran) rfl
    fun row computed => ?_
  simp only [deleteResult, Except.ok.injEq, Prod.mk.injEq] at computed
  rw [← computed.2]
  exact .budgetDeleted teamId

/-! ### Rate limits and policies -/

theorem getTeamRateLimits_handled {teamId : String}
    (handled : getTeamRateLimits env db teamId context = .ok (success, after)) :
    Handled env db context now (.getTeamRateLimits teamId) success after := by
  unfold getTeamRateLimits at handled
  obtain ⟨_, resolved, answered⟩ := bind_eq_ok_iff.mp handled
  cases answered
  exact .read _ _ rfl

theorem setTeamRateLimits_handled {teamId newId : String} {body : TeamRateLimitSet}
    (handled : setTeamRateLimits env db teamId body newId context now = .ok (success, after)) :
    Handled env db context now (.setTeamRateLimits teamId body newId) success after := by
  unfold setTeamRateLimits at handled
  obtain ⟨_, resolved, handled⟩ := bind_eq_ok_iff.mp handled
  simp only [TeamRateLimitService.set, TeamRateLimitService.get, Function.update_self] at handled
  obtain ⟨written, done, answered⟩ := bind_eq_ok_iff.mp handled
  cases answered
  exact .rowsWritten _ _ teamId _ after rfl (owns_of_resolveTeam rfl resolved)
    (.limitsSet teamId newId body) (mapError_eq_ok.mp done)

theorem deleteTeamRateLimits_handled {teamId : String}
    (handled : deleteTeamRateLimits db teamId context = .ok (success, after)) :
    Handled env db context now (.deleteTeamRateLimits teamId) success after := by
  unfold deleteTeamRateLimits at handled
  obtain ⟨_, resolved, handled⟩ := bind_eq_ok_iff.mp handled
  cases found : (db.teamRows teamId).rateLimit with
  | none =>
      simp only [TeamRateLimitService.delete, TeamRateLimitService.get, found] at handled
      cases handled
  | some row =>
      simp only [TeamRateLimitService.delete, TeamRateLimitService.get, found,
        Function.update_self] at handled
      obtain ⟨written, done, answered⟩ := bind_eq_ok_iff.mp handled
      cases answered
      exact .rowsWritten _ _ teamId _ after rfl (owns_of_resolveTeam rfl resolved)
        (.limitsDeleted teamId) (mapError_eq_ok.mp done)

theorem getPolicy_handled {teamId : String}
    (handled : getPolicy db teamId context = .ok (success, after)) :
    Handled env db context now (.getPolicy teamId) success after := by
  unfold getPolicy at handled
  obtain ⟨_, resolved, answered⟩ := bind_eq_ok_iff.mp handled
  cases answered
  exact .read _ _ rfl

theorem putPolicy_handled {teamId newId : String} {body : Except String TeamPolicyInput}
    (handled : putPolicy env db teamId body newId context now = .ok (success, after)) :
    Handled env db context now (.putPolicy teamId body newId) success after := by
  cases body with
  | error detail =>
      unfold putPolicy at handled
      obtain ⟨_, resolved, handled⟩ := bind_eq_ok_iff.mp handled
      cases handled
  | ok input =>
      rw [putPolicy_eq] at handled
      obtain ⟨_, resolved, handled⟩ := bind_eq_ok_iff.mp handled
      obtain ⟨_, valid, handled⟩ := bind_eq_ok_iff.mp handled
      unfold savePolicy at handled
      obtain ⟨written, done, answered⟩ := bind_eq_ok_iff.mp handled
      cases answered
      exact .rowsWritten _ _ teamId _ after rfl (owns_of_resolveTeam rfl resolved)
        (.policyPut teamId newId (.ok input) input) (mapError_eq_ok.mp done)

theorem deletePolicy_handled {teamId : String}
    (handled : deletePolicy db teamId context = .ok (success, after)) :
    Handled env db context now (.deletePolicy teamId) success after := by
  unfold deletePolicy at handled
  obtain ⟨_, resolved, handled⟩ := bind_eq_ok_iff.mp handled
  cases found : getPolicyModel db teamId with
  | none =>
      simp only [found] at handled
      cases handled
  | some row =>
      simp only [found] at handled
      obtain ⟨written, done, answered⟩ := bind_eq_ok_iff.mp handled
      cases answered
      exact .rowsWritten _ _ teamId _ after rfl (owns_of_resolveTeam rfl resolved)
        (.policyDeleted teamId) (mapError_eq_ok.mp done)

/-! ### Analytics -/

theorem analytics_isKeyChange {endpoint : Endpoint}
    (answered : analytics db context endpoint = some success) : success.isKeyChange = false := by
  cases endpoint <;> cases answered <;> rfl

theorem analytics_handled {endpoint : Endpoint}
    (handled : (match analytics db context endpoint with
      | some success => .ok (success, db)
      | none => .error (.httpException 404 "Not Found") : Except ApiError (Success × Database)) =
        .ok (success, after)) :
    Handled env db context now endpoint success after := by
  split at handled
  · rename_i answered
    cases handled
    exact .read _ _ (analytics_isKeyChange answered)
  · cases handled

/-- Whatever an endpoint answers, this is what it did. -/
theorem handle_handled {endpoint : Endpoint}
    (handled : handle env db context now endpoint = .ok (success, after)) :
    Handled env db context now endpoint success after := by
  cases endpoint with
  | createTeam => exact createTeam_handled handled
  | listTeams => exact listTeams_handled handled
  | createApiKey => exact createApiKey_handled handled
  | listApiKeys => exact listApiKeys_handled handled
  | revokeApiKey => exact revokeApiKey_handled handled
  | createBudget => exact createBudget_handled handled
  | getBudget => exact getBudget_handled handled
  | updateBudget => exact updateBudget_handled handled
  | deleteBudget => exact deleteBudget_handled handled
  | getTeamRateLimits => exact getTeamRateLimits_handled handled
  | setTeamRateLimits => exact setTeamRateLimits_handled handled
  | deleteTeamRateLimits => exact deleteTeamRateLimits_handled handled
  | getPolicy => exact getPolicy_handled handled
  | putPolicy => exact putPolicy_handled handled
  | deletePolicy => exact deletePolicy_handled handled
  | getRequests => exact analytics_handled handled
  | getCosts => exact analytics_handled handled
  | getLatency => exact analytics_handled handled
  | getErrors => exact analytics_handled handled
  | getFallbacks => exact analytics_handled handled
  | getBudgetEvents => exact analytics_handled handled
  | getTimeseries => exact analytics_handled handled

end Inversion

/-! ## Actions -/

/-- The answer of an admin endpoint, if the reply is one. -/
def GatewayReply.success? : GatewayReply → Option Success
  | .api (some (.ok success)) => some success
  | _ => none

inductive Moves (env : AdminEnv) (db : Database) : GatewayAction → GatewayReply → Database → Prop
  | same (action : GatewayAction) (reply : GatewayReply) (unanswered : reply.success? = none) :
      Moves env db action reply db
  | handled (call : ApiCall) (context : RequestContext) (success : Success) (after : Database)
      (authenticated : getRequestContext env db call.credentials call.now = .ok context)
      (admin : context.role = "admin")
      (handled : Handled env db context call.now call.endpoint success after) :
      Moves env db (.api (.call call)) (.api (some (.ok success))) after
  | organizationInserted (call : AccountCall) (body : OrganizationCreate) (newId : String)
      (reply : GatewayReply) (after : Database) (unanswered : reply.success? = none)
      (inserted : db.insertOrganization (AuthService.newOrganization newId body.name body.slug
        call.now) = .ok after) : Moves env db (.account call) reply after
  | touched (task : ℕ) (keyId : String) (now : Datetime) :
      Moves env db (.api (.lastUsed task (some now))) (.api none)
        (db.updateKeys (touched keyId now) (touched_id keyId now) (touched_teamId keyId now))

section Actions
variable {env : AdminEnv} {state : ApiState}

theorem admin_of_requireAdmin {context : RequestContext}
    (allowed : requireAdmin context = .ok ()) : context.role = "admin" := by
  unfold requireAdmin at allowed
  split_ifs at allowed with admin
  exact not_not.mp admin

theorem perform_moves (call : ApiCall) :
    Moves env state.db (.api (.call call)) (.api (some (perform env state call).1))
      (perform env state call).2.db := by
  unfold perform
  cases authenticated : getRequestContext env state.db call.credentials call.now with
  | error error => exact .same _ _ rfl
  | ok context =>
      dsimp only
      cases allowed : requireAdmin context with
      | error error => exact .same _ _ rfl
      | ok _ =>
          dsimp only
          cases handled : handle env state.db context call.now call.endpoint with
          | error error => exact .same _ _ rfl
          | ok returned =>
              exact .handled call context returned.1 returned.2 authenticated
                (admin_of_requireAdmin allowed) (handle_handled handled)

theorem performAccount_moves (call : AccountCall) :
    Moves env state.db (.account call) (.account (performAccount env state call).1)
      (performAccount env state call).2.db := by
  unfold performAccount
  cases getRequestContext env state.db call.credentials call.now with
  | error error => exact .same _ _ rfl
  | ok context =>
      dsimp only
      cases handled : handleAccount state.db context call.now call.endpoint with
      | error error => exact .same _ _ rfl
      | ok returned =>
          cases target : call.endpoint with
          | createOrganization body newId =>
              rw [target] at handled
              obtain ⟨_, allowed, handled⟩ := bind_eq_ok_iff.mp handled
              obtain ⟨after, inserted, answered⟩ := bind_eq_ok_iff.mp handled
              cases answered
              exact .organizationInserted call body newId _ after rfl (mapError_eq_ok.mp inserted)
          | getOrganization orgId =>
              rw [target] at handled
              simp only [handleAccount, getOrganization] at handled
              split_ifs at handled
              · cases handled
              · split at handled <;> cases handled <;> exact .same _ _ rfl
          | getMe =>
              rw [target] at handled
              cases handled
              exact .same _ _ rfl

theorem runTask_moves (task : ℕ) (now : Option Datetime) :
    Moves env state.db (.api (.lastUsed task now)) (.api none) (runTask state task now).db := by
  unfold runTask
  cases state.tasks[task]? with
  | none => exact .same _ _ rfl
  | some keyId =>
      cases now with
      | none => exact .same _ _ rfl
      | some now => exact .touched task keyId now

/-- Every step of the API is one of these. -/
theorem gatewayStep_moves (state : ApiState) (action : GatewayAction) :
    Moves env state.db action (gatewayStep env state action).1
      (gatewayStep env state action).2.db := by
  cases action with
  | account call => exact performAccount_moves call
  | api action =>
      cases action with
      | call call => exact perform_moves call
      | lastUsed task now => exact runTask_moves task now

end Actions
end CortexGateway.AdminApi
