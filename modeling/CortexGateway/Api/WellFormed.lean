import CortexGateway.Api.KeyLifecycle
import CortexGateway.Budget.Validity

/-! # What the tables keep

The unique constraints and the foreign keys, the rows that belong to a team,
and the columns the schemas restrict.  Every call keeps them, so a key of the
tables always finds its team and its organization. -/
set_option autoImplicit false
namespace CortexGateway
open Budgeting RateLimiting

/-- A limit that overrides the default is at least one. -/
def AtLeastOne (limit : Option ℤ) : Prop := ∀ value ∈ limit, 1 ≤ value

structure TeamRows.WellFormed (teamId : String) (rows : TeamRows) : Prop where
  budget : ∀ row ∈ rows.budget, row.1.WellFormed teamId
  rateLimit : ∀ row ∈ rows.rateLimit, row.teamId = teamId ∧
    AtLeastOne row.requestsPerMinute ∧ AtLeastOne row.requestsPerHour
  policy : ∀ row ∈ rows.policy, row.teamId = teamId ∧ row.enabled = true ∧ row.policy.isSome

namespace AdminApi

/-- The row was made for a key that was drawn. -/
def Issued (env : AdminEnv) (key : APIKey) : Prop :=
  (key.role = "admin" ∨ key.role = "member") ∧
    ∃ randomPart, key.keyHash = env.hmac env.apiKeyPepper (generateApiKey randomPart) ∧
      key.keyPrefix = extractKeyPrefix (generateApiKey randomPart)

structure Kept (env : AdminEnv) (db : Database) : Prop where
  organizationSlugs : (db.organizations.map Organization.slug).Nodup
  teamSlugs : (db.teams.map fun team => (team.organizationId, team.slug)).Nodup
  teamOrganizations : ∀ team ∈ db.teams, ∃ organization ∈ db.organizations,
    organization.id = team.organizationId
  keys : ∀ key ∈ db.apiKeys, Issued env key
  rows : ∀ teamId, (db.teamRows teamId).WellFormed teamId

/-- The bodies the schemas let through; those of budgets carry their own proofs. -/
def Endpoint.Validated : Endpoint → Prop
  | .createApiKey _ body _ _ => body.role = "admin" ∨ body.role = "member"
  | .setTeamRateLimits _ body _ =>
      AtLeastOne body.requestsPerMinute ∧ AtLeastOne body.requestsPerHour
  | _ => True

def GatewayAction.Validated : GatewayAction → Prop
  | .api (.call call) => call.endpoint.Validated
  | _ => True

/-! ## Rows of one team -/

theorem wellFormed_created (teamId newId : String) (body : BudgetCreate) (now : Datetime) :
    (created teamId newId body now).WellFormed teamId :=
  ⟨rfl, body.limitNonneg, le_refl 0, le_refl 0, rfl⟩

theorem wellFormed_updated {teamId : String} {budget : Budget}
    (wellFormed : budget.WellFormed teamId) (body : BudgetUpdate) (now : Datetime) :
    (updated budget body now).WellFormed teamId := by
  refine ⟨wellFormed.team, ?_, wellFormed.usage, wellFormed.reserved, wellFormed.periodEnd⟩
  change 0 ≤ body.limitAmount.getD budget.limitAmount
  cases given : body.limitAmount with
  | none => exact wellFormed.limit
  | some limit => exact (body.limitPositive limit given).le

/-- An upsert leaves a row of the team, whether there was one before or not. -/
theorem overrideRow_teamId {existing : Option TeamRateLimit} {teamId : String}
    (own : ∀ row ∈ existing, row.teamId = teamId) (newId : String) (perMinute perHour : Option ℤ)
    (now : Datetime) :
    (TeamRateLimitService.overrideRow existing teamId newId perMinute perHour now).teamId =
      teamId := by
  cases existing with
  | none => rfl
  | some row => exact own row rfl

theorem overrideRow_limits (existing : Option TeamRateLimit) (teamId newId : String)
    (perMinute perHour : Option ℤ) (now : Datetime) :
    (TeamRateLimitService.overrideRow existing teamId newId perMinute perHour
        now).requestsPerMinute = perMinute ∧
      (TeamRateLimitService.overrideRow existing teamId newId perMinute perHour
        now).requestsPerHour = perHour := by
  cases existing <;> exact ⟨rfl, rfl⟩

theorem upsertPolicy_kept {existing : Option TeamPolicyModel} {teamId : String}
    (own : ∀ row ∈ existing, row.teamId = teamId) (newId : String) (input : TeamPolicyInput)
    (now : Datetime) :
    (upsertPolicy existing teamId newId input now).teamId = teamId ∧
      (upsertPolicy existing teamId newId input now).enabled = true ∧
      (upsertPolicy existing teamId newId input now).policy.isSome := by
  cases existing with
  | none => exact ⟨rfl, rfl, rfl⟩
  | some row => exact ⟨own row rfl, rfl, rfl⟩

theorem RowsWritten.wellFormed {now : Datetime} {rows after : TeamRows} {endpoint : Endpoint}
    {teamId : String} (written : RowsWritten now rows endpoint teamId after)
    (validated : endpoint.Validated) (before : rows.WellFormed teamId) :
    after.WellFormed teamId := by
  cases written with
  | budgetCreated _ newId body createdAt =>
      refine ⟨fun row member => ?_, before.rateLimit, before.policy⟩
      cases member
      exact wellFormed_created teamId newId body now
  | budgetUpdated _ body budget createdAt found =>
      refine ⟨fun row member => ?_, before.rateLimit, before.policy⟩
      cases member
      exact wellFormed_updated (before.budget _ found) body now
  | budgetDeleted => exact ⟨fun row member => (by cases member), before.rateLimit, before.policy⟩
  | limitsSet _ newId body =>
      refine ⟨before.budget, fun row member => ?_, before.policy⟩
      cases member
      have limits := overrideRow_limits rows.rateLimit teamId newId body.requestsPerMinute
        body.requestsPerHour now
      rw [limits.1, limits.2]
      exact ⟨overrideRow_teamId (fun row member => (before.rateLimit row member).1) ..,
        validated⟩
  | limitsDeleted => exact ⟨before.budget, fun row member => (by cases member), before.policy⟩
  | policyPut _ newId body input =>
      refine ⟨before.budget, before.rateLimit, fun row member => ?_⟩
      cases member
      exact upsertPolicy_kept (fun row member => (before.policy row member).1) newId input now
  | policyDeleted => exact ⟨before.budget, before.rateLimit, fun row member => (by cases member)⟩

/-! ## Rows of the other tables -/

section Steps
variable {env : AdminEnv} {db after : Database}

theorem nodup_map_append {Row Column : Type} {rows : List Row} {row : Row} {column : Row → Column}
    (unique : (rows.map column).Nodup) (apart : ∀ other ∈ rows, column other ≠ column row) :
    ((rows ++ [row]).map column).Nodup := by
  rw [List.map_append, List.nodup_append]
  refine ⟨unique, List.nodup_singleton _, ?_⟩
  intro value member other last
  obtain ⟨taken, listed, rfl⟩ := List.mem_map.mp member
  rw [List.map_singleton, List.mem_singleton] at last
  rw [last]
  exact apart taken listed

theorem Kept.insertOrganization (kept : Kept env db) {organization : Organization}
    (inserted : db.insertOrganization organization = .ok after) : Kept env after := by
  unfold Database.insertOrganization at inserted
  split_ifs at inserted with apart
  cases inserted
  refine ⟨nodup_map_append kept.organizationSlugs fun other member same => ?_, kept.teamSlugs,
    fun team member => ?_, kept.keys, kept.rows⟩
  · have clash := apart other member
    simp [Organization.clash, same] at clash
  · obtain ⟨own, listed, same⟩ := kept.teamOrganizations team member
    exact ⟨own, List.mem_append_left _ listed, same⟩

theorem Kept.insertTeam (kept : Kept env db) {team : Team}
    (inserted : db.insertTeam team = .ok after)
    (organization : ∃ row ∈ db.organizations, row.id = team.organizationId) : Kept env after := by
  unfold Database.insertTeam at inserted
  split_ifs at inserted with apart
  cases inserted
  refine ⟨kept.organizationSlugs, nodup_map_append kept.teamSlugs fun other member same => ?_,
    fun row member => ?_, kept.keys, kept.rows⟩
  · have clash := apart other member
    obtain ⟨sameOrganization, sameSlug⟩ := Prod.mk.inj same
    simp [Team.clash, sameOrganization, sameSlug] at clash
  · rcases List.mem_append.mp member with before | last
    · exact kept.teamOrganizations row before
    · rw [List.mem_singleton.mp last]
      exact organization

theorem Kept.insertKey (kept : Kept env db) {key : APIKey}
    (inserted : db.insertKey key = .ok after) (issued : Issued env key) : Kept env after := by
  unfold Database.insertKey at inserted
  split_ifs at inserted
  cases inserted
  refine ⟨kept.organizationSlugs, kept.teamSlugs, kept.teamOrganizations, fun row member => ?_,
    kept.rows⟩
  rcases List.mem_append.mp member with before | last
  · exact kept.keys row before
  · rw [List.mem_singleton.mp last]
    exact issued

theorem Kept.updateKeys (kept : Kept env db) {update : APIKey → APIKey}
    (ids : ∀ key, (update key).id = key.id) (teamIds : ∀ key, (update key).teamId = key.teamId)
    (issued : ∀ key, Issued env key → Issued env (update key)) :
    Kept env (db.updateKeys update ids teamIds) := by
  refine ⟨kept.organizationSlugs, kept.teamSlugs, kept.teamOrganizations, fun row member => ?_,
    kept.rows⟩
  obtain ⟨key, listed, rfl⟩ := List.mem_map.mp member
  exact issued key (kept.keys key listed)

theorem Kept.writeTeamRows (kept : Kept env db) {teamId : String} {rows : TeamRows}
    (written : db.writeTeamRows teamId rows = .ok after) (wellFormed : rows.WellFormed teamId) :
    Kept env after := by
  unfold Database.writeTeamRows at written
  split_ifs at written
  cases written
  refine ⟨kept.organizationSlugs, kept.teamSlugs, kept.teamOrganizations, kept.keys, fun other => ?_⟩
  change (Function.update db.teamRows teamId rows other).WellFormed other
  by_cases same : other = teamId
  · rw [same, Function.update_self]
    exact wellFormed
  · rw [Function.update_of_ne same]
    exact kept.rows other

theorem issued_revoked {key : APIKey} (issued : Issued env key) (keyId : String) (now : Datetime) :
    Issued env (revoked keyId now key) := by
  unfold revoked
  split_ifs <;> exact issued

theorem issued_touched {key : APIKey} (issued : Issued env key) (keyId : String) (now : Datetime) :
    Issued env (touched keyId now key) := by
  unfold touched
  split_ifs <;> exact issued

/-- A team is only ever added to the organization of its creator, which exists. -/
theorem Moves.kept {action : GatewayAction} {reply : GatewayReply}
    (moves : Moves env db action reply after) (validated : action.Validated)
    (kept : Kept env db) : Kept env after := by
  cases moves with
  | same => exact kept
  | organizationInserted call body newId reply after unanswered inserted =>
      exact kept.insertOrganization inserted
  | touched task keyId now =>
      exact kept.updateKeys _ _ fun _ issued => issued_touched issued keyId now
  | handled call context success after authenticated admin handled =>
      change call.endpoint.Validated at validated
      generalize call.endpoint = endpoint at handled validated
      cases handled with
      | read => exact kept
      | teamInserted body newId after inserted =>
          exact kept.insertTeam inserted (authenticated_places authenticated).2.2
      | keyInserted body newId randomPart after inserted =>
          exact kept.insertKey inserted ⟨validated, randomPart, rfl, rfl⟩
      | keyRevoked key member own =>
          exact kept.updateKeys _ _ fun _ issued => issued_revoked issued key.id call.now
      | rowsWritten endpoint success teamId rows after noChange owned became written =>
          exact kept.writeTeamRows written (became.wellFormed validated (kept.rows teamId))

theorem Kept.run {actions : List GatewayAction} {state : ApiState} (kept : Kept env state.db)
    (validated : ∀ action ∈ actions, action.Validated) :
    Kept env (Isolation.run (gatewayStep env) state actions).2.db := by
  induction actions generalizing state with
  | nil => exact kept
  | cons action rest ih =>
      exact ih ((gatewayStep_moves state action).kept (validated action List.mem_cons_self) kept)
        fun later member => validated later (List.mem_cons_of_mem action member)

end Steps

/-! ## Every key finds its tenant -/

theorem tracked_of_kept {env : AdminEnv} {db : Database} (kept : Kept env db) {key : APIKey}
    (member : key ∈ db.apiKeys)
    (alone : ∀ other ∈ db.apiKeys, other.keyHash = key.keyHash → other = key) :
    ∃ team ∈ db.teams, team.id = key.teamId ∧
      Tracked db key team.organizationId key.revokedAt.isSome := by
  obtain ⟨team, listed, named⟩ := db.keyTeams key member
  obtain ⟨organization, present, same⟩ := kept.teamOrganizations team listed
  refine ⟨team, listed, named, ⟨key, member, rfl, rfl⟩, fun other listed same => ?_,
    ⟨team, listed, named, rfl⟩, organization, present, same⟩
  rw [alone other listed same]

/-- Whatever validated calls the API has answered, its tables are as they should
be, and a key that no other key shares its hash with authenticates exactly when
it is active, as its role, its team and the organization of that team. -/
theorem tables_kept (env : AdminEnv) (start : ApiState) (kept : Kept env start.db)
    (actions : List GatewayAction) (validated : ∀ action ∈ actions, action.Validated) :
    let final := (Isolation.run (gatewayStep env) start actions).2.db
    Kept env final ∧ ∀ key ∈ final.apiKeys,
      (∀ other ∈ final.apiKeys, other.keyHash = key.keyHash → other = key) →
      ∃ randomPart, ∃ team ∈ final.teams, team.id = key.teamId ∧ ∀ now,
        authenticate env final (generateApiKey randomPart) now =
          if key.isActive now then .ok ⟨team.organizationId, key.teamId, key.id, key.role⟩
          else .error genericAuthError := by
  have keptLater : Kept env (Isolation.run (gatewayStep env) start actions).2.db :=
    kept.run validated
  refine ⟨keptLater, fun key member alone => ?_⟩
  obtain ⟨-, randomPart, hashed, -⟩ := keptLater.keys key member
  obtain ⟨team, listed, named, tracked⟩ := tracked_of_kept keptLater member alone
  refine ⟨randomPart, team, listed, named, fun now => ?_⟩
  rw [tracked.authenticate (startsWith_generateApiKey randomPart) hashed now]
  have active : key.isActive now = true ↔
      ¬(key.revokedAt.isSome = true ∨ ¬∀ expiry ∈ key.expiresAt, now < expiry) := by
    rw [APIKey.isActive]
    cases key.revokedAt <;> cases key.expiresAt <;> simp
  by_cases usable : key.isActive now = true
  · rw [if_pos usable, if_neg (active.mp usable)]
  · rw [if_neg usable, if_pos (not_not.mp (active.not.mp usable))]

theorem twoTenants_kept : Kept plainEnv twoTenants := by
  refine ⟨by decide, by decide, by decide, fun key member => ?_,
    fun teamId => ⟨fun _ held => (by cases held), fun _ held => (by cases held),
      fun _ held => (by cases held)⟩⟩
  obtain ⟨slug, -, rfl⟩ := List.mem_map.mp member
  exact ⟨.inl rfl, slug, rfl, rfl⟩

/-- The tables after the admin of `acme` has added a key and revoked it. -/
theorem acme_tables_kept :
    Kept plainEnv (Isolation.run (gatewayStep plainEnv) ⟨twoTenants, []⟩
      [.api (.call acmeAddsKey), acmeRevokesKey]).2.db :=
  (tables_kept plainEnv ⟨twoTenants, []⟩ twoTenants_kept [.api (.call acmeAddsKey), acmeRevokesKey]
    (by simp [GatewayAction.Validated, acmeAddsKey, acmeRevokesKey, Endpoint.Validated])).1

end AdminApi
end CortexGateway
