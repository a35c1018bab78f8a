import CortexGateway.Auth.Models
import CortexGateway.Policy.Schemas
import CortexGateway.RateLimit.TeamLimits

/-! # The tenant tables

The tables of organizations, teams, keys, budgets, rate limits, policies and
request logs.  Budgets, rate limits and policies have one row for a team.  A
database keeps its primary keys and foreign keys; it can be cut down to the
rows of one organization. -/
set_option autoImplicit false
namespace CortexGateway
open Budgeting RateLimiting

/-- A row of `team_policies`; a document that fails validation is `none`. -/
structure TeamPolicyModel where
  id : String
  teamId : String
  policy : Option TeamPolicyInput
  enabled : Bool
  createdAt : Datetime
  updatedAt : Datetime
  deriving DecidableEq

/-- What a listing shows of a request. -/
structure RequestLogItem where
  requestId : String
  teamId : Option String
  organizationId : Option String
  provider : Option String
  model : Option String
  routingMode : Option String
  status : String
  httpStatusCode : Option ℤ
  latencyMs : Option ℚ
  promptTokens : Option ℤ
  completionTokens : Option ℤ
  totalTokens : Option ℤ
  estimatedCost : Option ℚ
  actualCost : Option ℚ
  retryCount : ℤ
  failoverTriggered : Bool
  failoverFromProvider : Option String
  failoverToProvider : Option String
  circuitBreakerState : Option String
  budgetPolicyApplied : Option String
  budgetAction : Option String
  errorCode : Option String
  traceId : Option String
  createdAt : Datetime
  deriving DecidableEq

/-- A row of `request_logs`, in the columns the analytics read. -/
structure RequestLogRow extends RequestLogItem where
  id : String
  deriving DecidableEq

/-- The rows that refer to one team; a budget row has its `created_at` beside it. -/
@[ext] structure TeamRows where
  budget : Option (Budget × Datetime)
  rateLimit : Option TeamRateLimit
  policy : Option TeamPolicyModel
  deriving DecidableEq

def TeamRows.empty : TeamRows := ⟨none, none, none⟩

@[ext] structure Database where
  organizations : List Organization
  teams : List Team
  apiKeys : List APIKey
  teamRows : String → TeamRows
  requestLogs : List RequestLogRow
  organizationIds : (organizations.map Organization.id).Nodup
  teamIds : (teams.map Team.id).Nodup
  keyIds : (apiKeys.map APIKey.id).Nodup
  keyTeams : ∀ key ∈ apiKeys, ∃ team ∈ teams, team.id = key.teamId
  rowTeams : ∀ teamId, teamRows teamId ≠ .empty → ∃ team ∈ teams, team.id = teamId

namespace Database

/-- The team of the organization with this id, if there is one. -/
def hasTeam (db : Database) (teamId : String) : Bool := db.teams.any fun team => team.id = teamId

theorem hasTeam_iff {db : Database} {teamId : String} :
    db.hasTeam teamId = true ↔ ∃ team ∈ db.teams, team.id = teamId := by
  simp [hasTeam]

theorem team_unique (db : Database) {team other : Team} (member : team ∈ db.teams)
    (memberToo : other ∈ db.teams) (same : team.id = other.id) : team = other :=
  List.inj_on_of_nodup_map db.teamIds member memberToo same

theorem key_unique (db : Database) {key other : APIKey} (member : key ∈ db.apiKeys)
    (memberToo : other ∈ db.apiKeys) (same : key.id = other.id) : key = other :=
  List.inj_on_of_nodup_map db.keyIds member memberToo same

/-! ## Writes -/

theorem nodup_insertRow {Row : Type} {clash : Row → Row → Bool} {rows : List Row} {row : Row}
    {column : Row → String} (unique : (rows.map column).Nodup)
    (apart : ∀ other ∈ rows, clash row other = false)
    (keyed : ∀ other, column row = column other → clash row other = true) :
    ((rows ++ [row]).map column).Nodup := by
  rw [List.map_append, List.nodup_append]
  refine ⟨unique, List.nodup_singleton _, ?_⟩
  intro value member other last same
  obtain ⟨taken, listed, rfl⟩ := List.mem_map.mp member
  simp only [List.map_cons, List.map_nil, List.mem_singleton] at last
  have clashes := keyed taken (by rw [← last, same])
  rw [apart taken listed] at clashes
  cases clashes

/-- INSERT INTO teams. -/
def insertTeam (db : Database) (team : Team) : Except Exc Database :=
  if apart : ∀ other ∈ db.teams, team.clash other = false then
    .ok { db with
      teams := db.teams ++ [team]
      teamIds := nodup_insertRow db.teamIds apart (by
        intro other same
        simp [Team.clash, same])
      keyTeams := fun key member =>
        have ⟨team, listed, same⟩ := db.keyTeams key member
        ⟨team, List.mem_append_left _ listed, same⟩
      rowTeams := fun teamId present =>
        have ⟨team, listed, same⟩ := db.rowTeams teamId present
        ⟨team, List.mem_append_left _ listed, same⟩ }
  else .error (.otherException "IntegrityError")

/-- INSERT INTO api_keys; the team must exist. -/
def insertKey (db : Database) (key : APIKey) : Except Exc Database :=
  if apart : (∀ other ∈ db.apiKeys, key.clash other = false) ∧ db.hasTeam key.teamId = true then
    .ok { db with
      apiKeys := db.apiKeys ++ [key]
      keyIds := nodup_insertRow db.keyIds apart.1 (by
        intro other same
        simp [APIKey.clash, same])
      keyTeams := fun other member => by
        rcases List.mem_append.mp member with before | last
        · exact db.keyTeams other before
        · rw [List.mem_singleton.mp last]
          exact hasTeam_iff.mp apart.2 }
  else .error (.otherException "IntegrityError")

/-- UPDATE api_keys; ids and teams are never written. -/
def updateKeys (db : Database) (update : APIKey → APIKey)
    (ids : ∀ key, (update key).id = key.id) (teamIds : ∀ key, (update key).teamId = key.teamId) :
    Database :=
  { db with
    apiKeys := db.apiKeys.map update
    keyIds := by
      have same : APIKey.id ∘ update = APIKey.id := funext ids
      rw [List.map_map, same]
      exact db.keyIds
    keyTeams := fun key member => by
      obtain ⟨before, listed, rfl⟩ := List.mem_map.mp member
      rw [teamIds before]
      exact db.keyTeams before listed }

/-- INSERT, UPDATE or DELETE of a row that refers to a team; the team must exist. -/
def writeTeamRows (db : Database) (teamId : String) (rows : TeamRows) : Except Exc Database :=
  if exists_ : db.hasTeam teamId = true then
    .ok { db with
      teamRows := Function.update db.teamRows teamId rows
      rowTeams := fun other present => by
        by_cases same : other = teamId
        · rw [same]
          exact hasTeam_iff.mp exists_
        · rw [Function.update_of_ne same] at present
          exact db.rowTeams other present }
  else .error (.otherException "IntegrityError")

/-! ## The rows of an organization -/

def ownTeam (organizationId : String) (team : Team) : Bool := team.organizationId = organizationId

/-- The team is one of the organization's. -/
def owns (db : Database) (organizationId teamId : String) : Bool :=
  db.teams.any fun team => ownTeam organizationId team && team.id = teamId

theorem owns_iff {db : Database} {organizationId teamId : String} :
    db.owns organizationId teamId = true ↔
      ∃ team ∈ db.teams, team.organizationId = organizationId ∧ team.id = teamId := by
  simp [owns, ownTeam]

theorem owns_unique {db : Database} {organizationId other teamId : String}
    (owned : db.owns organizationId teamId = true) (ownedToo : db.owns other teamId = true) :
    organizationId = other := by
  obtain ⟨team, listed, rfl, rfl⟩ := owns_iff.mp owned
  obtain ⟨team', listed', rfl, same⟩ := owns_iff.mp ownedToo
  rw [db.team_unique listed' listed same]

/-- The database as it is with the rows of one organization and no others. -/
def rowsOf (db : Database) (organizationId : String) : Database :=
  { organizations := db.organizations.filter fun row => row.id = organizationId
    teams := db.teams.filter (ownTeam organizationId)
    apiKeys := db.apiKeys.filter fun key => db.owns organizationId key.teamId
    teamRows := fun teamId =>
      if db.owns organizationId teamId then db.teamRows teamId else .empty
    requestLogs := db.requestLogs.filter fun row => row.organizationId = some organizationId
    organizationIds := db.organizationIds.sublist (List.filter_sublist.map _)
    teamIds := db.teamIds.sublist (List.filter_sublist.map _)
    keyIds := db.keyIds.sublist (List.filter_sublist.map _)
    keyTeams := fun key member => by
      obtain ⟨team, listed, own, same⟩ := owns_iff.mp (List.mem_filter.mp member).2
      exact ⟨team, List.mem_filter.mpr ⟨listed, by simpa [ownTeam] using own⟩, same⟩
    rowTeams := fun teamId present => by
      split_ifs at present with owned
      · obtain ⟨team, listed, own, same⟩ := owns_iff.mp owned
        exact ⟨team, List.mem_filter.mpr ⟨listed, by simpa [ownTeam] using own⟩, same⟩
      · exact absurd rfl present }

section Own
variable (db : Database) (organizationId : String)

@[simp] theorem owns_rowsOf (teamId : String) :
    (db.rowsOf organizationId).owns organizationId teamId = db.owns organizationId teamId := by
  simp [rowsOf, owns, List.any_filter]

@[simp] theorem hasTeam_rowsOf (teamId : String) :
    (db.rowsOf organizationId).hasTeam teamId = db.owns organizationId teamId := by
  simp [rowsOf, owns, hasTeam, List.any_filter]

theorem hasTeam_of_owns {db : Database} {organizationId teamId : String}
    (owned : db.owns organizationId teamId = true) : db.hasTeam teamId = true := by
  obtain ⟨team, listed, -, same⟩ := owns_iff.mp owned
  exact hasTeam_iff.mpr ⟨team, listed, same⟩

theorem teamRows_rowsOf {db : Database} {organizationId teamId : String}
    (owned : db.owns organizationId teamId = true) :
    (db.rowsOf organizationId).teamRows teamId = db.teamRows teamId := if_pos owned

theorem rowsOf_rowsOf : (db.rowsOf organizationId).rowsOf organizationId =
    db.rowsOf organizationId := by
  apply Database.ext
  · simp [rowsOf]
  · simp [rowsOf]
  · change List.filter (fun key => (db.rowsOf organizationId).owns organizationId key.teamId)
      (db.apiKeys.filter fun key => db.owns organizationId key.teamId) = _
    simp only [owns_rowsOf, List.filter_filter, Bool.and_self]
    rfl
  · funext teamId
    change (if (db.rowsOf organizationId).owns organizationId teamId = true then
      (db.rowsOf organizationId).teamRows teamId else _) = _
    rw [owns_rowsOf]
    by_cases owned : db.owns organizationId teamId = true <;> simp [rowsOf, owned]
  · simp [rowsOf]

/-! ## Writes among the rows of an organization -/

/-- A fresh team is only kept out by teams of its own organization. -/
theorem rowsOf_insertTeam (team : Team) (own : team.organizationId = organizationId)
    (fresh : ∀ other ∈ db.teams, team.id ≠ other.id) :
    (db.insertTeam team).map (rowsOf · organizationId) =
      (db.rowsOf organizationId).insertTeam team := by
  have apart_iff : (∀ other ∈ db.teams, team.clash other = false) ↔
      ∀ other ∈ (db.rowsOf organizationId).teams, team.clash other = false := by
    constructor
    · exact fun apart other member => apart other (List.mem_of_mem_filter member)
    · intro apart other member
      by_cases mine : ownTeam organizationId other = true
      · exact apart other (List.mem_filter.mpr ⟨member, mine⟩)
      · have foreign : ¬ organizationId = other.organizationId := by
          simpa [ownTeam, eq_comm] using mine
        simp [Team.clash, fresh other member, own, foreign]
  unfold insertTeam
  by_cases apart : ∀ other ∈ db.teams, team.clash other = false
  · rw [dif_pos apart, dif_pos (apart_iff.mp apart)]
    have unowned : db.owns organizationId team.id = false := by
      by_contra owned
      obtain ⟨other, member, -, same⟩ := owns_iff.mp (by simpa using owned)
      exact fresh other member same.symm
    have absent : db.teamRows team.id = .empty := by
      by_contra present
      obtain ⟨other, member, same⟩ := db.rowTeams team.id present
      exact fresh other member same.symm
    have owns_append : ∀ teamId, ((db.teams ++ [team]).any fun team =>
        ownTeam organizationId team && team.id = teamId) =
          (db.owns organizationId teamId || decide (team.id = teamId)) := by
      intro teamId
      simp [owns, ownTeam, own]
    simp only [Except.map, Except.ok.injEq]
    apply Database.ext
    · rfl
    · simp [rowsOf, ownTeam, own]
    · apply List.filter_congr
      intro key member
      change ((db.teams ++ [team]).any fun team =>
        ownTeam organizationId team && team.id = key.teamId) = db.owns organizationId key.teamId
      rw [owns_append]
      obtain ⟨other, listed, same⟩ := db.keyTeams key member
      have different : team.id ≠ key.teamId := same ▸ fresh other listed
      simp [different]
    · funext teamId
      change (if ((db.teams ++ [team]).any fun team =>
        ownTeam organizationId team && team.id = teamId) = true then db.teamRows teamId else _) =
          if db.owns organizationId teamId = true then db.teamRows teamId else _
      rw [owns_append]
      by_cases same : team.id = teamId
      · rw [← same, unowned, absent]
        simp
      · simp [same]
    · rfl
  · rw [dif_neg apart, dif_neg fun both => apart (apart_iff.mpr both)]
    rfl

theorem rowsOf_insertTeam_other {db after : Database} {organizationId : String} (team : Team)
    (foreign : team.organizationId ≠ organizationId) (inserted : db.insertTeam team = .ok after) :
    after.rowsOf organizationId = db.rowsOf organizationId := by
  unfold insertTeam at inserted
  split_ifs at inserted
  cases inserted
  have owns_append : ∀ teamId, ((db.teams ++ [team]).any fun team =>
      ownTeam organizationId team && team.id = teamId) = db.owns organizationId teamId := by
    intro teamId
    simp [owns, ownTeam, foreign]
  apply Database.ext
  · rfl
  · simp [rowsOf, ownTeam, foreign]
  · exact List.filter_congr fun key _ => owns_append key.teamId
  · funext teamId
    change (if ((db.teams ++ [team]).any fun team =>
      ownTeam organizationId team && team.id = teamId) = true then db.teamRows teamId else _) =
        if db.owns organizationId teamId = true then db.teamRows teamId else _
    rw [owns_append]
  · rfl

theorem rowsOf_insertKey (key : APIKey) (owned : db.owns organizationId key.teamId = true)
    (fresh : ∀ other ∈ db.apiKeys, key.id ≠ other.id) :
    (db.insertKey key).map (rowsOf · organizationId) =
      (db.rowsOf organizationId).insertKey key := by
  have apart : ∀ other ∈ db.apiKeys, key.clash other = false := fun other member => by
    simp [APIKey.clash, fresh other member]
  unfold insertKey
  rw [dif_pos ⟨apart, hasTeam_of_owns owned⟩, dif_pos ⟨fun other member =>
    apart other (List.mem_of_mem_filter member), by rw [hasTeam_rowsOf]; exact owned⟩]
  simp only [Except.map, Except.ok.injEq]
  apply Database.ext
  · rfl
  · rfl
  · change (db.apiKeys ++ [key]).filter (fun key => db.owns organizationId key.teamId) =
      db.apiKeys.filter (fun key => db.owns organizationId key.teamId) ++ [key]
    simp [owned]
  · rfl
  · rfl

theorem rowsOf_insertKey_other {db after : Database} {organizationId : String} (key : APIKey)
    (foreign : db.owns organizationId key.teamId = false)
    (inserted : db.insertKey key = .ok after) :
    after.rowsOf organizationId = db.rowsOf organizationId := by
  unfold insertKey at inserted
  split_ifs at inserted
  cases inserted
  apply Database.ext
  · rfl
  · rfl
  · change (db.apiKeys ++ [key]).filter (fun key => db.owns organizationId key.teamId) =
      db.apiKeys.filter (fun key => db.owns organizationId key.teamId)
    simp [foreign]
  · rfl
  · rfl

section UpdateKeys
variable (update : APIKey → APIKey) (ids : ∀ key, (update key).id = key.id)
  (teamIds : ∀ key, (update key).teamId = key.teamId)

theorem rowsOf_updateKeys :
    (db.updateKeys update ids teamIds).rowsOf organizationId =
      (db.rowsOf organizationId).updateKeys update ids teamIds := by
  apply Database.ext
  · rfl
  · rfl
  · change (db.apiKeys.map update).filter (fun key => db.owns organizationId key.teamId) =
      (db.apiKeys.filter fun key => db.owns organizationId key.teamId).map update
    rw [List.filter_map]
    congr 2
    funext key
    simp [teamIds]
  · rfl
  · rfl

theorem updateKeys_id (same : ∀ key ∈ db.apiKeys, update key = key) :
    db.updateKeys update ids teamIds = db := by
  apply Database.ext
  · rfl
  · rfl
  · exact (List.map_congr_left same).trans (List.map_id _)
  · rfl
  · rfl

end UpdateKeys

theorem rowsOf_writeTeamRows (teamId : String) (rows : TeamRows)
    (owned : db.owns organizationId teamId = true) :
    (db.writeTeamRows teamId rows).map (rowsOf · organizationId) =
      (db.rowsOf organizationId).writeTeamRows teamId rows := by
  unfold writeTeamRows
  rw [dif_pos (hasTeam_of_owns owned), dif_pos (by rw [hasTeam_rowsOf]; exact owned)]
  simp only [Except.map, Except.ok.injEq]
  apply Database.ext
  · rfl
  · rfl
  · rfl
  · funext other
    change (if db.owns organizationId other = true then
      Function.update db.teamRows teamId rows other else _) =
        Function.update (db.rowsOf organizationId).teamRows teamId rows other
    by_cases same : other = teamId
    · rw [same, if_pos owned, Function.update_self, Function.update_self]
    · rw [Function.update_of_ne same, Function.update_of_ne same]
      rfl
  · rfl

theorem rowsOf_writeTeamRows_other {db after : Database} {organizationId teamId : String}
    (rows : TeamRows) (foreign : db.owns organizationId teamId = false)
    (written : db.writeTeamRows teamId rows = .ok after) :
    after.rowsOf organizationId = db.rowsOf organizationId := by
  unfold writeTeamRows at written
  split_ifs at written
  cases written
  apply Database.ext
  · rfl
  · rfl
  · rfl
  · funext other
    change (if db.owns organizationId other = true then
      Function.update db.teamRows teamId rows other else _) =
        if db.owns organizationId other = true then db.teamRows other else _
    by_cases same : other = teamId
    · rw [same, foreign]
      rfl
    · rw [Function.update_of_ne same]
  · rfl

end Own

end Database
end CortexGateway
