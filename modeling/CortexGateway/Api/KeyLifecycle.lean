import CortexGateway.Api.Effects

/-! # The life of an API key

A key works from its creation until it is revoked or expires, whatever else
the API is asked.  Only an admin of a team adds keys to it, so a team without a
key never gets its first one. -/
set_option autoImplicit false
namespace CortexGateway

/-- The columns of a key that are written once. -/
def APIKey.identity (key : APIKey) : APIKey := { key with revokedAt := none, lastUsedAt := none }

theorem APIKey.of_identity {key other : APIKey} (same : key.identity = other.identity) :
    key.id = other.id ∧ key.teamId = other.teamId ∧ key.keyHash = other.keyHash ∧
      key.role = other.role ∧ key.expiresAt = other.expiresAt := by
  simp only [APIKey.identity, APIKey.mk.injEq] at same
  obtain ⟨id, teamId, -, -, keyHash, role, expiresAt, -⟩ := same
  exact ⟨id, teamId, keyHash, role, expiresAt⟩

namespace AdminApi
open Exits

@[simp] theorem revoked_identity (keyId : String) (now : Datetime) (key : APIKey) :
    (revoked keyId now key).identity = key.identity := by
  unfold revoked
  split_ifs <;> rfl

@[simp] theorem touched_identity (keyId : String) (now : Datetime) (key : APIKey) :
    (touched keyId now key).identity = key.identity := by
  unfold touched
  split_ifs <;> rfl

@[simp] theorem touched_revokedAt (keyId : String) (now : Datetime) (key : APIKey) :
    (touched keyId now key).revokedAt = key.revokedAt := by
  unfold touched
  split_ifs <;> rfl

/-- The reply tells that this key was revoked. -/
def GatewayReply.revokes (reply : GatewayReply) (keyId : String) : Bool :=
  match reply.success? with
  | some (.keyRevoked key) => key.id = keyId
  | _ => false

theorem revoked_revokedAt (key other : APIKey) (now : Datetime) :
    (revoked key.id now other).revokedAt.isSome = (other.revokedAt.isSome ||
      (GatewayReply.api (some (.ok (.keyRevoked (.ofRow (revoked key.id now key)))))).revokes
        other.id) := by
  have shown : (APIKeyResponse.ofRow (revoked key.id now key)).id = key.id := revoked_id ..
  simp only [GatewayReply.revokes, GatewayReply.success?, shown]
  unfold revoked
  by_cases same : other.id = key.id
  · simp [same]
  · simp [same, Ne.symm same]

theorem revokes_of_unanswered {reply : GatewayReply} (unanswered : reply.success? = none)
    (keyId : String) : reply.revokes keyId = false := by
  simp [GatewayReply.revokes, unanswered]

theorem revokes_of_noChange {success : Success} (noChange : success.isKeyChange = false)
    (keyId : String) : (GatewayReply.api (some (.ok success))).revokes keyId = false := by
  cases success <;> first | rfl | cases noChange

/-! ## What a step makes of the keys -/

/-- The key an admin adds to its own team. -/
inductive Added (env : AdminEnv) (db : Database) : GatewayAction → GatewayReply → APIKey → Prop
  | intro (call : ApiCall) (context : RequestContext) (body : APIKeyCreate)
      (newId randomPart : String)
      (authenticated : getRequestContext env db call.credentials call.now = .ok context)
      (admin : context.role = "admin")
      (made : call.endpoint = .createApiKey context.teamId body newId randomPart) :
      Added env db (.api (.call call))
        (.api (some (.ok (.keyCreated (createdResponse
          (newKeyOf env context call.now body newId randomPart) (generateApiKey randomPart))))))
        (newKeyOf env context call.now body newId randomPart)

/-- Keys keep their identity, stay revoked, and are revoked as the reply says;
what is new was added. -/
structure KeysMove (env : AdminEnv) (db : Database) (action : GatewayAction) (reply : GatewayReply)
    (after : Database) : Prop where
  kept : ∀ key ∈ db.apiKeys, ∃ row ∈ after.apiKeys, row.identity = key.identity ∧
    row.revokedAt.isSome = (key.revokedAt.isSome || reply.revokes key.id)
  known : ∀ row ∈ after.apiKeys, Added env db action reply row ∨
    ∃ key ∈ db.apiKeys, row.identity = key.identity ∧
      (key.revokedAt.isSome = true → row.revokedAt.isSome = true)
  teams : db.teams ⊆ after.teams
  organizations : db.organizations ⊆ after.organizations

theorem keysMove_updateKeys {env : AdminEnv} {db : Database} {action : GatewayAction}
    {reply : GatewayReply} {update : APIKey → APIKey} (ids : ∀ key, (update key).id = key.id)
    (teamIds : ∀ key, (update key).teamId = key.teamId)
    (identities : ∀ key, (update key).identity = key.identity)
    (revokes : ∀ key, (update key).revokedAt.isSome =
      (key.revokedAt.isSome || reply.revokes key.id)) :
    KeysMove env db action reply (db.updateKeys update ids teamIds) := by
  refine ⟨fun key member => ?_, fun row member => ?_, fun _ => id, fun _ => id⟩
  · exact ⟨update key, List.mem_map_of_mem member, identities key, revokes key⟩
  · obtain ⟨key, listed, rfl⟩ := List.mem_map.mp member
    exact .inr ⟨key, listed, identities key, fun before => by rw [revokes, before, Bool.true_or]⟩

theorem keysMove_same {env : AdminEnv} {db after : Database} {action : GatewayAction}
    {reply : GatewayReply} (keys : after.apiKeys = db.apiKeys) (teams : db.teams ⊆ after.teams)
    (organizations : db.organizations ⊆ after.organizations)
    (revokes : ∀ keyId, reply.revokes keyId = false) : KeysMove env db action reply after := by
  refine ⟨fun key member => ?_, fun row member => ?_, teams, organizations⟩
  · exact ⟨key, keys ▸ member, rfl, by rw [revokes, Bool.or_false]⟩
  · exact .inr ⟨row, keys ▸ member, rfl, id⟩

theorem keysMove_added {env : AdminEnv} {db after : Database} {call : ApiCall}
    {context : RequestContext} {body : APIKeyCreate} {newId randomPart : String}
    (authenticated : getRequestContext env db call.credentials call.now = .ok context)
    (admin : context.role = "admin")
    (made : call.endpoint = .createApiKey context.teamId body newId randomPart)
    (inserted : db.insertKey (newKeyOf env context call.now body newId randomPart) = .ok after) :
    KeysMove env db (.api (.call call))
      (.api (some (.ok (.keyCreated (createdResponse
        (newKeyOf env context call.now body newId randomPart) (generateApiKey randomPart)))))) after
    := by
  unfold Database.insertKey at inserted
  split_ifs at inserted
  cases inserted
  refine ⟨fun key member => ?_, fun row member => ?_, fun _ => id, fun _ => id⟩
  · exact ⟨key, List.mem_append_left _ member, rfl, (Bool.or_false _).symm⟩
  · rcases List.mem_append.mp member with before | last
    · exact .inr ⟨row, before, rfl, id⟩
    · rw [List.mem_singleton.mp last]
      exact .inl (.intro call context body newId randomPart authenticated admin made)

/-- Every step is such a move. -/
theorem Moves.keys {env : AdminEnv} {db after : Database} {action : GatewayAction}
    {reply : GatewayReply} (moves : Moves env db action reply after) :
    KeysMove env db action reply after := by
  cases moves with
  | same action reply unanswered =>
      exact keysMove_same rfl (fun _ => id) (fun _ => id) (revokes_of_unanswered unanswered)
  | organizationInserted call body newId reply after unanswered inserted =>
      unfold Database.insertOrganization at inserted
      split_ifs at inserted
      cases inserted
      exact keysMove_same rfl (fun _ => id) (List.subset_append_left _ _)
        (revokes_of_unanswered unanswered)
  | touched task keyId now =>
      exact keysMove_updateKeys _ _ (touched_identity keyId now) fun key => by
        simp [GatewayReply.revokes, GatewayReply.success?]
  | handled call context success after authenticated admin handled =>
      generalize target : call.endpoint = endpoint at handled
      cases handled with
      | read endpoint success noChange =>
          exact keysMove_same rfl (fun _ => id) (fun _ => id) (revokes_of_noChange noChange)
      | teamInserted body newId after inserted =>
          unfold Database.insertTeam at inserted
          split_ifs at inserted
          cases inserted
          exact keysMove_same rfl (List.subset_append_left _ _) (fun _ => id) fun _ => rfl
      | keyInserted body newId randomPart after inserted =>
          exact keysMove_added authenticated admin target inserted
      | keyRevoked key member own =>
          exact keysMove_updateKeys _ _ (revoked_identity key.id call.now)
            fun other => revoked_revokedAt key other call.now
      | rowsWritten endpoint success teamId rows after noChange owned became written =>
          unfold Database.writeTeamRows at written
          split_ifs at written
          cases written
          exact keysMove_same rfl (fun _ => id) (fun _ => id) (revokes_of_noChange noChange)

/-! ## A key from its creation on -/

/-- The only key with its hash, of a team of the organization. -/
structure Tracked (db : Database) (key : APIKey) (organizationId : String) (isRevoked : Bool) :
    Prop where
  row : ∃ row ∈ db.apiKeys, row.identity = key.identity ∧ row.revokedAt.isSome = isRevoked
  alone : ∀ other ∈ db.apiKeys, other.keyHash = key.keyHash → other.id = key.id
  team : ∃ team ∈ db.teams, team.id = key.teamId ∧ team.organizationId = organizationId
  organization : ∃ row ∈ db.organizations, row.id = organizationId

/-- No key of the action has the hash of the secret. -/
def Unguessed (env : AdminEnv) (secret : String) (_ : ApiState) : GatewayAction → Prop
  | .api (.call ⟨_, .createApiKey _ _ _ randomPart, _⟩) =>
      env.hmac env.apiKeyPepper (generateApiKey randomPart) ≠ env.hmac env.apiKeyPepper secret
  | _ => True

section Tracked
variable {env : AdminEnv} {db after : Database} {key : APIKey} {organizationId : String}
variable {isRevoked : Bool}

theorem Tracked.matches_singleton (tracked : Tracked db key organizationId isRevoked) :
    ∃ row, row.identity = key.identity ∧ row.revokedAt.isSome = isRevoked ∧
      db.apiKeys.filter (fun other => other.keyHash = key.keyHash && joined db other) = [row] := by
  obtain ⟨row, member, same, isRevoked_iff⟩ := tracked.row
  obtain ⟨id, teamId, keyHash, -⟩ := APIKey.of_identity same
  refine ⟨row, same, isRevoked_iff, ?_⟩
  have isJoined : joined db row = true := by
    obtain ⟨team, listed, named, ofOrganization⟩ := tracked.team
    obtain ⟨organization, present, sameId⟩ := tracked.organization
    simp only [joined, List.any_eq_true, Bool.and_eq_true, decide_eq_true_eq]
    exact ⟨team, listed, named.trans teamId.symm, organization, present,
      sameId.trans ofOrganization.symm⟩
  have only : db.apiKeys.filter (fun other => other.keyHash = key.keyHash && joined db other) =
      db.apiKeys.filter (· = row) := by
    refine List.filter_congr fun other listed => ?_
    by_cases hashed : other.keyHash = key.keyHash
    · have sameRow := db.key_unique listed member ((tracked.alone other listed hashed).trans id.symm)
      simp [sameRow, keyHash, isJoined]
    · have different : other ≠ row := fun sameRow => hashed (sameRow ▸ keyHash)
      simp [hashed, different]
  rw [only, List.filter_eq, List.count_eq_one_of_mem (List.Nodup.of_map _ db.keyIds) member]
  rfl

theorem Tracked.find_team (tracked : Tracked db key organizationId isRevoked) :
    ∃ team, db.teams.find? (fun team => team.id = key.teamId) = some team ∧
      team.id = key.teamId ∧ team.organizationId = organizationId := by
  obtain ⟨team, listed, named, ofOrganization⟩ := tracked.team
  cases found : db.teams.find? fun team => team.id = key.teamId with
  | none => exact absurd (List.find?_eq_none.mp found team listed) (by simp [named])
  | some other =>
      have sameId := List.find?_some found
      simp only [decide_eq_true_eq] at sameId
      rw [db.team_unique (List.mem_of_find?_eq_some found) listed (sameId.trans named.symm)]
      exact ⟨team, rfl, named, ofOrganization⟩

theorem Tracked.find_organization (tracked : Tracked db key organizationId isRevoked) :
    ∃ row, db.organizations.find? (fun row => row.id = organizationId) = some row ∧
      row.id = organizationId := by
  obtain ⟨row, listed, named⟩ := tracked.organization
  cases found : db.organizations.find? fun row => row.id = organizationId with
  | none => exact absurd (List.find?_eq_none.mp found row listed) (by simp [named])
  | some other => exact ⟨other, rfl, by simpa using List.find?_some found⟩

theorem Tracked.authenticate (tracked : Tracked db key organizationId isRevoked) {secret : String}
    (cxg : startsWith secret "cxg_" = true)
    (hashed : key.keyHash = env.hmac env.apiKeyPepper secret) (now : Datetime) :
    authenticate env db secret now =
      if isRevoked = true ∨ ¬∀ expiresAt ∈ key.expiresAt, now < expiresAt then
        .error genericAuthError
      else .ok ⟨organizationId, key.teamId, key.id, key.role⟩ := by
  obtain ⟨row, same, isRevoked_iff, matched⟩ := tracked.matches_singleton
  obtain ⟨id, teamId, keyHash, role, expiresAt⟩ := APIKey.of_identity same
  obtain ⟨team, foundTeam, named, ofOrganization⟩ := tracked.find_team
  obtain ⟨organization, foundOrganization, sameOrganization⟩ := tracked.find_organization
  have nonempty : secret ≠ "" := by
    rintro rfl
    cases cxg
  have verified : verifyApiKey env secret row.keyHash = true := by
    simp [verifyApiKey, keyHash, hashed]
  have active : row.isActive now = true ↔
      ¬(isRevoked = true ∨ ¬∀ expiry ∈ key.expiresAt, now < expiry) := by
    rw [APIKey.isActive, ← isRevoked_iff, expiresAt]
    cases row.revokedAt <;> cases key.expiresAt <;> simp
  rw [authenticate_eq, ← hashed, matched]
  simp only [nonempty, cxg, decide_false, Bool.not_true, Bool.or_self, Bool.false_eq_true, if_false,
    contextOf, verified, teamId, foundTeam, ofOrganization, foundOrganization]
  by_cases dead : isRevoked = true ∨ ¬∀ expiry ∈ key.expiresAt, now < expiry
  · have inactive : row.isActive now = false := by
      simpa using active.not.mpr (not_not.mpr dead)
    rw [if_pos dead, inactive]
    rfl
  · rw [if_neg dead, active.mpr dead, sameOrganization, named, id, role]
    rfl

theorem Added.unguessed {state : ApiState} {action : GatewayAction} {reply : GatewayReply}
    {secret : String} (added : Added env db action reply key)
    (unguessed : Unguessed env secret state action) :
    key.keyHash ≠ env.hmac env.apiKeyPepper secret := by
  cases added with
  | intro call context body newId randomPart authenticated admin made =>
      obtain ⟨credentials, endpoint, now⟩ := call
      cases made
      exact unguessed

/-- A step keeps the key in sight, and revokes it if its reply says so. -/
theorem Tracked.moves {state : ApiState} {action : GatewayAction} {reply : GatewayReply}
    {secret : String} (tracked : Tracked state.db key organizationId isRevoked)
    (hashed : key.keyHash = env.hmac env.apiKeyPepper secret)
    (unguessed : Unguessed env secret state action)
    (move : KeysMove env state.db action reply after) :
    Tracked after key organizationId (isRevoked || reply.revokes key.id) := by
  refine ⟨?_, fun other member same => ?_, ?_, ?_⟩
  · obtain ⟨row, member, same, isRevoked_iff⟩ := tracked.row
    obtain ⟨next, kept, sameNext, revokes⟩ := move.kept row member
    refine ⟨next, kept, sameNext.trans same, ?_⟩
    rw [revokes, isRevoked_iff, (APIKey.of_identity same).1]
  · rcases move.known other member with added | ⟨before, listed, sameBefore, -⟩
    · exact absurd (same.trans hashed) (added.unguessed unguessed)
    · obtain ⟨id, -, keyHash, -⟩ := APIKey.of_identity sameBefore
      rw [id]
      exact tracked.alone before listed (keyHash.symm.trans same)
  · obtain ⟨team, listed, rest⟩ := tracked.team
    exact ⟨team, move.teams listed, rest⟩
  · obtain ⟨organization, listed, rest⟩ := tracked.organization
    exact ⟨organization, move.organizations listed, rest⟩

/-- A run keeps the key in sight, and its replies tell whether it was revoked. -/
theorem Tracked.run {secret : String} {actions : List GatewayAction} {state : ApiState}
    (tracked : Tracked state.db key organizationId isRevoked)
    (hashed : key.keyHash = env.hmac env.apiKeyPepper secret)
    (along : Isolation.Along (gatewayStep env) (Unguessed env secret) state actions) :
    Tracked (Isolation.run (gatewayStep env) state actions).2.db key organizationId
      (isRevoked || (Isolation.run (gatewayStep env) state actions).1.any (·.revokes key.id)) := by
  induction actions generalizing state isRevoked with
  | nil => simpa [Isolation.run] using tracked
  | cons action rest ih =>
      obtain ⟨unguessed, later⟩ := along
      have next := tracked.moves hashed unguessed (gatewayStep_moves state action).keys
      simpa [Isolation.run, Bool.or_assoc] using ih next later

end Tracked

/-! ## Creation -/

section Created
variable {env : AdminEnv} {state : ApiState} {call : ApiCall} {context : RequestContext}

/-- The team and the organization of an authenticated caller are in the database. -/
theorem authenticated_places {db : Database} {credentials : Option String} {now : Datetime}
    (authenticated : getRequestContext env db credentials now = .ok context) :
    (∃ key ∈ db.apiKeys, key.teamId = context.teamId ∧ key.role = context.role ∧
      key.revokedAt = none) ∧
    (∃ team ∈ db.teams, team.id = context.teamId ∧
      team.organizationId = context.organizationId) ∧
    ∃ organization ∈ db.organizations, organization.id = context.organizationId := by
  cases credentials with
  | none => cases authenticated
  | some secret =>
      change authenticate env db secret now = _ at authenticated
      rw [authenticate_eq] at authenticated
      split_ifs at authenticated
      split at authenticated
      · cases authenticated
      · rename_i key listed
        have member := List.mem_of_mem_filter (listed ▸ List.mem_singleton_self key)
        unfold contextOf at authenticated
        split_ifs at authenticated with refused
        split at authenticated
        · cases authenticated
        · rename_i team foundTeam
          split at authenticated
          · cases authenticated
          · rename_i organization foundOrganization
            cases authenticated
            have named := List.find?_some foundTeam
            have ofOrganization := List.find?_some foundOrganization
            simp only [decide_eq_true_eq] at named ofOrganization
            refine ⟨⟨key, member, named.symm, rfl, ?_⟩, ⟨team, List.mem_of_find?_eq_some foundTeam,
              rfl, ofOrganization.symm⟩, organization, List.mem_of_find?_eq_some foundOrganization,
              rfl⟩
            have active : key.isActive now = true := by simp_all
            cases unrevoked : key.revokedAt with
            | none => rfl
            | some instant => simp [APIKey.isActive, unrevoked] at active
      · cases authenticated

theorem startsWith_generateApiKey (randomPart : String) :
    startsWith (generateApiKey randomPart) "cxg_" = true := by
  simp [startsWith, generateApiKey]

/-- A key that was just created is in sight, not revoked. -/
theorem tracked_of_created {created : APIKeyCreatedResponse}
    (made : (perform env state call).1 = .ok (.keyCreated created))
    (authenticated : getRequestContext env state.db call.credentials call.now = .ok context)
    (unused : ∀ key ∈ state.db.apiKeys,
      key.keyHash ≠ env.hmac env.apiKeyPepper created.key) :
    ∃ key : APIKey, key.id = created.id ∧ key.teamId = context.teamId ∧ key.role = created.role ∧
      key.expiresAt = created.expiresAt ∧
      key.keyHash = env.hmac env.apiKeyPepper created.key ∧
      startsWith created.key "cxg_" = true ∧
      Tracked (perform env state call).2.db key context.organizationId false := by
  have moves : Moves env state.db _ _ _ := perform_moves call
  generalize (perform env state call).2.db = after at moves
  rw [made] at moves
  generalize replied : GatewayReply.api (some (.ok (.keyCreated created))) = reply at moves
  cases moves with
  | same action reply unanswered => cases replied; cases unanswered
  | handled call caller success after authenticatedToo admin handled =>
      cases replied
      cases authenticated.symm.trans authenticatedToo
      generalize call.endpoint = endpoint at handled
      cases handled with
      | read endpoint success noChange => cases noChange
      | rowsWritten endpoint success teamId rows after noChange => cases noChange
      | keyInserted body newId randomPart after inserted =>
          obtain ⟨-, team, organization⟩ := authenticated_places authenticated
          refine ⟨newKeyOf env context call.now body newId randomPart, rfl, rfl, rfl, rfl, rfl,
            startsWith_generateApiKey randomPart, ?_⟩
          unfold Database.insertKey at inserted
          split_ifs at inserted
          cases inserted
          refine ⟨⟨_, List.mem_append_right _ (List.mem_singleton_self _), rfl, rfl⟩, ?_, team,
            organization⟩
          intro other member same
          rcases List.mem_append.mp member with before | last
          · exact absurd same (unused other before)
          · rw [List.mem_singleton.mp last]

/-- Whatever the API is asked after its creation, a key works until it expires or
a call revokes it, for the team and the organization of the admin who created it. -/
theorem created_key_lifecycle {created : APIKeyCreatedResponse}
    (made : (perform env state call).1 = .ok (.keyCreated created))
    (authenticated : getRequestContext env state.db call.credentials call.now = .ok context)
    (unused : ∀ key ∈ state.db.apiKeys,
      key.keyHash ≠ env.hmac env.apiKeyPepper created.key)
    (actions : List GatewayAction)
    (unguessed : Isolation.Along (gatewayStep env) (Unguessed env created.key)
      (perform env state call).2 actions) (now : Datetime) :
    let later := Isolation.run (gatewayStep env) (perform env state call).2 actions
    authenticate env later.2.db created.key now =
      if (∃ reply ∈ later.1, reply.revokes created.id = true) ∨
          ¬∀ expiresAt ∈ created.expiresAt, now < expiresAt then
        .error genericAuthError
      else .ok ⟨context.organizationId, context.teamId, created.id, created.role⟩ := by
  obtain ⟨key, id, teamId, role, expiresAt, hashed, cxg, tracked⟩ :=
    tracked_of_created made authenticated unused
  have final := (tracked.run hashed unguessed).authenticate cxg hashed now
  rw [id, teamId, role, expiresAt] at final
  simpa [List.any_eq_true] using final

end Created

/-- The admin of `acme` adds a key for its pipeline. -/
def acmeAddsKey : ApiCall :=
  ⟨some "cxg_acme", .createApiKey "team-acme" ⟨"pipeline", "member", none⟩ "key-ci" "ci", mayDay⟩

def acmeRevokesKey : GatewayAction :=
  .api (.call ⟨some "cxg_acme", .revokeApiKey "team-acme" "key-ci", mayDay⟩)

/-- It works at first, and no longer once it is revoked. -/
theorem pipeline_key_lifecycle :
    let added := (perform plainEnv ⟨twoTenants, []⟩ acmeAddsKey).2
    authenticate plainEnv (Isolation.run (gatewayStep plainEnv) added []).2.db "cxg_ci" mayDay =
        .ok ⟨"acme", "team-acme", "key-ci", "member"⟩ ∧
      authenticate plainEnv (Isolation.run (gatewayStep plainEnv) added [acmeRevokesKey]).2.db
        "cxg_ci" mayDay = .error genericAuthError := by
  have made : (perform plainEnv ⟨twoTenants, []⟩ acmeAddsKey).1 =
      .ok (.keyCreated ⟨"key-ci", "pipeline", "cxg_ci", "cxg_ci", "member", none, mayDay⟩) := by
    decide +kernel
  have admin : getRequestContext plainEnv twoTenants acmeAddsKey.credentials mayDay =
      .ok ⟨"acme", "team-acme", "key-acme", "admin"⟩ := by decide +kernel
  have unused : ∀ key ∈ twoTenants.apiKeys, key.keyHash ≠ "cxg_ci" := by decide
  constructor
  · refine (created_key_lifecycle made admin unused [] trivial mayDay).trans (if_neg ?_)
    decide +kernel
  · refine (created_key_lifecycle made admin unused [acmeRevokesKey] ⟨trivial, trivial⟩
      mayDay).trans (if_pos ?_)
    decide +kernel

/-! ## Where keys come from -/

/-- The key is one of the start, or its team had an admin key then that was not revoked. -/
def Descends (start : Database) (key : APIKey) : Prop :=
  (∃ own ∈ start.apiKeys, key.identity = own.identity ∧
    (own.revokedAt.isSome = true → key.revokedAt.isSome = true)) ∨
  ∃ founder ∈ start.apiKeys, founder.role = "admin" ∧ founder.teamId = key.teamId ∧
    founder.revokedAt = none

section Descent
variable {env : AdminEnv} {start : Database}

theorem Descends.team {key : APIKey} (descends : Descends start key) :
    ∃ founder ∈ start.apiKeys, founder.teamId = key.teamId := by
  rcases descends with ⟨own, member, same, -⟩ | ⟨founder, member, -, team, -⟩
  · exact ⟨own, member, (APIKey.of_identity same).2.1.symm⟩
  · exact ⟨founder, member, team⟩

/-- Admin rights come from an admin key of the team. -/
theorem Descends.admin {key : APIKey} (descends : Descends start key) (admin : key.role = "admin")
    (unrevoked : key.revokedAt = none) :
    ∃ founder ∈ start.apiKeys, founder.role = "admin" ∧ founder.teamId = key.teamId ∧
      founder.revokedAt = none := by
  rcases descends with ⟨own, member, same, revoked⟩ | founded
  · obtain ⟨-, teamId, -, role, -⟩ := APIKey.of_identity same
    refine ⟨own, member, role ▸ admin, teamId.symm, ?_⟩
    cases ownRevoked : own.revokedAt with
    | none => rfl
    | some instant => simp [ownRevoked, unrevoked] at revoked
  · exact founded

theorem descends_move {db after : Database} {action : GatewayAction} {reply : GatewayReply}
    (before : ∀ key ∈ db.apiKeys, Descends start key)
    (move : KeysMove env db action reply after) : ∀ key ∈ after.apiKeys, Descends start key := by
  intro key member
  rcases move.known key member with added | ⟨earlier, listed, same, stays⟩
  · cases added with
    | intro call context body newId randomPart authenticated admin made =>
        obtain ⟨⟨own, ownListed, team, role, unrevoked⟩, -, -⟩ := authenticated_places authenticated
        obtain ⟨founder, present, isAdmin, sameTeam, valid⟩ :=
          (before own ownListed).admin (role.trans admin) unrevoked
        exact .inr ⟨founder, present, isAdmin, sameTeam.trans team, valid⟩
  · rcases before earlier listed with ⟨own, present, sameOwn, revoked⟩ | founded
    · exact .inl ⟨own, present, same.trans sameOwn, stays ∘ revoked⟩
    · obtain ⟨-, teamId, -⟩ := APIKey.of_identity same
      exact .inr (teamId ▸ founded)

theorem descends_run (actions : List GatewayAction) (state : ApiState)
    (before : ∀ key ∈ state.db.apiKeys, Descends start key) :
    ∀ key ∈ (Isolation.run (gatewayStep env) state actions).2.db.apiKeys, Descends start key := by
  induction actions generalizing state with
  | nil => exact before
  | cons action rest ih =>
      exact ih _ (descends_move before (gatewayStep_moves state action : Moves env _ _ _ _).keys)

/-- No run of the API gives a team its first key, and none gives a team without
an unrevoked admin key another: whoever authenticates does so for a team that
had keys, and as an admin only for a team that had an admin. -/
theorem no_team_gains_first_key (env : AdminEnv) (start : ApiState)
    (actions : List GatewayAction) :
    let final := (Isolation.run (gatewayStep env) start actions).2.db
    (∀ key ∈ final.apiKeys, Descends start.db key) ∧
      ∀ secret now context, authenticate env final secret now = .ok context →
        (∃ founder ∈ start.db.apiKeys, founder.teamId = context.teamId) ∧
          (context.role = "admin" → ∃ founder ∈ start.db.apiKeys, founder.role = "admin" ∧
            founder.teamId = context.teamId ∧ founder.revokedAt = none) := by
  have descends : ∀ key ∈ (Isolation.run (gatewayStep env) start actions).2.db.apiKeys,
      Descends start.db key :=
    descends_run actions start fun key member => .inl ⟨key, member, rfl, id⟩
  refine ⟨descends, fun secret now context authenticated => ?_⟩
  have provided : getRequestContext env _ (some secret) now = .ok context := authenticated
  obtain ⟨⟨key, member, team, role, unrevoked⟩, -, -⟩ := authenticated_places provided
  refine ⟨team ▸ (descends key member).team, fun admin => ?_⟩
  exact team ▸ (descends key member).admin (role.trans admin) unrevoked

end Descent

end AdminApi
end CortexGateway
