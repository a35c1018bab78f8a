import CortexGateway.Api.Admin
import CortexGateway.Budget.Calls
import CortexGateway.Lib.Isolation

/-! # Tenant isolation of the admin API

A handler is confined to an organization when the rows of that organization
decide what it answers and what becomes of them, and the rows of every other
organization stay.  A call is confined to the organization whose key made it;
a run of such calls cannot tell two databases apart that agree on those rows. -/
set_option autoImplicit false
namespace CortexGateway.AdminApi
open Budgeting RateLimiting

/-! ## Budget calls on a fresh session -/

/-- The call reads the row of its team and writes that row alone; `result` is
the answer and the row it leaves. -/
structure OneRow {α : Type} (teamId : String) (program : BudgetM α)
    (result : Option Budget → Except Exc (α × Option Budget)) : Prop where
  fails : ∀ (table : BudgetTable) exc, result (table teamId) = .error exc →
    ∃ store, program.run ⟨table, .fresh⟩ = .error exc store
  returns : ∀ (table : BudgetTable) value row, result (table teamId) = .ok (value, row) →
    ∃ session, program.run ⟨table, .fresh⟩ = .ok value ⟨setRow table teamId row, session⟩

def createResult (teamId budgetId : String) (data : BudgetCreate) (now : Datetime) :
    Option Budget → Except Exc (Budget × Option Budget)
  | some _ => .error (.budgetConfigurationError ("A budget already exists for team '" ++ teamId ++
      "'. Use PATCH to update or DELETE to remove it first."))
  | none => .ok (created teamId budgetId data now, some (created teamId budgetId data now))

theorem oneRow_createBudget (teamId budgetId : String) (data : BudgetCreate) (now : Datetime) :
    OneRow teamId (Budgeting.createBudget teamId budgetId data now)
      (createResult teamId budgetId data now) := by
  constructor
  · intro table exc failed
    cases found : table teamId with
    | none => simp [createResult, found] at failed
    | some row =>
        simp only [createResult, found, Except.error.injEq] at failed
        rw [← failed]
        exact ⟨_, createBudget_present teamId budgetId data now ⟨table, .fresh⟩ row found rfl⟩
  · intro table value row returned
    cases found : table teamId with
    | none =>
        simp only [createResult, found, Except.ok.injEq, Prod.mk.injEq] at returned
        rw [← returned.1, ← returned.2]
        exact ⟨_, createBudget_absent teamId budgetId data now ⟨table, .fresh⟩ found⟩
    | some row => simp [createResult, found] at returned

def updateResult (teamId : String) (data : BudgetUpdate) (now : Datetime) :
    Option Budget → Except Exc (Budget × Option Budget)
  | none => .error (.budgetConfigurationError ("No budget found for team '" ++ teamId ++ "'."))
  | some row => .ok (updated row data now, some (updated row data now))

theorem oneRow_updateBudget (teamId : String) (data : BudgetUpdate) (now : Datetime) :
    OneRow teamId (Budgeting.updateBudget teamId data now) (updateResult teamId data now) := by
  constructor
  · intro table exc failed
    cases found : table teamId with
    | none =>
        simp only [updateResult, found, Except.error.injEq] at failed
        rw [← failed]
        exact ⟨_, updateBudget_absent teamId data now ⟨table, .fresh⟩ found⟩
    | some row => simp [updateResult, found] at failed
  · intro table value row returned
    cases found : table teamId with
    | none => simp [updateResult, found] at returned
    | some row =>
        simp only [updateResult, found, Except.ok.injEq, Prod.mk.injEq] at returned
        rw [← returned.1, ← returned.2]
        exact ⟨_, updateBudget_present teamId data now ⟨table, .fresh⟩ row found rfl⟩

def deleteResult (row : Option Budget) : Except Exc (Bool × Option Budget) :=
  .ok (row.isSome, none)

theorem oneRow_deleteBudget (teamId : String) :
    OneRow teamId (Budgeting.deleteBudget teamId) deleteResult := by
  constructor
  · intro table exc failed
    simp [deleteResult] at failed
  · intro table value row returned
    simp only [deleteResult, Except.ok.injEq, Prod.mk.injEq] at returned
    rw [← returned.1, ← returned.2]
    cases found : table teamId with
    | none =>
        have unchanged : setRow table teamId none = table := by
          rw [setRow, ← found, Function.update_eq_self]
        rw [unchanged]
        exact ⟨_, deleteBudget_absent teamId ⟨table, .fresh⟩ found⟩
    | some row => exact ⟨_, deleteBudget_present teamId ⟨table, .fresh⟩ row found rfl⟩

/-- What a budget call writes, in terms of the row it found. -/
theorem OneRow.runBudget {α : Type} {teamId : String} {program : BudgetM α}
    {result : Option Budget → Except Exc (α × Option Budget)} (oneRow : OneRow teamId program result)
    (db : Database) (now : Datetime) :
    runBudget db teamId now program = (do
      let (value, row) ← result ((db.teamRows teamId).budget.map Prod.fst)
      let after ← db.writeTeamRows teamId
        { db.teamRows teamId with budget := row.map fun budget => (budget, createdAtOf db teamId now) }
      return (value, after)) := by
  let table : BudgetTable := fun id => (db.teamRows id).budget.map Prod.fst
  cases found : result ((db.teamRows teamId).budget.map Prod.fst) with
  | error exc =>
      obtain ⟨store, ran⟩ := oneRow.fails table exc found
      simp only [AdminApi.runBudget, table, ran]
      rfl
  | ok returned =>
      obtain ⟨session, ran⟩ := oneRow.returns table returned.1 returned.2 found
      simp only [AdminApi.runBudget, table, ran, setRow_self]
      rfl

/-! ## Writes within an organization -/

def keyIdsOf (db : Database) (organizationId : String) : List String :=
  (db.rowsOf organizationId).apiKeys.map APIKey.id

/-- From one database to the next: the rows of the other organizations stay,
and so do the keys of this one. -/
structure Within (tenant : String) (db after : Database) : Prop where
  others : ∀ other, other ≠ tenant → after.rowsOf other = db.rowsOf other
  keys : keyIdsOf db tenant ⊆ keyIdsOf after tenant

theorem Within.refl (tenant : String) (db : Database) : Within tenant db db :=
  ⟨fun _ _ => rfl, List.Subset.refl _⟩

/-- The rows of the organization decide whether the write succeeds and what it leaves of them. -/
structure Writes (tenant : String) (db : Database) (write : Database → Except Exc Database) :
    Prop where
  view : (write db).map (Database.rowsOf · tenant) = write (db.rowsOf tenant)
  within : ∀ after, write db = .ok after → Within tenant db after

theorem Writes.rowsOf {tenant : String} {db after : Database}
    {write : Database → Except Exc Database} (writes : Writes tenant db write)
    (written : write db = .ok after) : write (db.rowsOf tenant) = .ok (after.rowsOf tenant) := by
  rw [← writes.view, written]
  rfl

section Writes
variable {tenant : String} {db : Database}

theorem keyIdsOf_subset (write : Database → Except Exc Database) {after : Database}
    (view : (write db).map (Database.rowsOf · tenant) = write (db.rowsOf tenant))
    (keeps : ∀ before next, write before = .ok next →
      before.apiKeys.map APIKey.id ⊆ next.apiKeys.map APIKey.id)
    (written : write db = .ok after) : keyIdsOf db tenant ⊆ keyIdsOf after tenant := by
  apply keeps (db.rowsOf tenant) (after.rowsOf tenant)
  rw [← view, written]
  rfl

theorem writes_insertTeam (team : Team) (own : team.organizationId = tenant)
    (fresh : ∀ other ∈ db.teams, team.id ≠ other.id) :
    Writes tenant db (·.insertTeam team) := by
  have view := db.rowsOf_insertTeam tenant team own fresh
  refine ⟨view, fun after inserted => ⟨?_, keyIdsOf_subset (·.insertTeam team) view ?_ inserted⟩⟩
  · intro other different
    exact Database.rowsOf_insertTeam_other team (own ▸ different.symm) inserted
  · intro before next inserted
    unfold Database.insertTeam at inserted
    split_ifs at inserted
    cases inserted
    exact List.Subset.refl _

theorem foreign_of_owns {teamId other : String} (owned : db.owns tenant teamId = true)
    (different : other ≠ tenant) : db.owns other teamId = false := by
  by_contra both
  exact different (Database.owns_unique (by simpa using both) owned)

theorem writes_insertKey (key : APIKey) (owned : db.owns tenant key.teamId = true)
    (fresh : ∀ other ∈ db.apiKeys, key.id ≠ other.id) :
    Writes tenant db (·.insertKey key) := by
  have view := db.rowsOf_insertKey tenant key owned fresh
  refine ⟨view, fun after inserted => ⟨?_, keyIdsOf_subset (·.insertKey key) view ?_ inserted⟩⟩
  · intro other different
    exact Database.rowsOf_insertKey_other key (foreign_of_owns owned different) inserted
  · intro before next inserted
    unfold Database.insertKey at inserted
    split_ifs at inserted
    cases inserted
    rw [List.map_append]
    exact List.subset_append_left _ _

theorem writes_teamRows (teamId : String) (rows : TeamRows → TeamRows)
    (owned : db.owns tenant teamId = true) :
    Writes tenant db fun db => db.writeTeamRows teamId (rows (db.teamRows teamId)) := by
  have view : (db.writeTeamRows teamId (rows (db.teamRows teamId))).map (·.rowsOf tenant) =
      (db.rowsOf tenant).writeTeamRows teamId (rows ((db.rowsOf tenant).teamRows teamId)) := by
    rw [Database.teamRows_rowsOf owned]
    exact db.rowsOf_writeTeamRows tenant teamId _ owned
  refine ⟨view, fun after written => ⟨?_, ?_⟩⟩
  · intro other different
    exact Database.rowsOf_writeTeamRows_other _ (foreign_of_owns owned different) written
  · refine keyIdsOf_subset (fun db => db.writeTeamRows teamId (rows (db.teamRows teamId))) view ?_
      written
    intro before next written
    unfold Database.writeTeamRows at written
    split_ifs at written
    cases written
    exact List.Subset.refl _

theorem id_ne_of_foreign {key other : APIKey} (listed : key ∈ db.apiKeys)
    (owned : db.owns tenant key.teamId = true) (member : other ∈ db.apiKeys)
    (foreign : db.owns tenant other.teamId = false) : other.id ≠ key.id := by
  intro sameId
  rw [db.key_unique member listed sameId, owned] at foreign
  cases foreign

/-- An update of the keys that passes over the keys of the others. -/
theorem writes_updateKeys (update : APIKey → APIKey) (ids : ∀ key, (update key).id = key.id)
    (teamIds : ∀ key, (update key).teamId = key.teamId)
    (passes : ∀ key ∈ db.apiKeys, db.owns tenant key.teamId = false → update key = key) :
    Writes tenant db fun db => .ok (db.updateKeys update ids teamIds) := by
  have view := db.rowsOf_updateKeys tenant update ids teamIds
  refine ⟨congrArg Except.ok view, fun after updated => ⟨?_, ?_⟩⟩
  · intro other different
    cases updated
    rw [Database.rowsOf_updateKeys]
    apply Database.updateKeys_id
    intro key member
    obtain ⟨listed, owned⟩ := List.mem_filter.mp member
    exact passes key listed (foreign_of_owns owned different.symm)
  · cases updated
    have same : APIKey.id ∘ update = APIKey.id := funext ids
    rw [keyIdsOf, keyIdsOf, view]
    simp [Database.updateKeys, same]

end Writes

/-! ## Handlers within an organization -/

def viewOf (tenant : String) (returned : Success × Database) : Success × Database :=
  (returned.1, returned.2.rowsOf tenant)

/-- The rows of the organization decide what the handler answers and leaves of them. -/
structure Confined (tenant : String) (db : Database)
    (handler : Database → Except ApiError (Success × Database)) : Prop where
  view : (handler db).map (viewOf tenant) = handler (db.rowsOf tenant)
  within : ∀ success after, handler db = .ok (success, after) → Within tenant db after

section Confined
variable {tenant : String} {db : Database}

theorem Confined.error (error : ApiError) : Confined tenant db fun _ => .error error :=
  ⟨rfl, fun _ _ returned => nomatch returned⟩

theorem Confined.read (answer : Database → Success)
    (same : answer (db.rowsOf tenant) = answer db) :
    Confined tenant db fun db => .ok (answer db, db) := by
  refine ⟨by simp [Except.map, viewOf, same], fun success after returned => ?_⟩
  cases returned
  exact Within.refl tenant db

/-- A check of the caller alone, before the rest of the handler. -/
theorem Confined.unless {denied : Prop} [Decidable denied] (error : ApiError)
    {handler : Database → Except ApiError (Success × Database)}
    (confined : ¬ denied → Confined tenant db handler) :
    Confined tenant db fun db => if denied then .error error else handler db := by
  by_cases refused : denied
  · simp only [if_pos refused]
    exact Confined.error error
  · simp only [if_neg refused]
    exact confined refused

/-- A check that reads rows of the organization, before the rest of the handler. -/
theorem Confined.check (check : Database → Except ApiError Unit)
    {handler : Database → Except ApiError (Success × Database)}
    (same : check (db.rowsOf tenant) = check db)
    (confined : check db = .ok () → Confined tenant db handler) :
    Confined tenant db fun db => (do
      check db
      handler db) := by
  cases checked : check db with
  | error error =>
      rw [checked] at same
      exact ⟨by simp [checked, same, Except.map, bind, Except.bind],
        fun success after returned => by simp [checked, bind, Except.bind] at returned⟩
  | ok passed =>
      rw [checked] at same
      obtain ⟨view, within⟩ := confined checked
      refine ⟨?_, fun success after returned => within success after ?_⟩
      · simpa [checked, same, bind, Except.bind] using view
      · simpa [checked, bind, Except.bind] using returned

theorem Confined.congr {handler other : Database → Except ApiError (Success × Database)}
    (confined : Confined tenant db other) (here : handler db = other db)
    (there : handler (db.rowsOf tenant) = other (db.rowsOf tenant)) :
    Confined tenant db handler := by
  refine ⟨?_, fun success after returned => confined.within success after ?_⟩
  · rw [here, there]
    exact confined.view
  · rw [← here]
    exact returned

/-- A write, and an answer that reads what it left. -/
theorem Confined.write {write : Database → Except Exc Database}
    (finish : Database → Except ApiError Success) (raise : Exc → ApiError)
    (writes : Writes tenant db write)
    (same : ∀ after, write db = .ok after → finish (after.rowsOf tenant) = finish after) :
    Confined tenant db fun db => (do
      let after ← (write db).mapError raise
      let success ← finish after
      return (success, after)) := by
  cases written : write db with
  | error exc =>
      have failed : write (db.rowsOf tenant) = .error exc := by
        rw [← writes.view, written]
        rfl
      apply (Confined.error (raise exc)).congr
      · rw [written]
        rfl
      · rw [failed]
        rfl
  | ok after =>
      have unchanged := same after written
      cases finished : finish after with
      | error error =>
          apply (Confined.error error).congr
          · simp only [written, Except.mapError, bind, Except.bind, finished]
          · simp only [writes.rowsOf written, Except.mapError, bind, Except.bind, unchanged,
              finished]
      | ok success =>
          refine ⟨?_, fun _ left returned => ?_⟩
          · simp only [written, writes.rowsOf written, Except.mapError, bind, Except.bind,
              unchanged, finished]
            rfl
          · simp only [written, Except.mapError, bind, Except.bind, finished, pure, Except.pure,
              Except.ok.injEq, Prod.mk.injEq] at returned
            rw [← returned.2]
            exact writes.within after written

theorem owns_writeTeamRows {after : Database} {teamId : String} {rows : TeamRows}
    (written : db.writeTeamRows teamId rows = .ok after) (other : String) :
    after.owns tenant other = db.owns tenant other := by
  unfold Database.writeTeamRows at written
  split_ifs at written
  cases written
  rfl

/-- A write to the rows of a team of the organization. -/
theorem Confined.writeRows {teamId : String} (owned : db.owns tenant teamId = true)
    (rows : TeamRows → TeamRows) (finish : Database → Except ApiError Success)
    (raise : Exc → ApiError)
    (same : ∀ after, after.owns tenant teamId = true →
      finish (after.rowsOf tenant) = finish after) :
    Confined tenant db fun db => (do
      let after ← (db.writeTeamRows teamId (rows (db.teamRows teamId))).mapError raise
      let success ← finish after
      return (success, after)) :=
  Confined.write finish raise (writes_teamRows teamId rows owned) fun after written =>
    same after ((owns_writeTeamRows written teamId).trans owned)

end Confined

/-- The context of a key of the organization. -/
structure OfTenant (tenant : String) (db : Database) (context : RequestContext) : Prop where
  organization : context.organizationId = tenant
  team : db.owns tenant context.teamId = true
  key : context.apiKeyId ∈ keyIdsOf db tenant

section Handlers
variable {tenant : String} {db : Database} {context : RequestContext} (env : AdminEnv)

theorem resolveTeam_rowsOf (own : context.organizationId = tenant) (teamId : String) :
    resolveTeam (db.rowsOf tenant) teamId context = resolveTeam db teamId context := by
  have same : (db.rowsOf tenant).teams.find? (fun team =>
      team.id = teamId && team.organizationId = context.organizationId) =
        db.teams.find? fun team =>
          team.id = teamId && team.organizationId = context.organizationId := by
    change (db.teams.filter (Database.ownTeam tenant)).find? _ = _
    rw [List.find?_filter]
    apply List.find?_congr
    intro team member
    simp only [Database.ownTeam, own]
    cases decide (team.organizationId = tenant) <;> simp
  simp only [resolveTeam]
  rw [same]

theorem owns_of_resolveTeam (own : context.organizationId = tenant) {teamId : String}
    (resolved : resolveTeam db teamId context = .ok ()) : db.owns tenant teamId = true := by
  unfold resolveTeam at resolved
  split at resolved
  · cases resolved
  · rename_i team found
    have matched := List.find?_some found
    simp only [Bool.and_eq_true, decide_eq_true_eq] at matched
    exact Database.owns_iff.mpr
      ⟨team, List.mem_of_find?_eq_some found, matched.2.trans own, matched.1⟩

/-- A handler that starts with `_resolve_team` goes on for a team of the organization. -/
theorem Confined.resolved (own : context.organizationId = tenant) (teamId : String)
    {handler : Database → Except ApiError (Success × Database)}
    (confined : db.owns tenant teamId = true → Confined tenant db handler) :
    Confined tenant db fun db => (do
      resolveTeam db teamId context
      handler db) :=
  Confined.check (resolveTeam · teamId context) (resolveTeam_rowsOf own teamId) fun resolved =>
    confined (owns_of_resolveTeam own resolved)

/-! ### Teams and keys -/

theorem createTeam_confined (own : context.organizationId = tenant) (orgId : String)
    (body : TeamCreate) (newId : String) (now : Datetime)
    (fresh : ∀ team ∈ db.teams, newId ≠ team.id) :
    Confined tenant db fun db => createTeam db orgId body newId context now := by
  refine Confined.unless (.authorizationError "Access denied.") fun allowed => ?_
  have same : orgId = tenant := (not_not.mp allowed).symm.trans own
  exact Confined.write (fun _ => .ok _) .unhandled
    (writes_insertTeam (AuthService.newTeam newId orgId body.name body.slug now) same fresh)
    fun _ _ => rfl

theorem listTeams_confined (own : context.organizationId = tenant) (orgId : String) :
    Confined tenant db fun db => listTeams db orgId context := by
  refine Confined.unless (.authorizationError "Access denied.") fun allowed => ?_
  have same : orgId = tenant := (not_not.mp allowed).symm.trans own
  apply Confined.read
  simp [Database.rowsOf, Database.ownTeam, same]

theorem createApiKey_confined (own : OfTenant tenant db context) (teamId : String)
    (body : APIKeyCreate) (newId randomPart : String) (now : Datetime)
    (fresh : ∀ key ∈ db.apiKeys, newId ≠ key.id) :
    Confined tenant db fun db => createApiKey env db teamId body newId randomPart context now := by
  refine Confined.unless (.authorizationError "Access denied.") fun allowed => ?_
  have owned : db.owns tenant teamId = true := not_not.mp allowed ▸ own.team
  exact Confined.write (fun _ => .ok _) .unhandled
    (writes_insertKey (AuthService.newApiKey env.hmac env.apiKeyPepper newId teamId body.name
      body.role (generateApiKey randomPart) body.expiresAt now) owned fresh) fun _ _ => rfl

/-- A query for keys of a team of the organization. -/
theorem owns_and_wanted {teamId : String} (owned : db.owns tenant teamId = true)
    (wanted : APIKey → Bool) (ofTeam : ∀ key, wanted key = true → key.teamId = teamId)
    (key : APIKey) : (db.owns tenant key.teamId && wanted key) = wanted key := by
  cases matched : wanted key with
  | false => simp
  | true => simp [ofTeam key matched, owned]

theorem listApiKeys_confined (own : OfTenant tenant db context) (teamId : String) :
    Confined tenant db fun db => listApiKeys db teamId context := by
  refine Confined.unless (.authorizationError "Access denied.") fun allowed => ?_
  have owned : db.owns tenant teamId = true := not_not.mp allowed ▸ own.team
  have same : (db.rowsOf tenant).apiKeys.filter (fun key => key.teamId = teamId) =
      db.apiKeys.filter fun key => key.teamId = teamId := by
    change (db.apiKeys.filter _).filter _ = _
    rw [List.filter_filter]
    refine List.filter_congr fun key _ => ?_
    rw [Bool.and_comm]
    exact owns_and_wanted owned (fun key => key.teamId = teamId) (by simp) key
  apply Confined.read
  rw [same]

theorem revokeApiKey_confined (own : OfTenant tenant db context) (teamId keyId : String)
    (now : Datetime) : Confined tenant db fun db => revokeApiKey db teamId keyId context now := by
  refine Confined.unless (.authorizationError "Access denied.") fun allowed => ?_
  have owned : db.owns tenant teamId = true := not_not.mp allowed ▸ own.team
  have same : (db.rowsOf tenant).apiKeys.find? (fun key => key.id = keyId && key.teamId = teamId) =
      db.apiKeys.find? fun key => key.id = keyId && key.teamId = teamId := by
    change (db.apiKeys.filter _).find? _ = _
    rw [List.find?_filter]
    refine List.find?_congr fun key _ => ?_
    rw [Bool.decide_and, Bool.decide_eq_true, Bool.decide_eq_true]
    exact owns_and_wanted owned (fun key => key.id = keyId && key.teamId = teamId) (by simp) key
  cases found : db.apiKeys.find? fun key => key.id = keyId && key.teamId = teamId with
  | none =>
      rw [found] at same
      apply (Confined.read (fun _ => .keyNotFound) rfl).congr
      · simp only [found]
        rfl
      · simp only [same]
        rfl
  | some key =>
      rw [found] at same
      have matched := List.find?_some found
      simp only [Bool.and_eq_true, decide_eq_true_eq] at matched
      have passes : ∀ other ∈ db.apiKeys, db.owns tenant other.teamId = false →
          revoked key.id now other = other := fun other member foreign =>
        if_neg (id_ne_of_foreign (List.mem_of_find?_eq_some found) (by rw [matched.2, owned])
          member foreign)
      apply (Confined.write (fun _ => .ok (.keyRevoked (.ofRow (revoked key.id now key))))
        .unhandled (writes_updateKeys (revoked key.id now) (revoked_id key.id now)
          (revoked_teamId key.id now) passes) fun _ _ => rfl).congr
      · simp only [found]
        rfl
      · simp only [same]
        rfl

/-! ### Budgets -/

theorem confined_runBudget {α : Type} {teamId : String} {program : BudgetM α}
    {result : Option Budget → Except Exc (α × Option Budget)} (oneRow : OneRow teamId program result)
    (owned : db.owns tenant teamId = true) (now : Datetime)
    (finish : α → Database → Except ApiError Success) (raise : Exc → ApiError)
    (same : ∀ value after, after.owns tenant teamId = true →
      finish value (after.rowsOf tenant) = finish value after) :
    Confined tenant db fun db => (do
      let (value, after) ← (runBudget db teamId now program).mapError raise
      let success ← finish value after
      return (success, after)) := by
  cases found : result ((db.teamRows teamId).budget.map Prod.fst) with
  | error exc =>
      apply (Confined.error (raise exc)).congr
      · simp only [oneRow.runBudget, found]
        rfl
      · simp only [oneRow.runBudget, Database.teamRows_rowsOf owned, found]
        rfl
  | ok returned =>
      let rows (rows : TeamRows) : TeamRows :=
        { rows with budget := returned.2.map fun budget =>
            (budget, (rows.budget.map Prod.snd).getD now) }
      apply (Confined.writeRows owned rows (finish returned.1) raise (same returned.1)).congr
      · simp only [oneRow.runBudget, found, createdAtOf, rows, bind, Except.bind]
        cases db.writeTeamRows teamId _ <;> rfl
      · simp only [oneRow.runBudget, Database.teamRows_rowsOf owned, found, createdAtOf, rows, bind,
          Except.bind]
        cases (db.rowsOf tenant).writeTeamRows teamId _ <;> rfl

theorem createdAtOf_rowsOf {teamId : String} (owned : db.owns tenant teamId = true)
    (now : Datetime) : createdAtOf (db.rowsOf tenant) teamId now = createdAtOf db teamId now := by
  rw [createdAtOf, createdAtOf, Database.teamRows_rowsOf owned]

theorem createBudget_confined (own : context.organizationId = tenant) (teamId : String)
    (body : BudgetCreate) (newId : String) (now : Datetime) :
    Confined tenant db fun db => createBudget db teamId body newId context now := by
  refine Confined.resolved own teamId fun owned => ?_
  exact confined_runBudget (oneRow_createBudget teamId newId body now) owned now
    (fun budget after => .ok (.budgetCreated
      (.fromOrmWithDerived budget (createdAtOf after teamId now)))) (budgetError 409)
    fun budget after ownedAfter => by rw [createdAtOf_rowsOf ownedAfter]

theorem updateBudget_confined (own : context.organizationId = tenant) (teamId : String)
    (body : BudgetUpdate) (now : Datetime) :
    Confined tenant db fun db => updateBudget db teamId body context now := by
  refine Confined.resolved own teamId fun owned => ?_
  exact confined_runBudget (oneRow_updateBudget teamId body now) owned now
    (fun budget after => .ok (.budget
      (.fromOrmWithDerived budget (createdAtOf after teamId now)))) (budgetError 404)
    fun budget after ownedAfter => by rw [createdAtOf_rowsOf ownedAfter]

theorem deleteBudget_confined (own : context.organizationId = tenant) (teamId : String)
    (now : Datetime) : Confined tenant db fun db => deleteBudget db teamId context now := by
  refine Confined.resolved own teamId fun owned => ?_
  let answer (deleted : Bool) : Except ApiError Success :=
    if deleted then .ok .noContent else .error (noBudget teamId)
  have same : ∀ before : Database, (do
      let ran ← unhandled (runBudget before teamId now (Budgeting.deleteBudget teamId))
      if ran.1 then return (Success.noContent, ran.2) else throw (noBudget teamId)) = (do
      let ran ← unhandled (runBudget before teamId now (Budgeting.deleteBudget teamId))
      let success ← answer ran.1
      return (success, ran.2)) := by
    intro before
    rcases runBudget before teamId now (Budgeting.deleteBudget teamId) with exc | ⟨deleted, after⟩
    · rfl
    · cases deleted <;> rfl
  exact (confined_runBudget (oneRow_deleteBudget teamId) owned now (fun deleted _ => answer deleted)
    .unhandled fun _ _ _ => rfl).congr (same db) (same (db.rowsOf tenant))

theorem getBudget_confined (own : context.organizationId = tenant) (teamId : String) :
    Confined tenant db fun db => getBudget db teamId context := by
  refine Confined.resolved own teamId fun owned => ?_
  cases found : (db.teamRows teamId).budget with
  | none =>
      apply (Confined.error (noBudget teamId)).congr
      · simp only [found]
        rfl
      · simp only [Database.teamRows_rowsOf owned, found]
        rfl
  | some row =>
      apply (Confined.read (fun _ => .budget (.fromOrmWithDerived row.1 row.2)) rfl).congr
      · simp only [found]
        rfl
      · simp only [Database.teamRows_rowsOf owned, found]
        rfl

/-! ### Rate limits -/

theorem getTeamRateLimits_confined (own : context.organizationId = tenant) (teamId : String) :
    Confined tenant db fun db => getTeamRateLimits env db teamId context := by
  refine Confined.resolved own teamId fun owned => ?_
  apply Confined.read
  simp only [TeamRateLimitService.get, Database.teamRows_rowsOf owned]

theorem setTeamRateLimits_confined (own : context.organizationId = tenant) (teamId : String)
    (body : TeamRateLimitSet) (newId : String) (now : Datetime) :
    Confined tenant db fun db => setTeamRateLimits env db teamId body newId context now := by
  refine Confined.resolved own teamId fun owned => ?_
  let overridden (existing : Option TeamRateLimit) : TeamRateLimit :=
    TeamRateLimitService.overrideRow existing teamId newId body.requestsPerMinute
      body.requestsPerHour now
  let answer := buildResponse teamId (some (overridden (db.teamRows teamId).rateLimit)) env.settings
  apply (Confined.writeRows owned
    (fun rows => { rows with rateLimit := some (overridden rows.rateLimit) })
    (fun _ => .ok (.rateLimits answer)) .unhandled fun _ _ => rfl).congr
  · simp only [TeamRateLimitService.set, TeamRateLimitService.get, Function.update_self]
    rfl
  · simp only [TeamRateLimitService.set, TeamRateLimitService.get, Function.update_self,
      Database.teamRows_rowsOf owned]
    rfl

theorem deleteTeamRateLimits_confined (own : context.organizationId = tenant) (teamId : String) :
    Confined tenant db fun db => deleteTeamRateLimits db teamId context := by
  refine Confined.resolved own teamId fun owned => ?_
  cases found : (db.teamRows teamId).rateLimit with
  | none =>
      apply (Confined.error (.httpException 404
        ("No rate limit overrides configured for team '" ++ teamId ++ "'."))).congr
      · simp only [TeamRateLimitService.delete, TeamRateLimitService.get, found]
        rfl
      · simp only [TeamRateLimitService.delete, TeamRateLimitService.get,
          Database.teamRows_rowsOf owned, found]
        rfl
  | some row =>
      apply (Confined.writeRows owned (fun rows => { rows with rateLimit := none })
        (fun _ => .ok .noContent) .unhandled fun _ _ => rfl).congr
      · simp only [TeamRateLimitService.delete, TeamRateLimitService.get, found,
          Function.update_self]
        rfl
      · simp only [TeamRateLimitService.delete, TeamRateLimitService.get,
          Database.teamRows_rowsOf owned, found, Function.update_self]
        rfl

/-! ### Policies -/

theorem getPolicyModel_rowsOf {teamId : String} (owned : db.owns tenant teamId = true) :
    getPolicyModel (db.rowsOf tenant) teamId = getPolicyModel db teamId := by
  rw [getPolicyModel, getPolicyModel, Database.teamRows_rowsOf owned]

theorem resolvePolicy_rowsOf {teamId : String} (owned : db.owns tenant teamId = true) :
    resolvePolicy (db.rowsOf tenant) teamId = resolvePolicy db teamId := by
  unfold resolvePolicy
  rw [getPolicyModel_rowsOf owned]

theorem getPolicy_confined (own : context.organizationId = tenant) (teamId : String) :
    Confined tenant db fun db => getPolicy db teamId context := by
  refine Confined.resolved own teamId fun owned => ?_
  apply Confined.read
  rw [resolvePolicy_rowsOf owned, getPolicyModel_rowsOf owned]

/-- The upsert, and the effective policy that is answered with. -/
def savePolicy (teamId : String) (input : TeamPolicyInput) (newId : String) (now : Datetime)
    (db : Database) : Except ApiError (Success × Database) := do
  let rows := db.teamRows teamId
  let row := upsertPolicy rows.policy teamId newId input now
  let after ← unhandled (db.writeTeamRows teamId { rows with policy := some row })
  return (.policy (toPolicyResponse teamId (resolvePolicy after teamId) (some row.updatedAt)), after)

theorem savePolicy_confined {teamId : String} (owned : db.owns tenant teamId = true)
    (input : TeamPolicyInput) (newId : String) (now : Datetime) :
    Confined tenant db (savePolicy teamId input newId now) := by
  let row (existing : Option TeamPolicyModel) := upsertPolicy existing teamId newId input now
  let updatedAt := (row (db.teamRows teamId).policy).updatedAt
  apply (Confined.writeRows owned (fun rows => { rows with policy := row rows.policy })
    (fun after => .ok (.policy (toPolicyResponse teamId (resolvePolicy after teamId)
      (some updatedAt)))) .unhandled fun after ownedAfter => by
        rw [resolvePolicy_rowsOf ownedAfter]).congr
  · rfl
  · simp only [savePolicy, Database.teamRows_rowsOf owned]
    rfl

/-- The check of a policy that turns an experiment on. -/
def validatePolicy (input : TeamPolicyInput) : Except ApiError Unit :=
  match input.experiment with
  | some experiment =>
      if experiment.enabled then validateExperimentArms env experiment else .ok ()
  | none => .ok ()

theorem putPolicy_eq (db : Database) (teamId : String) (input : TeamPolicyInput) (newId : String)
    (context : RequestContext) (now : Datetime) :
    putPolicy env db teamId (.ok input) newId context now = (do
      resolveTeam db teamId context
      validatePolicy env input
      savePolicy teamId input newId now db) := by
  simp only [putPolicy, validatePolicy, Except.mapError, bind, Except.bind]
  cases input.experiment with
  | none => rfl
  | some experiment => cases enabled : experiment.enabled <;> simp only [enabled] <;> rfl

theorem putPolicy_confined (own : context.organizationId = tenant) (teamId : String)
    (body : Except String TeamPolicyInput) (newId : String) (now : Datetime) :
    Confined tenant db fun db => putPolicy env db teamId body newId context now := by
  cases body with
  | error detail =>
      exact Confined.resolved own teamId fun _ => Confined.error (.httpException 422 detail)
  | ok input =>
      simp only [putPolicy_eq]
      refine Confined.resolved own teamId fun owned => ?_
      exact Confined.check (fun _ => validatePolicy env input) rfl fun _ =>
        savePolicy_confined owned input newId now

theorem deletePolicy_confined (own : context.organizationId = tenant) (teamId : String) :
    Confined tenant db fun db => deletePolicy db teamId context := by
  refine Confined.resolved own teamId fun owned => ?_
  cases found : getPolicyModel db teamId with
  | none =>
      apply (Confined.error (.httpException 404
        ("No policy configured for team '" ++ teamId ++ "'."))).congr
      · simp only [found]
        rfl
      · simp only [getPolicyModel_rowsOf owned, found]
        rfl
  | some row =>
      apply (Confined.writeRows owned (fun rows => { rows with policy := none })
        (fun _ => .ok .noContent) .unhandled fun _ _ => rfl).congr
      · simp only [found]
        rfl
      · simp only [getPolicyModel_rowsOf owned, found]
        rfl

/-! ### Analytics -/

theorem analytics_rowsOf (own : context.organizationId = tenant) (endpoint : Endpoint) :
    analytics (db.rowsOf tenant) context endpoint = analytics db context endpoint := by
  cases endpoint <;>
    simp only [analytics, AnalyticsService.listRequests, AnalyticsService.aggregateCosts,
      AnalyticsService.aggregateLatency, AnalyticsService.aggregateErrors,
      AnalyticsService.aggregateFallbacks, AnalyticsService.aggregateBudgetEvents,
      AnalyticsService.timeseries, own, applyCommonFilters_rowsOf]

theorem analytics_confined (own : context.organizationId = tenant) (endpoint : Endpoint) :
    Confined tenant db fun db =>
      match analytics db context endpoint with
      | some success => return (success, db)
      | none => throw (.httpException 404 "Not Found") := by
  cases answered : analytics db context endpoint with
  | none =>
      apply (Confined.error (.httpException 404 "Not Found")).congr
      · simp only [answered]
        rfl
      · simp only [analytics_rowsOf own, answered]
        rfl
  | some success =>
      apply (Confined.read (fun _ => success) rfl).congr
      · simp only [answered]
        rfl
      · simp only [analytics_rowsOf own, answered]
        rfl

/-- The id drawn for an inserted team or key is the id of no row. -/
def Endpoint.Fresh (db : Database) : Endpoint → Prop
  | .createTeam _ _ newId => ∀ team ∈ db.teams, newId ≠ team.id
  | .createApiKey _ _ newId _ => ∀ key ∈ db.apiKeys, newId ≠ key.id
  | _ => True

instance (db : Database) : DecidablePred (Endpoint.Fresh db) := fun endpoint =>
  match endpoint with
  | .createTeam _ _ newId => inferInstanceAs (Decidable (∀ team ∈ db.teams, newId ≠ team.id))
  | .createApiKey _ _ newId _ => inferInstanceAs (Decidable (∀ key ∈ db.apiKeys, newId ≠ key.id))
  | .listTeams _ | .listApiKeys _ | .revokeApiKey .. | .createBudget .. | .getBudget _
  | .updateBudget .. | .deleteBudget _ | .getTeamRateLimits _ | .setTeamRateLimits ..
  | .deleteTeamRateLimits _ | .getPolicy _ | .putPolicy .. | .deletePolicy _ | .getRequests ..
  | .getCosts .. | .getLatency .. | .getErrors .. | .getFallbacks .. | .getBudgetEvents ..
  | .getTimeseries .. => isTrue trivial

/-- Every handler keeps to the organization of its caller. -/
theorem handle_confined (own : OfTenant tenant db context) (now : Datetime) (endpoint : Endpoint)
    (fresh : endpoint.Fresh db) :
    Confined tenant db fun db => handle env db context now endpoint := by
  have analysed : Confined tenant db _ := analytics_confined own.organization endpoint
  cases endpoint with
  | createTeam orgId body newId =>
      exact createTeam_confined own.organization orgId body newId now fresh
  | listTeams orgId => exact listTeams_confined own.organization orgId
  | createApiKey teamId body newId randomPart =>
      exact createApiKey_confined env own teamId body newId randomPart now fresh
  | listApiKeys teamId => exact listApiKeys_confined own teamId
  | revokeApiKey teamId keyId => exact revokeApiKey_confined own teamId keyId now
  | createBudget teamId body newId =>
      exact createBudget_confined own.organization teamId body newId now
  | getBudget teamId => exact getBudget_confined own.organization teamId
  | updateBudget teamId body => exact updateBudget_confined own.organization teamId body now
  | deleteBudget teamId => exact deleteBudget_confined own.organization teamId now
  | getTeamRateLimits teamId => exact getTeamRateLimits_confined env own.organization teamId
  | setTeamRateLimits teamId body newId =>
      exact setTeamRateLimits_confined env own.organization teamId body newId now
  | deleteTeamRateLimits teamId => exact deleteTeamRateLimits_confined own.organization teamId
  | getPolicy teamId => exact getPolicy_confined own.organization teamId
  | putPolicy teamId body newId =>
      exact putPolicy_confined env own.organization teamId body newId now
  | deletePolicy teamId => exact deletePolicy_confined own.organization teamId
  | getRequests => exact analysed
  | getCosts => exact analysed
  | getLatency => exact analysed
  | getErrors => exact analysed
  | getFallbacks => exact analysed
  | getBudgetEvents => exact analysed
  | getTimeseries => exact analysed

end Handlers

/-! ## Authentication with a key of the organization -/

/-- No key of another organization has the secret. -/
def SecretOf (env : AdminEnv) (tenant : String) (db : Database) (plaintext : String) : Prop :=
  ∀ key ∈ db.apiKeys, key.keyHash = env.hmac env.apiKeyPepper plaintext →
    db.owns tenant key.teamId = true

instance (env : AdminEnv) (tenant : String) (db : Database) (plaintext : String) :
    Decidable (SecretOf env tenant db plaintext) :=
  inferInstanceAs (Decidable (∀ key ∈ db.apiKeys, _ → _))

theorem secretOf_rowsOf (env : AdminEnv) (tenant : String) (db : Database) (plaintext : String) :
    SecretOf env tenant (db.rowsOf tenant) plaintext := by
  intro key member _
  rw [Database.owns_rowsOf]
  exact (List.mem_filter.mp member).2

section Authentication
variable {tenant : String} {db : Database} (env : AdminEnv)

theorem findTeam_rowsOf {teamId : String} (owned : db.owns tenant teamId = true) :
    (db.rowsOf tenant).teams.find? (fun team => team.id = teamId) =
      db.teams.find? fun team => team.id = teamId := by
  obtain ⟨own, listed, ofTenant, same⟩ := Database.owns_iff.mp owned
  change (db.teams.filter (Database.ownTeam tenant)).find? _ = _
  rw [List.find?_filter]
  refine List.find?_congr fun team member => ?_
  by_cases matched : team.id = teamId
  · have sameTeam := db.team_unique member listed (matched.trans same.symm)
    simp [Database.ownTeam, sameTeam, ofTenant]
  · simp [matched]

theorem findOrganization_rowsOf (tenant : String) (db : Database) :
    (db.rowsOf tenant).organizations.find? (fun row => row.id = tenant) =
      db.organizations.find? fun row => row.id = tenant := by
  change (db.organizations.filter _).find? _ = _
  rw [List.find?_filter]
  exact List.find?_congr fun row _ => by simp

theorem joined_rowsOf {key : APIKey} (owned : db.owns tenant key.teamId = true) :
    joined (db.rowsOf tenant) key = joined db key := by
  obtain ⟨own, listed, ofTenant, same⟩ := Database.owns_iff.mp owned
  rw [Bool.eq_iff_iff]
  simp only [joined, List.any_eq_true, Bool.and_eq_true, decide_eq_true_eq]
  constructor
  · rintro ⟨team, member, matched, row, present, sameOrganization⟩
    exact ⟨team, List.mem_of_mem_filter member, matched, row, List.mem_of_mem_filter present,
      sameOrganization⟩
  · rintro ⟨team, member, matched, row, present, sameOrganization⟩
    have sameTeam := db.team_unique member listed (matched.trans same.symm)
    have teamOf : team.organizationId = tenant := sameTeam ▸ ofTenant
    exact ⟨team, List.mem_filter.mpr ⟨member, by simpa [Database.ownTeam] using teamOf⟩, matched,
      row, List.mem_filter.mpr ⟨present, by simp [sameOrganization, teamOf]⟩, sameOrganization⟩

theorem authenticated_rowsOf {plaintext : String} (secret : SecretOf env tenant db plaintext) :
    ((db.rowsOf tenant).apiKeys.filter fun key =>
      key.keyHash = env.hmac env.apiKeyPepper plaintext && joined (db.rowsOf tenant) key) =
        db.apiKeys.filter fun key =>
          key.keyHash = env.hmac env.apiKeyPepper plaintext && joined db key := by
  change (db.apiKeys.filter _).filter _ = _
  rw [List.filter_filter]
  refine List.filter_congr fun key member => ?_
  by_cases hashed : key.keyHash = env.hmac env.apiKeyPepper plaintext
  · have owned := secret key member hashed
    simp [hashed, owned, joined_rowsOf owned]
  · simp [hashed]

/-- The context of the key that was found, if it is active. -/
def contextOf (db : Database) (plaintext : String) (now : Datetime) (apiKey : APIKey) :
    Except ApiError RequestContext :=
  if !verifyApiKey env plaintext apiKey.keyHash || !apiKey.isActive now then .error genericAuthError
  else
    match db.teams.find? fun team => team.id = apiKey.teamId with
    | none => .error genericAuthError
    | some team =>
        match db.organizations.find? fun row => row.id = team.organizationId with
        | none => .error genericAuthError
        | some organization => .ok ⟨organization.id, team.id, apiKey.id, apiKey.role⟩

theorem authenticate_eq (db : Database) (plaintext : String) (now : Datetime) :
    authenticate env db plaintext now =
      if plaintext = "" || !startsWith plaintext "cxg_" then .error genericAuthError
      else
        match db.apiKeys.filter fun key =>
          key.keyHash = env.hmac env.apiKeyPepper plaintext && joined db key with
        | [] => .error genericAuthError
        | [apiKey] => contextOf env db plaintext now apiKey
        | _ => .error (.unhandled (.otherException "MultipleResultsFound")) := by
  simp only [authenticate]
  split_ifs with malformed
  · rfl
  · generalize (db.apiKeys.filter fun key =>
      key.keyHash = env.hmac env.apiKeyPepper plaintext && joined db key) = found
    rcases found with _ | ⟨apiKey, _ | ⟨_, _⟩⟩
    · rfl
    · simp only [contextOf]
      cases verifyApiKey env plaintext apiKey.keyHash with
      | false => rfl
      | true =>
          cases apiKey.isActive now with
          | false => rfl
          | true =>
              cases db.teams.find? fun team => team.id = apiKey.teamId with
              | none => rfl
              | some team =>
                  simp only [Bool.not_true, Bool.or_self, Bool.false_eq_true, if_false]
                  cases db.organizations.find? fun row => row.id = team.organizationId <;> rfl
    · rfl

theorem contextOf_rowsOf {apiKey : APIKey} (owned : db.owns tenant apiKey.teamId = true)
    (plaintext : String) (now : Datetime) :
    contextOf env (db.rowsOf tenant) plaintext now apiKey =
      contextOf env db plaintext now apiKey := by
  obtain ⟨own, listed, ofTenant, same⟩ := Database.owns_iff.mp owned
  simp only [contextOf, findTeam_rowsOf owned]
  cases found : db.teams.find? fun team => team.id = apiKey.teamId with
  | none => rfl
  | some team =>
      have sameId := List.find?_some found
      simp only [decide_eq_true_eq] at sameId
      have sameTeam := db.team_unique (List.mem_of_find?_eq_some found) listed
        (sameId.trans same.symm)
      simp only [sameTeam, ofTenant, findOrganization_rowsOf]

/-- The key of the secret is looked up among the rows of the organization. -/
theorem authenticate_rowsOf {plaintext : String} (secret : SecretOf env tenant db plaintext)
    (now : Datetime) :
    authenticate env (db.rowsOf tenant) plaintext now = authenticate env db plaintext now := by
  rw [authenticate_eq, authenticate_eq, authenticated_rowsOf env secret]
  generalize listed : (db.apiKeys.filter fun key =>
    key.keyHash = env.hmac env.apiKeyPepper plaintext && joined db key) = found
  rcases found with _ | ⟨apiKey, _ | ⟨_, _⟩⟩
  · rfl
  · have matched := List.mem_filter.mp (listed ▸ List.mem_singleton_self apiKey)
    simp only [Bool.and_eq_true, decide_eq_true_eq] at matched
    simp only [contextOf_rowsOf env (secret apiKey matched.1 matched.2.1)]
  · rfl

theorem contextOf_own {apiKey : APIKey} (member : apiKey ∈ db.apiKeys)
    (owned : db.owns tenant apiKey.teamId = true) {plaintext : String} {now : Datetime}
    {context : RequestContext} (found : contextOf env db plaintext now apiKey = .ok context) :
    OfTenant tenant db context := by
  unfold contextOf at found
  split_ifs at found
  split at found
  · cases found
  · rename_i team foundTeam
    split at found
    · cases found
    · rename_i organization foundOrganization
      cases found
      have sameId := List.find?_some foundTeam
      have sameOrganization := List.find?_some foundOrganization
      simp only [decide_eq_true_eq] at sameId sameOrganization
      obtain ⟨own, listed, ofTenant, same⟩ := Database.owns_iff.mp owned
      have sameTeam := db.team_unique (List.mem_of_find?_eq_some foundTeam) listed
        (sameId.trans same.symm)
      refine ⟨?_, ?_, ?_⟩
      · rw [sameOrganization, sameTeam, ofTenant]
      · rw [sameId]
        exact owned
      · exact List.mem_map_of_mem (List.mem_filter.mpr ⟨member, owned⟩)

theorem authenticate_own {plaintext : String} (secret : SecretOf env tenant db plaintext)
    {now : Datetime} {context : RequestContext}
    (authenticated : authenticate env db plaintext now = .ok context) :
    OfTenant tenant db context := by
  rw [authenticate_eq] at authenticated
  split_ifs at authenticated
  split at authenticated
  · cases authenticated
  · rename_i apiKey listed
    have matched := List.mem_filter.mp (listed ▸ List.mem_singleton_self apiKey)
    simp only [Bool.and_eq_true, decide_eq_true_eq] at matched
    exact contextOf_own env matched.1 (secret apiKey matched.1 matched.2.1) authenticated
  · cases authenticated

end Authentication

/-! ## Runs -/

def ApiState.rowsOf (tenant : String) (state : ApiState) : ApiState :=
  ⟨state.db.rowsOf tenant, state.tasks⟩

/-- A call made with a secret of the organization, whatever its path and query;
what it inserts has a fresh id. -/
def TenantCall (env : AdminEnv) (tenant : String) (start : Database) (state : ApiState) :
    ApiAction → Prop
  | .call call =>
      (∀ plaintext ∈ call.credentials, SecretOf env tenant start plaintext) ∧
        call.endpoint.Fresh state.db
  | .lastUsed _ _ => True

/-- What holds along a run of such calls: the tasks update keys of the
organization, and the rows of the others are as they were. -/
structure TenantRun (tenant : String) (start : Database) (state : ApiState) : Prop where
  tasks : ∀ keyId ∈ state.tasks, keyId ∈ keyIdsOf state.db tenant
  others : ∀ other, other ≠ tenant → state.db.rowsOf other = start.rowsOf other

section Runs
variable {env : AdminEnv} {tenant : String} {start : Database} {state : ApiState}

theorem TenantRun.within {after : Database} (invariant : TenantRun tenant start state)
    (within : Within tenant state.db after) : TenantRun tenant start { state with db := after } :=
  ⟨fun keyId scheduled => within.keys (invariant.tasks keyId scheduled),
    fun other different => (within.others other different).trans (invariant.others other different)⟩

/-- The keys of the others are those of the start. -/
theorem TenantRun.secret (invariant : TenantRun tenant start state) {plaintext : String}
    (secret : SecretOf env tenant start plaintext) : SecretOf env tenant state.db plaintext := by
  intro key member hashed
  obtain ⟨team, listed, same⟩ := state.db.keyTeams key member
  by_cases mine : team.organizationId = tenant
  · exact Database.owns_iff.mpr ⟨team, listed, mine, same⟩
  · have owned : state.db.owns team.organizationId key.teamId = true :=
      Database.owns_iff.mpr ⟨team, listed, rfl, same⟩
    have kept : key ∈ (start.rowsOf team.organizationId).apiKeys := by
      rw [← invariant.others team.organizationId mine]
      exact List.mem_filter.mpr ⟨member, owned⟩
    obtain ⟨started, ownedThen⟩ := List.mem_filter.mp kept
    exact absurd (Database.owns_unique ownedThen (secret key started hashed)) mine

theorem getRequestContext_rowsOf {db : Database} {credentials : Option String}
    (secret : ∀ plaintext ∈ credentials, SecretOf env tenant db plaintext) (now : Datetime) :
    getRequestContext env (db.rowsOf tenant) credentials now =
      getRequestContext env db credentials now := by
  cases credentials with
  | none => rfl
  | some plaintext => exact authenticate_rowsOf env (secret plaintext rfl) now

theorem getRequestContext_own {db : Database} {credentials : Option String}
    (secret : ∀ plaintext ∈ credentials, SecretOf env tenant db plaintext) {now : Datetime}
    {context : RequestContext} (found : getRequestContext env db credentials now = .ok context) :
    OfTenant tenant db context := by
  cases credentials with
  | none => cases found
  | some plaintext => exact authenticate_own env (secret plaintext rfl) found

theorem perform_tenant (invariant : TenantRun tenant start state) (call : ApiCall)
    (made : TenantCall env tenant start state (.call call)) :
    (perform env (state.rowsOf tenant) call =
      ((perform env state call).1, (perform env state call).2.rowsOf tenant)) ∧
      TenantRun tenant start (perform env state call).2 := by
  obtain ⟨secrets, fresh⟩ := made
  have secret := fun plaintext given => invariant.secret (secrets plaintext given)
  have view := getRequestContext_rowsOf secret call.now
  unfold perform
  simp only [ApiState.rowsOf, view]
  cases found : getRequestContext env state.db call.credentials call.now with
  | error error => exact ⟨rfl, invariant⟩
  | ok context =>
      have own := getRequestContext_own secret found
      have scheduled : TenantRun tenant start
          { state with tasks := state.tasks ++ [context.apiKeyId] } := by
        refine ⟨fun keyId member => ?_, invariant.others⟩
        rcases List.mem_append.mp member with before | last
        · exact invariant.tasks keyId before
        · rw [List.mem_singleton.mp last]
          exact own.key
      simp only
      cases requireAdmin context with
      | error error => exact ⟨rfl, scheduled⟩
      | ok allowed =>
          have confined := handle_confined env own call.now call.endpoint fresh
          simp only [← confined.view]
          cases handled : handle env state.db context call.now call.endpoint with
          | error error => exact ⟨rfl, scheduled⟩
          | ok returned =>
              exact ⟨rfl, scheduled.within (confined.within returned.1 returned.2 handled)⟩

theorem runTask_tenant (invariant : TenantRun tenant start state) (task : ℕ)
    (now : Option Datetime) :
    runTask (state.rowsOf tenant) task now = (runTask state task now).rowsOf tenant ∧
      TenantRun tenant start (runTask state task now) := by
  unfold runTask
  simp only [ApiState.rowsOf]
  cases scheduled : state.tasks[task]? with
  | none => exact ⟨rfl, invariant⟩
  | some keyId =>
      have remaining : ∀ other ∈ state.tasks.eraseIdx task, other ∈ keyIdsOf state.db tenant :=
        fun other member => invariant.tasks other (List.mem_of_mem_eraseIdx member)
      cases now with
      | none => exact ⟨rfl, remaining, invariant.others⟩
      | some now =>
          obtain ⟨key, listed, sameId⟩ :=
            List.mem_map.mp (invariant.tasks keyId (List.mem_of_getElem? scheduled))
          obtain ⟨member, owned⟩ := List.mem_filter.mp listed
          have writes : Writes tenant state.db fun db => .ok (db.updateKeys (touched keyId now)
              (touched_id keyId now) (touched_teamId keyId now)) := by
            apply writes_updateKeys
            intro other otherListed foreign
            exact if_neg (sameId ▸ id_ne_of_foreign member owned otherListed foreign)
          have kept : TenantRun tenant start { state with tasks := state.tasks.eraseIdx task } :=
            ⟨remaining, invariant.others⟩
          have view := Except.ok.inj writes.view
          refine ⟨?_, kept.within (writes.within _ rfl)⟩
          simp only
          rw [← view]

/-- The rows of the organization decide what the calls made with its keys do. -/
theorem tenant_projects (env : AdminEnv) (tenant : String) (start : Database) :
    Isolation.Projects (apiStep env) (TenantRun tenant start) (TenantCall env tenant start)
      (ApiState.rowsOf tenant) := by
  constructor
  · intro state action invariant made
    cases action with
    | call call => exact (perform_tenant invariant call made).2
    | lastUsed task now => exact (runTask_tenant invariant task now).2
  · intro state action invariant made
    cases action with
    | call call =>
        simp only [apiStep]
        rw [(perform_tenant invariant call made).1]
    | lastUsed task now => rfl
  · intro state action invariant made
    cases action with
    | call call =>
        simp only [apiStep]
        rw [(perform_tenant invariant call made).1]
    | lastUsed task now => exact (runTask_tenant invariant task now).1.symm

theorem tenantRun_start (tenant : String) (db : Database) : TenantRun tenant db ⟨db, []⟩ :=
  ⟨fun _ member => (List.not_mem_nil member).elim, fun _ _ => rfl⟩

end Runs

/-- Calls made with the keys of one organization are answered alike from two
databases that agree on its rows, and leave the rows of every other alone. -/
theorem tenant_isolation (env : AdminEnv) (tenant : String) (first second : Database)
    (agree : first.rowsOf tenant = second.rowsOf tenant) (actions : List ApiAction)
    (fromFirst : Isolation.Along (apiStep env) (TenantCall env tenant first) ⟨first, []⟩ actions)
    (fromSecond : Isolation.Along (apiStep env) (TenantCall env tenant second) ⟨second, []⟩
      actions) :
    (Isolation.run (apiStep env) ⟨first, []⟩ actions).1 =
        (Isolation.run (apiStep env) ⟨second, []⟩ actions).1 ∧
      (∀ other, other ≠ tenant →
        (Isolation.run (apiStep env) ⟨first, []⟩ actions).2.db.rowsOf other =
          first.rowsOf other) ∧
      ∀ other, other ≠ tenant →
        (Isolation.run (apiStep env) ⟨second, []⟩ actions).2.db.rowsOf other =
          second.rowsOf other := by
  have projects := tenant_projects env tenant first
  have projects' := tenant_projects env tenant second
  have starts := tenantRun_start tenant first
  have starts' := tenantRun_start tenant second
  refine ⟨?_, ?_, ?_⟩
  · exact projects.noninterference projects' actions ⟨first, []⟩ ⟨second, []⟩ starts starts'
      (by simp [ApiState.rowsOf, agree]) fromFirst fromSecond
  · exact (projects.invariant actions ⟨first, []⟩ starts fromFirst).others
  · exact (projects'.invariant actions ⟨second, []⟩ starts' fromSecond).others

/-! ## Two organizations -/

def mayDay : Datetime := .ofDate ⟨2026, 5, 1, by decide, by decide⟩

/-- A hash that is the secret itself, and one provider. -/
def plainEnv : AdminEnv := ⟨fun _ secret => secret, "", defaultSettings, ⟨["groq"]⟩⟩

def teamOf (slug : String) : Team := ⟨"team-" ++ slug, slug, "Platform", "platform", mayDay, mayDay⟩

def adminKeyOf (slug : String) : APIKey :=
  AuthService.newApiKey plainEnv.hmac plainEnv.apiKeyPepper ("key-" ++ slug) ("team-" ++ slug)
    "admin" "admin" (generateApiKey slug) none mayDay

/-- Each organization has a team and an admin key. -/
def twoTenants : Database :=
  { organizations := ["acme", "globex"].map fun slug =>
      AuthService.newOrganization slug slug slug mayDay
    teams := ["acme", "globex"].map teamOf
    apiKeys := ["acme", "globex"].map adminKeyOf
    teamRows := fun _ => .empty
    requestLogs := []
    organizationIds := by decide
    teamIds := by decide
    keyIds := by decide
    keyTeams := by decide
    rowTeams := fun _ present => absurd rfl present }

def statusOf : Except ApiError Success → ℕ
  | .ok success => success.statusCode
  | .error error => error.statusCode

/-- The admin of `acme` adds a team and asks for the budget of a team of `globex`. -/
def acmeCalls : List ApiAction :=
  [.call ⟨some "cxg_acme", .createTeam "acme" ⟨"Search", "search"⟩ "team-search", mayDay⟩,
    .lastUsed 0 (some mayDay), .call ⟨some "cxg_acme", .getBudget "team-globex", mayDay⟩]

/-- With `globex` in the database and without it, the answers are 201 and 403. -/
theorem globex_not_seen :
    ((Isolation.run (apiStep plainEnv) ⟨twoTenants, []⟩ acmeCalls).1.map (·.map statusOf) =
        [some 201, none, some 403]) ∧
      (Isolation.run (apiStep plainEnv) ⟨twoTenants, []⟩ acmeCalls).1 =
        (Isolation.run (apiStep plainEnv) ⟨twoTenants.rowsOf "acme", []⟩ acmeCalls).1 := by
  have secret : SecretOf plainEnv "acme" twoTenants "cxg_acme" := by decide
  have secretAlone := secretOf_rowsOf plainEnv "acme" twoTenants "cxg_acme"
  refine ⟨by decide +kernel, ?_⟩
  refine (tenant_isolation plainEnv "acme" twoTenants (twoTenants.rowsOf "acme")
    (twoTenants.rowsOf_rowsOf "acme").symm acmeCalls ?_ ?_).1
  · exact ⟨⟨fun _ given => Option.mem_some.mp given ▸ secret, by decide⟩, trivial,
      ⟨fun _ given => Option.mem_some.mp given ▸ secret, trivial⟩, trivial⟩
  · exact ⟨⟨fun _ given => Option.mem_some.mp given ▸ secretAlone, by decide⟩, trivial,
      ⟨fun _ given => Option.mem_some.mp given ▸ secretAlone, trivial⟩, trivial⟩

end CortexGateway.AdminApi
