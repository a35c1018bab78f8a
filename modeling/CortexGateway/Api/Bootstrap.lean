import CortexGateway.Auth.Service
import CortexGateway.Lib.Run

/-! # Concurrent bootstrap calls

`app/api/v1/endpoints/bootstrap.py` over sessions of their own.  A call counts
the committed organizations, flushes an organization, a team and a key, and
commits when the handler has returned.  A flush waits while another call holds
an uncommitted row with the same unique columns.  The count is all that keeps a
second bootstrap out: it does as long as the calls that have counted name one
organization slug. -/
set_option autoImplicit false
namespace CortexGateway.Bootstrapping
open Transition

structure BootstrapSettings where
  cortexBootstrapEnabled : Bool
  cortexBootstrapToken : String
  apiKeyPepper : String

structure BootstrapRequest where
  organizationName : String
  organizationSlug : String
  teamName : String
  teamSlug : String
  adminKeyName : String

/-- A call with the ids and the random part it will draw. -/
structure Call where
  credentials : Option String
  body : BootstrapRequest
  organizationId : String
  teamId : String
  keyId : String
  randomPart : String

/-- The admin key is shown with its plaintext. -/
structure BootstrapResponse where
  organization : Organization
  team : Team
  adminKey : APIKey
  key : String

inductive Reply
  | created (response : BootstrapResponse)
  | disabled
  | alreadyCompleted
  | raised (error : ApiError)
  | cancelled

def Reply.statusCode : Reply → Option ℕ
  | .created _ => some 201
  | .disabled => some 503
  | .alreadyCompleted => some 409
  | .raised error => some error.statusCode
  | .cancelled => none

/-- How far a call is, with the rows it has flushed. -/
inductive Progress
  | waiting
  | counted
  | organizationFlushed (organization : Organization)
  | teamFlushed (organization : Organization) (team : Team)
  | keyFlushed (organization : Organization) (team : Team) (key : APIKey)
  | answered (reply : Reply)

namespace Progress

def organization : Progress → Option Organization
  | .organizationFlushed organization => some organization
  | .teamFlushed organization _ => some organization
  | .keyFlushed organization _ _ => some organization
  | _ => none

def team : Progress → Option Team
  | .teamFlushed _ team => some team
  | .keyFlushed _ team _ => some team
  | _ => none

def key : Progress → Option APIKey
  | .keyFlushed _ _ key => some key
  | _ => none

/-- The call has counted no organization and has not answered. -/
def inside : Progress → Bool
  | .waiting => false
  | .answered _ => false
  | _ => true

def succeeded : Progress → Bool
  | .answered (.created _) => true
  | _ => false

theorem inside_of_organization {progress : Progress} {row : Organization}
    (holds : progress.organization = some row) : progress.inside = true := by
  cases progress <;> simp_all [organization, inside]

theorem not_inside_of_succeeded {progress : Progress} (done : progress.succeeded = true) :
    progress.inside = false := by
  cases progress <;> simp_all [succeeded, inside]

end Progress

/-- The committed rows, and the calls. -/
structure State (n : ℕ) where
  organizations : List Organization
  teams : List Team
  apiKeys : List APIKey
  progress : Fin n → Progress

namespace State
variable {n : ℕ}

def put (state : State n) (i : Fin n) (progress : Progress) : State n :=
  { state with progress := Function.update state.progress i progress }

/-- INSERT of one row: it waits for an uncommitted row that clashes with it, and
a committed one refuses it. -/
def flush {Row : Type} (state : State n) (i : Fin n) (clash : Row → Row → Bool)
    (committed : List Row) (pending : Progress → Option Row) (row : Row) (flushed : Progress) :
    Option (State n) :=
  if ∃ j, j ≠ i ∧ (pending (state.progress j)).any (clash row) = true then none
  else some <| state.put i <|
    match insertRow clash committed row with
    | .ok _ => flushed
    | .error exc => .answered (.raised (.unhandled exc))

/-- COMMIT after the handler has returned. -/
def commit (state : State n) (i : Fin n) (response : BootstrapResponse) : State n :=
  { organizations := state.organizations ++ [response.organization]
    teams := state.teams ++ [response.team]
    apiKeys := state.apiKeys ++ [response.adminKey]
    progress := Function.update state.progress i (.answered (.created response)) }

end State

inductive Action (n : ℕ)
  | statement (i : Fin n) (now : Datetime)
  | abandon (i : Fin n)

/-- The guards of the handler, up to the count. -/
def guards (settings : BootstrapSettings) (call : Call) (organizations : List Organization) :
    Progress :=
  if settings.cortexBootstrapEnabled = false then .answered .disabled
  else
    match call.credentials with
    | none => .answered (.raised (.authenticationError "Invalid bootstrap token."))
    | some token =>
        if token = "" ∨ settings.cortexBootstrapToken = "" ∨
            token ≠ settings.cortexBootstrapToken then
          .answered (.raised (.authenticationError "Invalid bootstrap token."))
        else if AuthService.organizationsExist organizations then .answered .alreadyCompleted
        else .counted

section Interleaving
variable {n : ℕ} (hmac : String → String → String) (settings : BootstrapSettings)
  (calls : Fin n → Call)

/-- The next statement of a call; an abandoned one is rolled back. -/
def step (state : State n) : Action n → Option (State n)
  | .statement i now =>
      match state.progress i with
      | .waiting => some (state.put i (guards settings (calls i) state.organizations))
      | .counted =>
          let row := AuthService.newOrganization (calls i).organizationId
            (calls i).body.organizationName (calls i).body.organizationSlug now
          state.flush i Organization.clash state.organizations Progress.organization row
            (.organizationFlushed row)
      | .organizationFlushed organization =>
          let row := AuthService.newTeam (calls i).teamId organization.id
            (calls i).body.teamName (calls i).body.teamSlug now
          state.flush i Team.clash state.teams Progress.team row (.teamFlushed organization row)
      | .teamFlushed organization team =>
          let row := AuthService.newApiKey hmac settings.apiKeyPepper (calls i).keyId team.id
            (calls i).body.adminKeyName "admin" (generateApiKey (calls i).randomPart) none now
          state.flush i APIKey.clash state.apiKeys Progress.key row
            (.keyFlushed organization team row)
      | .keyFlushed organization team key =>
          some (state.commit i ⟨organization, team, key, generateApiKey (calls i).randomPart⟩)
      | .answered _ => none
  | .abandon i =>
      match state.progress i with
      | .answered _ => none
      | _ => some (state.put i (.answered .cancelled))

def start (organizations : List Organization) (teams : List Team) (apiKeys : List APIKey) :
    State n :=
  ⟨organizations, teams, apiKeys, fun _ => .waiting⟩

/-- The calls that were answered with an organization and its admin key. -/
def State.succeeded (state : State n) : Finset (Fin n) :=
  Finset.univ.filter fun i => (state.progress i).succeeded

/-- At most one call succeeds, and the rows are those of the start and its own. -/
structure Once (before state : State n) : Prop where
  calls : state.succeeded.card ≤ 1
  organizations : state.organizations.length ≤ before.organizations.length + 1
  apiKeys : state.apiKeys.length ≤ before.apiKeys.length + 1

/-- A count that finds no organization is taken while every call that has
counted names the same slug. -/
def OneSlug (state : State n) : Action n → Prop
  | .statement i _ =>
      (state.progress i matches .waiting) →
        guards settings (calls i) state.organizations matches .counted →
        ∀ j, (state.progress j).inside = true →
          (calls j).body.organizationSlug = (calls i).body.organizationSlug
  | .abandon _ => True

/-! ## What a step does -/

/-- The five things that can happen to the call that moves. -/
inductive Effect (state : State n) : Action n → State n → Prop
  | leaves (a : Action n) (i : Fin n) (reply : Reply)
      (unanswered : (state.progress i).succeeded = false)
      (failed : (Progress.answered reply).succeeded = false) :
      Effect state a (state.put i (.answered reply))
  | counts (i : Fin n) (now : Datetime) (waiting : state.progress i = .waiting)
      (admitted : guards settings (calls i) state.organizations = .counted) :
      Effect state (.statement i now) (state.put i .counted)
  | holds (a : Action n) (i : Fin n) (row : Organization) (counted : state.progress i = .counted)
      (slug : row.slug = (calls i).body.organizationSlug)
      (uncommitted : ∀ other ∈ state.organizations, row.clash other = false)
      (alone : ∀ j, j ≠ i → ∀ other ∈ (state.progress j).organization, row.clash other = false) :
      Effect state a (state.put i (.organizationFlushed row))
  | continues (a : Action n) (i : Fin n) (row : Organization) (further : Progress)
      (before : (state.progress i).organization = some row)
      (after : further.organization = some row) : Effect state a (state.put i further)
  | commits (a : Action n) (i : Fin n) (response : BootstrapResponse)
      (before : (state.progress i).organization = some response.organization) :
      Effect state a (state.commit i response)

omit hmac settings calls in
theorem flush_cases {Row : Type} (state next : State n) (i : Fin n) (clash : Row → Row → Bool)
    (committed : List Row) (pending : Progress → Option Row) (row : Row) (flushed : Progress)
    (stepped : state.flush i clash committed pending row flushed = some next) :
    (∃ exc, next = state.put i (.answered (.raised (.unhandled exc)))) ∨
      (next = state.put i flushed ∧ (∀ other ∈ committed, clash row other = false) ∧
        ∀ j, j ≠ i → ∀ other ∈ pending (state.progress j), clash row other = false) := by
  unfold State.flush at stepped
  split_ifs at stepped with blocked
  cases inserted : insertRow clash committed row with
  | error exc =>
      rw [inserted] at stepped
      exact .inl ⟨exc, (Option.some.inj stepped).symm⟩
  | ok after =>
      rw [inserted] at stepped
      refine .inr ⟨(Option.some.inj stepped).symm, (insertRow_eq_ok.mp inserted).1, ?_⟩
      intro j other row' held
      by_contra clashes
      apply blocked
      refine ⟨j, other, ?_⟩
      rw [Option.mem_def.mp held]
      simpa using clashes

omit hmac in
/-- The guards admit a call or answer it without a row. -/
theorem guards_cases (i : Fin n) (organizations : List Organization) :
    guards settings (calls i) organizations = .counted ∨
      ∃ reply, guards settings (calls i) organizations = .answered reply ∧
        (Progress.answered reply).succeeded = false := by
  unfold guards
  split
  · exact .inr ⟨_, rfl, rfl⟩
  · split
    · exact .inr ⟨_, rfl, rfl⟩
    · split_ifs
      · exact .inr ⟨_, rfl, rfl⟩
      · exact .inr ⟨_, rfl, rfl⟩
      · exact .inl rfl

theorem step_effect (state next : State n) (a : Action n)
    (stepped : step hmac settings calls state a = some next) :
    Effect settings calls state a next := by
  cases a with
  | statement i now =>
      simp only [step] at stepped
      split at stepped
      next waiting =>
        cases stepped
        rcases guards_cases settings calls i state.organizations with admitted | ⟨reply, refused, failed⟩
        · rw [admitted]
          exact .counts i now waiting admitted
        · rw [refused]
          exact .leaves _ i reply (by rw [waiting]; rfl) failed
      next counted =>
        rcases flush_cases _ _ _ _ _ _ _ _ stepped with ⟨exc, rfl⟩ | ⟨rfl, uncommitted, alone⟩
        · exact .leaves _ i _ (by rw [counted]; rfl) rfl
        · exact .holds _ i _ counted rfl uncommitted alone
      next organization flushed =>
        rcases flush_cases _ _ _ _ _ _ _ _ stepped with ⟨exc, rfl⟩ | ⟨rfl, -, -⟩
        · exact .leaves _ i _ (by rw [flushed]; rfl) rfl
        · exact .continues _ i organization _ (by rw [flushed]; rfl) rfl
      next organization team flushed =>
        rcases flush_cases _ _ _ _ _ _ _ _ stepped with ⟨exc, rfl⟩ | ⟨rfl, -, -⟩
        · exact .leaves _ i _ (by rw [flushed]; rfl) rfl
        · exact .continues _ i organization _ (by rw [flushed]; rfl) rfl
      next organization team key flushed =>
        cases stepped
        exact .commits _ i _ (by rw [flushed]; rfl)
      next => cases stepped
  | abandon i =>
      simp only [step] at stepped
      split at stepped
      · cases stepped
      next unanswered =>
        cases stepped
        refine .leaves _ i .cancelled ?_ rfl
        cases reached : state.progress i with
        | answered reply => exact absurd reached (unanswered reply)
        | _ => rfl

/-! ## Rows and answers -/

omit hmac settings calls in
@[simp] theorem put_self (state : State n) (i : Fin n) (progress : Progress) :
    (state.put i progress).progress i = progress := Function.update_self ..

omit hmac settings calls in
theorem put_other (state : State n) {i j : Fin n} (progress : Progress) (other : j ≠ i) :
    (state.put i progress).progress j = state.progress j := Function.update_of_ne other ..

omit hmac settings calls in
/-- What was so of every call before, if the call that moved is no exception. -/
theorem of_put (state : State n) (i : Fin n) (further : Progress) (p : Progress → Prop)
    (own : p further → p (state.progress i)) (j : Fin n)
    (after : p ((state.put i further).progress j)) : p (state.progress j) := by
  by_cases self : j = i
  · rw [self, put_self] at after
    rw [self]
    exact own after
  · rwa [put_other state _ self] at after

omit hmac settings calls in
@[simp] theorem commit_self (state : State n) (i : Fin n) (response : BootstrapResponse) :
    (state.commit i response).progress i = .answered (.created response) :=
  Function.update_self ..

omit hmac settings calls in
theorem commit_other (state : State n) {i j : Fin n} (response : BootstrapResponse)
    (other : j ≠ i) : (state.commit i response).progress j = state.progress j :=
  Function.update_of_ne other ..

omit hmac settings calls in
@[simp] theorem mem_succeeded (state : State n) (i : Fin n) :
    i ∈ state.succeeded ↔ (state.progress i).succeeded = true := by
  simp [State.succeeded]

omit hmac settings calls in
theorem succeeded_put (state : State n) (i : Fin n) (progress : Progress)
    (unanswered : (state.progress i).succeeded = false) (failed : progress.succeeded = false) :
    (state.put i progress).succeeded = state.succeeded := by
  ext j
  rw [mem_succeeded, mem_succeeded]
  by_cases same : j = i
  · rw [same, put_self, failed, unanswered]
  · rw [put_other state progress same]

omit hmac settings calls in
theorem succeeded_commit (state : State n) (i : Fin n) (response : BootstrapResponse) :
    (state.commit i response).succeeded = insert i state.succeeded := by
  ext j
  rw [mem_succeeded, Finset.mem_insert, mem_succeeded]
  by_cases same : j = i
  · rw [same, commit_self]
    simp [Progress.succeeded]
  · rw [commit_other state response same]
    simp [same]

omit hmac settings calls in
theorem unanswered_of_inside {progress : Progress} (inside : progress.inside = true) :
    progress.succeeded = false := by
  cases answered : progress.succeeded with
  | false => rfl
  | true => rw [Progress.not_inside_of_succeeded answered] at inside; cases inside

/-- Every call that succeeded left one organization and one key, and no other
call left any. -/
structure Accounted (before state : State n) : Prop where
  organizations :
    state.organizations.length = before.organizations.length + state.succeeded.card
  apiKeys : state.apiKeys.length = before.apiKeys.length + state.succeeded.card

omit hmac in
theorem accounted_effect (before state next : State n) (a : Action n)
    (accounted : Accounted before state) (effect : Effect settings calls state a next) :
    Accounted before next := by
  obtain ⟨organizations, apiKeys⟩ := accounted
  have kept : ∀ (i : Fin n) (further : Progress), (state.progress i).succeeded = false →
      further.succeeded = false → Accounted before (state.put i further) := by
    intro i further unanswered failed
    have same := succeeded_put state i further unanswered failed
    exact ⟨by rw [same]; exact organizations, by rw [same]; exact apiKeys⟩
  cases effect with
  | leaves _ i reply unanswered failed => exact kept i _ unanswered failed
  | counts i now waiting admitted => exact kept i _ (by rw [waiting]; rfl) rfl
  | holds _ i row counted => exact kept i _ (by rw [counted]; rfl) rfl
  | continues _ i row further held after =>
      exact kept i _ (unanswered_of_inside (Progress.inside_of_organization held))
        (unanswered_of_inside (Progress.inside_of_organization after))
  | commits _ i response held =>
      have fresh : i ∉ state.succeeded := by
        simp [unanswered_of_inside (Progress.inside_of_organization held)]
      constructor
      · rw [succeeded_commit, Finset.card_insert_of_notMem fresh, ← add_assoc, ← organizations]
        simp [State.commit]
      · rw [succeeded_commit, Finset.card_insert_of_notMem fresh, ← add_assoc, ← apiKeys]
        simp [State.commit]

omit hmac settings calls in
theorem once_of_accounted (before state : State n) (accounted : Accounted before state)
    (atMostOne : state.succeeded.card ≤ 1) : Once before state := by
  obtain ⟨organizations, apiKeys⟩ := accounted
  exact ⟨atMostOne, by omega, by omega⟩

/-! ## One slug, one bootstrap -/

/-- The calls that have counted share a slug, at most one of them holds an
organization, and none can once one is committed. -/
structure Exclusive (state : State n) : Prop where
  sameSlug : ∀ i j, (state.progress i).inside = true → (state.progress j).inside = true →
    (calls i).body.organizationSlug = (calls j).body.organizationSlug
  ownSlug : ∀ i, ∀ row ∈ (state.progress i).organization,
    row.slug = (calls i).body.organizationSlug
  oneHolder : ∀ i j, ∀ row ∈ (state.progress i).organization,
    ∀ other ∈ (state.progress j).organization, i = j
  closed : ∀ i, (state.progress i).succeeded = true → ∃ row ∈ state.organizations,
    ∀ j, (state.progress j).inside = true →
      row.slug = (calls j).body.organizationSlug ∧ (state.progress j).organization = none
  once : ∀ i j, (state.progress i).succeeded = true → (state.progress j).succeeded = true → i = j

omit hmac settings in
/-- A call that leaves, or goes on with the organization it holds, changes
nothing the others see. -/
theorem Exclusive.put {state : State n} (exclusive : Exclusive calls state) (i : Fin n)
    (further : Progress)
    (inside : further.inside = true → (state.progress i).inside = true)
    (holds : ∀ row ∈ further.organization, row ∈ (state.progress i).organization)
    (failed : further.succeeded ≠ true) : Exclusive calls (state.put i further) := by
  have inside' := of_put state i further (·.inside = true) inside
  have holds' := fun j row => of_put state i further (row ∈ ·.organization) (holds row) j
  have succeeded := of_put state i further (·.succeeded = true) fun done => absurd done failed
  refine ⟨?_, ?_, ?_, ?_, ?_⟩
  · exact fun j k first second => exclusive.sameSlug j k (inside' j first) (inside' k second)
  · exact fun j row held => exclusive.ownSlug j row (holds' j row held)
  · exact fun j k row first other second =>
      exclusive.oneHolder j k row (holds' j row first) other (holds' k other second)
  · intro j done
    obtain ⟨row, member, others⟩ := exclusive.closed j (succeeded j done)
    refine ⟨row, member, fun k within => ?_⟩
    obtain ⟨slug, none⟩ := others k (inside' k within)
    refine ⟨slug, Option.eq_none_iff_forall_not_mem.mpr fun other held => ?_⟩
    have before := holds' k other held
    rw [none] at before
    cases before
  · exact fun j k first second => exclusive.once j k (succeeded j first) (succeeded k second)

omit hmac in
theorem exclusive_counts (state : State n) (i : Fin n) (exclusive : Exclusive calls state)
    (admitted : guards settings (calls i) state.organizations = .counted)
    (same : ∀ j, (state.progress j).inside = true →
      (calls j).body.organizationSlug = (calls i).body.organizationSlug) :
    Exclusive calls (state.put i .counted) := by
  have empty : AuthService.organizationsExist state.organizations = false := by
    unfold guards at admitted
    split at admitted
    · cases admitted
    · split at admitted
      · cases admitted
      · split_ifs at admitted with _ exist
        simpa using exist
  have slugs : ∀ j, ((state.put i .counted).progress j).inside = true →
      (calls j).body.organizationSlug = (calls i).body.organizationSlug := by
    intro j within
    by_cases self : j = i
    · rw [self]
    · rw [put_other state _ self] at within
      exact same j within
  have holds := fun j row => of_put state i .counted (row ∈ ·.organization)
    (fun held => by cases held) j
  have succeeded := of_put state i .counted (·.succeeded = true) fun done => by cases done
  refine ⟨?_, ?_, ?_, ?_, ?_⟩
  · intro j k first second
    rw [slugs j first, slugs k second]
  · exact fun j row held => exclusive.ownSlug j row (holds j row held)
  · exact fun j k row held other heldToo =>
      exclusive.oneHolder j k row (holds j row held) other (holds k other heldToo)
  · intro j done
    obtain ⟨row, member, -⟩ := exclusive.closed j (succeeded j done)
    have nonempty := List.length_pos_of_mem member
    simp [AuthService.organizationsExist] at empty
    simp [empty] at nonempty
  · exact fun j k first second => exclusive.once j k (succeeded j first) (succeeded k second)

omit hmac settings in
theorem exclusive_holds (state : State n) (i : Fin n) (row : Organization)
    (exclusive : Exclusive calls state) (counted : state.progress i = .counted)
    (slug : row.slug = (calls i).body.organizationSlug)
    (uncommitted : ∀ other ∈ state.organizations, row.clash other = false)
    (alone : ∀ j, j ≠ i → ∀ other ∈ (state.progress j).organization, row.clash other = false) :
    Exclusive calls (state.put i (.organizationFlushed row)) := by
  have insideSelf : (state.progress i).inside = true := by rw [counted]; rfl
  have inside := of_put state i (.organizationFlushed row) (·.inside = true) fun _ => insideSelf
  have succeeded := of_put state i (.organizationFlushed row) (·.succeeded = true)
    fun done => by cases done
  -- No other call holds an organization: it would have the slug of this one.
  have noOther : ∀ j, j ≠ i → (state.progress j).organization = none := by
    intro j self
    refine Option.eq_none_iff_forall_not_mem.mpr fun other held => ?_
    have apart := alone j self other held
    have otherSlug := exclusive.ownSlug j other held
    have agree := exclusive.sameSlug i j insideSelf (Progress.inside_of_organization held)
    simp [Organization.clash, slug, otherSlug, agree] at apart
  have noneClosed : ∀ j, (state.progress j).succeeded = false := by
    intro j
    by_contra done
    obtain ⟨committed, member, others⟩ := exclusive.closed j (by simpa using done)
    have apart := uncommitted committed member
    simp [Organization.clash, slug, (others i insideSelf).1] at apart
  refine ⟨?_, ?_, ?_, ?_, ?_⟩
  · exact fun j k first second => exclusive.sameSlug j k (inside j first) (inside k second)
  · intro j other held
    by_cases self : j = i
    · rw [self, put_self] at held
      cases held
      rw [self, slug]
    · rw [put_other state _ self] at held
      exact exclusive.ownSlug j other held
  · have own : ∀ j, ∀ other ∈ ((state.put i (.organizationFlushed row)).progress j).organization,
        j = i := by
      intro j other held
      by_contra self
      rw [put_other state _ self, noOther j self] at held
      cases held
    intro j k _ held _ heldToo
    rw [own j _ held, own k _ heldToo]
  · exact fun j done => absurd (succeeded j done) (by simp [noneClosed j])
  · exact fun j k first second => exclusive.once j k (succeeded j first) (succeeded k second)

omit hmac settings in
theorem exclusive_commits (state : State n) (i : Fin n) (response : BootstrapResponse)
    (exclusive : Exclusive calls state)
    (held : (state.progress i).organization = some response.organization) :
    Exclusive calls (state.commit i response) := by
  have insideSelf := Progress.inside_of_organization held
  have others : ∀ j, ((state.commit i response).progress j).inside = true →
      j ≠ i ∧ (state.progress j).inside = true := by
    intro j within
    by_cases self : j = i
    · rw [self, commit_self] at within
      cases within
    · rw [commit_other state response self] at within
      exact ⟨self, within⟩
  have holders : ∀ j, ∀ row ∈ ((state.commit i response).progress j).organization,
      row ∈ (state.progress j).organization := by
    intro j row heldToo
    by_cases self : j = i
    · rw [self, commit_self] at heldToo
      cases heldToo
    · rwa [commit_other state response self] at heldToo
  have alone : ∀ j, ((state.commit i response).progress j).succeeded = true → j = i := by
    intro j done
    by_contra self
    rw [commit_other state response self] at done
    obtain ⟨row, member, closed⟩ := exclusive.closed j done
    have none := (closed i insideSelf).2
    rw [held] at none
    cases none
  refine ⟨?_, ?_, ?_, ?_, ?_⟩
  · exact fun j k first second => exclusive.sameSlug j k (others j first).2 (others k second).2
  · exact fun j row heldToo => exclusive.ownSlug j row (holders j row heldToo)
  · exact fun j k row first other second =>
      exclusive.oneHolder j k row (holders j row first) other (holders k other second)
  · intro j done
    refine ⟨response.organization, by simp [State.commit], fun k within => ?_⟩
    obtain ⟨self, within⟩ := others k within
    constructor
    · rw [exclusive.ownSlug i _ held]
      exact exclusive.sameSlug i k insideSelf within
    · rw [commit_other state response self]
      refine Option.eq_none_iff_forall_not_mem.mpr fun other heldToo => ?_
      exact self (exclusive.oneHolder k i other heldToo _ held)
  · intro j k first second
    rw [alone j first, alone k second]

omit hmac in
theorem exclusive_effect (state next : State n) (a : Action n) (exclusive : Exclusive calls state)
    (oneSlug : OneSlug settings calls state a) (effect : Effect settings calls state a next) :
    Exclusive calls next := by
  cases effect with
  | leaves _ i reply unanswered failed =>
      refine exclusive.put calls i _ ?_ ?_ (by rw [failed]; exact Bool.false_ne_true)
      · exact fun within => by cases within
      · exact fun row held => by cases held
  | counts i now waiting admitted =>
      exact exclusive_counts settings calls state i exclusive admitted
        (oneSlug (by rw [waiting]) (by rw [admitted]))
  | holds _ i row counted slug uncommitted alone =>
      exact exclusive_holds calls state i row exclusive counted slug uncommitted alone
  | continues _ i row further held after =>
      have open_ := unanswered_of_inside (Progress.inside_of_organization after)
      refine exclusive.put calls i further ?_ ?_ (by rw [open_]; exact Bool.false_ne_true)
      · exact fun _ => Progress.inside_of_organization held
      · intro other same
        rw [held, ← after]
        exact same
  | commits _ i response held => exact exclusive_commits calls state i response exclusive held

/-! ## Runs -/

omit hmac settings in
theorem exclusive_start (organizations : List Organization) (teams : List Team)
    (apiKeys : List APIKey) : Exclusive calls (start organizations teams apiKeys) where
  sameSlug _ _ first := by cases first
  ownSlug _ _ held := by cases held
  oneHolder _ _ _ held := by cases held
  closed _ done := by cases done
  once _ _ done := by cases done

/-- Bootstrap happens at most once in every interleaving whose counts are taken
while one slug is named. -/
theorem bootstrap_once (organizations : List Organization) (teams : List Team)
    (apiKeys : List APIKey) (actions : List (Action n))
    (oneSlug : StepsMeet (step hmac settings calls) (OneSlug settings calls)
      (start organizations teams apiKeys) actions) :
    HoldsThroughout (step hmac settings calls) (Once (start organizations teams apiKeys))
      (start organizations teams apiKeys) actions := by
  have invariant := holdsThroughout_of_steps (step hmac settings calls)
    (fun state => Exclusive calls state ∧ Accounted (start organizations teams apiKeys) state)
    (OneSlug settings calls)
    (fun state a next holds named stepped =>
      have effect := step_effect hmac settings calls state next a stepped
      ⟨exclusive_effect settings calls state next a holds.1 named effect,
        accounted_effect settings calls _ state next a holds.2 effect⟩)
    (start organizations teams apiKeys)
    ⟨exclusive_start calls organizations teams apiKeys,
      ⟨by simp [State.succeeded, start, Progress.succeeded],
        by simp [State.succeeded, start, Progress.succeeded]⟩⟩ actions oneSlug
  refine invariant.imp (step hmac settings calls) ?_
  rintro state ⟨exclusive, accounted⟩
  refine once_of_accounted _ state accounted (Finset.card_le_one.mpr ?_)
  intro i first j second
  exact exclusive.once i j ((mem_succeeded state i).mp first) ((mem_succeeded state j).mp second)

end Interleaving

/-! ## Two calls at once -/

instance {n : ℕ} (settings : BootstrapSettings) (calls : Fin n → Call) (state : State n) :
    (a : Action n) → Decidable (OneSlug settings calls state a)
  | .statement i _ => inferInstanceAs (Decidable ((state.progress i matches .waiting) →
      guards settings (calls i) state.organizations matches .counted →
        ∀ j, (state.progress j).inside = true →
          (calls j).body.organizationSlug = (calls i).body.organizationSlug))
  | .abandon _ => inferInstanceAs (Decidable True)

def bootstrapSettings : BootstrapSettings := ⟨true, "bootstrap-token", "pepper"⟩

/-- Operators with the token, each with ids of its own. -/
def operators (slugs : List String) (i : Fin slugs.length) : Call :=
  { credentials := some "bootstrap-token"
    body := ⟨"Acme", slugs.get i, "Platform", "platform", "admin"⟩
    organizationId := "org-" ++ toString i.val
    teamId := "team-" ++ toString i.val
    keyId := "key-" ++ toString i.val
    randomPart := "random-" ++ toString i.val }

def newYear : Datetime := .ofDate .newYear

/-- A count or a flush or a commit of a call. -/
def turn {n : ℕ} (i : Fin n) : Action n := .statement i newYear

/-- Both calls count before either commits. -/
def racing : List (Action 2) :=
  [turn 0, turn 1, turn 0, turn 1, turn 0, turn 1, turn 0, turn 1, turn 0, turn 1]

/-- Two slugs: both calls create an organization and an admin key. -/
theorem two_slugs_bootstrap_twice :
    ∃ state, run (step (fun _ key => key) bootstrapSettings (operators ["acme", "globex"]))
        (start [] [] []) racing = some state ∧
      state.succeeded.card = 2 ∧ state.organizations.length = 2 ∧ state.apiKeys.length = 2 ∧
      ¬ Once (start [] [] []) state := by
  have ran : (run (step (fun _ key => key) bootstrapSettings (operators ["acme", "globex"]))
      (start [] [] []) racing).map (fun state =>
        (state.succeeded.card, state.organizations.length, state.apiKeys.length)) =
          some (2, 2, 2) := by decide +kernel
  obtain ⟨state, reached, counted⟩ := Option.map_eq_some_iff.mp ran
  simp only [Prod.mk.injEq] at counted
  refine ⟨state, reached, counted.1, counted.2.1, counted.2.2, ?_⟩
  intro once
  have atMostOne := once.calls
  omega

/-- Two calls race with one slug and a third comes later with its own. -/
def queued : List (Action 3) :=
  [turn 0, turn 1, turn 0, turn 0, turn 0, turn 0, turn 1, turn 2]

theorem one_slug_bootstraps_once :
    (run (step (fun _ key => key) bootstrapSettings (operators ["acme", "acme", "globex"]))
        (start [] [] []) queued).map (·.succeeded) = some {0} ∧
      HoldsThroughout (step (fun _ key => key) bootstrapSettings
        (operators ["acme", "acme", "globex"])) (Once (start [] [] [])) (start [] [] []) queued :=
  ⟨by decide +kernel, bootstrap_once (fun _ key => key) bootstrapSettings
    (operators ["acme", "acme", "globex"]) [] [] [] queued (by decide +kernel)⟩

end CortexGateway.Bootstrapping
