import CortexGateway.Core.Datetime
import CortexGateway.Core.Exceptions

/-! # Organizations, teams and API keys

The rows of `app/auth/models.py`, the errors of `app/auth/exceptions.py` and
the key helpers of `app/auth/security.py`.  HMAC-SHA256 with the pepper is a
parameter. -/
set_option autoImplicit false
namespace CortexGateway

structure Organization where
  id : String
  name : String
  slug : String
  createdAt : Datetime
  updatedAt : Datetime
  deriving DecidableEq

structure Team where
  id : String
  organizationId : String
  name : String
  slug : String
  createdAt : Datetime
  updatedAt : Datetime
  deriving DecidableEq

structure APIKey where
  id : String
  teamId : String
  name : String
  keyPrefix : String
  keyHash : String
  role : String
  expiresAt : Option Datetime
  revokedAt : Option Datetime
  createdAt : Datetime
  lastUsedAt : Option Datetime
  deriving DecidableEq

def APIKey.isActive (key : APIKey) (now : Datetime) : Bool :=
  key.revokedAt.isNone && key.expiresAt.all fun expiresAt => now < expiresAt

/-- The unique columns of `organizations`: the id and the slug. -/
def Organization.clash (organization other : Organization) : Bool :=
  organization.id = other.id || organization.slug = other.slug

/-- The unique columns of `teams`: the id and the pair of `uq_teams_org_slug`. -/
def Team.clash (team other : Team) : Bool :=
  team.id = other.id ||
    (team.organizationId = other.organizationId && team.slug = other.slug)

/-- The key hash is indexed but not unique. -/
def APIKey.clash (key other : APIKey) : Bool := key.id = other.id

/-- INSERT on flush: a committed row with the same unique columns refuses it. -/
def insertRow {Row : Type} (clash : Row → Row → Bool) (rows : List Row) (row : Row) :
    Except Exc (List Row) :=
  if rows.any (clash row) then .error (.otherException "IntegrityError")
  else .ok (rows ++ [row])

@[simp] theorem insertRow_eq_ok {Row : Type} {clash : Row → Row → Bool} {rows after : List Row}
    {row : Row} :
    insertRow clash rows row = .ok after ↔
      (∀ other ∈ rows, clash row other = false) ∧ rows ++ [row] = after := by
  unfold insertRow
  split_ifs with taken
  · simp only [List.any_eq_true] at taken
    obtain ⟨other, member, clashes⟩ := taken
    simp only [false_iff, not_and]
    intro apart
    rw [apart other member] at clashes
    cases clashes
  · simp only [List.any_eq_true, not_exists, not_and, Bool.not_eq_true] at taken
    simp only [Except.ok.injEq]
    exact ⟨fun same => ⟨taken, same⟩, And.right⟩

/-! ## Keys -/

/-- `generate_api_key` with the random part that was drawn. -/
def generateApiKey (randomPart : String) : String := "cxg_" ++ randomPart

def extractKeyPrefix (apiKey : String) : String := String.ofList (apiKey.toList.take 20)

/-! ## Errors -/

/-- What an endpoint raises; `unhandled` ends in the generic 500. -/
inductive ApiError
  | authenticationError (message : String)
  | authorizationError (message : String)
  | httpException (status : ℕ) (detail : String)
  | unhandled (exc : Exc)
  deriving DecidableEq

def ApiError.statusCode : ApiError → ℕ
  | .authenticationError _ => 401
  | .authorizationError _ => 403
  | .httpException status _ => status
  | .unhandled _ => 500

end CortexGateway
