import CortexGateway.Auth.Models
import CortexGateway.Auth.Schemas

/-! # AuthService

The rows `app/auth/service.py` builds and the queries it makes.  Ids, the
random part of a key and the clock are arguments; `hmac` is the keyed hash. -/
set_option autoImplicit false
namespace CortexGateway.AuthService

def organizationsExist (organizations : List Organization) : Bool := 0 < organizations.length

def newOrganization (id name slug : String) (now : Datetime) : Organization :=
  ⟨id, name, slug, now, now⟩

def newTeam (id organizationId name slug : String) (now : Datetime) : Team :=
  ⟨id, organizationId, name, slug, now, now⟩

/-- The row of `create_api_key`; the plaintext is returned beside it. -/
def newApiKey (hmac : String → String → String) (pepper id teamId name role plaintext : String)
    (expiresAt : Option Datetime) (now : Datetime) : APIKey :=
  { id := id
    teamId := teamId
    name := name
    keyPrefix := extractKeyPrefix plaintext
    keyHash := hmac pepper plaintext
    role := role
    expiresAt := expiresAt
    revokedAt := none
    createdAt := now
    lastUsedAt := none }

end CortexGateway.AuthService
