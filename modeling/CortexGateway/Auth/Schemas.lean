import CortexGateway.Core.Exceptions

/-! # The authenticated context

`RequestContext` of `app/auth/schemas.py`, a dataclass of four fields. -/
set_option autoImplicit false
namespace CortexGateway

/-- The context `AuthService.authenticate` returns. -/
structure RequestContext where
  organizationId : String
  teamId : String
  apiKeyId : String
  role : String
  deriving DecidableEq

/-- An object as the code that is handed one sees it: what reading an attribute gives. -/
abbrev Attributes := String → Except Exc String

def RequestContext.attributes (context : RequestContext) : Attributes
  | "organization_id" => .ok context.organizationId
  | "team_id" => .ok context.teamId
  | "api_key_id" => .ok context.apiKeyId
  | "role" => .ok context.role
  | name => .error (.attributeError name)

end CortexGateway
