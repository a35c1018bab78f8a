import CortexGateway.Api.Admin

/-! # Organizations and the caller's own context

The endpoints of `app/api/v1/endpoints/organizations.py` and `auth_me.py`, and
the API as a whole: the admin endpoints, these three, and the tasks that wait. -/
set_option autoImplicit false
namespace CortexGateway

/-- INSERT INTO organizations. -/
def Database.insertOrganization (db : Database) (organization : Organization) :
    Except Exc Database :=
  if apart : ∀ other ∈ db.organizations, organization.clash other = false then
    .ok { db with
      organizations := db.organizations ++ [organization]
      organizationIds := nodup_insertRow db.organizationIds apart (by
        intro other same
        simp [Organization.clash, same]) }
  else .error (.otherException "IntegrityError")

namespace AdminApi

structure OrganizationCreate where
  name : String
  slug : String

/-- `MeResponse` has the four fields of the context. -/
inductive AccountSuccess
  | organizationCreated (organization : Organization)
  | organization (organization : Organization)
  | organizationNotFound
  | me (context : RequestContext)
  deriving DecidableEq

def AccountSuccess.statusCode : AccountSuccess → ℕ
  | .organizationCreated _ => 201
  | .organization _ => 200
  | .organizationNotFound => 404
  | .me _ => 200

inductive AccountEndpoint
  | createOrganization (body : OrganizationCreate) (newId : String)
  | getOrganization (orgId : String)
  | getMe

section Handlers
variable (db : Database) (context : RequestContext)

/-- Any organization's admin may create another organization. -/
def createOrganization (body : OrganizationCreate) (newId : String) (now : Datetime) :
    Except ApiError (AccountSuccess × Database) := do
  requireAdmin context
  let organization := AuthService.newOrganization newId body.name body.slug now
  let after ← unhandled (db.insertOrganization organization)
  return (.organizationCreated organization, after)

def getOrganization (orgId : String) : Except ApiError (AccountSuccess × Database) := do
  if context.organizationId ≠ orgId then throw (.authorizationError "Access denied.")
  match db.organizations.find? fun row => row.id = orgId with
  | none => return (.organizationNotFound, db)
  | some organization => return (.organization organization, db)

def handleAccount (now : Datetime) : AccountEndpoint → Except ApiError (AccountSuccess × Database)
  | .createOrganization body newId => createOrganization db context body newId now
  | .getOrganization orgId => getOrganization db context orgId
  | .getMe => return (.me context, db)

end Handlers

structure AccountCall where
  credentials : Option String
  endpoint : AccountEndpoint
  now : Datetime

inductive GatewayAction
  | api (action : ApiAction)
  | account (call : AccountCall)

inductive GatewayReply
  | api (reply : Option (Except ApiError Success))
  | account (reply : Except ApiError AccountSuccess)

section Step
variable (env : AdminEnv)

def performAccount (state : ApiState) (call : AccountCall) :
    Except ApiError AccountSuccess × ApiState :=
  match getRequestContext env state.db call.credentials call.now with
  | .error error => (.error error, state)
  | .ok context =>
      let state := { state with tasks := state.tasks ++ [context.apiKeyId] }
      match handleAccount state.db context call.now call.endpoint with
      | .error error => (.error error, state)
      | .ok (success, after) => (.ok success, { state with db := after })

def gatewayStep (state : ApiState) : GatewayAction → GatewayReply × ApiState
  | .api action => (.api (apiStep env state action).1, (apiStep env state action).2)
  | .account call => (.account (performAccount env state call).1, (performAccount env state call).2)

end Step
end AdminApi
end CortexGateway
