import CortexGateway.Core.Datetime
import CortexGateway.Services.ChatService

/-! # Team rate-limit overrides

`app/rate_limit/team_limits.py` and the response of
`app/api/v1/endpoints/rate_limits.py`.  The table has one row per team. -/
set_option autoImplicit false
namespace CortexGateway.RateLimiting

structure TeamRateLimit where
  id : String
  teamId : String
  requestsPerMinute : Option ℤ
  requestsPerHour : Option ℤ
  createdAt : Datetime
  updatedAt : Datetime
  deriving DecidableEq

abbrev TeamRateLimits := String → Option TeamRateLimit

namespace TeamRateLimitService

def get (rows : TeamRateLimits) (teamId : String) : Option TeamRateLimit := rows teamId

/-- The row `set` leaves: a new one has the given id. -/
def overrideRow (existing : Option TeamRateLimit) (teamId newId : String)
    (requestsPerMinute requestsPerHour : Option ℤ) (now : Datetime) : TeamRateLimit :=
  match existing with
  | none => ⟨newId, teamId, requestsPerMinute, requestsPerHour, now, now⟩
  | some row =>
      { row with
        requestsPerMinute := requestsPerMinute
        requestsPerHour := requestsPerHour
        updatedAt := now }

/-- `set` creates or updates the row; `None` removes an override. -/
def set (rows : TeamRateLimits) (teamId newId : String)
    (requestsPerMinute requestsPerHour : Option ℤ) (now : Datetime) :
    TeamRateLimit × TeamRateLimits :=
  let row := overrideRow (get rows teamId) teamId newId requestsPerMinute requestsPerHour now
  (row, Function.update rows teamId (some row))

def delete (rows : TeamRateLimits) (teamId : String) : Bool × TeamRateLimits :=
  match get rows teamId with
  | none => (false, rows)
  | some _ => (true, Function.update rows teamId none)

end TeamRateLimitService

structure TeamRateLimitResponse where
  teamId : String
  effectiveRequestsPerMinute : ℤ
  effectiveRequestsPerHour : Option ℤ
  overrideRequestsPerMinute : Option ℤ
  overrideRequestsPerHour : Option ℤ
  globalRequestsPerMinute : ℤ
  globalRequestsPerHour : Option ℤ
  deriving DecidableEq

/-- `_build_response`; there is no global hourly cap. -/
def buildResponse (teamId : String) (row : Option TeamRateLimit) (settings : Settings) :
    TeamRateLimitResponse :=
  let overrideRpm := row.bind TeamRateLimit.requestsPerMinute
  let overrideRph := row.bind TeamRateLimit.requestsPerHour
  { teamId := teamId
    effectiveRequestsPerMinute := overrideRpm.getD settings.rateLimitTeamRequests
    effectiveRequestsPerHour := overrideRph
    overrideRequestsPerMinute := overrideRpm
    overrideRequestsPerHour := overrideRph
    globalRequestsPerMinute := settings.rateLimitTeamRequests
    globalRequestsPerHour := none }

end CortexGateway.RateLimiting
