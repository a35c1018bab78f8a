import Mathlib

/-! # Rate-limit results

`app/rate_limit/models.py`, as far as `ChatService.complete` reads it, and the
arguments it passes to `check_all`. -/
set_option autoImplicit false
namespace CortexGateway

structure RateLimitResult where
  scope : String
  remaining : ℤ
  retryAfterSeconds : ℕ
  deriving DecidableEq

structure RateLimitOutcome where
  allowed : Bool
  bindingResult : RateLimitResult
  deriving DecidableEq

/-- The arguments of `check_all`. -/
structure RateLimits where
  apiKeyId : String
  teamId : String
  orgId : String
  keyLimit : ℤ
  keyWindow : ℤ
  teamLimit : ℤ
  teamWindow : ℤ
  orgLimit : ℤ
  orgWindow : ℤ
  deriving DecidableEq

end CortexGateway
