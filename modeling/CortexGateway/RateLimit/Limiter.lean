import CortexGateway.Core.Exceptions
import CortexGateway.RateLimit.Models

/-! # The rate limiter

`app/rate_limit/limiter.py`.  Redis is the part of it the Lua script uses:
counters under string keys, each with the time it expires at.  The script runs
at one time of the shared clock; Lua numbers and `time.time()` are exact
rationals. -/
set_option autoImplicit false
namespace CortexGateway.RateLimiting

/-! ## Redis -/

structure Counter where
  value : ℕ
  expiresAt : Option ℚ
  deriving DecidableEq

abbrev Counters := String → Option Counter

namespace Counters

/-- A key whose time has come is gone. -/
def find (counters : Counters) (now : ℚ) (key : String) : Option Counter :=
  (counters key).filter fun counter => counter.expiresAt.all (now < ·)

/-- `GET key`, as the script reads it: 0 if there is no such key. -/
def value (counters : Counters) (now : ℚ) (key : String) : ℕ :=
  ((counters.find now key).map Counter.value).getD 0

/-- `INCR key` keeps the expiry; a new key has none. -/
def incr (counters : Counters) (now : ℚ) (key : String) : Counters :=
  Function.update counters key
    (some ⟨counters.value now key + 1, (counters.find now key).bind Counter.expiresAt⟩)

/-- `EXPIRE key seconds`. -/
def expire (counters : Counters) (now : ℚ) (key : String) (seconds : ℤ) : Counters :=
  Function.update counters key
    ((counters.find now key).map fun counter => { counter with expiresAt := some (now + seconds) })

/-- `TTL key`: whole seconds, rounded; -1 without an expiry, -2 without a key. -/
def ttl (counters : Counters) (now : ℚ) (key : String) : ℤ :=
  match counters.find now key with
  | none => -2
  | some ⟨_, none⟩ => -1
  | some ⟨_, some expiresAt⟩ => ⌊expiresAt - now + 1 / 2⌋

end Counters

/-! ## The script -/

/-- `KEYS` and `ARGV`. -/
structure ScriptCall where
  currKey : String
  prevKey : String
  limit : ℤ
  windowSeconds : ℤ
  elapsedMs : ℤ

structure ScriptReply where
  effectiveCount : ℤ
  ttlSeconds : ℤ
  currentCount : ℕ
  deriving DecidableEq

/-- The first half of the script: INCR, and EXPIRE on the first hit. -/
def ScriptCall.count (call : ScriptCall) (now : ℚ) (counters : Counters) : Counters :=
  let counted := counters.incr now call.currKey
  if counted.value now call.currKey = 1 then
    counted.expire now call.currKey (call.windowSeconds * 2)
  else counted

/-- Two window counts, weighted by the fraction of the window that is over. -/
def effectiveCount (prevCount currCount : ℕ) (fraction : ℚ) : ℤ :=
  ⌈prevCount * (1 - fraction) + currCount⌉

def elapsedFraction (elapsedMs windowSeconds : ℤ) : ℚ := elapsedMs / 1000 / windowSeconds

/-- The second half, on the counters the first half leaves. -/
def ScriptCall.reply (call : ScriptCall) (now : ℚ) (counters : Counters) : ScriptReply :=
  let currCount := counters.value now call.currKey
  let prevCount := counters.value now call.prevKey
  let fraction := elapsedFraction call.elapsedMs call.windowSeconds
  let ttl := counters.ttl now call.currKey
  { effectiveCount := effectiveCount prevCount currCount fraction
    ttlSeconds := if ttl < 0 then call.windowSeconds else ttl
    currentCount := currCount }

def luaScript (now : ℚ) (call : ScriptCall) : EStateM Exc Counters ScriptReply := do
  modify (call.count now)
  return call.reply now (← get)

/-! ## Checking a scope -/

/-- A `RateLimitResult` with the fields `complete` does not read. -/
structure ScopeResult extends RateLimitResult where
  allowed : Bool
  limit : ℤ
  currentCount : ℤ
  deriving DecidableEq

/-- `int(x)` drops the fraction. -/
def truncate (x : ℚ) : ℤ := if 0 ≤ x then ⌊x⌋ else ⌈x⌉

def windowStart (windowSeconds : ℤ) (now : ℚ) : ℤ :=
  (truncate now).fdiv windowSeconds * windowSeconds

def counterKey (scope identifier : String) (start : ℤ) : String :=
  "ratelimit:" ++ scope ++ ":" ++ identifier ++ ":" ++ toString start

def elapsedMs (windowSeconds : ℤ) (now : ℚ) : ℤ :=
  truncate ((now - windowStart windowSeconds now) * 1000)

/-- The call of the script for a check at `now`. -/
def scriptCall (scope identifier : String) (limit windowSeconds : ℤ) (now : ℚ) : ScriptCall :=
  let start := windowStart windowSeconds now
  { currKey := counterKey scope identifier start
    prevKey := counterKey scope identifier (start - windowSeconds)
    limit := limit
    windowSeconds := windowSeconds
    elapsedMs := elapsedMs windowSeconds now }

/-- The result that lets a request pass when Redis cannot be asked. -/
def failingOpen (scope : String) (limit : ℤ) : ScopeResult :=
  { scope := scope
    remaining := limit
    retryAfterSeconds := 0
    allowed := true
    limit := limit
    currentCount := 0 }

def resultOf (scope : String) (limit windowSeconds : ℤ) (reply : ScriptReply) : ScopeResult :=
  let count := reply.effectiveCount
  let ttl := if 0 < reply.ttlSeconds then reply.ttlSeconds else windowSeconds
  { scope := scope
    remaining := max 0 (limit - count)
    retryAfterSeconds := if count ≤ limit then 0 else ttl.toNat
    allowed := count ≤ limit
    limit := limit
    currentCount := count }

section Check
variable {σ : Type}

/-- What evaluates the script at a time; none when there is no Redis. -/
abbrev Script (σ : Type) := Option (ℚ → ScriptCall → EStateM Exc σ ScriptReply)

/-- `_check_scope` at the time it reads. -/
def checkScope (redis : Script σ) (scope identifier : String) (limit windowSeconds : ℤ)
    (now : ℚ) : EStateM Exc σ ScopeResult := do
  match redis with
  | none => return failingOpen scope limit
  | some script =>
      if windowSeconds = 0 then throw (.otherException "ZeroDivisionError")
      else
        tryCatch
          (do
            let reply ← script now (scriptCall scope identifier limit windowSeconds now)
            return resultOf scope limit windowSeconds reply)
          fun exc => if exc.isException then return failingOpen scope limit else throw exc

/-- `max(results, key=...)` and `min(results, key=...)`: the first of the best. -/
def firstBest (better : ScopeResult → ScopeResult → Bool) (first : ScopeResult)
    (rest : List ScopeResult) : ScopeResult :=
  rest.foldl (fun best result => if better result best then result else best) first

/-- A `RateLimitOutcome` with the results of the three scopes. -/
structure Outcome extends RateLimitOutcome where
  keyResult : ScopeResult
  teamResult : ScopeResult
  orgResult : ScopeResult

def outcomeOf (keyResult teamResult orgResult : ScopeResult) : Outcome :=
  let allResults := [keyResult, teamResult, orgResult]
  match allResults.filter (!·.allowed) with
  | first :: rest =>
      let binding := firstBest (fun a b => b.retryAfterSeconds < a.retryAfterSeconds) first rest
      ⟨⟨false, binding.toRateLimitResult⟩, keyResult, teamResult, orgResult⟩
  | [] =>
      let binding := firstBest (fun a b => a.remaining < b.remaining) keyResult
        [teamResult, orgResult]
      ⟨⟨true, binding.toRateLimitResult⟩, keyResult, teamResult, orgResult⟩

/-- The times at which `check_all` reads the clock. -/
structure CheckTimes where
  keyAt : ℚ
  teamAt : ℚ
  orgAt : ℚ
  deriving DecidableEq

/-- All counters are incremented, also when one refuses. -/
def checkAll (redis : Script σ) (times : CheckTimes) (limits : RateLimits) :
    EStateM Exc σ Outcome := do
  let keyResult ← checkScope redis "key" limits.apiKeyId limits.keyLimit limits.keyWindow times.keyAt
  let teamResult ←
    checkScope redis "team" limits.teamId limits.teamLimit limits.teamWindow times.teamAt
  let orgResult ← checkScope redis "org" limits.orgId limits.orgLimit limits.orgWindow times.orgAt
  return outcomeOf keyResult teamResult orgResult

end Check

end CortexGateway.RateLimiting
