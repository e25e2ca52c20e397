import CallRouting.Data
import CallRouting.Retry.Policy

/-!
# Settings

Every setting has a default. Lengths of time are whole milliseconds or minutes of
64 bits; an interval that is not positive turns its job off. Settings that leave
nothing to route with are refused: no attempt, no room in the cache, or no room
for a policy, in this order.
-/

namespace CallRouting

/-- Which directory to open, and its own settings by name. -/
structure DirectorySettings where
  kind : String := "static"
  settings : List (String × Data) := []

/-- All that can be set about a client, with the defaults. -/
structure Settings where
  /-- The name under which this process registers itself. -/
  serviceName : String := ""
  cacheTtlMs : UInt64 := 30000
  /-- How often known services are looked up again. -/
  cacheRefreshMs : Int64 := 60000
  cacheConcurrency : UInt64 := 16
  statsExpireMinutes : UInt64 := 60
  /-- How often response-time weights are computed. -/
  aggregationMs : Int64 := 1000
  balancer : String := "RoundRobin"
  /-- Whether addresses name the ip even where there is a host. -/
  preferIp : Bool := false
  policyCapacity : UInt64 := 9999
  maxAttempts : UInt64 := 3
  retryWaitMs : UInt64 := 1000
  directory : DirectorySettings := {}

namespace Settings

/-- What makes settings unusable. -/
inductive Flaw
  | noAttempts
  | noConcurrency
  | noPolicies
  deriving DecidableEq

/-- The error that tells of a flaw. -/
def Flaw.error : Flaw → RoutingError
  | .noAttempts => .configuration "default_max_attempts must be >= 1"
  | .noConcurrency => .configuration "cache_concurrency_level must be >= 1"
  | .noPolicies => .configuration "max_retry_config_cache_size must be >= 1"

/-- The first flaw. -/
def flaw? (settings : Settings) : Option Flaw :=
  if settings.maxAttempts = 0 then some .noAttempts
  else if settings.cacheConcurrency = 0 then some .noConcurrency
  else if settings.policyCapacity = 0 then some .noPolicies
  else none

/-- The settings, if they are usable. -/
def validate (settings : Settings) : Except RoutingError Settings :=
  match settings.flaw? with
  | some flaw => .error flaw.error
  | none => .ok settings

/-- How long a list stays fresh. -/
def cacheTtl (settings : Settings) : Duration := .ofMillis settings.cacheTtlMs.toNat

/-- An interval in milliseconds, unless it is turned off. -/
def interval? (ms : Int64) : Option Duration :=
  if ms.toInt ≤ 0 then none else some (.ofMillis ms.toInt.toNat)

/-- How often all known lists are loaded anew, if that is done at all. -/
def cacheRefresh? (settings : Settings) : Option Duration := interval? settings.cacheRefreshMs

/-- How often weight tables are computed, if that is done at all. -/
def aggregation? (settings : Settings) : Option Duration := interval? settings.aggregationMs

/-- How long statistics of an instance count; the seconds stop at their greatest
64-bit value. -/
def statsExpire (settings : Settings) : Duration :=
  .ofSeconds (min (settings.statsExpireMinutes.toNat * 60) 18446744073709551615)

/-- How long a call waits before a further attempt, unless its policy says otherwise. -/
def retryWait (settings : Settings) : Duration := .ofMillis settings.retryWaitMs.toNat

/-- The policy of calls that bring none of their own. -/
def retryPolicy (settings : Settings) : RetryPolicy :=
  ((RetryPolicy.named "default").withMaxAttempts settings.maxAttempts.toNat).withWait
    settings.retryWait

/-- Set how long lists stay fresh. Only the low 64 bits of the milliseconds are kept. -/
def withCacheTtl (settings : Settings) (ttl : Duration) : Settings :=
  { settings with cacheTtlMs := ttl.millisWord }

/-- Set the default policy. Only the low 64 bits of the wait in milliseconds are kept. -/
def withRetry (settings : Settings) (attempts : UInt64) (wait : Duration) : Settings :=
  { settings with maxAttempts := attempts, retryWaitMs := wait.millisWord }

end Settings

end CallRouting
