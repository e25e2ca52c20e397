import CallRouting.Balancer.Strategies
import CallRouting.Filter
import CallRouting.Retry.PolicyCache
import CallRouting.Routing.Lookup

/-!
# The router

The state that all calls share: the cached lists, what the strategies read and
write, the filters in the order in which they were added, the strategies by name
and the name of the one to use, and the policies by name.

Candidates are a list of the cache that has passed through the filters as they are
at that moment.
-/

namespace CallRouting

/-- All that routes calls: the lists, the statistics and turns, the filters, the strategies and the
policies. -/
structure Router (ω : Type) where
  cache : Cache
  balance : Balance ω
  filters : List Filter
  strategies : Strategies
  /-- The name of the strategy for first attempts. -/
  configured : String
  policies : PolicyCache

namespace Router

variable {ω : Type}

/-- The strategy for first attempts. -/
def strategy (router : Router ω) : Strategy := router.strategies.get router.configured

/-- The candidates of a list. -/
def candidates (router : Router ω) (instances : List Instance) : List Instance :=
  applyFilters router.filters instances

/-- The candidates of the list at hand, without asking the directory. -/
def cachedCandidates (router : Router ω) (service : String) : Option (List Instance) :=
  (router.cache.peek service).map fun cached => router.candidates cached.instances

/-- Choose from a list, avoiding what has failed. -/
def pick [Weight ω] (router : Router ω) (strategy : Strategy) (draw : Draw ω) (now : Instant)
    (service : String) (failed : List Identity) (instances : List Instance) :
    Router ω × Option Instance :=
  let (balance, picked) :=
    router.balance.choose strategy draw now service (avoiding (router.candidates instances) failed)
  ({ router with balance }, picked)

/-- One round of new weight tables for all services with candidates in the cache. -/
def aggregate [Weight ω] (router : Router ω) (now : Instant) : Router ω × Nat :=
  let (ledger, count) := router.balance.ledger.aggregateAll now router.cachedCandidates
  ({ router with balance := { router.balance with ledger } }, count)

end Router

end CallRouting
