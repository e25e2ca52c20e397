import CallRouting.Client.Job
import CallRouting.Routing.Invocation
import CallRouting.Settings

/-!
# The client

A client is a router with settings and background jobs. Starting it opens the
directory and starts the jobs that the settings ask for, unless some are running;
closing it stops the jobs, takes the process out of the directory and closes that.
A stopped job does nothing any more, but it is gone, with its place in the line for a
lock, only when the jobs next have their turn. Failures of the directory on the way do
not matter: what cannot be looked up later is served from the cache.
-/

namespace CallRouting

/-- A client: its settings, all that routes calls, its background jobs, and the ticket that the
next task or job gets. -/
structure Client (ω : Type) where
  settings : Settings
  router : Router ω
  jobs : List (Ticket × Job)
  /-- Jobs that were stopped and are not gone yet. -/
  stopped : List (Ticket × Job)
  nextTicket : Ticket

namespace Client

variable {ω : Type}

/-- A client with usable settings. -/
def create (settings : Settings) : Except RoutingError (Client ω) :=
  match settings.flaw? with
  | some flaw => .error flaw.error
  | none =>
    .ok
      { settings
        router :=
          { cache := .empty settings.cacheTtl
            balance := .empty settings.statsExpire
            filters := []
            strategies := .standard
            configured := settings.balancer
            policies := .empty settings.retryPolicy settings.policyCapacity.toNat }
        jobs := []
        stopped := []
        nextTicket := 0 }

/-- The jobs that the settings ask for. -/
def wantedJobs (settings : Settings) : List Job :=
  (settings.aggregation?.map fun interval => Job.aggregating interval none).toList ++
    (settings.cacheRefresh?.map fun interval => Job.refreshing interval none .done).toList

/-- Start the wanted jobs, unless some jobs are running. -/
def startJobs (client : Client ω) : Client ω :=
  if client.jobs.isEmpty then
    let jobs := wantedJobs client.settings
    { client with
      jobs := (List.range jobs.length).map (client.nextTicket + ·) |>.zip jobs
      nextTicket := client.nextTicket + jobs.length }
  else client

/-- To start the jobs changes nothing of the routing; they begin at their first turn. -/
theorem router_startJobs (client : Client ω) : client.startJobs.router = client.router := by
  unfold startJobs
  split <;> rfl

/-- Stop all jobs. -/
def stopJobs (client : Client ω) : Client ω :=
  { client with jobs := [], stopped := client.stopped ++ client.jobs }

/-- Let the stopped jobs go, with the locks and places in line that they have. -/
def dismissStopped (client : Client ω) : Client ω :=
  let cache :=
    client.stopped.foldl (fun cache entry => entry.2.abandon cache entry.1) client.router.cache
  { client with router := { client.router with cache }, stopped := [] }

/-- A running job goes on at an answer. -/
def resumeJob [Weight ω] (client : Client ω) (moment : Moment ω) (answer : Answer) : Client ω :=
  match client.jobs.lookup moment.ticket with
  | none => client
  | some job =>
    let (router, job) := job.resume client.router moment answer
    { client with
      router
      jobs := client.jobs.map fun entry =>
        if entry.1 = moment.ticket then (entry.1, job) else entry }

/-- What a call stands for whose caller declares a policy, or none. -/
def resolvePolicy (client : Client ω) (declared : Option RetryPolicy) : Client ω × RetryPolicy :=
  let (policies, resolved) := client.router.policies.resolve declared
  ({ client with router := { client.router with policies } }, policies.policy resolved)

/-- The instance that an announcement registers. It needs the name of a service. -/
def announced (client : Client ω) (event : Announcement) (freshId : String) :
    Except RoutingError Instance :=
  if client.settings.serviceName.isEmpty then
    .error (.configuration "service_name is required for registration")
  else .ok (event.instance client.settings.serviceName freshId)

end Client

end CallRouting
