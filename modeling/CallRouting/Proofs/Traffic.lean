import CallRouting.Routing.Lookup

/-!
# Tasks that use one cache side by side

Any number of tasks look up lists in one cache, and lists are forgotten meanwhile. A run
is a list of moves about which nothing is assumed: which task goes on next, how long the
directory takes and what it answers, and which tasks are dropped on the way. So the
moves of one list are one interleaving of the tasks at the points where they wait. A move
that cannot happen changes nothing.

What an observer sees at the list of one service is written down in order, and all
statements about runs speak of such logs.
-/

namespace CallRouting

/-- What can happen to a cache that several tasks use. -/
inductive Move
  | pass (span : Nat)
  | get (service : String)
  | refresh (service : String)
  /-- A task goes on at an answer. -/
  | answer (ticket : Ticket) (answer : Answer)
  /-- A task is dropped before it has its list. -/
  | leave (ticket : Ticket)
  | invalidate (service : String)

/-- What is seen at the list of one service. -/
inductive Sight
  /-- A task comes for the list: whether it loads in any case, when, and how many stand in
  line for the lock then. -/
  | came (ticket : Ticket) (reload : Bool) (now : Instant) (ahead : Nat)
  /-- It asks the directory. -/
  | called (ticket : Ticket)
  /-- The directory answers it. -/
  | loaded (ticket : Ticket) (answer : Except DirectoryFault (List Instance)) (now : Instant)
  /-- It has its list. -/
  | answered (ticket : Ticket) (instances : List Instance)
  /-- It is dropped. -/
  | left (ticket : Ticket)
  /-- The list is forgotten. -/
  | forgotten

/-- Whether a task that has come so far stands in the line for the lock. -/
def LookupPhase.inLine : LookupPhase → Bool
  | .queued _ | .loading => true
  | .asked _ | .answered _ => false

/-- Whether a task is still without its list. -/
def LookupPhase.waits : LookupPhase → Bool
  | .asked _ | .queued _ | .loading => true
  | .answered _ => false

namespace Lookup

/-- What is seen of a lookup that goes on at an answer. -/
def sights (lookup : Lookup) (cache : Cache) (now : Instant) (ticket : Ticket) (answer : Answer) :
    List Sight :=
  let after := (lookup.resume cache now ticket answer).2
  let closing := (after.result?.map (.answered ticket)).toList
  match lookup.phase, answer with
  | .asked reload, .turn =>
    .came ticket reload now (cache.slot lookup.service).lock.line.length :: closing
  | .queued _, .lock => if after.result?.isSome then closing else [.called ticket]
  | .loading, .listing answer => .loaded ticket answer now :: closing
  | _, _ => []

end Lookup

/-- A cache and the tasks that use it. -/
structure Traffic where
  now : Instant
  cache : Cache
  /-- The lookups by the tickets of their tasks, answered ones included. -/
  lookups : Registry Ticket Lookup
  nextTicket : Ticket

namespace Traffic

/-- A new cache that nobody uses. -/
def start (ttl : Duration) (now : Instant) : Traffic := ⟨now, .empty ttl, ∅, 0⟩

/-- A new task begins to wait for its turn. -/
def receive (traffic : Traffic) (lookup : Lookup) : Traffic :=
  { traffic with
    lookups := traffic.lookups.put traffic.nextTicket lookup
    nextTicket := traffic.nextTicket + 1 }

/-- Whether an answer can end a wait now. -/
def permits (traffic : Traffic) (ticket : Ticket) (await : Await) (answer : Answer) : Bool :=
  answer.fits await &&
    match await with
    | .lock service => traffic.cache.admits ticket service
    | _ => true

/-- The lookup of a task, if an answer ends its wait. -/
def roused? (traffic : Traffic) (ticket : Ticket) (answer : Answer) : Option Lookup := do
  let lookup ← traffic.lookups.find? ticket
  let await ← lookup.await?
  if traffic.permits ticket await answer then some lookup else none

/-- The lookup of a task that has no list yet. -/
def waiting? (traffic : Traffic) (ticket : Ticket) : Option Lookup :=
  (traffic.lookups.find? ticket).filter (·.phase.waits)

/-- The traffic after a move. An answer that ends no wait, and who leaves without waiting,
change nothing. -/
def step (traffic : Traffic) : Move → Traffic
  | .pass span => { traffic with now := traffic.now + span }
  | .get service => traffic.receive (.get service)
  | .refresh service => traffic.receive (.refresh service)
  | .answer ticket answer =>
    match traffic.roused? ticket answer with
    | none => traffic
    | some lookup =>
      let (cache, lookup) := lookup.resume traffic.cache traffic.now ticket answer
      { traffic with cache, lookups := traffic.lookups.put ticket lookup }
  | .leave ticket =>
    match traffic.waiting? ticket with
    | none => traffic
    | some lookup =>
      { traffic with
        cache := lookup.abandon traffic.cache ticket
        lookups := traffic.lookups.erase ticket }
  | .invalidate service => { traffic with cache := traffic.cache.invalidate service }

/-- The traffic after a run. -/
def run (traffic : Traffic) (moves : List Move) : Traffic := moves.foldl step traffic

/-- What is seen of a move at the list of a service. -/
def sights (service : String) (traffic : Traffic) : Move → List Sight
  | .pass _ | .get _ | .refresh _ => []
  | .answer ticket answer =>
    match traffic.roused? ticket answer with
    | none => []
    | some lookup =>
      if lookup.service = service then lookup.sights traffic.cache traffic.now ticket answer
      else []
  | .leave ticket =>
    match traffic.waiting? ticket with
    | none => []
    | some lookup => if lookup.service = service then [.left ticket] else []
  | .invalidate other => if other = service then [.forgotten] else []

/-- Everything that is seen of a run at the list of a service, in order. -/
def log (service : String) (traffic : Traffic) : List Move → List Sight
  | [] => []
  | move :: rest => traffic.sights service move ++ log service (traffic.step move) rest

end Traffic

end CallRouting
