import CallRouting.Routing.Awaiting

/-!
# Looking up a list

A task that wants the list of a service, and how it goes on at each answer. An
answer that it does not wait for changes nothing.
-/

namespace CallRouting

/-- A lookup of the list of a service, and how far it has come. -/
structure Lookup where
  service : String
  phase : LookupPhase

namespace Lookup

/-- A lookup that is content with a fresh list. -/
def get (service : String) : Lookup := ⟨service, .asked false⟩

/-- A lookup that loads in any case. -/
def refresh (service : String) : Lookup := ⟨service, .asked true⟩

/-- What the lookup waits for; nothing when it is answered. -/
def await? (lookup : Lookup) : Option Await :=
  match lookup.phase with
  | .asked _ => some .turn
  | .queued _ => some (.lock lookup.service)
  | .loading => some (.listing lookup.service)
  | .answered _ => none

/-- The list that a lookup has got. -/
def result? (lookup : Lookup) : Option (List Instance) :=
  match lookup.phase with
  | .answered instances => some instances
  | _ => none

/-- Go on at an answer. -/
def resume (lookup : Lookup) (cache : Cache) (now : Instant) (ticket : Ticket) (answer : Answer) :
    Cache × Lookup :=
  match lookup.phase, answer with
  | .asked reload, .turn =>
    let (cache, phase) := cache.come now ticket lookup.service reload
    (cache, { lookup with phase })
  | .queued seen, .lock =>
    let (cache, phase) := cache.enter lookup.service seen
    (cache, { lookup with phase })
  | .loading, .listing answer =>
    let (cache, phase) := cache.complete now lookup.service answer
    (cache, { lookup with phase })
  | _, _ => (cache, lookup)

/-- Go away before the answer. -/
def abandon (lookup : Lookup) (cache : Cache) (ticket : Ticket) : Cache :=
  match lookup.phase with
  | .queued _ | .loading => cache.leave ticket lookup.service
  | .asked _ | .answered _ => cache

end Lookup

/-- A task that loads the lists of several services anew, one after the other. -/
inductive Sweep
  | asked
  | running (current : Lookup) (remaining : List String)
  | done

namespace Sweep

/-- What a sweep waits for; nothing when it is done. -/
def await? : Sweep → Option Await
  | .asked => some .turn
  | .running current _ => current.await?
  | .done => none

/-- Begin with the next service. -/
def advance (cache : Cache) (now : Instant) (ticket : Ticket) : List String → Cache × Sweep
  | [] => (cache, .done)
  | service :: remaining =>
    let (cache, current) := (Lookup.refresh service).resume cache now ticket .turn
    (cache, .running current remaining)

/-- Go on at an answer. The services are those known when the sweep begins. -/
def resume (sweep : Sweep) (cache : Cache) (now : Instant) (ticket : Ticket) (answer : Answer) :
    Cache × Sweep :=
  match sweep, answer with
  | .asked, .turn => advance cache now ticket cache.services
  | .running current remaining, answer =>
    let (cache, current) := current.resume cache now ticket answer
    match current.result? with
    | some _ => advance cache now ticket remaining
    | none => (cache, .running current remaining)
  | sweep, _ => (cache, sweep)

/-- Go away before the end. -/
def abandon (sweep : Sweep) (cache : Cache) (ticket : Ticket) : Cache :=
  match sweep with
  | .running current _ => current.abandon cache ticket
  | .asked | .done => cache

end Sweep

end CallRouting
