import CallRouting.Instance
import CallRouting.Stats.Weights

/-!
# The ledger of all calls

The ledger keeps a book for every service, and a book leads from the identity of
an instance to its current tally. A tally counts from its creation for a limited
time; after that the next access opens a new one in its place. A call keeps the
handle of the tally on which it started, so its end is counted there, whether or
not the book still leads to it: tallies are never deleted from the ledger.

A book also holds the table of weights that was computed last. It is replaced as a
whole.
-/

namespace CallRouting

/-- The place of a tally in the ledger. -/
abbrev Handle := Nat

/-- What is kept about one service. -/
structure ServiceBook (ω : Type) where
  handles : Registry Identity Handle := ∅
  weights : Option (List ω) := none

/-- The statistics of all services: the tallies, and for each service a book that leads to its
own. -/
structure Ledger (ω : Type) where
  lifetime : Duration
  tallies : Array Tally
  services : Registry String (ServiceBook ω)

namespace Ledger

variable {ω : Type}

/-- Nothing is counted yet. -/
def empty (lifetime : Duration) : Ledger ω := ⟨lifetime, #[], ∅⟩

/-- The book of a service, which is empty for a new one. -/
def book (ledger : Ledger ω) (service : String) : ServiceBook ω :=
  (ledger.services.find? service).getD {}

/-- The ledger with a book for the service. -/
def openBook (ledger : Ledger ω) (service : String) : Ledger ω :=
  { ledger with services := ledger.services.put service (ledger.book service) }

/-- To open a book changes none. -/
theorem book_openBook (ledger : Ledger ω) (service other : String) :
    (ledger.openBook service).book other = ledger.book other := by
  unfold openBook
  simp only [book, Registry.find?_put]
  by_cases same : service = other <;> simp [same]

/-- The tally of a handle, if there is one. -/
def tally? (ledger : Ledger ω) (handle : Handle) : Option Tally := ledger.tallies[handle]?

/-- The tally behind a handle. -/
def tally (ledger : Ledger ω) (handle : Handle) : Tally :=
  (ledger.tally? handle).getD (.fresh 0)

/-- The handle to which the book of a service leads, if its tally is not expired. -/
def current? (ledger : Ledger ω) (now : Instant) (service : String) (key : Identity) :
    Option Handle :=
  match (ledger.book service).handles.find? key with
  | some handle => if (ledger.tally handle).isExpired ledger.lifetime now then none else some handle
  | none => none

/-- Open a new tally in the book of a service. -/
def openTally (ledger : Ledger ω) (now : Instant) (service : String) (key : Identity) :
    Ledger ω × Handle :=
  let handle := ledger.tallies.size
  let book := ledger.book service
  let book := { book with handles := book.handles.put key handle }
  ({ ledger with
      tallies := ledger.tallies.push (.fresh now)
      services := ledger.services.put service book }, handle)

/-- A new tally comes in beside the old ones. -/
theorem tally?_openTally (ledger : Ledger ω) (now : Instant) (service : String) (key : Identity)
    (handle : Handle) :
    (ledger.openTally now service key).1.tally? handle =
      if handle = ledger.tallies.size then some (.fresh now) else ledger.tally? handle := by
  simp only [tally?, openTally, Array.getElem?_push]

/-- The book leads to the new tally, and from all other identities to where it led. -/
theorem find?_openTally (ledger : Ledger ω) (now : Instant) (service other : String)
    (key identity : Identity) :
    ((ledger.openTally now service key).1.book other).handles.find? identity =
      if service = other ∧ key = identity then some ledger.tallies.size
      else (ledger.book other).handles.find? identity := by
  simp only [openTally, book, Registry.find?_put]
  by_cases same : service = other
  · subst same
    simp [Registry.find?_put]
  · simp [same]

/-- The current tally of an instance in the book of a service, opened if there is
none. -/
def access (ledger : Ledger ω) (now : Instant) (service : String) (x : Instance) :
    Ledger ω × Handle :=
  match ledger.current? now service x.identity with
  | some handle => (ledger, handle)
  | none => ledger.openTally now service x.identity

/-- The current tally of an instance in the book of its own service. -/
def tallyOf (ledger : Ledger ω) (now : Instant) (x : Instance) : Ledger ω × Handle :=
  ledger.access now x.service x

/-- Change the tally behind a handle. -/
def change (ledger : Ledger ω) (handle : Handle) (update : Tally → Tally) : Ledger ω :=
  { ledger with tallies := ledger.tallies.modify handle update }

/-- Only the tally behind the handle changes. -/
theorem tally?_change (ledger : Ledger ω) (handle other : Handle) (update : Tally → Tally) :
    (ledger.change handle update).tally? other =
      if handle = other then (ledger.tally? other).map update else ledger.tally? other := by
  simp only [tally?, change, Array.getElem?_modify]

/-- To change a tally changes no book. -/
theorem book_change (ledger : Ledger ω) (handle : Handle) (update : Tally → Tally)
    (service : String) : (ledger.change handle update).book service = ledger.book service := rfl

/-- A call to an instance starts. The handle is for its end. -/
def beforeCall (ledger : Ledger ω) (now : Instant) (x : Instance) : Ledger ω × Handle :=
  let (ledger, handle) := ledger.tallyOf now x
  (ledger.change handle .started, handle)

/-- The call that started on a handle succeeds. -/
def afterSuccess (ledger : Ledger ω) (handle : Handle) (ms : UInt64) : Ledger ω :=
  ledger.change handle (·.succeeded ms)

/-- The call that started on a handle fails. -/
def afterFailure (ledger : Ledger ω) (handle : Handle) (ms : UInt64) : Ledger ω :=
  ledger.change handle (·.failedAfter ms)

/-- The average latencies of candidates in the book of a service. -/
def averages [Weight ω] (ledger : Ledger ω) (now : Instant) (service : String) :
    List Instance → Ledger ω × List ω
  | [] => (ledger, [])
  | x :: rest =>
    let (ledger, handle) := ledger.access now service x
    let average := (ledger.tally handle).average
    let (ledger, others) := ledger.averages now service rest
    (ledger, average :: others)

/-- Compute the table of weights of candidates and put it into the book. -/
def aggregate [Weight ω] (ledger : Ledger ω) (now : Instant) (service : String)
    (candidates : List Instance) : Ledger ω × List ω :=
  let (ledger, averages) := ledger.averages now service candidates
  let table := weightTable averages
  let book := { ledger.book service with weights := some table }
  ({ ledger with services := ledger.services.put service book }, table)

/-- Take the expired tallies out of the book of a service. -/
def purge (ledger : Ledger ω) (now : Instant) (service : String) : Ledger ω :=
  let keep (_ : Identity) (handle : Handle) : Bool :=
    !(ledger.tally handle).isExpired ledger.lifetime now
  { ledger with
    services := ledger.services.modify service fun book =>
      { book with handles := book.handles.retain keep } }

/-- How many instances the book of a service leads to. -/
def tracked (ledger : Ledger ω) (service : String) : Nat := (ledger.book service).handles.size

/-- How many instances a purge would drop from the book of a service. -/
def expired (ledger : Ledger ω) (now : Instant) (service : String) : Nat :=
  ledger.tracked service - (ledger.purge now service).tracked service

/-- One round over all books: each is purged, and gets a new table if the service has
candidates. The number counts the new tables. -/
def aggregateAll [Weight ω] (ledger : Ledger ω) (now : Instant)
    (candidates : String → Option (List Instance)) : Ledger ω × Nat :=
  ledger.services.keys.foldl
    (fun (ledger, count) service =>
      let ledger := ledger.purge now service
      match candidates service with
      | none | some [] => (ledger, count)
      | some found => ((ledger.aggregate now service found).1, count + 1))
    (ledger, 0)

/-- A view of one book: the tallies by the text of the identities. -/
structure ServiceView (ω : Type) where
  service : String
  tallies : Registry String Tally
  weights : Option (List ω)

/-- What can be read of the statistics of a service at one moment. -/
def view (ledger : Ledger ω) (service : String) : ServiceView ω :=
  let book := ledger.book service
  { service
    tallies := Registry.ofList
      (book.handles.entries.map fun entry => (entry.1.text, ledger.tally entry.2))
    weights := book.weights }

/-- The services in the order of their names. -/
def serviceNames (ledger : Ledger ω) : List String :=
  ledger.services.keys.mergeSort fun a b => !decide (b < a)

/-- Views of all books, by service name. -/
def snapshot (ledger : Ledger ω) : List (ServiceView ω) := ledger.serviceNames.map ledger.view

end Ledger

end CallRouting
