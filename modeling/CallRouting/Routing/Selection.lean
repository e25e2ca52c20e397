import CallRouting.Routing.Router

/-!
# Selecting an instance

A selection looks up the list of a service, lets it pass through the filters, and
chooses from what is left. The strategy is settled when the selection begins, the
filters when the list is there.
-/

namespace CallRouting

/-- How far a selection has come. -/
inductive SelectionPhase
  | asked
  | looking (strategy : Strategy) (lookup : Lookup)
  | chosen (result : Option Instance)

/-- A choice of an instance of a service. -/
structure Selection where
  service : String
  /-- The strategy to choose by; nothing stands for the configured one. -/
  wanted : Option Strategy
  /-- What has failed so far, the last failure last. -/
  failed : List Identity
  phase : SelectionPhase

namespace Selection

variable {ω : Type} [Weight ω]

/-- A selection by the configured strategy. -/
def first (service : String) : Selection := ⟨service, none, [], .asked⟩

/-- A selection by a given strategy. -/
def withStrategy (service : String) (strategy : Strategy) (failed : List Identity) : Selection :=
  ⟨service, some strategy, failed, .asked⟩

/-- A selection for a further attempt. -/
def retry (service : String) (failed : List Identity) : Selection :=
  Selection.withStrategy service .retryRoundRobin failed

/-- What a selection waits for; nothing when it has chosen. -/
def await? (selection : Selection) : Option Await :=
  match selection.phase with
  | .asked => some .turn
  | .looking _ lookup => lookup.await?
  | .chosen _ => none

/-- Choose, if the lookup is answered. -/
def settle (selection : Selection) (router : Router ω) (moment : Moment ω) (strategy : Strategy)
    (lookup : Lookup) : Router ω × Selection :=
  match lookup.result? with
  | none => (router, { selection with phase := .looking strategy lookup })
  | some instances =>
    let (router, picked) := router.pick strategy moment.draw moment.now selection.service
      selection.failed instances
    (router, { selection with phase := .chosen picked })

/-- Go on at an answer. -/
def resume (selection : Selection) (router : Router ω) (moment : Moment ω) (answer : Answer) :
    Router ω × Selection :=
  match selection.phase, answer with
  | .asked, .turn =>
    let strategy := selection.wanted.getD router.strategy
    let (cache, lookup) :=
      (Lookup.get selection.service).resume router.cache moment.now moment.ticket .turn
    selection.settle { router with cache } moment strategy lookup
  | .looking strategy lookup, answer =>
    let (cache, lookup) := lookup.resume router.cache moment.now moment.ticket answer
    selection.settle { router with cache } moment strategy lookup
  | _, _ => (router, selection)

/-- Go away before the choice. -/
def abandon (selection : Selection) (cache : Cache) (ticket : Ticket) : Cache :=
  match selection.phase with
  | .looking _ lookup => lookup.abandon cache ticket
  | .asked | .chosen _ => cache

end Selection

end CallRouting
