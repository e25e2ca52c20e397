import CallRouting.Cache

/-!
# The history of cached lists

What a cache answers can be told from what has happened, without a cache: which contacts
the directory has had and what it answered, and which lists were forgotten. The load of
a service that counts is the last successful one since its list was last forgotten.

`Follows` says for each operation what happens at it and what it gives back, in terms of
that load alone. The time of the answer is the time of the load, however long the
contact took.
-/

namespace CallRouting

/-- What happens to the list of a service. -/
inductive Happening
  | contacted (service : String) (answer : Except DirectoryFault (List Instance))
      (endedAt : Instant)
  | forgotten (service : String)

/-- How long each contact with the directory takes and what it answers, by its number. -/
abbrev Outside := Nat → Nat × Except DirectoryFault (List Instance)

/-- The time, and what has happened to the lists up to then. -/
structure History where
  now : Instant
  /-- What has happened, the latest first. -/
  past : List Happening

/-- The last successful load of a service since its list was last forgotten. -/
def lastLoad (service : String) : List Happening → Option CachedList
  | [] => none
  | .contacted other answer endedAt :: earlier =>
    match answer with
    | .ok instances =>
      if other = service then some ⟨instances, endedAt⟩ else lastLoad service earlier
    | .error _ => lastLoad service earlier
  | .forgotten other :: earlier => if other = service then none else lastLoad service earlier

namespace History

/-- How many contacts the directory has had. -/
def contacts (history : History) : Nat :=
  history.past.countP fun
    | .contacted .. => true
    | .forgotten _ => false

/-- Contact the directory about a service. Time passes until it has answered. -/
def contact (outside : Outside) (history : History) (service : String) : History :=
  let (span, answer) := outside history.contacts
  let endedAt := history.now + span
  ⟨endedAt, .contacted service answer endedAt :: history.past⟩

/-- Forget the list of a service. -/
def forget (history : History) (service : String) : History :=
  { history with past := .forgotten service :: history.past }

/-- The load of a service that counts. -/
def load? (history : History) (service : String) : Option CachedList :=
  lastLoad service history.past

/-- What a contact about a service gives: the directory's list, or in place of a failure
the list at hand, which is empty if there is none. -/
def given (outside : Outside) (history : History) (service : String) : List Instance :=
  match (outside history.contacts).2 with
  | .ok instances => instances
  | .error _ => ((history.load? service).map (·.instances)).getD []

/-- A contact that succeeds is the new load of its service; one that fails changes
nothing. -/
theorem load?_contact (outside : Outside) (history : History) (service other : String) :
    (history.contact outside service).load? other =
      match (outside history.contacts).2 with
      | .ok instances =>
        if service = other then
          some ⟨instances, history.now + (outside history.contacts).1⟩
        else history.load? other
      | .error _ => history.load? other := by
  unfold contact load?
  generalize outside history.contacts = answered
  obtain ⟨span, answer⟩ := answered
  cases answer <;> rfl

/-- Only the list that is forgotten changes. -/
theorem load?_forget (history : History) (service other : String) :
    (history.forget service).load? other =
      if service = other then none else history.load? other := rfl

end History

/-- What can be done with a cache, one thing at a time. -/
inductive Operation
  | pass (span : Nat)
  | peek (service : String)
  | get (service : String)
  | refresh (service : String)
  | refreshAll
  | invalidate (service : String)

/-- The service whose list an operation asks for. -/
def Operation.asks? : Operation → Option String
  | .get service | .refresh service => some service
  | .pass _ | .peek _ | .refreshAll | .invalidate _ => none

/-- What an operation gives back. -/
inductive Outcome
  | done
  | found (instances : Option (List Instance))
  | listed (instances : List Instance)
  /-- It still waits for something. -/
  | unfinished

/-- What may happen at an operation and what it gives back, if the lists of some services
have been asked for so far. To refresh all of them contacts the directory about each one
once, in some order, and about no other. -/
inductive Follows (ttl : Duration) (outside : Outside) (asked : List String) (history : History) :
    Operation → History → Outcome → Prop
  | pass (span : Nat) :
      Follows ttl outside asked history (.pass span) { history with now := history.now + span }
        .done
  | peek (service : String) :
      Follows ttl outside asked history (.peek service) history
        (.found ((history.load? service).map (·.instances)))
  | fresh (service : String) (load : CachedList) (latest : history.load? service = some load)
      (fresh : history.now ≤ load.loadedAt + ttl.nanos) :
      Follows ttl outside asked history (.get service) history (.listed load.instances)
  | stale (service : String)
      (stale : ∀ load, history.load? service = some load →
        load.loadedAt + ttl.nanos < history.now) :
      Follows ttl outside asked history (.get service) (history.contact outside service)
        (.listed (history.given outside service))
  | refresh (service : String) :
      Follows ttl outside asked history (.refresh service) (history.contact outside service)
        (.listed (history.given outside service))
  | refreshAll (services : List String) (distinct : services.Nodup)
      (all : ∀ service, service ∈ services ↔ service ∈ asked) :
      Follows ttl outside asked history .refreshAll
        (services.foldl (History.contact outside) history) .done
  | invalidate (service : String) :
      Follows ttl outside asked history (.invalidate service) (history.forget service) .done

end CallRouting
