import CallRouting.Proofs.ServiceStates
import CallRouting.Proofs.Filtering
import CallRouting.Proofs.Tables

/-!
# The same candidates for a round and for a choice

A round of new tables takes the candidates of a service from the list at hand, and a choice
from the list that its lookup gives. Both let it pass through the filters as they are then.
The list that a lookup gives is the one at hand afterwards, so as long as the candidates in
the list at hand stay the same, a round and the choices after it have the same ones.

So the table that a round computes for a service fits every later choice by weight from all of
them, and no such choice computes another one.
-/

namespace CallRouting

variable {ω : Type}

/-- The list that a lookup gets is the one that is at hand afterwards, if one is.

A lookup gets its list in three ways: fresh when it comes, from another's load when it has the
lock, and from its own load. In each of them it is what the slot holds then. -/
theorem Lookup.listed_at_hand (lookup : Lookup) (cache : Cache) (now : Instant) (ticket : Ticket)
    (answer : Answer) (waits : lookup.await?.isSome = true) (listed : List Instance)
    (got : (lookup.resume cache now ticket answer).2.result? = some listed) (cached : CachedList)
    (there : (lookup.resume cache now ticket answer).1.peek lookup.service = some cached) :
    listed = cached.instances := by
  obtain ⟨service, phase⟩ := lookup
  cases phase with
  | asked reload =>
    cases answer with
    | turn =>
      have kept := cache.peek_come now ticket service service reload
      simp only [resume] at got there
      rw [kept] at there
      unfold Cache.come at got
      dsimp only at got
      split at got
      · rename_i found fresh
        cases got
        cases reload with
        | true => cases fresh
        | false =>
          have same : cache.peek service = some found :=
            (Option.filter_eq_some_iff.mp fresh).1
          exact congrArg CachedList.instances (Option.some.inj (same.symm.trans there))
      · cases got
    | _ => cases got
  | queued seen =>
    cases answer with
    | lock =>
      have kept := cache.peek_enter service service seen
      simp only [resume] at got there
      rw [kept] at there
      unfold Cache.enter at got
      dsimp only at got
      split at got
      · cases got
        exact congrArg (fun cached? => (cached?.map CachedList.instances).getD []) there
      · cases got
    | _ => cases got
  | loading =>
    cases answer with
    | listing answer =>
      simp only [resume, Cache.complete] at got there
      simp only [Cache.peek, Cache.slot_setSlot, if_true] at there
      cases got
      exact congrArg (fun cached? => (cached?.map CachedList.instances).getD []) there
    | _ => cases got
  | answered instances => cases waits

/-- While the list at hand is fresh, whoever comes for it gets it at once, and it stays. -/
theorem Lookup.answered_of_fresh (cache : Cache) (now : Instant) (ticket : Ticket)
    (service : String) (cached : CachedList)
    (fresh : (cache.slot service).fresh? cache.ttl now = some cached) :
    let after := (Lookup.get service).resume cache now ticket .turn
    cache.peek service = some cached ∧ after.2.await? = none ∧
      after.2.result? = some cached.instances ∧ ∀ other, after.1.peek other = cache.peek other := by
  intro after
  have come : after.2.phase = .answered cached.instances := by
    simp only [after, resume, get, Cache.come, fresh, Bool.false_eq_true, if_false]
  refine ⟨(Option.filter_eq_some_iff.mp fresh).1, ?_, ?_, ?_⟩
  · simp only [await?, come]
  · simp only [result?, come]
  · exact fun other => cache.peek_come now ticket service other false

namespace Ledger

variable [Weight ω]

/-- A round serves a service that has candidates. -/
def offered (candidates : String → Option (List Instance)) (service : String) : Bool :=
  (candidates service).any fun found => !found.isEmpty

/-- A service for which candidates are found is served. -/
theorem offered_of_some (candidates : String → Option (List Instance)) (service : String)
    (found : List Instance) (some : candidates service = some found) (nonempty : found ≠ []) :
    offered candidates service = true := by
  simp [offered, some, nonempty]

/-- A round counts the services that it serves, which are those with a book and some candidates.

The count goes along with the ledger through the round, and does not depend on it. -/
theorem aggregateAll_snd (ledger : Ledger ω) (now : Instant)
    (candidates : String → Option (List Instance)) :
    (ledger.aggregateAll now candidates).2 =
      ledger.services.keys.countP (offered candidates) := by
  have steps : (ledger.aggregateAll now candidates).2 =
      ledger.services.keys.foldl
        (fun count service => count + (offered candidates service).toNat) 0 := by
    unfold aggregateAll
    refine (List.foldl_hom Prod.snd ?_).symm
    rintro ⟨current, count⟩ service
    cases found : candidates service with
    | none => simp [offered, found]
    | some instances => cases instances <;> simp [offered, found]
  have counted (services : List String) (count : Nat) :
      services.foldl (fun count service => count + (offered candidates service).toNat) count =
        count + services.countP (offered candidates) := by
    induction services generalizing count with
    | nil => rfl
    | cons service rest inductionHypothesis =>
      rw [List.foldl_cons, inductionHypothesis, List.countP_cons]
      cases offered candidates service with
      | true => exact Nat.add_right_comm count 1 _
      | false => rfl
  rw [steps, counted, Nat.zero_add]

/-- To serve a service with candidates puts their table into its book. No other table changes. -/
theorem weights_serve (ledger : Ledger ω) (now : Instant)
    (candidates : String → Option (List Instance)) (service other : String) :
    ((ledger.serve now candidates service).book other).weights =
      if service = other ∧ offered candidates service = true then
        some (tableOf ((ledger.purge now service).weighed now service
          ((candidates service).getD [])))
      else (ledger.book other).weights := by
  unfold serve offered
  cases candidates service with
  | none => simp [weights_purge]
  | some found =>
    cases found with
    | nil => simp [weights_purge]
    | cons x rest => simp [weights_aggregate, weights_purge]

/-- A round gives a new table to each service with a book and candidates, with an entry for
each candidate, and leaves the tables of all others. -/
theorem weights_aggregateAll (ledger : Ledger ω) (now : Instant)
    (candidates : String → Option (List Instance)) (service : String) :
    (∀ found, service ∈ ledger.services.keys → candidates service = some found → found ≠ [] →
      ∃ weighed : List (Instance × ω), weighed.map Prod.fst = found ∧
        ((ledger.aggregateAll now candidates).1.book service).weights = some (tableOf weighed)) ∧
      (service ∉ ledger.services.keys ∨ offered candidates service = false →
        ((ledger.aggregateAll now candidates).1.book service).weights =
          (ledger.book service).weights) := by
  rw [aggregateAll_fst]
  generalize ledger.services.keys = services
  constructor
  · intro found member some nonempty
    -- The last time that the service is served decides.
    induction services using List.reverseRecOn with
    | nil => cases member
    | append_singleton services last inductionHypothesis =>
      rw [List.foldl_append, List.foldl_cons, List.foldl_nil, weights_serve]
      by_cases here : last = service
      · subst here
        rw [if_pos ⟨rfl, offered_of_some candidates last found some nonempty⟩, some]
        exact ⟨_, map_fst_weighed _ now last found, rfl⟩
      · rw [if_neg fun both => here both.1]
        refine inductionHypothesis ?_
        rcases List.mem_append.mp member with before | lastOne
        · exact before
        · exact absurd (List.mem_singleton.mp lastOne).symm here
  · intro unserved
    induction services generalizing ledger with
    | nil => rfl
    | cons first rest inductionHypothesis =>
      have further : service ∉ rest ∨ offered candidates service = false :=
        unserved.imp_left fun absent later => absent (List.mem_cons_of_mem first later)
      rw [List.foldl_cons, inductionHypothesis _ further, weights_serve]
      refine if_neg ?_
      rintro ⟨rfl, offers⟩
      rcases unserved with absent | nobody
      · exact absent List.mem_cons_self
      · rw [offers] at nobody
        cases nobody

end Ledger

/-- A choice by weight computes a table only for its own service, and only if the one in the
book has another length than the candidates. -/
theorem Balance.table_of_computed [Weight ω] (balance : Balance ω) (now : Instant)
    (service other : String) (candidates : List Instance) (weighed : List (Instance × ω))
    (member : .computed other weighed ∈
      balance.weighings .weightedResponseTime now service candidates) :
    other = service ∧ ∃ kept, (balance.ledger.book service).weights = some kept ∧
      kept.length ≠ candidates.length := by
  unfold weighings at member
  dsimp only at member
  split at member
  · cases member
  · rcases List.mem_append.mp member with computed | sampled
    · have fitting := Option.mem_toList.mp computed
      unfold Ledger.fittingWeighing? at fitting
      rw [Ledger.book_openBook] at fitting
      split at fitting
      · cases fitting
      · rename_i kept weights
        split at fitting
        · cases fitting
        · rename_i differs
          cases fitting
          exact ⟨rfl, kept, weights, differs⟩
    -- The draw from the table weighs nothing again.
    · have drawn := Option.mem_toList.mp sampled
      simp only [bind, Option.bind_eq_some_iff] at drawn
      obtain ⟨_, _, _, _, other⟩ := drawn
      cases other

/-- A selection whose lookup is for its service. -/
def Selection.Aimed (selection : Selection) : Prop :=
  ∀ strategy lookup, selection.phase = .looking strategy lookup →
    lookup.service = selection.service

/-- The lookup of a selection that goes on is for its service and has waited, as the selection
has. -/
theorem Selection.Aimed.exists_lookup {selection : Selection} (aimed : selection.Aimed)
    (router : Router ω) (moment : Moment ω) (answer : Answer) (cache : Cache) (lookup : Lookup)
    (looked : selection.lookedUp? router moment answer = some (cache, lookup)) :
    ∃ current : Lookup, current.service = selection.service ∧
      current.await? = selection.await? ∧
      current.resume router.cache moment.now moment.ticket answer = (cache, lookup) := by
  rcases selection.exists_lookup (ω := ω) answer (·.service = selection.service) rfl aimed with
    nothing | ⟨current, own, waits, resumes⟩
  · rw [nothing] at looked
    cases looked
  · exact ⟨current, own, waits, Option.some.inj ((resumes router moment).symm.trans looked)⟩

/-- The list that a selection gets is the one that is at hand when it has gone on, if one is.

Its lookup either takes the list at hand or has just put it there; the choice leaves the cache. -/
theorem Selection.listed_at_hand [Weight ω] (selection : Selection) (aimed : selection.Aimed)
    (waits : selection.await?.isSome = true) (met : Encounter ω) (listed : List Instance)
    (got : selection.listed? met = some listed) (cached : CachedList)
    (there : (selection.resume met.router met.moment met.answer).1.cache.peek selection.service =
      some cached) : listed = cached.instances := by
  have goes := selection.goesOn met
  rw [got] at goes
  generalize selection.resume met.router met.moment met.answer = after at goes there
  cases goes with
  | chooses cache lookup looked =>
    obtain ⟨current, own, waited, resumed⟩ := aimed.exists_lookup met.router met.moment
      met.answer cache lookup looked
    have result : lookup.result? = some listed := by
      rw [listed?, looked] at got
      exact got
    have after := current.listed_at_hand met.router.cache met.moment.now met.moment.ticket
      met.answer (waited ▸ waits) listed
    rw [resumed, own] at after
    exact after result cached there

/-- A selection that goes on still looks for its own service: it begins its lookup for that
one, and a lookup never changes its service. -/
theorem Selection.aimed_resume [Weight ω] (selection : Selection) (aimed : selection.Aimed)
    (met : Encounter ω) : (selection.resume met.router met.moment met.answer).2.Aimed := by
  have goes := selection.goesOn met
  generalize selection.listed? met = list at goes
  generalize selection.resume met.router met.moment met.answer = after at goes ⊢
  cases goes with
  | stays => exact aimed
  | waits cache lookup looked =>
    obtain ⟨current, own, -, resumed⟩ := aimed.exists_lookup met.router met.moment
      met.answer cache lookup looked
    have kept := current.service_resume met.router.cache met.moment.now met.moment.ticket met.answer
    rw [resumed] at kept
    intro strategy other phase
    cases phase
    exact kept.trans own
  | chooses => exact fun _ _ phase => (nomatch phase)

/-- While the list at hand is fresh, a selection that begins gets it at once and is done. -/
theorem Selection.listed_of_fresh [Weight ω] (selection : Selection)
    (begins : selection.phase = .asked) (router : Router ω) (moment : Moment ω)
    (cached : CachedList)
    (fresh : (router.cache.slot selection.service).fresh? router.cache.ttl moment.now =
      some cached) :
    selection.listed? ⟨router, moment, .turn⟩ = some cached.instances ∧
      (selection.resume router moment .turn).2.await? = none := by
  -- The lookup begins in the same step, and a fresh list answers it at once.
  obtain ⟨-, -, result, -⟩ := Lookup.answered_of_fresh router.cache moment.now moment.ticket
    selection.service cached fresh
  have got : selection.listed? ⟨router, moment, .turn⟩ = some cached.instances := by
    simp only [listed?, lookedUp?, begins]
    exact result
  refine ⟨got, ?_⟩
  have goes := selection.goesOn ⟨router, moment, .turn⟩
  rw [got] at goes
  generalize selection.resume router moment .turn = after at goes ⊢
  cases goes with
  | chooses => rfl

/-- The lists at hand after a task has gone on are those that its selection has left: to open a
call counts in the ledger only. -/
theorem Task.cache_resume_of_selection? [Weight ω] (task : Task) (client : Client ω)
    (moment : Moment ω) (answer : Answer) (selection : Selection)
    (waiting : task.selection? = some selection) :
    (task.resume client moment answer).1.router.cache =
        (selection.resume client.router moment answer).1.cache ∧
      task.await? = selection.await? := by
  cases task with
  | choosing current =>
    cases waiting
    exact ⟨rfl, rfl⟩
  | invoking invocation =>
    obtain ⟨service, policy, ended, failed, phase⟩ := invocation
    cases phase with
    | selecting current =>
      cases waiting
      refine ⟨?_, rfl⟩
      simp only [resume, Invocation.resume, Invocation.engage]
      generalize selection.resume client.router moment answer = after
      split <;> rfl
    | _ => cases waiting
  | _ => cases waiting

namespace World

variable [Weight ω]

/-- A world in which all lookups of selections are for their services. -/
def Aimed (world : World ω) : Prop :=
  ∀ ticket task, (ticket, task) ∈ world.tasks → ∀ selection,
    task.selection? = some selection → selection.Aimed

/-- After an event all lookups are still for the services of their selections. -/
theorem aimed_step (world : World ω) (event : Event ω) (aimed : world.Aimed) :
    (world.step event).Aimed := by
  refine world.selections_step Selection.Aimed event ?_ ?_ aimed
  · intro selection phase strategy lookup looking
    rw [phase] at looking
    cases looking
  · exact fun selection met _ _ _ _ own => selection.aimed_resume own met

/-- After a run all lookups are for the services of their selections, by induction over its
events. -/
theorem aimed_run (world : World ω) (events : List (Event ω)) (aimed : world.Aimed) :
    (world.run events).Aimed := by
  induction events generalizing world with
  | nil => exact aimed
  | cons event rest inductionHypothesis =>
    exact inductionHypothesis _ (world.aimed_step event aimed)

namespace Choice

variable {world : World ω}

omit [Weight ω] in
/-- A choice by weight is that of a selection for which its task has waited, and it meets the
world as it is: further attempts go by turns. -/
theorem open_of_weighted (choice : Choice world)
    (weighted : choice.strategy = .weightedResponseTime) :
    choice.task.selection? = some choice.selection ∧
      choice.met =
        ⟨world.client.router, world.moment choice.ticket choice.draw, choice.answer⟩ := by
  obtain ⟨place, draw, answer, ticket, task, selection, met, listed, roused, selecting, got⟩ :=
    choice
  cases task with
  | choosing current =>
    cases selecting
    exact ⟨rfl, rfl⟩
  | invoking invocation =>
    rcases invocation.selecting?_eq _ selection met selecting with
      ⟨phase, rfl⟩ | ⟨further, -, rfl, -⟩
    · obtain ⟨service, policy, ended, failed, current⟩ := invocation
      cases phase
      exact ⟨rfl, rfl⟩
    · cases weighted
  | _ => cases selecting

/-- The candidates of a choice by weight are those in the list at hand after it.

The selection leaves at hand the list that it has got, and the event changes no filter. -/
theorem candidates_at_hand (choice : Choice world) (aimed : world.Aimed)
    (weighted : choice.strategy = .weightedResponseTime) (found : List Instance)
    (offered : (world.step choice.event).client.router.cachedCandidates choice.selection.service =
      some found) : world.client.router.candidates choice.listed = found := by
  obtain ⟨waiting, met⟩ := choice.open_of_weighted weighted
  obtain ⟨there, await, waits, -, -⟩ :=
    world.roused?_eq_some choice.place choice.answer choice.ticket choice.task choice.roused
  obtain ⟨cache, open'⟩ := choice.task.cache_resume_of_selection? world.client
    (world.moment choice.ticket choice.draw) choice.answer choice.selection waiting
  have rules := world.sameRules_step choice.event nofun
  have left : (world.step choice.event).client.router.cache =
      (choice.selection.resume choice.met.router choice.met.moment choice.met.answer).1.cache := by
    rw [met, ← cache]
    simp only [event, step, choice.roused]
  obtain ⟨cached, atHand, candidates⟩ := Option.map_eq_some_iff.mp offered
  rw [left] at atHand
  have listed := choice.selection.listed_at_hand
    (aimed _ _ (List.mem_of_getElem? there) _ waiting)
    (open' ▸ Option.isSome_iff_exists.mpr ⟨await, waits⟩) choice.met choice.listed choice.got
    cached atHand
  obtain ⟨_, _, after⟩ := rules
  rw [after] at candidates
  rw [listed]
  exact candidates

/-- What an answer weighs, it weighs in a choice: that of the selection which goes on at the
answer and gets its list. -/
theorem exists_of_mem_weighings (place : Nat) (draw : Draw ω) (answer : Answer)
    (weighing : Weighing ω) (member : weighing ∈ world.weighings (.answer place draw answer)) :
    ∃ choice : Choice world, choice.event = .answer place draw answer ∧
      weighing ∈ choice.met.router.balance.weighings choice.strategy choice.met.moment.now
        choice.selection.service
        (avoiding (choice.met.router.candidates choice.listed) choice.selection.failed) := by
  simp only [weighings] at member
  split at member
  · rename_i ticket task roused
    unfold Task.weighings at member
    split at member
    · rename_i selection met selecting
      unfold Selection.weighings at member
      split at member
      · rename_i listed got
        exact ⟨⟨place, draw, answer, ticket, task, selection, met, listed, roused, selecting, got⟩,
          rfl, member⟩
      · cases member
    · cases member
  · cases member

/-- A choice by weight from certain candidates that goes by a certain table as it is. -/
structure GoesBy (found : List Instance) (table : List ω) (choice : Choice world) : Prop where
  candidates : avoiding (world.client.router.candidates choice.listed) choice.selection.failed =
    found
  unchanged : (choice.met.router.balance.ledger.openBook choice.selection.service).fittingTable
      world.now choice.selection.service found =
    (choice.met.router.balance.ledger.openBook choice.selection.service, some table)
  picked : ∀ last, drawEnd? table = some last →
    choice.picked? = drawn (choice.draw.point last) table found

/-- A choice by weight for the first attempt goes by the table in the book if that has an entry
for each candidate in the list at hand.

Nothing has failed, so all of the candidates are offered; the table fits, so it is used as it is.
-/
theorem goesBy (choice : Choice world) (aimed : world.Aimed)
    (weighted : choice.strategy = .weightedResponseTime)
    (first : choice.selection.failed = []) (found : List Instance) (nonempty : found ≠ [])
    (offered : (world.step choice.event).client.router.cachedCandidates choice.selection.service =
      some found)
    (table : List ω)
    (weights : (world.ledger.book choice.selection.service).weights = some table)
    (length : table.length = found.length) : choice.GoesBy found table := by
  have candidates : avoiding (world.client.router.candidates choice.listed)
      choice.selection.failed = found := by
    rw [first, avoiding_nil, choice.candidates_at_hand aimed weighted found offered]
  have own : choice.met.router.balance = world.client.router.balance := by
    rw [(choice.open_of_weighted weighted).2]
  have unchanged : (choice.met.router.balance.ledger.openBook
      choice.selection.service).fittingTable world.now choice.selection.service found =
        (choice.met.router.balance.ledger.openBook choice.selection.service, some table) := by
    unfold Ledger.fittingTable
    rw [Ledger.book_openBook, own]
    simp only [ledger] at weights
    simp only [weights, length, if_true]
  refine ⟨candidates, unchanged, ?_⟩
  intro last ends
  have some : found.isEmpty = false := by simpa using nonempty
  unfold picked?
  rw [candidates, weighted]
  simp only [Balance.choose, some, Balance.select, Balance.selectWeighted, unchanged, ends]
  rfl

end Choice

/-- What holds at each event of a run. -/
def Throughout (holds : (world : World ω) → Event ω → Prop) (world : World ω) :
    List (Event ω) → Prop
  | [] => True
  | event :: rest => holds world event ∧ (world.step event).Throughout holds rest

/-- An event that leaves the candidates of a service in the list at hand as they are, and at
which nobody computes a table for the service, except maybe in a choice by weight, and then for
a first attempt. -/
structure Keeps (service : String) (found : List Instance) (world : World ω) (event : Event ω) :
    Prop where
  listed : (world.step event).client.router.cachedCandidates service = some found
  others : (∀ place draw answer, event ≠ .answer place draw answer) →
    ∀ weighed, .computed service weighed ∉ world.weighings event
  firsts : ∀ choice : Choice world, choice.event = event → choice.selection.service = service →
    choice.strategy = .weightedResponseTime → choice.selection.failed = []

/-- Each choice by weight for a service at an event goes by a certain table as it is. -/
def GoBy (service : String) (found : List Instance) (table : List ω) (world : World ω)
    (event : Event ω) : Prop :=
  ∀ choice : Choice world, choice.event = event → choice.selection.service = service →
    choice.strategy = .weightedResponseTime → choice.GoesBy found table

/-- A world that a run has reached, in which the book of a service holds a certain table with
an entry for each of some candidates. -/
structure Holds (service : String) (found : List Instance) (table : List ω) (world : World ω) :
    Prop where
  aimed : world.Aimed
  follows : ∃ past, world.ledger.Follows past
  weights : (world.ledger.book service).weights = some table
  length : table.length = found.length

namespace Holds

variable {service : String} {found : List Instance} {table : List ω} {world : World ω}

/-- An event that leaves the candidates as they are computes no other table.

A choice would compute one only if that in the book had another length than its candidates, and
these are the ones that the table is for. -/
theorem quiet (holds : world.Holds service found table) (event : Event ω)
    (keeps : world.Keeps service found event) (weighed : List (Instance × ω)) :
    .computed service weighed ∉ world.weighings event := by
  cases event with
  | answer place draw answer =>
    intro member
    obtain ⟨choice, here, computed⟩ := Choice.exists_of_mem_weighings place draw answer _ member
    have weighted := Balance.weighted_of_mem _ _ _ _ _ _ computed
    rw [weighted] at computed
    obtain ⟨rfl, kept, inBook, differs⟩ := Balance.table_of_computed _ _ _ _ _ _ computed
    have offered := keeps.listed
    rw [← here] at offered
    obtain ⟨-, met⟩ := choice.open_of_weighted weighted
    rw [met] at inBook differs
    have same : kept = table := Option.some.inj (inBook.symm.trans holds.weights)
    refine differs ?_
    rw [same, holds.length, keeps.firsts choice here rfl weighted, avoiding_nil]
    exact congrArg List.length
      (choice.candidates_at_hand holds.aimed weighted found offered).symm
  | _ => exact keeps.others nofun weighed

/-- An event that keeps the candidates leaves the table. -/
theorem step (holds : world.Holds service found table) (event : Event ω)
    (keeps : world.Keeps service found event) :
    (world.step event).Holds service found table := by
  obtain ⟨past, follows⟩ := holds.follows
  have after := world.weighs_step event past follows
  refine ⟨world.aimed_step event holds.aimed, ⟨_, after⟩, ?_, holds.length⟩
  rw [after service, lastWeighed?_append, foldl_latest_of_quiet _ _ _ (holds.quiet event keeps),
    ← follows service, holds.weights]

/-- Each choice by weight at such an event goes by the table. -/
theorem goBy (holds : world.Holds service found table) (nonempty : found ≠ []) (event : Event ω)
    (keeps : world.Keeps service found event) : world.GoBy service found table event := by
  rintro choice rfl rfl weighted
  exact choice.goesBy holds.aimed weighted (keeps.firsts choice rfl rfl weighted) found nonempty
    keeps.listed table holds.weights holds.length

/-- As long as the candidates stay, the table stays, nobody computes another one, and each choice
by weight goes by it.

By induction on the events, each of which keeps the table in the book. -/
theorem run (holds : world.Holds service found table) (nonempty : found ≠ [])
    (events : List (Event ω)) (keeps : world.Throughout (Keeps service found) events) :
    (world.run events).Holds service found table ∧
      (∀ weighed, .computed service weighed ∉ world.observed weighings events) ∧
      world.Throughout (GoBy service found table) events := by
  induction events generalizing world with
  | nil => exact ⟨holds, fun _ => List.not_mem_nil, trivial⟩
  | cons event rest inductionHypothesis =>
    obtain ⟨now, further⟩ := keeps
    obtain ⟨after, quiet, goBy⟩ := inductionHypothesis (holds.step event now) further
    refine ⟨after, ?_, holds.goBy nonempty event now, goBy⟩
    intro weighed member
    rcases List.mem_append.mp member with here | later
    · exact holds.quiet event now weighed here
    · exact quiet weighed later

end Holds

/-- A round that finds candidates for a service with a book leaves a table with an entry for each
of them there.

The books follow what was weighed last, and after the round that is what the round has weighed for
the service. -/
theorem holds_of_round (client : Client ω) (now : Instant) (lifetime : Duration)
    (fresh : client.router.balance.ledger = .empty lifetime) (earlier : List (Event ω))
    (round : Event ω) (rounds : ((around client now).run earlier).Rounds round)
    (service : String) (found : List Instance)
    (tracked : service ∈ ((around client now).run earlier).ledger.services.keys)
    (offered : ((around client now).run earlier).client.router.cachedCandidates service =
      some found) (nonempty : found ≠ []) :
    ∃ weighed : List (Instance × ω), weighed.map Prod.fst = found ∧
      ((around client now).run (earlier ++ [round])).Holds service found (tableOf weighed) := by
  have aimed : (around client now).Aimed := fun _ _ member => nomatch member
  have follows := run_follows client now lifetime fresh (earlier ++ [round])
  have own := follows service
  rw [observed_append, observed, observed, List.append_nil, rounds, lastWeighed?_append] at own
  rcases Ledger.latest_round ((around client now).run earlier).now _
      ((around client now).run earlier).ledger _ service found offered nonempty
      (lastWeighed? service ((around client now).observed weighings earlier)) with
    ⟨absent, -⟩ | ⟨weighed, instances, latest⟩
  · exact absurd tracked absent
  · refine ⟨weighed, instances, aimed_run _ _ aimed, ⟨_, follows⟩, ?_, ?_⟩
    · rw [own]
      exact congrArg (Option.map tableOf) latest
    · rw [length_tableOf, ← instances, List.length_map]

/-- While the list at hand for a service is fresh, whoever asks for the candidates gets at once
those of that list, which are those that a round takes, and nobody asks the directory; so do
all selections that begin, for any filters and any state of the cache. A round computes a table
with an entry for each candidate for exactly the services that have a book and some candidates
in the list at hand, counts these, and leaves the tables of all others. In each run of a client
that begins with empty statistics, such a table stays after a round for as long as the
candidates in the list at hand stay, and each choice by weight for a first attempt goes by it,
so that none computes another one.

The first two parts are about one state and are read off the definitions of both ways to the
candidates. The third one is by induction over the events after the round: a table that fits
the candidates is never computed again while they stay. -/
theorem candidates_agree :
    (∀ (router : Router ω) (now : Instant) (ticket : Ticket) (service : String)
      (cached : CachedList),
      (router.cache.slot service).fresh? router.cache.ttl now = some cached →
      router.cachedCandidates service = some (router.candidates cached.instances) ∧
        (let after := (Lookup.get service).resume router.cache now ticket .turn
         after.2.await? = none ∧ after.2.result? = some cached.instances ∧
           ∀ other, after.1.peek other = router.cache.peek other) ∧
        ∀ (selection : Selection) (draw : Draw ω), selection.phase = .asked →
          selection.service = service →
          selection.listed? ⟨router, ⟨now, ticket, draw⟩, .turn⟩ = some cached.instances ∧
            (selection.resume router ⟨now, ticket, draw⟩ .turn).2.await? = none) ∧
      (∀ (router : Router ω) (now : Instant),
        let after := router.aggregate now
        let before := router.balance.ledger
        after.1.cache = router.cache ∧
          after.2 = before.services.keys.countP (Ledger.offered router.cachedCandidates) ∧
          ∀ service,
            (∀ found, service ∈ before.services.keys →
              router.cachedCandidates service = some found → found ≠ [] →
              ∃ weighed : List (Instance × ω), weighed.map Prod.fst = found ∧
                (after.1.balance.ledger.book service).weights = some (tableOf weighed)) ∧
              (service ∉ before.services.keys ∨
                  Ledger.offered router.cachedCandidates service = false →
                (after.1.balance.ledger.book service).weights =
                  (before.book service).weights)) ∧
      ∀ (client : Client ω) (now : Instant) (lifetime : Duration),
        client.router.balance.ledger = .empty lifetime →
        ∀ (earlier : List (Event ω)) (round : Event ω),
          ((around client now).run earlier).Rounds round →
          ∀ (service : String) (found : List Instance),
            service ∈ ((around client now).run earlier).ledger.services.keys →
            ((around client now).run earlier).client.router.cachedCandidates service =
              some found →
            found ≠ [] →
            let world := (around client now).run (earlier ++ [round])
            ∃ weighed : List (Instance × ω), weighed.map Prod.fst = found ∧
              (world.ledger.book service).weights = some (tableOf weighed) ∧
              ∀ later, world.Throughout (Keeps service found) later →
                ((world.run later).ledger.book service).weights = some (tableOf weighed) ∧
                  (∀ other, .computed service other ∉ world.observed weighings later) ∧
                  world.Throughout (GoBy service found (tableOf weighed)) later := by
  refine ⟨?_, ?_, ?_⟩
  · intro router now ticket service cached fresh
    obtain ⟨there, answered⟩ :=
      Lookup.answered_of_fresh router.cache now ticket service cached fresh
    refine ⟨?_, answered, ?_⟩
    · rw [Router.cachedCandidates, there, Option.map_some]
    · rintro selection draw begins rfl
      exact selection.listed_of_fresh begins router ⟨now, ticket, draw⟩ cached fresh
  · intro router now
    refine ⟨rfl, ?_, ?_⟩
    · exact Ledger.aggregateAll_snd _ now router.cachedCandidates
    · exact Ledger.weights_aggregateAll _ now router.cachedCandidates
  · intro client now lifetime fresh earlier round rounds service found tracked offered nonempty
    obtain ⟨weighed, instances, holds⟩ := holds_of_round client now lifetime fresh earlier round
      rounds service found tracked offered nonempty
    refine ⟨weighed, instances, holds.weights, ?_⟩
    intro later keeps
    obtain ⟨after, quiet, goBy⟩ := holds.run nonempty later keeps
    exact ⟨after.weights, quiet, goBy⟩

/-- Two calls, one to each of two instances. -/
def bothServed : List (Event Int) := turnedRound.take 10

/-- A caller that wants an instance by the configured strategy. -/
def nextCaller : List (Event Int) :=
  [.request (.choose "orders" none []), .answer 2 frontDraw .turn]

/-- The caller leaves the candidates as they are: it comes and is given the list at hand, and it
has not failed before. -/
theorem keeps_nextCaller :
    ((around byWeight 0).run (bothServed ++ [.adjust .aggregate])).Throughout
      (Keeps "orders" firstThenSecond) nextCaller := by
  refine ⟨⟨by rfl, ?_, ?_⟩, ⟨by rfl, ?_, ?_⟩, trivial⟩
  · exact fun _ _ => List.not_mem_nil
  · exact fun choice here => nomatch here
  · exact fun other => absurd rfl (other 2 frontDraw .turn)
  · rintro ⟨place, draw, answer, ticket, task, selection, met, listed, roused, selecting, got⟩
      here - -
    cases here
    have caller : (ticket, task) = (2, .choosing (.first "orders")) :=
      Option.some.inj (roused.symm.trans (by rfl))
    cases caller
    cases selecting
    rfl

/-- The choice of that caller. -/
def nextChoice :
    Choice (((around byWeight 0).run (bothServed ++ [.adjust .aggregate])).step
      (.request (.choose "orders" none []))) where
  place := 2
  draw := frontDraw
  answer := .turn
  ticket := 2
  task := .choosing (.first "orders")
  selection := .first "orders"
  met := ⟨_, _, .turn⟩
  listed := firstThenSecond
  roused := rfl
  selecting := rfl
  got := rfl

/-- The list is at hand for a caller, a round serves the one service with a book, and the
caller after it goes by the table of the round. -/
theorem candidates_agree_nextCaller :
    let router := ((around byWeight 0).run bothServed).client.router
    (router.cache.slot "orders").fresh? router.cache.ttl 40000000 =
        some ⟨firstThenSecond, 0⟩ ∧
      (Selection.first "orders").listed? ⟨router, ⟨40000000, 2, frontDraw⟩, .turn⟩ =
        some firstThenSecond ∧
      router.cachedCandidates "orders" = some firstThenSecond ∧
      router.balance.ledger.services.keys = ["orders"] ∧ (router.aggregate 40000000).2 = 1 ∧
      nextChoice.GoesBy firstThenSecond [30, 40] := by
  intro router
  obtain ⟨atHand, counts, rounds⟩ := candidates_agree (ω := Int)
  have fresh : (router.cache.slot "orders").fresh? router.cache.ttl 40000000 =
      some ⟨firstThenSecond, 0⟩ := by rfl
  obtain ⟨offered, -, begins⟩ := atHand router 40000000 2 "orders" ⟨firstThenSecond, 0⟩ fresh
  have passed : router.candidates firstThenSecond = firstThenSecond := by rfl
  rw [passed] at offered
  have keys : router.balance.ledger.services.keys = ["orders"] := by rfl
  obtain ⟨-, served, -⟩ := counts router 40000000
  have one : (router.aggregate 40000000).2 = 1 := by
    rw [served, keys, List.countP_singleton, Ledger.offered_of_some _ _ _ offered (by decide),
      if_pos rfl]
  have tracked : "orders" ∈ router.balance.ledger.services.keys :=
    keys ▸ List.mem_singleton_self _
  obtain ⟨weighed, -, table, kept⟩ := rounds byWeight 0 (.ofSeconds 3600) rfl bothServed
    (.adjust .aggregate) rfl "orders" firstThenSecond tracked offered (by decide)
  have computed :
      (((around byWeight 0).run (bothServed ++ [.adjust .aggregate])).ledger.book
        "orders").weights = some [30, 40] := by rfl
  have same : tableOf weighed = [30, 40] := Option.some.inj (table.symm.trans computed)
  rw [same] at kept
  obtain ⟨-, -, -, ⟨goBy, -⟩⟩ := kept nextCaller keeps_nextCaller
  exact ⟨fresh, (begins (.first "orders") frontDraw rfl rfl).1, offered, keys, one,
    goBy nextChoice rfl rfl rfl⟩

end World

end CallRouting
