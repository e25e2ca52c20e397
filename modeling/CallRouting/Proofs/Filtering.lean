import CallRouting.Proofs.Accounts
import CallRouting.Proofs.Candidates
import CallRouting.Proofs.Choices
import Mathlib.Data.List.Induction

/-!
# What the filters let through

Filters come to a client one by one and stay. A list passes through those that are there
at the moment at which an instance is chosen from it, in the order in which they came.
Whatever strategy of the library chooses, by whatever draw and after whatever failures,
it stays inside what has passed. Metadata rules keep of a list what all of them admit, so
their order does not matter, and no task is bound to an instance that one of them
rejects.
-/

namespace CallRouting

namespace MetadataRule

/-- What a rule asks of an instance: the key is there, with the wanted value if one is
given. -/
def Admits (rule : MetadataRule) (x : Instance) : Prop :=
  ∃ value, x.metadata.find? rule.key = some value ∧
    ∀ wanted, rule.value = some wanted → value = wanted

/-- The check of a rule tells whether the rule admits an instance. -/
theorem admits_iff (rule : MetadataRule) (x : Instance) :
    rule.admits x = true ↔ rule.Admits x := by
  obtain ⟨key, wanted⟩ := rule
  cases wanted with
  | none => exact (admits_present key x).trans (by simp [Admits, Option.isSome_iff_exists])
  | some value => exact (admits_equals key value x).trans (by simp [Admits])

instance (rule : MetadataRule) (x : Instance) : Decidable (rule.Admits x) :=
  decidable_of_iff _ (rule.admits_iff x)

/-- What rules keep of a list, in whatever order they stand: what all of them admit. -/
theorem applyFilters_perm (rules order : List MetadataRule) (reordered : order.Perm rules)
    (instances : List Instance) :
    applyFilters (order.map filter) instances =
      instances.filter fun x => ∀ rule ∈ rules, rule.Admits x := by
  rw [applyFilters_rules]
  congr 1
  funext x
  rw [Bool.eq_iff_iff, List.all_eq_true, decide_eq_true_iff]
  constructor
  · intro admitted rule member
    exact (rule.admits_iff x).mp (admitted rule (reordered.mem_iff.mpr member))
  · intro admitted rule member
    exact (rule.admits_iff x).mpr (admitted rule (reordered.mem_iff.mp member))

end MetadataRule

variable {ω : Type}

section Choice

variable [Weight ω]

/-- A strategy of the library gives nothing but members, also by a draw that does not keep
to what it is asked for. -/
theorem Balance.mem_of_choose (balance : Balance ω) (strategy : Strategy) (draw : Draw ω)
    (now : Instant) (service : String) (candidates : List Instance) (builtIn : strategy.BuiltIn)
    (x : Instance) (chosen : (balance.choose strategy draw now service candidates).2 = some x) :
    x ∈ candidates := by
  by_cases random : strategy = .random
  · subst random
    unfold choose select at chosen
    dsimp only at chosen
    split at chosen
    · cases chosen
    · exact List.mem_of_getElem? chosen
  · by_cases empty : candidates = []
    · subst empty
      cases chosen
    · obtain ⟨member, inside, chosen'⟩ := balance.choose_mem strategy draw now service candidates
        empty builtIn (fun same => absurd same random)
      exact Option.some.inj (chosen'.symm.trans chosen) ▸ inside

end Choice

/-- The filter that an event adds. -/
def Event.filter? : Event ω → Option Filter
  | .adjust (.addFilter filter) => some filter
  | _ => none

namespace World

variable [Weight ω]

/-- An event adds its filter behind the others, if it has one. -/
theorem filters_step (world : World ω) (event : Event ω) :
    (world.step event).client.router.filters =
      world.client.router.filters ++ event.filter?.toList := by
  have same (calm : ∀ adjustment, event ≠ .adjust adjustment) :
      (world.step event).client.router.filters = world.client.router.filters ++ [] := by
    obtain ⟨cache, balance, rules⟩ := world.sameRules_step event calm
    rw [rules, List.append_nil]
  cases event with
  | adjust adjustment =>
    cases adjustment with
    | addFilter filter => rfl
    | _ => exact (List.append_nil _).symm
  | _ => exact same nofun

/-- The filters after a run are those from before and then the added ones, in order. -/
theorem filters_run (world : World ω) (events : List (Event ω)) :
    (world.run events).client.router.filters =
      world.client.router.filters ++ events.filterMap Event.filter? := by
  induction events using List.reverseRecOn with
  | nil => exact (List.append_nil _).symm
  | append_singleton events event inductionHypothesis =>
    rw [run_append, List.filterMap_append, ← List.append_assoc, ← inductionHypothesis]
    refine (filters_step _ event).trans (congrArg _ ?_)
    cases added : event.filter? <;> simp [added]

/-- A choice in a world: the task that goes on at an answer, its selection with what that
meets, and the list that the selection gets. -/
structure Choice (world : World ω) where
  place : Nat
  draw : Draw ω
  answer : Answer
  ticket : Ticket
  task : Task
  selection : Selection
  met : Encounter ω
  listed : List Instance
  roused : world.roused? place answer = some (ticket, task)
  selecting : task.selecting? ⟨world.client.router, world.moment ticket draw, answer⟩ =
    some (selection, met)
  got : selection.listed? met = some listed

namespace Choice

variable {world : World ω}

/-- The event at which the choice is made. -/
def event (choice : Choice world) : Event ω := .answer choice.place choice.draw choice.answer

/-- The strategy by which it is made. -/
def strategy (choice : Choice world) : Strategy := choice.selection.settled choice.met.router

/-- What the strategy gives for the candidates in the list. -/
def picked? (choice : Choice world) : Option Instance :=
  (choice.met.router.balance.choose choice.strategy choice.draw world.now choice.selection.service
    (avoiding (world.client.router.candidates choice.listed) choice.selection.failed)).2

/-- What a strategy of the library picks has passed through the filters. -/
theorem mem_of_picked? (choice : Choice world) (builtIn : choice.strategy.BuiltIn) (x : Instance)
    (picked : choice.picked? = some x) :
    x ∈ applyFilters world.client.router.filters choice.listed :=
  mem_of_mem_avoiding _ choice.selection.failed x
    (choice.met.router.balance.mem_of_choose _ _ _ _ _ builtIn x picked)

end Choice

/-- A task that is bound to an instance was bound to it by a choice in the run, and has stood as
that choice left it ever since.

By induction on the run. A task that stands as it did had its choice earlier; a new one is bound
to nothing; and one that has gone on is bound by the choice that it has made just now. -/
theorem exists_choice (client : Client ω) (now : Instant) (events : List (Event ω))
    (ticket : Ticket) (task : Task)
    (member : (ticket, task) ∈ ((around client now).run events).tasks) (x : Instance)
    (bound : task.bound? = some x) :
    ∃ earlier later, ∃ choice : Choice ((around client now).run earlier),
      events = earlier ++ choice.event :: later ∧ choice.ticket = ticket ∧
        choice.picked? = some x ∧
        ∀ since, since <+: later →
          (ticket, task) ∈ ((around client now).run (earlier ++ choice.event :: since)).tasks := by
  induction events using List.reverseRecOn generalizing task with
  | nil => cases member
  | append_singleton events event inductionHypothesis =>
    have final := member
    rw [run_append] at member
    rcases mem_tasks_step _ event ticket task member with
      there | ⟨request, _, rfl⟩ | ⟨place, draw, answer, before, rfl, roused, rfl⟩
    · obtain ⟨earlier, later, choice, split, same, picked, stood⟩ :=
        inductionHypothesis task there bound
      have whole : events ++ [event] = earlier ++ choice.event :: (later ++ [event]) := by
        simp [split]
      refine ⟨earlier, later ++ [event], choice, whole, same, picked, ?_⟩
      intro since upTo
      rcases List.prefix_concat_iff.mp upTo with rfl | upTo
      · exact whole ▸ final
      · exact stood since upTo
    · rw [request.bound?_task] at bound
      cases bound
    · obtain ⟨_, await, waits, fits, _⟩ := roused?_eq_some _ place answer ticket before roused
      obtain ⟨selection, met, listed, selecting, ⟨moment, ledger, router⟩, got, chosen⟩ :=
        before.resume_bound _ _ answer await waits fits x bound
      have candidates :
          met.router.candidates = ((around client now).run events).client.router.candidates := by
        rw [router]
        rfl
      rw [moment, candidates] at chosen
      let choice : Choice ((around client now).run events) :=
        ⟨place, draw, answer, ticket, before, selection, met, listed, roused, selecting, got⟩
      refine ⟨events, [], choice, rfl, rfl, chosen, ?_⟩
      intro since upTo
      rw [List.prefix_nil.mp upTo]
      exact final

/-- In each run of any client, each task that is bound to an instance was bound to it by a
choice in the run, the one of this very attempt: the task has stood as that choice left it
ever since. If a strategy of the library chose, the instance is among what the filters of
that moment leave of the list that the choice got: those from before the run and those added
since, in order. If they all are metadata rules, what they leave is the part of the list, in
its order, that every rule admits, in whatever order the rules were added; and the instance
is one that all of them admit.

The choice is found by going back to the event that bound the task. The filters of that moment
are known from the run up to there, and the strategies of the library pick from what they are
given. -/
theorem bound_within_filters (client : Client ω) (now : Instant) (events : List (Event ω))
    (ticket : Ticket) (task : Task)
    (member : (ticket, task) ∈ ((around client now).run events).tasks) (x : Instance)
    (bound : task.bound? = some x) :
    ∃ earlier later, ∃ choice : Choice ((around client now).run earlier),
      events = earlier ++ choice.event :: later ∧ choice.ticket = ticket ∧
        choice.picked? = some x ∧
        (∀ since, since <+: later →
          (ticket, task) ∈
            ((around client now).run (earlier ++ choice.event :: since)).tasks) ∧
        let chain := client.router.filters ++ earlier.filterMap Event.filter?
        (choice.strategy.BuiltIn → x ∈ applyFilters chain choice.listed) ∧
          ∀ rules : List MetadataRule, chain = rules.map MetadataRule.filter →
            (∀ order : List MetadataRule, order.Perm rules →
              applyFilters (order.map MetadataRule.filter) choice.listed =
                choice.listed.filter fun y => ∀ rule ∈ rules, rule.Admits y) ∧
            (choice.strategy.BuiltIn → x ∈ choice.listed ∧ ∀ rule ∈ rules, rule.Admits x) := by
  obtain ⟨earlier, later, choice, split, same, picked, stood⟩ :=
    exists_choice client now events ticket task member x bound
  refine ⟨earlier, later, choice, split, same, picked, stood, ?_⟩
  intro chain
  have filters : ((around client now).run earlier).client.router.filters = chain :=
    filters_run _ earlier
  have passed (builtIn : choice.strategy.BuiltIn) : x ∈ applyFilters chain choice.listed :=
    filters ▸ choice.mem_of_picked? builtIn x picked
  refine ⟨passed, ?_⟩
  intro rules metadata
  have kept (order : List MetadataRule) (reordered : order.Perm rules) :=
    MetadataRule.applyFilters_perm rules order reordered choice.listed
  refine ⟨kept, ?_⟩
  intro builtIn
  have left := passed builtIn
  rw [metadata, kept rules (.refl rules), List.mem_filter, decide_eq_true_iff] at left
  exact left

/-- An instance in a zone. -/
def inZone (ip zone : String) : Instance :=
  { Instance.ofAddress "orders" ip 80 with metadata := .ofList [("zone", zone)] }

/-- A client that holds a fresh list of two instances in different zones. -/
def twoZones : Client Float :=
  { lone with router := .plain "orders" [inZone "10.0.0.1" "a", inZone "10.0.0.2" "b"] 0 }

/-- A call after a rule about the zone was added. -/
def zoneCall : List (Event Float) :=
  [.adjust (.addFilter (MetadataRule.equals "zone" "b").filter),
    .request (.invoke "orders" (.named "once")), .answer 0 ⟨fun _ => 0, id⟩ .turn]

/-- The call goes to the second instance, the only one that the rule lets through. -/
theorem bound_within_filters_zoneCall :
    ∃ ticket task, (ticket, task) ∈ ((around twoZones 0).run zoneCall).tasks ∧
      task.bound? = some (inZone "10.0.0.2" "b") ∧
      ∃ earlier later, ∃ choice : Choice ((around twoZones 0).run earlier),
        zoneCall = earlier ++ choice.event :: later ∧ choice.ticket = ticket ∧
          choice.picked? = some (inZone "10.0.0.2" "b") := by
  have bound : ((around twoZones 0).run zoneCall).tasks[0]?.bind (·.2.bound?) =
      some (inZone "10.0.0.2" "b") := by rfl
  obtain ⟨⟨ticket, task⟩, found, target⟩ := Option.bind_eq_some_iff.mp bound
  have member : (ticket, task) ∈ ((around twoZones 0).run zoneCall).tasks :=
    List.mem_of_getElem? found
  obtain ⟨earlier, later, choice, split, same, picked, _⟩ :=
    bound_within_filters twoZones 0 zoneCall ticket task member _ target
  exact ⟨ticket, task, member, target, earlier, later, choice, split, same, picked⟩

end World

end CallRouting
