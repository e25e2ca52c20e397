import CallRouting.Proofs.CommonCandidates
import CallRouting.Proofs.ListsAtHand

/-!
# Whoever gets a list

A caller gets a list of a service when a lookup of its own is answered, or when the one for
the choice of an instance is: that of a caller who wants one, or of an attempt, the first or a
further one. If no load of the service fails and its list is never forgotten, a list is at
hand from then on, whichever of these gets was the first.
-/

namespace CallRouting

variable {ω : Type}

/-- A lookup that is answered has left a list at hand, unless its load fails. A task that
waits for a load of somebody else relies on that load: it has completed, for the waiting task
notes how many loads had completed when it came. -/
theorem Lookup.at_hand_of_result (lookup : Lookup) (cache : Cache) (now : Instant)
    (ticket : Ticket) (answer : Answer) (succeeds : ∀ fault, answer ≠ .listing (.error fault))
    (unserved : cache.Unserved lookup.service (some lookup = some ·)) (listed : List Instance)
    (result : (lookup.resume cache now ticket answer).2.result? = some listed) :
    ((lookup.resume cache now ticket answer).1.peek lookup.service).isSome = true := by
  have after := unserved.resume now ticket answer succeeds
  cases found : (lookup.resume cache now ticket answer).1.peek lookup.service with
  | some cached => rfl
  | none =>
    -- Without a list nobody has seen a load, least of all one who has got a list.
    have blank := (after found).2 _ rfl (lookup.service_resume cache now ticket answer)
    unfold Lookup.Blank at blank
    unfold Lookup.result? at result
    split at result
    · rename_i instances answered
      rw [answered] at blank
      exact blank.elim
    · cases result

/-- A selection that gets a list has left one at hand. -/
theorem Selection.at_hand_of_listed [Weight ω] (selection : Selection) (aimed : selection.Aimed)
    (met : Encounter ω) (succeeds : ∀ fault, met.answer ≠ .listing (.error fault))
    (unserved : met.router.cache.Unserved selection.service (selection.lookup? = some ·))
    (listed : List Instance) (got : selection.listed? met = some listed) :
    ((selection.resume met.router met.moment met.answer).1.cache.peek
      selection.service).isSome = true := by
  have goes := selection.goesOn met
  rw [got] at goes
  generalize selection.resume met.router met.moment met.answer = after at goes ⊢
  cases goes with
  | chooses cache lookup looked =>
    -- The lookup was under way, or it begins now.
    rcases selection.exists_lookup (ω := ω) met.answer
      (fun current => current.service = selection.service ∧
        (selection.lookup? = some current ∨ current.Blank)) ⟨rfl, .inr trivial⟩
      (fun strategy current looking => ⟨aimed strategy current looking, .inl (by
        rw [lookup?, looking])⟩) with nothing | ⟨current, ⟨own, known⟩, -, resumes⟩
    · rw [nothing] at looked
      cases looked
    · have resumed := Option.some.inj ((resumes met.router met.moment).symm.trans looked)
      have result : lookup.result? = some listed := by
        rw [listed?, looked] at got
        exact got
      have ours : met.router.cache.Unserved current.service (some current = some ·) := by
        rw [own]
        refine unserved.mono rfl rfl ?_
        rintro _ ⟨⟩ -
        exact known
      have left := current.at_hand_of_result met.router.cache met.moment.now met.moment.ticket
        met.answer succeeds ours listed
      rw [resumed, own] at left
      exact left result

/-- The service of which a task gets a list when it goes on, if it gets one. -/
def Task.gets? (task : Task) (encounter : Encounter ω) : Option String :=
  match task with
  | .looking lookup =>
    let moment := encounter.moment
    let after := lookup.resume encounter.router.cache moment.now moment.ticket encounter.answer
    after.2.result?.map fun _ => lookup.service
  | _ => do
    let (selection, met) ← task.selecting? encounter
    (selection.listed? met).map fun _ => selection.service

/-- The lists that an invocation leaves are those that its selection leaves, if one goes on:
to close the statistics of an attempt, or to open others, touches no list. -/
theorem Invocation.cache_resume_of_selecting? [Weight ω] (invocation : Invocation)
    (encounter : Encounter ω) (selection : Selection) (met : Encounter ω)
    (selecting : invocation.selecting? encounter = some (selection, met)) :
    met.router.cache = encounter.router.cache ∧
      (invocation.resume encounter.router encounter.moment encounter.answer).1.cache =
        (selection.resume met.router met.moment met.answer).1.cache := by
  have goes := invocation.goesOn encounter
  rw [selecting] at goes
  generalize invocation.resume encounter.router encounter.moment encounter.answer = after
    at goes ⊢
  cases goes with
  | selects next _ _ closing =>
    constructor
    · generalize met.router = router at closing ⊢
      cases closing <;> rfl
    · exact (next.lookup?_engage _ met.moment _).1

/-- A task that gets a list of a service has left one at hand.

An invocation gets it by the selection that was under way, or by the next one, which begins in the
same step. In both cases the cache is left as that selection leaves it. -/
theorem Task.at_hand_of_gets? [Weight ω] (task : Task) (client : Client ω) (moment : Moment ω)
    (answer : Answer) (succeeds : ∀ fault, answer ≠ .listing (.error fault))
    (aimed : ∀ selection, task.selection? = some selection → selection.Aimed) (service : String)
    (unserved : client.router.cache.Unserved service (task.lookup? = some ·))
    (got : task.gets? ⟨client.router, moment, answer⟩ = some service) :
    ((task.resume client moment answer).1.router.cache.peek service).isSome = true := by
  cases task with
  | looking lookup =>
    obtain ⟨listed, result, rfl⟩ := Option.map_eq_some_iff.mp got
    exact lookup.at_hand_of_result client.router.cache moment.now moment.ticket answer succeeds
      unserved listed result
  | choosing selection =>
    obtain ⟨listed, result, rfl⟩ := Option.map_eq_some_iff.mp got
    exact selection.at_hand_of_listed (aimed selection rfl) ⟨client.router, moment, answer⟩
      succeeds unserved listed result
  | invoking invocation =>
    obtain ⟨⟨selection, met⟩, selecting, chosen⟩ := Option.bind_eq_some_iff.mp got
    obtain ⟨listed, result, rfl⟩ := Option.map_eq_some_iff.mp chosen
    obtain ⟨same, left⟩ := invocation.cache_resume_of_selecting? _ selection met selecting
    have goes : ((selection.resume met.router met.moment met.answer).1.cache.peek
        selection.service).isSome = true := by
      rcases invocation.selecting?_eq _ selection met selecting with
        ⟨phase, rfl⟩ | ⟨further, -, rfl, -, -, turn⟩
      · obtain ⟨service, policy, ended, failed, current⟩ := invocation
        cases phase
        exact selection.at_hand_of_listed (aimed selection rfl) _ succeeds unserved listed result
      · refine further.retrySelection.at_hand_of_listed (fun _ _ phase => nomatch phase) met ?_ ?_
          listed result
        · rw [turn]
          exact nofun
        · rw [same]
          exact unserved.mono rfl rfl fun _ about => nomatch about
    simp only [resume]
    rw [left]
    exact goes
  | _ => cases got

namespace World

/-- The services of which somebody gets a list at an event. -/
def gets (world : World ω) : Event ω → List String
  | .answer place draw answer =>
    match world.roused? place answer with
    | none => []
    | some (ticket, task) =>
      (task.gets? ⟨world.client.router, world.moment ticket draw, answer⟩).toList
  | .pass _ | .request _ | .leave _ | .work .. | .dismiss | .adjust _ => []

variable [Weight ω] {world : World ω} {service : String} {ttl : Duration}
  {written : List (String × CachedList)}

/-- Whoever gets a list of the service leaves one at hand. -/
theorem Supplied.at_hand_of_gets (supplied : world.Supplied service ttl written)
    (aimed : world.Aimed) (event : Event ω) (quiet : event.Quiet service)
    (got : service ∈ world.gets event) :
    ((world.step event).client.router.cache.peek service).isSome = true := by
  cases event with
  | answer place draw answer =>
    simp only [gets] at got
    split at got
    · cases got
    · rename_i ticket task roused
      obtain ⟨found, -⟩ := world.roused?_eq_some place answer ticket task roused
      have among := List.mem_of_getElem? found
      have unserved : world.client.router.cache.Unserved service (task.lookup? = some ·) := by
        refine supplied.unserved.mono rfl rfl fun lookup about _ => .inl ⟨ticket, ?_⟩
        exact List.mem_append_left _
          (List.mem_map.mpr ⟨(ticket, task), among, Prod.ext rfl about⟩)
      simp only [World.step, roused]
      exact task.at_hand_of_gets? world.client (world.moment ticket draw) answer
        (fun fault same => quiet.succeeds fault (congrArg some same)) (aimed ticket task among)
        service unserved (Option.mem_toList.mp got)
  | _ => cases got

/-- A list is at hand after a run in which somebody has got one. The get itself has left a list
at hand, and from then on that one stays or another one takes its place. -/
theorem at_hand_of_gets (client : Client ω) (untouched : client.Untouched ttl) (start : Instant)
    (events : List (Event ω)) (quiet : ∀ event ∈ events, event.Quiet service)
    (got : service ∈ (around client start).observed gets events) :
    (((around client start).run events).client.router.cache.peek service).isSome = true := by
  obtain ⟨earlier, event, later, rfl, now⟩ := exists_of_mem_observed gets _ events service got
  have supplied := (Supplied.around client untouched start).run earlier fun other member =>
    quiet other (List.mem_append_left _ member)
  have aimed : ((around client start).run earlier).Aimed :=
    aimed_run _ earlier fun _ _ member => nomatch member
  have left := supplied.at_hand_of_gets aimed event
    (quiet event (List.mem_append_right _ List.mem_cons_self)) now
  rw [run_append]
  exact at_hand_run _ (supplied.linesUp.step event) service later
    (fun other member => quiet other (List.mem_append_right _ (List.mem_cons_of_mem _ member)))
    left

end World

end CallRouting
