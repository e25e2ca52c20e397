import CallRouting.Proofs.ServiceStates
import CallRouting.Proofs.Filtering

/-!
# Lists that keep to their names

A directory may be asked for one service and list instances that carry the name of another
one. If it never does that, and no filter brings in such instances either, then each list
of the cache keeps to the name under which it is kept, whoever looks it up or loads it. Who
loads all lists takes none that is at hand.
-/

namespace CallRouting

/-- All instances of a list carry a name. -/
def Named (service : String) (instances : List Instance) : Prop :=
  ∀ x ∈ instances, x.service = service

/-- An empty list keeps to any name. -/
theorem Named.nil (service : String) : Named service [] := fun _ member => (nomatch member)

/-- A directory's list, if an answer is one, keeps to a name. -/
def Answer.Named (service : String) (answer : Answer) : Prop :=
  ∀ instances, answer = .listing (.ok instances) → CallRouting.Named service instances

/-- An answer that keeps to the name of the list for which somebody waits. -/
def Answer.Keeps (answer : Answer) (await? : Option Await) : Prop :=
  ∀ service, await? = some (.listing service) → answer.Named service

/-- Only a directory's list can bring in other names. -/
theorem Answer.Keeps.turn (await? : Option Await) : Answer.turn.Keeps await? := by
  intro service _ instances given
  cases given

/-- Whether an answer keeps to the name can be decided: the answer is one to look at, and so is
what is waited for. -/
instance Answer.Keeps.decidable (answer : Answer) (await? : Option Await) :
    Decidable (answer.Keeps await?) :=
  match answer, await? with
  | .listing (.ok instances), some (.listing service) =>
    decidable_of_iff (∀ x ∈ instances, x.service = service)
      ⟨fun named other waits found given => by cases waits; cases given; exact named,
        fun keeps => keeps service rfl instances rfl⟩
  | .listing (.ok _), none | .listing (.ok _), some .turn | .listing (.ok _), some (.lock _)
  | .listing (.ok _), some (.call _) | .listing (.ok _), some .work
  | .listing (.ok _), some (.time _) => .isTrue fun _ waits => (nomatch waits)
  | .listing (.error _), _ | .turn, _ | .lock, _ | .call _, _ | .work _, _ | .time, _ =>
    .isTrue fun _ _ _ given => (nomatch given)

/-- Every list keeps to the name under which it is kept. -/
def Cache.Named (cache : Cache) : Prop :=
  ∀ service cached, cache.peek service = some cached → CallRouting.Named service cached.instances

namespace Cache.Named

variable {cache : Cache}

/-- What is at hand keeps to the name, also if there is no list. -/
theorem instances (named : cache.Named) (service : String) :
    CallRouting.Named service (cache.slot service).instances := by
  unfold CacheSlot.instances
  cases found : (cache.slot service).cached with
  | none => exact .nil service
  | some cached => exact named service cached found

/-- A cache with the same lists at hand keeps to the names too. -/
theorem of_peek {after : Cache} (named : cache.Named)
    (same : ∀ service, after.peek service = cache.peek service) : after.Named :=
  fun service cached found => named service cached (same service ▸ found)

/-- A cache that has forgotten some list still keeps to the names. -/
theorem invalidate (named : cache.Named) (service : String) : (cache.invalidate service).Named := by
  intro other cached found
  rw [peek_invalidate] at found
  split at found
  · cases found
  · exact named other cached found

end Cache.Named

namespace Lookup

/-- The list that a lookup has got keeps to the name of its service. -/
def Named (lookup : Lookup) : Prop :=
  ∀ instances, lookup.result? = some instances → CallRouting.Named lookup.service instances

variable (lookup : Lookup) (cache : Cache) (now : Instant) (ticket : Ticket) (answer : Answer)

/-- Lists that keep to their names still do after a lookup has gone on, if the answer does.

A list changes only where the directory answers, and that answer is for the service of the lookup.
-/
theorem cacheNamed_resume (named : cache.Named)
    (keeps : answer.Keeps lookup.await?) :
    (lookup.resume cache now ticket answer).1.Named := by
  obtain ⟨service, phase⟩ := lookup
  cases phase with
  | asked reload =>
    cases answer with
    | turn => exact named.of_peek fun other => cache.peek_come now ticket service other reload
    | _ => exact named
  | queued seen =>
    cases answer with
    | lock => exact named.of_peek fun other => cache.peek_enter service other seen
    | _ => exact named
  | loading =>
    cases answer with
    | listing listing =>
      cases listing with
      | error fault =>
        exact named.of_peek fun other => cache.peek_complete_error now service other fault
      | ok instances =>
        intro other cached found
        simp only [resume, Cache.peek_complete_ok] at found
        split at found
        · rename_i same
          subst same
          exact Option.some.inj found ▸ keeps service rfl instances rfl
        · exact named other cached found
    | _ => exact named
  | answered instances => exact named

/-- The list that a lookup gets from such a cache keeps to the name.

The list is the one at hand, which keeps to the name, or the one that the directory has just
given. -/
theorem named_resume (named : cache.Named) (own : lookup.Named)
    (keeps : answer.Keeps lookup.await?) :
    (lookup.resume cache now ticket answer).2.Named := by
  obtain ⟨service, phase⟩ := lookup
  cases phase with
  | asked reload =>
    cases answer with
    | turn =>
      intro instances result
      simp only [resume, Cache.come] at result ⊢
      split at result
      · rename_i cached found
        cases result
        split at found
        · cases found
        · exact named service cached (Option.filter_eq_some_iff.mp found).1
      · cases result
    | _ => exact own
  | queued seen =>
    cases answer with
    | lock =>
      intro instances result
      simp only [resume, Cache.enter] at result ⊢
      split at result
      · cases result
        exact named.instances service
      · cases result
    | _ => exact own
  | loading =>
    cases answer with
    | listing listing =>
      intro instances result
      cases result
      cases listing with
      | error fault => exact named.instances service
      | ok instances => exact keeps service rfl instances rfl
    | _ => exact own
  | answered instances => exact own

/-- A caller who goes away brings in no list. -/
theorem cacheNamed_abandon (named : cache.Named) : (lookup.abandon cache ticket).Named := by
  unfold abandon
  split
  · exact named.of_peek fun other => cache.peek_leave ticket lookup.service other
  · exact named.of_peek fun other => cache.peek_leave ticket lookup.service other
  · exact named
  · exact named

/-- A lookup that loads in any case: it does not care what has been loaded since it came. -/
def Reloads (lookup : Lookup) : Prop :=
  lookup.phase ≠ .asked false ∧ ∀ seen, lookup.phase ≠ .queued (some seen)

/-- A refresh loads in any case. -/
theorem reloads_refresh (service : String) : (refresh service).Reloads :=
  ⟨fun phase => (nomatch phase), fun _ phase => (nomatch phase)⟩

/-- A lookup that loads in any case still does so when it goes on. -/
theorem reloads_resume (reloads : lookup.Reloads) :
    (lookup.resume cache now ticket answer).2.Reloads := by
  obtain ⟨service, phase⟩ := lookup
  obtain ⟨asked, queued⟩ := reloads
  cases phase with
  | asked reload =>
    cases reload with
    | false => exact absurd rfl asked
    | true => cases answer <;> exact ⟨fun phase => (nomatch phase), fun _ phase => (nomatch phase)⟩
  | queued seen =>
    cases seen with
    | some count => exact absurd rfl (queued count)
    | none => cases answer <;> exact ⟨fun phase => (nomatch phase), fun _ phase => (nomatch phase)⟩
  | loading => cases answer <;> exact ⟨fun phase => (nomatch phase), fun _ phase => (nomatch phase)⟩
  | answered instances => exact ⟨asked, queued⟩

end Lookup

namespace Sweep

variable (cache : Cache) (now : Instant) (ticket : Ticket)

/-- A sweep that turns to its next list has only asked for it. -/
theorem cacheNamed_advance (named : cache.Named) (services : List String) :
    (advance cache now ticket services).1.Named := by
  cases services with
  | nil => exact named
  | cons service remaining =>
    exact (Lookup.refresh service).cacheNamed_resume cache now ticket .turn named (.turn _)

/-- A sweep that goes on puts in the list for which it waits, if any; the next reload that it may
begin puts in none yet. -/
theorem cacheNamed_resume (sweep : Sweep) (answer : Answer) (named : cache.Named)
    (keeps : answer.Keeps sweep.await?) :
    (sweep.resume cache now ticket answer).1.Named := by
  cases sweep with
  | asked =>
    cases answer with
    | turn => exact cacheNamed_advance cache now ticket named cache.services
    | _ => exact named
  | running current remaining =>
    have next := current.cacheNamed_resume cache now ticket answer named keeps
    unfold resume
    dsimp only
    split
    · exact cacheNamed_advance _ now ticket next remaining
    · exact next
  | done => exact named

/-- A sweep that is given up brings in no list. -/
theorem cacheNamed_abandon (sweep : Sweep) (named : cache.Named) :
    (sweep.abandon cache ticket).Named := by
  cases sweep with
  | running current remaining => exact current.cacheNamed_abandon cache ticket named
  | asked => exact named
  | done => exact named

/-- Each list is loaded in any case. -/
def Reloads : Sweep → Prop
  | .running current _ => current.Reloads
  | .asked | .done => True

/-- A sweep that turns to its next list loads it in any case. -/
theorem reloads_advance (services : List String) :
    (advance cache now ticket services).2.Reloads := by
  cases services with
  | nil => exact trivial
  | cons service remaining =>
    exact (Lookup.refresh service).reloads_resume cache now ticket .turn
      (Lookup.reloads_refresh service)

/-- A sweep that goes on still loads each list in any case. -/
theorem reloads_resume (sweep : Sweep) (answer : Answer) (reloads : sweep.Reloads) :
    (sweep.resume cache now ticket answer).2.Reloads := by
  cases sweep with
  | asked =>
    cases answer with
    | turn => exact reloads_advance cache now ticket cache.services
    | _ => exact trivial
  | running current remaining =>
    have next := current.reloads_resume cache now ticket answer reloads
    unfold resume
    dsimp only
    split
    · exact reloads_advance _ now ticket remaining
    · exact next
  | done => exact trivial

end Sweep

/-- A filter that brings in no instance with another name. -/
def Filter.KeepsNames (filter : Filter) : Prop :=
  ∀ service instances, Named service instances → Named service (filter instances)

/-- A rule only drops instances. -/
theorem MetadataRule.keepsNames_filter (rule : MetadataRule) :
    Filter.KeepsNames rule.filter := by
  intro service instances named x member
  exact named x (List.mem_filter.mp member).1

/-- A chain of filters that keep to the names keeps to them. -/
theorem named_applyFilters (chain : List Filter) (keep : ∀ filter ∈ chain, filter.KeepsNames)
    (service : String) (instances : List Instance) (named : Named service instances) :
    Named service (applyFilters chain instances) := by
  induction chain generalizing instances with
  | nil => exact named
  | cons filter rest inductionHypothesis =>
    exact inductionHypothesis (fun other later => keep other (List.mem_cons_of_mem filter later)) _
      (keep filter List.mem_cons_self service instances named)

end CallRouting
