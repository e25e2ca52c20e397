import CallRouting.Proofs.Deeds
import CallRouting.Proofs.Elsewhere

/-!
# Adjustments and rounds, on routers alike in a service

What callers adjust or read at a service gives the same on two routers that are alike in it.
A round goes through all books, in the order in which they were opened; what it does at the
others is done elsewhere, so for the service it comes to serving that one alone.
-/

namespace CallRouting

variable {ω : Type} {service : String} {places : List Handle}

/-- To register a strategy under another name leaves what the given name leads to. -/
theorem Strategies.get_register (strategies : Strategies) (strategy : Strategy) (name : String)
    (other : normalize strategy.name ≠ normalize name) :
    (strategies.register strategy).get name = strategies.get name := by
  simp only [get, find?, register, Registry.find?_put, if_neg other]

namespace Ledger.Alike

variable {ledger alone : Ledger ω}

/-- A purge of the service would drop equally many tallies in both ledgers. -/
theorem expired (alike : ledger.Alike service places alone) (now : Instant) :
    ledger.expired now service = alone.expired now service := by
  -- What a purge drops is the difference of two sizes, and books that are alike have as many keys.
  have tracked {first second : Ledger ω} (alike : first.Alike service places second) :
      first.tracked service = second.tracked service := by
    rw [Ledger.tracked, Ledger.tracked, Registry.size_eq, Registry.size_eq, alike.keys]
  rw [Ledger.expired, Ledger.expired, tracked alike, tracked (alike.purge now)]

variable [Weight ω]

/-- In a series of services that are served, the service itself is served once, and the others do
not matter.

Up to the service and from there on the ledgers stay alike, for what is done in between moves
other books; the series has no service twice, so it does not come again. -/
theorem round (alike : ledger.Alike service places alone) (now : Instant)
    (candidates own : String → Option (List Instance)) (same : candidates service = own service)
    (services : List String) (distinct : services.Nodup) :
    ∃ wider, ledger.Widens places wider ∧
      (services.foldl (fun ledger other => ledger.serve now candidates other) ledger).Alike service
        wider (if service ∈ services then alone.serve now own service else alone) := by
  induction services generalizing ledger places with
  | nil => exact ⟨places, .refl _ places, by simpa using alike⟩
  | cons other rest inductionHypothesis =>
    obtain ⟨fresh, distinct⟩ := List.nodup_cons.mp distinct
    by_cases here : other = service
    · subst here
      obtain ⟨wider, grown, served⟩ := alike.serve now candidates own same
      have others : Moves now (· ≠ other) (· ∉ wider) (ledger.serve now candidates other)
          (rest.foldl (fun ledger other => ledger.serve now candidates other)
            (ledger.serve now candidates other)) :=
        moves_round _ candidates rest fun another member same => fresh (same ▸ member)
      refine ⟨wider, grown, ?_⟩
      rw [if_pos List.mem_cons_self]
      exact served.elsewhere others
    · have moves : Moves now (· ≠ service) (· ∉ places) ledger
          (ledger.serve now candidates other) := ledger.moves_serve candidates other here
      obtain ⟨wider, grown, served⟩ := inductionHypothesis (alike.elsewhere moves) distinct
      refine ⟨wider, (Widens.refl _ places).trans grown moves.size_le, ?_⟩
      have known : service ∈ other :: rest ↔ service ∈ rest := by simp [Ne.symm here]
      simp only [List.foldl_cons, known]
      exact served

end Ledger.Alike

variable {rename : Ticket → Ticket} {router alone : Router ω} [Weight ω]

/-- A round over all services in one router comes to serving the service alone in the other one,
if that has a book. -/
theorem Router.Alike.aggregate (alike : router.Alike service rename places alone) (now : Instant) :
    ∃ wider, router.balance.ledger.Widens places wider ∧
      (router.aggregate now).1.Alike service rename wider (alone.serve now service) := by
  obtain ⟨wider, grown, served⟩ := alike.balance.ledger.round now router.cachedCandidates
    alone.cachedCandidates alike.cachedCandidates router.balance.ledger.services.keys
    router.balance.ledger.services.distinct
  rw [← Ledger.aggregateAll_fst] at served
  refine ⟨wider, grown, ?_⟩
  unfold serve
  dsimp only
  by_cases known : service ∈ alone.balance.ledger.services.keys
  · rw [if_pos known]
    rw [if_pos (alike.balance.ledger.known.mpr known)] at served
    exact alike.withLedger served
  · rw [if_neg known]
    rw [if_neg fun here => known (alike.balance.ledger.known.mp here)] at served
    exact alike.withLedger served

namespace Adjustment

/-- An adjustment that does not reach into what the service relies on: filters keep the names of
instances, no strategy takes the name of the one for first attempts, and a pick is from candidates
with the name of the service that it is for, by a steady strategy if it is for the given one. -/
def Proper (service : String) (router : Router ω) : Adjustment ω → Prop
  | .addFilter filter => filter.KeepsNames
  | .registerStrategy strategy =>
    Strategies.normalize strategy.name ≠ Strategies.normalize router.configured
  | .pick strategy _ other candidates =>
    Named other candidates ∧ (other = service → strategy.Steady)
  | .declarePolicy _ | .invalidate _ | .aggregate | .aggregateService .. | .purge _ | .openBook _
  | .consult .. => True

/-- What is adjusted at the service is adjusted alike in both routers, with the same findings. A
pick opens tallies in both, so it may add places. -/
theorem alike_apply (adjustment : Adjustment ω) (here : adjustment.service? = some service)
    (proper : adjustment.Proper service router)
    (alike : router.Alike service rename places alone) (now : Instant) :
    ∃ wider, router.balance.ledger.Widens places wider ∧
      (adjustment.apply now router).Alike service rename wider
        (adjustment.undrawn.apply now alone) ∧
      adjustment.undrawn.findings now alone = adjustment.findings now router := by
  cases adjustment with
  | invalidate other =>
    obtain rfl := Option.some.inj here
    exact ⟨places, .refl _ places, alike.withCache alike.cache.invalidate, rfl⟩
  | aggregateService other candidates =>
    obtain rfl := Option.some.inj here
    obtain ⟨wider, grown, aggregated, same⟩ := alike.balance.ledger.aggregate now candidates
    exact ⟨wider, grown, alike.withLedger aggregated, by simp only [undrawn, findings, same]⟩
  | purge other =>
    obtain rfl := Option.some.inj here
    exact ⟨places, .refl _ places, alike.withLedger (alike.balance.ledger.purge now),
      by simp only [undrawn, findings, alike.balance.ledger.expired now]⟩
  | openBook other =>
    obtain rfl := Option.some.inj here
    exact ⟨places, .refl _ places, alike.withLedger alike.balance.ledger.openBook,
      by simp only [undrawn, findings, alike.balance.ledger.view]⟩
  | consult other x =>
    obtain rfl := Option.some.inj here
    obtain ⟨wider, grown, opened, placed⟩ := alike.balance.ledger.access now x
    exact ⟨wider, grown, alike.withLedger opened,
      by simp only [undrawn, findings, opened.tally_eq placed]⟩
  | pick strategy draw other candidates =>
    obtain rfl := Option.some.inj here
    obtain ⟨named, steady⟩ := proper
    obtain ⟨wider, grown, chosen, same⟩ :=
      alike.balance.choose strategy (steady rfl) draw .none now candidates named
    exact ⟨wider, grown, alike.withBalance chosen, by simp only [undrawn, findings, same]⟩
  | _ => cases here

/-- What is adjusted elsewhere leaves the router alike to one in which nothing is adjusted.
Filters and rounds are left out here, since they are for all services. -/
theorem alike_elsewhere (adjustment : Adjustment ω) (away : adjustment.service? ≠ some service)
    (single : adjustment ≠ .aggregate) (noFilter : ∀ filter, adjustment ≠ .addFilter filter)
    (proper : adjustment.Proper service router)
    (alike : router.Alike service rename places alone) (now : Instant) :
    (adjustment.apply now router).Alike service rename places alone := by
  have apart (other : String) (same : adjustment.service? = some other) : other ≠ service :=
    fun here => away (here ▸ same)
  have moves (minds : adjustment.Minds (· ≠ service) router) :
      Ledger.Moves now (· ≠ service) (· ∉ places) router.balance.ledger
        (adjustment.apply now router).balance.ledger := adjustment.moves_apply now router minds
  cases adjustment with
  | addFilter filter => exact absurd rfl (noFilter filter)
  | registerStrategy strategy =>
    exact alike.elsewhere
      ⟨.refl _, rfl, Strategies.get_register _ strategy _ proper, rfl, rfl⟩ (moves trivial)
  | declarePolicy declared => exact alike.elsewhere ⟨.refl _, rfl, rfl, rfl, rfl⟩ (moves trivial)
  | invalidate other =>
    refine alike.elsewhere ⟨⟨rfl, ?_⟩, rfl, rfl, rfl, rfl⟩ (moves trivial)
    exact (Cache.slot_invalidate _ other service).trans (if_neg (apart other rfl))
  | aggregate => exact absurd rfl single
  | aggregateService other candidates =>
    exact alike.elsewhere (.withLedger router _) (moves (apart other rfl))
  | purge other => exact alike.elsewhere (.withLedger router _) (moves (apart other rfl))
  | openBook other => exact alike.elsewhere (.withLedger router _) (moves (apart other rfl))
  | consult other x => exact alike.elsewhere (.withLedger router _) (moves (apart other rfl))
  | pick strategy draw other candidates =>
    have elsewhere := apart other rfl
    obtain ⟨turns, retryTurns⟩ :=
      router.balance.count_choose strategy draw now other candidates elsewhere
    exact alike.elsewhere ⟨.refl _, rfl, rfl, turns, retryTurns⟩
      (moves ⟨elsewhere, fun x member => (proper.1 x member).symm ▸ elsewhere⟩)

/-- A proper adjustment keeps the router orderly. -/
theorem orderly_apply (adjustment : Adjustment ω) (proper : adjustment.Proper service router)
    (tidy : router.Orderly) (now : Instant) : (adjustment.apply now router).Orderly := by
  cases adjustment with
  | addFilter filter =>
    refine ⟨tidy.named, fun other member => ?_, tidy.steady⟩
    rcases List.mem_append.mp member with old | new
    · exact tidy.keep other old
    · exact List.mem_singleton.mp new ▸ proper
  | registerStrategy strategy =>
    have steady : ((router.strategies.register strategy).get router.configured).Steady := by
      rw [Strategies.get_register _ _ _ proper]
      exact tidy.steady
    exact ⟨tidy.named, tidy.keep, steady⟩
  | invalidate other => exact ⟨tidy.named.invalidate other, tidy.keep, tidy.steady⟩
  | _ => exact ⟨tidy.named, tidy.keep, tidy.steady⟩

end Adjustment

end CallRouting
