import CallRouting.Proofs.Weighings

/-!
# Which table a draw goes by

A choice by weight goes by the table that was computed for the service last, if that has
as many entries as there are candidates, and otherwise by one that it computes from the
candidates themselves. So a table never has another length than the candidates that are
drawn by it. The instances may be others: a reload or a filter that leaves as many
candidates as before does not change the table, until it is computed again.
-/

namespace CallRouting

variable {ω : Type} [Weight ω]

/-- Where a weighing comes from: from a choice by weight, from a round over all books, or
from a request for one service. -/
inductive World.Source (world : World ω) (weighing : Weighing ω) : Prop
  | choice (service : String) (candidates : List Instance)
      (member : weighing ∈ world.client.router.balance.weighings .weightedResponseTime world.now
        service candidates)
  | round (member : weighing ∈ world.client.router.weighings world.now)
  | request (service : String) (candidates : List Instance)
      (same : weighing =
        .computed service (world.ledger.weighed world.now service candidates))

namespace Balance

/-- Only choices by weight weigh anything. -/
theorem weighted_of_mem (balance : Balance ω) (strategy : Strategy) (now : Instant)
    (service : String) (candidates : List Instance) (weighing : Weighing ω)
    (member : weighing ∈ balance.weighings strategy now service candidates) :
    strategy = .weightedResponseTime := by
  cases strategy with
  | weightedResponseTime => rfl
  | _ => cases member

/-- The table from which a choice draws is the one in the book if that has the right length,
and otherwise computed from the candidates. -/
theorem table_of_sampled (balance : Balance ω) (now : Instant) (service other : String)
    (candidates found : List Instance) (table : List ω)
    (member : .sampled other found table ∈
      balance.weighings .weightedResponseTime now service candidates) :
    other = service ∧ found = candidates ∧ candidates ≠ [] ∧
      ∃ kept, (balance.ledger.book service).weights = some kept ∧
        (kept.length = candidates.length → table = kept) ∧
        (kept.length ≠ candidates.length →
          ∃ used : List (Instance × ω), used.map Prod.fst = candidates ∧ table = tableOf used) := by
  unfold weighings at member
  dsimp only at member
  split at member
  · cases member
  · rename_i nonempty
    have some : candidates ≠ [] := by simpa using nonempty
    rcases List.mem_append.mp member with computed | sampled
    -- What is computed for a table that does not fit is no draw.
    · have fitting := Option.mem_toList.mp computed
      unfold Ledger.fittingWeighing? at fitting
      split at fitting
      · cases fitting
      · split at fitting <;> cases fitting
    · have drawn := Option.mem_toList.mp sampled
      simp only [bind, Option.bind_eq_some_iff] at drawn
      obtain ⟨fitted, fit, _, _, same⟩ := drawn
      cases same
      refine ⟨rfl, rfl, some, ?_⟩
      unfold Ledger.fittingTable at fit
      rw [Ledger.book_openBook] at fit
      split at fit
      · cases fit
      · rename_i kept weights
        refine ⟨kept, weights, ?_⟩
        by_cases length : kept.length = candidates.length
        · rw [if_pos length] at fit
          exact ⟨fun _ => (Option.some.inj fit).symm, fun differs => absurd length differs⟩
        · rw [if_neg length] at fit
          refine ⟨fun same => absurd same length, fun _ =>
            ⟨(balance.ledger.openBook service).weighed now service candidates,
              Ledger.map_fst_weighed _ now service candidates, ?_⟩⟩
          rw [← Ledger.aggregate_snd]
          exact (Option.some.inj fit).symm

end Balance

/-- A further selection of an invocation weighs nothing: it takes turns. -/
theorem Invocation.weighings_retry (invocation : Invocation) (encounter : Encounter ω) :
    invocation.retrySelection.weighings encounter = [] := by
  unfold Selection.weighings
  split <;> rfl

/-- What a task weighs, it weighs in a choice from what it has met.

The selection after an attempt that has failed is a retry, and those take turns without weighing;
so a selection that weighs was under way and meets what its task meets. -/
theorem Task.exists_of_mem_weighings (task : Task) (encounter : Encounter ω)
    (weighing : Weighing ω) (member : weighing ∈ task.weighings encounter) :
    ∃ service candidates, weighing ∈ encounter.router.balance.weighings .weightedResponseTime
      encounter.moment.now service candidates := by
  have chosen (selection : Selection) (member : weighing ∈ selection.weighings encounter) :
      ∃ service candidates, weighing ∈ encounter.router.balance.weighings .weightedResponseTime
        encounter.moment.now service candidates := by
    unfold Selection.weighings at member
    split at member
    · have weighted := Balance.weighted_of_mem _ _ _ _ _ weighing member
      rw [weighted] at member
      exact ⟨_, _, member⟩
    · cases member
  unfold weighings at member
  split at member
  · rename_i selection met selecting
    cases task with
    | choosing current =>
      cases selecting
      exact chosen _ member
    | invoking invocation =>
      rcases invocation.selecting?_eq encounter selection met selecting with
        ⟨-, rfl⟩ | ⟨further, -, rfl, -⟩
      · exact chosen _ member
      · rw [further.weighings_retry] at member
        cases member
    | _ => cases selecting
  · cases member

namespace Ledger

/-- What is weighed in a round is what the round finds for the service. -/
theorem computed_of_mem_round (now : Instant) (candidates : String → Option (List Instance))
    (ledger : Ledger ω) (services : List String) (weighing : Weighing ω)
    (member : weighing ∈ roundWeighings now candidates ledger services) :
    ∃ service weighed, weighing = .computed service weighed := by
  induction services generalizing ledger with
  | nil => cases member
  | cons service rest inductionHypothesis =>
    rcases List.mem_append.mp member with here | later
    · have found := Option.mem_toList.mp here
      split at found <;> cases found
      exact ⟨_, _, rfl⟩
    · exact inductionHypothesis _ later

/-- After a round the candidates of each service that has a book and some candidates were weighed
last; for a service without a book nothing was.

By induction on the services of the round, from the last one backwards: if the service does not
come later, it is the current one that counts. -/
theorem latest_round (now : Instant) (candidates : String → Option (List Instance))
    (ledger : Ledger ω) (services : List String) (service : String) (found : List Instance)
    (offered : candidates service = some found) (nonempty : found ≠ [])
    (before : Option (List (Instance × ω))) :
    (service ∉ services ∧
        (roundWeighings now candidates ledger services).foldl (Weighing.latest service) before =
          before) ∨
      ∃ weighed : List (Instance × ω), weighed.map Prod.fst = found ∧
        (roundWeighings now candidates ledger services).foldl (Weighing.latest service) before =
          some weighed := by
  induction services generalizing ledger before with
  | nil => exact .inl ⟨List.not_mem_nil, rfl⟩
  | cons other rest inductionHypothesis =>
    rw [roundWeighings, List.foldl_append]
    rcases inductionHypothesis (ledger.serve now candidates other) _ with
      ⟨absent, unchanged⟩ | ⟨weighed, same, last⟩
    · rw [unchanged]
      by_cases here : other = service
      · subst here
        right
        rw [offered]
        obtain ⟨first, others, rfl⟩ := List.exists_cons_of_ne_nil nonempty
        refine ⟨(ledger.purge now other).weighed now other (first :: others),
          map_fst_weighed _ _ _ _, ?_⟩
        exact if_pos rfl
      · refine .inl ⟨by simp [absent, Ne.symm here], ?_⟩
        split
        · rfl
        · rfl
        · exact if_neg here
    · exact .inr ⟨weighed, same, last⟩

end Ledger

namespace World

/-- Each weighing at an event comes from one of the sources: a round, a request for a table, or a
choice by weight. -/
theorem source_of_mem (world : World ω) (event : Event ω) (weighing : Weighing ω)
    (member : weighing ∈ world.weighings event) : world.Source weighing := by
  cases event with
  | answer place draw answer =>
    simp only [weighings] at member
    split at member
    · rename_i task _
      obtain ⟨service, candidates, inside⟩ := task.exists_of_mem_weighings _ weighing member
      exact .choice service candidates inside
    · cases member
  | work ticket draw answer =>
    simp only [weighings] at member
    split at member
    · rename_i job _
      split at member
      · unfold Job.weighings at member
        split at member
        · exact .round member
        · exact .round member
        · cases member
      · cases member
    · cases member
  | adjust adjustment =>
    cases adjustment with
    | aggregate => exact .round member
    | aggregateService service candidates =>
      exact .request service candidates (List.mem_singleton.mp member)
    | pick strategy draw service candidates =>
      have weighted := Balance.weighted_of_mem _ _ _ _ _ weighing member
      subst weighted
      exact .choice service candidates member
    | _ => cases member
  | _ => cases member

/-- At an event that is a round, the weighings are those of the round. -/
def Rounds (world : World ω) (event : Event ω) : Prop :=
  world.weighings event = world.client.router.weighings world.now

/-- A draw by weight goes by the table in the book of its service if that has the right length,
and otherwise by one that is computed from the candidates.

Only a choice draws; rounds and requests for a table only compute one. -/
theorem table_of_sampled (world : World ω) (event : Event ω) (service : String)
    (candidates : List Instance) (table : List ω)
    (sampled : .sampled service candidates table ∈ world.weighings event) :
    candidates ≠ [] ∧ ∃ kept, (world.ledger.book service).weights = some kept ∧
      (kept.length = candidates.length → table = kept) ∧
      (kept.length ≠ candidates.length →
        ∃ used : List (Instance × ω), used.map Prod.fst = candidates ∧ table = tableOf used) := by
  cases world.source_of_mem event _ sampled with
  | choice other offered member =>
    obtain ⟨rfl, rfl, nonempty, found⟩ := Balance.table_of_sampled _ _ _ _ _ _ _ member
    exact ⟨nonempty, found⟩
  | round member =>
    obtain ⟨_, _, differs⟩ := Ledger.computed_of_mem_round _ _ _ _ _ member
    cases differs
  | request other offered same => cases same

/-- What was weighed last for a service, if the last weighing was a round, is what the cache and
the filters gave in that round.

Nothing was computed for the service since, so the last table is the one that the round left. -/
theorem weighed_in_round (client : Client ω) (now : Instant) (lifetime : Duration)
    (fresh : client.router.balance.ledger = .empty lifetime) (earlier later : List (Event ω))
    (past : Event ω) (rounds : ((around client now).run earlier).Rounds past) (service : String)
    (quiet : ∀ other, .computed service other ∉
      ((around client now).run (earlier ++ [past])).observed weighings later)
    (candidates : List Instance) (nonempty : candidates ≠ [])
    (offered : ((around client now).run earlier).client.router.cachedCandidates service =
      some candidates)
    (weighed : List (Instance × ω))
    (last : lastWeighed? service
      ((around client now).observed weighings (earlier ++ past :: later)) = some weighed) :
    weighed.map Prod.fst = candidates := by
  have follows := run_follows client now lifetime fresh earlier service
  rw [observed_append, observed, ← run_concat, rounds, lastWeighed?_append, List.foldl_append,
    foldl_latest_of_quiet _ _ _ quiet] at last
  generalize (around client now).run earlier = world at last follows offered
  generalize lastWeighed? service ((around client now).observed weighings earlier) = before
    at last follows
  rcases Ledger.latest_round world.now world.client.router.cachedCandidates world.ledger
      world.ledger.services.keys service candidates offered nonempty before with
    ⟨absent, unchanged⟩ | ⟨found, instances, latest⟩
  · -- A service without a book has no table, so nothing was ever weighed for it.
    have bookless := (Registry.find?_eq_none_iff world.ledger.services service).mpr absent
    obtain rfl : before = some weighed := unchanged.symm.trans last
    rw [Ledger.book, bookless] at follows
    cases follows
  · exact Option.some.inj (latest.symm.trans last) ▸ instances

/-- In each run of a client that begins with empty statistics, a draw by weight goes by the
table of a list that has as many instances as there are candidates. If the list that was
weighed last for the service has another length, these are the candidates themselves;
otherwise they are the ones that were weighed last. Those are the candidates again if they
were weighed in a round in which the cache and the filters gave this list, and nothing was
weighed for the service since.

By induction over the run the book of each service holds the table that was computed for it
last. At a draw that table is used if its length fits, and computed from the candidates
otherwise. -/
theorem sampled_table (client : Client ω) (now : Instant) (lifetime : Duration)
    (fresh : client.router.balance.ledger = .empty lifetime) (events : List (Event ω))
    (event : Event ω) (service : String) (candidates : List Instance) (table : List ω)
    (sampled : .sampled service candidates table ∈
      ((around client now).run events).weighings event) :
    ∃ weighed used : List (Instance × ω),
      lastWeighed? service ((around client now).observed weighings events) = some weighed ∧
        table = tableOf used ∧ used.length = candidates.length ∧
        (weighed.length = candidates.length → used = weighed) ∧
        (weighed.length ≠ candidates.length → used.map Prod.fst = candidates) ∧
        ∀ earlier past later, events = earlier ++ past :: later →
          ((around client now).run earlier).Rounds past →
          (∀ other, .computed service other ∉
            ((around client now).run (earlier ++ [past])).observed weighings later) →
          ((around client now).run earlier).client.router.cachedCandidates service =
            some candidates →
          used.map Prod.fst = candidates := by
  have follows := run_follows client now lifetime fresh events service
  obtain ⟨nonempty, kept, weights, fits, renewed⟩ :=
    table_of_sampled _ event service candidates table sampled
  obtain ⟨weighed, last, tabled⟩ := Option.map_eq_some_iff.mp (follows.symm.trans weights)
  have length : kept.length = weighed.length := by rw [← tabled, length_tableOf]
  have inRound (earlier later : List (Event ω)) (past : Event ω)
      (split : events = earlier ++ past :: later)
      (rounds : ((around client now).run earlier).Rounds past)
      (quiet : ∀ other, .computed service other ∉
        ((around client now).run (earlier ++ [past])).observed weighings later)
      (offered : ((around client now).run earlier).client.router.cachedCandidates service =
        some candidates) : weighed.map Prod.fst = candidates := by
    rw [split] at last
    exact weighed_in_round client now lifetime fresh earlier later past rounds service quiet
      candidates nonempty offered weighed last
  by_cases fitting : weighed.length = candidates.length
  · refine ⟨weighed, weighed, last, ?_, fitting, fun _ => rfl, ?_, ?_⟩
    · exact (fits (length.trans fitting)).trans tabled.symm
    · exact fun differs => absurd fitting differs
    · exact fun earlier past later split => inRound earlier later past split
  · obtain ⟨used, instances, same⟩ := renewed fun equal => fitting (length.symm.trans equal)
    refine ⟨weighed, used, last, same, ?_, ?_, fun _ => instances, ?_⟩
    · rw [← instances, List.length_map]
    · exact fun equal => absurd equal fitting
    · exact fun _ _ _ _ _ _ _ => instances

/-- Two instances of one service, in either order. -/
def firstThenSecond : List Instance :=
  [.ofAddress "orders" "10.0.0.1" 80, .ofAddress "orders" "10.0.0.2" 80]

/-- The same two instances, the other way round. -/
def secondThenFirst : List Instance := firstThenSecond.reverse

/-- A client that chooses by weight and counts in whole numbers. -/
def byWeight : Client Int where
  settings := { balancer := "WeightedResponseTime" }
  router :=
    { cache := .empty (.ofMillis 30000)
      balance := .empty (.ofSeconds 3600)
      filters := []
      strategies := .standard
      configured := "WeightedResponseTime"
      policies := .empty ((RetryPolicy.named "default").withWait (.ofMillis 1000)) 9999 }
  jobs := []
  stopped := []
  nextTicket := 0

/-- The client is the one that these settings create. -/
theorem create_byWeight : Client.create { balancer := "WeightedResponseTime" } = .ok byWeight := rfl

/-- Draws that begin at the front. -/
def frontDraw : Draw Int := ⟨fun _ => 0, id⟩

/-- Both instances are called once, a round weighs them, and a reload turns their order
round. -/
def turnedRound : List (Event Int) :=
  [.request (.invoke "orders" (.named "once")), .answer 0 frontDraw .turn,
    .answer 0 frontDraw .lock, .answer 0 frontDraw (.listing (.ok firstThenSecond)),
    .pass 10000000, .answer 0 frontDraw (.work (.ok (.integer 7))),
    .request (.invoke "orders" (.named "once")), .answer 1 frontDraw .turn,
    .pass 30000000, .answer 1 frontDraw (.work (.ok (.integer 7))),
    .adjust .aggregate,
    .request (.refresh "orders"), .answer 2 frontDraw .turn, .answer 2 frontDraw .lock,
    .answer 2 frontDraw (.listing (.ok secondThenFirst)),
    .request (.choose "orders" none [])]

/-- The round has weighed the first order. -/
theorem weighed_turnedRound :
    (around byWeight 0).observed weighings turnedRound =
      [.computed "orders" [(.ofAddress "orders" "10.0.0.1" 80, 10),
        (.ofAddress "orders" "10.0.0.2" 80, 30)]] := by rfl

/-- The choice draws from the second order by the table of the first. -/
theorem sampled_turnedRound :
    ((around byWeight 0).run turnedRound).weighings (.answer 3 frontDraw .turn) =
      [.sampled "orders" secondThenFirst [30, 40]] := by rfl

/-- The table is that of the list that was weighed last, which has as many instances. -/
theorem sampled_table_turnedRound :
    byWeight.router.balance.ledger = .empty (.ofSeconds 3600) ∧
      .sampled "orders" secondThenFirst [30, 40] ∈
        ((around byWeight 0).run turnedRound).weighings (.answer 3 frontDraw .turn) ∧
      ∃ weighed : List (Instance × Int),
        lastWeighed? "orders" ((around byWeight 0).observed weighings turnedRound) =
          some weighed ∧
        weighed.length = secondThenFirst.length ∧ [30, 40] = tableOf weighed := by
  have drawn : .sampled "orders" secondThenFirst [30, 40] ∈
      ((around byWeight 0).run turnedRound).weighings (.answer 3 frontDraw .turn) := by
    rw [sampled_turnedRound]
    exact List.mem_singleton_self _
  have table := sampled_table byWeight 0 (.ofSeconds 3600) rfl turnedRound
    (.answer 3 frontDraw .turn) "orders" secondThenFirst [30, 40] drawn
  obtain ⟨weighed, used, last, same, length, fits, _⟩ := table
  have two : weighed.length = secondThenFirst.length := by
    rw [weighed_turnedRound] at last
    exact Option.some.inj last ▸ rfl
  exact ⟨rfl, drawn, weighed, last, two, fits two ▸ same⟩

/-- A draw can go by a table that was computed from the instances in another order: the
slower instance gets the wide interval of the quicker one. -/
theorem exists_misaligned :
    Client.create { balancer := "WeightedResponseTime" } = .ok byWeight ∧
      .sampled "orders" secondThenFirst [30, 40] ∈
        ((around byWeight 0).run turnedRound).weighings (.answer 3 frontDraw .turn) ∧
      ∀ weighed : List (Instance × Int),
        .computed "orders" weighed ∈
          (around byWeight 0).observed weighings (turnedRound ++ [.answer 3 frontDraw .turn]) →
        weighed.map (·.1.identity) ≠ secondThenFirst.map Instance.identity := by
  refine ⟨create_byWeight, ?_, ?_⟩
  · rw [sampled_turnedRound]
    exact List.mem_singleton_self _
  · intro weighed member
    simp only [observed_append, observed, weighed_turnedRound, sampled_turnedRound,
      List.append_nil, List.cons_append, List.nil_append, List.mem_cons, List.not_mem_nil,
      Weighing.computed.injEq, reduceCtorEq, or_false, true_and] at member
    subst member
    decide

end World

end CallRouting
