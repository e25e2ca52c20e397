import CallRouting.Proofs.Weighings

/-!
# The moves of a ledger

Whatever happens to a ledger is made of five moves: a book is opened, a tally is opened in
a book in place of none or an expired one, a book is purged, a table is put into a book,
or the tally behind a handle changes, but not the time at which it was created. Each move is
about one book or one handle.

`Moves` says which books and which handles a series of moves is about. What holds of each
single move, and goes from one to the next, holds of everything that happens.
-/

namespace CallRouting

variable {ω : Type}

namespace Ledger

/-- Put a table into the book of a service. -/
def tabulate (ledger : Ledger ω) (service : String) (table : List ω) : Ledger ω :=
  { ledger with
    services := ledger.services.put service { ledger.book service with weights := some table } }

/-- To put a table into a book changes the weights there, and no other book. -/
theorem book_tabulate (ledger : Ledger ω) (service other : String) (table : List ω) :
    (ledger.tabulate service table).book other =
      if service = other then { ledger.book other with weights := some table }
      else ledger.book other := by
  simp only [tabulate, book, Registry.find?_put]
  by_cases same : service = other <;> simp [same]

/-- Where the book of a service leads. -/
def Leads (ledger : Ledger ω) (service : String) (key : Identity) (handle : Handle) : Prop :=
  (ledger.book service).handles.find? key = some handle

/-- A series of moves about certain books and certain handles. -/
inductive Moves (now : Instant) (about : String → Prop) (on : Handle → Prop) :
    Ledger ω → Ledger ω → Prop
  | refl (ledger : Ledger ω) : Moves now about on ledger ledger
  | trans {first second third : Ledger ω} (before : Moves now about on first second)
      (after : Moves now about on second third) : Moves now about on first third
  | openBook (ledger : Ledger ω) (service : String) (ours : about service) :
      Moves now about on ledger (ledger.openBook service)
  | openTally (ledger : Ledger ω) (service : String) (key : Identity) (ours : about service)
      (missing : ledger.current? now service key = none) :
      Moves now about on ledger (ledger.openTally now service key).1
  | purge (ledger : Ledger ω) (service : String) (ours : about service) :
      Moves now about on ledger (ledger.purge now service)
  | tabulate (ledger : Ledger ω) (service : String) (table : List ω) (ours : about service) :
      Moves now about on ledger (ledger.tabulate service table)
  | change (ledger : Ledger ω) (handle : Handle) (update : Tally → Tally) (ours : on handle)
      (keeps : ∀ tally, (update tally).createdAt = tally.createdAt) :
      Moves now about on ledger (ledger.change handle update)

variable {now : Instant} {about : String → Prop} {on : Handle → Prop}

/-- A book leads to the tally that it has current. -/
theorem leads_of_current? (ledger : Ledger ω) (service : String) (key : Identity) (handle : Handle)
    (current : ledger.current? now service key = some handle) :
    ledger.Leads service key handle := by
  unfold current? at current
  split at current
  · rename_i found leads
    split at current
    · cases current
    · exact Option.some.inj current ▸ leads
  · cases current

/-- To look for the current tally of an instance is a move about the book in which it is
looked for, and the book leads to it afterwards. -/
theorem moves_access (ledger : Ledger ω) (service : String) (x : Instance) (ours : about service) :
    Moves now about on ledger (ledger.access now service x).1 ∧
      (ledger.access now service x).1.Leads service x.identity (ledger.access now service x).2 := by
  unfold access
  cases current : ledger.current? now service x.identity with
  | some handle => exact ⟨.refl ledger, ledger.leads_of_current? service x.identity handle current⟩
  | none =>
    refine ⟨.openTally ledger service x.identity ours current, ?_⟩
    exact (ledger.find?_openTally now service service x.identity x.identity).trans
      (if_pos ⟨rfl, rfl⟩)

/-- To look for the least busy candidate may open tallies in the books of the candidates. -/
theorem moves_leastActive (ledger : Ledger ω) (best : Option (Instance × UInt64))
    (candidates : List Instance) (ours : ∀ x ∈ candidates, about x.service) :
    Moves now about on ledger (ledger.leastActive now best candidates).1 := by
  induction candidates generalizing ledger best with
  | nil => exact .refl ledger
  | cons x rest inductionHypothesis =>
    have opened : Moves now about on ledger (ledger.tallyOf now x).1 :=
      (ledger.moves_access x.service x (ours x List.mem_cons_self)).1
    -- The walk goes on with one leader or the other, and moves the same books in both cases.
    have further (next : Ledger ω) (better : Option (Instance × UInt64)) :
        Moves now about on next (next.leastActive now better rest).1 :=
      inductionHypothesis next better fun y later => ours y (List.mem_cons_of_mem x later)
    unfold leastActive
    dsimp only
    split
    · split
      · exact opened.trans (further _ _)
      · exact opened.trans (further _ _)
    · exact opened.trans (further _ _)

section Weights

variable [Weight ω]

/-- To read the averages of candidates may open tallies in the book of the service. -/
theorem moves_averages (ledger : Ledger ω) (service : String) (candidates : List Instance)
    (ours : about service) :
    Moves now about on ledger (ledger.averages now service candidates).1 := by
  induction candidates generalizing ledger with
  | nil => exact .refl ledger
  | cons x rest inductionHypothesis =>
    exact (ledger.moves_access service x ours).1.trans (inductionHypothesis _)

/-- A new table may open tallies in the book of the service, and is put there. -/
theorem moves_aggregate (ledger : Ledger ω) (service : String) (candidates : List Instance)
    (ours : about service) :
    Moves now about on ledger (ledger.aggregate now service candidates).1 :=
  (ledger.moves_averages service candidates ours).trans (.tabulate _ service _ ours)

/-- What a round does for a service is to purge its book, and to put a new table there if it
has candidates. -/
theorem moves_serve (ledger : Ledger ω) (candidates : String → Option (List Instance))
    (service : String) (ours : about service) :
    Moves now about on ledger (ledger.serve now candidates service) := by
  have purged : Moves now about on ledger (ledger.purge now service) := .purge ledger service ours
  unfold serve
  dsimp only
  split
  · exact purged
  · exact purged
  · exact purged.trans (moves_aggregate _ service _ ours)

/-- To serve some services moves their books. -/
theorem moves_round (ledger : Ledger ω) (candidates : String → Option (List Instance))
    (services : List String) (ours : ∀ service ∈ services, about service) :
    Moves now about on ledger
      (services.foldl (fun ledger service => ledger.serve now candidates service) ledger) := by
  induction services generalizing ledger with
  | nil => exact .refl ledger
  | cons service rest inductionHypothesis =>
    have served : Moves now about on ledger (ledger.serve now candidates service) :=
      ledger.moves_serve candidates service (ours service List.mem_cons_self)
    exact served.trans
      (inductionHypothesis _ fun other later => ours other (List.mem_cons_of_mem service later))

/-- To make the table fit is a new table at most. -/
theorem moves_fittingTable (ledger : Ledger ω) (service : String) (candidates : List Instance)
    (ours : about service) :
    Moves now about on ledger (ledger.fittingTable now service candidates).1 := by
  unfold fittingTable
  split
  · exact .refl ledger
  · split
    · exact .refl ledger
    · exact ledger.moves_aggregate service candidates ours

end Weights

namespace Moves

/-- Moves never take a tally away. -/
theorem size_le {before after : Ledger ω} (moves : Moves now about on before after) :
    before.tallies.size ≤ after.tallies.size := by
  induction moves with
  | refl ledger => exact Nat.le_refl _
  | trans before after first second => exact Nat.le_trans first second
  | openBook ledger service ours => exact Nat.le_refl _
  | openTally ledger service key ours missing => simp [Ledger.openTally]
  | purge ledger service ours => exact Nat.le_refl _
  | tabulate ledger service table ours => exact Nat.le_refl _
  | change ledger handle update ours keeps => simp [Ledger.change]

/-- After some moves a book leads to where it led before, or to a tally that is new.

Only a tally that is opened brings in an entry, and it is put behind all tallies that were there;
a purge takes entries away, and nothing else touches them. -/
theorem leads {before after : Ledger ω} (moves : Moves now about on before after)
    (service : String) (key : Identity) (handle : Handle) (led : after.Leads service key handle) :
    before.Leads service key handle ∨ before.tallies.size ≤ handle := by
  induction moves with
  | refl ledger => exact .inl led
  | trans first second before after =>
    rcases after led with old | new
    · exact before old
    · exact .inr (Nat.le_trans first.size_le new)
  | openBook ledger other ours =>
    rw [Leads, book_openBook] at led
    exact .inl led
  | openTally ledger other identity ours missing =>
    rw [Leads, find?_openTally] at led
    split at led
    · exact .inr (Nat.le_of_eq (Option.some.inj led))
    · exact .inl led
  | purge ledger other ours =>
    rw [Leads, find?_purge] at led
    split at led
    · exact .inl (Option.filter_eq_some_iff.mp led).1
    · exact .inl led
  | tabulate ledger other table ours =>
    rw [Leads, book_tabulate] at led
    split at led <;> exact .inl led
  | change ledger other update ours keeps => exact .inl led

end Moves

/-- The handles to which certain books lead, and those that are still to come, are all among
certain handles. -/
structure Free (about : String → Prop) (on : Handle → Prop) (ledger : Ledger ω) : Prop where
  led : ∀ service key handle, about service → ledger.Leads service key handle → on handle
  new : ∀ handle, ledger.tallies.size ≤ handle → on handle

/-- Handles that are free stay so: moves open tallies only with new handles. -/
theorem Free.moves {before after : Ledger ω} (free : Free about on before)
    (moves : Moves now about on before after) : Free about on after where
  led service key handle ours leads := by
    rcases moves.leads service key handle leads with old | new
    · exact free.led service key handle ours old
    · exact free.new handle new
  new handle beyond := free.new handle (Nat.le_trans moves.size_le beyond)

/-- A call that starts moves the book of its target and the tally to which that leads. -/
theorem moves_beforeCall (ledger : Ledger ω) (free : Free about on ledger) (x : Instance)
    (ours : about x.service) :
    Moves now about on ledger (ledger.beforeCall now x).1 ∧
      (ledger.beforeCall now x).1.Leads x.service x.identity (ledger.beforeCall now x).2 := by
  have access : Moves now about on ledger (ledger.access now x.service x).1 ∧ _ :=
    ledger.moves_access x.service x ours
  obtain ⟨opened, leads⟩ := access
  have here := (free.moves opened).led _ _ _ ours leads
  exact ⟨opened.trans (.change _ _ _ here fun _ => rfl), leads⟩

end Ledger

section Steps

variable [Weight ω] {about : String → Prop} {on : Handle → Prop}

/-- A choice moves the book of its service and those of its candidates. -/
theorem Balance.moves_choose (balance : Balance ω) (strategy : Strategy) (draw : Draw ω)
    (now : Instant) (service : String) (candidates : List Instance) (own : about service)
    (ours : ∀ x ∈ candidates, about x.service) :
    Ledger.Moves now about on balance.ledger
      (balance.choose strategy draw now service candidates).1.ledger := by
  -- Only the two strategies that read the ledger move it, to open books and tallies and to
  -- tabulate.
  have selected : Ledger.Moves now about on balance.ledger
      (balance.select strategy draw now service candidates).1.ledger := by
    cases strategy with
    | roundRobin => exact .refl _
    | retryRoundRobin => exact .refl _
    | bestAvailable => exact balance.ledger.moves_leastActive none candidates ours
    | weightedResponseTime =>
      have fitted : Ledger.Moves now about on balance.ledger
          ((balance.ledger.openBook service).fittingTable now service candidates).1 :=
        (Ledger.Moves.openBook _ service own).trans
          (Ledger.moves_fittingTable _ service candidates own)
      unfold select selectWeighted
      dsimp only
      split
      · exact fitted
      · split <;> exact fitted
    | random =>
      unfold select
      dsimp only
      split <;> exact .refl _
    | custom name rule => exact .refl _
  unfold choose
  split
  · exact .refl _
  · generalize balance.select strategy draw now service candidates = picked at selected ⊢
    obtain ⟨after, picked⟩ := picked
    cases picked <;> exact selected

/-- A selection that keeps to certain services: its own, and those of its candidates. -/
structure Selection.Minds (about : String → Prop) (selection : Selection) (met : Encounter ω) :
    Prop where
  own : about selection.service
  offered : ∀ listed, selection.listed? met = some listed →
    ∀ x ∈ met.router.candidates listed, about x.service

/-- A selection that goes on moves the books of the services to which it keeps.

Only a choice moves any: the book of its service, and those of the candidates that are left. -/
theorem Selection.moves_resume (selection : Selection) (met : Encounter ω)
    (minds : selection.Minds about met) :
    Ledger.Moves met.moment.now about on met.router.balance.ledger
      (selection.resume met.router met.moment met.answer).1.balance.ledger := by
  obtain ⟨own, offered⟩ := minds
  have goes := selection.goesOn met
  generalize selection.listed? met = list at goes offered
  generalize selection.resume met.router met.moment met.answer = after at goes ⊢
  cases goes with
  | stays => exact .refl _
  | waits => exact .refl _
  | chooses cache lookup looked listed balance picked? choice =>
    have moves : Ledger.Moves met.moment.now about on met.router.balance.ledger
        (met.router.balance.choose (selection.settled met.router) met.moment.draw met.moment.now
          selection.service
          (avoiding (met.router.candidates listed) selection.failed)).1.ledger :=
      Balance.moves_choose _ _ _ _ _ _ own
        fun x left => offered listed rfl x (mem_of_mem_avoiding _ _ x left)
    rwa [choice] at moves

namespace Invocation

/-- The selection of an invocation moves the books that it minds, and the call that it leads to
opens a tally in the book of its target. -/
theorem moves_advance (invocation : Invocation) (selection : Selection) (met : Encounter ω)
    (free : Ledger.Free about on met.router.balance.ledger) (minds : selection.Minds about met)
    (called : ∀ x, (selection.resume met.router met.moment met.answer).2.phase = .chosen (some x) →
      about x.service) :
    Ledger.Moves met.moment.now about on met.router.balance.ledger
      (invocation.advance met.router met.moment selection met.answer).1.balance.ledger := by
  have selected : Ledger.Moves met.moment.now about on met.router.balance.ledger
      (selection.resume met.router met.moment met.answer).1.balance.ledger :=
    selection.moves_resume met minds
  unfold advance engage
  split
  · exact selected
  · rename_i x chosen
    exact selected.trans
      (Ledger.moves_beforeCall _ (free.moves selected) x (called x chosen)).1
  · exact selected

omit [Weight ω] in
/-- To close the statistics of an attempt changes the tally behind its handle. -/
theorem moves_account (router : Router ω) (policy : RetryPolicy) (attempt : Attempt)
    (now : Instant) (outcome : Except Failure Reply) (ours : on attempt.handle) :
    Ledger.Moves now about on router.balance.ledger
      (account router policy attempt now outcome).balance.ledger := by
  unfold account
  dsimp only
  split <;> exact .change _ _ _ ours fun _ => rfl

end Invocation

/-- A task that keeps to certain services and handles: its selection does, the instance that it
calls is of one of the services, and the attempt that it can close is on one of the handles. -/
structure Task.Minds (about : String → Prop) (on : Handle → Prop) (task : Task)
    (encounter : Encounter ω) : Prop where
  selecting : ∀ selection met, task.selecting? encounter = some (selection, met) →
    selection.Minds about met
  calling : ∀ invocation selection met x, task = .invoking invocation →
    task.selecting? encounter = some (selection, met) →
      (selection.resume met.router met.moment met.answer).2.phase = .chosen (some x) →
        about x.service
  closing : ∀ number attempt, task.attempt? = some (number, attempt) → on attempt.handle

omit [Weight ω] in
/-- To close an attempt counts on its own handle. -/
theorem Invocation.Closing.moves {invocation : Invocation} {encounter : Encounter ω}
    {router : Router ω} (closing : invocation.Closing encounter router)
    (ours : ∀ number attempt, (Task.invoking invocation).attempt? = some (number, attempt) →
      on attempt.handle) :
    Ledger.Moves encounter.moment.now about on encounter.router.balance.ledger
      router.balance.ledger := by
  cases closing with
  | nothing => exact .refl _
  | attempt attempt outcome phase =>
    obtain ⟨service, policy, ended, failed, _⟩ := invocation
    subst phase
    exact moves_account _ _ attempt _ outcome (ours _ attempt rfl)

/-- A task that goes on moves the books and changes the tallies to which it keeps.

It closes its attempt, if one ends, and then the next selection may open books and tallies; the
tallies that it must not touch are not in its books after the closing either. -/
theorem Invocation.moves_resume (invocation : Invocation) (encounter : Encounter ω)
    (free : Ledger.Free about on encounter.router.balance.ledger)
    (minds : (Task.invoking invocation).Minds about on encounter) :
    Ledger.Moves encounter.moment.now about on encounter.router.balance.ledger
      (invocation.resume encounter.router encounter.moment encounter.answer).1.balance.ledger := by
  obtain ⟨minded, calling, ours⟩ := minds
  have goes := invocation.goesOn encounter
  simp only [Task.selecting?] at minded calling
  generalize invocation.selecting? encounter = selecting at goes minded calling
  generalize invocation.resume encounter.router encounter.moment encounter.answer = after
    at goes ⊢
  cases goes with
  | stays => exact .refl _
  | ends router closing => exact closing.moves ours
  | rests router closing => exact closing.moves ours
  | selects next selection met closing moment =>
    have closed : Ledger.Moves encounter.moment.now about on encounter.router.balance.ledger
        met.router.balance.ledger := closing.moves ours
    rw [← moment] at closed ⊢
    exact closed.trans
      (next.moves_advance selection met (free.moves closed) (minded _ _ rfl)
        fun x => calling _ _ _ x rfl rfl)

/-- A task that goes on moves only what it minds: its selection moves books, and its attempt
counts on a handle. -/
theorem Task.moves_resume (task : Task) (client : Client ω) (moment : Moment ω) (answer : Answer)
    (free : Ledger.Free about on client.router.balance.ledger)
    (minds : task.Minds about on ⟨client.router, moment, answer⟩) :
    Ledger.Moves moment.now about on client.router.balance.ledger
      (task.resume client moment answer).1.router.balance.ledger := by
  cases task with
  | choosing selection =>
    exact selection.moves_resume ⟨client.router, moment, answer⟩ (minds.selecting _ _ rfl)
  | invoking invocation =>
    exact invocation.moves_resume ⟨client.router, moment, answer⟩ free minds
  | looking lookup => exact .refl _
  | sweeping sweep => exact .refl _
  | _ =>
    rw [router_resume]
    · exact .refl _
    · exact trivial

/-- A round moves all books. -/
theorem Router.moves_aggregate (router : Router ω) (now : Instant)
    (ours : ∀ service ∈ router.balance.ledger.services.keys, about service) :
    Ledger.Moves now about on router.balance.ledger
      (router.aggregate now).1.balance.ledger := by
  have round : Ledger.Moves now about on router.balance.ledger _ :=
    router.balance.ledger.moves_round router.cachedCandidates router.balance.ledger.services.keys
      ours
  rw [← Ledger.aggregateAll_fst] at round
  exact round

/-- A job that goes on moves all books at most, and counts nothing. -/
theorem Job.moves_resume (job : Job) (encounter : Encounter ω)
    (ours : ∀ service ∈ encounter.router.balance.ledger.services.keys, about service) :
    Ledger.Moves encounter.moment.now about on encounter.router.balance.ledger
      (job.resume encounter.router encounter.moment encounter.answer).1.balance.ledger := by
  obtain ⟨router, moment, answer⟩ := encounter
  have round : Ledger.Moves moment.now about on router.balance.ledger
      (router.aggregate moment.now).1.balance.ledger := router.moves_aggregate moment.now ours
  cases job with
  | aggregating interval due =>
    cases due <;> cases answer <;> first
      | exact round
      | exact .refl _
  | refreshing interval due sweep => cases due <;> cases sweep <;> cases answer <;> exact .refl _

/-- The services about which an adjustment is. -/
def Adjustment.Minds (about : String → Prop) (adjustment : Adjustment ω) (router : Router ω) :
    Prop :=
  match adjustment with
  | .aggregate => ∀ service ∈ router.balance.ledger.services.keys, about service
  | .aggregateService service _ | .purge service | .openBook service | .consult service _ =>
    about service
  | .pick _ _ service candidates => about service ∧ ∀ x ∈ candidates, about x.service
  | .addFilter _ | .registerStrategy _ | .declarePolicy _ | .invalidate _ => True

/-- An adjustment moves the books about which it is, and counts nothing. -/
theorem Adjustment.moves_apply (adjustment : Adjustment ω) (now : Instant) (router : Router ω)
    (minds : adjustment.Minds about router) :
    Ledger.Moves now about on router.balance.ledger
      (adjustment.apply now router).balance.ledger := by
  cases adjustment with
  | aggregate => exact router.moves_aggregate now minds
  | aggregateService service candidates =>
    exact router.balance.ledger.moves_aggregate service candidates minds
  | purge service => exact .purge _ service minds
  | openBook service => exact .openBook _ service minds
  | consult service x => exact (router.balance.ledger.moves_access service x minds).1
  | pick strategy draw service candidates =>
    exact router.balance.moves_choose strategy draw now service candidates minds.1 minds.2
  | addFilter filter => exact .refl _
  | registerStrategy strategy => exact .refl _
  | declarePolicy declared => exact .refl _
  | invalidate service => exact .refl _

/-- Whatever happens at an event, it is made of moves.

Only answers, jobs and adjustments reach the ledger. Here all books and handles are allowed, so
nothing has to be said about whose they are. -/
theorem World.moves_step (world : World ω) (event : Event ω) :
    Ledger.Moves world.now (fun _ => True) (fun _ => True) world.ledger
      (world.step event).ledger := by
  have free (ledger : Ledger ω) : Ledger.Free (fun _ => True) (fun _ => True) ledger :=
    ⟨fun _ _ _ _ _ => trivial, fun _ _ => trivial⟩
  have minds (selection : Selection) (met : Encounter ω) :
      selection.Minds (fun _ => True) met := ⟨trivial, fun _ _ _ _ => trivial⟩
  cases event with
  | answer place draw answer =>
    cases roused : world.roused? place answer with
    | none =>
      simp only [step, roused]
      exact .refl _
    | some entry =>
      simp only [step, roused]
      exact entry.2.moves_resume world.client (world.moment entry.1 draw) answer (free _)
        ⟨fun selection met _ => minds selection met, fun _ _ _ _ _ _ _ => trivial,
          fun _ _ _ => trivial⟩
  | work ticket draw answer =>
    cases found : world.client.jobs.lookup ticket with
    | none =>
      simp only [step, found]
      exact .refl _
    | some job =>
      simp only [step, found]
      split
      · simp only [ledger, Client.resumeJob, moment, found]
        exact job.moves_resume ⟨world.client.router, world.moment ticket draw, answer⟩
          fun _ _ => trivial
      · exact .refl _
  | leave place =>
    simp only [step]
    split <;> exact .refl _
  | adjust adjustment =>
    refine adjustment.moves_apply world.now world.client.router ?_
    cases adjustment <;> first
      | trivial
      | exact ⟨trivial, fun _ _ => trivial⟩
      | exact fun _ _ => trivial
  | pass span => exact .refl _
  | request request => exact .refl _
  | dismiss => exact .refl _

end Steps

end CallRouting
