import CallRouting.Proofs.AgreeingWorlds
import CallRouting.Proofs.Deeds
import CallRouting.Proofs.Tables

/-!
# Purges that nobody sees

Callers may take what is expired out of the books at any time. In two runs of a scene that
differ in such purges only, everybody gets the same handles from the books, calls and chooses
the same instances, computes the same tables and counts the same on all tallies, whatever the
lifetime of a tally is. What differs is how many entries a purge finds in a book, and what a
view of the book shows.

The reason is that an entry is read as long as its tally is not expired, and no longer, whether
or not somebody takes it out then. So in each run two accesses to one instance get the same
tally if the later one comes within the lifetime of the tally, and only then.
-/

namespace CallRouting

variable {ω : Type}

/-- An act that takes what is expired out of a book. -/
def Act.isPurge : Act ω → Bool
  | .event (.adjust (.purge _)) => true
  | _ => false

/-- The instance that an act looks for in the book of a service. -/
def Act.sought? : Act ω → Option (String × Instance)
  | .hook (.hold service x _) | .event (.adjust (.consult service x)) => some (service, x)
  | .hook (.current x _) => some (x.service, x)
  | _ => none

/-- What counts or shows the entries of a book, expired ones included. -/
def Finding.isCensus : Finding ω → Bool
  | .purged _ | .read _ => true
  | _ => false

/-- An entry of a book that somebody gets, with the handle of its tally. -/
structure Access where
  service : String
  key : Identity
  handle : Handle

/-- What somebody sees of an act. -/
inductive Shown (ω : Type)
  | reached (access : Access)
  | found (finding : Finding ω)

namespace Scene

/-- The entry that an act gets from a book. -/
def access? (scene : Scene ω) (act : Act ω) : Option Access :=
  act.sought?.map fun (service, x) =>
    ⟨service, x.identity, (scene.ledger.access scene.now service x).2⟩

variable [Weight ω]

/-- What is found out by an act. -/
def found (scene : Scene ω) : Act ω → List (Finding ω)
  | .event (.answer place draw answer) => scene.world.findings place draw answer
  | .event (.adjust adjustment) => adjustment.findings scene.now scene.router
  | .hook hook => scene.findings hook
  | _ => []

/-- What is seen of an act, but for the entries of books as such. -/
def shown (scene : Scene ω) (act : Act ω) : List (Shown ω) :=
  (scene.access? act).toList.map .reached ++
    ((scene.found act).filter fun finding => !finding.isCensus).map .found

/-- What is seen in a run. -/
def seen (scene : Scene ω) : List (Act ω) → List (Shown ω)
  | [] => []
  | act :: rest => scene.shown act ++ (scene.step act).seen rest

/-- Scenes that are the same up to worlds that agree. -/
inductive Agrees (scene : Scene ω) : Scene ω → Prop
  | intro (world : World ω) (agrees : scene.world.Agrees world) :
      Agrees scene { scene with world }

/-- Of a purge nothing is seen. -/
theorem shown_of_isPurge (scene : Scene ω) (act : Act ω) (purges : act.isPurge = true) :
    scene.shown act = [] := by
  cases act with
  | hook hook => cases purges
  | event event =>
    cases event with
    | adjust adjustment =>
      cases adjustment with
      | purge service => rfl
      | _ => cases purges
    | _ => cases purges

namespace Agrees

variable {first second : Scene ω}

omit [Weight ω] in
/-- A scene agrees with one that differs by a ledger that agrees. -/
theorem of_ledger (scene : Scene ω) {ledger : Ledger ω}
    (ledgers : scene.ledger.Agrees scene.now ledger) : scene.Agrees (scene.withLedger ledger) :=
  ⟨_, _, _, _, _, ledgers⟩

omit [Weight ω] in
/-- Scenes that agree are the same up to their ledgers. -/
theorem eq_withLedger (agrees : first.Agrees second) :
    second = first.withLedger second.ledger := by
  obtain ⟨_, _, _, _, _, _⟩ := agrees
  rfl

omit [Weight ω] in
/-- Scenes that agree have ledgers that agree. -/
theorem ledger (agrees : first.Agrees second) :
    first.ledger.Agrees first.now second.ledger := by
  obtain ⟨_, _, _, _, _, ledgers⟩ := agrees
  exact ledgers

omit [Weight ω] in
/-- Scenes that agree are at the same time. -/
theorem now_eq (agrees : first.Agrees second) : second.now = first.now := by
  obtain ⟨_, _, _⟩ := agrees
  rfl

omit [Weight ω] in
/-- Scenes that agree still do so with other ledgers that agree. -/
theorem withLedger (agrees : first.Agrees second) {ledger ledgerToo : Ledger ω}
    (ledgers : ledger.Agrees first.now ledgerToo) :
    (first.withLedger ledger).Agrees (second.withLedger ledgerToo) := by
  obtain ⟨_, _, _, _, _, _⟩ := agrees
  exact ⟨_, _, _, _, _, ledgers⟩

omit [Weight ω] in
/-- A hook reaches the same tally in two scenes that agree, or none in either.

An access finds or opens a tally in both, on one handle; a handle that is kept is the same in
both. -/
theorem reach (agrees : first.Agrees second) (hook : Hook) :
    (first.reach hook = none ∧ second.reach hook = none) ∨
      ∃ ledger ledgerToo handle, first.reach hook = some (ledger, handle) ∧
        second.reach hook = some (ledgerToo, handle) ∧ ledger.Agrees first.now ledgerToo := by
  have ledgers := agrees.ledger
  obtain ⟨_, _, _⟩ := agrees
  cases hook with
  | hold service x name =>
    obtain ⟨opened, same⟩ := ledgers.access service x
    exact .inr ⟨_, _, _, rfl, congrArg (fun handle => some (_, handle)) same, opened⟩
  | current x count =>
    obtain ⟨opened, same⟩ := ledgers.access x.service x
    exact .inr ⟨_, _, _, rfl, congrArg (fun handle => some (_, handle)) same, opened⟩
  | held service name count =>
    simp only [Scene.reach]
    cases first.kept.find? (service, name) with
    | none => exact .inl ⟨rfl, rfl⟩
    | some handle => exact .inr ⟨_, _, handle, rfl, rfl, ledgers⟩

omit [Weight ω] in
/-- A hook that is met in both leaves scenes that agree: it reaches the same tally in both, and
counts the same there. -/
theorem meet (agrees : first.Agrees second) (hook : Hook) :
    (first.meet hook).Agrees (second.meet hook) := by
  unfold Scene.meet
  rcases agrees.reach hook with
    ⟨nothing, nothingToo⟩ | ⟨ledger, ledgerToo, handle, reached, too, same⟩
  · rw [nothing, nothingToo]
    exact agrees
  · rw [reached, too]
    cases hook with
    | hold service x name =>
      obtain ⟨_, _, _, _, _, _⟩ := agrees
      exact ⟨_, _, _, _, _, same⟩
    | held service name count =>
      exact agrees.withLedger (same.change handle count.apply count.createdAt_apply)
    | current x count =>
      exact agrees.withLedger (same.change handle count.apply count.createdAt_apply)

/-- An act in both of two scenes that agree leaves scenes that agree. -/
theorem step (agrees : first.Agrees second) (act : Act ω) :
    (first.step act).Agrees (second.step act) := by
  cases act with
  | event event =>
    obtain ⟨_, worlds⟩ := agrees
    exact ⟨_, worlds.step event⟩
  | hook hook => exact agrees.meet hook

/-- A purge on one side is not seen on the other. -/
theorem step_of_isPurge (agrees : first.Agrees second) (act : Act ω) (purges : act.isPurge = true) :
    (first.step act).Agrees second := by
  obtain ⟨_, _, _, _, _, ledgers⟩ := agrees
  cases act with
  | hook hook => cases purges
  | event event =>
    cases event with
    | adjust adjustment =>
      cases adjustment with
      | purge service =>
        exact ⟨_, _, _, _, _,
          (first.ledger.agrees_purge ledgers.sounds.1 first.now service).symm.trans ledgers⟩
      | _ => cases purges
    | _ => cases purges

omit [Weight ω] in
/-- An act gets the same entry in scenes that agree. -/
theorem access? (agrees : first.Agrees second) (act : Act ω) :
    second.access? act = first.access? act := by
  unfold Scene.access?
  rw [agrees.now_eq]
  cases act.sought? with
  | none => rfl
  | some sought =>
    obtain ⟨service, x⟩ := sought
    exact congrArg (fun handle => some (Access.mk service x.identity handle))
      (agrees.ledger.access service x).2

/-- The answer to a task finds out the same in scenes that agree. -/
theorem findings_answer (agrees : first.Agrees second) (place : Nat) (draw : Draw ω)
    (answer : Answer) :
    second.world.findings place draw answer = first.world.findings place draw answer := by
  obtain ⟨world, agrees⟩ := agrees
  unfold World.findings
  dsimp only
  rw [agrees.roused?]
  obtain ⟨client, agrees⟩ := agrees
  cases first.world.roused? place answer with
  | none => rfl
  | some entry =>
    exact congrArg Task.findings
      (entry.2.agrees_resume (first.world.moment entry.1 draw) answer agrees).2

/-- What an adjustment finds out differs only in what it tells of the entries of a book.

Tables, tallies and choices are read from what is not expired, and on that the ledgers agree. -/
theorem findings_adjust (agrees : first.Agrees second) (adjustment : Adjustment ω) :
    ((adjustment.findings second.now second.router).filter fun finding => !finding.isCensus) =
      (adjustment.findings first.now first.router).filter fun finding => !finding.isCensus := by
  obtain ⟨_, _, _, _, balances⟩ := agrees
  have ledgers := balances
  obtain ⟨ledger, ledgers⟩ := ledgers
  cases adjustment with
  | aggregateService service candidates =>
    exact congrArg (fun table => [Finding.weighed table]) (ledgers.aggregate service candidates).2
  | consult service x =>
    obtain ⟨opened, same⟩ := ledgers.access service x
    have tally := (congrArg _ same).trans (opened.tally _)
    exact congrArg (fun tally => [Finding.tallied tally]) tally
  | pick strategy draw service candidates =>
    exact congrArg (fun picked => [Finding.chosen picked])
      (balances.choose strategy draw service candidates).2
  | _ => rfl

omit [Weight ω] in
/-- A hook finds out the same in scenes that agree. -/
theorem findings_hook (agrees : first.Agrees second) (hook : Hook) :
    second.findings hook = first.findings hook := by
  have after := (agrees.meet hook).ledger
  unfold Scene.findings
  rcases agrees.reach hook with
    ⟨nothing, nothingToo⟩ | ⟨ledger, ledgerToo, handle, reached, too, same⟩
  · rw [nothing, nothingToo]
  · simp only [reached, too]
    rw [Ledger.Agrees.tally after]

/-- In both scenes the same is seen of an act. -/
theorem shown (agrees : first.Agrees second) (act : Act ω) :
    second.shown act = first.shown act := by
  unfold Scene.shown
  rw [agrees.access?]
  refine congrArg ((first.access? act).toList.map Shown.reached ++ ·) (congrArg _ ?_)
  cases act with
  | hook hook => exact congrArg _ (agrees.findings_hook hook)
  | event event =>
    cases event with
    | answer place draw answer => exact congrArg _ (agrees.findings_answer place draw answer)
    | adjust adjustment => exact agrees.findings_adjust adjustment
    | _ => rfl

/-- A run with purges and the same run without them are seen alike.

By induction on the acts: a purge is done in one scene alone, which still agrees and shows
nothing; any other act is done in both. -/
theorem run (agrees : first.Agrees second) (acts : List (Act ω)) :
    (first.run acts).Agrees (second.run (acts.filter fun act => !act.isPurge)) ∧
      second.seen (acts.filter fun act => !act.isPurge) = first.seen acts := by
  induction acts generalizing first second with
  | nil => exact ⟨agrees, rfl⟩
  | cons act rest inductionHypothesis =>
    cases purges : act.isPurge with
    | false =>
      obtain ⟨after, same⟩ := inductionHypothesis (agrees.step act)
      rw [List.filter_cons_of_pos (by simp [purges])]
      refine ⟨after, ?_⟩
      rw [seen, seen, agrees.shown, same]
    | true =>
      obtain ⟨after, same⟩ := inductionHypothesis (agrees.step_of_isPurge act purges)
      rw [List.filter_cons_of_neg (by simp [purges])]
      refine ⟨after, ?_⟩
      rw [same, seen, first.shown_of_isPurge act purges, List.nil_append]

end Agrees

/-- Whatever an act does to the statistics is made of moves: an event moves the ledger, and a hook
finds or opens a tally and counts on it. -/
theorem moves_step (scene : Scene ω) (act : Act ω) :
    Ledger.Moves scene.now (fun _ => True) (fun _ => True) scene.ledger
      (scene.step act).ledger := by
  cases act with
  | event event => exact scene.world.moves_step event
  | hook hook =>
    cases hook with
    | hold service x name => exact (scene.ledger.moves_access service x trivial).1
    | current x count =>
      exact (scene.ledger.moves_access x.service x trivial).1.trans
        (.change _ _ _ trivial count.createdAt_apply)
    | held service name count =>
      simp only [step, meet, reach]
      cases scene.kept.find? (service, name) with
      | none => exact .refl _
      | some handle => exact .change _ _ _ trivial count.createdAt_apply

/-- Time does not run back. -/
theorem now_le_step (scene : Scene ω) (act : Act ω) : scene.now ≤ (scene.step act).now := by
  cases act with
  | hook hook =>
    simp only [step, meet]
    split
    · exact Nat.le_refl _
    · split <;> exact Nat.le_refl _
  | event event =>
    cases event with
    | pass span => exact Nat.le_add_right _ _
    | _ =>
      simp only [step, World.step]
      (repeat' split) <;> exact Nat.le_refl _

/-- What stays of the statistics from one scene to a later one: the tallies are dated as they
were, and the books lead to each as before, as long as it is not expired. -/
structure Continues (before after : Scene ω) : Prop where
  sound : after.ledger.Sound
  lifetime : after.ledger.lifetime = before.ledger.lifetime
  size_le : before.ledger.tallies.size ≤ after.ledger.tallies.size
  createdAt : ∀ handle, handle < before.ledger.tallies.size →
    (after.ledger.tally handle).createdAt = (before.ledger.tally handle).createdAt
  leads : ∀ service key handle, handle < before.ledger.tallies.size →
    before.ledger.Leads service key handle →
    (after.ledger.tally handle).isExpired after.ledger.lifetime after.now = false →
    after.ledger.Leads service key handle

namespace Continues

variable {before middle : Scene ω}

/-- What stays up to a scene stays after a further act. A tally that has not expired after the
act had not expired before it, so neither a purge nor an access has put it aside. -/
theorem step (continues : before.Continues middle) (act : Act ω) :
    before.Continues (middle.step act) := by
  have moves := middle.moves_step act
  have created (handle : Handle) (there : handle < before.ledger.tallies.size) :
      ((middle.step act).ledger.tally handle).createdAt =
        (middle.ledger.tally handle).createdAt :=
    moves.createdAt handle (Nat.lt_of_lt_of_le there continues.size_le)
  refine ⟨moves.sound continues.sound, moves.lifetime.trans continues.lifetime,
    Nat.le_trans continues.size_le moves.size_le, ?_, ?_⟩
  · exact fun handle there => (created handle there).trans (continues.createdAt handle there)
  · intro service key handle there led young
    -- What is not expired after the act was not expired before it.
    have fresh :
        (middle.ledger.tally handle).isExpired middle.ledger.lifetime middle.now = false := by
      by_contra old
      have older := (middle.ledger.tally handle).isExpired_later middle.ledger.lifetime middle.now
        (middle.step act).now (middle.now_le_step act) (by simpa using old)
      simp only [Tally.isExpired, created handle there, moves.lifetime] at young older
      rw [young] at older
      cases older
    have current : middle.ledger.current? middle.now service key = some handle := by
      rw [Ledger.current?_eq, continues.leads service key handle there led fresh,
        Option.filter_some, fresh]
      rfl
    exact Ledger.leads_of_current? _ service key handle
      (moves.current? continues.sound service key handle current)

/-- What stays, stays through a run, by induction over its acts. -/
theorem run (scene : Scene ω) (sound : scene.ledger.Sound) (acts : List (Act ω)) :
    scene.Continues (scene.run acts) := by
  induction acts using List.reverseRecOn with
  | nil => exact ⟨sound, rfl, Nat.le_refl _, fun _ _ => rfl, fun _ _ _ _ led _ => led⟩
  | append_singleton acts act inductionHypothesis =>
    rw [run_append]
    exact inductionHypothesis.step act

end Continues

/-- After an act that gets an entry from a book, the book leads there. -/
theorem leads_of_access? (scene : Scene ω) (act : Act ω) (access : Access)
    (gets : scene.access? act = some access) :
    (scene.step act).ledger.Leads access.service access.key access.handle := by
  -- Whoever looks for a tally is led there by the book afterwards.
  have leads (service : String) (x : Instance) :
      (scene.ledger.access scene.now service x).1.Leads service x.identity
        (scene.ledger.access scene.now service x).2 := by
    have moves : Ledger.Moves scene.now (fun _ => True) (fun _ => True) scene.ledger _ ∧ _ :=
      scene.ledger.moves_access service x trivial
    exact moves.2
  obtain ⟨⟨service, x⟩, sought, rfl⟩ := Option.map_eq_some_iff.mp gets
  cases act with
  | hook hook => cases hook <;> cases sought <;> exact leads _ _
  | event event =>
    cases event with
    | adjust adjustment =>
      cases adjustment <;> cases sought
      exact leads service x
    | _ => cases sought

/-- Two accesses to one entry get the same tally if the second one comes within the lifetime of
the tally, and only then.

In between no tally changes its time of creation, and the book leads to it as long as it has not
expired. -/
theorem handle_eq_iff (scene : Scene ω) (sound : scene.ledger.Sound) (first last : Act ω)
    (between : List (Act ω)) (one other : Access) (gets : scene.access? first = some one)
    (getsToo : ((scene.step first).run between).access? last = some other)
    (service : other.service = one.service) (key : other.key = one.key) :
    other.handle = one.handle ↔
      ((scene.step first).run between).now -
          ((scene.step first).ledger.tally one.handle).createdAt <
        scene.ledger.lifetime.nanos := by
  have moves := scene.moves_step first
  have leads := scene.leads_of_access? first one gets
  have soundNext := moves.sound sound
  have there := soundNext _ _ _ leads
  have continues := Continues.run (scene.step first) soundNext between
  obtain ⟨⟨_, x⟩, -, rfl⟩ := Option.map_eq_some_iff.mp getsToo
  dsimp only at service key ⊢
  subst service
  have same := Ledger.access_eq_iff _ ((scene.step first).run between).now one.service x one.handle
    (Nat.lt_of_lt_of_le there continues.size_le)
    (continues.leads one.service x.identity one.handle there (key ▸ leads))
  rw [same, Tally.isExpired, continues.createdAt one.handle there, continues.lifetime,
    moves.lifetime, decide_eq_false_iff_not, Nat.not_le]

/-- In each run of a scene around a client that begins with empty statistics, whatever the
lifetime of a tally is, purges are not seen. Without them the same entries are got from the
books, the same instances are chosen and called, the same is counted on the same tallies and the
same tables are computed, and the scene is the same afterwards up to the books. These have the
same tables, and read the same then and at all later times. And two accesses to one entry get
the same tally if the second one comes within the lifetime of the tally, from its creation on,
and only then.

The run without its purges is followed beside the one with them. The two scenes agree up to
entries that nobody would read any more, and each act shows the same in scenes that agree.
Whether a later access gets the same tally is read from the date of that tally. -/
theorem purges_unseen (client : Client ω) (now : Instant) (lifetime : Duration)
    (fresh : client.router.balance.ledger = .empty lifetime) :
    (∀ acts : List (Act ω),
      let purged := (around client now).run acts
      let plain := (around client now).run (acts.filter fun act => !act.isPurge)
      (around client now).seen (acts.filter fun act => !act.isPurge) =
          (around client now).seen acts ∧
        plain = purged.withLedger plain.ledger ∧
        plain.ledger.tallies = purged.ledger.tallies ∧
        plain.ledger.services.keys = purged.ledger.services.keys ∧
        (∀ service, (plain.ledger.book service).weights = (purged.ledger.book service).weights) ∧
        ∀ later, purged.now ≤ later → ∀ service key,
          plain.ledger.current? later service key = purged.ledger.current? later service key) ∧
      ∀ (earlier between : List (Act ω)) (first last : Act ω) (one other : Access),
        ((around client now).run earlier).access? first = some one →
        ((around client now).run (earlier ++ first :: between)).access? last = some other →
        other.service = one.service → other.key = one.key →
        (other.handle = one.handle ↔
          ((around client now).run (earlier ++ first :: between)).now -
              (((around client now).run (earlier ++ [first])).ledger.tally one.handle).createdAt <
            lifetime.nanos) := by
  have empty : (around client now).ledger = .empty lifetime := fresh
  have sound : (around client now).ledger.Sound := empty ▸ Ledger.sound_empty lifetime
  refine ⟨?_, ?_⟩
  · intro acts purged plain
    have start : (around client now).Agrees (around client now) := .of_ledger _ (.refl sound)
    obtain ⟨agrees, seen⟩ := start.run acts
    have ledgers := agrees.ledger
    exact ⟨seen, agrees.eq_withLedger, ledgers.tallies, ledgers.services, ledgers.weights,
      ledgers.current⟩
  · intro earlier between first last one other gets getsToo service key
    have continues := Continues.run _ sound earlier
    have within : ((around client now).run earlier).ledger.lifetime = lifetime := by
      rw [continues.lifetime, empty]
      rfl
    rw [run_append] at getsToo ⊢
    rw [run_append, ← within]
    exact handle_eq_iff _ continues.sound first last between one other gets getsToo service key

/-- Two instances of one service. -/
def visitedOne : Instance := .ofAddress "orders" "10.0.0.1" 80

/-- The other one. -/
def visitedOther : Instance := .ofAddress "orders" "10.0.0.2" 80

/-- Somebody takes the tallies of both, and a purge finds both expired after an hour. -/
def purgedVisit : List (Act Int) :=
  [.hook (.hold "orders" visitedOther "other"), .event (.pass 3600000000000),
    .event (.adjust (.purge "orders"))]

/-- The visits with the purge, and with a further look at the first instance. -/
def visits : List (Act Int) :=
  .hook (.hold "orders" visitedOne "one") :: purgedVisit ++
    [.hook (.current visitedOne .start)]

/-- Without the purge one more entry stands in the book, and the same is seen; and after the hour
the first instance has got another tally. -/
theorem purges_unseen_visits :
    ((around World.byWeight 0).run visits).ledger.tracked "orders" = 1 ∧
      ((around World.byWeight 0).run (visits.filter fun act => !act.isPurge)).ledger.tracked
        "orders" = 2 ∧
      (around World.byWeight 0).seen (visits.filter fun act => !act.isPurge) =
        (around World.byWeight 0).seen visits ∧
      ∃ one other : Access, one.service = other.service ∧ one.key = other.key ∧
        (around World.byWeight 0).access? (.hook (.hold "orders" visitedOne "one")) = some one ∧
        ((around World.byWeight 0).run
          (.hook (.hold "orders" visitedOne "one") :: purgedVisit)).access?
            (.hook (.current visitedOne .start)) = some other ∧
        other.handle ≠ one.handle := by
  obtain ⟨unseen, sharing⟩ := purges_unseen World.byWeight 0 (.ofSeconds 3600) rfl
  have apart := sharing [] purgedVisit (.hook (.hold "orders" visitedOne "one"))
    (.hook (.current visitedOne .start)) ⟨"orders", visitedOne.identity, 0⟩
    ⟨"orders", visitedOne.identity, 2⟩ rfl rfl rfl rfl
  refine ⟨by rfl, by rfl, (unseen visits).1, ⟨"orders", visitedOne.identity, 0⟩,
    ⟨"orders", visitedOne.identity, 2⟩, rfl, rfl, rfl, rfl, ?_⟩
  rw [ne_eq, apart]
  decide

end Scene

end CallRouting
