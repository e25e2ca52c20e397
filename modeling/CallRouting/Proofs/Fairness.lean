import CallRouting.Proofs.AlikeAdjustments
import CallRouting.Proofs.Tables
import CallRouting.Proofs.Turns
import Mathlib.Data.Int.CardIntervalMod

/-!
# Fair turns

A client has one strategy configured, for the first attempts of invocations and for choices
without an attempt; a selection settles on it when it begins. If that is round robin, and
nothing is registered in its place, each such selection takes a turn. As the turns for a
service follow one another without a gap, each place of a list gets its share of any window
of turns, up to one.
-/

namespace CallRouting

/-- Among consecutive numbers each remainder comes up as often as every other one, or once
more. -/
theorem count_remainder (start length size place : Nat) (inside : place < size) :
    (List.range length).countP (fun number => (start + number) % size = place) = length / size ∨
      (List.range length).countP (fun number => (start + number) % size = place) =
        (length + size - 1) / size := by
  have positive : 0 < size := Nat.zero_lt_of_lt inside
  -- The numbers that come to the place are those with the remainder of this one.
  let first := place + (size - start % size)
  have arrives : start + first ≡ place [MOD size] := by
    have parts := Nat.div_add_mod start size
    have short := Nat.mod_lt start positive
    have round : start + first = place + size * (start / size + 1) := by
      simp only [first, Nat.mul_add]
      omega
    rw [round]
    exact Nat.add_mul_mod_self_left place size _
  have shifted (number : Nat) : (start + number) % size = place ↔ number ≡ first [MOD size] := by
    constructor
    · intro here
      have same : start + number ≡ place [MOD size] := by
        rw [Nat.ModEq, here, Nat.mod_eq_of_lt inside]
      exact (same.trans arrives.symm).add_left_cancel'
    · intro same
      have arrived : start + number ≡ place [MOD size] := (same.add_left start).trans arrives
      rwa [Nat.ModEq, Nat.mod_eq_of_lt inside] at arrived
  have counted : (List.range length).countP (fun number => (start + number) % size = place) =
      length / size + if first % size < length % size then 1 else 0 := by
    simp only [shifted]
    exact Nat.count_modEq_card length positive first
  rw [counted]
  split
  · rename_i further
    right
    have parts := Nat.div_add_mod length size
    have rounded : length + size - 1 = length % size - 1 + size * (length / size + 1) := by
      rw [Nat.mul_add]
      omega
    have short := Nat.mod_lt length positive
    have rest : (length % size - 1) / size = 0 := Nat.div_eq_of_lt (by omega)
    rw [rounded, Nat.add_mul_div_left _ _ positive, rest, Nat.zero_add]
  · exact .inl rfl

/-- In a window of picks at consecutive places of a list each place is taken as often as every
other one, or once more.

The places of the window are the remainders of consecutive numbers, so this is a count of
remainders. -/
theorem countP_place (window : List Pick) (start size place : Nat) (inside : place < size)
    (places : ∀ number (pick : Pick), window[number]? = some pick →
      pick.place? = some ((start + number) % size)) :
    window.countP (·.place? = some place) = window.length / size ∨
      window.countP (·.place? = some place) = (window.length + size - 1) / size := by
  have taken : window.map Pick.place? =
      (List.range window.length).map fun number => some ((start + number) % size) := by
    apply List.ext_getElem?
    intro number
    rw [List.getElem?_map, List.getElem?_map]
    cases there : window[number]? with
    | none =>
      rw [List.getElem?_eq_none (by simpa using there)]
      rfl
    | some pick =>
      obtain ⟨within, -⟩ := List.getElem?_eq_some_iff.mp there
      rw [List.getElem?_range within]
      exact congrArg some (places number pick there)
  have counted : window.countP (·.place? = some place) =
      (List.range window.length).countP fun number => (start + number) % size = place := by
    calc window.countP (·.place? = some place)
        = (window.map Pick.place?).countP (· = some place) := by
          rw [List.countP_map]
          rfl
      _ = (List.range window.length).countP fun number => (start + number) % size = place := by
          rw [taken, List.countP_map]
          simp only [Function.comp_def, Option.some.injEq]
  rw [counted]
  exact count_remainder start window.length size place inside

variable {ω : Type}

/-- A selection whose strategy is left to the settings goes by round robin, if it has settled. -/
def Selection.Turning (selection : Selection) : Prop :=
  selection.wanted = none →
    ∀ strategy lookup, selection.phase = .looking strategy lookup → strategy = .roundRobin

/-- A selection that is left to the settings settles for round robin, where that is configured. -/
theorem Selection.Turning.settled {selection : Selection} (turning : selection.Turning)
    {router : Router ω} (configured : router.strategy = .roundRobin)
    (plain : selection.wanted = none) : selection.settled router = .roundRobin := by
  have asked : selection.wanted.getD router.strategy = .roundRobin := by
    rw [plain]
    exact configured
  unfold Selection.settled
  split
  · rename_i strategy lookup phase
    exact turning plain strategy lookup phase
  · exact asked
  · exact asked

/-- A task whose selection goes by round robin if it is left to the settings. -/
def Task.Turning (task : Task) : Prop :=
  ∀ selection, task.selection? = some selection → selection.Turning

/-- A selection that begins its lookup goes by round robin if it is left to the settings: it
has settled with the settings of then. -/
theorem Selection.turning_looking (selection : Selection) (router : Router ω)
    (turning : selection.Turning) (configured : router.strategy = .roundRobin) (lookup : Lookup) :
    { selection with phase := .looking (selection.settled router) lookup }.Turning := by
  intro plain strategy current phase
  cases phase
  exact turning.settled configured plain

section Steps

variable [Weight ω]

/-- A selection that goes on still goes by round robin if it is left to the settings. -/
theorem Selection.turning_resume (selection : Selection) (met : Encounter ω)
    (turning : selection.Turning) (configured : met.router.strategy = .roundRobin) :
    (selection.resume met.router met.moment met.answer).2.Turning := by
  have goes := selection.goesOn met
  generalize selection.listed? met = list at goes
  generalize selection.resume met.router met.moment met.answer = after at goes ⊢
  cases goes with
  | stays => exact turning
  | waits cache lookup => exact selection.turning_looking met.router turning configured lookup
  | chooses => exact fun _ _ _ phase => (nomatch phase)

end Steps

/-- An event that puts another strategy in the place of one with this name. -/
def Event.Replaces (name : String) : Event ω → Prop
  | .adjust (.registerStrategy strategy) =>
    Strategies.normalize strategy.name = Strategies.normalize name
  | _ => False

/-- A world in which first attempts go by round robin. -/
structure World.Turning (world : World ω) : Prop where
  configured : world.client.router.strategy = .roundRobin
  tasks : ∀ ticket task, (ticket, task) ∈ world.tasks → task.Turning

namespace World

variable [Weight ω]

/-- What does not replace the configured strategy leaves it.

Only adjustments change the rules, and among them only to register a strategy concerns the ones by
name. -/
theorem strategy_step (world : World ω) (event : Event ω)
    (keeps : ¬event.Replaces world.client.router.configured) :
    (world.step event).client.router.strategy = world.client.router.strategy ∧
      (world.step event).client.router.configured = world.client.router.configured := by
  have same (calm : ∀ adjustment, event ≠ .adjust adjustment) :
      (world.step event).client.router.strategy = world.client.router.strategy ∧
        (world.step event).client.router.configured = world.client.router.configured := by
    obtain ⟨cache, balance, rules⟩ := world.sameRules_step event calm
    rw [rules]
    exact ⟨rfl, rfl⟩
  cases event with
  | adjust adjustment =>
    cases adjustment with
    | registerStrategy strategy => exact ⟨Strategies.get_register _ strategy _ keeps, rfl⟩
    | _ => exact ⟨rfl, rfl⟩
  | _ => exact same nofun

/-- No event takes first attempts from round robin unless it replaces the strategy that is
configured. -/
theorem turning_step (world : World ω) (event : Event ω)
    (keeps : ¬event.Replaces world.client.router.configured) (turning : world.Turning) :
    (world.step event).Turning := by
  refine ⟨(world.strategy_step event keeps).1.trans turning.configured, ?_⟩
  refine world.selections_step Selection.Turning event ?_ ?_ turning.tasks
  · intro selection phase plain strategy lookup looking
    rw [phase] at looking
    cases looking
  · rintro selection met draw ticket answer ⟨-, ledger, router⟩ settled
    refine selection.turning_resume met settled ?_
    rw [router]
    exact turning.configured

/-- No run takes first attempts from round robin unless an event replaces the strategy that is
configured. The name of that one stays, so what replaces it can be told from the beginning. -/
theorem turning_run (world : World ω) (events : List (Event ω))
    (keeps : ∀ event ∈ events, ¬event.Replaces world.client.router.configured)
    (turning : world.Turning) : (world.run events).Turning := by
  induction events generalizing world with
  | nil => exact turning
  | cons event rest inductionHypothesis =>
    have now := keeps event List.mem_cons_self
    refine inductionHypothesis (world.step event) (fun later member => ?_)
      (world.turning_step event now turning)
    rw [(world.strategy_step event now).2]
    exact keeps later (List.mem_cons_of_mem _ member)

end World

/-- A pick is of the selection and by the strategy that made it. -/
theorem Balance.of_mem_picks (balance : Balance ω) (service : String) (plain : Bool)
    (strategy : Strategy) (other : String) (candidates : List Instance) (picked? : Option Instance)
    (pick : Pick) (member : pick ∈ balance.picks service plain strategy other candidates picked?) :
    pick.plain = plain ∧ pick.strategy = strategy := by
  unfold picks at member
  split at member
  · obtain rfl := List.mem_singleton.mp member
    exact ⟨rfl, rfl⟩
  · cases member

/-- The selection of a task that goes on goes by round robin if it is left to the settings.

A further attempt is never left to them, so the selection was one for which the task has waited.
-/
theorem Task.settled_of_plain (task : Task) (encounter : Encounter ω) (turning : task.Turning)
    (configured : encounter.router.strategy = .roundRobin) (selection : Selection)
    (met : Encounter ω) (selecting : task.selecting? encounter = some (selection, met))
    (plain : selection.wanted = none) : selection.settled met.router = .roundRobin := by
  cases task with
  | choosing current =>
    cases selecting
    exact (turning selection rfl).settled configured plain
  | invoking invocation =>
    rcases invocation.selecting?_eq encounter selection met selecting with
      ⟨phase, rfl⟩ | ⟨further, -, rfl, -⟩
    · have own : (Task.invoking invocation).selection? = some selection := by
        obtain ⟨service, policy, ended, failed, current⟩ := invocation
        cases phase
        rfl
      exact (turning selection own).settled configured plain
    · cases plain
  | _ => cases selecting

section Plain

variable [Weight ω]

/-- A pick of a first attempt takes a turn: its selection has settled for round robin. -/
theorem Task.takesTurn_of_plain (task : Task) (service : String) (client : Client ω)
    (moment : Moment ω) (answer : Answer) (turning : task.Turning)
    (configured : client.router.strategy = .roundRobin) (pick : Pick)
    (member : pick ∈ task.picks service client moment answer) (plain : pick.plain = true) :
    pick.takesTurn = true := by
  unfold picks at member
  split at member
  · rename_i selection met selecting
    unfold Selection.picks at member
    split at member
    · obtain ⟨left, strategy⟩ := Balance.of_mem_picks _ _ _ _ _ _ _ pick member
      rw [left, Option.isNone_iff_eq_none] at plain
      have settled := task.settled_of_plain ⟨client.router, moment, answer⟩ turning configured
        selection met selecting plain
      rw [Pick.takesTurn, strategy, settled]
      rfl
    · cases member
  · cases member

/-- Where first attempts go by round robin, a pick whose strategy was left to the settings takes a
turn. A pick that a caller asks for directly names its strategy. -/
theorem World.takesTurn_of_plain (world : World ω) (turning : world.Turning) (service : String)
    (event : Event ω) (pick : Pick) (member : pick ∈ world.picks service event)
    (plain : pick.plain = true) : pick.takesTurn = true := by
  cases event with
  | answer place draw answer =>
    simp only [picks] at member
    split at member
    · rename_i ticket task roused
      have there := List.mem_of_getElem? (world.roused?_eq_some place answer ticket task roused).1
      exact task.takesTurn_of_plain service world.client _ answer (turning.tasks ticket task there)
        turning.configured pick member plain
    · cases member
  | adjust adjustment =>
    cases adjustment with
    | pick strategy draw other candidates =>
      have left := (Balance.of_mem_picks _ _ _ _ _ _ _ pick member).1
      rw [left] at plain
      cases plain
    | _ => cases member
  | _ => cases member

end Plain

namespace World

variable [Weight ω]

/-- The turns that are taken for a service in a run. -/
def turnsTaken (service : String) (world : World ω) (events : List (Event ω)) : List Pick :=
  (world.observed (picks service) events).filter Pick.takesTurn

/-- In a run of a client that has round robin configured, and keeps it, each choice for a
service among some candidates that leaves the strategy to the settings takes a turn: each
first attempt of an invocation, and each choice without an attempt. If nobody asks for round
robin by hand, nothing else takes one. Whatever else happens in the run, the turns go through
the places of the lists that they meet, one after the other from the count at which the run
begins, and each goes to the candidate in its place. So in each window of turns that meet
lists of one length, each place is taken as often as every other one, or once more.

The counter counts the turns of the run one by one, whoever takes them and whatever happens in
between. So the places are consecutive remainders, and in a window of them each remainder comes
equally often, up to one. -/
theorem turns_fair (client : Client ω) (now : Instant) (service : String)
    (events : List (Event ω)) (configured : client.router.strategy = .roundRobin)
    (keeps : ∀ event ∈ events, ¬event.Replaces client.router.configured)
    (few : (client.router.balance.rotation.count service).toNat +
      ((around client now).turnsTaken service events).length ≤ 2 ^ 64) :
    let start := (client.router.balance.rotation.count service).toNat
    let made := (around client now).observed (picks service) events
    let turns := (around client now).turnsTaken service events
    (∀ pick ∈ made, pick.plain = true → pick ∈ turns) ∧
      ((∀ turn ∈ turns, turn.plain = true) → made.filter Pick.plain = turns) ∧
      (∀ number (turn : Pick), turns[number]? = some turn → turn.candidates ≠ [] ∧
        turn.place? = some ((start + number) % turn.candidates.length) ∧
        turn.picked? = turn.candidates[(start + number) % turn.candidates.length]?) ∧
      ∀ size before window after, turns = before ++ window ++ after →
        (∀ turn ∈ window, turn.candidates.length = size) → ∀ place < size,
          window.countP (·.place? = some place) = window.length / size ∨
            window.countP (·.place? = some place) = (window.length + size - 1) / size := by
  intro start made turns
  have turned := (around client now).turned_run service events
  have turning : (around client now).Turning := ⟨configured, fun _ _ none => (nomatch none)⟩
  have plain : ∀ pick ∈ made, pick.plain = true → pick.takesTurn = true := by
    intro pick member left
    obtain ⟨earlier, event, later, split, noted⟩ := exists_of_mem_observed _ _ _ pick member
    have kept := turning_run (around client now) earlier
      (fun past inside => keeps past (split ▸ List.mem_append_left _ inside)) turning
    exact takesTurn_of_plain _ kept service event pick noted left
  have inTurn (number : Nat) (turn : Pick) (there : turns[number]? = some turn) :
      turn.candidates ≠ [] ∧
        turn.place? = some ((start + number) % turn.candidates.length) ∧
        turn.picked? = turn.candidates[(start + number) % turn.candidates.length]? := by
    obtain ⟨inside, -⟩ := List.getElem?_eq_some_iff.mp there
    -- The word of the counter has room for all turns, so it does not wrap around.
    have taken : (client.router.balance.rotation.count service + UInt64.ofNat number).toNat =
        start + number := by
      have fits : start + number < 2 ^ 64 :=
        Nat.lt_of_lt_of_le (Nat.add_lt_add_left inside start) few
      have small : number < 2 ^ 64 := Nat.lt_of_le_of_lt (Nat.le_add_left number start) fits
      rw [UInt64.toNat_add, UInt64.toNat_ofNat_of_lt' small, Nat.mod_eq_of_lt fits]
    obtain ⟨nonempty, place, picked⟩ := turned.inTurn number turn there
    rw [around, taken] at place picked
    exact ⟨nonempty, place, picked⟩
  refine ⟨?_, ?_, inTurn, ?_⟩
  · intro pick member left
    exact List.mem_filter.mpr ⟨member, plain pick member left⟩
  · intro all
    refine List.filter_congr fun pick member => Bool.eq_iff_iff.mpr ?_
    exact ⟨plain pick member, fun turn => all pick (List.mem_filter.mpr ⟨member, turn⟩)⟩
  · intro size before window after split same place inside
    refine countP_place window (start + before.length) size place inside fun number turn there => ?_
    have within := (List.getElem?_eq_some_iff.mp there).1
    have placed : turns[before.length + number]? = some turn := by
      rw [split, List.append_assoc, List.getElem?_append_right (Nat.le_add_right _ _),
        Nat.add_sub_cancel_left, List.getElem?_append_left within, there]
    have length := same turn (List.mem_of_getElem? there)
    rw [Nat.add_assoc, ← length]
    exact (inTurn _ turn placed).2.1

/-- A client that takes turns. -/
def takingTurns : Client Int where
  settings := { balancer := "RoundRobin" }
  router := { byWeight.router with configured := "RoundRobin" }
  jobs := []
  stopped := []
  nextTicket := 0

/-- Two invocations, of which the first one needs a second attempt, and between them a choice
without an attempt. -/
def threeTurns : List (Event Int) :=
  [.request (.invoke "orders" ((RetryPolicy.named "restless").withWait .zero)),
    .answer 0 frontDraw .turn, .answer 0 frontDraw .lock,
    .answer 0 frontDraw (.listing (.ok firstThenSecond)),
    .answer 0 frontDraw (.work (.error .timeout)), .answer 0 frontDraw (.work (.ok (.integer 7))),
    .request (.choose "orders" none []), .answer 1 frontDraw .turn,
    .request (.invoke "orders" (.named "once")), .answer 2 frontDraw .turn]

/-- The second attempt takes no turn. The other picks go to the first, the second and again the
first of the instances. -/
theorem turns_fair_threeTurns :
    takingTurns.router.strategy = .roundRobin ∧
      (∀ event ∈ threeTurns, ¬event.Replaces takingTurns.router.configured) ∧
      let made := (around takingTurns 0).observed (picks "orders") threeTurns
      let turns := (around takingTurns 0).turnsTaken "orders" threeTurns
      (takingTurns.router.balance.rotation.count "orders").toNat + turns.length ≤ 2 ^ 64 ∧
        made.filter Pick.plain = turns ∧
        (∀ turn, turns[2]? = some turn → turn.place? = some 0) ∧
        (turns.countP (·.place? = some 0) = 1 ∨ turns.countP (·.place? = some 0) = 2) := by
  have keeps : ∀ event ∈ threeTurns, ¬event.Replaces takingTurns.router.configured := by
    intro event member replaces
    simp only [threeTurns, List.mem_cons, List.not_mem_nil, or_false] at member
    rcases member with rfl | rfl | rfl | rfl | rfl | rfl | rfl | rfl | rfl | rfl <;>
      exact replaces
  have three : ((around takingTurns 0).turnsTaken "orders" threeTurns).length = 3 := by rfl
  have plain : ((around takingTurns 0).turnsTaken "orders" threeTurns).all Pick.plain = true := by
    rfl
  have both : ((around takingTurns 0).turnsTaken "orders" threeTurns).all
      (·.candidates.length == 2) = true := by rfl
  have few : (takingTurns.router.balance.rotation.count "orders").toNat +
      ((around takingTurns 0).turnsTaken "orders" threeTurns).length ≤ 2 ^ 64 := by
    rw [three]
    decide
  -- All turns are among the two instances, so the law of windows applies to the whole run.
  have pair (turn : Pick) (member : turn ∈ (around takingTurns 0).turnsTaken "orders" threeTurns) :
      turn.candidates.length = 2 := beq_iff_eq.mp (List.all_eq_true.mp both turn member)
  obtain ⟨-, own, each, windows⟩ := turns_fair takingTurns 0 "orders" threeTurns rfl keeps few
  have alternate : [] ++ (around takingTurns 0).turnsTaken "orders" threeTurns ++ [] =
      (around takingTurns 0).turnsTaken "orders" threeTurns := by
    rw [List.nil_append, List.append_nil]
  have counted := windows 2 [] _ [] alternate.symm pair 0 Nat.two_pos
  rw [three] at counted
  refine ⟨rfl, keeps, few, own (List.all_eq_true.mp plain), fun turn there => ?_, counted⟩
  have place := (each 2 turn there).2.1
  rwa [pair turn (List.mem_of_getElem? there)] at place

end World

end CallRouting
