import CallRouting.Balancer.Rotation
import CallRouting.Stats.Ledger

/-!
# Choosing among candidates

A strategy picks one of the candidates of a service:

* round robin takes turns through the list;
* best available takes the candidate with the fewest running calls, and of several
  such the first;
* weighted response time draws a candidate by the weight table of the service. It
  takes turns while there is no table or nothing to weigh, and computes the table
  anew if its length does not fit the candidates;
* random draws any candidate;
* a caller can bring a rule of its own.

Randomness is an argument. A draw answers what it is asked for: a place below the
length of a list, or a number from zero up to, but not including, a given end.
-/

namespace CallRouting

variable {ω : Type}

/-- The answers to one request for randomness. -/
structure Draw (ω : Type) where
  place : Nat → Nat
  point : ω → ω

/-- How one of several candidates is chosen. -/
inductive Strategy
  | roundRobin
  | bestAvailable
  | weightedResponseTime
  | random
  /-- Round robin over the turns of retries only. -/
  | retryRoundRobin
  | custom (name : String) (rule : String → List Instance → Option Instance)

/-- The name of a strategy. -/
def Strategy.name : Strategy → String
  | .roundRobin | .retryRoundRobin => "RoundRobin"
  | .bestAvailable => "BestAvailable"
  | .weightedResponseTime => "WeightedResponseTime"
  | .random => "Random"
  | .custom name _ => name

/-- What the strategies read and write. -/
structure Balance (ω : Type) where
  ledger : Ledger ω
  rotation : Rotation
  /-- The turns of weighted response time where it cannot weigh. -/
  weightedRotation : Rotation
  retryRotation : Rotation

/-- Nothing is counted yet, and no turns were taken. -/
def Balance.empty (lifetime : Duration) : Balance ω :=
  ⟨.empty lifetime, .empty, .empty, .empty⟩

/-- There was nothing to draw from. -/
inductive SelectFault
  | noCandidates
  deriving DecidableEq

/-- The candidate whose turn it is. -/
def Rotation.select (rotation : Rotation) (service : String) (candidates : List Instance) :
    Rotation × Except SelectFault (Option Instance) :=
  match rotation.next service candidates.length with
  | (rotation, some place) => (rotation, .ok candidates[place]?)
  | (rotation, none) => (rotation, .error .noCandidates)

/-- Among some candidates a turn is counted, and it goes to the one in its place. -/
theorem Rotation.select_of_ne_nil (rotation : Rotation) (service : String)
    (candidates : List Instance) (nonempty : candidates ≠ []) :
    (rotation.select service candidates).1.count service = rotation.count service + 1 ∧
      (rotation.select service candidates).2 =
        .ok candidates[(rotation.count service).toNat % candidates.length]? := by
  have counted := rotation.count_next service service candidates.length
  have place : (rotation.next service candidates.length).2 =
      some ((rotation.count service).toNat % candidates.length) :=
    if_neg (mt List.length_eq_zero_iff.mp nonempty)
  rw [if_pos rfl] at counted
  unfold select
  generalize rotation.next service candidates.length = taken at counted place
  obtain ⟨after, turn⟩ := taken
  subst place
  exact ⟨counted, rfl⟩

/-- The first of the candidates with the fewest running calls, if it beats the best
one so far. -/
def Ledger.leastActive (ledger : Ledger ω) (now : Instant) :
    Option (Instance × UInt64) → List Instance → Ledger ω × Option Instance
  | best, [] => (ledger, best.map Prod.fst)
  | best, x :: rest =>
    let (ledger, handle) := ledger.tallyOf now x
    let active := (ledger.tally handle).active
    match best with
    | some (_, fewest) =>
      if fewest ≤ active then ledger.leastActive now best rest
      else ledger.leastActive now (some (x, active)) rest
    | none => ledger.leastActive now (some (x, active)) rest

/-- The table of a service for so many candidates, computed anew if it has another
length, and nothing before the first table. -/
def Ledger.fittingTable [Weight ω] (ledger : Ledger ω) (now : Instant) (service : String)
    (candidates : List Instance) : Ledger ω × Option (List ω) :=
  match (ledger.book service).weights with
  | none => (ledger, none)
  | some table =>
    if table.length = candidates.length then (ledger, some table)
    else
      let (ledger, table) := ledger.aggregate now service candidates
      (ledger, some table)

/-- A table can be drawn from if its last sum is above zero. -/
def drawEnd? [Weight ω] (table : List ω) : Option ω :=
  match table.getLast? with
  | some last => if 0 < last then some last else none
  | none => none

namespace Balance

/-- Take turns on behalf of weighted response time. -/
def selectUnweighted (balance : Balance ω) (service : String) (candidates : List Instance) :
    Balance ω × Except SelectFault (Option Instance) :=
  let (rotation, picked) := balance.weightedRotation.select service candidates
  ({ balance with weightedRotation := rotation }, picked)

/-- Choose by weight: draw a point, and take the candidate in whose part of the table it falls.
Without a table that fits, or without weight in it, go by turns. -/
def selectWeighted [Weight ω] (balance : Balance ω) (draw : Draw ω) (now : Instant)
    (service : String) (candidates : List Instance) :
    Balance ω × Except SelectFault (Option Instance) :=
  let ledger := balance.ledger.openBook service
  let (ledger, table) := ledger.fittingTable now service candidates
  let balance := { balance with ledger }
  match table with
  | none => balance.selectUnweighted service candidates
  | some table =>
    match drawEnd? table with
    | none => balance.selectUnweighted service candidates
    | some last => (balance, .ok (drawn (draw.point last) table candidates))

/-- Pick by a strategy. The list should not be empty: most strategies fail on an
empty one. -/
def select [Weight ω] (balance : Balance ω) (strategy : Strategy) (draw : Draw ω) (now : Instant)
    (service : String) (candidates : List Instance) :
    Balance ω × Except SelectFault (Option Instance) :=
  match strategy with
  | .roundRobin =>
    let (rotation, picked) := balance.rotation.select service candidates
    ({ balance with rotation }, picked)
  | .retryRoundRobin =>
    let (rotation, picked) := balance.retryRotation.select service candidates
    ({ balance with retryRotation := rotation }, picked)
  | .bestAvailable =>
    let (ledger, picked) := balance.ledger.leastActive now none candidates
    ({ balance with ledger }, .ok picked)
  | .weightedResponseTime => balance.selectWeighted draw now service candidates
  | .random =>
    if candidates.isEmpty then (balance, .error .noCandidates)
    else (balance, .ok candidates[draw.place candidates.length]?)
  | .custom _ rule => (balance, .ok (rule service candidates))

/-- Choose by a strategy; nothing is chosen from an empty list, and nothing changes. -/
def choose [Weight ω] (balance : Balance ω) (strategy : Strategy) (draw : Draw ω) (now : Instant)
    (service : String) (candidates : List Instance) : Balance ω × Option Instance :=
  if candidates.isEmpty then (balance, none)
  else
    match balance.select strategy draw now service candidates with
    | (balance, .ok picked) => (balance, picked)
    | (balance, .error _) => (balance, none)

end Balance

/-- The candidates to choose from when some have failed before, in the order of
`failed`: those that have not failed; if there are none, those other than the last
that failed; and if that leaves none, all of them. -/
def avoiding (candidates : List Instance) (failed : List Identity) : List Instance :=
  let untried := without candidates failed
  if !untried.isEmpty then untried
  else
    let others := without candidates failed.getLast?.toList
    if others.isEmpty then candidates else others

/-- Before the first failure every candidate will do. -/
theorem avoiding_nil (candidates : List Instance) : avoiding candidates [] = candidates := by
  have all : without candidates [] = candidates := by simp [without]
  unfold avoiding
  by_cases none : candidates.isEmpty = true <;> simp [all, none]

/-- What is left to choose from are candidates. -/
theorem mem_of_mem_avoiding (candidates : List Instance) (failed : List Identity) (x : Instance)
    (left : x ∈ avoiding candidates failed) : x ∈ candidates := by
  unfold avoiding at left
  dsimp only at left
  split at left
  · exact ((mem_without candidates failed x).mp left).1
  · split at left
    · exact left
    · exact ((mem_without candidates _ x).mp left).1

/-- As long as there are candidates, something is left to choose from. -/
theorem avoiding_eq_nil_iff (candidates : List Instance) (failed : List Identity) :
    avoiding candidates failed = [] ↔ candidates = [] := by
  constructor
  · intro nothing
    unfold avoiding at nothing
    dsimp only at nothing
    split at nothing
    · rename_i some
      simp [nothing] at some
    · split at nothing
      · exact nothing
      · rename_i some
        simp [nothing] at some
  · intro nothing
    simp [nothing, avoiding, without]

end CallRouting
