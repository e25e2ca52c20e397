import CallRouting.Proofs.Averages
import Mathlib.Data.Int.CardIntervalMod
import Mathlib.Data.List.MinMax

/-!
# The least busy instance

Best available reads, for each candidate, how many calls are running on its current tally, and
takes the candidate with the fewest, of several such the first. The tallies that it opens on
its way read as none.

So calls that start one after the other, while none ends and no tally expires, go round the
candidates: after any number of them each candidate has its share, and those that have one
call more are the first ones. A count of running calls is a 64-bit word. When all of them
have come to the greatest number, the next call turns that of the first candidate to zero, and
from then on the first candidate is the least busy one.
-/

namespace CallRouting

variable {ω : Type}

namespace Ledger

/-- How many calls are running on the current tally of an instance, and none without one. -/
def activeOf (ledger : Ledger ω) (now : Instant) (x : Instance) : UInt64 :=
  (ledger.counted now x.service x.identity).active

/-- The walk for the fewest running calls finds the first least of all candidates, if its leader
was the first least of those that it has come past.

It opens tallies on the way, which changes no count. It replaces its leader only by fewer calls,
so the first of several least ones stays. -/
theorem leastActive_eq (ledger : Ledger ω) (now : Instant) (count : Instance → UInt64)
    (reads : ∀ x, ledger.activeOf now x = count x) (seen rest : List Instance) :
    (ledger.leastActive now
        ((seen.argmin fun x => (count x).toNat).map fun x => (x, count x)) rest).2 =
      (seen ++ rest).argmin fun x => (count x).toNat := by
  induction rest generalizing ledger seen with
  | nil =>
    rw [List.append_nil]
    cases seen.argmin fun x => (count x).toNat <;> rfl
  | cons x rest inductionHypothesis =>
    have accessed : Moves now (fun _ => True) (fun _ => False) ledger (ledger.tallyOf now x).1 :=
      (ledger.moves_access x.service x trivial).1
    have active : ((ledger.tallyOf now x).1.tally (ledger.tallyOf now x).2).active = count x :=
      (congrArg Tally.active (ledger.undated_access now x.service x)).trans (reads x)
    have readsNext (y : Instance) : (ledger.tallyOf now x).1.activeOf now y = count y := by
      rw [← reads y, activeOf, activeOf, accessed.counted]
    have further := inductionHypothesis (ledger.tallyOf now x).1 readsNext (seen ++ [x])
    rw [List.append_assoc, List.singleton_append, List.argmin_concat] at further
    unfold leastActive
    dsimp only
    rw [active, ← further]
    cases seen.argmin fun x => (count x).toNat with
    | none => rfl
    | some best =>
      dsimp only [Option.map_some]
      by_cases fewer : (count x).toNat < (count best).toNat
      · rw [if_neg (UInt64.not_le.mpr (UInt64.lt_iff_toNat_lt.mpr fewer)), if_pos fewer]
        rfl
      · rw [if_pos (UInt64.le_iff_toNat_le.mpr (Nat.le_of_not_lt fewer)), if_neg fewer]
        rfl

/-- The tally that an access gives is the current one afterwards.

One that was found is current; one that was opened is young, as long as tallies live at all. -/
theorem current?_access (ledger : Ledger ω) (positive : 0 < ledger.lifetime.nanos) (now : Instant)
    (service : String) (x : Instance) :
    (ledger.access now service x).1.current? now service x.identity =
      some (ledger.access now service x).2 := by
  unfold access
  cases current : ledger.current? now service x.identity with
  | some handle => exact current
  | none =>
    have leads : ((ledger.openTally now service x.identity).1.book service).handles.find?
        x.identity = some ledger.tallies.size := by
      rw [find?_openTally, if_pos ⟨rfl, rfl⟩]
    have young : (Tally.fresh now).isExpired
        (ledger.openTally now service x.identity).1.lifetime now = false := by
      simp [Tally.isExpired, Tally.fresh, openTally, Nat.ne_of_gt positive]
    rw [current?_eq, leads, Option.filter_some, tally_openTally_new, young]
    rfl

/-- A call that starts adds one to the count of its target, and to no other one.

The tally that was looked up counts for the target alone, since no two entries lead to one tally;
and to look it up has changed no count. -/
theorem activeOf_beforeCall (ledger : Ledger ω) (distinct : ledger.Distinct)
    (positive : 0 < ledger.lifetime.nanos) (now : Instant) (x y : Instance) :
    (ledger.beforeCall now x).1.activeOf now y =
      if x.service = y.service ∧ x.identity = y.identity then ledger.activeOf now y + 1
      else ledger.activeOf now y := by
  have accessed : Moves now (fun _ => True) (fun _ => False) ledger (ledger.tallyOf now x).1 :=
    (ledger.moves_access x.service x trivial).1
  have distinctNext := accessed.distinct distinct
  have here := ledger.current?_access positive now x.service x
  have same : (ledger.tallyOf now x).1.activeOf now y = ledger.activeOf now y := by
    rw [activeOf, activeOf, accessed.counted]
  rw [← same]
  unfold beforeCall tallyOf at *
  generalize ledger.access now x.service x = opened at here distinctNext ⊢
  obtain ⟨opened, handle⟩ := opened
  have leads := opened.leads_of_current? _ _ _ here
  have keeps : ∀ tally : Tally, tally.started.createdAt = tally.createdAt := fun _ => rfl
  simp only [activeOf, counted, current?_change opened handle .started keeps]
  cases current : opened.current? now y.service y.identity with
  | none =>
    refine (if_neg ?_).symm
    rintro ⟨service, identity⟩
    rw [← service, ← identity, here] at current
    cases current
  | some other =>
    have leadsToo := opened.leads_of_current? _ _ _ current
    dsimp only
    rw [tally_change opened handle other _ (distinctNext.sound _ _ _ leads)]
    by_cases one : handle = other
    · rw [if_pos one, if_pos (distinctNext.one _ _ _ _ _ leads (one ▸ leadsToo))]
      rfl
    · rw [if_neg one, if_neg]
      rintro ⟨service, identity⟩
      rw [← service, ← identity] at current
      exact one (Option.some.inj (here.symm.trans current))

/-- From a first time to a last one no tally of certain instances expires: none that is current
at first, and none that is opened in between. -/
structure Steady (instances : List Instance) (first last : Instant) (ledger : Ledger ω) :
    Prop where
  short : last - first < ledger.lifetime.nanos
  current : ∀ x ∈ instances, ∀ now, first ≤ now → now ≤ last →
    ledger.current? now x.service x.identity = ledger.current? first x.service x.identity

namespace Steady

variable {instances : List Instance} {first last : Instant}

/-- While nothing expires, an instance has as many running calls at one time as at another. -/
theorem activeOf {ledger : Ledger ω} (steady : ledger.Steady instances first last) (x : Instance)
    (member : x ∈ instances) (now : Instant) (begun : first ≤ now) (ends : now ≤ last) :
    ledger.activeOf now x = ledger.activeOf first x := by
  simp only [Ledger.activeOf, counted, steady.current x member now begun ends]

/-- Moves that count nothing keep tallies from expiring within the time: a purge takes away
only what has expired before, and a tally that is opened is young until the end. -/
theorem moves {now : Instant} {about : String → Prop} {before after : Ledger ω}
    (moves : Moves now about (fun _ => False) before after) (begun : first ≤ now)
    (ends : now ≤ last) (sound : before.Sound) (steady : before.Steady instances first last) :
    after.Steady instances first last := by
  induction moves with
  | refl ledger => exact steady
  | trans one other before after => exact after (one.sound sound) (before sound steady)
  | openBook ledger opened ours =>
    exact ⟨steady.short, by simpa only [current?_openBook] using steady.current⟩
  | tabulate ledger weighed table ours =>
    exact ⟨steady.short, by simpa only [current?_tabulate] using steady.current⟩
  | purge ledger purged ours =>
    have reads (x : Instance) (member : x ∈ instances) (time : Instant) (since : first ≤ time)
        (till : time ≤ last) : (ledger.purge now purged).current? time x.service x.identity =
          ledger.current? time x.service x.identity := by
      refine ledger.current?_purge_of_gone now time purged x.service x.identity ?_
      rw [steady.current x member now begun ends, steady.current x member time since till]
      exact id
    refine ⟨steady.short, ?_⟩
    intro x member time since till
    rw [reads x member time since till, steady.current x member time since till,
      reads x member first (Nat.le_refl first) (Nat.le_trans since till)]
  | openTally ledger opened identity ours missing =>
    have young (time : Instant) (till : time ≤ last) :
        (Tally.fresh now).isExpired ledger.lifetime time = false := by
      have age : time - now ≤ last - first :=
        Nat.le_trans (Nat.sub_le_sub_right till now) (Nat.sub_le_sub_left begun last)
      exact decide_eq_false (Nat.not_le_of_lt (Nat.lt_of_le_of_lt age steady.short))
    refine ⟨steady.short, ?_⟩
    intro x member time since till
    simp only [ledger.current?_openTally sound, young time till,
      young first (Nat.le_trans since till), steady.current x member time since till]
  | change ledger handle update ours keeps => exact ours.elim

/-- A call that begins makes no tally expire. -/
theorem beforeCall {ledger : Ledger ω} (steady : ledger.Steady instances first last)
    (sound : ledger.Sound) (now : Instant) (begun : first ≤ now) (ends : now ≤ last)
    (x : Instance) : (ledger.beforeCall now x).1.Steady instances first last := by
  have accessed : Moves now (fun _ => True) (fun _ => False) ledger (ledger.tallyOf now x).1 :=
    (ledger.moves_access x.service x trivial).1
  have opened := Steady.moves accessed begun ends sound steady
  refine ⟨opened.short, ?_⟩
  have keeps : ∀ tally : Tally, tally.started.createdAt = tally.createdAt := fun _ => rfl
  simpa only [Ledger.beforeCall, current?_change _ _ _ keeps] using opened.current

end Steady

end Ledger

/-- Best available takes the first of the candidates with the fewest running calls, and reads
nothing away. -/
theorem Balance.choose_bestAvailable [Weight ω] (balance : Balance ω) (draw : Draw ω)
    (now : Instant) (service : String) (candidates : List Instance) :
    (balance.choose .bestAvailable draw now service candidates).2 =
      candidates.argmin fun x => (balance.ledger.activeOf now x).toNat := by
  cases candidates with
  | nil => rfl
  | cons x rest => exact balance.ledger.leastActive_eq now _ (fun _ => rfl) [] (x :: rest)

/-- The greatest count of a 64-bit word. -/
def greatestCount : Nat := 2 ^ 64 - 1

/-- The place of so many that gets the call of a round: each in its turn, and the first one
after all have got as many calls as can be counted. -/
def turnAt (size round : Nat) : Nat :=
  if round < size * greatestCount then round % size else 0

/-- How many of the first rounds have gone to a place. -/
def share (size place rounds : Nat) : Nat :=
  (List.range rounds).countP fun round => turnAt size round = place

/-- A further round adds a call to the place whose turn it is. -/
theorem share_succ (size place rounds : Nat) :
    share size place (rounds + 1) =
      share size place rounds + if turnAt size rounds = place then 1 else 0 := by
  simp [share, List.range_succ, List.countP_append]

/-- While the counters last, the places have equal shares, up to one call. -/
theorem share_of_le (size place rounds : Nat) (inside : place < size)
    (few : rounds ≤ size * greatestCount) :
    share size place rounds = rounds / size + if place < rounds % size then 1 else 0 := by
  have turns : share size place rounds =
      (List.range rounds).countP fun round => round ≡ place [MOD size] := by
    apply List.countP_congr
    intro round member
    have early := Nat.lt_of_lt_of_le (List.mem_range.mp member) few
    simp [turnAt, early, Nat.ModEq, Nat.mod_eq_of_lt inside]
  have counted := Nat.count_modEq_card rounds (Nat.zero_lt_of_lt inside) place
  rw [Nat.mod_eq_of_lt inside] at counted
  exact turns.trans counted

/-- Afterwards all further calls are on the first place.

By induction on the rounds beyond those in which every count has become the greatest. -/
theorem share_of_ge (size place rounds : Nat) (inside : place < size)
    (many : size * greatestCount ≤ rounds) :
    share size place rounds =
      greatestCount + if place = 0 then rounds - size * greatestCount else 0 := by
  induction rounds, many using Nat.le_induction with
  | base =>
    rw [share_of_le size place _ inside (Nat.le_refl _)]
    simp [Nat.mul_div_cancel_left _ (Nat.zero_lt_of_lt inside)]
  | succ rounds many inductionHypothesis =>
    rw [share_succ, inductionHypothesis, turnAt, if_neg (Nat.not_lt.mpr many)]
    by_cases first : place = 0
    · subst first
      simp only [if_true]
      omega
    · simp [first, Ne.symm first]

/-- Whose turn it is has the least count, and those before have a greater one.

Until every count is the greatest there is, they differ by one at most, and the turn is at the
first that is behind. After that each turn is at the first instance, whose count runs over and
never exceeds the others. -/
theorem turnAt_least (size rounds : Nat) (positive : 0 < size) (place : Nat)
    (inside : place < size) :
    turnAt size rounds < size ∧
      (UInt64.ofNat (share size (turnAt size rounds) rounds)).toNat ≤
        (UInt64.ofNat (share size place rounds)).toNat ∧
      (place < turnAt size rounds →
        (UInt64.ofNat (share size (turnAt size rounds) rounds)).toNat <
          (UInt64.ofNat (share size place rounds)).toNat) := by
  have greatest : greatestCount + 1 = 2 ^ 64 := by decide
  simp only [UInt64.toNat_ofNat']
  by_cases early : rounds < size * greatestCount
  · have turn : turnAt size rounds = rounds % size := if_pos early
    have rest := Nat.mod_lt rounds positive
    have level : rounds / size < greatestCount := Nat.div_lt_of_lt_mul early
    have least : share size (rounds % size) rounds = rounds / size := by
      rw [share_of_le size _ rounds rest early.le, if_neg (Nat.lt_irrefl _), Nat.add_zero]
    have other := share_of_le size place rounds inside early.le
    have few : share size place rounds < 2 ^ 64 := by
      rw [other]
      split <;> omega
    rw [turn, least, Nat.mod_eq_of_lt (by omega : rounds / size < 2 ^ 64), Nat.mod_eq_of_lt few,
      other]
    split <;> omega
  · have turn : turnAt size rounds = 0 := if_neg early
    have late := Nat.le_of_not_lt early
    rw [turn, share_of_ge size 0 rounds positive late, share_of_ge size place rounds inside late]
    by_cases first : place = 0
    · subst first
      exact ⟨positive, Nat.le_refl _, fun before => absurd before (Nat.lt_irrefl 0)⟩
    · have full : (greatestCount + 0) % 2 ^ 64 = greatestCount := by decide
      rw [if_neg first, full]
      refine ⟨positive, ?_, fun before => absurd before (Nat.not_lt_zero place)⟩
      exact Nat.le_of_lt_succ (greatest ▸ Nat.mod_lt _ (by decide))

/-- A call that is to start: when an instance is chosen for it, and when it begins. -/
structure Dispatch (ω : Type) where
  draw : Draw ω
  chosenAt : Instant
  startedAt : Instant

/-- A call is chosen for and starts between two times. -/
structure Dispatch.Within (first last : Instant) (call : Dispatch ω) : Prop where
  begun : first ≤ call.chosenAt
  onward : call.chosenAt ≤ call.startedAt
  ends : call.startedAt ≤ last

namespace Balance

variable [Weight ω]

/-- Best available chooses an instance, and a call to it starts. -/
def dispatch (balance : Balance ω) (service : String) (candidates : List Instance)
    (call : Dispatch ω) : Balance ω × Option Instance :=
  let (balance, picked) :=
    balance.choose .bestAvailable call.draw call.chosenAt service candidates
  match picked with
  | some x => ({ balance with ledger := (balance.ledger.beforeCall call.startedAt x).1 }, some x)
  | none => (balance, none)

/-- One call starts after the other. The instances are those that are called. -/
def dispatchAll (balance : Balance ω) (service : String) (candidates : List Instance) :
    List (Dispatch ω) → Balance ω × List Instance
  | [] => (balance, [])
  | call :: rest =>
    let (balance, called) := balance.dispatch service candidates call
    let (balance, others) := balance.dispatchAll service candidates rest
    (balance, called.toList ++ others)

end Balance

/-- The calls of some rounds are spread over the candidates, and no tally expires. -/
structure Ledger.Spread (candidates : List Instance) (first last : Instant) (rounds : Nat)
    (ledger : Ledger ω) : Prop where
  distinct : ledger.Distinct
  steady : ledger.Steady candidates first last
  counts : ∀ place x, candidates[place]? = some x →
    ledger.activeOf first x = UInt64.ofNat (share candidates.length place rounds)

section Rounds

variable [Weight ω] {candidates : List Instance} {first last : Instant}

omit [Weight ω] in
/-- The instance whose turn it is has the fewest running calls and is the first such.

The counters read what the places have had in turns, and no instance is among the candidates
twice; so it is a fact about turns. -/
theorem Ledger.Spread.argmin {ledger : Ledger ω} {rounds : Nat}
    (spread : ledger.Spread candidates first last rounds)
    (identities : (candidates.map Instance.identity).Nodup) (now : Instant) (begun : first ≤ now)
    (ends : now ≤ last) (inside : turnAt candidates.length rounds < candidates.length) :
    (candidates.argmin fun x => (ledger.activeOf now x).toNat) =
      some candidates[turnAt candidates.length rounds] := by
  have nodup : candidates.Nodup := identities.of_map
  have reads (place : Nat) (there : place < candidates.length) :
      ledger.activeOf now candidates[place] =
        UInt64.ofNat (share candidates.length place rounds) :=
    (spread.steady.activeOf _ (List.getElem_mem there) now begun ends).trans
      (spread.counts place _ (List.getElem?_eq_getElem there))
  have positive : 0 < candidates.length := Nat.zero_lt_of_lt inside
  refine Option.mem_def.mp (List.mem_argmin_iff.mpr ⟨List.getElem_mem inside, ?_, ?_⟩)
  · intro y member
    obtain ⟨place, there, rfl⟩ := List.mem_iff_getElem.mp member
    rw [reads _ inside, reads place there]
    exact (turnAt_least _ rounds positive place there).2.1
  · intro y member least
    obtain ⟨place, there, rfl⟩ := List.mem_iff_getElem.mp member
    rw [reads _ inside, reads place there] at least
    rw [nodup.idxOf_getElem, nodup.idxOf_getElem]
    refine Nat.le_of_not_lt fun before => ?_
    exact absurd ((turnAt_least _ rounds positive place there).2.2 before) (Nat.not_lt.mpr least)

/-- Each round, the instance whose turn it is gets a call.

Before the round the counts are the shares, and the least share stands first in the place whose
turn it is, so the choice takes the instance there. Neither the choice nor the start of the
call makes a tally expire, and the start adds one to that place only: identities are distinct,
so no other place reads the same tally. -/
theorem Balance.spread_dispatch (balance : Balance ω) (service : String)
    (nonempty : candidates ≠ []) (identities : (candidates.map Instance.identity).Nodup)
    (rounds : Nat) (spread : balance.ledger.Spread candidates first last rounds)
    (call : Dispatch ω) (within : call.Within first last) :
    ∃ x, candidates[turnAt candidates.length rounds]? = some x ∧
      (balance.dispatch service candidates call).2 = some x ∧
      (balance.dispatch service candidates call).1.ledger.Spread candidates first last
        (rounds + 1) := by
  have positive : 0 < candidates.length := List.length_pos_iff.mpr nonempty
  have inside := (turnAt_least _ rounds positive 0 positive).1
  have chosenEnds := Nat.le_trans within.onward within.ends
  have startedBegun := Nat.le_trans within.begun within.onward
  have chosen := (balance.choose_bestAvailable call.draw call.chosenAt service candidates).trans
    (spread.argmin identities call.chosenAt within.begun chosenEnds inside)
  have moves : Ledger.Moves call.chosenAt (fun _ => True) (fun _ => False) balance.ledger
      (balance.choose .bestAvailable call.draw call.chosenAt service candidates).1.ledger :=
    balance.moves_choose _ _ _ service candidates trivial fun _ _ => trivial
  have distinct := moves.distinct spread.distinct
  have steady := Ledger.Steady.moves moves within.begun chosenEnds spread.distinct.sound
    spread.steady
  refine ⟨candidates[turnAt candidates.length rounds], List.getElem?_eq_getElem inside, ?_⟩
  unfold dispatch
  generalize balance.choose .bestAvailable call.draw call.chosenAt service candidates = choice
    at chosen moves distinct steady ⊢
  obtain ⟨next, picked⟩ := choice
  obtain rfl : picked = _ := chosen
  refine ⟨rfl, ?_⟩
  generalize target : candidates[turnAt candidates.length rounds] = x
  have free : Ledger.Free (fun _ => True) (fun _ => True) next.ledger :=
    ⟨fun _ _ _ _ _ => trivial, fun _ _ => trivial⟩
  have steadyAfter := steady.beforeCall distinct.sound call.startedAt startedBegun within.ends x
  refine ⟨(next.ledger.moves_beforeCall free x trivial).1.distinct distinct, steadyAfter, ?_⟩
  intro place y found
  obtain ⟨there, rfl⟩ := List.getElem?_eq_some_iff.mp found
  have member : candidates[place] ∈ candidates := List.getElem_mem there
  have same : next.ledger.activeOf first candidates[place] =
      UInt64.ofNat (share candidates.length place rounds) := by
    rw [← spread.counts place _ found, ← steady.activeOf _ member call.chosenAt within.begun
      chosenEnds, ← spread.steady.activeOf _ member call.chosenAt within.begun chosenEnds,
      Ledger.activeOf, Ledger.activeOf, moves.counted]
  have whose : (x.service = candidates[place].service ∧ x.identity = candidates[place].identity) ↔
      turnAt candidates.length rounds = place := by
    subst target
    constructor
    · intro one
      have named := one.2
      rw [← List.getElem_map Instance.identity, ← List.getElem_map Instance.identity] at named
      · exact (identities.getElem_inj_iff).mp named
      · simpa using there
      · simpa using inside
    · rintro rfl
      exact ⟨rfl, rfl⟩
  rw [← steadyAfter.activeOf _ member call.startedAt startedBegun within.ends,
    next.ledger.activeOf_beforeCall distinct (Nat.zero_lt_of_lt steady.short),
    steady.activeOf _ member call.startedAt startedBegun within.ends, same, share_succ]
  simp only [whose]
  split
  · rw [UInt64.ofNat_add]
    rfl
  · rfl

/-- Round after round, each place gets the calls of its turns.

By induction on the calls: the next one goes to the place whose turn it is, and calls are counted
by identities, which differ from place to place. -/
theorem Balance.spread_dispatchAll (balance : Balance ω) (service : String)
    (nonempty : candidates ≠ []) (identities : (candidates.map Instance.identity).Nodup)
    (rounds : Nat) (spread : balance.ledger.Spread candidates first last rounds)
    (calls : List (Dispatch ω)) (within : ∀ call ∈ calls, call.Within first last) :
    let after := balance.dispatchAll service candidates calls
    after.1.ledger.Spread candidates first last (rounds + calls.length) ∧
      after.2.length = calls.length ∧
      ∀ place x, candidates[place]? = some x →
        share candidates.length place rounds + after.2.countP (·.identity = x.identity) =
          share candidates.length place (rounds + calls.length) := by
  induction calls generalizing balance rounds with
  | nil => exact ⟨spread, rfl, fun _ _ _ => rfl⟩
  | cons call rest inductionHypothesis =>
    obtain ⟨x, turn, called, spreadNext⟩ := balance.spread_dispatch service nonempty identities
      rounds spread call (within call List.mem_cons_self)
    obtain ⟨spreadLast, length, shares⟩ := inductionHypothesis _ _ spreadNext
      fun other later => within other (List.mem_cons_of_mem call later)
    have onward : rounds + 1 + rest.length = rounds + (call :: rest).length := by
      simp only [List.length_cons]
      omega
    rw [onward] at spreadLast shares
    refine ⟨spreadLast, ?_, ?_⟩
    · simp only [dispatchAll, called, Option.toList_some, List.singleton_append,
        List.length_cons, length]
    · intro place y found
      have whose : x.identity = y.identity ↔ turnAt candidates.length rounds = place := by
        obtain ⟨inside, rfl⟩ := List.getElem?_eq_some_iff.mp turn
        obtain ⟨there, rfl⟩ := List.getElem?_eq_some_iff.mp found
        rw [← List.getElem_map Instance.identity, ← List.getElem_map Instance.identity]
        · exact identities.getElem_inj_iff
        · simpa using there
        · simpa using inside
      rw [← shares place y found, share_succ]
      simp only [dispatchAll, called, Option.toList_some, List.singleton_append,
        List.countP_cons, decide_eq_true_eq, whose]
      omega

/-- Best available takes the first of the candidates with the fewest calls running on their
current tallies, whatever the ledger holds. If no call is running on any of the candidates,
whose identities are distinct, and then calls are chosen for and start, while none ends and no
tally expires, each candidate has an equal share of them, up to one call, and those that have
one more are the first ones. The counters show these calls; once they all stand at the
greatest number, all further calls go to the first candidate.

The choice is the first least element by the running calls. By induction over the rounds the
counts are the shares: the places that have one call more are the first ones, so the next call
goes to the place behind them. -/
theorem running_calls_balanced (candidates : List Instance) :
    (∀ (balance : Balance ω) (draw : Draw ω) (now : Instant) (service : String),
      (balance.choose .bestAvailable draw now service candidates).2 =
        candidates.argmin fun x => (balance.ledger.activeOf now x).toNat) ∧
    ∀ (balance : Balance ω) (service : String) (first last : Instant) (calls : List (Dispatch ω)),
      candidates ≠ [] → (candidates.map Instance.identity).Nodup → balance.ledger.Distinct →
      balance.ledger.Steady candidates first last →
      (∀ x ∈ candidates, balance.ledger.activeOf first x = 0) →
      (∀ call ∈ calls, call.Within first last) →
      let after := balance.dispatchAll service candidates calls
      let size := candidates.length
      let rounds := calls.length
      after.2.length = rounds ∧ ∀ place x, candidates[place]? = some x →
        let running := after.2.countP (·.identity = x.identity)
        (∀ now, first ≤ now → now ≤ last →
          after.1.ledger.activeOf now x = UInt64.ofNat running) ∧
        (rounds ≤ size * greatestCount →
          running = rounds / size + if place < rounds % size then 1 else 0) ∧
        (size * greatestCount ≤ rounds →
          running = greatestCount + if place = 0 then rounds - size * greatestCount else 0) := by
  refine ⟨fun balance draw now service =>
    balance.choose_bestAvailable draw now service candidates, ?_⟩
  intro balance service first last calls nonempty identities distinct steady idle within after
    size rounds
  have spread : balance.ledger.Spread candidates first last 0 :=
    ⟨distinct, steady, fun place x found => idle x (List.mem_of_getElem? found)⟩
  obtain ⟨spreadAfter, length, shares⟩ :=
    balance.spread_dispatchAll service nonempty identities 0 spread calls within
  simp only [Nat.zero_add] at spreadAfter shares
  refine ⟨length, ?_⟩
  intro place x found running
  have inside : place < size := (List.getElem?_eq_some_iff.mp found).1
  have counted : running = share size place rounds := by
    rw [← shares place x found]
    exact (Nat.zero_add _).symm
  refine ⟨?_, ?_, ?_⟩
  · intro now begun ends
    rw [spreadAfter.steady.activeOf x (List.mem_of_getElem? found) now begun ends,
      spreadAfter.counts place x found, counted]
  · intro few
    rw [counted, share_of_le size place rounds inside few]
  · intro many
    rw [counted, share_of_ge size place rounds inside many]

end Rounds

/-- Three calls, chosen for one after the other, and each of them on its way a moment later. -/
def threeCalls : List (Dispatch Int) :=
  [⟨World.frontDraw, 0, 1⟩, ⟨World.frontDraw, 10, 11⟩, ⟨World.frontDraw, 20, 21⟩]

/-- Of three calls to two instances the first one gets two. -/
theorem running_calls_balanced_threeCalls :
    let balance : Balance Int := .empty (.ofSeconds 3600)
    let after := balance.dispatchAll "orders" World.firstThenSecond threeCalls
    World.firstThenSecond ≠ [] ∧ (World.firstThenSecond.map Instance.identity).Nodup ∧
      balance.ledger.Distinct ∧ balance.ledger.Steady World.firstThenSecond 0 21 ∧
      (∀ x ∈ World.firstThenSecond, balance.ledger.activeOf 0 x = 0) ∧
      (∀ call ∈ threeCalls, call.Within 0 21) ∧
      after.2.countP (·.identity = .located "10.0.0.1" 80) = 2 ∧
      after.2.countP (·.identity = .located "10.0.0.2" 80) = 1 ∧
      after.1.ledger.activeOf 21 (.ofAddress "orders" "10.0.0.1" 80) = 2 := by
  intro balance after
  have nonempty : World.firstThenSecond ≠ [] := List.cons_ne_nil _ _
  have identities : (World.firstThenSecond.map Instance.identity).Nodup := by decide
  have distinct : balance.ledger.Distinct := .empty _
  have steady : balance.ledger.Steady World.firstThenSecond 0 21 :=
    ⟨by decide, fun _ _ _ _ _ => rfl⟩
  have idle : ∀ x ∈ World.firstThenSecond, balance.ledger.activeOf 0 x = 0 := fun _ _ => rfl
  have within : ∀ call ∈ threeCalls, call.Within 0 21 := by
    intro call member
    rcases List.mem_cons.mp member with rfl | later
    · exact ⟨by decide, by decide, by decide⟩
    · rcases List.mem_cons.mp later with rfl | last
      · exact ⟨by decide, by decide, by decide⟩
      · obtain rfl := List.mem_singleton.mp last
        exact ⟨by decide, by decide, by decide⟩
  obtain ⟨_, counts⟩ := (running_calls_balanced World.firstThenSecond).2 balance "orders" 0 21
    threeCalls nonempty identities distinct steady idle within
  have few : threeCalls.length ≤ World.firstThenSecond.length * greatestCount := by
    simp [threeCalls, World.firstThenSecond, greatestCount]
  obtain ⟨active, onFirst, _⟩ := counts 0 (.ofAddress "orders" "10.0.0.1" 80) rfl
  obtain ⟨_, onSecond, _⟩ := counts 1 (.ofAddress "orders" "10.0.0.2" 80) rfl
  have firstTwo : after.2.countP (·.identity = .located "10.0.0.1" 80) = 2 := onFirst few
  have secondOne : after.2.countP (·.identity = .located "10.0.0.2" 80) = 1 := onSecond few
  refine ⟨nonempty, identities, distinct, steady, idle, within, firstTwo, secondOne, ?_⟩
  have counter := active 21 (by decide) (by decide)
  rw [onFirst few] at counter
  generalize Ledger.activeOf _ _ _ = count at counter ⊢
  exact counter

end CallRouting
