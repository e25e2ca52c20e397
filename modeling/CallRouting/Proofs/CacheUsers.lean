import CallRouting.Proofs.LookupSteps

/-!
# Who stands in which line

The cache of a client has users: its tasks, its jobs, and the jobs that were stopped and are
not gone yet, each with the lookup that it is about. The lines for the load locks are made of
these users and of nobody else. Each line holds just those whose lookups wait for the lock of its
service or load under it, each once, and whoever loads stands first.

So no line is ever blocked: where somebody stands, the first in line loads or can go on. If the
directory has answered all loads, and all to whom a lock was handed have gone on, nobody stands in
any line, and so no sweep is under way.
-/

namespace CallRouting

/-- Tickets, each with the lookup that its holder is about. -/
abbrev Users := List (Ticket × Option Lookup)

namespace LoadLock

/-- Who asks for the lock joins the line, and nobody else does. -/
theorem mem_request (lock : LoadLock) (ticket other : Ticket) :
    other ∈ (lock.request ticket).line ↔ other = ticket ∨ other ∈ lock.line := by
  rw [request, List.mem_append, List.mem_singleton, or_comm]

/-- Who withdraws from the lock leaves the line, and nobody else does. -/
theorem mem_withdraw (lock : LoadLock) (ticket other : Ticket) :
    other ∈ (lock.withdraw ticket).line ↔ other ≠ ticket ∧ other ∈ lock.line := by
  rw [withdraw, List.mem_filter, decide_eq_true_iff, and_comm]

/-- A holder keeps the lock when another one goes away. -/
theorem holder?_withdraw (lock : LoadLock) (ticket other : Ticket) (differs : other ≠ ticket)
    (holds : lock.holder? = some other) : (lock.withdraw ticket).holder? = some other := by
  rw [holder?, withdraw, lock.line_release other holds]
  simp [differs]

end LoadLock

namespace Cache

/-- The lines of a cache are those of its users. -/
structure LinesUp (cache : Cache) (users : Users) : Prop where
  distinct : (users.map Prod.fst).Nodup
  nodup : ∀ service, (cache.slot service).lock.line.Nodup
  mem : ∀ service ticket, ticket ∈ (cache.slot service).lock.line ↔
    ∃ lookup, (ticket, some lookup) ∈ users ∧ lookup.service = service ∧
      lookup.phase.inLine = true
  first : ∀ ticket lookup, (ticket, some lookup) ∈ users → lookup.phase = .loading →
    (cache.slot lookup.service).lock.holder? = some ticket

/-- What has to hold when one of the users goes on: it stands in line as its lookup says, and
the others stand as before. -/
structure Steps (cache after : Cache) (ticket : Ticket) (lookup? : Option Lookup) : Prop where
  nodup : ∀ service, (after.slot service).lock.line.Nodup
  others : ∀ service other, other ≠ ticket →
    (other ∈ (after.slot service).lock.line ↔ other ∈ (cache.slot service).lock.line)
  own : ∀ service, ticket ∈ (after.slot service).lock.line ↔
    ∃ lookup ∈ lookup?, lookup.service = service ∧ lookup.phase.inLine = true
  holders : ∀ service other, other ≠ ticket → (cache.slot service).lock.holder? = some other →
    (after.slot service).lock.holder? = some other
  first : ∀ lookup ∈ lookup?, lookup.phase = .loading →
    (after.slot lookup.service).lock.holder? = some ticket

namespace LinesUp

variable {cache after : Cache} {users rest : Users} {ticket : Ticket} {lookup? : Option Lookup}

/-- In which order the users stand does not matter to the lines. -/
theorem perm (lines : cache.LinesUp users) {others : Users} (same : users.Perm others) :
    cache.LinesUp others := by
  refine ⟨(same.map Prod.fst).nodup_iff.mp lines.distinct, lines.nodup, ?_, ?_⟩
  · intro service ticket
    rw [lines.mem]
    exact exists_congr fun lookup => and_congr_left' same.mem_iff
  · exact fun ticket lookup member => lines.first ticket lookup (same.mem_iff.mpr member)

/-- Nobody else has the ticket of one of the users. -/
theorem notMem (lines : cache.LinesUp ((ticket, lookup?) :: rest)) (lookup : Option Lookup) :
    (ticket, lookup) ∉ rest := by
  intro member
  have distinct := lines.distinct
  rw [List.map_cons, List.nodup_cons] at distinct
  exact distinct.1 (List.mem_map.mpr ⟨_, member, rfl⟩)

/-- Whether one of the users stands in a line is told by its lookup. -/
theorem mem_own (lines : cache.LinesUp ((ticket, lookup?) :: rest)) (service : String) :
    ticket ∈ (cache.slot service).lock.line ↔
      ∃ lookup ∈ lookup?, lookup.service = service ∧ lookup.phase.inLine = true := by
  rw [lines.mem]
  refine exists_congr fun lookup => and_congr_left' ?_
  rw [List.mem_cons, Prod.mk.injEq]
  constructor
  · rintro (⟨-, same⟩ | member)
    · exact same.symm
    · exact absurd member (lines.notMem _)
  · rintro rfl
    exact .inl ⟨rfl, rfl⟩

/-- The lines stay those of the users when one of them goes on.

The user itself stands in a line as its new phase says, and everybody else as before; so whoever
loads still stands first. -/
theorem step (lines : cache.LinesUp ((ticket, lookup?) :: rest)) {next? : Option Lookup}
    (steps : cache.Steps after ticket next?) : after.LinesUp ((ticket, next?) :: rest) := by
  have differs {other : Ticket} {lookup : Option Lookup} (member : (other, lookup) ∈ rest) :
      other ≠ ticket := by
    rintro rfl
    exact lines.notMem _ member
  refine ⟨lines.distinct, steps.nodup, ?_, ?_⟩
  · intro service other
    by_cases same : other = ticket
    · subst same
      rw [steps.own]
      refine exists_congr fun lookup => and_congr_left' ?_
      rw [List.mem_cons, Prod.mk.injEq]
      constructor
      · rintro rfl
        exact .inl ⟨rfl, rfl⟩
      · rintro (⟨-, same⟩ | member)
        · exact same.symm
        · exact absurd member (lines.notMem _)
    · rw [steps.others service other same, lines.mem]
      refine exists_congr fun lookup => and_congr_left' ?_
      simp [same]
  · intro other lookup member loading
    rcases List.mem_cons.mp member with own | member
    · obtain ⟨rfl, same⟩ := Prod.mk.inj own
      exact steps.first lookup same.symm loading
    · exact steps.holders _ other (differs member)
        (lines.first other lookup (List.mem_cons_of_mem _ member) loading)

/-- Who is about no lookup may join the users or leave them. -/
theorem cons_none : cache.LinesUp ((ticket, none) :: rest) ↔
    ticket ∉ rest.map Prod.fst ∧ cache.LinesUp rest := by
  -- All conditions on users are about those who have a lookup.
  have mem (other : Ticket) (lookup : Lookup) :
      (other, some lookup) ∈ (ticket, none) :: rest ↔ (other, some lookup) ∈ rest := by
    simp
  constructor
  · intro lines
    obtain ⟨new, distinct⟩ := List.nodup_cons.mp lines.distinct
    refine ⟨new, distinct, lines.nodup, ?_, ?_⟩
    · intro service other
      rw [lines.mem]
      exact exists_congr fun lookup => and_congr_left' (mem other lookup)
    · exact fun other lookup member => lines.first other lookup ((mem other lookup).mpr member)
  · rintro ⟨new, lines⟩
    refine ⟨List.nodup_cons.mpr ⟨new, lines.distinct⟩, lines.nodup, ?_, ?_⟩
    · intro service other
      rw [lines.mem]
      exact exists_congr fun lookup => and_congr_left' (mem other lookup).symm
    · exact fun other lookup member => lines.first other lookup ((mem other lookup).mp member)

/-- To take up or to drop a lookup out of line changes no line: the user stands nowhere before and
nowhere after. -/
theorem swap (lines : cache.LinesUp ((ticket, lookup?) :: rest)) {next? : Option Lookup}
    (before : ∀ lookup ∈ lookup?, lookup.phase.inLine = false)
    (after : ∀ lookup ∈ next?, lookup.phase.inLine = false) :
    cache.LinesUp ((ticket, next?) :: rest) := by
  have outside (current? : Option Lookup) (free : ∀ lookup ∈ current?, lookup.phase.inLine = false)
      (service : String) :
      ¬ ∃ lookup ∈ current?, lookup.service = service ∧ lookup.phase.inLine = true := by
    rintro ⟨lookup, about, -, inLine⟩
    rw [free lookup about] at inLine
    cases inLine
  refine lines.step ⟨lines.nodup, fun _ _ _ => Iff.rfl, ?_, fun _ _ _ holds => holds, ?_⟩
  · intro service
    rw [lines.mem_own]
    exact iff_of_false (outside lookup? before service) (outside next? after service)
  · intro lookup about loading
    have free := after lookup about
    rw [loading] at free
    cases free

/-- One of the users may change its place in the line of its service. It suffices that everybody
else keeps the place there, for the lines of other services are as they were. -/
theorem alter {service : String} {phase : LookupPhase}
    (lines : cache.LinesUp ((ticket, some ⟨service, phase⟩) :: rest)) (lock : LoadLock)
    (next : LookupPhase)
    (locks : ∀ other, (after.slot other).lock =
      if service = other then lock else (cache.slot other).lock)
    (nodup : lock.line.Nodup)
    (others : ∀ other, other ≠ ticket →
      (other ∈ lock.line ↔ other ∈ (cache.slot service).lock.line))
    (own : ticket ∈ lock.line ↔ next.inLine = true)
    (holders : ∀ other, other ≠ ticket → (cache.slot service).lock.holder? = some other →
      lock.holder? = some other)
    (first : next = .loading → lock.holder? = some ticket) :
    after.LinesUp ((ticket, some ⟨service, next⟩) :: rest) := by
  have here : (after.slot service).lock = lock := (locks service).trans (if_pos rfl)
  have elsewhere {other : String} (differs : service ≠ other) :
      (after.slot other).lock = (cache.slot other).lock := (locks other).trans (if_neg differs)
  refine lines.step ⟨?_, ?_, ?_, ?_, ?_⟩
  · intro other
    by_cases same : service = other
    · rwa [← same, here]
    · rw [elsewhere same]
      exact lines.nodup other
  · intro other someone differs
    by_cases same : service = other
    · rw [← same, here]
      exact others someone differs
    · rw [elsewhere same]
  · intro other
    by_cases same : service = other
    · subst same
      rw [here, own]
      simp
    · rw [elsewhere same, lines.mem_own]
      simp [same]
  · intro other someone differs holds
    by_cases same : service = other
    · subst same
      rw [here]
      exact holders someone differs holds
    · rwa [elsewhere same]
  · rintro _ ⟨⟩ loading
    rw [here]
    exact first loading

/-- A holder that is done leaves its line.

It was the first there, so whoever is left stands behind it, in the same order. -/
theorem release {service : String} {phase : LookupPhase}
    (lines : cache.LinesUp ((ticket, some ⟨service, phase⟩) :: rest))
    (holds : (cache.slot service).lock.holder? = some ticket) (next : LookupPhase)
    (locks : ∀ other, (after.slot other).lock =
      if service = other then (cache.slot service).lock.release else (cache.slot other).lock)
    (done : next.inLine = false) : after.LinesUp ((ticket, some ⟨service, next⟩) :: rest) := by
  have mem := (cache.slot service).lock.mem_release (lines.nodup service) ticket
  refine lines.alter _ next locks ?_ ?_ ?_ ?_ ?_
  · have distinct := lines.nodup service
    rw [(cache.slot service).lock.line_release ticket holds] at distinct
    exact (List.nodup_cons.mp distinct).2
  · intro other differs
    rw [mem other holds]
    exact and_iff_right differs
  · rw [mem ticket holds, done]
    simp
  · intro other differs first
    exact absurd (Option.some.inj (first.symm.trans holds)) differs
  · rintro rfl
    cases done

end LinesUp

end Cache

/-- Whoever gets the lock holds it. -/
def Lookup.Admitted (lookup : Lookup) (cache : Cache) (ticket : Ticket) (answer : Answer) : Prop :=
  ∀ seen, lookup.phase = .queued seen → answer = .lock →
    cache.admits ticket lookup.service = true

namespace Cache.LinesUp

variable {cache : Cache} {rest : Users} {ticket : Ticket}

/-- Whoever comes for a list has it at once or stands at the end of its line.

It was in no line before, so nobody stands in one twice; and the first in line stays the first. -/
theorem come {service : String} {reload : Bool}
    (lines : cache.LinesUp ((ticket, some ⟨service, .asked reload⟩) :: rest)) (now : Instant) :
    (cache.come now ticket service reload).1.LinesUp
      ((ticket, some ⟨service, (cache.come now ticket service reload).2⟩) :: rest) := by
  have absent : ticket ∉ (cache.slot service).lock.line := by
    rw [lines.mem_own]
    simp [LookupPhase.inLine]
  unfold Cache.come
  dsimp only
  split
  · refine lines.alter (cache.slot service).lock _ ?_ (lines.nodup service)
      (fun _ _ => Iff.rfl) ?_ (fun _ _ holds => holds) (by rintro ⟨⟩)
    · intro other
      rw [slot_setSlot]
      split <;> rfl
    · exact iff_of_false absent (by simp [LookupPhase.inLine])
  · refine lines.alter ((cache.slot service).lock.request ticket) _ ?_ ?_ ?_ ?_ ?_
      (by rintro ⟨⟩)
    · intro other
      rw [slot_setSlot]
      split <;> rfl
    · rw [LoadLock.request, List.nodup_append]
      refine ⟨lines.nodup service, by simp, ?_⟩
      rintro other member _ single rfl
      rw [List.mem_singleton.mp single] at member
      exact absent member
    · intro other differs
      rw [LoadLock.mem_request]
      exact or_iff_right differs
    · rw [LoadLock.mem_request]
      simp [LookupPhase.inLine]
    · intro other _ holds
      rw [LoadLock.holder?_request, holds]
      rfl

/-- Whoever has got the lock loads, or leaves the line with the list at hand.

While it loads it keeps the lock, and with it the first place. -/
theorem enter {service : String} {seen : Option UInt64}
    (lines : cache.LinesUp ((ticket, some ⟨service, .queued seen⟩) :: rest))
    (holds : (cache.slot service).lock.holder? = some ticket) :
    (cache.enter service seen).1.LinesUp
      ((ticket, some ⟨service, (cache.enter service seen).2⟩) :: rest) := by
  unfold Cache.enter
  dsimp only
  split
  · refine lines.release holds _ ?_ rfl
    intro other
    rw [slot_setSlot]
    split <;> rfl
  · refine lines.alter (cache.slot service).lock _ ?_ (lines.nodup service)
      (fun _ _ => Iff.rfl) ?_ (fun _ _ holds => holds) fun _ => holds
    · intro other
      split
      · rename_i same
        rw [same]
      · rfl
    · rw [lines.mem_own]
      simp [LookupPhase.inLine]

/-- Whoever has loaded leaves the line. -/
theorem complete {service : String}
    (lines : cache.LinesUp ((ticket, some ⟨service, .loading⟩) :: rest)) (now : Instant)
    (listing : Except DirectoryFault (List Instance)) :
    (cache.complete now service listing).1.LinesUp
      ((ticket, some ⟨service, (cache.complete now service listing).2⟩) :: rest) := by
  have holds := lines.first ticket _ List.mem_cons_self rfl
  refine lines.release holds _ ?_ rfl
  intro other
  simp only [Cache.complete, slot_setSlot]
  split <;> rfl

/-- The lines stay those of the users when a lookup goes on. It comes, it enters with the lock, or
it completes its load; at any other answer nothing happens. -/
theorem resume {lookup : Lookup} (lines : cache.LinesUp ((ticket, some lookup) :: rest))
    (now : Instant) (answer : Answer) (admitted : lookup.Admitted cache ticket answer) :
    (lookup.resume cache now ticket answer).1.LinesUp
      ((ticket, some (lookup.resume cache now ticket answer).2) :: rest) := by
  obtain ⟨service, phase⟩ := lookup
  cases phase with
  | asked reload =>
    cases answer with
    | turn => exact lines.come now
    | _ => exact lines
  | queued seen =>
    cases answer with
    | lock =>
      refine lines.enter ?_
      simpa [admits] using admitted seen rfl rfl
    | _ => exact lines
  | loading =>
    cases answer with
    | listing listing => exact lines.complete now listing
    | _ => exact lines
  | answered instances => exact lines

/-- The lines stay those of the users when one of them goes away: whoever stood in line leaves
it. -/
theorem abandon {lookup? : Option Lookup} (lines : cache.LinesUp ((ticket, lookup?) :: rest)) :
    (lookup?.elim cache (·.abandon cache ticket)).LinesUp rest := by
  cases lookup? with
  | none => exact (cons_none.mp lines).2
  | some lookup =>
    -- To go away is to change the phase to one outside all lines, and then to be among the users no
    -- longer.
    have gone : (lookup.abandon cache ticket).LinesUp
        ((ticket, some ⟨lookup.service, .answered []⟩) :: rest) := by
      obtain ⟨service, phase⟩ := lookup
      have stays (free : phase.inLine = false) :
          cache.LinesUp ((ticket, some ⟨service, .answered []⟩) :: rest) := by
        refine lines.swap ?_ ?_
        · rintro _ ⟨⟩
          exact free
        · rintro _ ⟨⟩
          rfl
      have leaves (inLine : phase.inLine = true) : (cache.leave ticket service).LinesUp
          ((ticket, some ⟨service, .answered []⟩) :: rest) := by
        refine lines.alter ((cache.slot service).lock.withdraw ticket) _ ?_
          ((lines.nodup service).filter _) ?_ ?_ ?_ (by rintro ⟨⟩)
        · intro other
          rw [slot_leave]
          split
          · rename_i same
            rw [same]
          · rfl
        · intro other differs
          rw [LoadLock.mem_withdraw]
          exact and_iff_right differs
        · rw [LoadLock.mem_withdraw]
          simp [LookupPhase.inLine]
        · exact fun other differs holds =>
            LoadLock.holder?_withdraw _ ticket other differs holds
      cases phase with
      | asked reload => exact stays rfl
      | queued seen => exact leaves rfl
      | loading => exact leaves rfl
      | answered instances => exact stays rfl
    refine (cons_none.mp (gone.swap ?_ (by rintro _ ⟨⟩))).2
    rintro _ ⟨⟩
    rfl

/-- The lines stay those of the users through all that one of them does when it goes on.

Only the first of its steps is at the answer for which it was admitted; the others are at a turn,
for which nobody has to be admitted. -/
theorem lookupSteps {now : Instant} {answer : Answer} {first second : Cache × Option Lookup}
    (steps : LookupSteps now ticket answer first second)
    (lines : first.1.LinesUp ((ticket, first.2) :: rest))
    (admitted : ∀ lookup ∈ first.2, lookup.Admitted first.1 ticket answer) :
    second.1.LinesUp ((ticket, second.2) :: rest) := by
  induction steps with
  | stays => exact lines
  | begins answer cache service reload =>
    refine lines.swap (by rintro _ ⟨⟩) ?_
    rintro _ ⟨⟩
    rfl
  | goes answer cache lookup => exact lines.resume now answer (admitted lookup rfl)
  | drops answer cache service instances =>
    refine lines.swap ?_ (by rintro _ ⟨⟩)
    rintro _ ⟨⟩
    rfl
  | onward before after beforeHypothesis afterHypothesis =>
    exact afterHypothesis (beforeHypothesis lines admitted) fun _ _ _ _ turn => nomatch turn

/-- In a line that is not empty the first one loads, or it waits for the lock that it holds. -/
theorem exists_holder {users : Users} (lines : cache.LinesUp users) {lookup : Lookup}
    (member : (ticket, some lookup) ∈ users) (waits : lookup.phase.inLine = true) :
    ∃ holder current, (holder, some current) ∈ users ∧
      cache.admits holder current.service = true ∧ current.phase.inLine = true := by
  have inside := (lines.mem lookup.service ticket).mpr ⟨lookup, member, rfl, waits⟩
  obtain ⟨holder, rest, line⟩ := List.exists_cons_of_ne_nil (List.ne_nil_of_mem inside)
  have leads : holder ∈ (cache.slot lookup.service).lock.line := line ▸ List.mem_cons_self
  obtain ⟨current, among, same, inLine⟩ := (lines.mem lookup.service holder).mp leads
  refine ⟨holder, current, among, ?_, inLine⟩
  rw [same, admits, LoadLock.holder?, line]
  simp

end Cache.LinesUp

end CallRouting
