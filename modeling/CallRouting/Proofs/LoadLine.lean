import CallRouting.Proofs.Answers

/-!
# The line for the load lock

Tasks that wait for the lock stand in the order in which they came, and whoever asks the
directory stands first. A load that completes takes its task out of the line, so each
task in line sees no more loads complete than there were tasks ahead of it, and nobody
asks the directory before all who came earlier are done. The line never stands still: as
long as some task waits, some task can go on.
-/

namespace CallRouting

/-- Whether a task stands in the line for the lock of the service. -/
def ServiceState.inLine (state : ServiceState) (ticket : Ticket) : Bool :=
  (state.phase? ticket).any LookupPhase.inLine

/-- A task that comes further stands in line as its new phase says, and the others stand as
they did. -/
theorem ServiceState.inLine_put {state after : ServiceState} {ticket : Ticket}
    {phase : Option LookupPhase}
    (put : after.phase? = (state.put ticket phase).phase?) (other : Ticket) :
    after.inLine other =
      if other = ticket then phase.any LookupPhase.inLine else state.inLine other := by
  simp only [ServiceState.inLine, put, ServiceState.phase?_put]
  split <;> rfl

/-- Who comes further but not into the line or out of it leaves the line as it is. -/
theorem ServiceState.inLine_put_same {state after : ServiceState} {ticket : Ticket}
    {phase : Option LookupPhase}
    (put : after.phase? = (state.put ticket phase).phase?)
    (same : phase.any LookupPhase.inLine = state.inLine ticket) (other : Ticket) :
    after.inLine other = state.inLine other := by
  rw [ServiceState.inLine_put put]
  split
  · rename_i here
    rw [same, here]
  · rfl

/-- A task has its list or has been dropped. -/
def Done (ticket : Ticket) (log : List Sight) : Prop :=
  (∃ instances, .answered ticket instances ∈ log) ∨ .left ticket ∈ log

/-- Who has come is done or stands in line.

The trace of a task tells its phase: after it has come it waits for the lock or loads, until it is
given a list or goes away. -/
theorem Traced.done_or_inLine {log : List Sight} {state : ServiceState} {ticket : Ticket}
    (traced : Traced log state) (came : Came ticket log) :
    Done ticket log ∨ state.inLine ticket = true := by
  obtain ⟨reload, now, ahead, member⟩ := came
  have among := mem_about.mpr ⟨member, rfl⟩
  have inside (sight : Sight) (there : sight ∈ about ticket log) : sight ∈ log :=
    (mem_about.mp there).1
  have trace := traced.trace ticket
  generalize told : about ticket log = sights at trace among inside
  generalize found : state.phase? ticket = phase at trace
  cases trace with
  | unknown => cases among
  | asked reload => cases among
  | queued => exact .inr (by simp [ServiceState.inLine, found, LookupPhase.inLine])
  | loading => exact .inr (by simp [ServiceState.inLine, found, LookupPhase.inLine])
  | taken now ahead instances => exact .inl (.inl ⟨instances, inside _ (by simp)⟩)
  | loaded reload now ahead answer done instances =>
    exact .inl (.inl ⟨instances, inside _ (by simp)⟩)
  | left phase trace before waits => exact .inl (.inr (inside _ (by simp)))

/-- A task has seen at most as many loads complete as there were tasks ahead of it. -/
def Bounded (ticket : Ticket) (log : List Sight) : Prop :=
  ∀ reload now ahead, .came ticket reload now ahead ∈ log →
    completions log ≤ completions (before ticket log) + ahead

/-- Who asks the directory has waited for all that came earlier. Neither then nor at a
list that others have loaded has a task seen more loads than the line explains. -/
def Sight.InTurn (log : List Sight) : Sight → Prop
  | .called ticket =>
    (∀ other, Came other (before ticket log) → Done other log) ∧ Bounded ticket log
  | .answered ticket _ => .called ticket ∉ log → Bounded ticket log
  | .came .. | .loaded .. | .left _ | .forgotten => True

/-- The line as the log tells it. -/
structure Lined (log : List Sight) (state : ServiceState) : Prop where
  member : ∀ ticket, ticket ∈ state.slot.lock.line ↔ state.inLine ticket = true
  sorted : state.slot.lock.line.Pairwise fun first second =>
    (before first log).length < (before second log).length
  first : ∀ ticket, state.phase? ticket = some .loading → state.slot.lock.holder? = some ticket
  bounded : ∀ ticket reload now ahead, .came ticket reload now ahead ∈ log →
    ticket ∈ state.slot.lock.line →
    completions log + state.slot.lock.line.idxOf ticket ≤ completions (before ticket log) + ahead
  inTurn : Always Sight.InTurn log

namespace LoadLock

/-- Who stands in line stands no later when another one goes away: one step earlier, if that one
stood before it. -/
theorem idxOf_withdraw_le (lock : LoadLock) {ticket other : Ticket} (differs : ticket ≠ other) :
    (lock.withdraw other).line.idxOf ticket ≤ lock.line.idxOf ticket := by
  obtain ⟨line⟩ := lock
  change (line.filter (· ≠ other)).idxOf ticket ≤ line.idxOf ticket
  induction line with
  | nil => exact Nat.le_refl _
  | cons first rest inductionHypothesis =>
    by_cases same : first = ticket
    · subst same
      simp [differs]
    · rw [List.idxOf_cons_ne rest same]
      by_cases gone : first = other
      · simp only [gone, List.filter_cons, ne_eq, not_true, decide_false, Bool.false_eq_true,
          if_false]
        exact Nat.le_succ_of_le inductionHypothesis
      · simp only [List.filter_cons, ne_eq, gone, not_false_eq_true, decide_true, if_true]
        rw [List.idxOf_cons_ne _ same]
        exact Nat.succ_le_succ inductionHypothesis

end LoadLock

namespace Lined

variable {ttl : Duration} {log : List Sight} {state after : ServiceState} {seen : List Sight}
  {ticket : Ticket}

/-- No task stands in line twice, for each one behind another came later. -/
theorem nodup (lined : Lined log state) : state.slot.lock.line.Nodup :=
  lined.sorted.imp fun {first second} earlier => by
    rintro rfl
    exact absurd earlier (Nat.lt_irrefl _)

/-- A task that stands in the line of a service has come for its list before. -/
theorem came (lined : Lined log state) (traced : Traced log state)
    (member : ticket ∈ state.slot.lock.line) : Came ticket log := by
  obtain ⟨phase, found, inLine⟩ := (Option.any_eq_true _ _).mp ((lined.member ticket).mp member)
  exact traced.came found inLine

/-- The holder of the lock leaves the line, and nobody else does. -/
theorem mem_release (lined : Lined log state) (holds : state.slot.lock.holder? = some ticket)
    (other : Ticket) :
    other ∈ state.slot.lock.release.line ↔ other ≠ ticket ∧ other ∈ state.slot.lock.line :=
  state.slot.lock.mem_release lined.nodup ticket other holds

/-- In each step the line stays the line of those who wait for the lock. -/
theorem member_step (lined : Lined log state) (traced : Traced log state)
    (stepped : state.Step ttl after seen) (other : Ticket) :
    other ∈ after.slot.lock.line ↔ after.inLine other = true := by
  have known := lined.member other
  -- Most steps leave the line and whether their task waits in it.
  have stays {ticket : Ticket} {phase next : Option LookupPhase} {after : ServiceState}
      (found : state.phase? ticket = phase) (put : after.phase? = (state.put ticket next).phase?)
      (same : next.any LookupPhase.inLine = phase.any LookupPhase.inLine)
      (line : after.slot.lock.line = state.slot.lock.line) :
      other ∈ after.slot.lock.line ↔ after.inLine other = true := by
    rwa [line, ServiceState.inLine_put_same put (same.trans (congrArg _ found.symm))]
  -- The others move just one task into the line or out of it.
  have changes {ticket : Ticket} {next : Option LookupPhase} {after : ServiceState}
      (put : after.phase? = (state.put ticket next).phase?)
      (line : other ∈ after.slot.lock.line ↔
        if other = ticket then next.any LookupPhase.inLine = true
        else other ∈ state.slot.lock.line) :
      other ∈ after.slot.lock.line ↔ after.inLine other = true := by
    rw [line, ServiceState.inLine_put put]
    split
    · exact Iff.rfl
    · exact known
  cases stepped with
  | quiet now nextTicket later further => exact known
  | forget => exact known
  | ask reload => exact stays (traced.unused state.nextTicket (Nat.le_refl _)).1 rfl rfl rfl
  | fresh ticket cached phase found => exact stays phase rfl rfl rfl
  | call ticket count phase holds unchanged => exact stays phase rfl rfl rfl
  | withdraw ticket reload phase => exact stays phase rfl rfl rfl
  | queue ticket reload phase stale =>
    refine changes rfl ?_
    rw [LoadLock.request, List.mem_append, List.mem_singleton]
    by_cases same : other = ticket <;> simp [same, LookupPhase.inLine]
  | reuse ticket count phase holds changed =>
    refine changes rfl ((lined.mem_release holds other).trans ?_)
    by_cases same : other = ticket <;> simp [same, LookupPhase.inLine]
  | load ticket answer phase =>
    refine changes rfl ((lined.mem_release (lined.first ticket phase) other).trans ?_)
    by_cases same : other = ticket <;> simp [same, LookupPhase.inLine]
  | leave ticket phase found waits =>
    refine changes rfl ?_
    rw [LoadLock.withdraw, List.mem_filter]
    by_cases same : other = ticket <;> simp [same]

/-- In each step whoever asks the directory stays first in line. -/
theorem first_step (lined : Lined log state) (stepped : state.Step ttl after seen) {other : Ticket}
    (loading : after.phase? other = some .loading) : after.slot.lock.holder? = some other := by
  -- Who loads already has stood first before.
  have others {ticket : Ticket} {phase : Option LookupPhase} (differs : phase ≠ some .loading)
      (put : (state.put ticket phase).phase? other = some .loading) :
      other ≠ ticket ∧ state.slot.lock.holder? = some other :=
    (ServiceState.phase?_of_put put differs).imp_right (lined.first other)
  cases stepped with
  | quiet now nextTicket later further => exact lined.first other loading
  | forget => exact lined.first other loading
  | call ticket count phase holds unchanged =>
    rw [ServiceState.phase?_put] at loading
    split at loading
    · rename_i same
      exact same ▸ holds
    · exact lined.first other loading
  | ask reload => exact (others (by simp) loading).2
  | fresh ticket cached phase found => exact (others (by simp) loading).2
  | withdraw ticket reload phase => exact (others (by simp) loading).2
  | queue ticket reload phase stale =>
    rw [LoadLock.holder?_request, (others (by simp) loading).2]
    rfl
  | reuse ticket count phase holds changed =>
    obtain ⟨differs, first⟩ := others (by simp) loading
    exact absurd (Option.some.inj (first.symm.trans holds)) differs
  | load ticket answer phase =>
    obtain ⟨differs, first⟩ := others (by simp) loading
    exact absurd (Option.some.inj (first.symm.trans (lined.first ticket phase))) differs
  | leave ticket phase found waits =>
    obtain ⟨differs, first⟩ := others (by simp) loading
    rw [LoadLock.holder?, LoadLock.withdraw, state.slot.lock.line_release other first]
    simp [differs]

/-- The line gets shorter, or somebody who comes stands behind all others. -/
theorem line_step (stepped : state.Step ttl after seen) :
    after.slot.lock.line.Sublist state.slot.lock.line ∨ ∃ ticket reload,
      state.phase? ticket = some (.asked reload) ∧
      seen = [.came ticket reload state.now state.slot.lock.line.length] ∧
      after.slot.lock.line = state.slot.lock.line ++ [ticket] := by
  cases stepped with
  | queue ticket reload phase stale => exact .inr ⟨ticket, reload, phase, rfl, rfl⟩
  | reuse ticket count phase holds changed => exact .inl (List.tail_sublist _)
  | load ticket answer phase => exact .inl (List.tail_sublist _)
  | leave ticket phase found waits => exact .inl List.filter_sublist
  | _ => exact .inl (List.Sublist.refl _)

/-- In each step the line stays in the order of coming.

It gets shorter, or somebody joins it at its end who has just come. -/
theorem sorted_step (lined : Lined log state) (traced : Traced log state)
    (stepped : state.Step ttl after seen) :
    after.slot.lock.line.Pairwise fun first second =>
      (before first (log ++ seen)).length < (before second (log ++ seen)).length := by
  have old : state.slot.lock.line.Pairwise fun first second =>
      (before first (log ++ seen)).length < (before second (log ++ seen)).length := by
    refine lined.sorted.imp_of_mem fun {first second} firstMember secondMember earlier => ?_
    rwa [before_append (lined.came traced firstMember),
      before_append (lined.came traced secondMember)]
  rcases line_step stepped with shorter | ⟨ticket, reload, phase, rfl, longer⟩
  · exact old.sublist shorter
  · rw [longer]
    refine List.pairwise_append.mpr ⟨old, List.pairwise_singleton _ _, ?_⟩
    intro first member last single
    rw [List.mem_singleton.mp single, before_split (traced.not_came phase),
      before_append (lined.came traced member)]
    exact before_length_lt (lined.came traced member)

/-- A task moves up by one place for each load that completes. -/
theorem place_step (lined : Lined log state) (stepped : state.Step ttl after seen)
    (member : ticket ∈ state.slot.lock.line) (still : ticket ∈ after.slot.lock.line) :
    completions seen + after.slot.lock.line.idxOf ticket ≤ state.slot.lock.line.idxOf ticket := by
  -- The holder stands first, so everybody behind it moves up by one place.
  have released {holder : Ticket} (holds : state.slot.lock.holder? = some holder)
      (behind : ticket ∈ state.slot.lock.release.line) :
      1 + state.slot.lock.release.line.idxOf ticket ≤ state.slot.lock.line.idxOf ticket := by
    have differs := ((lined.mem_release holds ticket).mp behind).1
    rw [state.slot.lock.line_release holder holds, List.idxOf_cons_ne _ differs.symm, Nat.add_comm]
  cases stepped with
  | queue other reload phase stale =>
    rw [LoadLock.request, List.idxOf_append_of_mem member]
    exact Nat.le_of_eq (Nat.zero_add _)
  | reuse other count phase holds changed =>
    exact Nat.le_trans (Nat.add_le_add_right (Nat.zero_le 1) _) (released holds still)
  | load other answer phase => exact released (lined.first other phase) still
  | leave other phase found waits =>
    rw [LoadLock.withdraw, List.mem_filter, decide_eq_true_iff] at still
    rw [show completions [.left other] = 0 from rfl, Nat.zero_add]
    exact state.slot.lock.idxOf_withdraw_le still.2
  | _ => exact Nat.le_of_eq (Nat.zero_add _)

/-- In each step no more loads complete than there were tasks ahead.

Whoever has waited moves up by one place for each load that completes, and whoever has just come
has all of its line ahead and no load behind it. -/
theorem bounded_step (lined : Lined log state) (traced : Traced log state)
    (stepped : state.Step ttl after seen) {reload : Bool} {now : Instant} {ahead : Nat}
    (coming : .came ticket reload now ahead ∈ log ++ seen)
    (member : ticket ∈ after.slot.lock.line) :
    completions (log ++ seen) + after.slot.lock.line.idxOf ticket ≤
      completions (before ticket (log ++ seen)) + ahead := by
  have old (waited : ticket ∈ state.slot.lock.line) :
      completions (log ++ seen) + after.slot.lock.line.idxOf ticket ≤
        completions (before ticket (log ++ seen)) + ahead := by
    have known := lined.came traced waited
    obtain ⟨_, _, _, first⟩ := lined.came traced waited
    have same := (traced.step stepped).eq_of_rank_eq (List.mem_append_left seen first) coming rfl
      rfl rfl
    rw [same] at first
    have bounded := lined.bounded ticket reload now ahead first waited
    have place := lined.place_step stepped waited member
    rw [before_append known, completions_append]
    omega
  rcases line_step stepped with shorter | ⟨other, _, phase, rfl, longer⟩
  · exact old (shorter.subset member)
  · rw [longer, List.mem_append, List.mem_singleton] at member
    rcases member with waited | rfl
    · exact old waited
    · have absent : ticket ∉ state.slot.lock.line := fun waited =>
        traced.not_came phase (lined.came traced waited)
      rw [List.mem_append, List.mem_singleton] at coming
      rcases coming with early | same
      · exact absurd ⟨_, _, _, early⟩ (traced.not_came phase)
      · cases same
        rw [before_split (traced.not_came phase), longer, List.idxOf_append_of_notMem absent,
          completions_append, List.idxOf_cons_self]
        exact Nat.le_refl _

/-- The first in line has seen no more loads than there were tasks ahead of it. -/
theorem bounded_of_first (lined : Lined log state) (holds : state.slot.lock.holder? = some ticket) :
    Bounded ticket log := by
  intro reload now ahead coming
  have bounded := lined.bounded ticket reload now ahead coming (List.mem_of_mem_head? holds)
  exact Nat.le_trans (Nat.le_add_right _ _) bounded

/-- Whoever came before the first in line is done. -/
theorem done_of_first (lined : Lined log state) (traced : Traced log state)
    (holds : state.slot.lock.holder? = some ticket) {other : Ticket}
    (earlier : Came other (before ticket log)) : Done other log := by
  have came := earlier.mono (before_part ticket log)
  refine (traced.done_or_inLine came).resolve_right fun inLine => ?_
  have waits := (lined.member other).mpr inLine
  have sooner := before_length_lt_of_came earlier
  have sorted := lined.sorted
  rw [state.slot.lock.line_release ticket holds] at waits sorted
  rcases List.mem_cons.mp waits with rfl | behind
  · exact absurd sooner (Nat.lt_irrefl _)
  · exact absurd sooner (Nat.lt_asymm ((List.pairwise_cons.mp sorted).1 other behind))

/-- A step that answers a task or has it call finds it first in line, and so in its turn.

Who gets a fresh list has not had to stand in line, and who completes its load has called before.
-/
theorem inTurn_step (lined : Lined log state) (traced : Traced log state)
    (stepped : state.Step ttl after seen) : Always Sight.InTurn (log ++ seen) := by
  have inTurn := lined.inTurn
  cases stepped with
  | quiet now nextTicket later further => rwa [List.append_nil]
  | ask reload => rwa [List.append_nil]
  | fresh ticket cached phase found =>
    refine inTurn.pair trivial fun _ reload now ahead _ => ?_
    rw [before_split (traced.not_came phase), completions_append]
    exact Nat.le_add_right _ _
  | load ticket answer phase =>
    refine inTurn.pair trivial fun uncalled => ?_
    exact absurd (List.mem_append_left _ (traced.called_of_loading phase)) uncalled
  | reuse ticket count phase holds changed =>
    exact inTurn.snoc fun _ => lined.bounded_of_first holds
  | call ticket count phase holds unchanged =>
    exact inTurn.snoc
      ⟨fun _ => lined.done_of_first traced holds, lined.bounded_of_first holds⟩
  | _ => exact inTurn.snoc trivial

/-- A step keeps the line in order. Each field has a lemma of its own above. -/
theorem step (lined : Lined log state) (traced : Traced log state)
    (stepped : state.Step ttl after seen) : Lined (log ++ seen) after where
  member := lined.member_step traced stepped
  sorted := lined.sorted_step traced stepped
  first _ := lined.first_step stepped
  bounded _ _ _ _ := lined.bounded_step traced stepped
  inTurn := lined.inTurn_step traced stepped

end Lined

namespace Traffic

variable (service : String) (ttl : Duration) (now : Instant) (moves : List Move)

/-- After any run the log tells the state of a service, and its line.

Both hold of the empty log, and each step keeps them. The line is told with the help of the rest,
so they are proved together. -/
theorem told_and_lined :
    Told ttl ((start ttl now).log service moves)
        (((start ttl now).run moves).serviceState service) ∧
      Lined ((start ttl now).log service moves)
        (((start ttl now).run moves).serviceState service) := by
  refine log_induction service ttl now (fun log state => Told ttl log state ∧ Lined log state)
    ⟨?_, ?_⟩ ?_ moves
  · exact
      { traced := ⟨fun _ _ => ⟨rfl, rfl⟩, fun _ => .unknown⟩
        cached := rfl
        loads := rfl
        noted := fun _ _ waits => nomatch waits
        ordered := List.Pairwise.nil
        past := fun _ member => nomatch member
        justified := .nil }
  · exact
      { member := fun _ => ⟨fun member => (nomatch member), fun waits => (nomatch waits)⟩
        sorted := List.Pairwise.nil
        first := fun _ loading => nomatch loading
        bounded := fun _ _ _ _ coming => nomatch coming
        inTurn := .nil }
  · rintro log state after seen ⟨told, lined⟩ stepped
    exact ⟨told.step stepped, lined.step told.traced stepped⟩

variable {service : String} {traffic : Traffic}

/-- As long as a task waits for a list, some task can go on with it. -/
theorem exists_roused {log : List Sight} (lined : Lined log (traffic.serviceState service))
    {ticket : Ticket} {phase : LookupPhase}
    (found : (traffic.serviceState service).phase? ticket = some phase)
    (waits : phase.waits = true) :
    ∃ other answer lookup,
      traffic.roused? other answer = some lookup ∧ lookup.service = service := by
  have rouse {other : Ticket} {phase : LookupPhase} (answer : Answer) (await : Await)
      (found : (traffic.serviceState service).phase? other = some phase)
      (awaits : (⟨service, phase⟩ : Lookup).await? = some await)
      (permitted : traffic.permits other await answer = true) :
      ∃ other answer lookup,
        traffic.roused? other answer = some lookup ∧ lookup.service = service := by
    refine ⟨other, answer, ⟨service, phase⟩, ?_, rfl⟩
    simp [roused?, find?_of_phase? found, awaits, permitted]
  cases phase with
  | asked reload => exact rouse .turn .turn found rfl rfl
  | loading => exact rouse (.listing (.ok [])) (.listing service) found rfl rfl
  | answered instances => cases waits
  | queued seen =>
    -- Whoever stands first in the line can go on.
    have member : ticket ∈ (traffic.serviceState service).slot.lock.line :=
      (lined.member ticket).mpr (by simp [ServiceState.inLine, found, LookupPhase.inLine])
    obtain ⟨first, holds⟩ :
        ∃ first, (traffic.serviceState service).slot.lock.holder? = some first :=
      Option.isSome_iff_exists.mp (by simp [LoadLock.holder?, List.ne_nil_of_mem member])
    have firstMember := List.mem_of_mem_head? holds
    obtain ⟨phase, known, inLine⟩ :=
      (Option.any_eq_true _ _).mp ((lined.member first).mp firstMember)
    cases phase with
    | asked reload => cases inLine
    | answered instances => cases inLine
    | loading => exact rouse (.listing (.ok [])) (.listing service) known rfl rfl
    | queued seen =>
      refine rouse .lock (.lock service) known rfl ?_
      have admitted : traffic.cache.admits first service = true := beq_iff_eq.mpr holds
      simp [permits, Answer.fits, admitted]

end Traffic

end CallRouting
