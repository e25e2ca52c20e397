import CallRouting.Proofs.ServiceStates
import Mathlib.Data.List.Nodup
import Mathlib.Data.List.TakeWhile

/-!
# What a log tells about one task

The sights of one task make up one of a few short traces: it comes, it may call the
directory and be answered, it has its list, or it is dropped on the way. How far the task
has come tells which trace it is, so from a log alone one knows that no task comes twice
or calls the directory twice.

Each task comes at one place of the log. What had been seen before is what the task could
know when it came.
-/

namespace CallRouting

namespace Sight

/-- The task that is seen. -/
def ticket? : Sight → Option Ticket
  | .came ticket _ _ _ | .called ticket | .loaded ticket _ _ | .answered ticket _
  | .left ticket => some ticket
  | .forgotten => none

/-- Whether a task is seen to come. -/
def isComing (ticket : Ticket) : Sight → Bool
  | .came other _ _ _ => other == ticket
  | _ => false

/-- Whether a task is seen to ask the directory. -/
def isCall (ticket : Ticket) : Sight → Bool
  | .called other => other == ticket
  | _ => false

/-- The sights of one task come in this order. -/
def rank : Sight → Nat
  | .came .. => 0
  | .called _ => 1
  | .loaded .. => 2
  | .answered .. => 3
  | .left _ | .forgotten => 4

end Sight

/-- What is seen of one task. -/
def about (ticket : Ticket) (log : List Sight) : List Sight :=
  log.filter fun sight => decide (sight.ticket? = some ticket)

/-- What is seen of a task in two parts is what is seen of it in each part. -/
theorem about_append (ticket : Ticket) (log seen : List Sight) :
    about ticket (log ++ seen) = about ticket log ++ about ticket seen :=
  List.filter_append ..

/-- A sight of a task parts its trace. -/
theorem about_split {ticket : Ticket} {log earlier later : List Sight} {sight : Sight}
    (split : log = earlier ++ sight :: later) (own : sight.ticket? = some ticket) :
    about ticket log = about ticket earlier ++ sight :: about ticket later := by
  simp [split, about, own]

/-- What is seen of a task is what is seen and carries its ticket. -/
theorem mem_about {ticket : Ticket} {log : List Sight} {sight : Sight} :
    sight ∈ about ticket log ↔ sight ∈ log ∧ sight.ticket? = some ticket := by
  rw [about, List.mem_filter, decide_eq_true_iff]

/-- What can have been seen of a task that has come so far. -/
inductive TaskTrace (ticket : Ticket) : Option LookupPhase → List Sight → Prop
  | unknown : TaskTrace ticket none []
  | asked (reload : Bool) : TaskTrace ticket (some (.asked reload)) []
  | queued (reload : Bool) (now : Instant) (ahead : Nat) (seen : Option UInt64)
      (kind : seen.isNone = reload) :
      TaskTrace ticket (some (.queued seen)) [.came ticket reload now ahead]
  | loading (reload : Bool) (now : Instant) (ahead : Nat) :
      TaskTrace ticket (some .loading) [.came ticket reload now ahead, .called ticket]
  | taken (now : Instant) (ahead : Nat) (instances : List Instance) :
      TaskTrace ticket (some (.answered instances))
        [.came ticket false now ahead, .answered ticket instances]
  | loaded (reload : Bool) (now : Instant) (ahead : Nat)
      (answer : Except DirectoryFault (List Instance)) (done : Instant)
      (instances : List Instance) :
      TaskTrace ticket (some (.answered instances))
        [.came ticket reload now ahead, .called ticket, .loaded ticket answer done,
          .answered ticket instances]
  | left (phase : LookupPhase) (trace : List Sight) (before : TaskTrace ticket (some phase) trace)
      (waits : phase.waits = true) : TaskTrace ticket none (trace ++ [.left ticket])

namespace TaskTrace

variable {ticket : Ticket} {phase : Option LookupPhase} {trace : List Sight}

/-- Nothing but being dropped comes after what a task that is there has been seen to do. -/
theorem rank_lt {known : LookupPhase} (told : TaskTrace ticket (some known) trace) :
    ∀ sight ∈ trace, sight.rank < 4 := by
  cases told <;> simp [Sight.rank]

/-- Each sight of a task is of a later kind than those before. -/
theorem ordered (told : TaskTrace ticket phase trace) :
    trace.Pairwise fun earlier later => earlier.rank < later.rank := by
  induction told with
  | left phase trace before waits inductionHypothesis =>
    refine List.pairwise_append.mpr ⟨inductionHypothesis, List.pairwise_singleton _ _, ?_⟩
    intro sight member last single
    rw [List.mem_singleton.mp single]
    exact before.rank_lt sight member
  | _ => simp [Sight.rank]

/-- A task asks the directory at most once. -/
theorem calls_le_one (told : TaskTrace ticket phase trace) :
    trace.countP (·.isCall ticket) ≤ 1 := by
  induction told with
  | left phase trace before waits inductionHypothesis =>
    simpa [List.countP_append, Sight.isCall] using inductionHypothesis
  | _ => simp [Sight.isCall]

/-- Only who has asked is answered by the directory. -/
theorem called_of_loaded (told : TaskTrace ticket phase trace)
    {answer : Except DirectoryFault (List Instance)} {done : Instant}
    (loaded : .loaded ticket answer done ∈ trace) : .called ticket ∈ trace := by
  induction told with
  | left phase trace before waits inductionHypothesis =>
    simp only [List.mem_append, List.mem_singleton, reduceCtorEq, or_false] at loaded ⊢
    exact inductionHypothesis loaded
  | _ => simp at loaded ⊢

/-- Who has asked the directory has its list from the directory's answer. -/
theorem loaded_of_answered (told : TaskTrace ticket phase trace) {instances : List Instance}
    (answered : .answered ticket instances ∈ trace) (called : .called ticket ∈ trace) :
    ∃ answer done, .loaded ticket answer done ∈ trace := by
  induction told with
  | left phase trace before waits inductionHypothesis =>
    simp only [List.mem_append, List.mem_singleton, reduceCtorEq, or_false] at answered called
    obtain ⟨answer, done, member⟩ := inductionHypothesis answered called
    exact ⟨answer, done, List.mem_append_left _ member⟩
  | loaded reload now ahead answer done instances => exact ⟨answer, done, by simp⟩
  | _ => simp at answered called

/-- Who has not begun has not been seen. -/
theorem of_asked {reload : Bool} (told : TaskTrace ticket (some (.asked reload)) trace) :
    trace = [] := by
  cases told
  rfl

/-- Who waits for the lock has come. -/
theorem of_queued {seen : Option UInt64} (told : TaskTrace ticket (some (.queued seen)) trace) :
    ∃ now ahead, trace = [.came ticket seen.isNone now ahead] := by
  cases told with
  | queued reload now ahead _ kind => exact ⟨now, ahead, by rw [kind]⟩

/-- Who waits for the directory has come and asked. -/
theorem of_loading (told : TaskTrace ticket (some .loading) trace) :
    ∃ reload now ahead, trace = [.came ticket reload now ahead, .called ticket] := by
  cases told with
  | loading reload now ahead => exact ⟨reload, now, ahead, rfl⟩

end TaskTrace

/-- Whether a task has been seen to come. -/
def Came (ticket : Ticket) (log : List Sight) : Prop :=
  ∃ reload now ahead, .came ticket reload now ahead ∈ log

/-- Who has come has come whatever is seen later. -/
theorem Came.append {ticket : Ticket} {log : List Sight} (came : Came ticket log)
    (seen : List Sight) : Came ticket (log ++ seen) := by
  obtain ⟨reload, now, ahead, member⟩ := came
  exact ⟨reload, now, ahead, List.mem_append_left _ member⟩

/-- Who has come in a log has come in every longer one. -/
theorem Came.mono {ticket : Ticket} {earlier log : List Sight} (came : Came ticket earlier)
    (earlierPart : earlier <+: log) : Came ticket log := by
  obtain ⟨later, rfl⟩ := earlierPart
  exact came.append later

/-- What had been seen when a task came; everything if it has not come. -/
def before (ticket : Ticket) (log : List Sight) : List Sight :=
  log.takeWhile fun sight => !sight.isComing ticket

/-- What had been seen when a task came is the beginning of the log. -/
theorem before_part (ticket : Ticket) (log : List Sight) : before ticket log <+: log :=
  List.takeWhile_prefix _

/-- Before a task has come everything counts as seen before it. -/
theorem before_of_not_came {ticket : Ticket} {log : List Sight} (absent : ¬ Came ticket log) :
    before ticket log = log := by
  apply List.takeWhile_eq_self_iff.mpr
  intro sight member
  cases sight with
  | came other reload now ahead =>
    simp only [Sight.isComing, Bool.not_eq_true', beq_eq_false_iff_ne, ne_eq]
    rintro rfl
    exact absent ⟨reload, now, ahead, member⟩
  | _ => rfl

/-- What had been seen before a sight in which a task comes for the first time. -/
theorem before_split {ticket : Ticket} {earlier : List Sight} (absent : ¬ Came ticket earlier)
    (reload : Bool) (now : Instant) (ahead : Nat) (later : List Sight) :
    before ticket (earlier ++ .came ticket reload now ahead :: later) = earlier := by
  have whole := before_of_not_came absent
  unfold before at whole ⊢
  rw [List.takeWhile_append, if_pos (congrArg List.length whole)]
  simp [Sight.isComing]

/-- What is seen later does not change what had been seen when a task came. -/
theorem before_append {ticket : Ticket} {log : List Sight} (came : Came ticket log)
    (seen : List Sight) : before ticket (log ++ seen) = before ticket log := by
  unfold before
  rw [List.takeWhile_append, if_neg]
  intro whole
  obtain ⟨reload, now, ahead, member⟩ := came
  have all := (List.takeWhile_prefix _).eq_of_length whole
  have still := List.takeWhile_eq_self_iff.mp all _ member
  simp [Sight.isComing] at still

/-- Somebody who has come has not come before. -/
theorem before_length_lt {ticket : Ticket} {log : List Sight} (came : Came ticket log) :
    (before ticket log).length < log.length := by
  refine Nat.lt_of_le_of_ne (before_part ticket log).length_le fun whole => ?_
  obtain ⟨reload, now, ahead, member⟩ := came
  have all := (before_part ticket log).eq_of_length whole
  have still := List.takeWhile_eq_self_iff.mp all _ member
  simp [Sight.isComing] at still

/-- Who had come when another task came has come earlier. -/
theorem before_length_lt_of_came {ticket other : Ticket} {log : List Sight}
    (came : Came other (before ticket log)) :
    (before other log).length < (before ticket log).length := by
  obtain ⟨later, split⟩ := before_part ticket log
  rw [← split, before_append came, split]
  exact before_length_lt came

/-- The log holds the trace of each task, up to where it is now. -/
structure Traced (log : List Sight) (state : ServiceState) : Prop where
  unused : ∀ ticket, state.nextTicket ≤ ticket →
    state.phase? ticket = none ∧ about ticket log = []
  trace : ∀ ticket, TaskTrace ticket (state.phase? ticket) (about ticket log)

namespace Traced

variable {log : List Sight} {state : ServiceState} {ticket : Ticket}

/-- What was seen of a task that is there is the trace that leads to its phase. -/
theorem trace_of (traced : Traced log state) {phase : LookupPhase}
    (found : state.phase? ticket = some phase) : TaskTrace ticket (some phase) (about ticket log) :=
  found ▸ traced.trace ticket

/-- Who stands in line has come: the traces that lead to the two phases in line begin with that.
-/
theorem came (traced : Traced log state) {phase : LookupPhase}
    (found : state.phase? ticket = some phase) (inLine : phase.inLine = true) :
    Came ticket log := by
  have trace := traced.trace_of found
  suffices coming : ∃ reload now ahead, .came ticket reload now ahead ∈ about ticket log by
    obtain ⟨reload, now, ahead, member⟩ := coming
    exact ⟨reload, now, ahead, (mem_about.mp member).1⟩
  cases phase with
  | queued seen =>
    obtain ⟨now, ahead, told⟩ := trace.of_queued
    exact ⟨seen.isNone, now, ahead, by simp [told]⟩
  | loading =>
    obtain ⟨reload, now, ahead, told⟩ := trace.of_loading
    exact ⟨reload, now, ahead, by simp [told]⟩
  | asked reload => cases inLine
  | answered instances => cases inLine

/-- Who has not begun has not come. -/
theorem not_came (traced : Traced log state) {reload : Bool}
    (found : state.phase? ticket = some (.asked reload)) : ¬ Came ticket log := by
  rintro ⟨reload, now, ahead, member⟩
  have among := mem_about.mpr ⟨member, rfl⟩
  rw [(traced.trace_of found).of_asked] at among
  cases among

/-- Who waits for the lock has noted the number of loads, if a fresh list would have done
when it came. -/
theorem noted_of_came (traced : Traced log state) {seen : Option UInt64}
    (found : state.phase? ticket = some (.queued seen)) {now : Instant} {ahead : Nat}
    (came : .came ticket false now ahead ∈ log) : ∃ count, seen = some count := by
  obtain ⟨_, _, told⟩ := (traced.trace_of found).of_queued
  have among := mem_about.mpr ⟨came, rfl⟩
  rw [told, List.mem_singleton] at among
  injection among with _ kind
  exact Option.isSome_iff_exists.mp (by simpa using kind.symm)

/-- Who waits for the directory has asked it. -/
theorem called_of_loading (traced : Traced log state)
    (found : state.phase? ticket = some .loading) : .called ticket ∈ log := by
  obtain ⟨reload, now, ahead, told⟩ := (traced.trace_of found).of_loading
  have among : Sight.called ticket ∈ about ticket log := by simp [told]
  exact (mem_about.mp among).1

/-- What is seen of one task goes into its trace alone. -/
theorem put (traced : Traced log state) {phase : LookupPhase}
    (found : state.phase? ticket = some phase) {seen : List Sight}
    (own : ∀ sight ∈ seen, sight.ticket? = some ticket) (next : Option LookupPhase)
    (slot : CacheSlot) (told : TaskTrace ticket next (about ticket log ++ seen)) :
    Traced (log ++ seen) { state.put ticket next with slot } := by
  -- Of anybody else nothing more is seen.
  have others (other : Ticket) (differs : other ≠ ticket) :
      about other (log ++ seen) = about other log := by
    have silent : about other seen = [] := by
      apply List.filter_eq_nil_iff.mpr
      intro sight member
      simpa [own sight member] using differs.symm
    rw [about_append, silent, List.append_nil]
  have whole : about ticket seen = seen :=
    List.filter_eq_self.mpr fun sight member => decide_eq_true (own sight member)
  constructor
  case unused =>
    intro other later
    obtain ⟨absent, silent⟩ := traced.unused other later
    have differs : other ≠ ticket := by
      rintro rfl
      rw [found] at absent
      cases absent
    exact ⟨(if_neg differs).trans absent, (others other differs).trans silent⟩
  case trace =>
    intro other
    change TaskTrace other ((state.put ticket next).phase? other) _
    rw [ServiceState.phase?_put]
    by_cases same : other = ticket
    · subst same
      rwa [if_pos rfl, about_append, whole]
    · rw [if_neg same, others other same]
      exact traced.trace other

/-- Where nothing is seen of a task, its trace stays as it is. That includes the tasks to come, of
whom nothing is ever seen before. -/
theorem quiet (traced : Traced log state) {seen : List Sight}
    (silent : ∀ sight ∈ seen, sight.ticket? = none) {after : ServiceState}
    (phases : after.phase? = state.phase?) (tickets : state.nextTicket ≤ after.nextTicket) :
    Traced (log ++ seen) after := by
  have same (other : Ticket) : about other (log ++ seen) = about other log := by
    have nothing : about other seen = [] := by
      apply List.filter_eq_nil_iff.mpr
      intro sight member
      simp [silent sight member]
    rw [about_append, nothing, List.append_nil]
  constructor
  case unused =>
    intro other later
    rw [phases, same]
    exact traced.unused other (Nat.le_trans tickets later)
  case trace =>
    intro other
    rw [phases, same]
    exact traced.trace other

/-- Only who has asked is answered by the directory. -/
theorem called_of_loaded (traced : Traced log state)
    {answer : Except DirectoryFault (List Instance)} {done : Instant}
    (loaded : .loaded ticket answer done ∈ log) : .called ticket ∈ log :=
  (mem_about.mp ((traced.trace ticket).called_of_loaded (mem_about.mpr ⟨loaded, rfl⟩))).1

/-- Who has asked the directory has its list from the directory's answer. -/
theorem loaded_of_answered (traced : Traced log state) {instances : List Instance}
    (answered : .answered ticket instances ∈ log) (called : .called ticket ∈ log) :
    ∃ answer done, .loaded ticket answer done ∈ log := by
  obtain ⟨answer, done, member⟩ := (traced.trace ticket).loaded_of_answered
    (mem_about.mpr ⟨answered, rfl⟩) (mem_about.mpr ⟨called, rfl⟩)
  exact ⟨answer, done, (mem_about.mp member).1⟩

/-- Of one task, what is of an earlier kind is seen earlier. -/
theorem mem_earlier (traced : Traced log state) {earlier later : List Sight} {sight other : Sight}
    (split : log = earlier ++ sight :: later) (own : sight.ticket? = some ticket)
    (otherOwn : other.ticket? = some ticket) (member : other ∈ log)
    (sooner : other.rank < sight.rank) : other ∈ earlier := by
  have ordered := (traced.trace ticket).ordered
  have told := about_split split own
  rw [told] at ordered
  have among := mem_about.mpr ⟨member, otherOwn⟩
  rw [told, List.mem_append, List.mem_cons] at among
  rcases among with early | rfl | late
  · exact (mem_about.mp early).1
  · exact absurd sooner (Nat.lt_irrefl _)
  · have after := (List.pairwise_cons.mp (List.pairwise_append.mp ordered).2.1).1 other late
    exact absurd sooner (Nat.lt_asymm after)

/-- Of one task, what is seen earlier is of an earlier kind. -/
theorem rank_lt_of_mem (traced : Traced log state) {earlier later : List Sight}
    {sight other : Sight} (split : log = earlier ++ sight :: later)
    (own : sight.ticket? = some ticket) (otherOwn : other.ticket? = some ticket)
    (member : other ∈ earlier) : other.rank < sight.rank := by
  have ordered := (traced.trace ticket).ordered
  rw [about_split split own] at ordered
  exact (List.pairwise_append.mp ordered).2.2 other (mem_about.mpr ⟨member, otherOwn⟩) sight
    List.mem_cons_self

/-- A task comes once, so what had been seen when it came is what stands before that. -/
theorem before_eq (traced : Traced log state) {earlier later : List Sight} {reload : Bool}
    {now : Instant} {ahead : Nat}
    (split : log = earlier ++ .came ticket reload now ahead :: later) :
    before ticket log = earlier := by
  rw [split]
  apply before_split
  rintro ⟨reload, now, ahead, member⟩
  exact absurd (traced.rank_lt_of_mem split rfl rfl member) (Nat.lt_irrefl _)

/-- A task that is seen to do something else has come before that. -/
theorem exists_coming (traced : Traced log state) {front back : List Sight} {sight : Sight}
    (split : log = front ++ sight :: back) (own : sight.ticket? = some ticket)
    (later : 0 < sight.rank) (came : Came ticket log) :
    ∃ reload now ahead between,
      front = before ticket log ++ .came ticket reload now ahead :: between := by
  obtain ⟨reload, now, ahead, member⟩ := came
  obtain ⟨earlier, between, rfl⟩ :=
    List.append_of_mem (traced.mem_earlier split own rfl member later)
  have coming : log = earlier ++ .came ticket reload now ahead :: (between ++ sight :: back) := by
    rw [split]
    simp
  exact ⟨reload, now, ahead, between, by rw [traced.before_eq coming]⟩

/-- What had been seen when it came is the same for the part of the log before that. -/
theorem before_of_split (traced : Traced log state) {front back : List Sight} {sight : Sight}
    (split : log = front ++ sight :: back) (own : sight.ticket? = some ticket)
    (later : 0 < sight.rank) (came : Came ticket log) :
    before ticket front = before ticket log := by
  obtain ⟨reload, now, ahead, member⟩ := came
  have sooner := traced.mem_earlier split own rfl member later
  rw [split, before_append ⟨reload, now, ahead, sooner⟩]

/-- The part of the log up to some point after a task came tells as much about its coming. -/
theorem before_front (traced : Traced log state) {earlier between later : List Sight}
    {reload : Bool} {now : Instant} {ahead : Nat}
    (split : log = earlier ++ .came ticket reload now ahead :: between ++ later) :
    before ticket (earlier ++ .came ticket reload now ahead :: between) = earlier := by
  have came : Came ticket (earlier ++ .came ticket reload now ahead :: between) :=
    ⟨reload, now, ahead, by simp⟩
  rw [← before_append came later, ← split]
  rw [List.append_assoc, List.cons_append] at split
  exact traced.before_eq split

/-- Of one task, at most one sight of each kind is seen. -/
theorem eq_of_rank_eq (traced : Traced log state) {first second : Sight}
    (firstMember : first ∈ log) (secondMember : second ∈ log)
    (firstOwn : first.ticket? = some ticket) (secondOwn : second.ticket? = some ticket)
    (same : first.rank = second.rank) : first = second := by
  have ordered := List.pairwise_map.mpr (traced.trace ticket).ordered
  have distinct : ((about ticket log).map Sight.rank).Nodup := ordered.imp Nat.ne_of_lt
  exact List.inj_on_of_nodup_map distinct (mem_about.mpr ⟨firstMember, firstOwn⟩)
    (mem_about.mpr ⟨secondMember, secondOwn⟩) same

/-- Each step extends the trace of at most one task.

Each kind of step is about one ticket, whose phase tells what its trace was; the new sights
extend it as the new phase says. Other tickets see nothing. -/
theorem step (traced : Traced log state) {ttl : Duration} {after : ServiceState} {seen : List Sight}
    (stepped : state.Step ttl after seen) : Traced (log ++ seen) after := by
  cases stepped with
  | quiet now nextTicket later further => exact traced.quiet (by simp) rfl further
  | ask reload =>
    obtain ⟨_, silent⟩ := traced.unused state.nextTicket (Nat.le_refl _)
    constructor
    case unused =>
      intro other later
      have later : state.nextTicket < other := later
      rw [List.append_nil]
      obtain ⟨absent, nothing⟩ := traced.unused other (Nat.le_of_lt later)
      exact ⟨(if_neg (Nat.ne_of_gt later)).trans absent, nothing⟩
    case trace =>
      intro other
      change TaskTrace other ((state.put state.nextTicket (some (.asked reload))).phase? other) _
      rw [ServiceState.phase?_put, List.append_nil]
      by_cases same : other = state.nextTicket
      · rw [if_pos same, same, silent]
        exact .asked reload
      · rw [if_neg same]
        exact traced.trace other
  | fresh ticket cached phase found =>
    refine traced.put phase (by simp [Sight.ticket?]) _ _ ?_
    rw [(traced.trace_of phase).of_asked]
    exact .taken _ _ _
  | queue ticket reload phase stale =>
    refine traced.put phase (by simp [Sight.ticket?]) _ _ ?_
    rw [(traced.trace_of phase).of_asked]
    exact .queued _ _ _ _ (by cases reload <;> rfl)
  | reuse ticket count phase holds changed =>
    obtain ⟨now, ahead, told⟩ := (traced.trace_of phase).of_queued
    refine traced.put phase (by simp [Sight.ticket?]) _ _ ?_
    rw [told]
    exact .taken _ _ _
  | call ticket count phase holds unchanged =>
    obtain ⟨now, ahead, told⟩ := (traced.trace_of phase).of_queued
    refine traced.put phase (by simp [Sight.ticket?]) _ _ ?_
    rw [told]
    exact .loading _ _ _
  | load ticket answer phase =>
    obtain ⟨reload, now, ahead, told⟩ := (traced.trace_of phase).of_loading
    refine traced.put phase (by simp [Sight.ticket?]) _ _ ?_
    rw [told]
    exact .loaded _ _ _ _ _ _
  | withdraw ticket reload phase =>
    exact traced.put phase (by simp [Sight.ticket?]) _ _
      (.left _ _ (traced.trace_of phase) rfl)
  | leave ticket phase found waits =>
    refine traced.put found (by simp [Sight.ticket?]) _ _
      (.left _ _ (traced.trace_of found) ?_)
    cases phase <;> first | rfl | cases waits
  | forget => exact traced.quiet (by simp [Sight.ticket?]) rfl (Nat.le_refl _)

end Traced

end CallRouting
