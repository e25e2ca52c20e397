import CallRouting.Proofs.History
import CallRouting.Routing.Lookup

/-!
# A cache used by one task at a time

One operation after the other is done with a cache, each by the task that does it. A
task goes on at once when it gets its turn or the load lock; when it waits for the
directory, time passes until the directory has answered. Between two operations every
load lock is free, so no operation waits for another one.

The cache then answers by its history: it keeps for each service the load that counts,
and knows the services whose lists were ever asked for.
-/

namespace CallRouting

/-- A cache that is used by one task at a time, and what has happened to it so far. -/
structure Session where
  cache : Cache
  history : History

namespace Session

/-- The ticket of whoever uses the cache. -/
def ticket : Ticket := 0

/-- A new cache. -/
def start (ttl : Duration) (now : Instant) : Session := ⟨.empty ttl, now, []⟩

/-- The answer that ends a wait, and the session in which it comes. -/
def answer? (outside : Outside) (session : Session) : Await → Option (Session × Answer)
  | .turn => some (session, .turn)
  | .lock service =>
    if session.cache.admits ticket service then some (session, .lock) else none
  | .listing service =>
    let answer := (outside session.history.contacts).2
    some ({ session with history := session.history.contact outside service }, .listing answer)
  | .call _ | .work | .time _ => none

/-- Let a task go on until it has ended, or so often. -/
def attend {τ : Type} (await? : τ → Option Await)
    (resume : τ → Cache → Instant → Ticket → Answer → Cache × τ) (outside : Outside) :
    Nat → Session → τ → Session × τ
  | 0, session, task => (session, task)
  | fuel + 1, session, task =>
    match (await? task).bind (session.answer? outside) with
    | none => (session, task)
    | some (session, answer) =>
      let (cache, task) := resume task session.cache session.history.now ticket answer
      attend await? resume outside fuel { session with cache } task

/-- Look up a list. A lookup needs three answers at most. -/
def look (outside : Outside) (session : Session) (lookup : Lookup) : Session × Outcome :=
  let (session, lookup) := attend Lookup.await? Lookup.resume outside 3 session lookup
  (session, (lookup.result?.map .listed).getD .unfinished)

/-- Load all lists anew. A sweep needs two answers for each, and one to begin. -/
def sweep (outside : Outside) (session : Session) : Session × Outcome :=
  let answers := 1 + 2 * session.cache.services.length
  let (session, sweep) := attend Sweep.await? Sweep.resume outside answers session .asked
  (session, if sweep.await?.isNone then .done else .unfinished)

/-- Do an operation to its end, with what its caller sees of it. -/
def perform (outside : Outside) (session : Session) : Operation → Session × Outcome
  | .pass span =>
    ({ session with history := { session.history with now := session.history.now + span } }, .done)
  | .peek service => (session, .found ((session.cache.peek service).map (·.instances)))
  | .get service => session.look outside (.get service)
  | .refresh service => session.look outside (.refresh service)
  | .refreshAll => session.sweep outside
  | .invalidate service =>
    ({ cache := session.cache.invalidate service, history := session.history.forget service },
      .done)

/-- The session after some operations. -/
def after (outside : Outside) (session : Session) (operations : List Operation) : Session :=
  operations.foldl (fun session operation => (session.perform outside operation).1) session

/-- The cache keeps the loads that count and knows the services that were asked for, and
nobody holds a lock. -/
structure Tracks (ttl : Duration) (asked : List String) (session : Session) : Prop where
  ttl : session.cache.ttl = ttl
  idle : ∀ service, (session.cache.slot service).lock = .free
  latest : ∀ service, session.cache.peek service = session.history.load? service
  known : ∀ service, service ∈ session.cache.services ↔ service ∈ asked

variable {ttl : Duration} {asked : List String} {session : Session}

/-- A new cache knows nothing. -/
theorem tracks_start (ttl : Duration) (now : Instant) : Tracks ttl [] (start ttl now) :=
  ⟨rfl, fun _ => rfl, fun _ => rfl, fun _ => Iff.rfl⟩

/-- A task that has ended does not go on. -/
theorem attend_ended {τ : Type} (await? : τ → Option Await)
    (resume : τ → Cache → Instant → Ticket → Answer → Cache × τ) (outside : Outside) (fuel : Nat)
    (session : Session) (task : τ) (ended : await? task = none) :
    attend await? resume outside fuel session task = (session, task) := by
  cases fuel with
  | zero => rfl
  | succ fuel => simp [attend, ended]

/-- A task whose wait is ended goes on. -/
theorem attend_step {τ : Type} (await? : τ → Option Await)
    (resume : τ → Cache → Instant → Ticket → Answer → Cache × τ) (outside : Outside) (fuel : Nat)
    (session next : Session) (task : τ) (answer : Answer)
    (met : (await? task).bind (session.answer? outside) = some (next, answer)) (cache : Cache)
    (resumed : τ)
    (gone : resume task next.cache next.history.now ticket answer = (cache, resumed)) :
    attend await? resume outside (fuel + 1) session task =
      attend await? resume outside fuel { next with cache } resumed := by
  simp only [attend, met, gone]

/-- The cache while a list is loaded: whoever loads holds the lock of its service. -/
def held (session : Session) (service : String) : Cache :=
  session.cache.setSlot service
    { session.cache.slot service with
      lock := (session.cache.slot service).lock.request ticket }

/-- A free lock admits whoever asks for it first. -/
theorem Tracks.admits_held (tracks : Tracks ttl asked session) (service : String) :
    (session.held service).admits ticket service = true := by
  simp [held, Cache.admits, Cache.slot_setSlot, tracks.idle, LoadLock.request, LoadLock.free,
    LoadLock.holder?]

/-- Whoever asks for a free lock gets it at once. -/
theorem Tracks.answer?_lock (tracks : Tracks ttl asked session) (outside : Outside)
    (service : String) :
    Session.answer? outside { session with cache := session.held service } (.lock service) =
      some ({ session with cache := session.held service }, .lock) :=
  if_pos (tracks.admits_held service)

/-- Nothing is loaded by others while one waits for a free lock. -/
theorem enter_held (session : Session) (service : String) (reload : Bool) :
    (session.held service).enter service
      (if reload then none else some (session.cache.slot service).loads) =
      (session.held service, .loading) := by
  cases reload <;> simp [held, Cache.enter, Cache.slot_setSlot]

/-- The session after a load. -/
def loaded (outside : Outside) (session : Session) (service : String) : Session :=
  let history := session.history.contact outside service
  let answer := (outside session.history.contacts).2
  ⟨((session.held service).complete history.now service answer).1, history⟩

/-- A load gives what its contact gives. -/
theorem Tracks.complete_given (tracks : Tracks ttl asked session) (outside : Outside)
    (service : String) :
    (session.held service).complete (session.history.contact outside service).now service
        (outside session.history.contacts).2 =
      ((session.loaded outside service).cache,
        .answered (session.history.given outside service)) := by
  have latest := tracks.latest service
  unfold Cache.peek at latest
  unfold loaded History.given
  cases (outside session.history.contacts).2 with
  | ok instances => simp [Cache.complete, CacheSlot.instances]
  | error fault =>
    simp [Cache.complete, CacheSlot.instances, held, Cache.slot_setSlot, latest]

/-- To come for a list makes its service known. -/
theorem mem_services_setSlot (cache : Cache) (service other : String) (slot : CacheSlot) :
    other ∈ (cache.setSlot service slot).services ↔ other ∈ cache.services ∨ other = service := by
  simp only [Cache.services, Cache.setSlot, Registry.keys_put]
  split
  · rename_i present
    exact ⟨Or.inl, fun known => known.elim id fun same => same ▸ present⟩
  · simp

/-- To hold the lock changes no list. -/
theorem peek_held (session : Session) (service other : String) :
    (session.held service).peek other = session.cache.peek other := by
  by_cases same : service = other <;> simp [held, Cache.peek, Cache.slot_setSlot, same]

/-- After a load the cache keeps the load that counts now, and knows its service.

A load that has failed leaves the list that was at hand, in the cache and in the history. The lock
is taken and given back in between, so it is idle again. -/
theorem Tracks.loaded (tracks : Tracks ttl asked session) (outside : Outside) (service : String) :
    Tracks ttl (asked ++ [service]) (session.loaded outside service) where
  ttl := tracks.ttl
  idle other := by
    unfold Session.loaded Cache.complete
    rw [Cache.slot_setSlot]
    by_cases same : service = other
    · simp [same, held, Cache.slot_setSlot, tracks.idle, LoadLock.request, LoadLock.release,
        LoadLock.free]
    · simp [same, held, Cache.slot_setSlot, tracks.idle]
  latest other := by
    change ((session.held service).complete _ service _).1.peek other =
      (session.history.contact outside service).load? other
    rw [History.load?_contact]
    cases (outside session.history.contacts).2 with
    | ok instances =>
      rw [Cache.peek_complete_ok, peek_held, tracks.latest]
      rfl
    | error fault => rw [Cache.peek_complete_error, peek_held, tracks.latest]
  known other := by
    change other ∈ (Cache.setSlot _ service _).services ↔ _
    rw [mem_services_setSlot, held, mem_services_setSlot, tracks.known, List.mem_append,
      List.mem_singleton, or_assoc, or_self]

/-- Who comes for a list that is fresh gets it. -/
theorem Tracks.come_fresh (tracks : Tracks ttl asked session) (service : String)
    (load : CachedList) (latest : session.history.load? service = some load)
    (fresh : session.history.now ≤ load.loadedAt + ttl.nanos) :
    session.cache.come session.history.now ticket service false =
      (session.cache.setSlot service (session.cache.slot service), .answered load.instances) := by
  have cached : (session.cache.slot service).cached = some load :=
    (tracks.latest service).trans latest
  have unexpired : load.isExpired ttl session.history.now = false :=
    decide_eq_false (Nat.not_lt.mpr fresh)
  have found : (session.cache.slot service).fresh? session.cache.ttl session.history.now =
      some load := by
    rw [tracks.ttl, CacheSlot.fresh?, cached]
    simp [unexpired]
  simp [Cache.come, found]

/-- Who comes for a list that is not fresh, or wants a new one in any case, asks for the
lock. -/
theorem Tracks.come_stale (tracks : Tracks ttl asked session) (service : String) (reload : Bool)
    (stale : reload = false → ∀ load, session.history.load? service = some load →
      load.loadedAt + ttl.nanos < session.history.now) :
    session.cache.come session.history.now ticket service reload =
      (session.held service,
        .queued (if reload then none else some (session.cache.slot service).loads)) := by
  -- No list is taken, since none is asked for or the one at hand is too old.
  have nothing : (if reload then none else
      (session.cache.slot service).fresh? session.cache.ttl session.history.now) = none := by
    cases reload with
    | true => rfl
    | false =>
      have latest := tracks.latest service
      unfold Cache.peek at latest
      rw [if_neg Bool.false_ne_true, tracks.ttl, CacheSlot.fresh?, latest]
      apply Option.filter_eq_none_iff.mpr
      intro load found
      have expired : load.isExpired ttl session.history.now = true :=
        decide_eq_true (stale rfl load found)
      simp [expired]
  simp only [Cache.come, nothing]
  rfl

/-- A lookup that comes for a fresh list gets it at its first answer, so it asks for nothing more
and the directory is not contacted. -/
theorem Tracks.look_fresh (tracks : Tracks ttl asked session) (outside : Outside)
    (service : String) (load : CachedList) (latest : session.history.load? service = some load)
    (fresh : session.history.now ≤ load.loadedAt + ttl.nanos) :
    session.look outside (.get service) =
      ({ session with cache :=
          session.cache.setSlot service (session.cache.slot service) },
        .listed load.instances) := by
  have gone : (Lookup.get service).resume session.cache session.history.now ticket .turn =
      (session.cache.setSlot service (session.cache.slot service),
        ⟨service, .answered load.instances⟩) := by
    simp only [Lookup.resume, Lookup.get, tracks.come_fresh service load latest fresh]
  unfold look
  rw [attend_step _ _ outside 2 session session _ .turn rfl _ _ gone,
    attend_ended _ _ outside 2 _ _ rfl]
  rfl

/-- A lookup that cannot do with the list at hand loads.

It gets the three answers for which it waits: its turn, at which it finds nothing fresh; the lock,
which is free; and what the directory says. -/
theorem Tracks.look_loads (tracks : Tracks ttl asked session) (outside : Outside)
    (service : String) (reload : Bool)
    (stale : reload = false → ∀ load, session.history.load? service = some load →
      load.loadedAt + ttl.nanos < session.history.now) :
    session.look outside ⟨service, .asked reload⟩ =
      (session.loaded outside service, .listed (session.history.given outside service)) := by
  have come := tracks.come_stale service reload stale
  have enter := enter_held session service reload
  generalize (if reload then none else some (session.cache.slot service).loads) = seen at come enter
  have asked : Lookup.resume ⟨service, .asked reload⟩ session.cache session.history.now ticket
      .turn = (session.held service, ⟨service, .queued seen⟩) := by
    simp only [Lookup.resume, come]
  have queued : Lookup.resume ⟨service, .queued seen⟩ (session.held service) session.history.now
      ticket .lock = (session.held service, ⟨service, .loading⟩) := by
    simp only [Lookup.resume, enter]
  have loading : Lookup.resume ⟨service, .loading⟩ (session.held service)
      (session.history.contact outside service).now ticket
      (.listing (outside session.history.contacts).2) =
      ((session.loaded outside service).cache,
        ⟨service, .answered (session.history.given outside service)⟩) := by
    simp only [Lookup.resume, tracks.complete_given outside service]
  have admitted := tracks.answer?_lock outside service
  unfold look
  rw [attend_step _ _ outside 2 session session _ .turn rfl _ _ asked,
    attend_step Lookup.await? _ outside 1 _ _ ⟨service, .queued seen⟩ .lock admitted _ _ queued,
    attend_step Lookup.await? _ outside 0 _ _ ⟨service, .loading⟩ _ rfl _ _ loading]
  rfl

/-- A service that was asked for before may be asked for again. -/
theorem Tracks.again {service : String} (tracks : Tracks ttl (asked ++ [service]) session)
    (known : service ∈ asked) : Tracks ttl asked session where
  ttl := tracks.ttl
  idle := tracks.idle
  latest := tracks.latest
  known other := by
    rw [tracks.known, List.mem_append, List.mem_singleton]
    exact ⟨fun either => either.elim id fun same => same ▸ known, Or.inl⟩

/-- A sweep that has come to some services contacts the directory about each of them.

By induction over the services. For each of them the sweep gets the lock, which is free, and
the answer of the directory; then it is in the same state before the rest. -/
theorem Tracks.attend_sweep (tracks : Tracks ttl asked session) (outside : Outside)
    (services : List String) (known : ∀ service ∈ services, service ∈ asked) (fuel : Nat)
    (enough : 2 * services.length ≤ fuel) :
    let begun := Sweep.advance session.cache session.history.now ticket services
    let ended :=
      attend Sweep.await? Sweep.resume outside fuel { session with cache := begun.1 } begun.2
    Tracks ttl asked ended.1 ∧
      ended.1.history = services.foldl (History.contact outside) session.history ∧
      ended.2.await? = none := by
  induction services generalizing session fuel with
  | nil =>
    dsimp only [Sweep.advance]
    rw [attend_ended _ _ outside fuel _ _ rfl]
    exact ⟨tracks, rfl, rfl⟩
  | cons service rest inductionHypothesis =>
    have come := tracks.come_stale service true (fun same => by cases same)
    have enter := enter_held session service true
    have advanced : Sweep.advance session.cache session.history.now ticket (service :: rest) =
        (session.held service, .running ⟨service, .queued none⟩ rest) := by
      simp only [Sweep.advance, Lookup.refresh, Lookup.resume, come]
      rfl
    have queued : Sweep.resume (.running ⟨service, .queued none⟩ rest) (session.held service)
        session.history.now ticket .lock =
        (session.held service, .running ⟨service, .loading⟩ rest) := by
      simp only [if_true] at enter
      simp only [Sweep.resume, Lookup.resume, enter, Lookup.result?]
    have loading : Sweep.resume (.running ⟨service, .loading⟩ rest) (session.held service)
        (session.history.contact outside service).now ticket
        (.listing (outside session.history.contacts).2) =
        Sweep.advance (session.loaded outside service).cache
          (session.loaded outside service).history.now ticket rest := by
      simp only [Sweep.resume, Lookup.resume, tracks.complete_given outside service,
        Lookup.result?]
      rfl
    have admitted := tracks.answer?_lock outside service
    obtain ⟨left, rfl⟩ : ∃ left, fuel = left + 2 := ⟨fuel - 2, by simp at enough; omega⟩
    have onwards := inductionHypothesis
      ((tracks.loaded outside service).again (known service List.mem_cons_self))
      (fun other member => known other (List.mem_cons_of_mem service member)) left
      (by simp at enough; omega)
    dsimp only
    rw [advanced,
      attend_step Sweep.await? _ outside (left + 1) _ _ (.running ⟨service, .queued none⟩ rest)
        .lock admitted _ _ queued,
      attend_step Sweep.await? _ outside left _ _ (.running ⟨service, .loading⟩ rest) _ rfl _ _
        loading]
    exact onwards

/-- To load all lists anew contacts the directory about each known service.

Each list takes two more answers after the first turn, the lock and the listing. -/
theorem Tracks.sweep (tracks : Tracks ttl asked session) (outside : Outside) :
    Tracks ttl asked (session.sweep outside).1 ∧
      (session.sweep outside).1.history =
        session.cache.services.foldl (History.contact outside) session.history ∧
      (session.sweep outside).2 = .done := by
  have ended := tracks.attend_sweep outside session.cache.services
    (fun service member => (tracks.known service).mp member) (2 * session.cache.services.length)
    (Nat.le_refl _)
  unfold Session.sweep
  dsimp only at ended ⊢
  generalize advanced : Sweep.advance session.cache session.history.now ticket
    session.cache.services = begun at ended
  rw [Nat.add_comm 1, attend_step Sweep.await? Sweep.resume outside _ session session .asked .turn
    rfl begun.1 begun.2 advanced]
  generalize attend Sweep.await? Sweep.resume outside _ _ _ = after at ended ⊢
  obtain ⟨tracks, history, finished⟩ := ended
  exact ⟨tracks, history, by simp [finished]⟩

/-- A list that is looked at or waited over stays as it is. -/
theorem Tracks.unasked (tracks : Tracks ttl asked session) (history : History)
    (past : history.past = session.history.past) :
    Tracks ttl (asked ++ []) { session with history } where
  ttl := tracks.ttl
  idle := tracks.idle
  latest service := by
    rw [History.load?, past]
    exact tracks.latest service
  known service := by
    rw [List.append_nil]
    exact tracks.known service

/-- A list that is found fresh stays as it is, and its service is known. -/
theorem Tracks.seen (tracks : Tracks ttl asked session) (service : String) :
    Tracks ttl (asked ++ [service])
      { session with cache :=
          session.cache.setSlot service (session.cache.slot service) } where
  ttl := tracks.ttl
  idle other := by
    rw [Cache.slot_setSlot]
    split
    · exact tracks.idle service
    · exact tracks.idle other
  latest other := by
    rw [← tracks.latest other, Cache.peek, Cache.slot_setSlot]
    split
    · rename_i same
      rw [same, Cache.peek]
    · rfl
  known other := by
    rw [mem_services_setSlot, tracks.known, List.mem_append, List.mem_singleton]

/-- To forget a list keeps the services known, and the lock of the service as it is. -/
theorem Tracks.forget (tracks : Tracks ttl asked session) (service : String) :
    Tracks ttl (asked ++ [])
      ⟨session.cache.invalidate service, session.history.forget service⟩ where
  ttl := tracks.ttl
  idle other := by
    simp only [Cache.slot, Cache.invalidate, Registry.find?_modify]
    have idle := tracks.idle other
    unfold Cache.slot at idle
    split
    · cases found : session.cache.slots.find? other with
      | none => rfl
      | some slot => simpa [found] using idle
    · exact idle
  latest other := by
    rw [Cache.peek_invalidate, tracks.latest, History.load?_forget]
  known other := by
    rw [List.append_nil, ← tracks.known]
    simp only [Cache.services, Cache.invalidate, Registry.keys_modify]

/-- Each operation follows the history, and the cache tracks it on. -/
theorem Tracks.perform (tracks : Tracks ttl asked session) (outside : Outside)
    (operation : Operation) :
    Follows ttl outside asked session.history operation
        (session.perform outside operation).1.history (session.perform outside operation).2 ∧
      Tracks ttl (asked ++ operation.asks?.toList) (session.perform outside operation).1 := by
  cases operation with
  | pass span => exact ⟨.pass span, tracks.unasked _ rfl⟩
  | peek service =>
    have found : (session.perform outside (.peek service)).2 =
        .found ((session.history.load? service).map (·.instances)) := by
      rw [Session.perform, tracks.latest]
    rw [found]
    exact ⟨.peek service, tracks.unasked _ rfl⟩
  | get service =>
    -- The boundary belongs to the fresh side: at the very instant the list still is.
    by_cases fresh : ∃ load, session.history.load? service = some load ∧
        session.history.now ≤ load.loadedAt + ttl.nanos
    · obtain ⟨load, latest, fresh⟩ := fresh
      rw [Session.perform, tracks.look_fresh outside service load latest fresh]
      exact ⟨.fresh service load latest fresh, tracks.seen service⟩
    · have stale (load : CachedList) (latest : session.history.load? service = some load) :
          load.loadedAt + ttl.nanos < session.history.now :=
        Nat.not_le.mp fun early => fresh ⟨load, latest, early⟩
      rw [Session.perform, Lookup.get, tracks.look_loads outside service false fun _ => stale]
      exact ⟨.stale service stale, tracks.loaded outside service⟩
  | refresh service =>
    rw [Session.perform, Lookup.refresh,
      tracks.look_loads outside service true fun same => by cases same]
    exact ⟨.refresh service, tracks.loaded outside service⟩
  | refreshAll =>
    obtain ⟨tracks', history, finished⟩ := tracks.sweep outside
    have distinct : session.cache.services.Nodup := session.cache.slots.distinct
    rw [Session.perform, history, finished]
    refine ⟨.refreshAll _ distinct tracks.known, ?_⟩
    rw [show asked ++ Operation.refreshAll.asks?.toList = asked from List.append_nil asked]
    exact tracks'
  | invalidate service => exact ⟨.invalidate service, tracks.forget service⟩

/-- After any operations the cache tracks the history.

By induction on the operations, each of which knows the service that it asks for from then on. -/
theorem Tracks.after (tracks : Tracks ttl asked session) (outside : Outside)
    (operations : List Operation) :
    Tracks ttl (asked ++ operations.filterMap Operation.asks?)
      (session.after outside operations) := by
  induction operations generalizing session asked with
  | nil =>
    rw [List.filterMap_nil, List.append_nil]
    exact tracks
  | cons operation rest inductionHypothesis =>
    have onwards := inductionHypothesis (tracks.perform outside operation).2
    have split : (operation :: rest).filterMap Operation.asks? =
        operation.asks?.toList ++ rest.filterMap Operation.asks? := by
      cases asks : operation.asks? <;> simp [asks]
    rw [split, ← List.append_assoc]
    exact onwards

/-- Whatever was done with a cache before, one operation after the other, the next
operation contacts the directory and gives back what the history says.

By induction over the operations the cache tracks the history: it holds the last load that
counts, and its locks are free between any two operations. One more operation is then looked at
case by case. -/
theorem history_law (ttl : Duration) (outside : Outside) (now : Instant)
    (operations : List Operation) (next : Operation) :
    let session := (start ttl now).after outside operations
    Follows ttl outside (operations.filterMap Operation.asks?) session.history next
      (session.perform outside next).1.history (session.perform outside next).2 := by
  intro session
  have tracks := (tracks_start ttl now).after outside operations
  rw [List.nil_append] at tracks
  exact (tracks.perform outside next).1

end Session

end CallRouting
