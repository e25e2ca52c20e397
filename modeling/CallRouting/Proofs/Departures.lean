import CallRouting.Proofs.World
import Mathlib.Data.List.Induction

/-!
# What a process leaves behind

An instance that a process registers joins the list of its service, in place of any entry with
its identity there, and the directory remembers it as the instance of the process. It
remembers one at a time. When the process shuts down, that one is taken out of the list of its
service again.

So a list holds in the end what it held before, without the identities that were registered
under its service, and behind that the registered instances, each at its latest registration;
of those only the last instance of all is missing. Nothing stays behind just if all
registrations were of one identity under one service, and no other service listed it before.

The directory answers each call at once, so what it holds depends on nothing but the calls in
their order. The laws hold for every run of the world in which these calls are made, whatever
else happens between them.
-/

namespace CallRouting

/-- The instances of a list that go under the name of a service. -/
def under (service : String) (targets : List Instance) : List Instance :=
  targets.filter fun x => decide (x.service = service)

/-- Of several instances with one identity only the last. -/
def latest : List Instance → List Instance
  | [] => []
  | x :: rest => if rest.any x.same then latest rest else x :: latest rest

/-- A further registration is under the service just if it names it. -/
theorem under_concat (service : String) (targets : List Instance) (x : Instance) :
    under service (targets ++ [x]) =
      if x.service = service then under service targets ++ [x] else under service targets := by
  rw [under, List.filter_append]
  by_cases own : x.service = service <;> simp [own, under]

/-- To leave an identity out of a list is to leave it out of both parts. -/
theorem othersThan_append (x : Instance) (instances more : List Instance) :
    othersThan x (instances ++ more) = othersThan x instances ++ othersThan x more :=
  List.filter_append ..

/-- To leave several identities out of a list is to leave them out of both parts. -/
theorem without_append (instances more : List Instance) (gone : List Identity) :
    without (instances ++ more) gone = without instances gone ++ without more gone :=
  List.filter_append ..

/-- The others are those with another identity. -/
theorem mem_othersThan (x y : Instance) (instances : List Instance) :
    y ∈ othersThan x instances ↔ y ∈ instances ∧ y.identity ≠ x.identity := by
  simp [othersThan, Instance.same]

/-- To register once more takes the earlier instance with that identity away. -/
theorem latest_concat (targets : List Instance) (x : Instance) :
    latest (targets ++ [x]) = othersThan x (latest targets) ++ [x] := by
  induction targets with
  | nil => rfl
  | cons y rest inductionHypothesis =>
    rw [List.cons_append, latest, latest, List.any_append, inductionHypothesis]
    by_cases later : rest.any y.same = true
    · simp [later]
    · by_cases same : y.same x = true <;> simp [later, same, othersThan]

/-- Only what was registered is among the latest. -/
theorem mem_of_mem_latest (targets : List Instance) (x : Instance) (last : x ∈ latest targets) :
    x ∈ targets := by
  induction targets with
  | nil => exact last
  | cons y rest inductionHypothesis =>
    rw [latest] at last
    split at last
    · exact List.mem_cons_of_mem y (inductionHypothesis last)
    · rcases List.mem_cons.mp last with rfl | later
      · exact List.mem_cons_self
      · exact List.mem_cons_of_mem y (inductionHypothesis later)

/-- Each identity that was registered is that of a latest registration.

By induction on the registrations: one that has no later one of its identity is listed, and any
other one is replaced by a later one. -/
theorem exists_mem_latest (targets : List Instance) (x : Instance) (member : x ∈ targets) :
    ∃ y ∈ latest targets, y.identity = x.identity := by
  induction targets generalizing x with
  | nil => cases member
  | cons y rest inductionHypothesis =>
    rw [latest]
    rcases List.mem_cons.mp member with rfl | later
    · split
      · rename_i again
        obtain ⟨z, further, same⟩ := List.any_eq_true.mp again
        obtain ⟨last, listed, own⟩ := inductionHypothesis z further
        exact ⟨last, listed, own.trans ((x.same_iff z).mp same).symm⟩
      · exact ⟨x, List.mem_cons_self, rfl⟩
    · obtain ⟨last, listed, own⟩ := inductionHypothesis x later
      split
      · exact ⟨last, listed, own⟩
      · exact ⟨last, List.mem_cons_of_mem y listed, own⟩

/-- To rid a list of some identities, and then of one more. -/
theorem othersThan_without (x : Instance) (instances : List Instance) (gone : List Identity) :
    othersThan x (without instances gone) = without instances (gone ++ [x.identity]) := by
  unfold othersThan without
  rw [List.filter_filter]
  refine List.filter_congr fun y _ => ?_
  rw [Bool.eq_iff_iff]
  simp [Instance.same, and_comm]

/-- To leave out some identities that are left out anyway changes nothing. -/
theorem without_without (instances : List Instance) (gone more : List Identity)
    (among : ∀ identity ∈ gone, identity ∈ more) :
    without (without instances gone) more = without instances more := by
  unfold without
  rw [List.filter_filter]
  refine List.filter_congr fun x _ => ?_
  by_cases listed : x.identity ∈ more
  · simp [listed]
  · have other : x.identity ∉ gone := fun member => listed (among x.identity member)
    simp [listed, other]

namespace Directory

/-- After a series of registrations a list holds what it held of other identities, and behind that
the latest registration of each identity.

By induction from the end: one more registration takes out what has its identity, and comes last.
-/
theorem instances_registerAll (directory : Directory) (targets : List Instance)
    (service : String) :
    (targets.foldl register directory).instances service =
      without (directory.instances service) ((under service targets).map Instance.identity) ++
        latest (under service targets) := by
  induction targets using List.reverseRecOn with
  | nil =>
    have all : without (directory.instances service) [] = directory.instances service :=
      List.filter_eq_self.mpr fun _ _ => rfl
    simp [under, latest, all]
  | append_singleton targets x inductionHypothesis =>
    rw [List.foldl_append, List.foldl_cons, List.foldl_nil, instances_register,
      inductionHypothesis, under_concat]
    split
    · rw [othersThan_append, othersThan_without, List.map_append, latest_concat, List.append_assoc]
      rfl
    · rfl

/-- The directory remembers the last registration of a series as that of the process. -/
theorem registered_registerAll (directory : Directory) (targets : List Instance) :
    (targets.foldl register directory).registered =
      targets.getLast?.or directory.registered := by
  induction targets using List.reverseRecOn with
  | nil => rfl
  | append_singleton targets x inductionHypothesis =>
    rw [List.foldl_append, List.getLast?_concat]
    rfl

end Directory

/-- Of the instances that were registered under a service, those that stay when the process
leaves: the latest registration of all is taken back. -/
def remaining (service : String) (targets : List Instance) : List Instance :=
  if targets.getLast?.any fun last => decide (last.service = service) then
    (latest (under service targets)).dropLast
  else latest (under service targets)

/-- What stays, said by the last registration: if that is under the service, it is taken back
with its identity. -/
theorem remaining_concat (service : String) (targets : List Instance) (last : Instance) :
    remaining service (targets ++ [last]) =
      if last.service = service then othersThan last (latest (under service targets))
      else latest (under service targets) := by
  rw [remaining, List.getLast?_concat, under_concat]
  by_cases own : last.service = service
  · simp [own, latest_concat]
  · simp [own]

/-- What is under a service is what was registered under its name. -/
theorem mem_under (service : String) (targets : List Instance) (x : Instance) :
    x ∈ under service targets ↔ x ∈ targets ∧ x.service = service := by
  simp [under]

/-- What stays under a service was registered under it. -/
theorem mem_of_mem_remaining (service : String) (targets : List Instance) (x : Instance)
    (stays : x ∈ remaining service targets) : x ∈ targets ∧ x.service = service := by
  have listed : x ∈ latest (under service targets) := by
    unfold remaining at stays
    split at stays
    · exact List.dropLast_subset _ stays
    · exact stays
  exact (mem_under service targets x).mp (mem_of_mem_latest _ x listed)

/-- What stays under the service of the last registration has another identity than that. -/
theorem identity_ne_of_mem_remaining (targets : List Instance) (last x : Instance)
    (stays : x ∈ remaining last.service (targets ++ [last])) : x.identity ≠ last.identity := by
  rw [remaining_concat, if_pos rfl] at stays
  exact ((mem_othersThan last x _).mp stays).2

/-- An instance that was registered stays, as it was registered latest there, unless it is the
last one of all. -/
theorem exists_mem_remaining (targets : List Instance) (last x : Instance) (member : x ∈ targets)
    (other : x.service = last.service → x.identity ≠ last.identity) :
    ∃ y ∈ remaining x.service (targets ++ [last]), y.identity = x.identity := by
  obtain ⟨y, listed, same⟩ := exists_mem_latest _ x ((mem_under _ _ x).mpr ⟨member, rfl⟩)
  refine ⟨y, ?_, same⟩
  rw [remaining_concat]
  split
  · rename_i here
    exact (mem_othersThan last y _).mpr ⟨listed, same ▸ other here.symm⟩
  · exact listed

namespace Directory

/-- The directory after calls. -/
def after (directory : Directory) (calls : List DirectoryCall) : Directory :=
  calls.foldl answer directory

/-- A series of registrations does to the directory what each of them does in turn. -/
theorem after_registrations (directory : Directory) (targets : List Instance) :
    directory.after (targets.map .register) = targets.foldl register directory := by
  rw [after, List.foldl_map]
  rfl

/-- The calls of a process that registers instances and then shuts down. -/
def stay (targets : List Instance) : List DirectoryCall :=
  targets.map .register ++ [.unregister, .close]

/-- What a process leaves in a list: what that held of identities that were not registered, and
what remains of the latest registrations.

The directory remembers the last instance alone, and takes that one out of the list of its own
service. -/
theorem instances_stay (services : Registry String (List Instance)) (targets : List Instance)
    (service : String) :
    let initial : Directory := ⟨services, none⟩
    (initial.after (stay targets)).instances service =
      without (initial.instances service) ((under service targets).map Instance.identity) ++
        remaining service targets := by
  intro initial
  have departed : initial.after (stay targets) = (targets.foldl register initial).unregister := by
    rw [← after_registrations, stay, after, List.foldl_append]
    rfl
  rw [departed]
  cases targets using List.reverseRecOn with
  | nil => exact initial.instances_registerAll [] service
  | append_singleton front last =>
    have remembered : ((front ++ [last]).foldl register initial).registered = some last := by
      rw [registered_registerAll, List.getLast?_concat, Option.some_or]
    rw [instances_unregister _ last service remembered, instances_registerAll, remaining_concat,
      under_concat]
    split
    · rw [othersThan_append, othersThan_without, latest_concat, othersThan_append]
      simp [othersThan, without, Instance.same]
    · rfl

variable (services : Registry String (List Instance)) (targets : List Instance)

/-- The last instance is taken back. -/
theorem last_gone (last : Instance) (ending : targets.getLast? = some last) (x : Instance)
    (listed : x ∈ (after ⟨services, none⟩ (stay targets)).instances last.service) :
    x.identity ≠ last.identity := by
  obtain ⟨front, rfl⟩ := List.getLast?_eq_some_iff.mp ending
  rw [instances_stay, List.mem_append, mem_without] at listed
  rcases listed with ⟨-, fresh⟩ | stays
  · rintro same
    refine fresh (same ▸ List.mem_map_of_mem ?_)
    exact (mem_under _ _ last).mpr ⟨List.mem_append_right front List.mem_cons_self, rfl⟩
  · exact identity_ne_of_mem_remaining front last x stays

/-- What was not registered stays as it is: what remains in a list beyond that has been
registered. -/
theorem others_stay (service : String) :
    without ((after ⟨services, none⟩ (stay targets)).instances service)
        (targets.map Instance.identity) =
      without ((⟨services, none⟩ : Directory).instances service)
        (targets.map Instance.identity) := by
  have registered : without (remaining service targets) (targets.map Instance.identity) = [] := by
    refine List.eq_nil_iff_forall_not_mem.mpr fun x member => ?_
    obtain ⟨stays, other⟩ := (mem_without _ _ x).mp member
    exact other (List.mem_map_of_mem (mem_of_mem_remaining service targets x stays).1)
  have among : ∀ identity ∈ (under service targets).map Instance.identity,
      identity ∈ targets.map Instance.identity := by
    intro identity member
    obtain ⟨x, own, rfl⟩ := List.mem_map.mp member
    exact List.mem_map_of_mem ((mem_under service targets x).mp own).1
  rw [instances_stay, without_append, registered, List.append_nil, without_without _ _ _ among]

/-- Nothing that was registered is listed. -/
def ClearOf (directory : Directory) (targets : List Instance) : Prop :=
  ∀ service, ∀ x ∈ directory.instances service, x.identity ∉ targets.map Instance.identity

/-- If nothing is left, every registration was one of the last instance. -/
theorem alike_of_clearOf (front : List Instance) (last : Instance)
    (clear : (after ⟨services, none⟩ (stay (front ++ [last]))).ClearOf (front ++ [last]))
    (x : Instance) (member : x ∈ front ++ [last]) :
    x.service = last.service ∧ x.identity = last.identity := by
  rcases List.mem_append.mp member with earlier | own
  · by_contra differs
    obtain ⟨y, stays, same⟩ := exists_mem_remaining front last x earlier
      fun own identical => differs ⟨own, identical⟩
    refine clear x.service y ?_ (same ▸ List.mem_map_of_mem member)
    rw [instances_stay]
    exact List.mem_append_right _ stays
  · obtain rfl := List.mem_singleton.mp own
    exact ⟨rfl, rfl⟩

/-- No list holds a registered identity in the end just if all registrations were of one identity
under one service, and no other service listed that identity before.

The last registration is the one that is taken back, so each other identity or service would leave
something behind. Conversely the identity is gone from the list of its service, and was never in
another one. -/
theorem clearOf_stay_iff :
    (after ⟨services, none⟩ (stay targets)).ClearOf targets ↔
      ∀ last, targets.getLast? = some last →
        (∀ x ∈ targets, x.service = last.service ∧ x.identity = last.identity) ∧
        ∀ service, service ≠ last.service →
          ∀ x ∈ (⟨services, none⟩ : Directory).instances service,
            x.identity ≠ last.identity := by
  constructor
  · intro clear last ending
    obtain ⟨front, rfl⟩ := List.getLast?_eq_some_iff.mp ending
    have alike := alike_of_clearOf services front last clear
    refine ⟨alike, ?_⟩
    intro service elsewhere x listed same
    refine clear service x ?_ (same ▸ List.mem_map_of_mem (List.mem_append_right front
      List.mem_cons_self))
    rw [instances_stay]
    refine List.mem_append_left _ ((mem_without _ _ x).mpr ⟨listed, ?_⟩)
    intro registered
    obtain ⟨y, own, -⟩ := List.mem_map.mp registered
    obtain ⟨member, here⟩ := (mem_under service _ y).mp own
    exact elsewhere (here ▸ (alike y member).1)
  · intro single service x listed registered
    obtain ⟨y, member, same⟩ := List.mem_map.mp registered
    obtain ⟨last, ending⟩ : ∃ last, targets.getLast? = some last :=
      Option.isSome_iff_exists.mp (List.getLast?_isSome.mpr (List.ne_nil_of_mem member))
    obtain ⟨alike, fresh⟩ := single last ending
    have identical : x.identity = last.identity := same.symm.trans (alike y member).2
    by_cases here : service = last.service
    · subst here
      exact last_gone services targets last ending x listed identical
    · rw [instances_stay, List.mem_append, mem_without] at listed
      rcases listed with ⟨before, -⟩ | stays
      · exact fresh service here x before identical
      · obtain ⟨own, rfl⟩ := mem_of_mem_remaining service targets x stays
        exact here (alike x own).1

end Directory

/-- How a process makes itself known: by an instance of its own, or by an announcement, for
which a fresh id is drawn. -/
inductive Signup
  | own (target : Instance)
  | announced (event : Announcement) (freshId : String)

/-- The instance that is registered then. A client without a service name takes no
announcements. -/
def Signup.target? {ω : Type} (client : Client ω) : Signup → Option Instance
  | .own target => some target
  | .announced event freshId => (client.announced event freshId).toOption

/-- The call whose answer a task waits for. -/
def Task.call? (task : Task) : Option DirectoryCall :=
  match task.await? with
  | some (.call call) => some call
  | _ => none

namespace World

variable {ω : Type}

/-- The calls that the directory has done. -/
def doneCalls (world : World ω) : Event ω → List DirectoryCall
  | .answer place _ (.call (.ok ())) =>
    (world.roused? place (.call (.ok ()))).bind (·.2.call?) |>.toList
  | _ => []

/-- A request and the answers that its task gets. -/
def asking (world : World ω) (draw : Draw ω) (request : Request) (answers : List Answer) :
    List (Event ω) :=
  .request request :: answers.map (.answer world.tasks.length draw)

/-- A process asks to be registered, and the directory does so. -/
def registering (world : World ω) (draw : Draw ω) (target : Instance) : List (Event ω) :=
  world.asking draw (.register target) [.turn, .call (.ok ())]

/-- A process shuts down: the directory takes its instance out, and is closed. -/
def shuttingDown (world : World ω) (draw : Draw ω) : List (Event ω) :=
  world.asking draw .shutDown [.turn, .call (.ok ()), .call (.ok ())]

variable [Weight ω]

/-- A process makes itself known in some ways, one after the other, and then shuts down. -/
def performing (world : World ω) (draw : Draw ω) : List Signup → List (Event ω)
  | [] => world.shuttingDown draw
  | signup :: rest =>
    match signup.target? world.client with
    | none => world.performing draw rest
    | some target =>
      world.registering draw target ++
        (world.run (world.registering draw target)).performing draw rest

/-- A registration gives a ticket to a task, which ends, and changes nothing else in the world. -/
theorem run_registering (world : World ω) (draw : Draw ω) (target : Instance) :
    world.run (world.registering draw target) =
      { world with
        client := { world.client with nextTicket := world.client.nextTicket + 1 }
        tasks := world.tasks ++
          [(world.client.nextTicket, .registration target (.done (.ok ())))] } := by
  simp [registering, asking, run, step, roused?, permits, Request.task, Task.await?,
    Task.resume, Answer.fits]

/-- The directory does one call for a registration. -/
theorem doneCalls_registering (world : World ω) (draw : Draw ω) (target : Instance) :
    world.observed doneCalls (world.registering draw target) = [.register target] := by
  simp [registering, asking, observed, doneCalls, step, roused?, permits, Request.task,
    Task.await?, Task.resume, Task.call?, Answer.fits]

/-- A shutdown is one more task, which has ended. -/
theorem tasks_shuttingDown (world : World ω) (draw : Draw ω) :
    (world.run (world.shuttingDown draw)).tasks =
      world.tasks ++ [(world.client.nextTicket, .closing .done)] := by
  simp [shuttingDown, asking, run, step, roused?, permits, Request.task, Task.await?,
    Task.resume, Answer.fits]

/-- The directory does two calls for a shutdown: it takes the instance out and closes. -/
theorem doneCalls_shuttingDown (world : World ω) (draw : Draw ω) :
    world.observed doneCalls (world.shuttingDown draw) = [.unregister, .close] := by
  simp [shuttingDown, asking, observed, doneCalls, step, roused?, permits, Request.task,
    Task.await?, Task.resume, Task.call?, Answer.fits]

/-- The calls of a process that makes itself known and then shuts down are those of a stay, with
the instances that the client makes of its wishes.

What it makes of a wish does not depend on the registrations before, since these leave the
settings. -/
theorem doneCalls_performing (world : World ω) (draw : Draw ω) (signups : List Signup) :
    world.observed doneCalls (world.performing draw signups) =
      Directory.stay (signups.filterMap (·.target? world.client)) := by
  induction signups generalizing world with
  | nil => exact world.doneCalls_shuttingDown draw
  | cons signup rest inductionHypothesis =>
    rw [performing]
    cases taken : signup.target? world.client with
    | none =>
      rw [List.filterMap_cons_none taken]
      exact inductionHypothesis world
    | some target =>
      have kept (other : Signup) :
          other.target? (world.run (world.registering draw target)).client =
            other.target? world.client := by
        rw [run_registering]
        cases other <;> rfl
      simp only [observed_append, doneCalls_registering, inductionHypothesis, kept]
      rw [List.filterMap_cons_some taken]
      rfl

/-- Everything that is asked for comes to its end. A registration is done with before the next one
begins, and the shutdown comes last. -/
theorem ended_performing (world : World ω) (draw : Draw ω) (signups : List Signup)
    (entry : Ticket × Task) (member : entry ∈ (world.run (world.performing draw signups)).tasks) :
    entry ∈ world.tasks ∨ entry.2.await? = none := by
  induction signups generalizing world with
  | nil =>
    rw [performing, tasks_shuttingDown, List.mem_append, List.mem_singleton] at member
    rcases member with old | rfl
    · exact .inl old
    · exact .inr rfl
  | cons signup rest inductionHypothesis =>
    rw [performing] at member
    cases taken : signup.target? world.client with
    | none =>
      rw [taken] at member
      exact inductionHypothesis world member
    | some target =>
      simp only [taken, run_append] at member
      rcases inductionHypothesis _ member with before | ended
      · rw [run_registering, List.mem_append, List.mem_singleton] at before
        rcases before with old | rfl
        · exact .inl old
        · exact .inr rfl
      · exact .inr ended

/-- What stays behind a process. Callers register instances in some order, their own ones or
what announcements stand for. Each of these requests and the shutdown after them comes to its
end, and the directory is asked to register those instances, to take the process out, and to
be closed. Whenever a directory with some lists has done these calls, whatever else has
happened between them,

- each service lists what it listed before, without the identities that were registered under
  it, and behind that the instances that were registered under it, each identity once and as it
  was registered latest, but for the last instance of all;
- the identity of that last instance is not listed under its service;
- every list holds the instances whose identities were not registered as before, in order;
- nothing that was registered is listed anywhere just if all registrations were of one identity
  under one service, and no other service listed that identity before.

The calls of the process are a series of registrations and one departure, whose effect on the
lists is computed by induction over the registrations. -/
theorem departure_exact (world : World ω) (draw : Draw ω)
    (services : Registry String (List Instance)) (signups : List Signup) :
    let targets := signups.filterMap (·.target? world.client)
    let initial : Directory := ⟨services, none⟩
    (world.observed doneCalls (world.performing draw signups) = Directory.stay targets ∧
      ∀ entry ∈ (world.run (world.performing draw signups)).tasks,
        entry ∈ world.tasks ∨ entry.2.await? = none) ∧
    ∀ (start : World ω) (events : List (Event ω)),
      start.observed doneCalls events = Directory.stay targets →
        let left := initial.after (start.observed doneCalls events)
        (∀ service, left.instances service =
          without (initial.instances service) ((under service targets).map Instance.identity) ++
            remaining service targets) ∧
        (∀ last, targets.getLast? = some last →
          ∀ x ∈ left.instances last.service, x.identity ≠ last.identity) ∧
        (∀ service,
          without (left.instances service) (targets.map Instance.identity) =
            without (initial.instances service) (targets.map Instance.identity)) ∧
        (left.ClearOf targets ↔
          ∀ last, targets.getLast? = some last →
            (∀ x ∈ targets, x.service = last.service ∧ x.identity = last.identity) ∧
            ∀ service, service ≠ last.service →
              ∀ x ∈ initial.instances service, x.identity ≠ last.identity) := by
  intro targets initial
  refine ⟨⟨world.doneCalls_performing draw signups, world.ended_performing draw signups⟩, ?_⟩
  intro start events departed
  rw [departed]
  refine ⟨?_, ?_, ?_, ?_⟩
  · exact Directory.instances_stay services targets
  · exact Directory.last_gone services targets
  · exact Directory.others_stay services targets
  · exact Directory.clearOf_stay_iff services targets

/-- A client of a process that announces itself as a gateway. -/
def gateway : Client Float where
  settings := { serviceName := "gateway" }
  router :=
    { cache := .empty (.ofMillis 30000)
      balance := .empty (.ofSeconds 3600)
      filters := []
      strategies := .standard
      configured := "RoundRobin"
      policies := .empty ((RetryPolicy.named "default").withWait (.ofMillis 1000)) 9999 }
  jobs := []
  stopped := []
  nextTicket := 0

/-- One announcement, twice. -/
def announcedTwice : List Signup :=
  let event : Announcement := { host := "10.0.0.9", ip := "10.0.0.9", port := 9000, metadata := ∅ }
  [.announced event (freshId 0), .announced event (freshId 1)]

/-- The calls of the process that announces itself twice and shuts down. -/
def announcedCalls : List DirectoryCall :=
  (around gateway 0).observed doneCalls
    ((around gateway 0).performing ⟨fun _ => 0, id⟩ announcedTwice)

/-- Beside another gateway, which stays first, the first registration stays. -/
theorem departure_exact_announcedTwice :
    let other : Instance := .ofAddress "gateway" "10.0.0.8" 9000
    let initial : Directory := Directory.empty.setInstances "gateway" [other]
    announcedCalls.map DirectoryCall.name = ["register", "register", "unregister", "close"] ∧
      ((initial.after announcedCalls).instances "gateway").map Instance.identity =
        [other.identity, .assigned (freshId 0)] := by
  intro other initial
  obtain ⟨⟨calls, -⟩, laws⟩ := departure_exact (around gateway 0) ⟨fun _ => 0, id⟩
    initial.services announcedTwice
  obtain ⟨lists, -⟩ := laws (around gateway 0) _ calls
  refine ⟨?_, ?_⟩
  · exact congrArg (List.map DirectoryCall.name) calls
  · exact congrArg (List.map Instance.identity) (lists "gateway")

/-- A process can leave behind what it has registered: its announcement gets a new id each
time, and only the latest is taken back. -/
theorem exists_left_listed :
    Client.create { serviceName := "gateway" } = .ok gateway ∧
      announcedCalls.map DirectoryCall.name = ["register", "register", "unregister", "close"] ∧
      ¬(Directory.empty.after announcedCalls).ClearOf
        (announcedTwice.filterMap (·.target? gateway)) := by
  refine ⟨rfl, rfl, ?_⟩
  intro clear
  refine clear "gateway" _ List.mem_cons_self ?_
  decide

end World

end CallRouting
