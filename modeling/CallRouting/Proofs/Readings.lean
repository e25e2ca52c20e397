import CallRouting.Proofs.Moves

/-!
# What is read from a book

The current tally of an instance is the one to which a book leads, unless that is expired.
So it depends on the time of the reading, and the equations below say what each move makes of
it for all times from that of the move on. Only a tally that is opened is read in place of
another one. To purge a book takes out of it what nobody would read there any more.

What is counted for an instance is read from its current tally, and reads as nothing without
one. It stays as it is through all moves that change no tally.
-/

namespace CallRouting

variable {ω : Type}

/-- What is expired stays so. -/
theorem Tally.isExpired_later (tally : Tally) (lifetime : Duration) (now later : Instant)
    (onward : now ≤ later) (expired : tally.isExpired lifetime now = true) :
    tally.isExpired lifetime later = true := by
  simp only [isExpired, decide_eq_true_eq] at expired ⊢
  exact Nat.le_trans expired (Nat.sub_le_sub_right onward _)

namespace Ledger

/-- The current tally is the one to which the book leads, unless that is expired. -/
theorem current?_eq (ledger : Ledger ω) (now : Instant) (service : String) (key : Identity) :
    ledger.current? now service key =
      ((ledger.book service).handles.find? key).filter fun handle =>
        !(ledger.tally handle).isExpired ledger.lifetime now := by
  unfold current?
  cases (ledger.book service).handles.find? key with
  | none => rfl
  | some handle =>
    cases expired : (ledger.tally handle).isExpired ledger.lifetime now <;>
      simp [Option.filter, expired]

/-- To open a book changes no reading. -/
theorem current?_openBook (ledger : Ledger ω) (opened : String) (now : Instant) (service : String)
    (key : Identity) :
    (ledger.openBook opened).current? now service key = ledger.current? now service key := by
  simp only [current?, book_openBook]
  rfl

/-- A table that is put into a book changes no reading. -/
theorem current?_tabulate (ledger : Ledger ω) (weighed : String) (table : List ω) (now : Instant)
    (service : String) (key : Identity) :
    (ledger.tabulate weighed table).current? now service key =
      ledger.current? now service key := by
  have handles : ((ledger.tabulate weighed table).book service).handles =
      (ledger.book service).handles := by
    rw [book_tabulate]
    split <;> rfl
  simp only [current?, handles]
  rfl

/-- A purge leaves a reading at another time, if an instance without a current tally at the time
of the purge has none at the other time either.

A purge takes away only what has expired when it comes. -/
theorem current?_purge_of_gone (ledger : Ledger ω) (now later : Instant) (purged service : String)
    (key : Identity)
    (gone : ledger.current? now service key = none → ledger.current? later service key = none) :
    (ledger.purge now purged).current? later service key =
      ledger.current? later service key := by
  have lifetime : (ledger.purge now purged).lifetime = ledger.lifetime := rfl
  have tallies (handle : Handle) : (ledger.purge now purged).tally handle = ledger.tally handle :=
    rfl
  simp only [current?_eq, find?_purge, tallies, lifetime] at gone ⊢
  by_cases same : purged = service
  · rw [if_pos same]
    cases led : (ledger.book service).handles.find? key with
    | none => rfl
    | some handle =>
      rw [led] at gone
      simp only [Option.filter_some] at gone ⊢
      cases expired : (ledger.tally handle).isExpired ledger.lifetime now with
      | false => rfl
      | true => simpa [expired] using gone
  · rw [if_neg same]

/-- A purge takes out only what is not read from then on. -/
theorem current?_purge (ledger : Ledger ω) (now later : Instant) (onward : now ≤ later)
    (purged service : String) (key : Identity) :
    (ledger.purge now purged).current? later service key =
      ledger.current? later service key := by
  refine ledger.current?_purge_of_gone now later purged service key ?_
  simp only [current?_eq, Option.filter_eq_none_iff, Bool.not_eq_true, Bool.not_eq_false']
  intro gone handle led
  exact (ledger.tally handle).isExpired_later _ now later onward (gone handle led)

/-- A tally that is opened leaves the others as they were. -/
theorem tally_openTally (ledger : Ledger ω) (now : Instant) (service : String) (key : Identity)
    (handle : Handle) (old : handle < ledger.tallies.size) :
    (ledger.openTally now service key).1.tally handle = ledger.tally handle := by
  simp [tally, tally?_openTally, Nat.ne_of_lt old]

/-- A tally that is opened is fresh. -/
theorem tally_openTally_new (ledger : Ledger ω) (now : Instant) (service : String)
    (key : Identity) :
    (ledger.openTally now service key).1.tally ledger.tallies.size = .fresh now := by
  simp [tally, tally?_openTally]

/-- A tally that is opened is the current one for its lifetime. All others stay. -/
theorem current?_openTally (ledger : Ledger ω) (sound : ledger.Sound) (now later : Instant)
    (opened service : String) (identity key : Identity) :
    (ledger.openTally now opened identity).1.current? later service key =
      if opened = service ∧ identity = key then
        if (Tally.fresh now).isExpired ledger.lifetime later then none
        else some ledger.tallies.size
      else ledger.current? later service key := by
  have lifetime : (ledger.openTally now opened identity).1.lifetime = ledger.lifetime := rfl
  simp only [current?_eq, find?_openTally, lifetime]
  by_cases here : opened = service ∧ identity = key
  · rw [if_pos here, if_pos here, Option.filter_some, tally_openTally_new]
    cases (Tally.fresh now).isExpired ledger.lifetime later <;> rfl
  · rw [if_neg here, if_neg here]
    cases led : (ledger.book service).handles.find? key with
    | none => rfl
    | some handle =>
      have old := sound service key handle led
      simp only [Option.filter_some, ledger.tally_openTally now opened identity handle old]

/-- What is counted does not change when a tally was created. -/
theorem createdAt_change (ledger : Ledger ω) (handle : Handle) (update : Tally → Tally)
    (keeps : ∀ tally, (update tally).createdAt = tally.createdAt) (other : Handle) :
    ((ledger.change handle update).tally other).createdAt = (ledger.tally other).createdAt := by
  simp only [tally, tally?_change]
  split
  · cases ledger.tally? other with
    | none => rfl
    | some tally => exact keeps tally
  · rfl

/-- A change that keeps the time at which a tally was created changes no reading of a book. -/
theorem current?_change (ledger : Ledger ω) (handle : Handle) (update : Tally → Tally)
    (keeps : ∀ tally, (update tally).createdAt = tally.createdAt) (now : Instant)
    (service : String) (key : Identity) :
    (ledger.change handle update).current? now service key = ledger.current? now service key := by
  have lifetime : (ledger.change handle update).lifetime = ledger.lifetime := rfl
  simp only [current?_eq, book_change, Tally.isExpired, ledger.createdAt_change handle update keeps,
    lifetime]

/-- What the book of a service has counted for an instance. -/
def counted (ledger : Ledger ω) (now : Instant) (service : String) (key : Identity) : Tally :=
  match ledger.current? now service key with
  | some handle => (ledger.tally handle).undated
  | none => .fresh 0

/-- What is counted stays if the book reads the same and no tally has counted anything. -/
theorem counted_congr {before after : Ledger ω} (now : Instant) (service : String) (key : Identity)
    (current : after.current? now service key = before.current? now service key)
    (counts : ∀ handle, (after.tally handle).undated = (before.tally handle).undated) :
    after.counted now service key = before.counted now service key := by
  unfold counted
  rw [current]
  cases before.current? now service key with
  | none => rfl
  | some handle => exact counts handle

/-- What a book counts where it leads to nothing. -/
theorem counted_of_beyond (ledger : Ledger ω) (now : Instant) (service : String) (key : Identity)
    (handle : Handle) (led : ledger.Leads service key handle)
    (nothing : (ledger.tally handle).undated = .fresh 0) :
    ledger.counted now service key = .fresh 0 := by
  unfold counted
  rw [current?_eq, led, Option.filter_some]
  cases (ledger.tally handle).isExpired ledger.lifetime now with
  | false => exact nothing
  | true => rfl

/-- The counts of an instance that gets a new tally stay what they were.

It had no current tally, which reads as counts of nothing, and so does a fresh one. For any other
instance the book leads where it led. -/
theorem counted_openTally (ledger : Ledger ω) (now : Instant) (opened service : String)
    (identity key : Identity) (missing : ledger.current? now opened identity = none) :
    (ledger.openTally now opened identity).1.counted now service key =
      ledger.counted now service key := by
  have counts := (ledger.grows_openTally now opened identity).counts
  by_cases here : opened = service ∧ identity = key
  · obtain ⟨rfl, rfl⟩ := here
    have leads : (ledger.openTally now opened identity).1.Leads opened identity
        ledger.tallies.size :=
      (ledger.find?_openTally now opened opened identity identity).trans (if_pos ⟨rfl, rfl⟩)
    rw [counted_of_beyond _ now opened identity _ leads
      (by rw [tally_openTally_new]; rfl)]
    simp only [counted, missing]
  · have led : ((ledger.openTally now opened identity).1.book service).handles.find? key =
        (ledger.book service).handles.find? key := by rw [find?_openTally, if_neg here]
    have lifetime : (ledger.openTally now opened identity).1.lifetime = ledger.lifetime := rfl
    cases found : (ledger.book service).handles.find? key with
    | none => simp only [counted, current?_eq, led, found, Option.filter_none]
    | some handle =>
      by_cases old : handle < ledger.tallies.size
      · refine counted_congr now service key ?_ counts
        simp only [current?_eq, led, found, lifetime, Option.filter_some,
          ledger.tally_openTally now opened identity handle old]
      · -- The book leads to a place where there was no tally, which reads as nothing.
        have nothing : (ledger.tally handle).undated = .fresh 0 := by
          rw [tally, tally?, Array.getElem?_eq_none (Nat.le_of_not_lt old)]
          rfl
        rw [ledger.counted_of_beyond now service key handle found nothing,
          counted_of_beyond _ now service key handle (led.trans found)
            ((counts handle).trans nothing)]

/-- To look for the current tally of an instance finds what is counted for it. -/
theorem undated_access (ledger : Ledger ω) (now : Instant) (service : String) (x : Instance) :
    ((ledger.access now service x).1.tally (ledger.access now service x).2).undated =
      ledger.counted now service x.identity := by
  unfold access counted
  cases ledger.current? now service x.identity with
  | some handle => rfl
  | none => exact congrArg Tally.undated (ledger.tally_openTally_new now service x.identity)

/-- If a book leads to a tally as long as that is not expired, whoever looks for the current tally
gets it as long as that, and no longer.

Whoever does not find it opens a tally, which stands behind all others. -/
theorem access_eq_iff (ledger : Ledger ω) (now : Instant) (service : String) (x : Instance)
    (handle : Handle) (there : handle < ledger.tallies.size)
    (leads : (ledger.tally handle).isExpired ledger.lifetime now = false →
      ledger.Leads service x.identity handle) :
    (ledger.access now service x).2 = handle ↔
      (ledger.tally handle).isExpired ledger.lifetime now = false := by
  have current := ledger.current?_eq now service x.identity
  unfold access
  constructor
  · intro same
    cases found : ledger.current? now service x.identity with
    | none =>
      rw [found] at same
      exact absurd same (Nat.ne_of_gt there)
    | some other =>
      obtain rfl : other = handle := by simpa only [found] using same
      rw [found] at current
      simpa using (Option.filter_eq_some_iff.mp current.symm).2
  · intro young
    rw [leads young, Option.filter_some, young] at current
    rw [current]
    rfl

/-- A table that is put into a book leaves a sound ledger sound. -/
theorem sound_tabulate (ledger : Ledger ω) (sound : ledger.Sound) (weighed : String)
    (table : List ω) : (ledger.tabulate weighed table).Sound := by
  intro service key handle led
  rw [book_tabulate] at led
  split at led <;> exact sound service key handle led

/-- A tally that is changed leaves a sound ledger sound. -/
theorem sound_change (ledger : Ledger ω) (sound : ledger.Sound) (handle : Handle)
    (update : Tally → Tally) : (ledger.change handle update).Sound := by
  intro service key other led
  have size : (ledger.change handle update).tallies.size = ledger.tallies.size := by
    simp [Ledger.change]
  exact size ▸ sound service key other led

namespace Moves

variable {now : Instant} {about : String → Prop} {on : Handle → Prop} {before after : Ledger ω}

/-- Moves leave a sound ledger sound. -/
theorem sound (moves : Moves now about on before after) (sound : before.Sound) : after.Sound := by
  induction moves with
  | refl ledger => exact sound
  | trans first second before after => exact after (before sound)
  | openBook ledger opened ours => exact (ledger.grows_openBook opened).sound sound
  | openTally ledger opened identity ours missing =>
    exact (ledger.grows_openTally now opened identity).sound sound
  | purge ledger purged ours => exact (ledger.grows_purge now purged).sound sound
  | tabulate ledger weighed table ours => exact ledger.sound_tabulate sound weighed table
  | change ledger handle update ours keeps => exact ledger.sound_change sound handle update

/-- Moves leave the lifetime of tallies. -/
theorem lifetime (moves : Moves now about on before after) : after.lifetime = before.lifetime := by
  induction moves with
  | trans first second before after => exact after.trans before
  | _ => rfl

/-- A tally stays dated as it was when it was opened. -/
theorem createdAt (moves : Moves now about on before after) (handle : Handle)
    (there : handle < before.tallies.size) :
    (after.tally handle).createdAt = (before.tally handle).createdAt := by
  induction moves with
  | trans first second before after =>
    exact (after (Nat.lt_of_lt_of_le there first.size_le)).trans (before there)
  | openTally ledger opened identity ours missing =>
    rw [ledger.tally_openTally now opened identity handle there]
  | change ledger other update ours keeps => exact ledger.createdAt_change other update keeps handle
  | _ => rfl

/-- What is the current tally of an instance at the time of some moves stays so. -/
theorem current? (moves : Moves now about on before after) (sound : before.Sound)
    (service : String) (key : Identity) (handle : Handle)
    (current : before.current? now service key = some handle) :
    after.current? now service key = some handle := by
  induction moves with
  | refl ledger => exact current
  | trans first second before after => exact after (first.sound sound) (before sound current)
  | openBook ledger opened ours => rwa [current?_openBook]
  | openTally ledger opened identity ours missing =>
    rw [ledger.current?_openTally sound, if_neg]
    · exact current
    · rintro ⟨rfl, rfl⟩
      cases missing.symm.trans current
  | purge ledger purged ours => rwa [current?_purge ledger now now (Nat.le_refl now)]
  | tabulate ledger weighed table ours => rwa [current?_tabulate]
  | change ledger other update ours keeps => rwa [current?_change ledger other update keeps]

end Moves

/-- Moves that change no tally change nothing that is counted. -/
theorem Moves.counted {now : Instant} {about : String → Prop} {before after : Ledger ω}
    (moves : Moves now about (fun _ => False) before after) (service : String) (key : Identity) :
    after.counted now service key = before.counted now service key := by
  induction moves with
  | refl ledger => rfl
  | trans first second before after => exact after.trans before
  | openBook ledger opened ours =>
    exact counted_congr now service key (ledger.current?_openBook opened now service key)
      fun _ => rfl
  | openTally ledger opened identity ours missing =>
    exact ledger.counted_openTally now opened service identity key missing
  | purge ledger purged ours =>
    exact counted_congr now service key
      (ledger.current?_purge now now (Nat.le_refl now) purged service key) fun _ => rfl
  | tabulate ledger weighed table ours =>
    exact counted_congr now service key (ledger.current?_tabulate weighed table now service key)
      fun _ => rfl
  | change ledger handle update ours keeps => exact ours.elim

end Ledger

end CallRouting
