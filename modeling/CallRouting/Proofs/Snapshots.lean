import CallRouting.Stats.Ledger
import Mathlib.Algebra.Ring.Nat
import Mathlib.Data.List.Induction
import Mathlib.Data.List.Nodup

/-!
# What a view of a book shows

A book leads from identities to tallies, and a view of it from the texts of the identities to
the same tallies. So a view loses nothing as long as the texts tell the identities apart. The
texts of two ids differ, and so do those of two addresses: behind the last colon stands the
port. But an id can be the text of an address. Of two instances in such a case the view
shows one, the one that is read later, and only then does it show fewer instances than the
book leads to.

A book may be read in any order. The laws below hold for all of them.
-/

namespace CallRouting

namespace Registry

variable {κ ν : Type} [DecidableEq κ]

/-- A list that is one entry longer gives the registry with that entry put in last. -/
theorem ofList_concat (entries : List (κ × ν)) (entry : κ × ν) :
    ofList (entries ++ [entry]) = (ofList entries).put entry.1 entry.2 :=
  List.foldl_append

/-- The keys of a registry from a list are those of its entries. -/
theorem mem_keys_ofList (entries : List (κ × ν)) (key : κ) :
    key ∈ (ofList entries).keys ↔ key ∈ entries.map Prod.fst := by
  induction entries using List.reverseRecOn with
  | nil => exact Iff.rfl
  | append_singleton entries entry inductionHypothesis =>
    rw [ofList_concat, mem_keys_put, inductionHypothesis, List.map_append, List.mem_append,
      List.map_singleton, List.mem_singleton]

/-- Of the entries with one key the last one stays. -/
theorem find?_ofList (entries : List (κ × ν)) (key : κ) :
    (ofList entries).find? key =
      ((entries.filter fun entry => decide (entry.1 = key)).getLast?).map Prod.snd := by
  induction entries using List.reverseRecOn with
  | nil => rfl
  | append_singleton entries entry inductionHypothesis =>
    rw [ofList_concat, find?_put, List.filter_append]
    split
    · rename_i own
      simp [own]
    · rename_i other
      simp [other, inductionHypothesis]

/-- Entries with different keys all stay, in order. -/
theorem entries_ofList (entries : List (κ × ν)) (distinct : (entries.map Prod.fst).Nodup) :
    (ofList entries).entries = entries := by
  induction entries using List.reverseRecOn with
  | nil => rfl
  | append_singleton entries entry inductionHypothesis =>
    rw [List.map_append, List.map_singleton, List.nodup_append] at distinct
    obtain ⟨before, -, apart⟩ := distinct
    have new : entry.1 ∉ (ofList entries).keys := by
      rw [mem_keys_ofList]
      intro old
      exact apart entry.1 old entry.1 (List.mem_singleton.mpr rfl) rfl
    rw [ofList_concat, entries_put_of_new _ _ _ new, inductionHypothesis before]

/-- As many entries stay as there are just if no key occurs twice.

An entry at the end makes the registry larger by one if its key is new, and not at all otherwise;
so whatever an earlier repetition has cost is never made up for. -/
theorem size_ofList (entries : List (κ × ν)) :
    (ofList entries).size ≤ entries.length ∧
      ((ofList entries).size = entries.length ↔ (entries.map Prod.fst).Nodup) := by
  induction entries using List.reverseRecOn with
  | nil => exact ⟨Nat.le_refl 0, fun _ => List.nodup_nil, fun _ => rfl⟩
  | append_singleton entries entry inductionHypothesis =>
    obtain ⟨bound, exact⟩ := inductionHypothesis
    rw [ofList_concat, size_put, List.length_append, List.length_singleton, List.map_append,
      List.map_singleton, List.nodup_append_comm, List.singleton_append, List.nodup_cons,
      ← mem_keys_ofList, ← exact]
    split
    · rename_i old
      constructor
      · omega
      · constructor
        · intro same
          omega
        · intro distinct
          exact absurd old distinct.1
    · rename_i new
      constructor
      · omega
      · constructor
        · intro same
          exact ⟨new, by omega⟩
        · intro distinct
          omega

end Registry

/-- What follows the last of a kind is fixed, and so is what goes before. -/
theorem append_cons_inj_of_last {α : Type} {mark : α} {before before' after after' : List α}
    (last : mark ∉ after) (last' : mark ∉ after')
    (same : before ++ mark :: after = before' ++ mark :: after') :
    before = before' ∧ after = after' := by
  -- Whichever beginning is the longer one, its surplus would hold a further mark.
  rcases List.append_eq_append_iff.mp same with ⟨surplus, rest, marked⟩ | ⟨surplus, rest, marked⟩
  · cases surplus with
    | nil => exact ⟨by rw [rest, List.append_nil], (List.cons.inj marked).2⟩
    | cons first surplus =>
      have inside := (List.cons.inj marked).2
      exact absurd (inside ▸ List.mem_append_right _ List.mem_cons_self) last
  · cases surplus with
    | nil => exact ⟨by rw [rest, List.append_nil], (List.cons.inj marked).2.symm⟩
    | cons first surplus =>
      have inside := (List.cons.inj marked).2
      exact absurd (inside ▸ List.mem_append_right _ List.mem_cons_self) last'

namespace Identity

/-- The text of a place is its ip, a colon and the digits of its port. -/
theorem toList_text_located (ip : String) (port : UInt16) :
    (located ip port).text.toList = ip.toList ++ ':' :: Nat.toDigits 10 port.toNat := by
  simp [text]

/-- A number has no colon. -/
theorem colon_notMem_digits (n : Nat) : ':' ∉ Nat.toDigits 10 n := by
  intro member
  have digit := Nat.isDigit_of_mem_toDigits (by decide) (by decide) member
  exact absurd digit (by decide)

/-- Two addresses with one text are one: the port is what stands behind the last colon. -/
theorem located_of_text_eq {ip ip' : String} {port port' : UInt16}
    (same : (located ip port).text = (located ip' port').text) :
    located ip port = located ip' port' := by
  have characters := congrArg String.toList same
  rw [toList_text_located, toList_text_located] at characters
  obtain ⟨ips, digits⟩ := append_cons_inj_of_last (colon_notMem_digits port.toNat)
    (colon_notMem_digits port'.toNat) characters
  have ports : port.toNat = port'.toNat := by
    have read := congrArg (Nat.ofDigitChars 10 · 0) digits
    simpa using read
  rw [String.toList_inj.mp ips, UInt16.toNat_inj.mp ports]

/-- Whether two different identities have one text: an address, and an id that reads like it. -/
def Blurred (key other : Identity) : Prop :=
  ∃ ip port, (key = located ip port ∧ other = assigned (located ip port).text) ∨
    (other = located ip port ∧ key = assigned (located ip port).text)

/-- Two identities have one text just if they are the same, or one is an id that reads like the
other, an address. -/
theorem text_eq_iff (key other : Identity) :
    key.text = other.text ↔ key = other ∨ key.Blurred other := by
  constructor
  · intro same
    cases key with
    | assigned id =>
      cases other with
      | assigned id' => exact .inl (congrArg assigned same)
      | located ip port => exact .inr ⟨ip, port, .inr ⟨rfl, congrArg assigned same⟩⟩
    | located ip port =>
      cases other with
      | assigned id => exact .inr ⟨ip, port, .inl ⟨rfl, congrArg assigned same.symm⟩⟩
      | located ip' port' => exact .inl (located_of_text_eq same)
  · rintro (rfl | ⟨ip, port, ⟨rfl, rfl⟩ | ⟨rfl, rfl⟩⟩) <;> rfl

end Identity

namespace Ledger

variable {ω : Type}

/-- The view of a book whose entries are read in some order. -/
def viewIn (ledger : Ledger ω) (service : String) (order : List (Identity × Handle)) :
    ServiceView ω where
  service := service
  tallies := .ofList (order.map fun entry => (entry.1.text, ledger.tally entry.2))
  weights := (ledger.book service).weights

/-- A view reads a book in the order in which its instances came in. -/
theorem view_eq_viewIn (ledger : Ledger ω) (service : String) :
    ledger.view service = ledger.viewIn service (ledger.book service).handles.entries := rfl

/-- No id that a book leads from reads like an address that it leads from. -/
def Apart (ledger : Ledger ω) (service : String) : Prop :=
  ∀ ip port, .located ip port ∈ (ledger.book service).handles.keys →
    .assigned (Identity.located ip port).text ∉ (ledger.book service).handles.keys

variable {ledger : Ledger ω} {service : String} {order : List (Identity × Handle)}

/-- The texts of a book tell its identities apart just if no id reads like an address.

Two identities with one text are equal, or one is an address and the other an id. -/
theorem nodup_texts_iff (all : order.Perm (ledger.book service).handles.entries) :
    (order.map fun entry => entry.1.text).Nodup ↔ ledger.Apart service := by
  have keys : (order.map Prod.fst).Perm (ledger.book service).handles.keys := all.map Prod.fst
  have distinct : (order.map Prod.fst).Nodup :=
    keys.nodup_iff.mpr (ledger.book service).handles.distinct
  have texts : (order.map fun entry => entry.1.text) = (order.map Prod.fst).map Identity.text := by
    rw [List.map_map]
    rfl
  rw [texts, List.nodup_map_iff_inj_on distinct]
  constructor
  · intro apart ip port address id
    have same := apart _ (keys.mem_iff.mpr address) _ (keys.mem_iff.mpr id) rfl
    cases same
  · intro apart key tracked other alsoTracked same
    rcases (key.text_eq_iff other).mp same with same | ⟨ip, port, ⟨rfl, rfl⟩ | ⟨rfl, rfl⟩⟩
    · exact same
    · exact absurd (keys.mem_iff.mp alsoTracked) (apart ip port (keys.mem_iff.mp tracked))
    · exact absurd (keys.mem_iff.mp tracked) (apart ip port (keys.mem_iff.mp alsoTracked))

/-- A view shows the texts of the identities that its book leads from. -/
theorem mem_keys_viewIn (all : order.Perm (ledger.book service).handles.entries) (text : String) :
    text ∈ (ledger.viewIn service order).tallies.keys ↔
      ∃ key ∈ (ledger.book service).handles.keys, key.text = text := by
  have keys : (order.map Prod.fst).Perm (ledger.book service).handles.keys := all.map Prod.fst
  rw [viewIn, Registry.mem_keys_ofList, List.map_map]
  simp only [← keys.mem_iff, List.mem_map, Function.comp_apply, exists_exists_and_eq_and]

/-- What a view shows under a text is the tally of an identity that has this text. -/
theorem exists_of_find?_viewIn (text : String) (tally : Tally)
    (shown : (ledger.viewIn service order).tallies.find? text = some tally) :
    ∃ entry ∈ order, entry.1.text = text ∧ tally = ledger.tally entry.2 := by
  rw [viewIn, Registry.find?_ofList] at shown
  obtain ⟨pair, last, rfl⟩ := Option.map_eq_some_iff.mp shown
  obtain ⟨member, own⟩ := List.mem_filter.mp (List.mem_of_getLast? last)
  obtain ⟨entry, inOrder, rfl⟩ := List.mem_map.mp member
  exact ⟨entry, inOrder, of_decide_eq_true own, rfl⟩

/-- An identity whose text is its own is shown with its own tally.

Something is shown under the text, and it comes from an entry with that text, which is the entry
of the identity. -/
theorem find?_viewIn (all : order.Perm (ledger.book service).handles.entries)
    (key : Identity) (handle : Handle)
    (tracked : (ledger.book service).handles.find? key = some handle)
    (clear : ∀ other ∈ (ledger.book service).handles.keys, ¬ key.Blurred other) :
    (ledger.viewIn service order).tallies.find? key.text = some (ledger.tally handle) := by
  have present : key ∈ (ledger.book service).handles.keys :=
    Registry.mem_keys_of_find? _ key handle tracked
  cases shown : (ledger.viewIn service order).tallies.find? key.text with
  | none =>
    have hidden := (Registry.find?_eq_none_iff _ key.text).mp shown
    exact absurd ((mem_keys_viewIn all key.text).mpr ⟨key, present, rfl⟩) hidden
  | some tally =>
    obtain ⟨entry, inOrder, text, rfl⟩ := exists_of_find?_viewIn key.text tally shown
    have member : entry ∈ (ledger.book service).handles.entries := all.mem_iff.mp inOrder
    have other : entry.1 ∈ (ledger.book service).handles.keys := List.mem_map_of_mem member
    rcases (key.text_eq_iff entry.1).mp text.symm with rfl | blurred
    · have led := Registry.find?_of_mem _ entry.1 entry.2 member
      rw [tracked] at led
      rw [Option.some.inj led]
    · exact absurd blurred (clear entry.1 other)

/-- Where the texts tell the identities apart, a view is its book, entry for entry. -/
theorem entries_viewIn (all : order.Perm (ledger.book service).handles.entries)
    (apart : ledger.Apart service) :
    (ledger.viewIn service order).tallies.entries =
      order.map fun entry => (entry.1.text, ledger.tally entry.2) := by
  have texts := (nodup_texts_iff all).mpr apart
  refine Registry.entries_ofList _ ?_
  rwa [List.map_map]

/-- What the book of a service leads to, and what a view of it shows, for every ledger and in
whatever order the book is read.

The view shows the text of each identity and no other text. An identity whose text is its own
is shown with its own tally. The view shows as many instances as the book leads to just if no
id reads like an address. In that case it is the book, entry for entry, and the calls that it
shows add up to those in the tallies of the book.

A view is a registry made from the entries of the book with the texts as keys, so it has an
entry for each text. Two identities have one text only if one of them is an id that reads like
an address. -/
theorem view_exact (ledger : Ledger ω) (service : String) (order : List (Identity × Handle))
    (all : order.Perm (ledger.book service).handles.entries) :
    let book := (ledger.book service).handles
    let view := (ledger.viewIn service order).tallies
    (∀ text, text ∈ view.keys ↔ ∃ key ∈ book.keys, key.text = text) ∧
      (∀ key handle, book.find? key = some handle →
        (∀ other ∈ book.keys, ¬ key.Blurred other) →
        view.find? key.text = some (ledger.tally handle)) ∧
      view.size ≤ ledger.tracked service ∧
      (view.size = ledger.tracked service ↔ ledger.Apart service) ∧
      (ledger.Apart service →
        view.entries = order.map (fun entry => (entry.1.text, ledger.tally entry.2)) ∧
        (view.values.map fun tally => tally.total.toNat).sum =
          (book.values.map fun handle => (ledger.tally handle).total.toNat).sum) := by
  intro book view
  have length : (order.map fun entry => (entry.1.text, ledger.tally entry.2)).length =
      ledger.tracked service := by
    rw [List.length_map, all.length_eq]
    rfl
  obtain ⟨bound, whole⟩ :=
    Registry.size_ofList (order.map fun entry => (entry.1.text, ledger.tally entry.2))
  rw [length] at bound
  rw [length, List.map_map] at whole
  refine ⟨mem_keys_viewIn all, find?_viewIn all, bound, whole.trans (nodup_texts_iff all), ?_⟩
  · intro apart
    have entries : view.entries = _ := entries_viewIn all apart
    refine ⟨entries, ?_⟩
    unfold Registry.values
    rw [entries, List.map_map, List.map_map, List.map_map]
    exact (all.map fun entry => (ledger.tally entry.2).total.toNat).sum_nat

/-- A ledger in which a call to each of two instances has begun. -/
def calledBoth (first second : Instance) : Ledger Int :=
  (((empty (.ofSeconds 600)).beforeCall 0 first).1.beforeCall 0 second).1

/-- An instance without an id. -/
def addressed : Instance := .ofAddress "orders" "10.0.0.1" 80

/-- Another instance, which has an id. -/
def numbered (id : String) : Instance :=
  { Instance.ofAddress "orders" "10.0.0.2" 80 with id := some id }

/-- The law at work where the id does not read like the address: both instances are shown, with
both calls. -/
theorem view_exact_idAndAddress :
    let ledger := calledBoth addressed (numbered "i-2")
    ledger.Apart "orders" ∧ (ledger.view "orders").tallies.size = 2 ∧
      ((ledger.view "orders").tallies.values.map fun tally => tally.total.toNat).sum = 2 := by
  intro ledger
  have keys : (ledger.book "orders").handles.keys =
      [.located "10.0.0.1" 80, .assigned "i-2"] := by decide
  have apart : ledger.Apart "orders" := by
    intro ip port address id
    rw [keys] at address id
    have own : Identity.located ip port = .located "10.0.0.1" 80 :=
      (List.mem_cons.mp address).resolve_right (by simp)
    rw [own] at id
    exact absurd id (by decide)
  obtain ⟨-, -, -, size, whole⟩ :=
    view_exact ledger "orders" (ledger.book "orders").handles.entries (.refl _)
  exact ⟨apart, size.mpr apart, (whole apart).2⟩

/-- The id of one instance reads like the address of the other: two instances are tracked, and
whichever is read first, one is shown, and one of two calls. -/
theorem exists_blurred :
    let ledger := calledBoth addressed (numbered "10.0.0.1:80")
    ledger.tracked "orders" = 2 ∧
      (ledger.view "orders").tallies.size = 1 ∧
      ((ledger.view "orders").tallies.values.map fun tally => tally.total.toNat).sum = 1 ∧
      (ledger.viewIn "orders" (ledger.book "orders").handles.entries.reverse).tallies.size = 1 := by
  decide

end Ledger

end CallRouting
