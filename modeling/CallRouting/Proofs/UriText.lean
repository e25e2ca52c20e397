import CallRouting.Url
import Mathlib

/-!
# How generic addresses are spelled

A generic address with a scheme is a scheme, `://`, an authority, and what follows it: a path, a
query behind its mark, and a fragment behind its own. Each of these parts is cut out of the text
where a character comes that cannot go on with it, so an address is read to its parts exactly if
it is spelled by them.

The two usual schemes may be in any case and are given in lower case. A slash stands for an empty
path, a query may be empty, and of a fragment nothing is kept. An address that is longer than a
bound on its bytes is not read.
-/

namespace CallRouting

/-- A text is cut by a test exactly into a first part, whose characters all pass, and a rest that
does not go on with such a character. -/
theorem cut_iff (p : Char → Bool) (text front back : List Char) :
    text.takeWhile p = front ∧ text.dropWhile p = back ↔
      text = front ++ back ∧ (∀ c ∈ front, p c = true) ∧
        ∀ c, back.head? = some c → p c = false := by
  constructor
  · rintro ⟨rfl, rfl⟩
    refine ⟨List.takeWhile_append_dropWhile.symm, fun c member => List.mem_takeWhile_imp member, ?_⟩
    intro c head
    have stops := List.head?_dropWhile_not p text
    simpa [head] using stops
  · rintro ⟨rfl, inside, stops⟩
    rw [List.takeWhile_append_of_pos inside, List.dropWhile_append_of_pos inside]
    cases back with
    | nil => simp
    | cons c rest => simp [stops c rfl]

namespace Uri

/-- Only letters change their case. -/
theorem eq_of_toLower (c d : Char) (caseless : d.isLower = false) (lower : c.toLower = d) :
    c = d := by
  have letterless : c.isAlpha = false := by
    rw [← Char.isLower_toLower_eq_isAlpha, lower, caseless]
  have small : ¬c.isUpper = true := fun upper => by simp [Char.isAlpha, upper] at letterless
  rwa [Char.toLower_eq_of_not_isUpper small] at lower

/-- A letter in lower case was a letter, so it can stand in a scheme. -/
theorem isSchemeChar_of_toLower (c : Char) (letter : c.toLower.isAlpha = true) :
    isSchemeChar c = true := by
  have alpha : c.isAlpha = true := by
    by_cases upper : c.isUpper = true
    · simp [Char.isAlpha, upper]
    · rwa [Char.toLower_eq_of_not_isUpper upper] at letter
  simp [isSchemeChar, isAlphanumeric, alpha]

/-- What is found behind a text in front, in any case of its letters: the rest behind as many
characters, which are those of the text in lower case. -/
theorem afterIgnoringCase_eq_some_iff (front text rest : List Char) :
    afterIgnoringCase front text = some rest ↔
      ∃ shown, text = shown ++ rest ∧ shown.map Char.toLower = front := by
  induction front generalizing text with
  | nil => simp [afterIgnoringCase, eq_comm]
  | cons f front inductionHypothesis =>
    cases text with
    | nil => simp [afterIgnoringCase]
    | cons c text =>
      simp only [afterIgnoringCase, Option.ite_none_right_eq_some, inductionHypothesis]
      constructor
      · rintro ⟨same, shown, rfl, rfl⟩
        exact ⟨c :: shown, rfl, by rw [List.map_cons, same]⟩
      · rintro ⟨shown, whole, lower⟩
        obtain ⟨d, others, rfl, same, rfl⟩ := List.map_eq_cons_iff.mp lower
        obtain ⟨rfl, rfl⟩ := List.cons.inj whole
        exact ⟨same, others, rfl, rfl⟩

/-- Whether a scheme that ends at a colon is there in any case.

Neither the usual scheme nor the one shown has a colon in it, so if one of them is shorter, its
colon meets a character that is none. -/
theorem afterIgnoringCase_scheme (usual shown rest : List Char) (free : ':' ∉ usual)
    (free' : ':' ∉ shown) :
    afterIgnoringCase (usual ++ "://".toList) (shown ++ "://".toList ++ rest) =
      if shown.map Char.toLower = usual then some rest else none := by
  induction shown generalizing usual with
  | nil =>
    cases usual with
    | nil => simp [afterIgnoringCase]
    | cons u others =>
      have other : ':' ≠ u := fun same => free (same ▸ List.mem_cons_self)
      simp [afterIgnoringCase, other]
  | cons c shown inductionHypothesis =>
    have other : c.toLower ≠ ':' := by
      intro same
      exact free' (eq_of_toLower c ':' rfl same ▸ List.mem_cons_self)
    cases usual with
    | nil => simp [afterIgnoringCase, other]
    | cons u usual =>
      have further := inductionHypothesis usual (fun member => free (List.mem_cons_of_mem _ member))
        (fun member => free' (List.mem_cons_of_mem _ member))
      simp only [List.cons_append, afterIgnoringCase, further, List.map_cons, List.cons.injEq]
      split <;> simp_all

/-- What is shown in front of an address stands for a scheme: one of the two usual ones in any
case, or any other as it is. -/
def ShowsScheme (shown : List Char) (scheme : String) : Prop :=
  (∀ c ∈ shown, isSchemeChar c = true) ∧
    if shown.map Char.toLower = "http".toList then scheme = "http"
    else if shown.map Char.toLower = "https".toList then scheme = "https"
    else scheme = String.ofList shown ∧ shown.length ≤ maxScheme

/-- A scheme shows itself, as it is in lower case if it is a usual one. -/
theorem ShowsScheme.self {shown : List Char} {scheme : String}
    (spelled : ShowsScheme shown scheme) : ShowsScheme scheme.toList scheme := by
  obtain ⟨inside, stands⟩ := spelled
  split_ifs at stands with usual secure
  · subst stands
    exact ⟨List.all_eq_true.mp rfl, by decide⟩
  · subst stands
    exact ⟨List.all_eq_true.mp rfl, by decide⟩
  · obtain ⟨rfl, short⟩ := stands
    rw [String.toList_ofList]
    refine ⟨inside, ?_⟩
    rw [if_neg usual, if_neg secure]
    exact ⟨rfl, short⟩

/-- A scheme that is shown in front of `://` is found: the two known ones in lower case, and
any other one as it is shown, if it is not too long. -/
theorem splitScheme_eq (shown rest : List Char) (inside : ∀ c ∈ shown, isSchemeChar c = true) :
    splitScheme (shown ++ "://".toList ++ rest) =
      if shown.map Char.toLower = "http".toList then some ("http", rest)
      else if shown.map Char.toLower = "https".toList then some ("https", rest)
      else if shown.length ≤ maxScheme then some (String.ofList shown, rest)
      else none := by
  -- A colon cannot stand in a scheme, so the one behind it is the first.
  have free : ':' ∉ shown := fun member => absurd (inside ':' member) (by decide)
  have usual := afterIgnoringCase_scheme "http".toList shown rest (by decide) free
  have secure := afterIgnoringCase_scheme "https".toList shown rest (by decide) free
  obtain ⟨name, back⟩ := (cut_iff isSchemeChar (shown ++ "://".toList ++ rest) shown
    ("://".toList ++ rest)).mpr ⟨List.append_assoc .., inside, by simp; decide⟩
  unfold splitScheme
  rw [show "http://".toList = "http".toList ++ "://".toList from rfl, usual,
    show "https://".toList = "https".toList ++ "://".toList from rfl, secure, name, back]
  by_cases http : shown.map Char.toLower = "http".toList
  · rw [if_pos http, if_pos http]
  · rw [if_neg http, if_neg http]
    by_cases https : shown.map Char.toLower = "https".toList
    · rw [if_pos https, if_pos https]
    · rw [if_neg https, if_neg https]
      rfl

/-- A usual scheme that is there in any case consists of letters, so it is a scheme as it is
shown.

The characters of the mark behind it have no case. -/
theorem exists_shown_of_usual (usual text rest : List Char)
    (letters : usual.all Char.isAlpha = true)
    (found : afterIgnoringCase (usual ++ "://".toList) text = some rest) :
    ∃ shown, text = shown ++ "://".toList ++ rest ∧ ∀ c ∈ shown, isSchemeChar c = true := by
  obtain ⟨front, rfl, lower⟩ := (afterIgnoringCase_eq_some_iff _ text rest).mp found
  obtain ⟨shown, mark, rfl, rfl, marks⟩ := List.map_eq_append_iff.mp lower
  have same : mark = "://".toList := by
    obtain ⟨a, _, rfl, first, more⟩ := List.map_eq_cons_iff.mp marks
    obtain ⟨b, _, rfl, second, last⟩ := List.map_eq_cons_iff.mp more
    obtain ⟨c, _, rfl, third, none⟩ := List.map_eq_cons_iff.mp last
    rw [eq_of_toLower a _ (by decide) first, eq_of_toLower b _ (by decide) second,
      eq_of_toLower c _ (by decide) third, List.map_eq_nil_iff.mp none]
    rfl
  refine ⟨shown, by rw [same], fun c member => ?_⟩
  exact isSchemeChar_of_toLower c (List.all_eq_true.mp letters _ (List.mem_map_of_mem member))

/-- A scheme is found just if it is shown in front of `://`. -/
theorem splitScheme_eq_some_iff (text : List Char) (scheme : String) (rest : List Char) :
    splitScheme text = some (scheme, rest) ↔
      ∃ shown, text = shown ++ "://".toList ++ rest ∧ ShowsScheme shown scheme := by
  constructor
  · intro found
    -- Each of the three ways to find a scheme finds it in front of `://`, and of scheme characters.
    obtain ⟨shown, tail, rfl, inside⟩ : ∃ shown tail, text = shown ++ "://".toList ++ tail ∧
        ∀ c ∈ shown, isSchemeChar c = true := by
      unfold splitScheme at found
      split at found
      · rename_i tail usual
        obtain ⟨shown, whole, inside⟩ :=
          exists_shown_of_usual "http".toList text tail rfl usual
        exact ⟨shown, tail, whole, inside⟩
      · split at found
        · rename_i tail usual
          obtain ⟨shown, whole, inside⟩ :=
            exists_shown_of_usual "https".toList text tail rfl usual
          exact ⟨shown, tail, whole, inside⟩
        · dsimp only at found
          split at found
          · rename_i tail back
            obtain ⟨whole, inside, -⟩ := (cut_iff isSchemeChar text _ _).mp ⟨rfl, back⟩
            exact ⟨_, tail, by simpa using whole, inside⟩
          · cases found
    rw [splitScheme_eq shown tail inside] at found
    split_ifs at found with http https short
    · obtain ⟨rfl, rfl⟩ := Prod.mk.inj (Option.some.inj found)
      exact ⟨shown, rfl, inside, by rw [if_pos http]⟩
    · obtain ⟨rfl, rfl⟩ := Prod.mk.inj (Option.some.inj found)
      exact ⟨shown, rfl, inside, by rw [if_neg http, if_pos https]⟩
    · obtain ⟨rfl, rfl⟩ := Prod.mk.inj (Option.some.inj found)
      exact ⟨shown, rfl, inside, by rw [if_neg http, if_neg https]; exact ⟨rfl, short⟩⟩
  · rintro ⟨shown, rfl, inside, stands⟩
    rw [splitScheme_eq shown rest inside]
    split_ifs at stands with http https
    · rw [if_pos http, stands]
    · rw [if_neg http, if_pos https, stands]
    · obtain ⟨rfl, short⟩ := stands
      rw [if_neg http, if_neg https, if_pos short]

/-- A query as it is written, with its mark; also an empty one. -/
def markedQuery (query : Option String) : String :=
  match query with
  | some query => "?" ++ query
  | none => ""

/-- What follows an authority is a path, where a slash stands for an empty one, then a query
behind its mark, if there is one, and a fragment behind its own, of which nothing is kept. -/
def SpellsPath (text : List Char) (path : String) (query : Option String) : Prop :=
  ∃ shown fragment, text = shown ++ (markedQuery query).toList ++ fragment ∧
    (path = if shown = [] then "/" else String.ofList shown) ∧
    (∀ c ∈ shown, isPathChar c = true) ∧
    (∀ c ∈ (query.getD "").toList, isQueryChar c = true) ∧
    ∀ c, fragment.head? = some c → c = '#'

/-- What was split spells the path and the query that were found: the path stops at a question
mark or at a fragment, and the query at a fragment. -/
theorem SpellsPath.of_splitQuery {text : List Char} {path : String} {query : Option String}
    (read : splitQuery text = some (path, query)) : SpellsPath text path query := by
  unfold splitQuery at read
  dsimp only at read
  obtain ⟨whole, -, stops⟩ := (cut_iff (fun c => c ≠ '?' && c ≠ '#') text _ _).mp ⟨rfl, rfl⟩
  generalize text.takeWhile (fun c => c ≠ '?' && c ≠ '#') = shown at read whole
  generalize text.dropWhile (fun c => c ≠ '?' && c ≠ '#') = back at read whole stops
  simp only [Option.ite_none_left_eq_some, Bool.not_eq_true, Bool.not_eq_false',
    List.all_eq_true] at read
  obtain ⟨inside, read⟩ := read
  split at read
  · rename_i rest
    obtain ⟨-, -, ends⟩ := (cut_iff (· ≠ '#') rest _ _).mp ⟨rfl, rfl⟩
    simp only [Option.ite_none_right_eq_some, Option.some.injEq, Prod.mk.injEq] at read
    obtain ⟨allowed, rfl, rfl⟩ := read
    refine ⟨shown, rest.dropWhile (· ≠ '#'), ?_, by simp, inside, by simpa using allowed, ?_⟩
    · rw [whole]
      simp [markedQuery]
    · simpa using ends
  · rename_i other
    obtain ⟨rfl, rfl⟩ := Prod.mk.inj (Option.some.inj read)
    refine ⟨shown, back, by simp [whole, markedQuery], by simp, inside, by simp, ?_⟩
    intro c head
    obtain ⟨rest, rfl⟩ := List.head?_eq_some_iff.mp head
    have mark := stops c rfl
    by_contra fragment
    have question : c = '?' := by simpa [fragment] using mark
    exact other rest (by rw [question])

/-- A path ends at the mark of a query, or of a fragment, which cannot stand in it. -/
theorem inPath_of_isPathChar (c : Char) (path : isPathChar c = true) :
    (c ≠ '?' && c ≠ '#') = true := by
  simp only [Bool.and_eq_true, decide_eq_true_eq]
  constructor <;> rintro rfl <;> revert path <;> decide

/-- A query ends at the mark of a fragment, which cannot stand in it. -/
theorem inQuery_of_isQueryChar (c : Char) (query : isQueryChar c = true) :
    decide (c ≠ '#') = true := by
  rw [decide_eq_true_eq]
  rintro rfl
  revert query
  decide

/-- What spells a path and a query is split into them.

No character of a path stops one, and none of a query stops that; so each cut is where the next
part begins. -/
theorem SpellsPath.splitQuery_eq {text : List Char} {path : String} {query : Option String}
    (spelled : SpellsPath text path query) : splitQuery text = some (path, query) := by
  obtain ⟨shown, fragment, rfl, rfl, inside, allowed, ends⟩ := spelled
  have front := fun c member => inPath_of_isPathChar c (inside c member)
  have paths : shown.all isPathChar = true := List.all_eq_true.mpr inside
  unfold splitQuery
  dsimp only
  cases query with
  | none =>
    obtain ⟨name, back⟩ := (cut_iff (fun c => c ≠ '?' && c ≠ '#')
      (shown ++ (markedQuery none).toList ++ fragment) shown fragment).mpr
      ⟨by simp [markedQuery], front, fun c head => by simp [ends c head]⟩
    rw [name, back]
    cases fragment with
    | nil => simp [paths]
    | cons c rest =>
      obtain rfl := ends c rfl
      simp [paths]
  | some query =>
    have queries : query.toList.all isQueryChar = true := List.all_eq_true.mpr allowed
    obtain ⟨name, back⟩ := (cut_iff (fun c => c ≠ '?' && c ≠ '#')
      (shown ++ (markedQuery (some query)).toList ++ fragment) shown
      ('?' :: (query.toList ++ fragment))).mpr ⟨by simp [markedQuery], front, by simp⟩
    obtain ⟨asked, -⟩ := (cut_iff (· ≠ '#') (query.toList ++ fragment) query.toList fragment).mpr
      ⟨rfl, fun c member => inQuery_of_isQueryChar c (allowed c member),
        fun c head => by simp [ends c head]⟩
    simp only [ne_eq, decide_not] at asked
    rw [name, back]
    simp [paths, asked, queries]

/-- What ends an authority cannot stand in one. -/
theorem endsAuthority_of_step (scan next : AuthorityScan) (c : Char)
    (taken : scan.step c = some next) : endsAuthority c = false := by
  by_contra ends
  have refused : scan.step c = none := by
    simp only [endsAuthority, Bool.not_eq_false, Bool.or_eq_true, decide_eq_true_eq] at ends
    obtain (rfl | rfl) | rfl := ends <;> rfl
  rw [refused] at taken
  cases taken

/-- No character of an authority ends one, so an authority reaches up to the first character
that does. -/
theorem endsAuthority_of_isAuthority (text : List Char) (authority : isAuthority text = true) :
    ∀ c ∈ text, endsAuthority c = false := by
  -- The scan is followed from any point of it: at a character that would end the authority it gives
  -- up.
  have scanned (scan : AuthorityScan) (text : List Char)
      (taken : (text.foldlM AuthorityScan.step scan).isSome = true) :
      ∀ c ∈ text, endsAuthority c = false := by
    induction text generalizing scan with
    | nil => simp
    | cons c rest inductionHypothesis =>
      cases step : scan.step c with
      | none => simp [step] at taken
      | some next =>
        rw [List.foldlM_cons, step] at taken
        exact List.forall_mem_cons.mpr
          ⟨endsAuthority_of_step scan next c step, inductionHypothesis next taken⟩
  refine scanned {} text ?_
  unfold isAuthority at authority
  cases folded : text.foldlM AuthorityScan.step {} with
  | none => simp [folded] at authority
  | some scan => rfl

/-- Behind a scheme stand an authority, up to what ends it, and a path with its query.

No authority has a character in it that would end it, so it is cut where it ends. -/
theorem ofAbsolute_eq_some_iff (given : String) (text : List Char)
    (scheme authority path : String) (query : Option String) :
    ofAbsolute given text = some ⟨some scheme, authority, path, query⟩ ↔
      given = scheme ∧ ∃ tail, text = authority.toList ++ tail ∧
        isAuthority authority.toList = true ∧
        (∀ c, tail.head? = some c → endsAuthority c = true) ∧ SpellsPath tail path query := by
  unfold ofAbsolute
  dsimp only
  constructor
  · intro read
    simp only [Option.ite_none_right_eq_some, Option.map_eq_some_iff, Prod.exists, mk.injEq,
      Option.some.injEq] at read
    obtain ⟨valid, path', query', found, rfl, rfl, rfl, rfl⟩ := read
    obtain ⟨whole, -, stops⟩ := (cut_iff (fun c => !endsAuthority c) text _ _).mp ⟨rfl, rfl⟩
    refine ⟨rfl, _, by rw [String.toList_ofList]; exact whole, by simpa using valid, ?_,
      .of_splitQuery found⟩
    intro c head
    simpa using stops c head
  · rintro ⟨rfl, tail, rfl, valid, stops, spelled⟩
    obtain ⟨front, back⟩ := (cut_iff (fun c => !endsAuthority c) (authority.toList ++ tail)
      authority.toList tail).mpr ⟨rfl, fun c member => by
        simp [endsAuthority_of_isAuthority _ valid c member], fun c head => by simp [stops c head]⟩
    rw [front, back, if_pos valid, spelled.splitQuery_eq]
    simp

/-- Only an address that shows a scheme has one. -/
theorem scheme_ofRelative (text : List Char) (uri : Uri) (read : ofRelative text = some uri) :
    uri.scheme = none := by
  unfold ofRelative at read
  split at read
  · exact (Option.some.inj read) ▸ rfl
  · obtain ⟨parts, -, rfl⟩ := Option.map_eq_some_iff.mp read
    rfl
  · obtain ⟨-, same⟩ := Option.ite_none_right_eq_some.mp read
    exact (Option.some.inj same) ▸ rfl

/-- Behind a scheme an address is read as one that has it, unless it is too long. -/
theorem ofText_of_showsScheme (text scheme : String) (shown rest : List Char)
    (whole : text.toList = shown ++ "://".toList ++ rest) (spelled : ShowsScheme shown scheme) :
    ofText text = if text.utf8ByteSize ≤ maxBytes then ofAbsolute scheme rest else none := by
  have nonempty : text.utf8ByteSize ≠ 0 := by
    intro empty
    rw [String.utf8ByteSize_eq_zero_iff] at empty
    subst empty
    simp at whole
  have front := (splitScheme_eq_some_iff _ _ _).mpr ⟨shown, whole, spelled⟩
  unfold ofText
  rw [front]
  by_cases small : text.utf8ByteSize ≤ maxBytes
  · simp [nonempty, small]
  · simp [small, Nat.lt_of_not_le small]

/-- A text is read as an address with a scheme exactly if it is spelled by the parts of one.

A text without a scheme in front is read as a relative address, which has none. -/
theorem ofText_absolute_iff (text scheme authority path : String) (query : Option String) :
    ofText text = some ⟨some scheme, authority, path, query⟩ ↔
      text.utf8ByteSize ≤ maxBytes ∧ ∃ shown tail,
        text.toList = shown ++ "://".toList ++ (authority.toList ++ tail) ∧
        ShowsScheme shown scheme ∧ isAuthority authority.toList = true ∧
        (∀ c, tail.head? = some c → endsAuthority c = true) ∧ SpellsPath tail path query := by
  constructor
  · intro read
    unfold ofText at read
    simp only [Option.ite_none_left_eq_some, Bool.or_eq_true, decide_eq_true_eq, not_or,
      Nat.not_lt] at read
    obtain ⟨⟨-, small⟩, read⟩ := read
    refine ⟨small, ?_⟩
    split at read
    · rename_i given rest front
      obtain ⟨rfl, tail, rfl, valid⟩ := (ofAbsolute_eq_some_iff _ _ _ _ _ _).mp read
      obtain ⟨shown, whole, spelled⟩ := (splitScheme_eq_some_iff _ _ _).mp front
      exact ⟨shown, tail, whole, spelled, valid⟩
    · cases scheme_ofRelative _ _ read
  · rintro ⟨small, shown, tail, whole, spelled, valid⟩
    rw [ofText_of_showsScheme text scheme shown _ whole spelled, if_pos small]
    exact (ofAbsolute_eq_some_iff _ _ _ _ _ _).mpr ⟨rfl, tail, rfl, valid⟩

end Uri

end CallRouting
