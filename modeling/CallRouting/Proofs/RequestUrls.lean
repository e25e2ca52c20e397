import CallRouting.Proofs.UriText

/-!
# Services in request addresses

A path names a service if slashes, the name of the service and a rest make it up, where the name
is not empty and holds no slash, and the rest starts with one. There is at most one such name and
one such rest. A generic address, however it was read, makes a request exactly if it has a scheme
and its path names a service. Sent on to an instance, the request keeps its scheme, the rest of
its path and its query, also an empty one; what is lost is only what stands between them.

An address whose text was read shows its scheme: it is spelled in front of the first `://`, where
the two usual schemes may be in any case.
-/

namespace CallRouting

/-- A path is some slashes, the name of a service, and a rest that starts with a slash. -/
def NamesService (path service rest : String) : Prop :=
  ∃ slashes : Nat, path = String.ofList (List.replicate slashes '/') ++ service ++ rest ∧
    service ≠ "" ∧ '/' ∉ service.toList ∧ rest.toList.head? = some '/'

/-- The parts of a path that was split name the service: the slashes in front are cut off, then
what has no slash, and that is the name if it is not empty and a slash follows. -/
theorem NamesService.of_splitPath {path service rest : String}
    (found : splitPath path = some (service, rest)) : NamesService path service rest := by
  unfold splitPath at found
  dsimp only at found
  obtain ⟨whole, slashes, -⟩ := (cut_iff (· = '/') path.toList _ _).mp ⟨rfl, rfl⟩
  obtain ⟨parts, free, stops⟩ :=
    (cut_iff (· ≠ '/') (path.toList.dropWhile (· = '/')) _ _).mp ⟨rfl, rfl⟩
  generalize path.toList.takeWhile (· = '/') = front at whole slashes
  generalize path.toList.dropWhile (· = '/') = trimmed at found whole parts free stops
  generalize trimmed.takeWhile (· ≠ '/') = name at found parts free
  cases back : trimmed.dropWhile (· ≠ '/') with
  | nil => simp only [back, reduceCtorEq] at found
  | cons c tail =>
    rw [back] at parts stops found
    simp only [Option.ite_none_left_eq_some, Option.some.injEq, Prod.mk.injEq] at found
    obtain ⟨nonempty, rfl, rfl⟩ := found
    refine ⟨front.length, ?_, ?_, ?_, ?_⟩
    · have same : List.replicate front.length '/' = front :=
        (List.eq_replicate_iff.mpr ⟨rfl, fun c member => by simpa using slashes c member⟩).symm
      apply String.toList_inj.mp
      simp [same, whole, parts]
    · intro empty
      apply nonempty
      simpa using empty
    · intro member
      simpa using free '/' (by simpa using member)
    · simpa using stops c rfl

/-- A path that names a service is split there: the slashes in front end at its name, and its
name ends at the next slash. -/
theorem NamesService.splitPath_eq {path service rest : String}
    (names : NamesService path service rest) : splitPath path = some (service, rest) := by
  obtain ⟨slashes, rfl, nonempty, free, slash⟩ := names
  obtain ⟨tail, rest'⟩ := List.head?_eq_some_iff.mp slash
  have named : service.toList ≠ [] := by simpa using nonempty
  have other (c : Char) (member : c ∈ service.toList) : c ≠ '/' := by
    rintro rfl
    exact free member
  -- The first cut ends at the name, which is not empty and has no slash.
  obtain ⟨-, trimmed⟩ := (cut_iff (· = '/')
      (String.ofList (List.replicate slashes '/') ++ service ++ rest).toList
      (List.replicate slashes '/') (service.toList ++ rest.toList)).mpr (by
    refine ⟨by simp, by simp +contextual, ?_⟩
    intro c head
    rw [List.head?_append_of_ne_nil _ named] at head
    simpa using other c (List.mem_of_head? head))
  -- The second one ends where the rest begins, with a slash.
  obtain ⟨name, back⟩ := (cut_iff (· ≠ '/') (service.toList ++ rest.toList) service.toList
      rest.toList).mpr (by
    refine ⟨rfl, fun c member => by simpa using other c member, ?_⟩
    intro c head
    rw [slash] at head
    simpa using (Option.some.inj head).symm)
  unfold splitPath
  dsimp only
  rw [trimmed, name, back, rest']
  simp [named, ← rest']

/-- A path is split exactly as it names a service. -/
theorem splitPath_eq_some_iff (path service rest : String) :
    splitPath path = some (service, rest) ↔ NamesService path service rest :=
  ⟨.of_splitPath, NamesService.splitPath_eq⟩

/-- What the service is called and what follows it are told by the path. -/
theorem NamesService.unique {path service service' rest rest' : String}
    (names : NamesService path service rest) (names' : NamesService path service' rest') :
    service = service' ∧ rest = rest' := by
  have same := names.splitPath_eq.symm.trans names'.splitPath_eq
  exact Prod.mk.inj (Option.some.inj same)

namespace RequestUrl

/-- A generic address makes a request exactly if it has a scheme and its path names a service. -/
theorem ofUri_eq_some_iff (uri : Uri) (url : RequestUrl) :
    ofUri uri = some url ↔
      uri.scheme = some url.scheme ∧ ∃ rest, NamesService uri.path url.service rest ∧
        url.pathAndQuery = rest ++ Uri.markedQuery uri.query := by
  obtain ⟨scheme, service, pathAndQuery⟩ := url
  simp only [ofUri, Option.bind_eq_bind, Option.bind_eq_some_iff, Prod.exists,
    splitPath_eq_some_iff, Option.pure_def, Option.some.injEq, mk.injEq]
  constructor
  · rintro ⟨_, absolute, _, rest, names, rfl, rfl, rfl⟩
    refine ⟨absolute, rest, names, ?_⟩
    cases uri.query <;> simp [Uri.markedQuery, String.append_assoc]
  · rintro ⟨absolute, rest, names, rfl⟩
    refine ⟨scheme, absolute, service, rest, names, rfl, rfl, ?_⟩
    cases uri.query <;> simp [Uri.markedQuery, String.append_assoc]

/-- The address that a request is sent on to. -/
theorem rebuild_of_ofUri (uri : Uri) (scheme service rest : String)
    (absolute : uri.scheme = some scheme) (names : NamesService uri.path service rest) :
    ∃ url, ofUri uri = some url ∧ url.scheme = scheme ∧ url.service = service ∧
      ∀ (x : Instance) (preferIp : Bool), url.rebuild x preferIp =
        scheme ++ "://" ++ x.address preferIp ++ rest ++ Uri.markedQuery uri.query := by
  refine ⟨⟨scheme, service, rest ++ Uri.markedQuery uri.query⟩,
    (ofUri_eq_some_iff _ _).mpr ⟨absolute, rest, names, rfl⟩, rfl, rfl, fun x preferIp => ?_⟩
  simp [rebuild, String.append_assoc]

/-- A request address shows its scheme. -/
theorem scheme_shown (text : String) (url : RequestUrl) (read : ofText text = some url) :
    ∃ shown rest, text.toList = shown ++ "://".toList ++ rest ∧
      Uri.ShowsScheme shown url.scheme := by
  obtain ⟨⟨scheme, authority, path, query⟩, generic, made⟩ := Option.bind_eq_some_iff.mp read
  obtain ⟨rfl, -⟩ := (ofUri_eq_some_iff _ _).mp made
  obtain ⟨-, shown, tail, whole, spelled, -⟩ :=
    (Uri.ofText_absolute_iff _ _ _ _ _).mp generic
  exact ⟨shown, _, whole, spelled⟩

/-- Splitting loses nothing. A path is split exactly into slashes that are passed over, the name
of a service and a rest, and in one way only. A generic address makes a request exactly if it has
a scheme and its path is split so; the request is rebuilt onto any instance with the scheme, the
rest of the path and the query as they were. A text that is no generic address makes none, and
one that makes a request shows its scheme.

The path is cut at its slashes in only one way, and the scheme stands in front of the first
`://`. -/
theorem splitting_exact :
    (∀ path service rest, splitPath path = some (service, rest) ↔
      NamesService path service rest) ∧
    (∀ path service service' rest rest', NamesService path service rest →
      NamesService path service' rest' → service = service' ∧ rest = rest') ∧
    (∀ text uri, Uri.ofText text = some uri →
      ((ofText text).isSome ↔
        uri.scheme.isSome ∧ ∃ service rest, NamesService uri.path service rest) ∧
      ∀ scheme service rest, uri.scheme = some scheme → NamesService uri.path service rest →
        ∃ url, ofText text = some url ∧ url.scheme = scheme ∧ url.service = service ∧
          ∀ (x : Instance) (preferIp : Bool), url.rebuild x preferIp =
            scheme ++ "://" ++ x.address preferIp ++ rest ++ Uri.markedQuery uri.query) ∧
    (∀ text, Uri.ofText text = none → ofText text = none) ∧
    ∀ text url, ofText text = some url →
      ∃ shown rest, text.toList = shown ++ "://".toList ++ rest ∧
        Uri.ShowsScheme shown url.scheme := by
  refine ⟨splitPath_eq_some_iff, fun _ _ _ _ _ => NamesService.unique, ?_, ?_, scheme_shown⟩
  · intro text uri generic
    have made : ofText text = ofUri uri := by rw [ofText, generic, Option.bind_some]
    rw [made]
    refine ⟨⟨?_, ?_⟩, rebuild_of_ofUri uri⟩
    · intro some'
      obtain ⟨url, found⟩ := Option.isSome_iff_exists.mp some'
      obtain ⟨absolute, rest, names, -⟩ := (ofUri_eq_some_iff uri url).mp found
      exact ⟨Option.isSome_iff_exists.mpr ⟨_, absolute⟩, _, rest, names⟩
    · rintro ⟨absolute, service, rest, names⟩
      obtain ⟨scheme, absolute⟩ := Option.isSome_iff_exists.mp absolute
      obtain ⟨url, found, -⟩ := rebuild_of_ofUri uri scheme service rest absolute names
      exact Option.isSome_iff_exists.mpr ⟨url, found⟩
  · intro text unread
    rw [ofText, unread, Option.bind_none]

/-- A path with slashes in front and within, behind a scheme in capitals, and an empty query. -/
theorem splitting_exact_emptyQuery :
    Uri.ofText "HTTP://gateway//order//api?" =
      some ⟨some "http", "gateway", "//order//api", some ""⟩ ∧
    NamesService "//order//api" "order" "//api" ∧
    (∃ url, ofText "HTTP://gateway//order//api?" = some url ∧
      (∃ shown rest, "HTTP://gateway//order//api?".toList = shown ++ "://".toList ++ rest ∧
        Uri.ShowsScheme shown url.scheme) ∧
      ∀ (x : Instance) (preferIp : Bool), url.rebuild x preferIp =
        "http" ++ "://" ++ x.address preferIp ++ "//api" ++ "?") ∧
    Uri.ofText "HTTP ://gateway/order/api" = none ∧
    ofText "HTTP ://gateway/order/api" = none := by
  have generic : Uri.ofText "HTTP://gateway//order//api?" =
      some ⟨some "http", "gateway", "//order//api", some ""⟩ := by decide +kernel
  have unread : Uri.ofText "HTTP ://gateway/order/api" = none := by decide +kernel
  have names : NamesService "//order//api" "order" "//api" :=
    ⟨2, by decide, by decide, by decide, by decide⟩
  obtain ⟨-, -, split', rejected, shown⟩ := splitting_exact
  obtain ⟨url, made, -, -, rebuilt⟩ := (split' _ _ generic).2 "http" "order" "//api" rfl names
  exact ⟨generic, names, ⟨url, made, shown _ url made, rebuilt⟩, unread, rejected _ unread⟩

end RequestUrl

end CallRouting
