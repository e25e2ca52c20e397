import CallRouting.Proofs.Authorities
import CallRouting.Proofs.RequestUrls

/-!
# Requests rewritten onto an ip

A request that is sent on to an instance by its ip has to be a generic address again. What is
written is the scheme, the ip with the port, and what followed the service, one after the other.
It is read back to exactly these parts, so long as the ip and the port make an authority and the
whole is not too long. An IPv4 address does, and so does an IPv6 address in brackets.

An entry of the directory that is an ip, a colon and a port is split at its last colon, so an
IPv6 address may stand there without brackets. No request that is rewritten onto such an instance
is a generic address.
-/

namespace CallRouting

namespace RequestUrl

/-- What is left of a request address that was split spells a scheme, and a path with its query
that starts with a slash.

The rest of the path is a final part of a path that was read, so its characters are those of
paths; its query was read along with it. -/
theorem spells_of_ofText (text : String) (uri : Uri) (url : RequestUrl)
    (read : Uri.ofText text = some uri) (made : ofText text = some url) :
    uri.scheme = some url.scheme ∧ Uri.ShowsScheme url.scheme.toList url.scheme ∧
      ∃ rest, NamesService uri.path url.service rest ∧
        url.pathAndQuery = rest ++ Uri.markedQuery uri.query ∧
        Uri.SpellsPath url.pathAndQuery.toList rest uri.query := by
  rw [ofText, read, Option.bind_some] at made
  obtain ⟨absolute, rest, names, left'⟩ := (ofUri_eq_some_iff uri url).mp made
  obtain ⟨_, authority, path, query⟩ := uri
  obtain rfl : _ = some url.scheme := absolute
  obtain ⟨-, shown, tail, -, spelled, -, -, parts⟩ :=
    (Uri.ofText_absolute_iff _ _ _ _ _).mp read
  obtain ⟨front, _, -, path', inside, queries, -⟩ := parts
  have paths : ∀ c ∈ path.toList, Uri.isPathChar c = true := by
    rw [path']
    split_ifs
    · exact List.all_eq_true.mp rfl
    · simpa using inside
  refine ⟨rfl, spelled.self, rest, names, left', rest.toList, [], ?_, ?_, ?_, queries, by simp⟩
  · simp [left']
  · obtain ⟨-, -, -, -, slash⟩ := names
    have nonempty : rest.toList ≠ [] := by
      intro empty
      simp [empty] at slash
    rw [if_neg nonempty, String.ofList_toList]
  · obtain ⟨slashes, rfl, -⟩ := names
    intro c member
    exact paths c (by simp [member])

/-- A request is rewritten onto an ip as its scheme, the ip with the port, and the rest. -/
theorem toList_rebuild (url : RequestUrl) (x : Instance) :
    (url.rebuild x true).toList =
      url.scheme.toList ++ "://".toList ++ (atPort x.ip.toList x.port ++
        url.pathAndQuery.toList) := by
  have address : (x.address true).toList = atPort x.ip.toList x.port :=
    Identity.toList_text_located x.ip x.port
  simp [rebuild, address]

/-- What a request that is rewritten onto an ip is read as: the address that has the ip and the
port for its authority, if they are one.

The authority ends where the path begins, since an ip and a port have nothing in them that would
end it earlier. -/
theorem ofText_rebuild (url : RequestUrl) (x : Instance) (rest : String) (query : Option String)
    (scheme : Uri.ShowsScheme url.scheme.toList url.scheme)
    (slash : rest.toList.head? = some '/')
    (left' : url.pathAndQuery = rest ++ Uri.markedQuery query)
    (spelled : Uri.SpellsPath url.pathAndQuery.toList rest query)
    (within : ∀ c ∈ atPort x.ip.toList x.port, Uri.endsAuthority c = false) :
    Uri.ofText (url.rebuild x true) =
      if (url.rebuild x true).utf8ByteSize ≤ Uri.maxBytes ∧
          Uri.isAuthority (atPort x.ip.toList x.port) = true then
        some ⟨some url.scheme, String.ofList (atPort x.ip.toList x.port), rest, query⟩
      else none := by
  have behind : ∀ c, url.pathAndQuery.toList.head? = some c → Uri.endsAuthority c = true := by
    obtain ⟨tail, spelled'⟩ := List.head?_eq_some_iff.mp slash
    intro c head
    rw [left', String.toList_append, spelled', List.cons_append, List.head?_cons] at head
    obtain rfl := Option.some.inj head
    rfl
  obtain ⟨front, back⟩ := (cut_iff (fun c => !Uri.endsAuthority c)
    (atPort x.ip.toList x.port ++ url.pathAndQuery.toList) (atPort x.ip.toList x.port)
    url.pathAndQuery.toList).mpr
    ⟨rfl, fun c member => by simp [within c member], fun c head => by simp [behind c head]⟩
  rw [Uri.ofText_of_showsScheme _ _ _ _ (toList_rebuild url x) scheme, ite_and]
  congr 1
  unfold Uri.ofAbsolute
  rw [front, back, spelled.splitQuery_eq]
  rfl

end RequestUrl

/-- An ip that an authority can hold as it is: an IPv4 address, or an IPv6 address in brackets. -/
inductive StandsInUrl : String → Prop
  | ipv4 {ip} (spells : SpellsIpv4 ip.toList) : StandsInUrl ip
  | ipv6 {ip} (spells : SpellsIpv6 ip) : StandsInUrl (String.ofList ('[' :: (ip ++ [']'])))

/-- What an ip in a URL is for its host and its port. -/
theorem StandsInUrl.authority {ip : String} (stands : StandsInUrl ip) (port : UInt16) :
    Uri.isAuthority (atPort ip.toList port) = true ∧
      ∀ uri : Uri, uri.authority.toList = atPort ip.toList port →
        uri.host = ip ∧ uri.port? = some port := by
  cases stands with
  | ipv4 spells =>
    have chars := spells.chars
    refine ⟨(Uri.isAuthority_atPort _ port fun c member => (chars c member).1).mpr
      (count_colon _ chars), fun uri shown => ⟨?_, Uri.port?_atPort uri _ port shown⟩⟩
    rw [Uri.host_atPort uri _ port shown chars, String.ofList_toList]
  | @ipv6 ip spells =>
    obtain ⟨chars, -, few⟩ := spells.colons
    rw [String.toList_ofList]
    exact ⟨Uri.isAuthority_bracketed ip port chars few, fun uri shown =>
      ⟨Uri.host_bracketed uri ip port shown chars, Uri.port?_atPort uri _ port shown⟩⟩

namespace RequestUrl

/-- A request that is rewritten onto an ip reaches it. For an ip that an authority can hold, what
is written is a generic address unless it is too long, and then it has the scheme of the request,
the ip as its host, the port of the instance, and the path and the query that followed the
service. An IPv6 address without brackets makes no generic address of any request.

A text that is rebuilt is parsed back to its parts just if its authority is one. An authority
with an ip without colons, or with one in brackets, and a port behind it is; with two colons or
more outside brackets it is not. -/
theorem rewriting_exact (text : String) (uri : Uri) (url : RequestUrl) (x : Instance)
    (read : Uri.ofText text = some uri) (made : ofText text = some url) :
    (StandsInUrl x.ip →
      ((Uri.ofText (url.rebuild x true)).isSome ↔
        (url.rebuild x true).utf8ByteSize ≤ Uri.maxBytes) ∧
      ∀ again, Uri.ofText (url.rebuild x true) = some again →
        again.scheme = uri.scheme ∧ again.host = x.ip ∧ again.port? = some x.port ∧
        NamesService uri.path url.service again.path ∧ again.query = uri.query) ∧
    (SpellsIpv6 x.ip.toList → Uri.ofText (url.rebuild x true) = none) := by
  obtain ⟨absolute, scheme, rest, names, left', spelled⟩ :=
    spells_of_ofText text uri url read made
  have slash : rest.toList.head? = some '/' := by
    obtain ⟨_, -, -, -, slash⟩ := names
    exact slash
  have reading := ofText_rebuild url x rest uri.query scheme slash left' spelled
  constructor
  · intro stands
    obtain ⟨authority, parts⟩ := stands.authority x.port
    rw [reading (Uri.endsAuthority_of_isAuthority _ authority)]
    simp only [authority, and_true]
    refine ⟨by split_ifs with small <;> simp [small], ?_⟩
    intro again found
    obtain ⟨-, same⟩ := Option.ite_none_right_eq_some.mp found
    obtain rfl := Option.some.inj same
    obtain ⟨host, port⟩ := parts ⟨_, String.ofList (atPort x.ip.toList x.port), rest, uri.query⟩
      String.toList_ofList
    exact ⟨absolute.symm, host, port, names, rfl⟩
  · intro spells
    obtain ⟨chars, two, -⟩ := spells.colons
    have unread : ¬Uri.isAuthority (atPort x.ip.toList x.port) = true := by
      rw [Uri.isAuthority_atPort _ _ chars]
      omega
    rw [reading (Uri.endsAuthority_atPort _ _ chars), if_neg fun both => unread both.2]

/-- The shortest text of the loopback address spells one. -/
theorem spellsIpv6_loopback : SpellsIpv6 "::1".toList :=
  have group : SpellsGroup ['1'] := ⟨by decide, by decide, List.all_eq_true.mp rfl⟩
  .short (by decide : 0 + 1 ≤ 7) (.inl ⟨rfl, rfl⟩) (.inr (.last group))

/-- One request rewritten onto an IPv4 address, onto an IPv6 address in brackets, and onto the
same one without them. -/
theorem rewriting_exact_query :
    Uri.ofText "http://gateway/order/api?page=2" =
      some ⟨some "http", "gateway", "/order/api", some "page=2"⟩ ∧
    ofText "http://gateway/order/api?page=2" = some ⟨"http", "order", "/api?page=2"⟩ ∧
    StandsInUrl "10.0.0.7" ∧ StandsInUrl "[::1]" ∧ SpellsIpv6 "::1".toList ∧
    (∃ again, Uri.ofText "http://10.0.0.7:8080/api?page=2" = some again ∧
      again.host = "10.0.0.7" ∧ again.port? = some 8080 ∧ again.query = some "page=2") ∧
    (∃ again, Uri.ofText "http://[::1]:8080/api?page=2" = some again ∧
      again.host = "[::1]" ∧ again.port? = some 8080 ∧ again.query = some "page=2") ∧
    Uri.ofText "http://::1:8080/api?page=2" = none := by
  have read : Uri.ofText "http://gateway/order/api?page=2" =
      some ⟨some "http", "gateway", "/order/api", some "page=2"⟩ := by decide +kernel
  have made : ofText "http://gateway/order/api?page=2" =
      some ⟨"http", "order", "/api?page=2"⟩ := by decide +kernel
  -- Both addresses that stand in a URL are settled by the first part of the law.
  have onto (ip : String) (stands : StandsInUrl ip)
      (small : (RequestUrl.rebuild ⟨"http", "order", "/api?page=2"⟩
        (.ofAddress "order" ip 8080) true).utf8ByteSize ≤ Uri.maxBytes) :
      ∃ again, Uri.ofText (RequestUrl.rebuild ⟨"http", "order", "/api?page=2"⟩
          (.ofAddress "order" ip 8080) true) = some again ∧
        again.host = ip ∧ again.port? = some 8080 ∧ again.query = some "page=2" := by
    obtain ⟨some', parts⟩ :=
      (rewriting_exact _ _ _ (.ofAddress "order" ip 8080) read made).1 stands
    obtain ⟨again, found⟩ := Option.isSome_iff_exists.mp (some'.mpr small)
    obtain ⟨-, host, port, -, query⟩ := parts again found
    exact ⟨again, found, host, port, query⟩
  have ipv4 : StandsInUrl "10.0.0.7" :=
    .ipv4 ⟨['1', '0'], ['0'], ['0'], ['7'],
      ⟨⟨10, by decide, by decide⟩, ⟨0, by decide, by decide⟩, ⟨0, by decide, by decide⟩,
        ⟨7, by decide, by decide⟩⟩, by decide⟩
  have bracketed : StandsInUrl "[::1]" := .ipv6 spellsIpv6_loopback
  refine ⟨read, made, ipv4, bracketed, spellsIpv6_loopback,
    onto "10.0.0.7" ipv4 (by decide +kernel), onto "[::1]" bracketed (by decide +kernel), ?_⟩
  exact (rewriting_exact _ _ _ (.ofAddress "order" "::1" 8080) read made).2
    spellsIpv6_loopback

/-- An entry of the directory may be an IPv6 address with a port. A request that is rewritten
onto it is no generic address. -/
theorem exists_unreachable :
    ∃ (x : Instance) (url : RequestUrl),
      Directory.readEntry "order" (.text "::1:8080") = .ok x ∧ SpellsIpv6 x.ip.toList ∧
      ofText "http://gateway/order/api/list" = some url ∧
      url.rebuild x true = "http://::1:8080/api/list" ∧
      Uri.ofText (url.rebuild x true) = none := by
  refine ⟨.ofAddress "order" "::1" 8080, ⟨"http", "order", "/api/list"⟩, ?_, ?_,
    by decide +kernel, by decide +kernel, by decide +kernel⟩
  · exact (Directory.readAddress_eq_ok_iff "order" "::1:8080" _).mpr
      ⟨"::1", _, 8080, by decide +kernel, spellsPort_digits 8080, rfl⟩
  · exact spellsIpv6_loopback

end RequestUrl

end CallRouting
