import CallRouting.Instance

/-!
# Request addresses

A caller can address a service through a gateway: `scheme://gateway/service/rest`.
Reading such an address gives its scheme, its authority, its path and its query; the
first segment of the path names the service, and what follows it is sent on to the
instance that is chosen. An address may also be a path alone, or an authority alone.
An address without a scheme, or without a path after the service, asks for no service.

The grammar of an address is checked piece by piece, over the characters of its
text. All characters beyond ASCII are fine in a path or a query and nowhere else,
and lengths are counted in bytes of UTF-8.
-/

namespace CallRouting

/-- The parts of a generic address that matter here. -/
structure Uri where
  /-- Nothing in an address that is only a path or only an authority. -/
  scheme : Option String
  authority : String
  path : String
  query : Option String
  deriving DecidableEq

namespace Uri

/-- A letter or a digit of ASCII. -/
def isAlphanumeric (c : Char) : Bool := c.isAlpha || c.isDigit

/-- The characters of a scheme. -/
def isSchemeChar (c : Char) : Bool := isAlphanumeric c || "+-.~".toList.contains c

/-- The characters of an authority. -/
def isAuthorityChar (c : Char) : Bool :=
  isAlphanumeric c || "!$&'()*+,-.:;=@[]_~%".toList.contains c

/-- All characters beyond ASCII, and of ASCII those that a path may show as they are. The
delete character, U+007F, is none of them. -/
def isPathChar (c : Char) : Bool :=
  0x80 ≤ c.toNat || "\"\x7b\x7d|~!=".toList.contains c ||
    (0x24 ≤ c.toNat && c.toNat ≤ 0x3b) || (0x40 ≤ c.toNat && c.toNat ≤ 0x5f) ||
    (0x61 ≤ c.toNat && c.toNat ≤ 0x7a)

/-- All characters beyond ASCII, and of ASCII those that a query may show as they are. The
delete character is none of them either. -/
def isQueryChar (c : Char) : Bool :=
  0x80 ≤ c.toNat || c = '!' || c = '=' || (0x24 ≤ c.toNat && c.toNat ≤ 0x3b) ||
    (0x3f ≤ c.toNat && c.toNat ≤ 0x7e)

/-- The greatest number of bytes in an address. -/
def maxBytes : Nat := 65534

/-- The greatest number of characters in a scheme. -/
def maxScheme : Nat := 64

/-- What follows a text that stands in front in any case. -/
def afterIgnoringCase : List Char → List Char → Option (List Char)
  | [], text => some text
  | _ :: _, [] => none
  | f :: front, c :: text => if c.toLower = f then afterIgnoringCase front text else none

/-- The scheme in front of an address and what follows its `://`. The two usual
schemes are read in any case and given in lower case. -/
def splitScheme (text : List Char) : Option (String × List Char) :=
  match afterIgnoringCase "http://".toList text with
  | some rest => some ("http", rest)
  | none =>
    match afterIgnoringCase "https://".toList text with
    | some rest => some ("https", rest)
    | none =>
      let scheme := text.takeWhile isSchemeChar
      match text.dropWhile isSchemeChar with
      | ':' :: '/' :: '/' :: rest =>
        if scheme.length ≤ maxScheme then some (String.ofList scheme, rest) else none
      | _ => none

/-- What has been seen of an authority so far. Colons and a percent sign count only
since the last `]` or `@`. -/
structure AuthorityScan where
  colons : Nat := 0
  opened : Bool := false
  closed : Bool := false
  percent : Bool := false
  endsWithAt : Bool := false

/-- Take one more character of an authority in, unless it cannot stand there. -/
def AuthorityScan.step (scan : AuthorityScan) (c : Char) : Option AuthorityScan :=
  let scan := { scan with endsWithAt := c = '@' }
  match c with
  | ':' => if scan.colons < 8 then some { scan with colons := scan.colons + 1 } else none
  | '[' => if scan.percent || scan.opened then none else some { scan with opened := true }
  | ']' =>
    if !scan.opened || scan.closed then none
    else some { scan with closed := true, colons := 0, percent := false }
  | '@' => some { scan with colons := 0, percent := false }
  | '%' => some { scan with percent := true }
  | c => if isAuthorityChar c then some scan else none

/-- Whether an authority can end here. -/
def AuthorityScan.complete (scan : AuthorityScan) : Bool :=
  scan.opened == scan.closed && scan.colons ≤ 1 && !scan.endsWithAt && !scan.percent

/-- Whether a text is an authority: it is not empty, and a scan comes through. -/
def isAuthority (text : List Char) : Bool :=
  !text.isEmpty && ((text.foldlM AuthorityScan.step {}).any AuthorityScan.complete)

/-- The characters at which an authority ends. -/
def endsAuthority (c : Char) : Bool := c = '/' || c = '?' || c = '#'

/-- The path and the query of what follows the authority. A `#` ends both. -/
def splitQuery (text : List Char) : Option (String × Option String) :=
  let path := text.takeWhile fun c => c ≠ '?' && c ≠ '#'
  let shown := if path.isEmpty then "/" else String.ofList path
  if !path.all isPathChar then none
  else match text.dropWhile fun c => c ≠ '?' && c ≠ '#' with
    | '?' :: rest =>
      let query := rest.takeWhile (· ≠ '#')
      if query.all isQueryChar then some (shown, some (String.ofList query)) else none
    | _ => some (shown, none)

/-- Read what follows a scheme: an authority, and a path with its query. -/
def ofAbsolute (scheme : String) (text : List Char) : Option Uri :=
  let authority := text.takeWhile fun c => !endsAuthority c
  if isAuthority authority then
    (splitQuery (text.dropWhile fun c => !endsAuthority c)).map fun (path, query) =>
      { scheme := some scheme, authority := String.ofList authority, path, query }
  else none

/-- Read an address without a scheme: a lone asterisk, a path with its query, or an
authority. -/
def ofRelative (text : List Char) : Option Uri :=
  match text with
  | ['*'] => some { scheme := none, authority := "", path := "*", query := none }
  | '/' :: _ =>
    (splitQuery text).map fun (path, query) => { scheme := none, authority := "", path, query }
  | _ =>
    if isAuthority text then
      some { scheme := none, authority := String.ofList text, path := "", query := none }
    else none

/-- Read an address. -/
def ofText (text : String) : Option Uri :=
  if text.utf8ByteSize = 0 || maxBytes < text.utf8ByteSize then none
  else
    match splitScheme text.toList with
    | some (scheme, rest) => ofAbsolute scheme rest
    | none => ofRelative text.toList

end Uri

/-- The service named by the first segment of a path, and the path after it.
Slashes in front are passed over. -/
def splitPath (path : String) : Option (String × String) :=
  let trimmed := path.toList.dropWhile (· = '/')
  let service := trimmed.takeWhile (· ≠ '/')
  match trimmed.dropWhile (· ≠ '/') with
  | [] => none
  | rest => if service.isEmpty then none else some (String.ofList service, String.ofList rest)

/-- A request address taken apart. -/
structure RequestUrl where
  scheme : String
  service : String
  /-- What follows the service: a path that starts with a slash, and the query. -/
  pathAndQuery : String
  deriving DecidableEq

namespace RequestUrl

/-- The request that a generic address makes. It takes a scheme, and a path that names
a service. -/
def ofUri (uri : Uri) : Option RequestUrl := do
  let scheme ← uri.scheme
  let (service, path) ← splitPath uri.path
  let pathAndQuery := match uri.query with
    | some query => path ++ "?" ++ query
    | none => path
  return { scheme, service, pathAndQuery }

/-- Take a request address apart. -/
def ofText (text : String) : Option RequestUrl := (Uri.ofText text).bind ofUri

/-- The address that sends the request to an instance. -/
def rebuild (url : RequestUrl) (x : Instance) (preferIp : Bool) : String :=
  url.scheme ++ "://" ++ x.address preferIp ++ url.pathAndQuery

end RequestUrl

end CallRouting
