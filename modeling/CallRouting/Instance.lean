import CallRouting.Registry

/-!
# Service instances

An instance is one running copy of a service: where it can be reached, and what
is known about it. Its identity is the id that the directory assigned to it, or,
without one, its ip and port. Everything that follows an instance over time,
such as its statistics, goes by that identity; host, metadata and even the
service name may change under it.
-/

namespace CallRouting

/-- What makes two descriptions describe one instance. -/
inductive Identity
  | assigned (id : String)
  | located (ip : String) (port : UInt16)
  deriving DecidableEq

/-- The text of an identity. -/
def Identity.text : Identity → String
  | .assigned id => id
  | .located ip port => ip ++ ":" ++ toString port.toNat

/-- What is said about an instance, as texts under keys. -/
abbrev Metadata := Registry String String

/-- An instance of a service: where it is, and what is said about it. -/
structure Instance where
  service : String
  id : Option String
  host : String
  ip : String
  port : UInt16
  metadata : Metadata

namespace Instance

/-- An instance of which only the address is known. Its host is its ip. -/
def ofAddress (service ip : String) (port : UInt16) : Instance :=
  { service, id := none, host := ip, ip, port, metadata := ∅ }

/-- What tells an instance from others: the id that it was assigned, else where it is. -/
def identity (x : Instance) : Identity :=
  match x.id with
  | some id => .assigned id
  | none => .located x.ip x.port

/-- Whether two descriptions describe one instance. -/
def same (x y : Instance) : Bool := x.identity == y.identity

/-- Instances are the same if their identities are. -/
theorem same_iff (x y : Instance) : x.same y = true ↔ x.identity = y.identity := by
  simp [same]

/-- Where to reach the instance: the host, or the ip if that is preferred or there
is no host. -/
def address (x : Instance) (preferIp : Bool) : String :=
  (if preferIp || x.host.isEmpty then x.ip else x.host) ++ ":" ++ toString x.port.toNat

/-- The address as the start of a URL. -/
def url (x : Instance) (preferIp : Bool) : String := "http://" ++ x.address preferIp

/-- A short text for logs: service, ip and port. -/
def label (x : Instance) : String := x.service ++ "@" ++ x.ip ++ ":" ++ toString x.port.toNat

/-- Whether every wanted metadata entry is present with the wanted value. -/
def matchesAll (x : Instance) (wanted : List (String × String)) : Bool :=
  wanted.all fun entry => x.metadata.find? entry.1 == some entry.2

end Instance

/-- The instances of a list whose identities are not among the given ones. -/
def without (candidates : List Instance) (excluded : List Identity) : List Instance :=
  candidates.filter fun x => !excluded.contains x.identity

/-- What is left without some identities is the candidates that have none of them. -/
theorem mem_without (candidates : List Instance) (excluded : List Identity) (x : Instance) :
    x ∈ without candidates excluded ↔ x ∈ candidates ∧ x.identity ∉ excluded := by
  simp [without]

/-- What a process says about itself when it wants to be found. -/
structure Announcement where
  host : String
  ip : String
  port : UInt16
  metadata : Metadata

/-- The announced instance, under the service name and the fresh id that it gets. -/
def Announcement.instance (event : Announcement) (service freshId : String) : Instance :=
  { service, id := some freshId, host := event.host, ip := event.ip, port := event.port,
    metadata := event.metadata }

/-- The `n`-th id that a process hands out: a random-form identifier of 36
characters whose last twelve hexadecimal digits count. -/
def freshId (n : Nat) : String :=
  let digits := Nat.toDigits 16 (n % 281474976710656)
  String.ofList ("00000000-0000-4000-8000-".toList ++
    List.replicate (12 - digits.length) '0' ++ digits)

end CallRouting
