import CallRouting.Failure
import CallRouting.Instance

/-!
# The directory

A directory knows which instances of which services there are. The one kept here
holds its lists in memory, in the order in which they were given. A process can
register itself with it: the instance joins the list of its service, in place of
an entry with the same identity, and is remembered as the one to take away again
when the process leaves. Only the latest registration is remembered.

Asking for a service that is not listed gives an empty list, not a failure.
-/

namespace CallRouting

/-- The instances of a list other than one with the same identity. -/
def othersThan (x : Instance) (instances : List Instance) : List Instance :=
  instances.filter fun existing => !existing.same x

/-- A directory: the instances that are listed for each service, and the one that this process has
registered. -/
structure Directory where
  services : Registry String (List Instance)
  registered : Option Instance

namespace Directory

/-- A directory that lists nothing. -/
def empty : Directory := ⟨∅, none⟩

/-- The list of a service. -/
def instances (directory : Directory) (service : String) : List Instance :=
  (directory.services.find? service).getD []

/-- The listed service names in order. -/
def serviceNames (directory : Directory) : List String :=
  directory.services.keys.mergeSort fun a b => !decide (b < a)

/-- Give a service a list in place of the one it has. -/
def setInstances (directory : Directory) (service : String) (instances : List Instance) :
    Directory :=
  { directory with services := directory.services.put service instances }

/-- The directory without the list of a service. -/
def removeService (directory : Directory) (service : String) : Directory :=
  { directory with services := directory.services.erase service }

/-- Let an instance join the list of its service, and remember it. -/
def register (directory : Directory) (x : Instance) : Directory :=
  { services := directory.services.put x.service
      (othersThan x (directory.instances x.service) ++ [x])
    registered := some x }

/-- Take the remembered instance from the list of its service. -/
def unregister (directory : Directory) : Directory :=
  match directory.registered with
  | none => directory
  | some x =>
    { services := directory.services.modify x.service (othersThan x)
      registered := none }

/-- A list that was set is the one of its service, and other services keep theirs. -/
theorem instances_setInstances (directory : Directory) (service other : String)
    (instances : List Instance) :
    (directory.setInstances service instances).instances other =
      if service = other then instances else directory.instances other := by
  unfold Directory.instances setInstances
  rw [Registry.find?_put]
  split <;> simp

/-- Who is registered stands last in the list of its service, and once; other services keep their
lists. -/
theorem instances_register (directory : Directory) (x : Instance) (service : String) :
    (directory.register x).instances service =
      if x.service = service then othersThan x (directory.instances service) ++ [x]
      else directory.instances service := by
  unfold register
  simp only [instances, Registry.find?_put]
  split
  · rename_i same
    simp [same]
  · rfl

/-- To unregister takes whoever was registered last off the list of its service, and leaves other
services alone. -/
theorem instances_unregister (directory : Directory) (x : Instance) (service : String)
    (remembered : directory.registered = some x) :
    directory.unregister.instances service =
      if x.service = service then othersThan x (directory.instances service)
      else directory.instances service := by
  unfold unregister
  simp only [remembered, instances, Registry.find?_modify]
  split
  · cases directory.services.find? service <;> simp [othersThan]
  · rfl

end Directory

/-- What a process asks of a directory apart from its lists. -/
inductive DirectoryCall
  | init
  | register (x : Instance)
  | unregister
  | close

/-- The name of a call, as it is counted and noted. -/
def DirectoryCall.name : DirectoryCall → String
  | .init => "init"
  | .register _ => "register"
  | .unregister => "unregister"
  | .close => "close"

/-- What the static directory does on a call. Opening and closing it change nothing. -/
def Directory.answer (directory : Directory) : DirectoryCall → Directory
  | .init | .close => directory
  | .register x => directory.register x
  | .unregister => directory.unregister

end CallRouting
