import CallRouting.Directory
import CallRouting.Duration

/-!
# A directory under test

A directory whose lookups take a while, that can be told to fail, and that keeps a
record of what it was asked. A lookup reads the lists when its time is up, not when
it begins.
-/

namespace CallRouting

/-- A directory that takes its time, counts the lookups and fails when told to. -/
structure SimulatedDirectory where
  directory : Directory
  /-- How long a lookup takes. -/
  delay : Duration
  /-- How many lookups have begun. -/
  lookups : Nat
  /-- What fails, by the name of the operation. -/
  faults : Registry String DirectoryFault
  /-- The names of the calls, the latest last. -/
  log : List String

namespace SimulatedDirectory

/-- A directory that answers at once and never fails. -/
def ofDirectory (directory : Directory) : SimulatedDirectory :=
  ⟨directory, .zero, 0, ∅, []⟩

/-- Make an operation fail from now on, or let it work again. -/
def setFault (simulated : SimulatedDirectory) (operation : String) :
    Option DirectoryFault → SimulatedDirectory
  | some fault => { simulated with faults := simulated.faults.put operation fault }
  | none => { simulated with faults := simulated.faults.erase operation }

/-- A lookup begins. -/
def beginListing (simulated : SimulatedDirectory) : SimulatedDirectory :=
  { simulated with lookups := simulated.lookups + 1 }

/-- The answer to a lookup whose time is up. -/
def listing (simulated : SimulatedDirectory) (service : String) :
    Except DirectoryFault (List Instance) :=
  match simulated.faults.find? "instances" with
  | some fault => .error fault
  | none => .ok (simulated.directory.instances service)

/-- The answer to a call. -/
def call (simulated : SimulatedDirectory) (call : DirectoryCall) :
    SimulatedDirectory × Except DirectoryFault Unit :=
  let simulated := { simulated with log := simulated.log ++ [call.name] }
  match simulated.faults.find? call.name with
  | some fault => (simulated, .error fault)
  | none => ({ simulated with directory := simulated.directory.answer call }, .ok ())

end SimulatedDirectory

end CallRouting
