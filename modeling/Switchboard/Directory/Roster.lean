import Switchboard.Service.Error

namespace Switchboard.Directory

open Service Switchboard.Tree

/-- A directory that instances are registered in. Instances stand in order of registration, and one
that is registered again replaces the one of the same id in its place. -/
structure Roster where
  name : String
  instances : List Instance
  closed : Bool
deriving Repr, DecidableEq

namespace Roster

def named (name : String) : Roster :=
  ⟨name, [], false⟩

/-- Puts an instance in the place of the one with its id, or at the end. -/
def place (i : Instance) : List Instance → List Instance
  | [] => [i]
  | j :: js => if j.id = i.id then i :: js else j :: place i js

/-- A closed roster fails every query and change. -/
def whenOpen {α : Type} (r : Roster) (result : Except Error α) : Except Error α :=
  if r.closed then .error (.closed r.name) else result

def register (r : Roster) (i : Instance) : Except Error Roster :=
  r.whenOpen (.ok { r with instances := place i r.instances })

def deregister (r : Roster) (id : String) : Except Error Roster :=
  r.whenOpen <|
    if r.instances.any (·.id = id) then
      .ok { r with instances := r.instances.eraseP (·.id = id) }
    else .error (.notFound id)

/-- Removes all instances, also from a closed roster. -/
def clear (r : Roster) : Roster :=
  { r with instances := [] }

def count (r : Roster) : Nat :=
  r.instances.length

def close (r : Roster) : Roster :=
  { r with closed := true }

/-- The instances of a service, in order of registration. -/
def instancesOf (r : Roster) (service : String) : Except Error (List Instance) :=
  r.whenOpen (.ok (r.instances.filter (·.service = hyphenate service)))

/-- The services of all instances, ascending and each once. -/
def services (r : Roster) : Except Error (List String) :=
  r.whenOpen (.ok ((Fields.ofList (r.instances.map fun i => (i.service, ()))).map (·.1)))

end Roster

end Switchboard.Directory
