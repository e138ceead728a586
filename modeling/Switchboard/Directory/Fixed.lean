import Switchboard.Service.Error

namespace Switchboard.Directory

open Service Switchboard.Tree

/-- The instances of each service, by ascending service. -/
structure Fixed where
  services : List (String × List Instance)
deriving Repr, DecidableEq

namespace Fixed

def empty : Fixed :=
  ⟨[]⟩

/-- Instances for addresses, numbered behind those already there. -/
def number (service : String) (before : List Instance) :
    List String → Except Error (List Instance)
  | [] => .ok before
  | uri :: uris => do
    let i ← Instance.ofText (service ++ "-" ++ toString before.length) service uri
    number service (before ++ [i]) uris

/-- Adds the addresses of one entry. -/
def add (f : Fixed) (entry : String × List String) : Except Error Fixed := do
  let service := hyphenate entry.1
  let before := (Fields.find? service f.services).getD []
  return ⟨Fields.put service (← number service before entry.2) f.services⟩

def ofList (entries : List (String × List String)) : Except Error Fixed :=
  entries.foldlM add empty

def count (f : Fixed) : Nat :=
  (f.services.flatMap (·.2)).length

/-- The instances of a service, in the order listed. -/
def instancesOf (f : Fixed) (service : String) : List Instance :=
  (Fields.find? (hyphenate service) f.services).getD []

end Fixed

end Switchboard.Directory
