import Switchboard.Directory.Lookup
import Switchboard.Distinct
import Switchboard.Service.Error

namespace Switchboard.Directory

open Service

/-- A directory that takes the name of a service for the name of a host, perhaps below a domain.
Every endpoint of the host is an instance. -/
structure Dns where
  domain : Option String
  port : Nat
  scheme : String
  services : List String
deriving Repr, DecidableEq

namespace Dns

def onPort (port : Nat) : Dns :=
  ⟨none, port, "http", []⟩

/-- Dots around a domain do not count, and an empty one is none. -/
def withDomain (d : Dns) (domain : String) : Dns :=
  let stripped := Text.stripChar '.' domain
  { d with domain := if stripped = "" then none else some stripped }

def withScheme (d : Dns) (scheme : String) : Dns :=
  { d with scheme }

/-- The services that the directory lists, since names cannot be listed. -/
def withServices (d : Dns) (services : List String) : Dns :=
  { d with services := services.map hyphenate }

/-- The host that is asked for a service. -/
def hostFor (d : Dns) (service : String) : String :=
  match d.domain with
  | some domain => service ++ "." ++ domain
  | none => service

def instanceAt (d : Dns) (service : String) (e : Endpoint) : Except Error Instance :=
  match Url.parse (d.scheme ++ "://" ++ e.withPort d.port) with
  | .ok url => .ok (.ofUrl (service ++ "-" ++ e.address.text) service url)
  | .error cause => .error (.badAddress (e.withPort d.port) cause)

/-- One instance for every distinct endpoint, in the order of the answer. -/
def instancesAt (d : Dns) (service : String) (endpoints : List Endpoint) :
    Except Error (List Instance) :=
  (distinct [] endpoints).mapM (d.instanceAt service)

/-- A host that does not exist has no instances. -/
def instancesOf (lookup : String → Lookup) (d : Dns) (service : String) :
    Except Error (List Instance) :=
  match lookup (d.hostFor service) with
  | .found endpoints => d.instancesAt service endpoints
  | .unknown => .ok []
  | .failed reason => .error (.lookupFailed (d.hostFor service) reason)

/-- An address stands for itself without asking. -/
def asksNetwork (d : Dns) (service : String) : Bool :=
  (Address.read? (d.hostFor service)).isNone

def describe (d : Dns) : String :=
  match d.domain with
  | some domain => "dns(" ++ domain ++ ")"
  | none => "dns"

end Dns

end Switchboard.Directory
