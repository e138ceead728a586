import Switchboard.Text.Percent
import Switchboard.Url.Address

namespace Switchboard.Directory

open Text

/-- Where a host is reached. An IPv6 address comes with a label for the flow, and with the zone in
which it is meant if it is not meant everywhere; 0 is no zone. -/
inductive Endpoint where
  | v4 (value : Nat)
  | v6 (groups : List Nat) (flow zone : Nat)
deriving Repr, DecidableEq

namespace Endpoint

def of : Address → Endpoint
  | .v4 n => .v4 n
  | .v6 gs => .v6 gs 0 0

def address : Endpoint → Address
  | .v4 n => .v4 n
  | .v6 gs _ _ => .v6 gs

/-- The address, its zone if there is one, and a port. -/
def withPort (port : Nat) : Endpoint → String
  | .v4 n => (Address.v4 n).withPort port
  | .v6 gs _ zone =>
    if zone = 0 then (Address.v6 gs).withPort port
    else "[" ++ (Address.v6 gs).text ++ "%" ++ toString zone ++ "]:" ++ toString port

end Endpoint

/-- What is known about a host: where it is reached, that it does not exist, or why nothing is
known. -/
inductive Lookup where
  | found (endpoints : List Endpoint)
  | unknown
  | failed (reason : String)
deriving Repr, DecidableEq

namespace Lookup

/-- Whether a label of a name may exist. -/
def isLabel (label : String) : Bool :=
  label ≠ "" && (Percent.bytes label).length ≤ 63

def isName (host : String) : Bool :=
  (Percent.bytes host).length ≤ 255 && (split '.' host).all isLabel

/-- Looks a host up; only names that may exist are asked for. -/
def of (ask : String → Lookup) (host : String) : Lookup :=
  match Address.read? host with
  | some a => .found [.of a]
  | none =>
    if host.toList.contains '\x00' then .failed "file name contained an unexpected NUL byte"
    else if isName host then ask host
    else .unknown

end Lookup

end Switchboard.Directory
