import Switchboard.Json.Pick
import Switchboard.Json.Printer
import Switchboard.Service.Error

namespace Switchboard.Directory

open Service Json

/-- The addresses of a network interface. -/
structure Interface where
  ipv4 : Option String
  ipv6 : Option String
deriving Repr, DecidableEq

/-- The document that describes a machine in the cloud, as far as it is used. -/
structure Droplet where
  id : Option Tree
  hostname : Option String
  region : Option String
  vendorData : Option String
  userData : Option String
  publicInterfaces : List Interface
  privateInterfaces : List Interface
deriving Repr

namespace Droplet

def address? (d : Document) : Option (Option String) :=
  match d.members? ["ip_address"] with
  | some [ip] => orElse? none (Document.nullable? Document.text?) ip
  | _ => none

def interface? (d : Document) : Option Interface :=
  match d.members? ["ipv4", "ipv6"] with
  | some [v4, v6] => do
    let v4 ← orElse? none (Document.nullable? address?) v4
    let v6 ← orElse? none (Document.nullable? address?) v6
    return ⟨v4.join, v6.join⟩
  | _ => none

def interfaces? (d : Document) : Option (List Interface × List Interface) :=
  match d.members? ["public", "private"] with
  | some [outer, inner] => do
    let outer ← orElse? [] (Document.items? interface?) outer
    let inner ← orElse? [] (Document.items? interface?) inner
    return (outer, inner)
  | _ => none

def ofDocument? (d : Document) : Option Droplet :=
  match d.members? ["droplet_id", "hostname", "region", "vendor_data", "user_data",
      "interfaces"] with
  | some [id, hostname, region, vendorData, userData, interfaces] => do
    let text := orElse? none (Document.nullable? Document.text?)
    let id ← orElse? none (Document.nullable? (toTree? (depthLimit - 1))) id
    let hostname ← text hostname
    let region ← text region
    let vendorData ← text vendorData
    let userData ← text userData
    let (outer, inner) ← orElse? ([], []) interfaces? interfaces
    return ⟨id, hostname, region, vendorData, userData, outer, inner⟩
  | _ => none

def parse (s : String) : Except Error Droplet :=
  match (read? s).bind ofDocument? with
  | some d => .ok d
  | none => .error .malformedMetadata

/-- The id as text; anything but a text is written as JSON. -/
def idText (d : Droplet) : Option String :=
  d.id.bind fun
    | .text s => some s
    | .null => none
    | t => some (print t)

/-- The address that the first interface has, unless it is empty. -/
def firstAddress (pick : Interface → Option String) (interfaces : List Interface) :
    Option String :=
  (interfaces.head?.bind pick).filter (· ≠ "")

def publicIpv4 (d : Droplet) : Option String :=
  firstAddress (·.ipv4) d.publicInterfaces

def privateIpv4 (d : Droplet) : Option String :=
  firstAddress (·.ipv4) d.privateInterfaces

def publicIpv6 (d : Droplet) : Option String :=
  firstAddress (·.ipv6) d.publicInterfaces

def privateIpv6 (d : Droplet) : Option String :=
  firstAddress (·.ipv6) d.privateInterfaces

/-- What the metadata of the instance says, under its key. -/
def details (d : Droplet) : List (String × Option String) := [
  ("instance-id", d.idText),
  ("name", d.hostname),
  ("region", d.region),
  ("private-ipv4", d.privateIpv4),
  ("public-ipv4", d.publicIpv4),
  ("private-ipv6", d.privateIpv6),
  ("public-ipv6", d.publicIpv6),
  ("user-data", d.userData),
  ("vendor-data", d.vendorData)]

/-- The address of the machine, the public one before the private one. -/
def ipv4 (d : Droplet) : Option String :=
  d.publicIpv4.or d.privateIpv4

/-- The details that are present and not empty. -/
def present (d : Droplet) : List (String × String) :=
  d.details.filterMap fun (key, value) => (value.filter (· ≠ "")).map (key, ·)

/-- The instance of a service that the machine is. It is named by its id, by its host name, or else
by its address. -/
def toInstance (d : Droplet) (service scheme : String) (port : Nat) : Except Error Instance :=
  match d.ipv4 with
  | none => .error .noAddress
  | some ip =>
    let id := (d.idText.or d.hostname).getD ip
    (Instance.ofText id service (scheme ++ "://" ++ ip ++ ":" ++ toString port)).map fun i =>
      d.present.foldl (fun i (key, value) => i.withMetadata key value) i

end Droplet

end Switchboard.Directory
