import Switchboard.Json.Pick
import Switchboard.Service.Error

namespace Switchboard.Directory

open Service Http Json

/-- A directory that a Consul agent keeps. -/
structure Consul where
  base : String
  scheme : String
  passingOnly : Bool
deriving Repr, DecidableEq

namespace Consul

/-- A check that the agent runs. -/
structure Check where
  id : String
  status : String
deriving Repr, DecidableEq

/-- What the agent says about an instance. `node` is the address of the machine it runs on. -/
structure Entry where
  node : Option String
  id : String
  service : String
  address : String
  port : Nat
  tags : List String
  metadata : List (String × String)
  checks : List Check
deriving Repr, DecidableEq

def check? (d : Document) : Option Check :=
  match d.members? ["CheckID", "Status"] with
  | some [id, some status] => do
    return ⟨← orElse? "" Document.text? id, ← status.text?⟩
  | _ => none

def node? (d : Document) : Option String :=
  match d.members? ["Address"] with
  | some [address] => orElse? "" Document.text? address
  | _ => none

/-- The part of an entry that describes the instance itself. -/
def detail? (node : Option String) (checks : List Check) (d : Document) : Option Entry :=
  match d.members? ["ID", "Service", "Address", "Port", "Tags", "Meta"] with
  | some [some id, some service, address, some port, tags, metadata] => do
    let tags ← orElse? none (Document.nullable? (Document.items? Document.text?)) tags
    let metadata ← orElse? none (Document.nullable? (Document.entries? Document.text?)) metadata
    return ⟨node, ← id.text?, ← service.text?, ← orElse? "" Document.text? address,
      ← port.natural? 65535, tags.getD [], metadata.getD [], checks⟩
  | _ => none

def entry? (d : Document) : Option Entry :=
  match d.members? ["Node", "Service", "Checks"] with
  | some [node, some service, checks] => do
    let node ← orElse? none (Document.nullable? node?) node
    let checks ← orElse? [] (Document.items? check?) checks
    detail? node checks service
  | _ => none

def entries? (body : String) : Option (List Entry) :=
  (read? body).bind (Document.items? entry?)

/-- The services that a listing names, ascending. -/
def listed? (body : String) : Option (List String) :=
  ((read? body).bind (Document.entries? (Document.items? Document.text?))).map (·.map (·.1))

def startsWith (lead s : String) : Bool :=
  (Text.after? lead s).isSome

/-- Maintenance counts before critical checks; without checks nothing is known. -/
def healthOf (checks : List Check) : Health :=
  if checks.isEmpty then .unknown
  else if checks.any fun c =>
      startsWith "_service_maintenance" c.id || startsWith "_node_maintenance" c.id then
    .outOfService
  else if checks.any (·.status = "critical") then .down
  else .up

/-- An agent at an address, without the slashes at its end. -/
def atUrl (base : String) : Except Error Consul :=
  match Url.parse base with
  | .ok _ => .ok ⟨Text.stripEndChar '/' base, "http", false⟩
  | .error cause => .error (.badConsulUrl base cause)

def withScheme (c : Consul) (scheme : String) : Consul :=
  { c with scheme }

/-- Whether only instances are asked for whose checks pass. -/
def withPassingOnly (c : Consul) (passingOnly : Bool) : Consul :=
  { c with passingOnly }

def healthUrl (c : Consul) (service : String) : String :=
  c.base ++ "/v1/health/service/" ++ service ++ if c.passingOnly then "?passing" else ""

def registerUrl (c : Consul) : String :=
  c.base ++ "/v1/agent/service/register"

def deregisterUrl (c : Consul) (id : String) : String :=
  c.base ++ "/v1/agent/service/deregister/" ++ id

def servicesUrl (c : Consul) : String :=
  c.base ++ "/v1/catalog/services"

/-- The host of an entry: its own address, or else that of its machine. -/
def Entry.host (e : Entry) : String :=
  let address := if e.address = "" then e.node.getD "" else e.address
  if address.toList.contains ':' then "[" ++ address ++ "]" else address

def Entry.uri (e : Entry) (scheme : String) : String :=
  scheme ++ "://" ++ e.host ++ ":" ++ toString e.port

/-- Tags become a metadata entry of their own. -/
def Entry.details (e : Entry) : List (String × String) :=
  if e.tags.isEmpty then e.metadata
  else Tree.Fields.put "tags" (Text.join "," e.tags) e.metadata

def toInstance (c : Consul) (e : Entry) : Except Error Instance :=
  match Url.parse (e.uri c.scheme) with
  | .ok url =>
    .ok { Instance.ofUrl e.id e.service url with
      metadata := e.details, health := some (healthOf e.checks) }
  | .error _ => .error (.unusableAddress (e.uri c.scheme))

/-- What is sent to register an instance. -/
def payload (i : Instance) : Tree :=
  .record [
    ("Address", match i.host with | some h => .text h | none => .null),
    ("ID", .text i.id),
    ("Meta", .record (i.metadata.map fun (k, v) => (k, .text v))),
    ("Name", .text i.service),
    ("Port", match i.port with | some p => .whole p | none => .null)]

/-- The instances that an answer lists. An unknown service is answered as not found. -/
def instancesIn (c : Consul) (answer : Except ExchangeError Answer) :
    Except Error (List Instance) := do
  let answer ← answer.mapError .exchange
  if answer.status = 404 then return []
  let answer ← answer.checked.mapError .exchange
  match entries? answer.body with
  | some entries => entries.mapM c.toInstance
  | none => .error (.exchange .badBody)

def servicesIn (answer : Except ExchangeError Answer) : Except Error (List String) := do
  let answer ← answer.mapError .exchange
  if !Status.isSuccess answer.status then throw (.notListed answer.status)
  match listed? answer.body with
  | some ids => return ids
  | none => .error (.exchange .badBody)

/-- Whether the agent did as it was told; `refused` makes an error of its answer. -/
def accepted (refused : String → Error) (answer : Except ExchangeError Answer) :
    Except Error Unit := do
  let answer ← answer.mapError .exchange
  if Status.isSuccess answer.status then return () else .error (refused answer.body)

section

variable {σ : Type} (wire : Wire σ) (c : Consul)

def instancesOf (service : String) (s : σ) : Except Error (List Instance) × σ :=
  let (answer, s) := send wire .get (c.healthUrl (hyphenate service)) none s
  (c.instancesIn answer, s)

def services (s : σ) : Except Error (List String) × σ :=
  let (answer, s) := send wire .get c.servicesUrl none s
  (servicesIn answer, s)

def register (i : Instance) (s : σ) : Except Error Unit × σ :=
  let (answer, s) := send wire .put c.registerUrl (some (payload i)) s
  (accepted .notRegistered answer, s)

def deregister (id : String) (s : σ) : Except Error Unit × σ :=
  let (answer, s) := send wire .put (c.deregisterUrl id) none s
  (accepted .notDeregistered answer, s)

end

/-- Whether queries reach the agent. -/
def asksNetwork (c : Consul) : Bool :=
  isCallable c.servicesUrl

def describe (c : Consul) : String :=
  "consul(" ++ c.base ++ ")"

end Consul

end Switchboard.Directory
