import Switchboard.Service.Name
import Switchboard.Tree.Decode
import Switchboard.Url.Reader

namespace Switchboard.Service

open Switchboard.Tree

/-- The health of an instance, as its source reports it. -/
inductive Health where
  | up
  | down
  | outOfService
  | unknown
deriving Repr, DecidableEq

namespace Health

def all : List Health :=
  [.up, .down, .outOfService, .unknown]

def name : Health → String
  | .up => "UP"
  | .down => "DOWN"
  | .outOfService => "OUT_OF_SERVICE"
  | .unknown => "UNKNOWN"

/-- Whether an instance of this health may be called. -/
def isAvailable : Health → Bool
  | .up | .unknown => true
  | _ => false

def ofTree : Tree → Reading Health :=
  readVariant (all.map fun h => (h.name, h))

end Health

/-- Metadata stands in ascending order of its keys. -/
structure Instance where
  id : String
  service : String
  uri : Url
  metadata : List (String × String)
  health : Option Health
deriving Repr, DecidableEq

namespace Instance

/-- A new instance, whose service is put into canonical form. -/
def ofUrl (id service : String) (uri : Url) : Instance :=
  ⟨id, hyphenate service, uri, [], none⟩

def withMetadata (i : Instance) (key value : String) : Instance :=
  { i with metadata := Fields.put key value i.metadata }

def withHealth (i : Instance) (health : Health) : Instance :=
  { i with health := some health }

def host (i : Instance) : Option String :=
  i.uri.host.map Url.Host.text

def port (i : Instance) : Option Nat :=
  i.uri.port

/-- An instance without known health may be called. -/
def isAvailable (i : Instance) : Bool :=
  i.health.all Health.isAvailable

/-- The address to call, without slashes at its end. -/
def address (i : Instance) : String :=
  Text.stripEndChar '/' i.uri.text

def readUrl : Tree → Reading Url
  | .text s => (Url.parse s).mapError (.badUrl · s)
  | t => .error (.wrongType t "a string representing an URL")

def blank : Instance :=
  ⟨"", "", ⟨"", none, .plain "", none, none⟩, [], none⟩

/-- Only the health may be left out. -/
def schema : List (FieldReader Instance) := [
  ⟨"id", .always, fun i t => do return { i with id := ← readText t }⟩,
  ⟨"service_id", .always, fun i t => do return { i with service := ← readText t }⟩,
  ⟨"uri", .always, fun i t => do return { i with uri := ← readUrl t }⟩,
  ⟨"metadata", .always, fun i t => do return { i with metadata := ← readMap readText t }⟩,
  ⟨"health_status", .inList, fun i t => do
    return { i with health := ← readOption Health.ofTree t }⟩]

/-- The service is taken as it is written. -/
def ofTree (t : Tree) : Reading Instance :=
  FieldReader.readStruct "ServiceInstance" schema blank t

def toTree (i : Instance) : Tree :=
  .record [
    ("health_status", match i.health with | some h => .text h.name | none => .null),
    ("id", .text i.id),
    ("metadata", .record (i.metadata.map fun (k, v) => (k, .text v))),
    ("service_id", .text i.service),
    ("uri", .text i.uri.text)]

end Instance

end Switchboard.Service
