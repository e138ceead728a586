import Switchboard.Config.Check
import Switchboard.Directory.Backend

namespace Switchboard.Directory

open Service Config Switchboard.Tree

structure DnsSettings where
  domain : Option String
  port : Nat
  scheme : String
  services : List String
deriving Repr, DecidableEq

structure MetadataSettings where
  service : String
  url : String
  port : Nat
  scheme : String
deriving Repr, DecidableEq

structure ConsulSettings where
  url : String
  passingOnly : Bool
deriving Repr, DecidableEq

/-- The settings of one backend. Services with fixed addresses stand in ascending order. -/
inductive BackendSettings where
  | fixed (services : List (String × List String))
  | dns (settings : DnsSettings)
  | metadata (settings : MetadataSettings)
  | consul (settings : ConsulSettings)
deriving Repr, DecidableEq

def standardPort : Nat := 80

def standardScheme : String := "http"

namespace DnsSettings

def standard : DnsSettings :=
  ⟨none, standardPort, standardScheme, []⟩

def schema : List (FieldReader DnsSettings) := [
  ⟨"domain", .never, fun s t => do return { s with domain := ← readOption readText t }⟩,
  ⟨"port", .never, fun s t => do return { s with port := ← readPort t }⟩,
  ⟨"scheme", .never, fun s t => do return { s with scheme := ← readText t }⟩,
  ⟨"services", .never, fun s t => do return { s with services := ← readTexts t }⟩]

def toFields (s : DnsSettings) : List (String × Tree) := [
  ("domain", match s.domain with | some d => .text d | none => .null),
  ("port", .whole s.port),
  ("scheme", .text s.scheme),
  ("services", .list (s.services.map .text))]

def check (s : DnsSettings) : Check.Verdict := do
  Check.port s.port "discovery.backends.port"
  Check.notBlank s.scheme "discovery.backends.scheme"

def build (s : DnsSettings) : Dns :=
  let d := ((Dns.onPort s.port).withScheme s.scheme).withServices s.services
  match s.domain with
  | some domain => d.withDomain domain
  | none => d

end DnsSettings

namespace MetadataSettings

def standard : MetadataSettings :=
  ⟨"", Metadata.defaultUrl, standardPort, standardScheme⟩

def schema : List (FieldReader MetadataSettings) := [
  ⟨"service-id", .always, fun s t => do return { s with service := ← readText t }⟩,
  ⟨"url", .never, fun s t => do return { s with url := ← readText t }⟩,
  ⟨"port", .never, fun s t => do return { s with port := ← readPort t }⟩,
  ⟨"scheme", .never, fun s t => do return { s with scheme := ← readText t }⟩]

def toFields (s : MetadataSettings) : List (String × Tree) := [
  ("port", .whole s.port),
  ("scheme", .text s.scheme),
  ("service-id", .text s.service),
  ("url", .text s.url)]

def check (s : MetadataSettings) : Check.Verdict := do
  Check.notBlank s.service "discovery.backends.service-id"
  Check.webUrl s.url "discovery.backends.url"
  Check.port s.port "discovery.backends.port"
  Check.notBlank s.scheme "discovery.backends.scheme"

def build (s : MetadataSettings) : Metadata :=
  (Metadata.forService s.service s.url s.port).withScheme s.scheme

end MetadataSettings

namespace ConsulSettings

def standard : ConsulSettings :=
  ⟨"", false⟩

def schema : List (FieldReader ConsulSettings) := [
  ⟨"url", .always, fun s t => do return { s with url := ← readText t }⟩,
  ⟨"passing-only", .never, fun s t => do return { s with passingOnly := ← readBool t }⟩]

def toFields (s : ConsulSettings) : List (String × Tree) := [
  ("passing-only", .bool s.passingOnly),
  ("url", .text s.url)]

def check (s : ConsulSettings) : Check.Verdict :=
  Check.webUrl s.url "discovery.backends.url"

def build (s : ConsulSettings) : Except Service.Error Consul :=
  (Consul.atUrl s.url).map (·.withPassingOnly s.passingOnly)

end ConsulSettings

/-- Services and the addresses of their instances. -/
abbrev FixedServices := List (String × List String)

namespace FixedServices

def schema : List (FieldReader FixedServices) := [
  ⟨"services", .never, fun _ t => readMap (readList readText) t⟩]

def toFields (services : FixedServices) : List (String × Tree) := [
  ("services", .record (services.map fun (name, uris) => (name, .list (uris.map .text))))]

def checkUri (service uri : String) : Check.Verdict :=
  match Url.parse uri with
  | .ok _ => .ok ()
  | .error _ => Check.fail "discovery.backends.services" (.notUri uri service)

def check (services : FixedServices) : Check.Verdict :=
  Check.each (fun (service, uris) => do
    Check.notBlank service "discovery.backends.services"
    Check.each (checkUri service) uris) services

end FixedServices

/-- What remains of a record or a list once the kind of backend is taken out of it. -/
inductive Remainder where
  | entries (fields : List (String × Tree))
  | items (values : List Tree)

namespace BackendSettings

def kinds : List String :=
  ["static", "dns", "cloud-metadata", "consul"]

def kind : BackendSettings → String
  | .fixed _ => "static"
  | .dns _ => "dns"
  | .metadata _ => "cloud-metadata"
  | .consul _ => "consul"

def typeName : String := "BackendConfig"

/-- The name of the entry that holds the kind. -/
def tagName : String := "type"

/-- Reads the fields of one kind of backend. A list must hold no more than these. -/
def readFields {α : Type} (name : String) (fields : List (FieldReader α)) (draft : α) :
    Remainder → Reading α
  | .entries entries => FieldReader.readRecord fields draft entries
  | .items items => do
    let wanted := "struct variant " ++ typeName ++ "::" ++ name ++ " with " ++
      FieldReader.elements fields.length
    let (result, rest) ← FieldReader.readPositions wanted 0 fields draft items
    if rest.isEmpty then return result
    else
      .error (.wrongLength items.length
        (FieldReader.elements (items.length - rest.length) ++ " in sequence"))

def readKind (tag : Tree) (content : Remainder) : Reading BackendSettings :=
  match tag with
  | .text "static" => do
    return .fixed (← readFields "Static" FixedServices.schema [] content)
  | .text "dns" => do
    return .dns (← readFields "Dns" DnsSettings.schema .standard content)
  | .text "cloud-metadata" => do
    return .metadata (← readFields "CloudMetadata" MetadataSettings.schema .standard content)
  | .text "consul" => do
    return .consul (← readFields "Consul" ConsulSettings.schema .standard content)
  | .text other => .error (.unknownVariant other kinds)
  | t => .error (.wrongType t "variant identifier")

/-- The kind stands under its own name in a record and first in a list. -/
def ofTree : Tree → Reading BackendSettings
  | .record entries =>
    match Fields.find? tagName entries with
    | some tag => readKind tag (.entries (entries.filter (·.1 ≠ tagName)))
    | none => .error (.missing tagName)
  | .list (tag :: items) => readKind tag (.items items)
  | .list [] => .error (.missing tagName)
  | t => .error (.wrongType t ("internally tagged enum " ++ typeName))

def fields : BackendSettings → List (String × Tree)
  | .fixed services => FixedServices.toFields services
  | .dns s => s.toFields
  | .metadata s => s.toFields
  | .consul s => s.toFields

def toTree (b : BackendSettings) : Tree :=
  .record (Fields.put tagName (.text b.kind) b.fields)

def check : BackendSettings → Check.Verdict
  | .fixed services => FixedServices.check services
  | .dns s => s.check
  | .metadata s => s.check
  | .consul s => s.check

def build : BackendSettings → Except Service.Error Leaf
  | .fixed services => (Fixed.ofList services).map .fixed
  | .dns s => .ok (.dns s.build)
  | .metadata s => .ok (.metadata s.build)
  | .consul s => s.build.map .consul

end BackendSettings

/-- The `discovery` section. -/
structure Settings where
  policy : Policy
  backends : List BackendSettings
deriving Repr, DecidableEq

namespace Settings

def standard : Settings :=
  ⟨.strict, []⟩

def schema : List (FieldReader Settings) := [
  ⟨"policy", .never, fun s t => do return { s with policy := ← Policy.ofTree t }⟩,
  ⟨"backends", .never, fun s t => do
    return { s with backends := ← readList BackendSettings.ofTree t }⟩]

def ofTree (t : Tree) : Reading Settings :=
  FieldReader.readStruct "DiscoveryConfig" schema standard t

def toTree (s : Settings) : Tree :=
  .record [
    ("backends", .list (s.backends.map BackendSettings.toTree)),
    ("policy", .text s.policy.name)]

def check (s : Settings) : Check.Verdict :=
  Check.each BackendSettings.check s.backends

/-- The backend that settings describe; a failure names their kind. -/
def buildBackend (b : BackendSettings) : Except Service.Error Backend :=
  (b.build.mapError (.unbuildable b.kind)).map .leaf

/-- Checks all settings and builds every backend, in order. -/
def build (s : Settings) : Except Service.Error (List Backend) := do
  s.check.mapError .rejected
  s.backends.mapM buildBackend

end Settings

end Switchboard.Directory
