import Switchboard.Directory.Aggregate
import Switchboard.Directory.Consul
import Switchboard.Directory.Dns
import Switchboard.Directory.Fixed
import Switchboard.Directory.Metadata
import Switchboard.Directory.Roster

/-!
Backends: single directories, and composites that ask all their parts. A query may change a backend,
which is therefore returned with the outcome.
-/

namespace Switchboard.Directory

open Service

/-- What lies outside: the names of hosts, the web, and the order in which queries end that run at
the same time. -/
structure Network (σ : Type) where
  lookup : String → Lookup
  wire : Http.Wire σ
  schedule : Schedule σ := .byArrival

/-- A directory whose answers are laid down in advance. It lets others take `delay` turns first;
then it panics, fails or answers. -/
structure Scripted where
  name : String
  instances : List Instance
  services : List String
  failure : Option String
  closeFailure : Option String
  panics : Bool
  delay : Nat
deriving Repr, DecidableEq

namespace Scripted

def outcome {α : Type} (s : Scripted) (items : List α) : Outcome α :=
  ⟨if s.panics then .panic
    else match s.failure with
      | some reason => .failure (.failed reason)
      | none => .answer items,
    ⟨s.delay, 0⟩⟩

end Scripted

/-- A single directory. -/
inductive Leaf where
  | roster (r : Roster)
  | fixed (f : Fixed)
  | dns (d : Dns)
  | metadata (m : Metadata)
  | consul (c : Consul)
  | scripted (s : Scripted)
deriving Repr

namespace Leaf

variable {σ : Type} (net : Network σ)

/-- The instances of a service. -/
def instancesOf (service : String) : Leaf → σ → Outcome Instance × Leaf × σ
  | .roster r, s => (.now (r.instancesOf service), .roster r, s)
  | .fixed f, s => (.now (.ok (f.instancesOf service)), .fixed f, s)
  | .dns d, s =>
    (.overNetwork (d.asksNetwork service) (d.instancesOf net.lookup service), .dns d, s)
  | .metadata m, s =>
    let (result, m', s) := m.instancesOf net.wire service s
    (.overNetwork (m.asksNetwork service) result, .metadata m', s)
  | .consul c, s =>
    let (result, s) := c.instancesOf net.wire service s
    (.overNetwork c.asksNetwork result, .consul c, s)
  | .scripted d, s => (d.outcome (d.instances.filter (·.service = service)), .scripted d, s)

/-- The services that the directory knows. -/
def services : Leaf → σ → Outcome String × Leaf × σ
  | .roster r, s => (.now r.services, .roster r, s)
  | .fixed f, s => (.now (.ok (f.services.map (·.1))), .fixed f, s)
  | .dns d, s => (.now (.ok d.services), .dns d, s)
  | .metadata m, s => (.now (.ok [m.service]), .metadata m, s)
  | .consul c, s =>
    let (result, s) := c.services net.wire s
    (.overNetwork c.asksNetwork result, .consul c, s)
  | .scripted d, s => (d.outcome d.services, .scripted d, s)

/-- Only a roster is changed by closing it. -/
def close : Leaf → Except Error Unit × Leaf
  | .roster r => (.ok (), .roster r.close)
  | .scripted d =>
    (match d.closeFailure with
      | some reason => .error (.failed reason)
      | none => .ok (), .scripted d)
  | l => (.ok (), l)

def describe : Leaf → String
  | .roster r => r.name
  | .fixed _ => "static"
  | .dns d => d.describe
  | .metadata _ => "cloudMetadata"
  | .consul c => c.describe
  | .scripted d => d.name

end Leaf

/-- A single directory, or several behind one. -/
inductive Backend where
  | leaf (l : Leaf)
  | composite (policy : Policy) (parts : List Backend)
deriving Repr

namespace Backend

mutual

def describe : Backend → String
  | .leaf l => l.describe
  | .composite _ parts =>
    "compositeDiscoveryClient(" ++ Text.join "," (describeAll parts) ++ ")"

def describeAll : List Backend → List String
  | [] => []
  | b :: bs => b.describe :: describeAll bs

end

mutual

/-- Asks every directory of a backend. `enter` is applied to the question by every composite. -/
def query {α β σ : Type} (schedule : Schedule σ) (enter : β → β)
    (ask : β → Leaf → σ → Outcome α × Leaf × σ) (question : β) :
    Backend → σ → Outcome α × Backend × σ
  | .leaf l, s =>
    let (outcome, l, s) := ask question l s
    (outcome, .leaf l, s)
  | .composite policy parts, s =>
    let (outcomes, parts', s) := queryAll schedule enter ask (enter question) parts s
    let (order, s) := schedule.order (outcomes.map (·.arrival)) s
    (gather policy (describeAll parts) outcomes order, .composite policy parts', s)

def queryAll {α β σ : Type} (schedule : Schedule σ) (enter : β → β)
    (ask : β → Leaf → σ → Outcome α × Leaf × σ) (question : β) :
    List Backend → σ → List (Outcome α) × List Backend × σ
  | [], s => ([], [], s)
  | b :: bs, s =>
    let (outcome, b, s) := query schedule enter ask question b s
    let (outcomes, bs, s) := queryAll schedule enter ask question bs s
    (outcome :: outcomes, b :: bs, s)

end

/-- The instances of a service. A composite puts the name into canonical form. -/
def instancesOf {σ : Type} (net : Network σ) (service : String) (b : Backend) (s : σ) :
    Outcome Instance × Backend × σ :=
  query net.schedule hyphenate (Leaf.instancesOf net) service b s

/-- The services that a backend knows; those of several parts may repeat. -/
def services {σ : Type} (net : Network σ) (b : Backend) (s : σ) : Outcome String × Backend × σ :=
  query net.schedule id (fun _ => Leaf.services net) () b s

/-- Whether all closed, or else the first failure and the number of failures. -/
def closing : List Error → Except Error Unit
  | [] => .ok ()
  | first :: rest => .error (.close first (rest.length + 1))

mutual

/-- Closes every directory, whatever the others answer. -/
def close : Backend → Except Error Unit × Backend
  | .leaf l =>
    let (result, l) := l.close
    (result, .leaf l)
  | .composite policy parts =>
    let (failures, parts) := closeAll parts
    (closing failures, .composite policy parts)

/-- The failures, in the order of the backends. -/
def closeAll : List Backend → List Error × List Backend
  | [] => ([], [])
  | b :: bs =>
    let (result, b) := close b
    let (failures, bs) := closeAll bs
    match result with
    | .ok () => (failures, b :: bs)
    | .error e => (e :: failures, b :: bs)

end

/-- A composite for diagnostics. -/
def inspect (policy : Policy) (parts : List Backend) : String :=
  "CompositeDiscovery \x7b backends: " ++ Text.quoted (describe (.composite policy parts)) ++
    ", policy: " ++ policy.inspect ++ " \x7d"

end Backend

end Switchboard.Directory
