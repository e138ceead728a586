import Switchboard.Service.Error
import Switchboard.Tree.Decode

namespace Switchboard.Directory

open Service Switchboard.Tree

inductive Strategy where
  | roundRobin
  | random
  | first
deriving Repr, DecidableEq

namespace Strategy

def all : List Strategy :=
  [.roundRobin, .random, .first]

def name : Strategy → String
  | .roundRobin => "round-robin"
  | .random => "random"
  | .first => "first"

def ofTree : Tree → Reading Strategy :=
  readVariant (all.map fun s => (s.name, s))

/-- The strategy for diagnostics. -/
def inspect : Strategy → String
  | .roundRobin => "RoundRobin"
  | .random => "Random"
  | .first => "First"

end Strategy

/-- A strategy and the number of instances that have been picked in turn. -/
structure Balancer where
  strategy : Strategy
  taken : UInt64
deriving Repr, DecidableEq

namespace Balancer

def of (strategy : Strategy) : Balancer :=
  ⟨strategy, 0⟩

/-- The place that is picked among `count`, and the balancer after it. `chance` decides
at random. -/
def pick (chance count : Nat) (b : Balancer) : Nat × Balancer :=
  match b.strategy with
  | .roundRobin => (b.taken.toNat % count, { b with taken := b.taken + 1 })
  | .random => (chance % count, b)
  | .first => (0, b)

/-- Picks one of the instances that a query answered. Without one that may be called the service is
not found. -/
def resolve (chance : Nat) (service : String) (answer : Except Error (List Instance))
    (b : Balancer) : Except Error Instance × Balancer :=
  match answer with
  | .error e => (.error e, b)
  | .ok instances =>
    let available := instances.filter Instance.isAvailable
    if available.isEmpty then (.error (.notFound service), b)
    else
      let (place, b) := b.pick chance available.length
      match available[place]? with
      | some i => (.ok i, b)
      | none => (.error (.notFound service), b)

/-- A balancer over a backend, for diagnostics. -/
def inspect (b : Balancer) (backend : String) : String :=
  "ServiceResolver \x7b discovery: " ++ Text.quoted backend ++ ", strategy: " ++
    b.strategy.inspect ++ " \x7d"

end Balancer

end Switchboard.Directory
