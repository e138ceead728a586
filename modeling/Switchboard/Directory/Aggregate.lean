import Switchboard.Service.Error
import Switchboard.Tree.Decode

/-!
Asking several backends at once. The answers arrive in any order and are put together in the order
of the backends.
-/

namespace Switchboard.Directory

open Service Switchboard.Tree

/-- What a failing backend means for the whole query: the query fails, or the backend is
left out. -/
inductive Policy where
  | strict
  | bestEffort
deriving Repr, DecidableEq

namespace Policy

def all : List Policy :=
  [.strict, .bestEffort]

def name : Policy → String
  | .strict => "strict"
  | .bestEffort => "best-effort"

def ofTree : Tree → Reading Policy :=
  readVariant (all.map fun p => (p.name, p))

/-- The policy for diagnostics. -/
def inspect : Policy → String
  | .strict => "Strict"
  | .bestEffort => "BestEffort"

end Policy

/-- How the query of one backend ends. -/
inductive Ending (α : Type) where
  | answer (items : List α)
  | failure (cause : Error)
  | panic
deriving Repr

namespace Ending

variable {α : Type}

def ofResult : Except Error (List α) → Ending α
  | .ok items => .answer items
  | .error cause => .failure cause

def result : Ending α → Except Error (List α)
  | .answer items => .ok items
  | .failure cause => .error cause
  | .panic => .error .panicked

end Ending

/-- Takes in endings in the order in which they arrive, each with the place of its backend. `slots`
holds what the backends have answered, and `names` tells which of them failed. Under the strict
policy the first failure to arrive is the result. -/
def collect {α : Type} (policy : Policy) (names : List String) :
    List (Option (List α)) → List (Nat × Ending α) → Except Error (List α)
  | slots, [] => .ok (slots.filterMap id).flatten
  | slots, (place, ending) :: rest =>
    match ending.result, policy with
    | .ok items, _ => collect policy names (slots.set place (some items)) rest
    | .error _, .bestEffort => collect policy names slots rest
    | .error cause, .strict => .error (.backend (names[place]?.getD "") cause)

/-- When an ending arrives: after how many turns of the other backends, and at which depth below the
query in that turn. -/
structure Arrival where
  turn : Nat
  depth : Nat
deriving Repr, DecidableEq

namespace Arrival

/-- Without waiting. -/
def first : Arrival := ⟨0, 0⟩

/-- Over the network, when no other backend still has turns to take. -/
def remote : Arrival := ⟨Nat.pow 2 64, 0⟩

def le (a b : Arrival) : Bool :=
  a.turn < b.turn || (a.turn = b.turn && a.depth ≤ b.depth)

def max (a b : Arrival) : Arrival :=
  if a.le b then b else a

/-- The arrival of what a deeper query passes on. -/
def passedOn (a : Arrival) : Arrival :=
  ⟨a.turn, a.depth + 1⟩

end Arrival

/-- An ending and its arrival. -/
structure Outcome (α : Type) where
  ending : Ending α
  arrival : Arrival
deriving Repr

namespace Outcome

variable {α : Type}

/-- An outcome without waiting. -/
def now (result : Except Error (List α)) : Outcome α :=
  ⟨.ofResult result, .first⟩

/-- An outcome that waits for the network, if it is asked. -/
def overNetwork (asked : Bool) (result : Except Error (List α)) : Outcome α :=
  ⟨.ofResult result, if asked then .remote else .first⟩

def result (o : Outcome α) : Except Error (List α) :=
  o.ending.result

def fails (o : Outcome α) : Bool :=
  match o.result with
  | .ok _ => false
  | .error _ => true

end Outcome

/-- The order in which the queries of several backends end, as their places. It may depend on when
each would arrive and on a state. Every query ends once. -/
structure Schedule (σ : Type) where
  order : List Arrival → σ → List Nat × σ
  complete : ∀ arrivals s, (order arrivals s).1.Perm (List.range arrivals.length)

namespace Schedule

/-- By arrival; what arrives together ends in the order of the backends. -/
def byArrival {σ : Type} : Schedule σ where
  order arrivals s :=
    ((List.range arrivals.length).mergeSort fun a b =>
      (arrivals.getD a .first).le (arrivals.getD b .first), s)
  complete _ _ := List.mergeSort_perm _ _

end Schedule

/-- The outcomes of backends in an order of their places, each with its place. -/
def ended {α : Type} (outcomes : List (Outcome α)) (order : List Nat) : List (Nat × Outcome α) :=
  order.filterMap fun place => outcomes[place]?.map (place, ·)

/-- When the whole query ends: with the failure that decides it, or with the last answer. -/
def lastArrival {α : Type} (policy : Policy) (arrived : List (Nat × Outcome α)) : Arrival :=
  match policy, arrived.find? (·.2.fails) with
  | .strict, some (_, o) => o.arrival
  | _, _ => (arrived.map (·.2.arrival)).foldl Arrival.max .first

/-- The outcome of a query to several backends, whose queries end in this order. -/
def gather {α : Type} (policy : Policy) (names : List String) (outcomes : List (Outcome α))
    (order : List Nat) : Outcome α :=
  let arrived := ended outcomes order
  ⟨.ofResult (collect policy names (outcomes.map fun _ => none)
      (arrived.map fun (place, o) => (place, o.ending))),
    (lastArrival policy arrived).passedOn⟩

end Switchboard.Directory
