import Switchboard.Directory.Backend

namespace Switchboard.Directory

/-- Backends of which each can be used by itself, and the first ones together behind a composite.
What changes a backend in one place changes it everywhere. -/
structure Pool where
  policy : Policy
  backends : List Backend
deriving Repr

/-- A part of a pool: one backend, or the first `count` as a composite. -/
inductive View where
  | one (place : Nat)
  | together (count : Nat)
deriving Repr, DecidableEq

namespace Pool

/-- The view of all backends together. -/
def whole (p : Pool) : View :=
  .together p.backends.length

def push (p : Pool) (b : Backend) : Pool :=
  { p with backends := p.backends ++ [b] }

/-- The backend that a view shows. -/
def at? (p : Pool) : View → Option Backend
  | .one place => p.backends[place]?
  | .together count => some (.composite p.policy (p.backends.take count))

/-- Puts the backend of a view back after it was used. -/
def putBack (p : Pool) : View → Backend → Pool
  | .one place, b => { p with backends := p.backends.set place b }
  | .together count, .composite _ parts =>
    { p with backends := parts ++ p.backends.drop count }
  | .together _, .leaf _ => p

end Pool

end Switchboard.Directory
