import Switchboard.Directory.Balancer

namespace Switchboard.Directory.Balancer

open Service

/-- A call for a service: what the directory answers it, and what decides it at random. -/
structure Call where
  service : String
  answer : Except Error (List Instance)
  chance : Nat

/-- A call and its result. -/
structure Turn where
  call : Call
  result : Except Error Instance

def serve (b : Balancer) (call : Call) : Turn × Balancer :=
  let (result, b) := b.resolve call.chance call.service call.answer
  (⟨call, result⟩, b)

/-- Calls in a row, and the balancer as the last of them leaves it. -/
def serveAll (b : Balancer) : List Call → List Turn × Balancer
  | [] => ([], b)
  | call :: calls =>
    let (turn, b) := b.serve call
    let (turns, b) := serveAll b calls
    (turn :: turns, b)

end Switchboard.Directory.Balancer
