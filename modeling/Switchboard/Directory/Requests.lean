import Switchboard.Directory.Roster

namespace Switchboard.Directory.Roster

open Service

inductive Request where
  | register (i : Instance)
  | deregister (id : String)
  | clear
  | instances (service : String)
  | services
  | close
deriving Repr, DecidableEq

inductive Reply where
  | done
  | instances (found : List Instance)
  | services (names : List String)
  | failed (cause : Error)
deriving Repr

def Reply.ofResult {α : Type} (answer : α → Reply) : Except Error α → Reply
  | .ok a => answer a
  | .error cause => .failed cause

/-- The reply to a change and the roster after it. -/
def change (r : Roster) : Except Error Roster → Reply × Roster
  | .ok changed => (.done, changed)
  | .error cause => (.failed cause, r)

def serve (r : Roster) : Request → Reply × Roster
  | .register i => r.change (r.register i)
  | .deregister id => r.change (r.deregister id)
  | .clear => (.done, r.clear)
  | .instances service => (.ofResult .instances (r.instancesOf service), r)
  | .services => (.ofResult .services r.services, r)
  | .close => (.done, r.close)

/-- The replies to requests in a row, and the roster after the last of them. -/
def serveAll (r : Roster) : List Request → List Reply × Roster
  | [] => ([], r)
  | request :: requests =>
    let (reply, r) := r.serve request
    let (replies, r) := serveAll r requests
    (reply :: replies, r)

end Switchboard.Directory.Roster
