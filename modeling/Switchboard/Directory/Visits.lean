import Switchboard.Directory.Metadata

namespace Switchboard.Directory.Metadata

open Service Http

/-- A request that was sent, with its reply. -/
structure Exchange where
  call : Call
  reply : Reply

/-- What the sender of a request receives. -/
def Exchange.received (e : Exchange) : Except ExchangeError Answer :=
  match e.reply with
  | .dropped => .error (.noReply e.call.url.text)
  | .answer status body => .ok ⟨status, body, e.call.url.text⟩

/-- A query for a service, with all that went over the wire for it and its result. -/
structure Visit where
  service : String
  exchanges : List Exchange
  result : Except Error (List Instance)

section
variable {σ : Type} (wire : Wire σ)

/-- The same wire, which also writes down what goes over it. -/
def noting : Wire (σ × List Exchange) := fun call (s, noted) =>
  let (reply, s) := wire call s
  (reply, s, noted ++ [⟨call, reply⟩])

def visit (m : Metadata) (service : String) (s : σ) : Visit × Metadata × σ :=
  let (result, m, s, noted) := m.instancesOf (noting wire) service (s, [])
  (⟨service, noted, result⟩, m, s)

/-- Queries in a row, with the directory as the last of them leaves it. -/
def visitAll (m : Metadata) : List String → σ → List Visit × Metadata × σ
  | [], s => ([], m, s)
  | service :: services, s =>
    let (v, m, s) := m.visit wire service s
    let (visits, m, s) := visitAll m services s
    (v :: visits, m, s)

end

end Switchboard.Directory.Metadata
