import Switchboard.Directory.Backend

namespace Switchboard.Directory

open Service

/-- How clients are closed: what one answers, what becomes of it and of all that it shares. -/
abbrev Shut (β σ : Type) := β → σ → Except Error Unit × β × σ

section
variable {β σ : Type} (shut : Shut β σ)

/-- Closes every client, whatever the others answer. The failures stand in the order of the
clients. -/
def closeEach : List β → σ → List Error × List β × σ
  | [], s => ([], [], s)
  | b :: bs, s =>
    let (result, b, s) := shut b s
    let (failures, bs, s) := closeEach bs s
    match result with
    | .ok () => (failures, b :: bs, s)
    | .error e => (e :: failures, b :: bs, s)

/-- The same way to close, which also writes down who was closed and what it answered. -/
def notingShut : Shut β (σ × List (β × Except Error Unit)) := fun b (s, noted) =>
  let (result, b', s) := shut b s
  (result, b', s, noted ++ [(b, result)])

end

/-- Backends share nothing. -/
def Backend.shut : Shut Backend Unit := fun b s =>
  let (result, b) := b.close
  (result, b, s)

end Switchboard.Directory
