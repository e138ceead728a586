import Switchboard.Json.Reader

/-!
Taking a structure out of a document. Only the members that are asked for are looked at; each may
come once, and a list may stand for an object with its members in their order.
-/

namespace Switchboard.Json

namespace Document

/-- The members under known names, or the items of a list by position. Every name has to be
readable, no known name may come twice, and a list must not be longer than the names. -/
def members? (names : List String) : Document → Option (List (Option Document))
  | .object members =>
    if members.all (·.1.isSome) && names.all (count members · ≤ 1) then
      some (names.map (find? members))
    else none
  | .list items =>
    if items.length ≤ names.length then
      some (items.map some ++ List.replicate (names.length - items.length) none)
    else none
  | _ => none
where
  count (members : List (Option String × Document)) (name : String) : Nat :=
    members.countP (·.1 = some name)
  find? (members : List (Option String × Document)) (name : String) : Option Document :=
    (members.find? (·.1 = some name)).map (·.2)

def text? : Document → Option String
  | .text s => s
  | _ => none

/-- A whole number from 0 to `most`. -/
def natural? (most : Nat) : Document → Option Nat
  | .number n =>
    match n.toTree? with
    | some (.whole k) => if 0 ≤ k && k ≤ most then some k.toNat else none
    | _ => none
  | _ => none

def items? {α : Type} (read : Document → Option α) : Document → Option (List α)
  | .list items => items.mapM read
  | _ => none

/-- A member that may be null. -/
def nullable? {α : Type} (read : Document → Option α) : Document → Option (Option α)
  | .null => some none
  | d => (read d).map some

/-- The members of an object, by ascending name. Of members with one name the last counts. -/
def entries? {α : Type} (read : Document → Option α) : Document → Option (List (String × α))
  | .object members =>
    (members.mapM readEntry).map Tree.Fields.ofList
  | _ => none
where
  readEntry : Option String × Document → Option (String × α)
    | (some name, d) => (read d).map (name, ·)
    | (none, _) => none

end Document

/-- A member that may be left out. -/
def orElse? {α : Type} (missing : α) (read : Document → Option α) : Option Document → Option α
  | none => some missing
  | some d => read d

end Switchboard.Json
