import Switchboard.Number.Binary
import Switchboard.Number.Integer
import Switchboard.Tree.Fields

namespace Switchboard

open Number

/-- A configuration value. Whole numbers lie between -2^63 and 2^64 - 1; every other number is a
binary64 number. The entries of a record stand in ascending order of their names, each name once. -/
inductive Tree where
  | null
  | bool (value : Bool)
  | whole (value : Int)
  | real (value : Binary64)
  | text (value : String)
  | list (items : List Tree)
  | record (fields : List (String × Tree))
deriving Repr, Inhabited

namespace Tree

def empty : Tree :=
  .record []

def isRecord : Tree → Bool
  | .record _ => true
  | _ => false

/-- The entries of a record; any other value has none. -/
def fields : Tree → List (String × Tree)
  | .record fs => fs
  | _ => []

/-- The value at a path of names. -/
def at? : List String → Tree → Option Tree
  | [], t => some t
  | name :: path, t => (Fields.find? name t.fields).bind (at? path)

/-- Writes `value` at a path. Missing records on the way are created and values of another kind give
way to records. The empty path writes nothing. -/
def insertAt (value : Tree) : List String → Tree → Tree
  | [], t => t
  | [name], t => .record (Fields.put name value t.fields)
  | name :: path, t =>
    let inner := (Fields.find? name t.fields).getD empty
    .record (Fields.put name (insertAt value path inner) t.fields)

mutual

/-- Lays `overlay` over a tree: records merge entry by entry, anything else replaces. -/
def merge (base : Tree) : Tree → Tree
  | .record overlay =>
    match base with
    | .record fs => .record (mergeFields fs overlay)
    | _ => .record overlay
  | overlay => overlay

def mergeFields (base : List (String × Tree)) : List (String × Tree) → List (String × Tree)
  | [] => base
  | (name, value) :: rest =>
    let merged := match Fields.find? name base with
      | some existing => merge existing value
      | none => value
    mergeFields (Fields.put name merged base) rest

end

/-- A text that is exactly `true`, `false` or an integer of 64 bits stands for that value. Any other
text stands for itself, so decimals keep their spelling. -/
def ofScalar (raw : String) : Tree :=
  if raw = "true" then .bool true
  else if raw = "false" then .bool false
  else match int64? raw with
    | some n => .whole n
    | none => .text raw

end Tree

end Switchboard
