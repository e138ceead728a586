import Switchboard.Number.Shortest
import Switchboard.Text.Cut
import Switchboard.Text.Quoted
import Switchboard.Tree.Basic
import Switchboard.Url.Basic

/-!
Reading typed values from trees. A reader says what it found and what it wanted; a structure is read
from a record, entry by entry in their order, or from a list of its fields.
-/

namespace Switchboard.Tree

open Text Number

/-- Why a tree does not hold what was asked for. -/
inductive Mismatch where
  | wrongType (found : Tree) (wanted : String)
  | wrongValue (found : Tree) (wanted : String)
  | missing (field : String)
  | unknownVariant (found : String) (known : List String)
  | noShape (kind : String)
  | wrongLength (count : Nat) (wanted : String)
  | badUrl (cause : Url.Error) (written : String)
deriving Repr

/-- What kind of value stands in a tree, with the value where it is small. -/
def describe : Tree → String
  | .null => "null"
  | .bool b => if b then "boolean `true`" else "boolean `false`"
  | .whole n => "integer `" ++ toString n ++ "`"
  | .real x => "floating point `" ++ x.text .positional ++ "`"
  | .text s => "string " ++ quoted s
  | .list _ => "sequence"
  | .record _ => "map"

def ticked (s : String) : String :=
  "`" ++ s ++ "`"

/-- One, two or more alternatives. -/
def alternatives : List String → String
  | [] => "nothing"
  | [a] => ticked a
  | [a, b] => ticked a ++ " or " ++ ticked b
  | names => "one of " ++ join ", " (names.map ticked)

def Mismatch.message : Mismatch → String
  | .wrongType found wanted => "invalid type: " ++ describe found ++ ", expected " ++ wanted
  | .wrongValue found wanted => "invalid value: " ++ describe found ++ ", expected " ++ wanted
  | .missing field => "missing field " ++ ticked field
  | .unknownVariant found known =>
    "unknown variant " ++ ticked found ++ ", expected " ++ alternatives known
  | .noShape kind => "data did not match any variant of untagged enum " ++ kind
  | .wrongLength count wanted => "invalid length " ++ toString count ++ ", expected " ++ wanted
  | .badUrl cause s => cause.message ++ ": " ++ quoted s

/-- A reading is a value or the reason why there is none. -/
abbrev Reading (α : Type) := Except Mismatch α

def readText : Tree → Reading String
  | .text s => .ok s
  | t => .error (.wrongType t "a string")

def readBool : Tree → Reading Bool
  | .bool b => .ok b
  | t => .error (.wrongType t "a boolean")

/-- A whole number between bounds; `wanted` names the range. -/
def readWhole (least most : Int) (wanted : String) : Tree → Reading Int
  | .whole n =>
    if least ≤ n && n ≤ most then .ok n else .error (.wrongValue (.whole n) wanted)
  | t => .error (.wrongType t wanted)

def readInt64 : Tree → Reading Int :=
  readWhole (-Int.pow 2 63) (Int.pow 2 63 - 1) "i64"

def readNat64 : Tree → Reading Int :=
  readWhole 0 (Int.pow 2 64 - 1) "u64"

def readPort (t : Tree) : Reading Nat :=
  (readWhole 0 65535 "u16" t).map Int.toNat

/-- Any number, as a real one. -/
def readReal : Tree → Reading Binary64
  | .real x => .ok x
  | .whole n => .ok (Binary64.ofInt n)
  | t => .error (.wrongType t "f64")

def readOption {α : Type} (read : Tree → Reading α) : Tree → Reading (Option α)
  | .null => .ok none
  | t => (read t).map some

def readItems {α : Type} (read : Tree → Reading α) : List Tree → Reading (List α)
  | [] => .ok []
  | t :: ts => do
    let x ← read t
    let xs ← readItems read ts
    return x :: xs

def readList {α : Type} (read : Tree → Reading α) : Tree → Reading (List α)
  | .list items => readItems read items
  | t => .error (.wrongType t "a sequence")

def readEntries {α : Type} (read : Tree → Reading α) :
    List (String × Tree) → Reading (List (String × α))
  | [] => .ok []
  | (name, t) :: rest => do
    let x ← read t
    let xs ← readEntries read rest
    return (name, x) :: xs

def readMap {α : Type} (read : Tree → Reading α) : Tree → Reading (List (String × α))
  | .record fields => readEntries read fields
  | t => .error (.wrongType t "a map")

/-- One of several named values, written as its name or as a record of its name and null. -/
def readVariant {α : Type} (known : List (String × α)) : Tree → Reading α
  | .text s => named s
  | .record [(s, content)] => do
    let x ← named s
    match content with
    | .null => return x
    | t => .error (.wrongType t "unit")
  | .record fs => .error (.wrongValue (.record fs) "map with a single key")
  | t => .error (.wrongType t "string or map")
where
  named (s : String) : Reading α :=
    match known.find? (·.1 = s) with
    | some (_, x) => .ok x
    | none => .error (.unknownVariant s (known.map (·.1)))

/-- A text, number or boolean as text. Numbers beyond 64 signed bits are taken as real ones. -/
def scalarText? : Tree → Option String
  | .text s => some s
  | .whole n => some (if n < Int.pow 2 63 then toString n else (Binary64.ofInt n).text .terse)
  | .real x => some (x.text .terse)
  | .bool b => some (if b then "true" else "false")
  | _ => none

def readScalar (t : Tree) : Reading String :=
  match scalarText? t with
  | some s => .ok s
  | none => .error (.noShape "Scalar")

/-- A scalar or nothing. -/
def readOptionalText : Tree → Reading (Option String) :=
  readOption readScalar

/-- One scalar or a list of them. -/
def readTexts (t : Tree) : Reading (List String) :=
  match scalarText? t with
  | some s => .ok [s]
  | none =>
    match t with
    | .list items =>
      match items.mapM scalarText? with
      | some texts => .ok texts
      | none => .error (.noShape "OneOrMany")
    | _ => .error (.noShape "OneOrMany")

/-- When a field has to be written: always, only where fields go by position, or never. -/
inductive Need where
  | always
  | inList
  | never
deriving Repr, DecidableEq

/-- A field of `α` and the way to set it from a tree. -/
structure FieldReader (α : Type) where
  name : String
  need : Need
  set : α → Tree → Reading α

namespace FieldReader

variable {α : Type}

def setNamed (fields : List (FieldReader α)) (draft : α) (entry : String × Tree) : Reading α :=
  match fields.find? (·.name = entry.1) with
  | some f => f.set draft entry.2
  | none => .ok draft

/-- Reads entries in their order, skipping unknown names, and then asks for the fields that are
needed. -/
def readRecord (fields : List (FieldReader α)) (draft : α) (entries : List (String × Tree)) :
    Reading α := do
  let result ← entries.foldlM (setNamed fields) draft
  match fields.find? fun f => f.need = .always && !entries.any (·.1 = f.name) with
  | some f => .error (.missing f.name)
  | none => return result

/-- Reading is setting one entry after the other if no field is missing. -/
theorem readRecord_eq_foldlM {fields : List (FieldReader α)} {entries : List (String × Tree)}
    (h : ∀ f ∈ fields, f.need = .always → entries.any (·.1 = f.name) = true) (draft : α) :
    readRecord fields draft entries = entries.foldlM (setNamed fields) draft := by
  have hnone : (fields.find? fun f => f.need = .always && !entries.any (·.1 = f.name)) = none := by
    refine List.find?_eq_none.mpr fun f hf => ?_
    by_cases hneed : f.need = .always
    · simp [hneed, h f hf hneed]
    · simp [hneed]
  unfold readRecord
  simp only [hnone]
  cases entries.foldlM (setNamed fields) draft <;> rfl

/-- Reads fields by position. `index` counts the fields before these, and `wanted` describes the
whole structure. The items left over are returned. -/
def readPositions (wanted : String) : Nat → List (FieldReader α) → α → List Tree →
    Reading (α × List Tree)
  | _, [], draft, items => .ok (draft, items)
  | index, f :: fs, draft, [] =>
    if f.need = .never then readPositions wanted (index + 1) fs draft []
    else .error (.wrongLength index wanted)
  | index, f :: fs, draft, item :: items => do
    let draft ← f.set draft item
    readPositions wanted (index + 1) fs draft items

def elements (count : Nat) : String :=
  toString count ++ (if count = 1 then " element" else " elements")

/-- A structure named `name`, from a record or from a list that is not longer than its fields. -/
def readStruct (name : String) (fields : List (FieldReader α)) (draft : α) : Tree → Reading α
  | .record entries => readRecord fields draft entries
  | .list items => do
    let wanted := "struct " ++ name ++ " with " ++ elements fields.length
    let (result, rest) ← readPositions wanted 0 fields draft items
    if rest.isEmpty then return result
    else .error (.wrongLength items.length "fewer elements in array")
  | t => .error (.wrongType t ("struct " ++ name))

theorem readStruct_record (name : String) (fields : List (FieldReader α)) (draft : α)
    (entries : List (String × Tree)) :
    readStruct name fields draft (.record entries) = readRecord fields draft entries := rfl

end FieldReader

end Switchboard.Tree
