import Switchboard.Number.Integer
import Switchboard.Text.Blank
import Switchboard.Text.Cut

namespace Switchboard

/-- Compared by major number first. -/
structure Version where
  major : Nat
  minor : Nat
deriving Repr, DecidableEq

/-- Why a text is no version number. -/
inductive Version.Error where
  | empty
  | badFormat (written : String)
deriving Repr, DecidableEq

namespace Version

open Text Number

def Error.message : Error → String
  | .empty => "Empty version string"
  | .badFormat written => "Invalid version format: " ++ written

/-- The order of versions. -/
def le (a b : Version) : Bool :=
  a.major < b.major || (a.major = b.major && a.minor ≤ b.minor)

/-- A minor number of zero is not written. -/
def text (v : Version) : String :=
  if v.minor = 0 then toString v.major else toString v.major ++ "." ++ toString v.minor

/-- Drops one `v` at the front. -/
def dropMark : List Char → List Char
  | 'v' :: cs => cs
  | 'V' :: cs => cs
  | cs => cs

/-- The token that a text stands for: without blanks around it and without its mark. -/
def token (s : String) : String :=
  String.ofList (dropMark (trimChars s.toList))

def isTokenChar (c : Char) : Bool :=
  c.isAlphanum || c = '.' || c = '_' || c = '-'

/-- Whether a text stands for a token that is one word. -/
def isToken (s : String) : Bool :=
  token s ≠ "" && (token s).toList.all isTokenChar

/-- The number that a token writes. -/
def number? (cs : List Char) : Option Version :=
  match cutChars '.' cs with
  | some (major, minor) =>
    match uint32? major, uint32? minor with
    | some a, some b => some ⟨a, b⟩
    | _, _ => none
  | none => (uint32? cs).map fun a => ⟨a, 0⟩

def parse (s : String) : Except Error Version :=
  if token s = "" then .error .empty
  else
    match number? (token s).toList with
    | some v => .ok v
    | none => .error (.badFormat s)

def parse? (s : String) : Option Version :=
  (parse s).toOption

end Version

end Switchboard
