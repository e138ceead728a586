import Switchboard.Text.Word

namespace Switchboard.Dotenv.Value

open Text

/-- Where a reader stands: in plain text or between double quotes (`quoted`), behind a backslash, in
the name of a variable, in such a name between braces, between single quotes, or behind
the value. -/
inductive Place where
  | text (quoted : Bool)
  | escape (quoted : Bool)
  | name (quoted : Bool) (taken : List Char)
  | braced (quoted : Bool) (taken : List Char)
  | single
  | behind
deriving Repr, DecidableEq

/-- The character that a backslash and `c` stand for. -/
def escape? (c : Char) : Option Char :=
  if c = 'n' then some '\n'
  else if "\\'\"$ ".toList.contains c then some c
  else none

/-- What a character adds to the value, and the place behind it. A name ends at the first character
that is no letter or digit, and outside of braces that character belongs to the text. -/
def step (lookup : String → String) (c : Char) : Place → Option (List Char × Place)
  | .behind => if c = ' ' || c = '\t' then some ([], .behind) else none
  | .escape quoted => (escape? c).map fun d => ([d], .text quoted)
  | .single => if c = '\'' then some ([], .text false) else some ([c], .single)
  | .name quoted taken =>
    if isWord c then some ([], .name quoted (taken ++ [c]))
    else if c = '\x7b' && taken.isEmpty then some ([], .braced quoted [])
    else
      let value := (lookup (String.ofList taken)).toList
      if c = '$' then some (value, .name quoted []) else some (value ++ [c], .text quoted)
  | .braced quoted taken =>
    if c = '\x7d' then some ((lookup (String.ofList taken)).toList, .text quoted)
    else some ([], .braced quoted (taken ++ [c]))
  | .text quoted =>
    if c = '$' then some ([], .name quoted [])
    else if c = '"' then some ([], .text !quoted)
    else if c = '\\' then some ([], .escape quoted)
    else if quoted then some ([c], .text true)
    else if c = '\'' then some ([], .single)
    else if c = ' ' || c = '\t' then some ([], .behind)
    else some ([c], .text false)

/-- What the end adds to the value. Quotes and braces have to be closed. -/
def finish (lookup : String → String) : Place → Option (List Char)
  | .text quoted => if quoted then none else some []
  | .escape quoted => if quoted then none else some []
  | .name quoted taken => if quoted then none else some (lookup (String.ofList taken)).toList
  | .braced _ _ => none
  | .single => none
  | .behind => some []

/-- The value that characters write from a place on. A comment behind the value ends it. -/
def readFrom (lookup : String → String) (place : Place) : List Char → Option (List Char)
  | [] => finish lookup place
  | c :: cs =>
    if place = .behind && c = '#' then some []
    else
      match step lookup c place with
      | some (added, next) => (readFrom lookup next cs).map (added ++ ·)
      | none => none

def read? (lookup : String → String) (cs : List Char) : Option String :=
  (readFrom lookup (.text false) cs).map String.ofList

end Switchboard.Dotenv.Value
