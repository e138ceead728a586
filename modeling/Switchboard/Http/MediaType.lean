import Switchboard.Text.Blank
import Switchboard.Text.Case
import Switchboard.Text.Cut
import Switchboard.Tree.Fields

namespace Switchboard.Http

open Text

/-- Parameters are kept by ascending name. -/
structure MediaType where
  type : String
  subtype : String
  params : List (String × String)
deriving Repr, DecidableEq

namespace MediaType

/-- A media type without parameters; both parts are put in lower case. -/
def of (type subtype : String) : MediaType :=
  ⟨lowerText type, lowerText subtype, []⟩

def withParam (m : MediaType) (key value : String) : MediaType :=
  { m with params := Tree.Fields.put key value m.params }

def json : MediaType := of "application" "json"

def html : MediaType := of "text" "html"

def plainText : MediaType := of "text" "plain"

def formUrlencoded : MediaType := of "application" "x-www-form-urlencoded"

/-- The range that covers everything. -/
def any : MediaType := of "*" "*"

def isTokenChar (c : Char) : Bool :=
  c.isAlphanum || "!#$&-^_.+*".toList.contains c

def isToken (s : String) : Bool :=
  s ≠ "" && s.toList.all isTokenChar

/-- A parameter with its key in lower case and the value without quotes around it. Qualities are no
parameters of the type, and a part without `=` is none at all. -/
def param? (part : String) : Option (String × String) :=
  match cut? '=' (trim part) with
  | none => none
  | some (key, value) =>
    let key := lowerText (trim key)
    if key = "q" then none else some (key, stripChar '"' (trim value))

/-- Reads `type/subtype; key=value; …`. A wildcard type needs a wildcard subtype. -/
def parse? (s : String) : Option MediaType :=
  match split ';' (trim s) with
  | [] => none
  | essence :: parts =>
    match cut? '/' (trim essence) with
    | none => none
    | some (type, subtype) =>
      let type := lowerText (trim type)
      let subtype := lowerText (trim subtype)
      if !isToken type || !isToken subtype || (type = "*" && subtype ≠ "*") then none
      else some ⟨type, subtype, Tree.Fields.ofList (parts.filterMap param?)⟩

/-- The type without its parameters. -/
def essence (m : MediaType) : String :=
  m.type ++ "/" ++ m.subtype

def text (m : MediaType) : String :=
  m.essence ++ String.join (m.params.map fun (k, v) => "; " ++ k ++ "=" ++ v)

def isAny (m : MediaType) : Bool :=
  m.type = "*" && m.subtype = "*"

def isSubtypeWildcard (m : MediaType) : Bool :=
  m.subtype = "*"

/-- Whether one covers the other, wildcards counting on both sides. -/
def covers (m other : MediaType) : Bool :=
  (m.type = "*" || other.type = "*" || m.type = other.type) &&
    (m.subtype = "*" || other.subtype = "*" || m.subtype = other.subtype)

/-- 3 for a concrete type, 2 for a subtype wildcard, 1 for the full wildcard. -/
def specificity (m : MediaType) : Nat :=
  if m.isAny then 1 else if m.isSubtypeWildcard then 2 else 3

/-- How specifically a declared type covers a requested one; 0 if it does not. -/
def matchRank (declared requested : MediaType) : Nat :=
  if declared.covers requested then declared.specificity else 0

end MediaType

end Switchboard.Http
