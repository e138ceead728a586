import Switchboard.Version.Basic

namespace Switchboard.Version

open Text

/-- The version that a request asks for, or none. -/
abbrev Wanted := Option String

/-- The text of a wanted version in messages. -/
def Wanted.text : Wanted → String
  | some s => s
  | none => "<none>"

/-- A version constraint of a route. Bounds compare version numbers; an exact constraint and a list
of alternatives compare tokens, so `2` and `2.0` differ there. -/
inductive Constraint where
  | exact (token : String)
  | minimum (least : Version)
  | maximum (greatest : Version)
  | range (least greatest : Version)
  | oneOf (tokens : List String)
deriving Repr, DecidableEq

namespace Constraint

/-- An exact constraint from a text that stands for a token. -/
def exactly (s : String) : Constraint :=
  .exact (Version.token s)

def kind : Constraint → String
  | .exact _ => "exact"
  | .minimum _ => "minimum"
  | .maximum _ => "maximum"
  | .range _ _ => "range"
  | .oneOf _ => "one-of"

def text : Constraint → String
  | .exact t => t
  | .minimum v => ">=" ++ v.text
  | .maximum v => "<=" ++ v.text
  | .range a b => a.text ++ ".." ++ b.text
  | .oneOf ts => join "|" ts

/-- `least..greatest`, the bounds in order. -/
def range? (least greatest : String) : Option Constraint :=
  match parse? least, parse? greatest with
  | some a, some b => if a.le b then some (.range a b) else none
  | _, _ => none

/-- Alternatives between bars, each a version token. -/
def oneOf? (parts : List String) : Option Constraint :=
  if parts.all isToken then some (.oneOf (parts.map Version.token)) else none

/-- A constraint from a text without blanks around it: a bound after `>=` or `<=`, two bounds around
`..`, alternatives between bars, or a single token. -/
def ofTrimmed? (s : String) : Option Constraint :=
  match after? ">=" s with
  | some least => (parse? least).map .minimum
  | none =>
    match after? "<=" s with
    | some greatest => (parse? greatest).map .maximum
    | none =>
      match cutPair '.' s.toList with
      | some (least, greatest) => range? (String.ofList least) (String.ofList greatest)
      | none =>
        if s.toList.contains '|' then oneOf? (split '|' s)
        else if isToken s then some (exactly s)
        else none

def parse? (s : String) : Option Constraint :=
  ofTrimmed? (trim s)

/-- Whether the number that a token writes satisfies a bound. -/
def numberSatisfies (p : Version → Bool) (token : String) : Bool :=
  match Version.parse? token with
  | some v => p v
  | none => false

/-- Whether a wanted version satisfies the constraint. Without a wanted version nothing does. -/
def accepts (c : Constraint) : Wanted → Bool
  | none => false
  | some raw =>
    let token := Version.token raw
    match c with
    | .exact t => token = t
    | .oneOf ts => ts.any (· = token)
    | .minimum a => numberSatisfies (fun v => a.le v) token
    | .maximum b => numberSatisfies (fun v => v.le b) token
    | .range a b => numberSatisfies (fun v => a.le v && v.le b) token

end Constraint

end Switchboard.Version
