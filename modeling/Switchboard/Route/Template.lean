import Switchboard.Text.Cut
import Switchboard.Text.Percent

/-!
Path templates. A template is a list of segments: literal text, a variable that captures one segment
of the path, or, in the last place, a wildcard that captures all that remain. Empty segments count
on neither side.
-/

namespace Switchboard.Route

open Text

inductive Segment where
  | literal (text : String)
  | variable (name : String)
  | wildcard (name : String)
deriving Repr, DecidableEq

namespace Segment

def isLiteral : Segment → Bool
  | .literal _ => true
  | _ => false

def isWildcard : Segment → Bool
  | .wildcard _ => true
  | _ => false

/-- The name under which the segment captures. -/
def name? : Segment → Option String
  | .literal _ => none
  | .variable n => some n
  | .wildcard n => some n

/-- The name of a wildcard that is not given one. -/
def anonymous : String := "*"

def isNameChar (c : Char) : Bool :=
  c.isAlphanum || c = '_' || c = '-'

def isName (cs : List Char) : Bool :=
  !cs.isEmpty && cs.all isNameChar

/-- The text between braces around the whole. -/
def unbraced? (cs : List Char) : Option (List Char) :=
  match cs with
  | '\x7b' :: rest =>
    if rest.getLast? = some '\x7d' then some rest.dropLast else none
  | _ => none

/-- What braces enclose: a name, or a wildcard's name after `*` or `+`. -/
def ofBraced? (inner : List Char) : Option Segment :=
  match inner with
  | '*' :: name => if isName name then some (.wildcard (String.ofList name)) else none
  | '+' :: name => if isName name then some (.wildcard (String.ofList name)) else none
  | name => if isName name then some (.variable (String.ofList name)) else none

/-- The segment that a piece of a pattern writes; a malformed piece writes none. -/
def ofPiece? (piece : String) : Option Segment :=
  match piece.toList with
  | ['*'] => some (.wildcard anonymous)
  | ['*', '*'] => some (.wildcard anonymous)
  | ':' :: name => if isName name then some (.variable (String.ofList name)) else none
  | cs =>
    if cs.contains '\x7b' || cs.contains '\x7d' then (unbraced? cs).bind ofBraced?
    else some (.literal piece)

/-- The canonical piece of a pattern that writes the segment. -/
def piece : Segment → String
  | .literal s => s
  | .variable n => "\x7b" ++ n ++ "\x7d"
  | .wildcard n => if n = anonymous then n else "\x7b*" ++ n ++ "\x7d"

end Segment

/-- Why a pattern is no template. -/
inductive Template.Error where
  | malformed (pattern segment : String)
  | wildcardNotLast (pattern : String)
  | duplicate (pattern name : String)
deriving Repr, DecidableEq

def Template.Error.message : Template.Error → String
  | .malformed pattern segment =>
    "Malformed segment '" ++ segment ++ "' in pattern '" ++ pattern ++ "'"
  | .wildcardNotLast pattern =>
    "Wildcard must be the last segment of pattern '" ++ pattern ++ "'"
  | .duplicate pattern name =>
    "Variable '" ++ name ++ "' declared twice in pattern '" ++ pattern ++ "'"

/-- A pattern as registered and the segments it writes. -/
structure Template where
  pattern : String
  segments : List Segment
deriving Repr, DecidableEq

/-- Values captured from a path, in the order of the template. -/
abbrev Captures := List (String × String)

/-- The first value under a name. -/
def Captures.get? (captures : Captures) (name : String) : Option String :=
  (captures.find? (·.1 = name)).map (·.2)

/-- The segments of a path. -/
def pathSegments (path : String) : List String :=
  words '/' path

/-- An access to a place that a path does not have. -/
structure OutOfBounds where
  place : Nat
  length : Nat
deriving Repr, DecidableEq

namespace Segment

/-- Whether a value may stand at the place of the segment. -/
def admits : Segment → String → Bool
  | .literal s, v => s = v
  | _, v => v ≠ ""

/-- What the segment captures at its place: a variable what stands there, and a wildcard all from
there on. -/
def capture (path : List String) (place : Nat) : Segment → Except OutOfBounds Captures
  | .literal _ => .ok []
  | .variable n =>
    match path[place]? with
    | some v => .ok [(n, Percent.decode v)]
    | none => .error ⟨place, path.length⟩
  | .wildcard n =>
    if place ≤ path.length then .ok [(n, join "/" ((path.drop place).map Percent.decode))]
    else .error ⟨place, path.length⟩

end Segment

namespace Template

/-- Reads the pieces from the left; `before` holds the segments already read, last first. -/
def readPieces (pattern : String) (before : List Segment) :
    List String → Except Error (List Segment)
  | [] => .ok before.reverse
  | piece :: rest =>
    match Segment.ofPiece? piece with
    | none => .error (.malformed pattern piece)
    | some s =>
      if s.isWildcard && !rest.isEmpty then .error (.wildcardNotLast pattern)
      else
        match s.name? with
        | none => readPieces pattern (s :: before) rest
        | some n =>
          if before.any (·.name? = some n) then .error (.duplicate pattern n)
          else readPieces pattern (s :: before) rest

def parse (pattern : String) : Except Error Template :=
  (readPieces pattern [] (pathSegments pattern)).map fun segments => ⟨pattern, segments⟩

def literalCount (t : Template) : Nat :=
  t.segments.countP Segment.isLiteral

def hasWildcard (t : Template) : Bool :=
  t.segments.getLast?.any Segment.isWildcard

def names (t : Template) : List String :=
  t.segments.filterMap Segment.name?

/-- The number of segments before a wildcard at the end. -/
def fixedCount (t : Template) : Nat :=
  if t.hasWildcard then t.segments.length - 1 else t.segments.length

/-- Whether a path has the shape that the template asks for. -/
def fitsPath (t : Template) (path : List String) : Bool :=
  let lengthFits :=
    if t.hasWildcard then t.fixedCount ≤ path.length else path.length = t.fixedCount
  lengthFits && ((t.segments.take t.fixedCount).zip path).all fun (s, v) => s.admits v

/-- What the segments capture from a path, the first of them at `place`. -/
def captureFrom (path : List String) : Nat → List Segment → Except OutOfBounds Captures
  | _, [] => .ok []
  | place, s :: rest => do
    let captured ← s.capture path place
    return captured ++ (← captureFrom path (place + 1) rest)

/-- Matches a path. Nothing is captured before its shape is known to fit. -/
def tryMatch (t : Template) (path : List String) : Except OutOfBounds (Option Captures) :=
  if t.fitsPath path then (captureFrom path 0 t.segments).map some else .ok none

def matchSegments (t : Template) (path : List String) : Option Captures :=
  match t.tryMatch path with
  | .ok captures => captures
  | .error _ => none

def matchPath (t : Template) (path : String) : Option Captures :=
  t.matchSegments (pathSegments path)

end Template

end Switchboard.Route
