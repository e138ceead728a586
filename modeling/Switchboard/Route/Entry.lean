import Switchboard.Http.MediaType
import Switchboard.Http.Method
import Switchboard.Route.Template
import Switchboard.Version.Constraint

namespace Switchboard.Route

open Http

/-- Why a route cannot be registered. -/
inductive DefinitionError where
  | template (cause : Template.Error)
  | badMediaType (written : String)
  | badVersion (written : String)
deriving Repr, DecidableEq

def DefinitionError.message : DefinitionError → String
  | .template cause => cause.message
  | .badMediaType written => "Invalid media type '" ++ written ++ "'"
  | .badVersion written => "Invalid version constraint '" ++ written ++ "'"

/-- A route as it is written down. No media types means any. -/
structure Definition where
  method : Method
  pattern : String
  produces : List String
  consumes : List String
  version : Option String
  target : String
deriving Repr, DecidableEq

/-- A registered route. -/
structure Entry where
  method : Method
  template : Template
  produces : List MediaType
  consumes : List MediaType
  version : Option Version.Constraint
  target : String
deriving Repr, DecidableEq

/-- Reads media types, keeping the first of those that are equal. -/
def readTypes (taken : List MediaType) : List String → Except DefinitionError (List MediaType)
  | [] => .ok taken
  | s :: rest =>
    match MediaType.parse? s with
    | none => .error (.badMediaType s)
    | some m => readTypes (if m ∈ taken then taken else taken ++ [m]) rest

def readVersion : Option String → Except DefinitionError (Option Version.Constraint)
  | none => .ok none
  | some s =>
    match Version.Constraint.parse? s with
    | some c => .ok (some c)
    | none => .error (.badVersion s)

/-- Checks the version, the template, and then the types produced and consumed. -/
def Definition.build (d : Definition) : Except DefinitionError Entry := do
  let version ← readVersion d.version
  let template ← (Template.parse d.pattern).mapError .template
  let produces ← readTypes [] d.produces
  let consumes ← readTypes [] d.consumes
  return ⟨d.method, template, produces, consumes, version, d.target⟩

namespace Entry

def specificity (e : Entry) : Nat :=
  e.template.literalCount

/-- Method, pattern and version, as messages name a route. -/
def text (e : Entry) : String :=
  e.method.name ++ " " ++ e.template.pattern ++
    match e.version with
    | some c => " [version " ++ c.text ++ "]"
    | none => ""

/-- A summary of the route for a listing. Empty lists and a missing version are left out. -/
def describe (e : Entry) : Tree :=
  let types (name : String) (ms : List MediaType) : List (String × Tree) :=
    if ms.isEmpty then [] else [(name, .list (ms.map fun m => .text m.text))]
  .record <| Tree.Fields.ofList <|
    [("method", .text e.method.name), ("pattern", .text e.template.pattern),
      ("data", .record [("method", .text e.target)])] ++
    types "produces" e.produces ++ types "consumes" e.consumes ++
    match e.version with
    | some c => [("version", .text c.text)]
    | none => []

end Entry

/-- Entries in order of registration. -/
abbrev Table := List Entry

/-- A table under construction. After the first faulty definition further definitions are ignored;
entries built elsewhere are always taken. -/
structure Draft where
  entries : List Entry
  fault : Option DefinitionError

namespace Draft

def empty : Draft := ⟨[], none⟩

def define (draft : Draft) (d : Definition) : Draft :=
  match draft.fault with
  | some _ => draft
  | none =>
    match d.build with
    | .ok e => { draft with entries := draft.entries ++ [e] }
    | .error fault => { draft with fault := some fault }

def add (draft : Draft) (e : Entry) : Draft :=
  { draft with entries := draft.entries ++ [e] }

def build (draft : Draft) : Except DefinitionError Table :=
  match draft.fault with
  | some fault => .error fault
  | none => .ok draft.entries

end Draft

end Switchboard.Route
