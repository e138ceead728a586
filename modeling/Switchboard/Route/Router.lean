import Switchboard.Route.Selection
import Switchboard.Version.Resolution

namespace Switchboard.Route

open Http

/-- The route chosen for a request, with what the request gives to its handler. -/
structure Match where
  entry : Entry
  captures : Captures
  query : List (String × String)
  wanted : Version.Wanted
deriving Repr, DecidableEq

namespace Match

def pathVariable (m : Match) (name : String) : Option String :=
  m.captures.get? name

def queryParam (m : Match) (name : String) : Option String :=
  Query.find? name m.query

end Match

structure Router where
  table : Table
  resolver : Version.Resolver
deriving Repr, DecidableEq

namespace Router

/-- A router under rules that are checked first. -/
def withRules (table : Table) (rules : Version.Rules) : Except Config.Error Router := do
  return ⟨table, ← Version.Resolver.ofRules rules⟩

/-- Candidates whose constraint admits the wanted version. -/
def admitted (resolver : Version.Resolver) (wanted : Version.Wanted) (pool : List Candidate) :
    List Candidate :=
  pool.filter fun c => resolver.admits wanted c.entry.version

def route (router : Router) (request : Request) : Except Failure Match :=
  let pool := candidates router.table request.method request.path
  if pool.isEmpty then
    match allowedMethods router.table request.path with
    | [] => .error (.notFound request.path)
    | allowed => .error (.methodNotAllowed request.method request.path allowed)
  else
    let wanted := router.resolver.wanted request
    let pool := admitted router.resolver wanted pool
    if pool.isEmpty then .error (.notAccepted request.path wanted)
    else (select request pool).map fun c => ⟨c.entry, c.captures, request.query, wanted⟩

/-- Summaries of all routes, in order of registration. -/
def describe (router : Router) : List Tree :=
  router.table.map Entry.describe

/-- The router for diagnostics: the number of its routes and the rules for versions. -/
def inspect (router : Router) : String :=
  let rules := router.resolver.rules
  let version := match rules.defaultVersion with
    | some v => "Some(" ++ Text.quoted v ++ ")"
    | none => "None"
  let names (ns : List String) := Text.bracketed (ns.map Text.quoted)
  "Router \x7b routes: " ++ toString router.table.length ++
    ", resolver: VersionResolver \x7b config: VersioningConfig \x7b enabled: " ++
    (if rules.enabled then "true" else "false") ++ ", default_version: " ++ version ++
    ", header_names: " ++ names rules.headerNames ++ ", parameter_names: " ++
    names rules.parameterNames ++ " \x7d \x7d \x7d"

end Router

end Switchboard.Route
