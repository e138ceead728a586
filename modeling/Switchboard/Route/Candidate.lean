import Switchboard.Http.Request
import Switchboard.Route.Entry

namespace Switchboard.Route

open Http

/-- A route whose method and template match a request. -/
structure Candidate where
  entry : Entry
  captures : Captures
deriving Repr, DecidableEq

/-- The candidate that an entry becomes for a request. -/
def Entry.candidate? (e : Entry) (method : Method) (path : List String) : Option Candidate :=
  if e.method = method then (e.template.matchSegments path).map (⟨e, ·⟩) else none

def candidates (table : Table) (method : Method) (path : String) : List Candidate :=
  table.filterMap (·.candidate? method (pathSegments path))

/-- Takes in the method of an entry, unless it is there already or the template does not match. -/
def addMethod (path : List String) (methods : List Method) (e : Entry) : List Method :=
  if e.method ∉ methods ∧ e.template.fitsPath path then methods ++ [e.method] else methods

/-- The methods of all routes whose template matches a path. -/
def allowedMethods (table : Table) (path : String) : List Method :=
  table.foldl (addMethod (pathSegments path)) []

end Switchboard.Route
