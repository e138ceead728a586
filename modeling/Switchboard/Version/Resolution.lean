import Switchboard.Http.Request
import Switchboard.Version.Constraint
import Switchboard.Version.Rules

namespace Switchboard.Version

open Http Text

/-- Checked rules, ready to be applied to requests. -/
structure Resolver where
  rules : Rules
deriving Repr, DecidableEq

namespace Resolver

def standard : Resolver := ⟨Rules.standard⟩

def disabled : Resolver := ⟨Rules.disabled⟩

def ofRules (rules : Rules) : Except Config.Error Resolver := do
  rules.check
  return ⟨rules⟩

/-- The values that may carry the version, in order of preference. -/
def sources (rules : Rules) (headers : Headers) (query : List (String × String)) : List String :=
  rules.headerNames.filterMap headers.get? ++
    rules.parameterNames.filterMap (Query.find? · query) ++ rules.defaultVersion.toList

def wantedOf (r : Resolver) (headers : Headers) (query : List (String × String)) : Wanted :=
  if r.rules.enabled then
    ((sources r.rules headers query).map trim).find? (· ≠ "")
  else none

/-- From headers and query parameters, then the default. -/
def wanted (r : Resolver) (request : Request) : Wanted :=
  r.wantedOf request.headers request.query

/-- From headers alone, then the default. -/
def wantedFromHeaders (r : Resolver) (headers : Headers) : Wanted :=
  r.wantedOf headers []

/-- Whether a route with this constraint may answer. Without a constraint every version is fine. -/
def admits (r : Resolver) (wanted : Wanted) : Option Constraint → Bool
  | some c => !r.rules.enabled || c.accepts wanted
  | none => true

end Resolver

end Switchboard.Version
