import Switchboard.Config.Check
import Switchboard.Version.Basic

namespace Switchboard.Version

open Config Switchboard.Tree

/-- How a router finds out which version a request asks for: the `router.versioning` section. -/
structure Rules where
  enabled : Bool
  defaultVersion : Option String
  headerNames : List String
  parameterNames : List String
deriving Repr, DecidableEq

namespace Rules

/-- The rules of an empty section. -/
def standard : Rules :=
  ⟨true, none, ["X-API-VERSION"], ["api-version"]⟩

/-- The rules under which no version is ever asked for. -/
def disabled : Rules :=
  { standard with enabled := false }

def schema : List (FieldReader Rules) := [
  ⟨"enabled", .never, fun r t => do return { r with enabled := ← readBool t }⟩,
  ⟨"default-version", .never, fun r t => do
    return { r with defaultVersion := ← readOptionalText t }⟩,
  ⟨"header-names", .never, fun r t => do return { r with headerNames := ← readTexts t }⟩,
  ⟨"parameter-names", .never, fun r t => do return { r with parameterNames := ← readTexts t }⟩]

def ofTree (t : Tree) : Reading Rules :=
  FieldReader.readStruct "VersioningConfig" schema standard t

def toTree (r : Rules) : Tree :=
  .record [
    ("default-version", match r.defaultVersion with | some v => .text v | none => .null),
    ("enabled", .bool r.enabled),
    ("header-names", .list (r.headerNames.map .text)),
    ("parameter-names", .list (r.parameterNames.map .text))]

/-- A default version has to be a version token, and no name may be blank. -/
def check (r : Rules) : Check.Verdict := do
  match r.defaultVersion with
  | some v =>
    Check.notBlank v "router.versioning.default-version"
    if !isToken v then Check.fail "router.versioning.default-version" (.notVersion v)
  | none => .ok ()
  Check.each (Check.notBlank · "router.versioning.header-names") r.headerNames
  Check.each (Check.notBlank · "router.versioning.parameter-names") r.parameterNames

end Rules

end Switchboard.Version
