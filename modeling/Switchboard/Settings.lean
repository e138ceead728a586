import Switchboard.Config.Store
import Switchboard.Directory.Settings
import Switchboard.Route.Router

namespace Switchboard

open Switchboard.Tree

/-- The `router` and the `discovery` section of a configuration. They are checked when they are
loaded. -/
structure Settings where
  versioning : Version.Rules
  discovery : Directory.Settings
deriving Repr, DecidableEq

namespace Settings

/-- The front part of the variables that override a settings file. -/
def environmentLead : String := "TRELLIS"

def standard : Settings :=
  ⟨.standard, .standard⟩

/-- The `router` section holds the rules for versions. -/
def routerSchema : List (FieldReader Version.Rules) := [
  ⟨"versioning", .never, fun _ t => Version.Rules.ofTree t⟩]

def readRouter (t : Tree) : Reading Version.Rules :=
  FieldReader.readStruct "RouterSettings" routerSchema .standard t

def schema : List (FieldReader Settings) := [
  ⟨"router", .never, fun s t => do return { s with versioning := ← readRouter t }⟩,
  ⟨"discovery", .never, fun s t => do
    return { s with discovery := ← Directory.Settings.ofTree t }⟩]

def ofTree (t : Tree) : Reading Settings :=
  FieldReader.readStruct "Settings" schema standard t

def toTree (s : Settings) : Tree :=
  .record [
    ("discovery", s.discovery.toTree),
    ("router", .record [("versioning", s.versioning.toTree)])]

def check (s : Settings) : Config.Check.Verdict := do
  s.versioning.check
  s.discovery.check

/-- The settings that a store holds. -/
def ofStore (store : Config.Store) : Except Config.Error Settings := do
  let versioning ← store.getSection readRouter "router"
  let discovery ← store.getSection Directory.Settings.ofTree "discovery"
  let s : Settings := ⟨versioning, discovery⟩
  s.check
  return s

/-- The settings that a text writes. -/
def parse (environment : Environment) (format : Config.Format) (content : String) :
    Except Config.Error Settings := do
  ofStore (← Config.Store.empty.loadText environment format content)

/-- The settings in a file, overridden by the environment. -/
def load (environment : Environment) (folder : Config.Folder) (path : String) :
    Except Config.Error Settings := do
  let store ← (Config.Store.withLead environmentLead).loadFile environment folder path
  ofStore (store.loadEnvironment environment)

def resolver (s : Settings) : Except Config.Error Version.Resolver :=
  Version.Resolver.ofRules s.versioning

/-- A router under the rules of the settings. -/
def router (s : Settings) (table : Route.Table) : Except Config.Error Route.Router :=
  Route.Router.withRules table s.versioning

/-- The backends behind one composite, in the order of the settings. -/
def directory (s : Settings) : Except Service.Error Directory.Backend :=
  s.discovery.build.map (.composite s.discovery.policy)

end Settings

end Switchboard
