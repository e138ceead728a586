import Switchboard.Config.Store
import Switchboard.Tree.Tidy

namespace Switchboard.Config

/-- A call on a store. The value of `set` comes with the error, if it cannot be written as a tree,
and `merge` lays over the store another one that is made by calls of its own. -/
inductive Call where
  | loadText (environment : Environment) (format : Format) (content : String)
  | loadFile (environment : Environment) (folder : Folder) (path : String)
  | loadEnvironment (environment : Environment)
  | set (key : String) (value : Except Error Tree.Value)
  | merge (lead : Option String) (calls : List Call)

/-- What may fail and changes a store on its way. What is written before it fails stays written. -/
abbrev Action := ExceptT Error (StateM Store)

namespace Call

mutual

def action : Call → Action Unit
  | .loadText environment format content => do
    let t ← parseText environment format content
    modify (·.overlay t)
  | .loadFile environment folder path => do
    let t ← parseFile environment folder path
    modify (·.overlay t)
  | .loadEnvironment environment => do
    let settings := settingsOf (← get).lead environment
    settings.forM fun (property, value) => modify (·.set property value)
  | .set key value => do
    let t ← value
    modify (·.set key t.1)
  | .merge lead calls => modify (·.merge (runAll calls ⟨.empty, lead⟩))

/-- The store after calls in a row, be they successful or not. -/
def runAll : List Call → Store → Store
  | [], s => s
  | call :: calls, s => runAll calls ((action call).run.run s).2

end

end Call

/-- A text to be loaded, and the environment that serves it. -/
structure Source where
  environment : Environment
  format : Format
  content : String

namespace Source

def parse (source : Source) : Except Error Tree :=
  parseText source.environment source.format source.content

end Source

/-- Loads texts in a row, up to the first that is not accepted. -/
def Store.loadAll (s : Store) (sources : List Source) : Except Error Store :=
  sources.foldlM (fun s x => s.loadText x.environment x.format x.content) s

end Switchboard.Config
