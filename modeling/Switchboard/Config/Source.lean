import Switchboard.Config.Folder
import Switchboard.Config.Property
import Switchboard.Dotenv.Reader
import Switchboard.Json.Reader
import Switchboard.Toml.Reader

namespace Switchboard.Config

/-- Lays the settings over a tree, in their order. -/
def applySettings (settings : List (String × Tree)) (t : Tree) : Tree :=
  settings.foldl (fun t (property, value) =>
    Tree.insertAt value (Property.parts property) t) t

/-- The record that assignments make. -/
def ofAssignments (assignments : List (String × String)) : Tree :=
  applySettings (assignments.map fun (name, value) => (Property.ofVariable name, .ofScalar value))
    .empty

/-- The record that a text writes. The environment only serves the variables that the assignments of
the last format name. -/
def parseText (environment : Environment) (format : Format) (content : String) :
    Except Error Tree :=
  match format with
  | .json =>
    match Json.parse? content with
    | none => .error (.badGrammar .json)
    | some t => if t.isRecord then .ok t else .error .notObject
  | .toml =>
    match Toml.parse? content with
    | none => .error (.badGrammar .toml)
    | some t => .ok t
  | .env =>
    match Dotenv.read? environment content with
    | none => .error (.badGrammar .env)
    | some assignments => .ok (ofAssignments assignments)

/-- The record that a file writes in the format that its name tells. -/
def parseFile (environment : Environment) (folder : Folder) (path : String) : Except Error Tree :=
  match Format.detect? path with
  | none => .error (.unsupportedFile path)
  | some format =>
    match folder.read path with
    | .error trouble => .error (.unreadableFile path trouble)
    | .ok content => parseText environment format content

end Switchboard.Config
