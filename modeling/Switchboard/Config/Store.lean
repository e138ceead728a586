import Switchboard.Config.Check
import Switchboard.Config.Source
import Switchboard.Tree.Equality

/-!
A store of properties in layers: what is loaded later wins. A step that fails leaves the store as it
was, because it gives no new store.
-/

namespace Switchboard.Config

open Switchboard.Tree

/-- The properties so far, and the front part of the variables that set properties. -/
structure Store where
  root : Tree
  lead : Option String
deriving Repr, DecidableEq

namespace Store

def empty : Store :=
  ⟨.empty, none⟩

def withLead (lead : String) : Store :=
  { empty with lead := some lead }

/-- Lays a tree over the store. -/
def overlay (s : Store) (t : Tree) : Store :=
  { s with root := s.root.merge t }

def loadText (s : Store) (environment : Environment) (format : Format) (content : String) :
    Except Error Store :=
  (parseText environment format content).map s.overlay

def loadFile (s : Store) (environment : Environment) (folder : Folder) (path : String) :
    Except Error Store :=
  (parseFile environment folder path).map s.overlay

def loadEnvironment (s : Store) (environment : Environment) : Store :=
  { s with root := applySettings (settingsOf s.lead environment) s.root }

def set (s : Store) (key : String) (value : Tree) : Store :=
  { s with root := Tree.insertAt value (Property.parts key) s.root }

/-- The name that a key of a map becomes. -/
def entryName? : Tree → Option String
  | .text name => some name
  | .bool b => some (if b then "true" else "false")
  | .whole n => some (toString n)
  | _ => none

/-- Sets a record from entries whose keys may be any values; only keys that have a name will do. -/
def setEntries (s : Store) (key : String) (entries : List (Tree × Tree)) : Except Error Store :=
  match entries.mapM fun (k, v) => (entryName? k).map (·, v) with
  | some fields => .ok (s.set key (.record (Fields.ofList fields)))
  | none => .error .keyNotText

/-- Lays the properties of another store over this one. -/
def merge (s other : Store) : Store :=
  s.overlay other.root

def lookup? (s : Store) (key : String) : Option Tree :=
  s.root.at? (Property.parts key)

def has (s : Store) (key : String) : Bool :=
  (s.lookup? key).isSome

/-- The names at the top. -/
def keys (s : Store) : List String :=
  s.root.fields.map (·.1)

def readAs {α : Type} (read : Tree → Reading α) (key : String) (t : Tree) : Except Error α :=
  (read t).mapError (.mismatch key)

/-- The value of a property. -/
def get {α : Type} (s : Store) (read : Tree → Reading α) (key : String) : Except Error α :=
  match s.lookup? key with
  | some t => readAs read key t
  | none => .error (.keyNotFound key)

/-- The value of a section; a missing one is read as an empty record. -/
def getSection {α : Type} (s : Store) (read : Tree → Reading α) (key : String) :
    Except Error α :=
  readAs read key ((s.lookup? key).getD .empty)

/-- The value of a section that also passes its check. -/
def getChecked {α : Type} (s : Store) (read : Tree → Reading α) (check : α → Check.Verdict)
    (key : String) : Except Error α := do
  let value ← s.getSection read key
  check value
  return value

end Store

end Switchboard.Config
