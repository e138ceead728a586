import Switchboard.Config.Error
import Switchboard.Text.Percent
import Switchboard.Tree.Fields

namespace Switchboard.Config

open Text

/-- What a name in a folder stands for: the bytes of a file, or a folder. -/
inductive Item where
  | file (bytes : List UInt8)
  | folder
deriving Repr

/-- What configuration files are read from: files and empty folders under their names. -/
abbrev Folder := List (String × Item)

namespace Folder

/-- The steps of a path, where a slash at the end counts as a step to the folder itself. -/
def steps (path : String) : List String :=
  (split '/' path).mapIdx fun i s => if s = "" && i ≠ 0 then "." else s

/-- Follows steps from an empty folder inside `folder`, from which a double dot leads back. -/
def follow (folder : Folder) (inside : Bool) : List String → Except FileTrouble (List UInt8)
  | [] => .error .directory
  | step :: rest =>
    if step = "." then follow folder inside rest
    else if inside then
      if step = ".." then follow folder false rest else .error .notFound
    else
      match Tree.Fields.find? step folder with
      | none => .error .notFound
      | some .folder => follow folder true rest
      | some (.file bytes) => if rest.isEmpty then .ok bytes else .error .notDirectory

/-- The text of the file at a path. -/
def read (folder : Folder) (path : String) : Except FileTrouble String := do
  if path.toList.contains '\x00' then throw .nulInName
  let bytes ← follow folder false (steps path)
  match Percent.ofBytes? bytes with
  | some s => return s
  | none => .error .notText

end Folder

end Switchboard.Config
