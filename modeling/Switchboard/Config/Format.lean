import Switchboard.Text.Case
import Switchboard.Text.Cut

namespace Switchboard.Config

open Text

inductive Format where
  | json
  | toml
  | env
deriving Repr, DecidableEq

namespace Format

def all : List Format :=
  [.json, .toml, .env]

def name : Format → String
  | .json => "json"
  | .toml => "toml"
  | .env => "env"

/-- The format of an extension, in any letter case. -/
def ofExtension? (extension : String) : Option Format :=
  all.find? (·.name = lowerText extension)

end Format

/-- The steps of a path. Empty steps and single dots do not count. -/
def pathSteps (path : String) : List String :=
  (words '/' path).filter (· ≠ ".")

/-- The last step of a path, if it names something. -/
def fileName? (path : String) : Option String :=
  ((pathSteps path).getLast?).filter (· ≠ "..")

/-- What follows the last dot of a file's name. A dot in front of the name starts no extension. -/
def extension? (name : String) : Option String :=
  match (name.toList.splitOn '.').reverse with
  | last :: front :: rest =>
    if rest.isEmpty && front.isEmpty then none else some (String.ofList last)
  | _ => none

/-- The format of a file. A file named `.env` has no extension and still tells its format. -/
def Format.detect? (path : String) : Option Format :=
  (fileName? path).bind fun name =>
    if name = ".env" then some .env else (extension? name).bind ofExtension?

end Switchboard.Config
