import Switchboard.Dotenv.Line
import Switchboard.Dotenv.Value
import Switchboard.Environment

namespace Switchboard.Dotenv

open Text

def isNameStart (c : Char) : Bool :=
  c.isAlpha || c = '_'

def isNameChar (c : Char) : Bool :=
  c.isAlphanum || c = '_' || c = '.'

def skipBlank (cs : List Char) : List Char :=
  cs.dropWhile isBlank

/-- A name, with what follows it and blanks. -/
def readName (cs : List Char) : Option (String × List Char) :=
  match cs with
  | c :: _ =>
    if isNameStart c then
      some (String.ofList (cs.takeWhile isNameChar), skipBlank (cs.dropWhile isNameChar))
    else none
  | [] => none

/-- The name that is assigned and what follows the equals sign. The word `export` may stand in front
of the name, and it is a name itself where the equals sign follows it. -/
def readTarget (cs : List Char) : Option (String × List Char) :=
  match readName cs with
  | some (name, '=' :: rest) => some (name, skipBlank rest)
  | some (name, rest) =>
    if name = "export" then
      match readName rest with
      | some (name, '=' :: rest) => some (name, skipBlank rest)
      | _ => none
    else none
  | none => none

/-- A value for the name, given the environment and earlier assignments. -/
def lookup (environment : Environment) (earlier : List (String × String)) (name : String) :
    String :=
  match environment.value? name with
  | some value => value
  | none => (Tree.Fields.find? name earlier).getD ""

/-- The assignment that a line makes, or none where it is empty. -/
def readLine (lookup : String → String) (line : List Char) : Option (Option (String × String)) :=
  match skipBlank (dropEndWhile isBlank line) with
  | [] => some none
  | '#' :: _ => some none
  | cs =>
    match readTarget cs with
    | none => none
    | some (name, []) => some (some (name, ""))
    | some (name, '#' :: _) => some (some (name, ""))
    | some (name, rest) => (Value.read? lookup rest).map fun value => some (name, value)

/-- The assignments of the lines, in order. -/
def readLines (environment : Environment) (earlier : List (String × String)) :
    List (List Char) → Option (List (String × String))
  | [] => some []
  | line :: rest =>
    match readLine (lookup environment earlier) line with
    | none => none
    | some none => readLines environment earlier rest
    | some (some (name, value)) =>
      (readLines environment (Tree.Fields.put name value earlier) rest).map ((name, value) :: ·)

/-- All assignments of a file, in order. -/
def read? (environment : Environment) (s : String) : Option (List (String × String)) :=
  (lines? s.toList).bind (readLines environment [])

end Switchboard.Dotenv
