import Switchboard.Text.Blank

/-!
Lines of a file of assignments. Quotes may hold line breaks, so that several lines of the file make
one line of assignments, and a comment starts with `#` in front of a line or behind a blank.
-/

namespace Switchboard.Dotenv

open Text

/-- Where a reader stands: outside of quotes, behind a blank there, behind a backslash, between
quotes of either kind, or at a comment. -/
inductive Place where
  | plain
  | blank
  | escape
  | single
  | singleEscape
  | double
  | doubleEscape
  | comment
deriving Repr, DecidableEq

namespace Place

/-- The place behind a character outside of quotes that is no blank. -/
def outside (c : Char) : Place :=
  if c = '\\' then .escape
  else if c = '"' then .double
  else if c = '\'' then .single
  else .plain

def step (c : Char) : Place → Place
  | .plain => if isBlank c && c ≠ '\n' && c ≠ '\r' then .blank else outside c
  | .blank => if c = '#' then .comment else outside c
  | .escape => .plain
  | .single => if c = '\\' then .singleEscape else if c = '\'' then .plain else .single
  | .singleEscape => .single
  | .double => if c = '\\' then .doubleEscape else if c = '"' then .plain else .double
  | .doubleEscape => .double
  | .comment => .comment

end Place

/-- The characters before a comment and the place at the end. -/
def scan (place : Place) : List Char → List Char × Place
  | [] => ([], place)
  | c :: cs =>
    match place.step c with
    | .comment => ([], .comment)
    | next =>
      let (kept, last) := scan next cs
      (c :: kept, last)

/-- The lines of a file, each with its line break. -/
def fileLines : List Char → List (List Char)
  | [] => []
  | c :: cs =>
    if c = '\n' then [c] :: fileLines cs
    else
      match fileLines cs with
      | [] => [[c]]
      | line :: rest => (c :: line) :: rest

/-- Removes a line break at the end. -/
def dropLineBreak (cs : List Char) : List Char :=
  match cs.reverse with
  | '\n' :: '\r' :: rest => rest.reverse
  | '\n' :: rest => rest.reverse
  | _ => cs

def isComment (cs : List Char) : Bool :=
  (cs.dropWhile isBlank).head? = some '#'

/-- Joins lines of the file while quotes are open; `taken` holds those already joined. The end of
the file must not come inside quotes, nor behind a blank. -/
def joinLines (place : Place) (taken : List Char) : List (List Char) → Option (List (List Char))
  | [] => if place = .plain then some [] else none
  | line :: rest =>
    if isComment (taken ++ line) then joinLines .plain [] rest
    else
      match scan place line with
      | (kept, .comment) => (joinLines .plain [] rest).map ((taken ++ kept) :: ·)
      | (_, .plain) => (joinLines .plain [] rest).map (dropLineBreak (taken ++ line) :: ·)
      | (_, next) => joinLines next (taken ++ line) rest

def lines? (cs : List Char) : Option (List (List Char)) :=
  joinLines .plain [] (fileLines cs)

end Switchboard.Dotenv
