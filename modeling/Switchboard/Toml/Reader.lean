import Switchboard.Toml.Table
import Switchboard.Toml.Word

namespace Switchboard.Toml

open Quotation (isSpace isControl)

/-- How deep lists and inline tables may nest, and how many names dots may join. -/
def depthLimit : Nat := 80

def skipSpace (cs : List Char) : List Char :=
  cs.dropWhile isSpace

/-- Skips blanks, line breaks and comments; inside a comment, up to the end of its line first. -/
def skipGaps (inComment : Bool) : List Char → Option (List Char)
  | [] => some []
  | '\n' :: cs => skipGaps false cs
  | '\r' :: '\n' :: cs => skipGaps false cs
  | c :: cs =>
    if inComment then
      if isControl c then none else skipGaps true cs
    else if isSpace c then skipGaps false cs
    else if c = '#' then skipGaps true cs
    else some (c :: cs)

def isBareNameChar (c : Char) : Bool :=
  c.isAlphanum || c = '_' || c = '-'

/-- A name, bare or between quotes on one line. -/
def readName (cs : List Char) : Option (String × List Char) :=
  let bare := cs.takeWhile isBareNameChar
  if bare.isEmpty then
    if Quotation.isBlock cs then none else Quotation.read? cs
  else some (String.ofList bare, cs.drop bare.length)

/-- The names that follow dots, and what comes behind them and blanks. There are fewer
than `fuel`. -/
def readDotted : Nat → List Char → Option (List String × List Char)
  | 0, _ => none
  | fuel + 1, cs =>
    match skipSpace cs with
    | '.' :: rest =>
      (readName (skipSpace rest)).bind fun (name, rest) =>
        (readDotted fuel rest).map fun (names, rest) => (name :: names, rest)
    | rest => some ([], rest)

/-- One or more names between dots. -/
def readPath (cs : List Char) : Option ((String × List String) × List Char) :=
  (readName cs).bind fun (name, rest) =>
    (readDotted depthLimit rest).map fun (names, rest) => ((name, names), rest)

mutual

/-- One value. `fuel` bounds the number of values on the way down and across, and `room`
the depth. -/
def readValue : Nat → Nat → List Char → Option (Tree × List Char)
  | 0, _, _ => none
  | fuel + 1, room, cs =>
    match cs with
    | '[' :: rest =>
      match room with
      | 0 => none
      | room + 1 => (readItems fuel room rest).map fun (items, rest) => (.list items, rest)
    | '\x7b' :: rest =>
      match room with
      | 0 => none
      | room + 1 =>
        (readInline fuel room [] rest).map fun (es, rest) => (.record (Node.toFields es), rest)
    | _ =>
      if cs.head? = some '"' || cs.head? = some '\'' then
        (Quotation.read? cs).map fun (s, rest) => (.text s, rest)
      else
        let (word, rest) := Word.take cs
        (Word.read? word).map (·, rest)

/-- The items of a list up to its bracket; a comma may stand behind the last. -/
def readItems : Nat → Nat → List Char → Option (List Tree × List Char)
  | 0, _, _ => none
  | fuel + 1, room, cs =>
    match skipGaps false cs with
    | none => none
    | some (']' :: rest) => some ([], rest)
    | some cs =>
      match readValue fuel room cs with
      | none => none
      | some (item, rest) =>
        match skipGaps false rest with
        | some (',' :: rest) =>
          (readItems fuel room rest).map fun (items, rest) => (item :: items, rest)
        | some (']' :: rest) => some ([item], rest)
        | _ => none

/-- The entries of an inline table up to its brace; a comma may stand behind the last. -/
def readInline : Nat → Nat → Entries → List Char → Option (Entries × List Char)
  | 0, _, _, _ => none
  | fuel + 1, room, es, cs =>
    match skipGaps false cs with
    | none => none
    | some ('\x7d' :: rest) => some (es, rest)
    | some cs =>
      match readInlineEntry fuel room es cs with
      | none => none
      | some (es, rest) =>
        match skipGaps false rest with
        | some (',' :: rest) => readInline fuel room es rest
        | some ('\x7d' :: rest) => some (es, rest)
        | _ => none

def readInlineEntry : Nat → Nat → Entries → List Char → Option (Entries × List Char)
  | 0, _, _, _ => none
  | fuel + 1, room, es, cs =>
    match readPath cs with
    | none => none
    | some ((name, path), rest) =>
      match skipGaps false rest with
      | some ('=' :: rest) =>
        match (skipGaps false rest).bind (readValue fuel room) with
        | some (value, rest) => (Entries.assign value name path es).map (·, rest)
        | none => none
      | _ => none

end

/-- The rest behind a statement, which has to end its line. -/
def endLine (cs : List Char) : Option (List Char) :=
  match skipSpace cs with
  | [] => some []
  | '#' :: rest => some ('#' :: rest)
  | '\n' :: rest => some rest
  | '\r' :: '\n' :: rest => some rest
  | _ => none

/-- A path as its names before the last and the last. -/
def lastName (name : String) : List String → List String × String
  | [] => ([], name)
  | next :: names =>
    let (path, last) := lastName next names
    (name :: path, last)

/-- The path of a header and what follows its first bracket. -/
def readHeader (cs : List Char) : Option ((List String × String) × List Char) :=
  match readPath (skipSpace cs) with
  | some ((name, names), ']' :: rest) => some (lastName name names, rest)
  | _ => none

def readStatement (cs : List Char) : Option (Statement × List Char) :=
  match cs with
  | '[' :: '[' :: rest =>
    match readHeader rest with
    | some ((path, name), ']' :: rest) => some (.element path name, rest)
    | _ => none
  | '[' :: rest => (readHeader rest).map fun ((path, name), rest) => (.table path name, rest)
  | _ =>
    match readPath cs with
    | some ((name, path), '=' :: rest) =>
      let rest := skipSpace rest
      (readValue (3 * rest.length + 3) depthLimit rest).map fun (value, rest) =>
        (.entry name path value, rest)
    | _ => none

/-- All statements; `fuel` bounds their number. -/
def readStatements : Nat → List Char → Option (List Statement)
  | 0, _ => none
  | fuel + 1, cs =>
    match skipGaps false cs with
    | none => none
    | some [] => some []
    | some cs =>
      match readStatement cs with
      | none => none
      | some (s, rest) => ((endLine rest).bind (readStatements fuel)).map (s :: ·)

/-- A byte order mark in front does not count. -/
def read? (s : String) : Option (List Statement) :=
  let cs := match s.toList with
    | '\ufeff' :: cs => cs
    | cs => cs
  readStatements (cs.length + 1) cs

/-- The record that a document describes. -/
def parse? (s : String) : Option Tree :=
  (read? s).bind ofStatements

end Switchboard.Toml
