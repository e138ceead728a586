import Switchboard.Tree.Basic

/-!
Tables under construction. Every table knows what brought it about, and that decides who may add to
it: a header defines a table once, and dotted names only extend tables that dotted names made.
-/

namespace Switchboard.Toml

open Switchboard.Tree

/-- What brought a table about: the way to a deeper header, dotted names, or its own header. -/
inductive Origin where
  | onTheWay
  | dotted
  | header
deriving Repr, DecidableEq

/-- A finished value, a table, or a growing list of tables. -/
inductive Node where
  | value (content : Tree)
  | table (origin : Origin) (entries : List (String × Node))
  | tables (elements : List Node)
deriving Inhabited

/-- Entries in ascending order of their names. -/
abbrev Entries := List (String × Node)

namespace Node

mutual

def toTree : Node → Tree
  | .value t => t
  | .table _ entries => .record (toFields entries)
  | .tables elements => .list (toTrees elements)

def toTrees : List Node → List Tree
  | [] => []
  | n :: ns => n.toTree :: toTrees ns

def toFields : List (String × Node) → List (String × Tree)
  | [] => []
  | (name, n) :: rest => (name, n.toTree) :: toFields rest

end

end Node

namespace Entries

/-- Changes the entries of the last table in a list. -/
def changeLast (change : Entries → Option Entries) : List Node → Option (List Node)
  | [] => none
  | [.table origin entries] => (change entries).map fun es => [.table origin es]
  | [_] => none
  | n :: ns => (changeLast change ns).map (n :: ·)

/-- Follows a path from a header or to one, and changes the entries at its end. Missing tables are
made, and a list of tables stands for its last one. -/
def changeAt (change : Entries → Option Entries) : List String → Entries → Option Entries
  | [], es => change es
  | name :: path, es =>
    let node : Option Node := match Fields.find? name es with
      | none => (changeAt change path []).map (.table .onTheWay)
      | some (.table origin inner) => (changeAt change path inner).map (.table origin)
      | some (.tables elements) => (changeLast (changeAt change path) elements).map .tables
      | some (.value _) => none
    node.map fun n => Fields.put name n es

/-- Defines the table `name`, unless something other than a table on the way stands there. -/
def define (name : String) (es : Entries) : Option Entries :=
  match Fields.find? name es with
  | none => some (Fields.put name (.table .header []) es)
  | some (.table .onTheWay inner) => some (Fields.put name (.table .header inner) es)
  | some _ => none

/-- Adds an empty table to the list `name`. -/
def extend (name : String) (es : Entries) : Option Entries :=
  match Fields.find? name es with
  | none => some (Fields.put name (.tables [.table .header []]) es)
  | some (.tables elements) =>
    some (Fields.put name (.tables (elements ++ [.table .header []])) es)
  | some _ => none

/-- Adds a new entry. -/
def add (name : String) (content : Tree) (es : Entries) : Option Entries :=
  match Fields.find? name es with
  | none => some (Fields.put name (.value content) es)
  | some _ => none

/-- Adds an entry under dotted names, of which `path` holds all but the first. Tables with a header
of their own are closed, and the table that takes the entry has to come from dotted names. -/
def assign (content : Tree) (name : String) : List String → Entries → Option Entries
  | [], es => add name content es
  | next :: path, es =>
    let node : Option Node := match Fields.find? name es with
      | none => (assign content next path []).map (.table .dotted)
      | some (.table .dotted inner) => (assign content next path inner).map (.table .dotted)
      | some (.table .onTheWay inner) =>
        if path.isEmpty then none
        else (assign content next path inner).map (.table .onTheWay)
      | some (.tables elements) =>
        if path.isEmpty then none
        else (changeLast (assign content next path) elements).map .tables
      | some _ => none
    node.map fun n => Fields.put name n es

end Entries

/-- One line of a document: the header of a table, the header of an element of a list of tables, or
an entry. Each has a name and what stands before or behind its dots. -/
inductive Statement where
  | table (path : List String) (name : String)
  | element (path : List String) (name : String)
  | entry (name : String) (path : List String) (content : Tree)

/-- The entries so far and the path of the open table. -/
structure Draft where
  entries : Entries
  opened : List String

namespace Draft

def empty : Draft := ⟨[], []⟩

def apply (d : Draft) : Statement → Option Draft
  | .table path name =>
    (Entries.changeAt (Entries.define name) path d.entries).map (⟨·, path ++ [name]⟩)
  | .element path name =>
    (Entries.changeAt (Entries.extend name) path d.entries).map (⟨·, path ++ [name]⟩)
  | .entry name path content =>
    (Entries.changeAt (Entries.assign content name path) d.opened d.entries).map (⟨·, d.opened⟩)

end Draft

/-- The record that the lines of a document make. -/
def ofStatements (statements : List Statement) : Option Tree :=
  (statements.foldlM Draft.apply Draft.empty).map fun d => .record (Node.toFields d.entries)

end Switchboard.Toml
