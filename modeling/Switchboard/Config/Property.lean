import Switchboard.Environment
import Switchboard.Text.Case
import Switchboard.Text.Cut
import Switchboard.Tree.Basic

namespace Switchboard.Config

open Text

namespace Property

/-- The names of a property, between dots. Empty ones do not count. -/
def parts (property : String) : List String :=
  words '.' property

def dashed (c : Char) : Char :=
  if c = '_' then '-' else c

/-- One name of a property, from the part of a variable's name between double underscores. -/
def partOfVariable (cs : List Char) : String :=
  String.ofList ((lowerText (String.ofList cs)).toList.map dashed)

/-- The property that a variable's name stands for: double underscores separate the names, and the
single ones inside them become dashes. -/
def ofVariable (name : String) : String :=
  join "." ((piecesOfPairs '_' name.toList).map partOfVariable)

end Property

/-- What follows `lead` and an underscore in a variable's name; without `lead` the whole name. -/
def variableRest? (lead : Option String) (name : String) : Option String :=
  let rest := match lead with
    | some l => (after? l name).bind (after? "_")
    | none => some name
  rest.filter (· ≠ "")

/-- The property that a variable sets, and the value. -/
def settingOf? (lead : Option String) (entry : String × String) : Option (String × Tree) :=
  (variableRest? lead entry.1).map fun rest =>
    (Property.ofVariable rest, Tree.ofScalar entry.2)

/-- The settings that an environment makes, by ascending property. Of two variables for one property
the later one stands last. -/
def settingsOf (lead : Option String) (environment : Environment) : List (String × Tree) :=
  (environment.filterMap (settingOf? lead)).mergeSort fun a b => decide (a.1 ≤ b.1)

end Switchboard.Config
