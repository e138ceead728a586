import Switchboard.Text.Cut
import Switchboard.Text.Percent

namespace Switchboard.Http.Query

open Text

/-- A plus stands for a space; everything else is percent-encoded. -/
def decodePart (s : String) : String :=
  Percent.decode (String.ofList (s.toList.map fun c => if c = '+' then ' ' else c))

/-- A key without `=` has the empty value. -/
def decodePair (part : String) : String × String :=
  match cut? '=' part with
  | some (key, value) => (decodePart key, decodePart value)
  | none => (decodePart part, "")

def parse (query : String) : List (String × String) :=
  (words '&' query).map decodePair

/-- The first value under exactly this key. -/
def find? (name : String) (pairs : List (String × String)) : Option String :=
  (pairs.find? (·.1 = name)).map (·.2)

end Switchboard.Http.Query
