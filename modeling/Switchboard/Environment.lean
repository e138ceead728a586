import Switchboard.Tree.Fields

namespace Switchboard

/-- Variables and their values, by ascending name. -/
abbrev Environment := List (String × String)

namespace Environment

def value? (environment : Environment) (name : String) : Option String :=
  Tree.Fields.find? name environment

end Environment

end Switchboard
