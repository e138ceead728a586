import Switchboard.Text.Blank
import Switchboard.Text.Case
import Switchboard.Text.Cut
import Switchboard.Tree.Decode

namespace Switchboard.Http

open Text

inductive Method where
  | get
  | post
  | put
  | delete
  | patch
  | head
  | options
deriving Repr, DecidableEq, Inhabited

namespace Method

def all : List Method :=
  [.get, .post, .put, .delete, .patch, .head, .options]

def name : Method → String
  | .get => "GET"
  | .post => "POST"
  | .put => "PUT"
  | .delete => "DELETE"
  | .patch => "PATCH"
  | .head => "HEAD"
  | .options => "OPTIONS"

/-- The method that a name stands for, in any case and with blanks around it. -/
def ofName? (s : String) : Option Method :=
  let upper := upperAsciiText (trim s)
  all.find? (·.name = upper)

/-- Whether requests with this method usually carry a body. -/
def permitsBody : Method → Bool
  | .post | .put | .patch | .delete => true
  | _ => false

/-- Exactly the name of a method, as configuration writes it. -/
def ofTree : Tree → Tree.Reading Method :=
  Tree.readVariant (all.map fun m => (m.name, m))

end Method

/-- Names of methods, as the `Allow` header lists them. -/
def methodList (methods : List Method) : String :=
  join ", " (methods.map Method.name)

end Switchboard.Http
