import Switchboard.Http.Accept
import Switchboard.Http.Method
import Switchboard.Http.Query

namespace Switchboard.Http

open Text

/-- Header values under their names in lower case, by ascending name. -/
structure Headers where
  entries : List (String × String)
deriving Repr, DecidableEq

namespace Headers

def empty : Headers := ⟨[]⟩

/-- A header replaces the one of the same name, letter case aside. -/
def insert (name value : String) (h : Headers) : Headers :=
  ⟨Tree.Fields.put (asciiLower name) value h.entries⟩

def ofList (pairs : List (String × String)) : Headers :=
  pairs.foldl (fun h (name, value) => h.insert name value) empty

def get? (h : Headers) (name : String) : Option String :=
  Tree.Fields.find? (asciiLower name) h.entries

def contains (h : Headers) (name : String) : Bool :=
  (h.get? name).isSome

end Headers

/-- The head of a request: all that routing looks at. -/
structure Request where
  method : Method
  path : String
  query : List (String × String)
  headers : Headers
deriving Repr, DecidableEq

namespace Request

/-- A request for a target, whose query starts after the first `?`. -/
def of (method : Method) (target : String) : Request :=
  match cut? '?' target with
  | some (path, query) => ⟨method, path, Query.parse query, .empty⟩
  | none => ⟨method, target, [], .empty⟩

def withHeader (r : Request) (name value : String) : Request :=
  { r with headers := r.headers.insert name value }

def withHeaders (r : Request) (pairs : List (String × String)) : Request :=
  pairs.foldl (fun r (name, value) => r.withHeader name value) r

def queryParam (r : Request) (name : String) : Option String :=
  Query.find? name r.query

/-- The content type, if the header is present and readable. -/
def contentType? (r : Request) : Option MediaType :=
  (r.headers.get? "content-type").bind MediaType.parse?

/-- The ranges asked for; without the header, anything. -/
def accept (r : Request) : Accept :=
  match r.headers.get? "accept" with
  | some header => Accept.parse header
  | none => Accept.any

end Request

end Switchboard.Http
