import Switchboard.Http.Method
import Switchboard.Http.Status
import Switchboard.Url.Reader

/-!
Requests sent to other hosts and their replies. What answers a request is left open: a wire takes a
call and gives its reply, and it may change with every call.
-/

namespace Switchboard.Http

/-- A request as it is sent: a URL without credentials and an optional JSON body. -/
structure Call where
  method : Method
  url : Url
  body : Option Tree

inductive Reply where
  | dropped
  | answer (status : Nat) (body : String)
deriving Repr, DecidableEq

/-- What answers calls, with a state of its own. -/
abbrev Wire (σ : Type) := Call → σ → Reply × σ

/-- Why a request brought no usable answer. -/
inductive ExchangeError where
  | notUrl
  | notWeb (url : String)
  | noReply (url : String)
  | badStatus (status : Nat) (url : String)
  | badBody
deriving Repr, DecidableEq

def ExchangeError.message : ExchangeError → String
  | .notUrl => "builder error"
  | .notWeb url => "builder error for url (" ++ url ++ ")"
  | .noReply url => "error sending request for url (" ++ url ++ ")"
  | .badStatus status url =>
    "HTTP status " ++ (if Status.isClientError status then "client" else "server") ++
      " error (" ++ Status.text status ++ ") for url (" ++ url ++ ")"
  | .badBody => "error decoding response body"

/-- An answer, with the URL that it came from. -/
structure Answer where
  status : Nat
  body : String
  url : String
deriving Repr, DecidableEq

namespace Answer

/-- The answer, unless its status says that the request failed. -/
def checked (a : Answer) : Except ExchangeError Answer :=
  if Status.isClientError a.status || Status.isServerError a.status then
    .error (.badStatus a.status a.url)
  else .ok a

end Answer

/-- A URL without user name and password. -/
def withoutCredentials (u : Url) : Url :=
  { u with authority := u.authority.map fun a => { a with username := "", password := "" } }

/-- The call that a request for an address makes. Only addresses of the web can be called. -/
def callOf (method : Method) (address : String) (body : Option Tree) : Except ExchangeError Call :=
  match Url.parse address with
  | .error _ => .error .notUrl
  | .ok parsed =>
    let url := withoutCredentials parsed
    if url.host.isSome && (url.scheme = "http" || url.scheme = "https") then
      .ok ⟨method, url, body⟩
    else .error (.notWeb url.text)

/-- Whether a request for an address can be sent at all. -/
def isCallable (address : String) : Bool :=
  (callOf .get address none).isOk

/-- Sends a request. -/
def send {σ : Type} (wire : Wire σ) (method : Method) (address : String) (body : Option Tree)
    (s : σ) : Except ExchangeError Answer × σ :=
  match callOf method address body with
  | .error e => (.error e, s)
  | .ok call =>
    match wire call s with
    | (.dropped, s) => (.error (.noReply call.url.text), s)
    | (.answer status body, s) => (.ok ⟨status, body, call.url.text⟩, s)

end Switchboard.Http
