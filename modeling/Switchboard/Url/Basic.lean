import Switchboard.Url.Address

namespace Switchboard

/-- Why a text is no absolute URL. -/
inductive Url.Error where
  | relative
  | emptyHost
  | badPort
  | badIpv4
  | badIpv6
  | badDomain
  | badDomainCharacter
deriving Repr, DecidableEq

namespace Url

def Error.message : Error → String
  | .relative => "relative URL without a base"
  | .emptyHost => "empty host"
  | .badPort => "invalid port number"
  | .badIpv4 => "invalid IPv4 address"
  | .badIpv6 => "invalid IPv6 address"
  | .badDomain => "invalid international domain name"
  | .badDomainCharacter => "invalid domain character"

inductive Host where
  | domain (name : String)
  | address (a : Address)
deriving Repr, DecidableEq

def Host.text : Host → String
  | .domain name => name
  | .address (.v4 n) => Address.v4Text n
  | .address (.v6 gs) => "[" ++ Address.v6Text gs ++ "]"

/-- What follows `//`: credentials, a host, which may be missing, and a port other than the default
of the scheme. -/
structure Authority where
  username : String
  password : String
  host : Option Host
  port : Option Nat
deriving Repr, DecidableEq

/-- A path of segments that each follow a slash, or a text without structure. -/
inductive Path where
  | segments (names : List String)
  | plain (text : String)
deriving Repr, DecidableEq

end Url

structure Url where
  scheme : String
  authority : Option Url.Authority
  path : Url.Path
  query : Option String
  fragment : Option String
deriving Repr, DecidableEq

namespace Url

def Authority.credentials (a : Authority) : String :=
  if a.username = "" && a.password = "" then ""
  else a.username ++ (if a.password = "" then "" else ":" ++ a.password) ++ "@"

def Authority.text (a : Authority) : String :=
  a.credentials ++ (match a.host with | some h => h.text | none => "") ++
    match a.port with
    | some p => ":" ++ toString p
    | none => ""

def Path.text : Path → String
  | .segments names => String.join (names.map ("/" ++ ·))
  | .plain text => text

/-- The port that a scheme stands for. -/
def defaultPort (scheme : String) : Option Nat :=
  if scheme = "http" || scheme = "ws" then some 80
  else if scheme = "https" || scheme = "wss" then some 443
  else if scheme = "ftp" then some 21
  else none

/-- Without an authority a path must not begin with two slashes, so `/.` stands in front of it. -/
def guard (u : Url) : String :=
  match u.authority, u.path with
  | none, .segments ("" :: _ :: _) => "/."
  | _, _ => ""

def text (u : Url) : String :=
  u.scheme ++ ":" ++ (match u.authority with | some a => "//" ++ a.text | none => "") ++
    u.guard ++ u.path.text ++
    (match u.query with | some q => "?" ++ q | none => "") ++
    (match u.fragment with | some f => "#" ++ f | none => "")

def host (u : Url) : Option Host :=
  u.authority.bind (·.host)

/-- The port written, or the one the scheme stands for. -/
def port (u : Url) : Option Nat :=
  match u.authority.bind (·.port) with
  | some p => some p
  | none => defaultPort u.scheme

end Url

end Switchboard
