import Switchboard.Config.Error
import Switchboard.Http.Exchange
import Switchboard.Service.Instance

namespace Switchboard.Service

inductive Error where
  | notFound (name : String)
  | notRegistered (answer : String)
  | notDeregistered (answer : String)
  | lookupFailed (host reason : String)
  | badAddress (address : String) (cause : Url.Error)
  | notListed (status : Nat)
  | unusableAddress (uri : String)
  | panicked
  | failed (reason : String)
  | malformedMetadata
  | noAddress
  | exchange (cause : Http.ExchangeError)
  | badUri (written : String) (cause : Url.Error)
  | badConsulUrl (written : String) (cause : Url.Error)
  | rejected (cause : Config.Error)
  | unbuildable (kind : String) (cause : Error)
  | backend (name : String) (cause : Error)
  | close (first : Error) (failures : Nat)
  | closed (name : String)
deriving Repr

namespace Error

def resolution (reason : String) : String :=
  "Resolution failed: " ++ reason

def configuration (reason : String) : String :=
  "Invalid configuration: " ++ reason

def message : Error → String
  | .notFound name => "Service not found: " ++ name
  | .notRegistered answer => "Registration failed: " ++ answer
  | .notDeregistered answer => "Deregistration failed: " ++ answer
  | .lookupFailed host reason => resolution (host ++ ": " ++ reason)
  | .badAddress address cause => resolution (address ++ ": " ++ cause.message)
  | .notListed status => resolution ("Failed to list services: " ++ Http.Status.text status)
  | .unusableAddress uri => resolution ("Consul returned unusable address '" ++ uri ++ "'")
  | .panicked => resolution "backend panicked"
  | .failed reason => resolution reason
  | .malformedMetadata => "Invalid instance metadata: Malformed metadata document"
  | .noAddress => "Invalid instance metadata: No IPv4 address in metadata"
  | .exchange cause => "HTTP error: " ++ cause.message
  | .badUri written cause =>
    configuration ("Invalid URI '" ++ written ++ "': " ++ cause.message)
  | .badConsulUrl written cause =>
    configuration ("Invalid Consul URL '" ++ written ++ "': " ++ cause.message)
  | .rejected cause => configuration cause.message
  | .unbuildable kind cause => configuration (kind ++ " backend: " ++ cause.message)
  | .backend name cause => "Discovery backend " ++ name ++ " failed: " ++ cause.message
  | .close first failures =>
    "Failed to close " ++ toString failures ++ " discovery backend(s), first error: " ++
      first.message
  | .closed name => "Discovery client is closed: " ++ name

end Error

/-- A new instance at an address as it is written. -/
def Instance.ofText (id service uri : String) : Except Error Instance :=
  match Url.parse uri with
  | .ok url => .ok (.ofUrl id service url)
  | .error cause => .error (.badUri uri cause)

end Switchboard.Service
