import Switchboard.Directory.Droplet

namespace Switchboard.Directory

open Service Http

/-- A directory that knows one instance: the machine itself, as the metadata service of the cloud
describes it. The description is fetched until it is usable, and then kept. -/
structure Metadata where
  service : String
  url : String
  port : Nat
  scheme : String
  known : Option Instance
deriving Repr, DecidableEq

namespace Metadata

/-- Where the metadata service answers unless another address is given. -/
def defaultUrl : String := "http://169.254.169.254/metadata/v1.json"

def forService (service url : String) (port : Nat) : Metadata :=
  ⟨hyphenate service, url, port, "http", none⟩

def withScheme (m : Metadata) (scheme : String) : Metadata :=
  { m with scheme }

/-- The instance that an answer describes. -/
def describedBy (m : Metadata) (answer : Except ExchangeError Answer) : Except Error Instance := do
  let answer ← (answer.bind Answer.checked).mapError .exchange
  let droplet ← Droplet.parse answer.body
  droplet.toInstance m.service m.scheme m.port

/-- The machine's own instance. -/
def localInstance {σ : Type} (wire : Wire σ) (m : Metadata) (s : σ) :
    Except Error Instance × Metadata × σ :=
  match m.known with
  | some i => (.ok i, m, s)
  | none =>
    let (answer, s) := send wire .get m.url none s
    match m.describedBy answer with
    | .ok i => (.ok i, { m with known := some i }, s)
    | .error e => (.error e, m, s)

/-- No other service is known here. -/
def instancesOf {σ : Type} (wire : Wire σ) (m : Metadata) (service : String) (s : σ) :
    Except Error (List Instance) × Metadata × σ :=
  if hyphenate service = m.service then
    let (result, m, s) := m.localInstance wire s
    (result.map ([·]), m, s)
  else (.ok [], m, s)

/-- Whether a query for a service has to fetch the description. -/
def asksNetwork (m : Metadata) (service : String) : Bool :=
  hyphenate service = m.service && m.known.isNone && isCallable m.url

end Metadata

end Switchboard.Directory
