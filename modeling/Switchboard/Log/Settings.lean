import Switchboard.Environment
import Switchboard.Text.Blank
import Switchboard.Text.Case

namespace Switchboard.Log

open Text

/-- From the most talkative level to silence. -/
inductive Level where
  | trace
  | debug
  | info
  | warn
  | error
  | off
deriving Repr, DecidableEq

namespace Level

def rank : Level → Nat
  | .trace => 0
  | .debug => 1
  | .info => 2
  | .warn => 3
  | .error => 4
  | .off => 5

def le (a b : Level) : Bool :=
  a.rank ≤ b.rank

/-- The level as filters write it. -/
def directive : Level → String
  | .trace => "trace"
  | .debug => "debug"
  | .info => "info"
  | .warn => "warn"
  | .error => "error"
  | .off => "off"

def text : Level → String
  | .trace => "TRACE"
  | .debug => "DEBUG"
  | .info => "INFO"
  | .warn => "WARN"
  | .error => "ERROR"
  | .off => "OFF"

def names : List (String × Level) :=
  [("trace", .trace), ("debug", .debug), ("info", .info), ("warn", .warn), ("warning", .warn),
    ("error", .error), ("off", .off), ("none", .off)]

/-- The level that a name stands for, in any letter case and with blanks around it. -/
def ofName? (s : String) : Option Level :=
  (names.find? (·.1 = lowerText (trim s))).map (·.2)

end Level

inductive Format where
  | pretty
  | compact
  | json
deriving Repr, DecidableEq

namespace Format

def text : Format → String
  | .pretty => "Pretty"
  | .compact => "Compact"
  | .json => "Json"

def names : List (String × Format) :=
  [("pretty", .pretty), ("compact", .compact), ("json", .json)]

def ofName? (s : String) : Option Format :=
  (names.find? (·.1 = lowerText (trim s))).map (·.2)

end Format

structure Settings where
  level : Level
  format : Format
  color : Bool
  timestamps : Bool
  targets : Bool
deriving Repr, DecidableEq

namespace Settings

def standard : Settings :=
  ⟨.info, .json, false, true, true⟩

/-- Whether a variable switches something on, if it is set. -/
def switch? (environment : Environment) (name : String) : Option Bool :=
  (environment.value? name).map fun v => v = "1" || asciiSame v "true"

/-- Colors are used on a terminal unless they are declined, and never for JSON. -/
def colorOf (environment : Environment) (format : Format) : Bool :=
  let wanted := (switch? environment "TRELLIS_LOG_COLOR").getD
    ((environment.value? "NO_COLOR").isNone && (environment.value? "TERM").isSome)
  wanted && format ≠ .json

/-- The settings that an environment makes; values that cannot be read do not count. -/
def ofEnvironment (environment : Environment) : Settings :=
  let debug := (switch? environment "TRELLIS_DEBUG").getD false
  let level := ((environment.value? "TRELLIS_LOG_LEVEL").bind Level.ofName?).getD
    (if debug then .debug else .info)
  let format := ((environment.value? "TRELLIS_LOG_FORMAT").bind Format.ofName?).getD .json
  { level, format
    color := colorOf environment format
    timestamps := (switch? environment "TRELLIS_LOG_TIMESTAMPS").getD true
    targets := true }

end Settings

end Switchboard.Log
