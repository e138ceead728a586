import Switchboard.Log.Settings
import Switchboard.Number.Literal
import Switchboard.Text.Cut
import Switchboard.Text.Word

namespace Switchboard.Log

open Text Number

/-- The value that a field is compared with. A text that is none of the others is a pattern. -/
inductive FieldValue where
  | bool (value : Bool)
  | real (value : Binary64)
  | undefined
  | natural (value : Nat)
  | signed (value : Int)
  | pattern (text : String)
deriving Repr, DecidableEq

namespace FieldValue

def real? (s : String) : Option FieldValue :=
  match Literal.read? s with
  | none => none
  | some .undefined => some .undefined
  | some (.infinite negative) => some (.real (Binary64.infinity negative))
  | some (.finite negative d) =>
    match Format.double.ofDecimal d.coefficient d.exponent with
    | some x => some (.real (Binary64.ofScaled negative x))
    | none => some (.real (Binary64.infinity negative))

def ofText (s : String) : FieldValue :=
  if s = "true" then .bool true
  else if s = "false" then .bool false
  else
    match integer? 0 (Int.pow 2 64 - 1) s.toList with
    | some n => .natural n.toNat
    | none =>
      match int64? s with
      | some n => .signed n
      | none => (real? s).getD (.pattern s)

/-- A real number in full, a whole one without a point. -/
def realText (x : Binary64) : String :=
  if x.isFinite then
    let s := x.text .positional
    match s.toList.reverse with
    | '0' :: '.' :: rest => String.ofList rest.reverse
    | _ => s
  else if x.toScaled.1 then "-inf" else "inf"

def text : FieldValue → String
  | .bool b => if b then "true" else "false"
  | .real x => realText x
  | .undefined => "NaN"
  | .natural n => toString n
  | .signed n => toString n
  | .pattern s => s

/-- A number that orders real numbers. -/
def realKey (x : Binary64) : Int :=
  let magnitude : Int := x.bits.toNat % Int.pow 2 63
  if x.toScaled.1 then -magnitude else magnitude

def compare : FieldValue → FieldValue → Ordering
  | .bool a, .bool b => Ord.compare a b
  | .bool _, _ => .lt
  | _, .bool _ => .gt
  | .real a, .real b => Ord.compare (realKey a) (realKey b)
  | .real _, _ => .lt
  | _, .real _ => .gt
  | .undefined, .undefined => .eq
  | .undefined, _ => .lt
  | _, .undefined => .gt
  | .natural a, .natural b => Ord.compare a b
  | .natural _, _ => .lt
  | _, .natural _ => .gt
  | .signed a, .signed b => Ord.compare a b
  | .signed _, _ => .lt
  | _, .signed _ => .gt
  | .pattern a, .pattern b => Ord.compare a b

end FieldValue

/-- A field that a span has to have, perhaps with a value. -/
structure FieldMatch where
  name : String
  value : Option FieldValue
deriving Repr, DecidableEq

namespace FieldMatch

/-- What stands between the first and the second `=` is the value. -/
def ofText (s : String) : FieldMatch :=
  match split '=' s with
  | name :: value :: _ => ⟨name, some (.ofText value)⟩
  | _ => ⟨s, none⟩

def text (f : FieldMatch) : String :=
  f.name ++ match f.value with
    | some v => "=" ++ v.text
    | none => ""

end FieldMatch

/-- Compares a missing item as the least. -/
def compareOption {α : Type} (compare : α → α → Ordering) : Option α → Option α → Ordering
  | none, none => .eq
  | none, some _ => .lt
  | some _, none => .gt
  | some a, some b => compare a b

structure Directive where
  level : Level
  target : Option String
  span : Option String
  field : Option FieldMatch
deriving Repr, DecidableEq

namespace Directive

def levelNames : List (String × Level) :=
  [("error", .error), ("warn", .warn), ("info", .info), ("debug", .debug), ("trace", .trace),
    ("off", .off)]

/-- The level from 0, silence, to 5. -/
def levelOfNumber? (n : Int) : Option Level :=
  [Level.off, .error, .warn, .info, .debug, .trace][n.toNat]?

/-- A level by number, or by name in any letter case. -/
def level? (s : String) : Option Level :=
  match (integer? 0 (Int.pow 2 64 - 1) s.toList).bind levelOfNumber? with
  | some l => some l
  | none => (levelNames.find? (asciiSame ·.1 s)).map (·.2)

/-- Where a reader stands: at the front, in a level or a target, in a span, in a field, behind the
field, behind the span, or in a level. Each holds what it has read. -/
inductive Place where
  | start
  | levelOrTarget (taken : List Char)
  | span (taken : List Char)
  | field (taken : List Char)
  | behindField
  | behindSpan
  | level (taken : List Char)

def blank : Directive :=
  ⟨.trace, none, none, none⟩

def isStart (c : Char) : Bool :=
  c = '-' || c = ':' || c = '_' || isWord c

/-- The place behind the character `c`, with the parts of the directive that are read by then.
`kept` is the character that goes into the part. -/
def step (d : Directive) (c kept : Char) : Place → Option (Directive × Place)
  | .start =>
    if c = '[' then some (d, .span [])
    else if isStart c then some (d, .levelOrTarget [kept])
    else none
  | .levelOrTarget taken =>
    if c = '=' then some ({ d with target := some (String.ofList taken) }, .level [])
    else if c = '[' then some ({ d with target := some (String.ofList taken) }, .span [])
    else some (d, .levelOrTarget (taken ++ [kept]))
  | .span taken =>
    if c = ']' then some ({ d with span := some (String.ofList taken) }, .behindSpan)
    else if c = '\x7b' then
      some ({ d with span := if taken.isEmpty then none else some (String.ofList taken) },
        .field [])
    else some (d, .span (taken ++ [kept]))
  | .field taken =>
    if c = '\x7d' then
      if taken.isEmpty then none
      else some ({ d with field := some (.ofText (String.ofList taken)) }, .behindField)
    else some (d, .field (taken ++ [kept]))
  | .behindField => if c = ']' then some (d, .behindSpan) else none
  | .behindSpan => if c = '=' then some (d, .level []) else none
  | .level taken => some (d, .level (taken ++ [kept]))

/-- The directive at the end of the text, whose last part goes on with `rest`. What may be a level
is one if it can be. -/
def finish (d : Directive) (rest : List Char) : Place → Option Directive
  | .levelOrTarget taken =>
    let word := String.ofList (taken ++ rest)
    match level? word with
    | some l => some { d with level := l }
    | none => some { d with target := some word }
  | .level taken =>
    if (taken ++ rest).isEmpty then some d
    else (level? (String.ofList (taken ++ rest))).map fun l => { d with level := l }
  | .behindSpan => some d
  | _ => none

/-- Reads `cs` character by character, while the parts are cut out of `whole` at the same places. -/
def readFrom (d : Directive) (place : Place) : List Char → List Char → Option Directive
  | [], whole => finish d whole place
  | _ :: _, [] => none
  | c :: cs, kept :: whole => (step d c kept place).bind fun (d, place) => readFrom d place cs whole

/-- Blanks around a directive do not count for its form, but they are not taken out of its parts. -/
def parse? (s : String) : Option Directive :=
  readFrom blank .start (trimChars s.toList) s.toList

/-- Whether the directive looks at spans. -/
def isDynamic (d : Directive) : Bool :=
  d.span.isSome || d.field.isSome

/-- Whether the directive looks at targets and names of fields alone. -/
def isStatic (d : Directive) : Bool :=
  d.span.isNone && d.field.all (·.value.isNone)

def text (d : Directive) : String :=
  let place := (match d.target with | some t => t | none => "") ++
    if d.isDynamic then
      "[" ++ d.span.getD "" ++
        (match d.field with | some f => "\x7b" ++ f.text ++ "\x7d" | none => "") ++ "]"
    else ""
  (if d.target.isSome || d.isDynamic then place ++ "=" else "") ++ d.level.directive

def compareField (a b : FieldMatch) : Ordering :=
  (compare a.value.isSome b.value.isSome).then
    ((compare a.name b.name).then (compareOption FieldValue.compare a.value b.value))

def byteLength (s : String) : Nat :=
  s.utf8ByteSize

/-- By length of the target, presence of a span, number of fields, and then by the texts themselves.
Greater is more specific. -/
def compareSpecificity (a b : Directive) : Ordering :=
  (compareOption compare (a.target.map byteLength) (b.target.map byteLength)).then <|
  (compare a.span.isSome b.span.isSome).then <|
  (compare a.field.isSome b.field.isSome).then <|
  (compareOption compare a.target b.target).then <|
  (compareOption compare a.span b.span).then <|
  compareOption compareField a.field b.field

/-- Adds a directive behind all that are more specific, in place of one for the same things. -/
def insert (d : Directive) : List Directive → List Directive
  | [] => [d]
  | e :: es =>
    match compareSpecificity d e with
    | .eq => d :: es
    | .gt => d :: e :: es
    | .lt => e :: insert d es

end Directive

/-- Directives for targets and names of fields, and directives for spans. -/
structure Filter where
  statics : List Directive
  dynamics : List Directive
deriving Repr, DecidableEq

namespace Filter

def ofDirectives (ds : List Directive) : Filter :=
  let (dynamics, others) := ds.partition Directive.isDynamic
  let statics := (others ++ dynamics).filter Directive.isStatic
  let add (acc : List Directive) (d : Directive) := d.insert acc
  if ds.isEmpty then ⟨[{ Directive.blank with level := .error }], []⟩
  else ⟨statics.foldl add [], dynamics.foldl add []⟩

/-- Reads directives between commas. Without any, errors alone are let through. -/
def parse? (s : String) : Option Filter :=
  ((words ',' s).mapM Directive.parse?).map ofDirectives

def text (f : Filter) : String :=
  join "," ((f.statics ++ f.dynamics).map Directive.text)

/-- The filter that an environment sets, or else the one that lets a level through. -/
def ofEnvironment (environment : Environment) (level : Level) : String :=
  match (environment.value? "RUST_LOG").bind parse? with
  | some f => f.text
  | none => level.directive

end Filter

end Switchboard.Log
