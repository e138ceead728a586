import Switchboard.Tree.Basic

namespace Switchboard.Json

open Number

/-- A number as written: its integer digits, the digits after the point if there is one, and the
exponent's sign and digits if there is one. -/
structure Numeral where
  negative : Bool
  whole : List Nat
  fraction : Option (List Nat)
  exponent : Option (Bool × List Nat)
deriving Repr, DecidableEq

/-- What a JSON text says before it is given a meaning. A document keeps every member of an object
in the order written, numbers as their digits, and strings whose escapes name no character as
unreadable, so that a reader can skip what it does not look at. -/
inductive Document where
  | null
  | bool (value : Bool)
  | number (numeral : Numeral)
  | text (value : Option String)
  | list (items : List Document)
  | object (members : List (Option String × Document))
deriving Repr, Inhabited

/-- The longest run of digits whose value fits 64 bits, on top of a value already read, and the
digits left over. -/
def takeSignificant (acc : Nat) : List Nat → Nat × List Nat
  | [] => (acc, [])
  | d :: ds =>
    if 10 * acc + d < Nat.pow 2 64 then takeSignificant (10 * acc + d) ds else (acc, d :: ds)

/-- The number nearest to `10 ^ n`. -/
def powerOfTen (n : Nat) : Option Scaled :=
  Format.double.round (Nat.pow 10 n) 1

/-- The largest exponent whose power of ten the format has. -/
def largestPower : Nat := 308

/-- Divides by the largest power of ten `steps` times and then by `10 ^ last`. -/
def divideDown (last : Nat) : Nat → Scaled → Option Scaled
  | 0, x => (powerOfTen last).bind (Format.double.quotient x)
  | steps + 1, x =>
    if x.mantissa = 0 then some x
    else ((powerOfTen largestPower).bind (Format.double.quotient x)).bind (divideDown last steps)

/-- `x / 10 ^ n`. Beyond the largest power of ten the division is made in steps of that power. -/
def scaleDown (x : Scaled) (n : Nat) : Option Scaled :=
  let steps := (n - 1) / largestPower
  divideDown (n - steps * largestPower) steps x

/-- `x · 10 ^ n`, or none where that leaves the format. -/
def scaleUp (x : Scaled) (n : Nat) : Option Scaled :=
  if n ≤ largestPower then (powerOfTen n).bind (Format.double.product x)
  else if x.mantissa = 0 then some x
  else none

/-- The number `significand · 10 ^ exponent`: the significand, the power of ten and their product or
quotient are each rounded. -/
def scale (significand : Nat) (exponent : Int) : Option Scaled :=
  (Format.double.round significand 1).bind fun x =>
    if exponent < 0 then scaleDown x exponent.natAbs else scaleUp x exponent.toNat

namespace Numeral

/-- The digits that count and the power of ten they are multiplied by, exponent part apart. Digits
that do not fit 64 bits are dropped; those before the point still count towards the power. -/
def parts (n : Numeral) : Nat × Int :=
  let (significand, rest) := takeSignificant 0 n.whole
  match n.fraction with
  | none => (significand, rest.length)
  | some ds =>
    let (all, beyond) := takeSignificant significand ds
    (all, (rest.length : Int) - (ds.length - beyond.length : Nat))

def digitsValue (ds : List Nat) : Nat :=
  ds.foldl (fun acc d => 10 * acc + d) 0

/-- A real number, or none where it is too large. An exponent beyond 32 bits leaves zero
or nothing. -/
def real? (n : Numeral) : Option Binary64 :=
  let (significand, power) := n.parts
  match n.exponent with
  | none => (scale significand power).map (Binary64.ofScaled n.negative)
  | some (down, ds) =>
    let e := digitsValue ds
    if Int.pow 2 31 ≤ e then
      if significand ≠ 0 && !down then none
      else some (Binary64.ofScaled n.negative ⟨0, Format.double.least⟩)
    else
      let total : Int := if down then power - e else power + e
      (scale significand (max (-Int.pow 2 31) (min (Int.pow 2 31 - 1) total))).map
        (Binary64.ofScaled n.negative)

/-- A number without fraction and exponent is whole if it fits the range of whole numbers, except
that a negative zero is a real number. -/
def toTree? (n : Numeral) : Option Tree :=
  let value := digitsValue n.whole
  if n.fraction.isSome || n.exponent.isSome || Nat.pow 2 64 ≤ value then n.real?.map .real
  else if n.negative then
    if value = 0 then some (.real (Binary64.ofScaled true ⟨0, Format.double.least⟩))
    else if Nat.pow 2 63 < value then some (.real (Binary64.ofInt (-(value : Int))))
    else some (.whole (-(value : Int)))
  else some (.whole value)

end Numeral

/-- How deep containers may nest. -/
def depthLimit : Nat := 127

mutual

/-- The value of a document that may still nest `room` containers. Of members with one name the last
counts. -/
def toTree? (room : Nat) : Document → Option Tree
  | .null => some .null
  | .bool b => some (.bool b)
  | .number n => n.toTree?
  | .text s => s.map .text
  | .list items =>
    match room with
    | 0 => none
    | room + 1 => (toTrees? room items).map .list
  | .object members =>
    match room with
    | 0 => none
    | room + 1 => (toFields? room members).map fun fs => .record (Tree.Fields.ofList fs)

def toTrees? (room : Nat) : List Document → Option (List Tree)
  | [] => some []
  | d :: ds =>
    match toTree? room d with
    | some t => (toTrees? room ds).map (t :: ·)
    | none => none

def toFields? (room : Nat) : List (Option String × Document) → Option (List (String × Tree))
  | [] => some []
  | (name, d) :: rest =>
    match name, toTree? room d with
    | some n, some t => (toFields? room rest).map ((n, t) :: ·)
    | _, _ => none

end

end Switchboard.Json
