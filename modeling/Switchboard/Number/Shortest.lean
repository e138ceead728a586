import Switchboard.Number.Binary

namespace Switchboard.Number

/-- `coefficient · 10 ^ exponent`. -/
structure Decimal where
  coefficient : Nat
  exponent : Int
deriving Repr, DecidableEq

/-- Ten units of one place are one unit of the next: a nine that was rounded up. -/
def Decimal.carried (d : Decimal) : Decimal :=
  if d.coefficient = 10 then ⟨1, d.exponent + 1⟩ else d

/-- The numbers that round to a given one, in quarters of its last place: from `low` to `high`
around `4 · mantissa`, with the ends included where `closed`. -/
structure Interval where
  low : Nat
  high : Nat
  closed : Bool

def Format.interval (f : Format) (x : Scaled) : Interval :=
  let lower := if x.mantissa = Nat.pow 2 (f.precision - 1) && f.least < x.exponent then 1 else 2
  ⟨4 * x.mantissa - lower, 4 * x.mantissa + 2, x.mantissa % 2 == 0⟩

/-- `n · 10 ^ e` as a fraction. -/
def tenPower (n : Nat) (e : Int) : Nat × Nat :=
  if e < 0 then (n, Nat.pow 10 e.natAbs) else (n * Nat.pow 10 e.natAbs, 1)

/-- The exponent `k` with `10 ^ k ≤ num / den < 10 ^ (k + 1)`. -/
def decimalExponent (num den : Nat) : Int :=
  if den ≤ num then (Nat.toDigits 10 (num / den)).length - 1
  else
    let places := (Nat.toDigits 10 (den / num)).length
    if den ≤ num * Nat.pow 10 (places - 1) then -((places : Int) - 1) else -(places : Int)

namespace Format

/-- Whether `coefficient · 10 ^ exponent` rounds to `x`. -/
def readsBack (f : Format) (x : Scaled) (d : Decimal) : Bool :=
  let i := f.interval x
  let (n, den) := tenPower d.coefficient d.exponent
  let (n, den) := inUnits (4 * n) den x.exponent
  if i.closed then i.low * den ≤ n && n ≤ i.high * den else i.low * den < n && n < i.high * den

/-- The better of the two neighbours of `x` on the grid of multiples of `10 ^ exponent`, if one of
them reads back. Of two at the same distance it is the larger. -/
def onGrid (f : Format) (x : Scaled) (exponent : Int) : Option Decimal :=
  let (num, den) := inUnits x.mantissa 1 (-x.exponent)
  let (num, den) := let (n, d) := tenPower 1 (-exponent); (num * n, den * d)
  let below := num / den
  let down : Decimal := ⟨below, exponent⟩
  let up : Decimal := ⟨below + 1, exponent⟩
  match decide (0 < below) && f.readsBack x down, f.readsBack x up with
  | true, true => some (if den ≤ 2 * (num % den) then up else down)
  | true, false => some down
  | false, true => some up
  | false, false => none

/-- The first grid with a neighbour that reads back, from coarse to fine. -/
def firstGrid (f : Format) (x : Scaled) (top : Int) : List Nat → Decimal
  | [] => ⟨x.mantissa, x.exponent⟩
  | places :: more =>
    match f.onGrid x (top + 1 - places) with
    | some d => d
    | none => firstGrid f x top more

/-- The shortest decimal that reads back as `x`, which is not zero. -/
def shortest (f : Format) (x : Scaled) : Decimal :=
  let (num, den) := inUnits x.mantissa 1 (-x.exponent)
  (f.firstGrid x (decimalExponent num den) ((List.range 17).map (· + 1))).carried

end Format

/-- How a decimal is written: positionally while its leading digit stands for a power of ten from
`least` to `greatest`, and with an exponent outside. -/
structure Layout where
  least : Int
  greatest : Int
  plus : Bool

namespace Layout

/-- Positional throughout. -/
def positional : Layout := ⟨-10000, 10000, false⟩

/-- For diagnostics: `1e16`, `1.5e-7`. -/
def terse : Layout := ⟨-4, 15, false⟩

/-- For documents: `1e+16`, `0.00001`, `1.5e-7`. -/
def signed : Layout := ⟨-5, 15, true⟩

def exponentText (l : Layout) (e : Int) : String :=
  (if e < 0 then "-" else if l.plus then "+" else "") ++ toString e.natAbs

/-- A whole number keeps `.0` when written positionally. -/
def write (l : Layout) (d : Decimal) : String :=
  let digits := Nat.toDigits 10 d.coefficient
  let top : Int := d.exponent + digits.length - 1
  if l.least ≤ top && top ≤ l.greatest then
    if 0 ≤ d.exponent then
      String.ofList (digits ++ List.replicate d.exponent.toNat '0' ++ ['.', '0'])
    else if 0 ≤ top then
      let (whole, fraction) := digits.splitAt (top.toNat + 1)
      String.ofList (whole ++ '.' :: fraction)
    else
      String.ofList (['0', '.'] ++ List.replicate (-top - 1).toNat '0' ++ digits)
  else
    let mantissa := match digits with
      | [] => []
      | [c] => [c]
      | c :: cs => c :: '.' :: cs
    String.ofList mantissa ++ "e" ++ l.exponentText top

end Layout

namespace Binary64

/-- The text of a finite number. -/
def text (l : Layout) (x : Binary64) : String :=
  let (negative, magnitude) := x.toScaled
  (if negative then "-" else "") ++
    if magnitude.mantissa = 0 then "0.0" else l.write (Format.double.shortest magnitude)

end Binary64

end Switchboard.Number
