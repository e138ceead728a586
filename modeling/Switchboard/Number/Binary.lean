/-!
Binary floating-point numbers in exact arithmetic. A finite number is `mantissa · 2 ^ exponent`, and
every operation rounds the exact result to the nearest number of the format, ties to the even
mantissa.
-/

namespace Switchboard.Number

/-- A format with `width` bits in all and `precision` bits in the mantissa. `least` and `greatest`
bound the exponent of the mantissa's last bit. -/
structure Format where
  width : Nat
  precision : Nat
  least : Int
  greatest : Int
deriving Repr, DecidableEq

namespace Format

def double : Format := ⟨64, 53, -1074, 971⟩

def single : Format := ⟨32, 24, -149, 104⟩

end Format

/-- A non-negative number `mantissa · 2 ^ exponent`. -/
structure Scaled where
  mantissa : Nat
  exponent : Int
deriving Repr, DecidableEq

/-- `num / den` to the nearest integer, a half to the even one. -/
def roundQuotient (num den : Nat) : Nat :=
  let q := num / den
  let r := num % den
  if den < 2 * r || (2 * r == den && q % 2 == 1) then q + 1 else q

def bitLength (n : Nat) : Nat :=
  if n = 0 then 0 else n.log2 + 1

/-- `num / den` in units of `2 ^ exponent`, as a fraction. -/
def inUnits (num den : Nat) (exponent : Int) : Nat × Nat :=
  if exponent < 0 then (num * Nat.pow 2 exponent.natAbs, den)
  else (num, den * Nat.pow 2 exponent.natAbs)

namespace Format

/-- The number of the format nearest to `num / den`, or none where that is beyond the largest. -/
def round (f : Format) (num den : Nat) : Option Scaled :=
  if num = 0 then some ⟨0, f.least⟩
  else
    let guess := max f.least ((bitLength num : Int) - bitLength den - f.precision)
    let (n, d) := inUnits num den guess
    let exponent := if Nat.pow 2 f.precision ≤ n / d then guess + 1 else guess
    let (n, d) := inUnits num den exponent
    let m := roundQuotient n d
    let result : Scaled :=
      if m = Nat.pow 2 f.precision then ⟨m / 2, exponent + 1⟩ else ⟨m, exponent⟩
    if result.exponent ≤ f.greatest then some result else none

def product (f : Format) (x y : Scaled) : Option Scaled :=
  let e := x.exponent + y.exponent
  let (n, d) := inUnits (x.mantissa * y.mantissa) 1 (-e)
  f.round n d

/-- The quotient by a number other than zero. -/
def quotient (f : Format) (x y : Scaled) : Option Scaled :=
  let (n, d) := inUnits x.mantissa y.mantissa (y.exponent - x.exponent)
  f.round n d

/-- The number nearest to `coefficient · 10 ^ exponent`. Exponents far outside the format are
decided without computing the power. -/
def ofDecimal (f : Format) (coefficient : Nat) (exponent : Int) : Option Scaled :=
  if coefficient = 0 then some ⟨0, f.least⟩
  else if 400 < exponent then none
  else if exponent + (Nat.toDigits 10 coefficient).length < -400 then some ⟨0, f.least⟩
  else if exponent < 0 then f.round coefficient (Nat.pow 10 exponent.natAbs)
  else f.round (coefficient * Nat.pow 10 exponent.natAbs) 1

/-- The bits of the encoding, sign apart. -/
def magnitudeBits (f : Format) (x : Scaled) : Nat :=
  let hidden := Nat.pow 2 (f.precision - 1)
  if x.mantissa < hidden then x.mantissa
  else (x.exponent - f.least + 1).toNat * hidden + (x.mantissa - hidden)

def bits (f : Format) (negative : Bool) (x : Scaled) : Nat :=
  (if negative then Nat.pow 2 (f.width - 1) else 0) + f.magnitudeBits x

/-- The bits of an infinite number. -/
def infinityBits (f : Format) (negative : Bool) : Nat :=
  (if negative then Nat.pow 2 (f.width - 1) else 0) +
    (f.greatest - f.least + 2).toNat * Nat.pow 2 (f.precision - 1)

/-- The sign and magnitude that finite bits encode. -/
def ofBits (f : Format) (n : Nat) : Bool × Scaled :=
  let hidden := Nat.pow 2 (f.precision - 1)
  let rest := n % Nat.pow 2 (f.width - 1)
  let field := rest / hidden
  let fraction := rest % hidden
  (n / Nat.pow 2 (f.width - 1) % 2 == 1,
    if field = 0 then ⟨fraction, f.least⟩ else ⟨fraction + hidden, field - 1 + f.least⟩)

end Format

/-- A number in the binary64 format, kept as its bits so that zeros of both signs differ. -/
structure Binary64 where
  bits : UInt64
deriving Repr, DecidableEq

namespace Binary64

def ofScaled (negative : Bool) (x : Scaled) : Binary64 :=
  ⟨UInt64.ofNat (Format.double.bits negative x)⟩

def infinity (negative : Bool) : Binary64 :=
  ⟨UInt64.ofNat (Format.double.infinityBits negative)⟩

def toScaled (x : Binary64) : Bool × Scaled :=
  Format.double.ofBits x.bits.toNat

/-- Neither infinite nor a NaN. -/
def isFinite (x : Binary64) : Bool :=
  x.bits.toNat / Nat.pow 2 52 % 2048 ≠ 2047

/-- The number nearest to an integer of at most 64 bits. -/
def ofInt (n : Int) : Binary64 :=
  match Format.double.round n.natAbs 1 with
  | some x => ofScaled (n < 0) x
  | none => infinity (n < 0)

end Binary64

end Switchboard.Number
