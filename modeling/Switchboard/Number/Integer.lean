namespace Switchboard.Number

/-- The value of a character as a decimal digit. -/
def digit? (c : Char) : Option Nat :=
  if c.isDigit then some (c.toNat - 48) else none

/-- The number that a run of decimal digits writes, on top of `acc`. -/
def ofDigits (acc : Nat) : List Char → Option Nat
  | [] => some acc
  | c :: cs =>
    match digit? c with
    | some d => ofDigits (10 * acc + d) cs
    | none => none

/-- One or more decimal digits. -/
def natural? : List Char → Option Nat
  | [] => none
  | c :: cs => ofDigits 0 (c :: cs)

/-- An integer between `least` and `most`. A sign may stand in front, but a minus only where the
range has negative numbers. -/
def integer? (least most : Int) (cs : List Char) : Option Int :=
  let value := match cs with
    | '+' :: ds => (natural? ds).map Int.ofNat
    | '-' :: ds => if least < 0 then (natural? ds).map fun n => -(n : Int) else none
    | ds => (natural? ds).map Int.ofNat
  value.filter fun n => least ≤ n && n ≤ most

/-- A signed integer of 64 bits. -/
def int64? (s : String) : Option Int :=
  integer? (-Int.pow 2 63) (Int.pow 2 63 - 1) s.toList

/-- A signed integer of 32 bits. -/
def int32? (s : String) : Option Int :=
  integer? (-Int.pow 2 31) (Int.pow 2 31 - 1) s.toList

/-- An unsigned integer of 32 bits. -/
def uint32? (cs : List Char) : Option Nat :=
  (integer? 0 (Int.pow 2 32 - 1) cs).map Int.toNat

end Switchboard.Number
