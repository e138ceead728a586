import Switchboard.Number.Integer
import Switchboard.Number.Shortest

namespace Switchboard.Number

inductive Literal where
  | finite (negative : Bool) (value : Decimal)
  | infinite (negative : Bool)
  | undefined
deriving Repr, DecidableEq

namespace Literal

/-- The exponent after its letter. -/
def exponent? (cs : List Char) : Option Int :=
  match cs with
  | [] => some 0
  | c :: ds =>
    if c = 'e' || c = 'E' then
      match ds with
      | '+' :: ds => (natural? ds).map Int.ofNat
      | '-' :: ds => (natural? ds).map fun n => -(n : Int)
      | ds => (natural? ds).map Int.ofNat
    else none

/-- Digits around an optional point, at least one in all, and an optional exponent. -/
def magnitude? (cs : List Char) : Option Decimal :=
  let whole := cs.takeWhile Char.isDigit
  let rest := cs.dropWhile Char.isDigit
  let (fraction, rest) := match rest with
    | '.' :: more => (more.takeWhile Char.isDigit, more.dropWhile Char.isDigit)
    | _ => ([], rest)
  match natural? (whole ++ fraction), exponent? rest with
  | some n, some e => some ⟨n, e - fraction.length⟩
  | _, _ => none

def unsigned? (negative : Bool) (cs : List Char) : Option Literal :=
  let word := String.ofList (cs.map Char.toLower)
  if word = "inf" || word = "infinity" then some (.infinite negative)
  else if word = "nan" then some .undefined
  else (magnitude? cs).map (.finite negative)

def read? (s : String) : Option Literal :=
  match s.toList with
  | '+' :: cs => unsigned? false cs
  | '-' :: cs => unsigned? true cs
  | cs => unsigned? false cs

end Literal

end Switchboard.Number
