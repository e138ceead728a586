import Switchboard.Http.MediaType
import Switchboard.Number.Literal

/-!
The `Accept` header: media ranges with qualities in thousandths. What a range does not mention has
quality 0, and among the ranges that cover a type the most specific one decides.
-/

namespace Switchboard.Http

open Text Number

/-- Ranges in order of preference: by falling quality, then by falling specificity. -/
structure Accept where
  ranges : List (MediaType × Nat)
deriving Repr, DecidableEq

namespace Accept

def fullQuality : Nat := 1000

/-- Takes anything. -/
def any : Accept := ⟨[(MediaType.any, fullQuality)]⟩

/-- A number to the nearest integer, a half upwards. -/
def roundHalfUp (x : Scaled) : Nat :=
  let (n, d) := inUnits x.mantissa 1 (-x.exponent)
  (2 * n + d) / (2 * d)

def atLeastOne (x : Scaled) : Bool :=
  let (n, d) := inUnits x.mantissa 1 (-x.exponent)
  d ≤ n

/-- A quality in thousandths. It is limited to the range from 0 to 1, and both the number and its
product with a thousand are rounded to single precision. -/
def thousandths : Literal → Nat
  | .undefined => 0
  | .infinite negative => if negative then 0 else fullQuality
  | .finite true _ => 0
  | .finite false d =>
    match Format.single.ofDecimal d.coefficient d.exponent with
    | none => fullQuality
    | some x =>
      if atLeastOne x then fullQuality
      else
        match (Format.single.round fullQuality 1).bind (Format.single.product x) with
        | some y => roundHalfUp y
        | none => fullQuality

/-- The value of the first parameter named `q`, if the part has one. -/
def qualityText? (part : String) : Option String :=
  let named := ((split ';' part).drop 1).filterMap fun p => cut? '=' (trim p)
  (named.find? fun (key, _) => asciiSame (trim key) "q").map fun (_, value) => trim value

/-- A missing or unreadable quality is the full one. -/
def qualityOf (part : String) : Nat :=
  match (qualityText? part).bind Literal.read? with
  | some l => thousandths l
  | none => fullQuality

/-- A usable range and its quality. -/
def range? (part : String) : Option (MediaType × Nat) :=
  let part := trim part
  if part = "" then none
  else (MediaType.parse? part).map fun m => (m, qualityOf part)

/-- Whether one range comes before another of the same list. -/
def precedes (a b : MediaType × Nat) : Bool :=
  b.2 < a.2 || (a.2 = b.2 && b.1.specificity ≤ a.1.specificity)

/-- A header without a usable range takes anything. -/
def parse (header : String) : Accept :=
  match (split ',' header).filterMap range? with
  | [] => any
  | ranges => ⟨ranges.mergeSort precedes⟩

/-- The last of the most specific ranges. -/
def mostSpecific : List (MediaType × Nat) → Option (MediaType × Nat)
  | [] => none
  | r :: rs =>
    match mostSpecific rs with
    | none => some r
    | some best => if best.1.specificity < r.1.specificity then some r else some best

/-- The quality that the header gives to a type. -/
def quality (a : Accept) (m : MediaType) : Nat :=
  match mostSpecific (a.ranges.filter (·.1.covers m)) with
  | some r => r.2
  | none => 0

def accepts (a : Accept) (m : MediaType) : Bool :=
  0 < a.quality m

/-- The quality as the bits of a single-precision number from 0 to 1. -/
def qualityBits (a : Accept) (m : MediaType) : Nat :=
  match Format.single.round (a.quality m) fullQuality with
  | some x => Format.single.bits false x
  | none => Format.single.infinityBits false

end Accept

end Switchboard.Http
