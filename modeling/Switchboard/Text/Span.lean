namespace Switchboard.Text

/-- The code points `first`, `first + step`, … up to `last`. -/
structure Span where
  first : Nat
  last : Nat
  step : Nat
deriving Repr, DecidableEq

namespace Span

def holds (s : Span) (n : Nat) : Bool :=
  s.first ≤ n && n ≤ s.last && (n - s.first) % s.step == 0

/-- Whether `n` lies in one of the spans. -/
def covers (spans : List Span) (n : Nat) : Bool :=
  spans.any (·.holds n)

end Span

/-- A span whose members all move by the same distance, the first of them to `target`. -/
structure Shift where
  span : Span
  target : Nat
deriving Repr, DecidableEq

namespace Shift

def apply (s : Shift) (n : Nat) : Nat :=
  s.target + (n - s.span.first)

/-- Where `n` goes; a code point in none of the spans stays. -/
def image (shifts : List Shift) (n : Nat) : Nat :=
  match shifts.find? (·.span.holds n) with
  | some s => s.apply n
  | none => n

end Shift

end Switchboard.Text
