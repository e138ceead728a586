/-!
Punycode (RFC 3492), as far as it takes to judge whether an encoded label stands for a name.
-/

namespace Switchboard.Url.Punycode

def digit? (c : Char) : Option Nat :=
  if 'a' ≤ c && c ≤ 'z' then some (c.toNat - 97)
  else if 'A' ≤ c && c ≤ 'Z' then some (c.toNat - 65)
  else if c.isDigit then some (c.toNat - 22)
  else none

def threshold (k bias : Nat) : Nat :=
  if k ≤ bias then 1 else if bias + 26 ≤ k then 26 else k - bias

/-- Divides by 35 until at most 455 is left, counting 36 for each division. -/
def shrink (delta k : Nat) : Nat × Nat :=
  if 455 < delta then shrink (delta / 35) (k + 36) else (delta, k)
termination_by delta
decreasing_by omega

def adapt (delta count : Nat) (first : Bool) : Nat :=
  let scaled := if first then delta / 700 else delta / 2
  let (rest, k) := shrink (scaled + scaled / count) 0
  k + 36 * rest / (rest + 38)

/-- One variable-length integer with least digit first, added to `i`. -/
def readInteger (bias k weight i : Nat) : List Char → Option (Nat × List Char)
  | [] => none
  | c :: cs =>
    match digit? c with
    | none => none
    | some d =>
      let t := threshold k bias
      if d < t then some (i + d * weight, cs)
      else readInteger bias (k + 36) (weight * (36 - t)) (i + d * weight) cs

theorem readInteger_length {bias k weight i : Nat} {cs rest : List Char} {j : Nat}
    (h : readInteger bias k weight i cs = some (j, rest)) : rest.length < cs.length := by
  induction cs generalizing k weight i with
  | nil => simp [readInteger] at h
  | cons c cs ih =>
    simp only [readInteger] at h
    split at h
    · simp at h
    · split at h
      · simp only [Option.some.injEq, Prod.mk.injEq] at h
        simp [← h.2]
      · have := ih h
        simp only [List.length_cons]
        omega

/-- Inserts the encoded code points into those already known. -/
def insertAll (known : List Nat) (n i bias : Nat) (cs : List Char) : Option (List Nat) :=
  if cs.isEmpty then some known
  else
    match _found : readInteger bias 36 1 i cs with
    | none => none
    | some (j, rest) =>
      let count := known.length + 1
      let point := n + j / count
      let place := j % count
      if 0x110000 ≤ point || (0xD800 ≤ point && point < 0xE000) then none
      else
        insertAll (known.take place ++ point :: known.drop place) point (place + 1)
          (adapt (j - i) count (i = 0)) rest
termination_by cs.length
decreasing_by exact readInteger_length ‹_›

/-- The part before the last hyphen and the part after it. -/
def atLastHyphen (cs : List Char) : List Char × List Char :=
  let tail := (cs.reverse.takeWhile (· ≠ '-')).reverse
  (cs.take (cs.length - tail.length - 1), tail)

/-- The name that a label encodes. -/
def decode? (cs : List Char) : Option (List Char) :=
  let (basic, encoded) := atLastHyphen cs
  (insertAll (basic.map Char.toNat) 128 0 72 encoded).map (·.map Char.ofNat)

end Switchboard.Url.Punycode
