import Switchboard.Number.Integer
import Switchboard.Text.Cut
import Switchboard.Text.Quoted

namespace Switchboard

/-- An IPv4 address as one number of 32 bits, or an IPv6 address as eight groups of 16 bits. -/
inductive Address where
  | v4 (value : Nat)
  | v6 (groups : List Nat)
deriving Repr, DecidableEq

namespace Address

open Text Number

/-- The four octets of an IPv4 address, highest first. -/
def octets (n : Nat) : List Nat :=
  [n / Nat.pow 2 24 % 256, n / Nat.pow 2 16 % 256, n / Nat.pow 2 8 % 256, n % 256]

def ofOctets (bytes : List Nat) : Nat :=
  bytes.foldl (fun acc b => 256 * acc + b) 0

def v4Text (n : Nat) : String :=
  join "." ((octets n).map toString)

/-- One to three digits without a leading zero, at most 255. -/
def octet? (cs : List Char) : Option Nat :=
  match cs with
  | '0' :: _ :: _ => none
  | _ => if cs.length ≤ 3 then (natural? cs).filter (· ≤ 255) else none

/-- Four decimal octets. -/
def readV4 (cs : List Char) : Option Nat :=
  match cs.splitOn '.' with
  | [a, b, c, d] =>
    match octet? a, octet? b, octet? c, octet? d with
    | some a, some b, some c, some d => some (ofOctets [a, b, c, d])
    | _, _, _, _ => none
  | _ => none

def hexValue? (c : Char) : Option Nat :=
  let n := c.toNat
  if 48 ≤ n && n ≤ 57 then some (n - 48)
  else if 65 ≤ n && n ≤ 70 then some (n - 55)
  else if 97 ≤ n && n ≤ 102 then some (n - 87)
  else none

/-- One to four hexadecimal digits. -/
def group? (cs : List Char) : Option Nat :=
  if cs.isEmpty || 4 < cs.length then none
  else cs.foldl (fun acc c => acc.bind fun a => (hexValue? c).map (16 * a + ·)) (some 0)

/-- The groups of one side of a compression. Only the last may be written as an IPv4 address. -/
def groups? (mayEndDotted : Bool) : List (List Char) → Option (List Nat)
  | [] => some []
  | [cs] =>
    match group? cs with
    | some g => some [g]
    | none =>
      if mayEndDotted then (readV4 cs).map fun n => [n / Nat.pow 2 16, n % Nat.pow 2 16] else none
  | cs :: rest =>
    match group? cs with
    | some g => (groups? mayEndDotted rest).map (g :: ·)
    | none => none

/-- The pieces between colons; the empty text has none. -/
def sides (cs : List Char) : List (List Char) :=
  if cs.isEmpty then [] else cs.splitOn ':'

/-- Eight groups, of which one run of zeros may be written as `::`. -/
def readV6 (cs : List Char) : Option (List Nat) :=
  match cutPair ':' cs with
  | none => (groups? true (sides cs)).filter (·.length = 8)
  | some (left, right) =>
    match groups? false (sides left), groups? true (sides right) with
    | some l, some r =>
      if l.length + r.length ≤ 7 then
        some (l ++ List.replicate (8 - l.length - r.length) 0 ++ r)
      else none
    | _, _ => none

/-- The length of the run of zeros at the front. -/
def zeros (gs : List Nat) : Nat :=
  (gs.takeWhile (· = 0)).length

/-- Where the first longest run of zeros starts, and its length. -/
def longestRun : Nat → List Nat → Nat × Nat
  | _, [] => (0, 0)
  | i, g :: gs =>
    let (start, length) := longestRun (i + 1) gs
    if length ≤ zeros (g :: gs) then (i, zeros (g :: gs)) else (start, length)

def groupsText (gs : List Nat) : String :=
  join ":" (gs.map fun g => String.ofList (hex g))

/-- The first longest run of two or more zero groups is written as `::`. -/
def v6Text (gs : List Nat) : String :=
  let (start, length) := longestRun 0 gs
  if 2 ≤ length then
    groupsText (gs.take start) ++ "::" ++ groupsText (gs.drop (start + length))
  else groupsText gs

/-- An address on its own. An IPv6 address that embeds an IPv4 address shows it in decimal. -/
def text : Address → String
  | .v4 n => v4Text n
  | .v6 [0, 0, 0, 0, 0, 0xFFFF, high, low] => "::ffff:" ++ v4Text (high * Nat.pow 2 16 + low)
  | .v6 gs => v6Text gs

/-- An address followed by a port. -/
def withPort (port : Nat) : Address → String
  | .v4 n => v4Text n ++ ":" ++ toString port
  | a => "[" ++ a.text ++ "]:" ++ toString port

/-- An address written as a literal. -/
def read? (s : String) : Option Address :=
  match readV4 s.toList with
  | some n => some (.v4 n)
  | none => (readV6 s.toList).map .v6

end Address

end Switchboard
