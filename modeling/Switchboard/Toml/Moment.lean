import Switchboard.Number.Integer
import Switchboard.Text.Cut

namespace Switchboard.Toml

open Number

structure Date where
  year : Nat
  month : Nat
  day : Nat
deriving Repr, DecidableEq

structure Clock where
  hour : Nat
  minute : Nat
  second : Nat
  nanosecond : Nat
deriving Repr, DecidableEq

/-- The distance of a local time from the universal one. -/
inductive Offset where
  | universal
  | minutes (ahead : Int)
deriving Repr, DecidableEq

/-- A date, a time of day, or both; an offset needs both. -/
structure Moment where
  date : Option Date
  clock : Option Clock
  offset : Option Offset
deriving Repr, DecidableEq

namespace Moment

def isLeapYear (year : Nat) : Bool :=
  year % 4 = 0 && (year % 100 ≠ 0 || year % 400 = 0)

def daysIn (year month : Nat) : Nat :=
  if month = 2 then (if isLeapYear year then 29 else 28)
  else if month ∈ [4, 6, 9, 11] then 30
  else 31

def Date.isValid (d : Date) : Bool :=
  1 ≤ d.month && d.month ≤ 12 && 1 ≤ d.day && d.day ≤ daysIn d.year d.month

/-- A second of 60 is a leap second. -/
def Clock.isValid (c : Clock) : Bool :=
  c.hour ≤ 23 && c.minute ≤ 59 && c.second ≤ 60

/-- Exactly `count` digits and what follows them. -/
def digits? (count : Nat) (cs : List Char) : Option (Nat × List Char) :=
  let front := cs.takeWhile Char.isDigit
  if front.length = count then (natural? front).map (·, cs.drop count) else none

def readDate (cs : List Char) : Option (Date × List Char) :=
  match digits? 4 cs with
  | some (year, '-' :: cs) =>
    match digits? 2 cs with
    | some (month, '-' :: cs) =>
      match digits? 2 cs with
      | some (day, cs) =>
        let d : Date := ⟨year, month, day⟩
        if Date.isValid d then some (d, cs) else none
      | none => none
    | _ => none
  | _ => none

/-- Billionths of a second from the digits of a fraction; digits beyond the ninth are dropped. -/
def nanoseconds (digits : List Char) : Nat :=
  (digits.take 9 ++ List.replicate (9 - digits.length) '0').foldl
    (fun acc c => 10 * acc + (c.toNat - 48)) 0

def readFraction (cs : List Char) : Option (Nat × List Char) :=
  match cs with
  | '.' :: rest =>
    let front := rest.takeWhile Char.isDigit
    if front.isEmpty then none else some (nanoseconds front, rest.drop front.length)
  | _ => some (0, cs)

/-- Seconds may be left out, and only seconds have a fraction. -/
def readSeconds (cs : List Char) : Option ((Nat × Nat) × List Char) :=
  match cs with
  | ':' :: rest =>
    (digits? 2 rest).bind fun (second, rest) =>
      (readFraction rest).map fun (fraction, rest) => ((second, fraction), rest)
  | _ => some ((0, 0), cs)

def readClock (cs : List Char) : Option (Clock × List Char) :=
  match digits? 2 cs with
  | some (hour, ':' :: cs) =>
    match digits? 2 cs with
    | some (minute, cs) =>
      match readSeconds cs with
      | some ((second, nanosecond), cs) =>
        let c : Clock := ⟨hour, minute, second, nanosecond⟩
        if Clock.isValid c then some (c, cs) else none
      | none => none
    | none => none
  | _ => none

/-- Hours and minutes after a sign. -/
def readDistance (sign : Int) (cs : List Char) : Option Offset :=
  match digits? 2 cs with
  | some (hours, ':' :: cs) =>
    match digits? 2 cs with
    | some (minutes, []) =>
      if hours ≤ 23 && minutes ≤ 59 then some (.minutes (sign * (60 * hours + minutes))) else none
    | _ => none
  | _ => none

def readOffset : List Char → Option (Option Offset)
  | [] => some none
  | ['z'] => some (some .universal)
  | ['Z'] => some (some .universal)
  | '+' :: cs => (readDistance 1 cs).map some
  | '-' :: cs => (readDistance (-1) cs).map some
  | _ => none

/-- Whether a character separates date and time. -/
def isJoint (c : Char) : Bool :=
  c = 'T' || c = 't' || c = ' '

def read? (cs : List Char) : Option Moment :=
  match readDate cs with
  | some (d, []) => some ⟨some d, none, none⟩
  | some (d, c :: cs) =>
    if isJoint c then
      (readClock cs).bind fun (t, cs) => (readOffset cs).map fun o => ⟨some d, some t, o⟩
    else none
  | none =>
    match readClock cs with
    | some (t, []) => some ⟨none, some t, none⟩
    | _ => none

/-- `n` with at least `width` digits. -/
def padded (width n : Nat) : String :=
  let digits := Nat.toDigits 10 n
  String.ofList (List.replicate (width - digits.length) '0' ++ digits)

def Date.text (d : Date) : String :=
  padded 4 d.year ++ "-" ++ padded 2 d.month ++ "-" ++ padded 2 d.day

def Clock.text (c : Clock) : String :=
  padded 2 c.hour ++ ":" ++ padded 2 c.minute ++ ":" ++ padded 2 c.second ++
    if c.nanosecond = 0 then ""
    else "." ++ String.ofList ((padded 9 c.nanosecond).toList.reverse.dropWhile (· = '0')).reverse

def Offset.text : Offset → String
  | .universal => "Z"
  | .minutes n =>
    (if n < 0 then "-" else "+") ++ padded 2 (n.natAbs / 60) ++ ":" ++ padded 2 (n.natAbs % 60)

def text (m : Moment) : String :=
  match m.date, m.clock with
  | some d, some c => Date.text d ++ "T" ++ Clock.text c ++ (m.offset.map Offset.text).getD ""
  | some d, none => Date.text d
  | none, some c => Clock.text c
  | none, none => ""

end Moment

end Switchboard.Toml
