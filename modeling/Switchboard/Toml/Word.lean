import Switchboard.Number.Literal
import Switchboard.Toml.Moment
import Switchboard.Toml.Quotation
import Switchboard.Tree.Basic

/-!
Values written without quotes: truth values, numbers, dates and times. Whole numbers have 64 bits
with sign, and numbers that are not finite become null.
-/

namespace Switchboard.Toml.Word

open Number

/-- Whether a character ends a word. -/
def isEnd (c : Char) : Bool :=
  Quotation.isSpace c || "\n\r#,=[]\x7b\x7d\"'".toList.contains c

/-- Digits with single underscores between them, the underscores left out. -/
def ungrouped? (isDigit : Char → Bool) : List Char → Option (List Char)
  | [] => none
  | [c] => if isDigit c then some [c] else none
  | c :: '_' :: d :: cs => if isDigit c then (ungrouped? isDigit (d :: cs)).map (c :: ·) else none
  | c :: d :: cs => if isDigit c then (ungrouped? isDigit (d :: cs)).map (c :: ·) else none

def isGrouped (c : Char) : Bool :=
  c.isDigit || c = '_'

/-- A whole number of 64 bits. -/
def bounded (n : Int) : Option Tree :=
  if -Int.pow 2 63 ≤ n && n < Int.pow 2 63 then some (.whole n) else none

/-- A whole number in base 16, 8 or 2. -/
def radix? (base : Nat) (cs : List Char) : Option Tree :=
  let value (c : Char) := (Quotation.hexValue? c).filter (· < base)
  (ungrouped? (fun c => (value c).isSome) cs).bind fun digits =>
    bounded (digits.foldl (fun acc c => base * acc + (value c).getD 0) 0)

/-- Digits that do not start with a superfluous zero. -/
def whole? (cs : List Char) : Option (List Char) :=
  (ungrouped? Char.isDigit cs).filter fun digits => digits.length = 1 || digits.head? ≠ some '0'

/-- The digits of a fraction, with what follows them. -/
def fraction? : List Char → Option (List Char × List Char)
  | '.' :: cs =>
    (ungrouped? Char.isDigit (cs.takeWhile isGrouped)).map (·, cs.dropWhile isGrouped)
  | cs => some ([], cs)

def exponent? : List Char → Option Int
  | [] => some 0
  | c :: cs =>
    if c = 'e' || c = 'E' then
      let (sign, cs) : Int × List Char := match cs with
        | '+' :: cs => (1, cs)
        | '-' :: cs => (-1, cs)
        | cs => (1, cs)
      ((ungrouped? Char.isDigit cs).bind natural?).map fun n => sign * n
    else none

/-- A decimal number behind its sign. -/
def decimal? (negative : Bool) (cs : List Char) : Option Tree :=
  let rest := cs.dropWhile isGrouped
  (whole? (cs.takeWhile isGrouped)).bind fun whole =>
    if rest.isEmpty then
      (natural? whole).bind fun n => bounded (if negative then -(n : Int) else n)
    else
      match fraction? rest with
      | none => none
      | some (fraction, rest) =>
        match natural? (whole ++ fraction), exponent? rest with
        | some n, some e =>
          (Format.double.ofDecimal n (e - fraction.length)).map fun x =>
            .real (Binary64.ofScaled negative x)
        | _, _ => none

def number? (cs : List Char) : Option Tree :=
  let (negative, digits) := match cs with
    | '+' :: digits => (false, digits)
    | '-' :: digits => (true, digits)
    | digits => (false, digits)
  if digits = "inf".toList || digits = "nan".toList then some .null else decimal? negative digits

/-- The name of the only entry of a record that stands for a date or a time. -/
def momentName : String := "$__toml_private_datetime"

def ofMoment (m : Moment) : Tree :=
  .record [(momentName, .text m.text)]

/-- Whether a word starts as a date or a time does. -/
def isMoment (cs : List Char) : Bool :=
  match cs.head?, cs.dropWhile isGrouped with
  | some c, d :: _ => c.isDigit && (d = '-' || d = ':')
  | _, _ => false

def read? (cs : List Char) : Option Tree :=
  match cs with
  | '0' :: 'x' :: digits => radix? 16 digits
  | '0' :: 'o' :: digits => radix? 8 digits
  | '0' :: 'b' :: digits => radix? 2 digits
  | _ =>
    if cs = "true".toList then some (.bool true)
    else if cs = "false".toList then some (.bool false)
    else if isMoment cs then (Moment.read? cs).map ofMoment
    else number? cs

/-- A word and what follows it. A date goes on behind a space if a digit follows. -/
def take (cs : List Char) : List Char × List Char :=
  let word := cs.takeWhile (!isEnd ·)
  match cs.drop word.length with
  | ' ' :: c :: rest =>
    if c.isDigit && (Moment.readDate word).any (·.2.isEmpty) then
      let time := (c :: rest).takeWhile (!isEnd ·)
      (word ++ ' ' :: time, (c :: rest).drop time.length)
    else (word, ' ' :: c :: rest)
  | rest => (word, rest)

end Switchboard.Toml.Word
