import Switchboard.Text.VisibleTable

namespace Switchboard.Text

def isHidden (c : Char) : Bool :=
  if c.toNat < 128 then c.toNat < 0x20 || c.toNat = 0x7F
  else Span.covers hiddenSpans c.toNat

def isExtending (c : Char) : Bool :=
  128 ≤ c.toNat && Span.covers extendingSpans c.toNat

/-- The hexadecimal digits of `n`, lower case and without leading zeros. -/
def hex (n : Nat) : List Char :=
  Nat.toDigits 16 n

/-- `n` in hexadecimal with at least `width` digits. -/
def hexPadded (width n : Nat) : String :=
  let digits := hex n
  String.ofList (List.replicate (width - digits.length) '0' ++ digits)

def escaped (c : Char) : List Char :=
  if c = '\x00' then ['\\', '0']
  else if c = '\t' then ['\\', 't']
  else if c = '\r' then ['\\', 'r']
  else if c = '\n' then ['\\', 'n']
  else if c = '\\' then ['\\', '\\']
  else if c = '"' then ['\\', '"']
  else if isExtending c || isHidden c then
    ['\\', 'u', '\x7b'] ++ hex c.toNat ++ ['\x7d']
  else [c]

/-- The text between double quotes. -/
def quoted (s : String) : String :=
  String.ofList ('"' :: s.toList.flatMap escaped ++ ['"'])

/-- Items between brackets, as diagnostics list them. -/
def bracketed (items : List String) : String :=
  "[" ++ join items ++ "]"
where
  join : List String → String
    | [] => ""
    | [s] => s
    | s :: ss => s ++ ", " ++ join ss

end Switchboard.Text
