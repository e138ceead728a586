import Switchboard.Text.CaseTable

/-!
Letter case in every script. A character may have a lower-case form of several characters, and the
lower-case form of a whole text also depends on where a sigma stands.
-/

namespace Switchboard.Text

def isUpper (c : Char) : Bool :=
  if c.toNat < 128 then 'A' ≤ c && c ≤ 'Z' else Span.covers upperSpans c.toNat

def isLower (c : Char) : Bool :=
  if c.toNat < 128 then 'a' ≤ c && c ≤ 'z' else Span.covers lowerSpans c.toNat

def isCased (c : Char) : Bool :=
  if c.toNat < 128 then c.isAlpha else Span.covers casedSpans c.toNat

def isCaseIgnorable (c : Char) : Bool :=
  if c.toNat < 128 then c = '\'' || c = '.' || c = ':' || c = '^' || c = '\x60'
  else Span.covers ignorableSpans c.toNat

/-- The lower-case form of one character. Only the dotted capital I needs two characters. -/
def lower (c : Char) : List Char :=
  if c.toNat < 128 then [c.toLower]
  else if c = 'İ' then ['i', Char.ofNat 0x307]
  else [Char.ofNat (Shift.image lowerShifts c.toNat)]

/-- Whether the nearest character that is not ignorable has case. -/
def nextIsCased (cs : List Char) : Bool :=
  match cs.dropWhile isCaseIgnorable with
  | [] => false
  | c :: _ => isCased c

/-- `before` holds the characters already passed, nearest first. A capital sigma at the end of a
word becomes a final sigma. -/
def lowerFrom (before : List Char) : List Char → List Char
  | [] => []
  | c :: cs =>
    (if c = 'Σ' then
      (if nextIsCased before && !nextIsCased cs then ['ς'] else ['σ'])
    else lower c) ++ lowerFrom (c :: before) cs

/-- The lower-case form of a text. -/
def lowerText (s : String) : String :=
  String.ofList (lowerFrom [] s.toList)

/-- Lower case for ASCII letters alone. -/
def asciiLower (s : String) : String :=
  String.ofList (s.toList.map Char.toLower)

/-- Equal up to the case of ASCII letters. -/
def asciiSame (s t : String) : Bool :=
  asciiLower s == asciiLower t

/-- The upper-case form of a character where that form is ASCII; any other character stands for
itself. This is enough to compare with words of ASCII capitals. -/
def upperAscii (c : Char) : List Char :=
  if c.toNat < 128 then [c.toUpper]
  else if c = 'ß' then ['S', 'S']
  else if c = 'ı' then ['I']
  else if c = 'ſ' then ['S']
  else if c = 'ﬀ' then ['F', 'F']
  else if c = 'ﬁ' then ['F', 'I']
  else if c = 'ﬂ' then ['F', 'L']
  else if c = 'ﬃ' then ['F', 'F', 'I']
  else if c = 'ﬄ' then ['F', 'F', 'L']
  else if c = 'ﬅ' || c = 'ﬆ' then ['S', 'T']
  else [c]

def upperAsciiText (s : String) : String :=
  String.ofList (s.toList.flatMap upperAscii)

end Switchboard.Text
