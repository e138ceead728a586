/-!
Strings between quotes. Basic strings have escapes, literal strings have none, and both come on one
line or between triple quotes on several. A reader starts behind the opening quotes and returns the
characters of the string with what follows its closing quotes.
-/

namespace Switchboard.Toml.Quotation

/-- Control characters other than the tab. -/
def isControl (c : Char) : Bool :=
  (c.toNat < 0x20 && c ≠ '\t') || c.toNat = 0x7F

def isSpace (c : Char) : Bool :=
  c = ' ' || c = '\t'

/-- Where a reader stands: among plain characters, behind a backslash, in a code with `left` digits
to come, behind a backslash and blanks, or in the blanks that a backslash at a line's
end removes. -/
inductive Place where
  | plain
  | escape
  | code (left value : Nat)
  | lineEnd
  | fold
deriving Repr, DecidableEq

abbrev Taken := Option (List Char × List Char)

def keep (c : Char) (taken : Taken) : Taken :=
  taken.map fun (cs, rest) => (c :: cs, rest)

def hexValue? (c : Char) : Option Nat :=
  let n := c.toNat
  if 48 ≤ n && n ≤ 57 then some (n - 48)
  else if 65 ≤ n && n ≤ 70 then some (n - 55)
  else if 97 ≤ n && n ≤ 102 then some (n - 87)
  else none

/-- The character that a one-letter escape stands for. -/
def simpleEscape? (c : Char) : Option Char :=
  if c = '"' || c = '\\' then some c
  else if c = 'b' then some '\x08'
  else if c = 'e' then some '\x1b'
  else if c = 'f' then some '\x0c'
  else if c = 'n' then some '\n'
  else if c = 'r' then some '\r'
  else if c = 't' then some '\t'
  else none

/-- The number of digits in the code that a letter announces. -/
def codeLength? (c : Char) : Option Nat :=
  if c = 'x' then some 2 else if c = 'u' then some 4 else if c = 'U' then some 8 else none

def ofCode? (n : Nat) : Option Char :=
  if n.isValidChar then some (Char.ofNat n) else none

/-- What follows a letter behind a backslash: a character, or digits of a code. -/
def afterEscape (c : Char) (next : Place → Taken) : Taken :=
  match simpleEscape? c, codeLength? c with
  | some d, _ => keep d (next .plain)
  | none, some n => next (.code n 0)
  | none, none => none

def afterDigit (left value : Nat) (c : Char) (next : Place → Taken) : Taken :=
  match hexValue? c with
  | none => none
  | some d =>
    if 1 < left then next (.code (left - 1) (16 * value + d))
    else
      match ofCode? (16 * value + d) with
      | some e => keep e (next .plain)
      | none => none

/-- A basic string on one line. -/
def readBasic (place : Place) : List Char → Taken
  | [] => none
  | c :: cs =>
    match place with
    | .escape => afterEscape c fun p => readBasic p cs
    | .code left value => afterDigit left value c fun p => readBasic p cs
    | _ =>
      if c = '"' then some ([], cs)
      else if c = '\\' then readBasic .escape cs
      else if isControl c then none
      else keep c (readBasic .plain cs)

/-- A literal string on one line. -/
def readLiteral : List Char → Taken
  | [] => none
  | c :: cs =>
    if c = '\'' then some ([], cs)
    else if isControl c then none
    else keep c (readLiteral cs)

/-- Up to two more quotes behind three of them belong to the string. -/
def closing (quote : Char) (cs : List Char) : Taken :=
  let extra := (cs.takeWhile (· = quote)).take 2
  some (extra, cs.drop extra.length)

/-- A line break directly behind the opening quotes does not count. -/
def dropLineBreak : List Char → List Char
  | '\n' :: cs => cs
  | '\r' :: '\n' :: cs => cs
  | cs => cs

/-- A basic string on several lines. A backslash before a line break removes it with the blanks that
follow. -/
def readBasicBlock (place : Place) : List Char → Taken
  | [] => none
  | '\r' :: '\n' :: cs =>
    match place with
    | .plain => keep '\r' (keep '\n' (readBasicBlock .plain cs))
    | .code _ _ => none
    | _ => readBasicBlock .fold cs
  | '"' :: '"' :: '"' :: cs =>
    match place with
    | .escape => keep '"' (readBasicBlock .plain ('"' :: '"' :: cs))
    | .plain | .fold => closing '"' cs
    | _ => none
  | c :: cs =>
    match place with
    | .escape =>
      if isSpace c then readBasicBlock .lineEnd cs
      else if c = '\n' then readBasicBlock .fold cs
      else afterEscape c fun p => readBasicBlock p cs
    | .code left value => afterDigit left value c fun p => readBasicBlock p cs
    | .lineEnd =>
      if isSpace c then readBasicBlock .lineEnd cs
      else if c = '\n' then readBasicBlock .fold cs
      else none
    | p =>
      if p = .fold && (isSpace c || c = '\n') then readBasicBlock .fold cs
      else if c = '\\' then readBasicBlock .escape cs
      else if isControl c && c ≠ '\n' then none
      else keep c (readBasicBlock .plain cs)

/-- A literal string on several lines. -/
def readLiteralBlock : List Char → Taken
  | [] => none
  | '\'' :: '\'' :: '\'' :: cs => closing '\'' cs
  | '\r' :: '\n' :: cs => keep '\r' (keep '\n' (readLiteralBlock cs))
  | c :: cs =>
    if isControl c && c ≠ '\n' then none else keep c (readLiteralBlock cs)

/-- Whether triple quotes open a string. -/
def isBlock : List Char → Bool
  | '"' :: '"' :: '"' :: _ => true
  | '\'' :: '\'' :: '\'' :: _ => true
  | _ => false

/-- A string of any kind, if there is one at the front. -/
def read? (cs : List Char) : Option (String × List Char) :=
  let taken := match cs with
    | '"' :: '"' :: '"' :: rest => readBasicBlock .plain (dropLineBreak rest)
    | '"' :: rest => readBasic .plain rest
    | '\'' :: '\'' :: '\'' :: rest => readLiteralBlock (dropLineBreak rest)
    | '\'' :: rest => readLiteral rest
    | _ => none
  taken.map fun (text, rest) => (String.ofList text, rest)

end Switchboard.Toml.Quotation
