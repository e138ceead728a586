import Switchboard.Text.Blank
import Switchboard.Text.Case

namespace Switchboard.Service

open Text

/-- Characters that only separate words. -/
def isSeparator (c : Char) : Bool :=
  c = '_' || c = '-' || isBlank c

/-- Whether a capital behind `before` starts a word: after a small letter or a digit, and at the end
of a run of capitals before a small letter. -/
def startsWord (before : Char) (after : Option Char) : Bool :=
  isLower before || before.isDigit || (isUpper before && after.any isLower)

/-- Whether a hyphen may be written behind `last`, the last character written. -/
def mayHyphenate (last : Option Char) : Bool :=
  last.isSome && last ≠ some '-'

/-- Writes the characters of a name behind `last`; `before` is the character read before them. -/
def spell (last before : Option Char) : List Char → List Char
  | [] => []
  | c :: cs =>
    if isSeparator c then
      if mayHyphenate last then '-' :: spell (some '-') (some c) cs
      else spell last (some c) cs
    else
      let word := lower c
      let rest := spell (word.getLast?.or last) (some c) cs
      if isUpper c && mayHyphenate last && before.any (startsWord · cs.head?) then
        '-' :: word ++ rest
      else word ++ rest

/-- The canonical form of a name: its words in lower case, one hyphen between neighbours. -/
def hyphenate (name : String) : String :=
  String.ofList (dropEndWhile (· == '-') (spell none none (trimChars name.toList)))

end Switchboard.Service
