import Switchboard.Json.Document
import Switchboard.Number.Shortest
import Switchboard.Text.Quoted

namespace Switchboard.Json

open Number

def escaped (c : Char) : List Char :=
  if c = '"' then ['\\', '"']
  else if c = '\\' then ['\\', '\\']
  else if c = '\x08' then ['\\', 'b']
  else if c = '\x0c' then ['\\', 'f']
  else if c = '\n' then ['\\', 'n']
  else if c = '\r' then ['\\', 'r']
  else if c = '\t' then ['\\', 't']
  else if c.toNat < 0x20 then ['\\', 'u'] ++ (Text.hexPadded 4 c.toNat).toList
  else [c]

def printText (s : String) : String :=
  String.ofList ('"' :: s.toList.flatMap escaped ++ ['"'])

mutual

def print : Tree → String
  | .null => "null"
  | .bool b => if b then "true" else "false"
  | .whole n => toString n
  | .real x => if x.isFinite then x.text .signed else "null"
  | .text s => printText s
  | .list items => "[" ++ printItems items ++ "]"
  | .record fields => "\x7b" ++ printFields fields ++ "\x7d"

def printItems : List Tree → String
  | [] => ""
  | [t] => print t
  | t :: u :: ts => print t ++ "," ++ printItems (u :: ts)

def printFields : List (String × Tree) → String
  | [] => ""
  | [(n, t)] => printText n ++ ":" ++ print t
  | (n, t) :: f :: fs => printText n ++ ":" ++ print t ++ "," ++ printFields (f :: fs)

end

end Switchboard.Json
