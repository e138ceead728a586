import Switchboard.Url.Host

namespace Switchboard.Url

open Text Number

inductive Kind where
  | special
  | file
  | other
deriving Repr, DecidableEq

def kindOf (scheme : String) : Kind :=
  if scheme = "file" then .file
  else if (defaultPort scheme).isSome then .special
  else .other

def isSpecial : Kind → Bool
  | .other => false
  | _ => true

/-- Drops controls and spaces at both ends and tabs and line breaks everywhere. -/
def tidy (cs : List Char) : List Char :=
  (stripChars (·.toNat ≤ 0x20) cs).filter fun c => c ≠ '\t' && c ≠ '\n' && c ≠ '\r'

def isSchemeChar (c : Char) : Bool :=
  c.isAlphanum || c = '+' || c = '-' || c = '.'

/-- The scheme in lower case, and what follows its colon. -/
def readScheme (cs : List Char) : Option (String × List Char) :=
  match cs with
  | [] => none
  | c :: _ =>
    if c.isAlpha then
      match cs.dropWhile isSchemeChar with
      | ':' :: rest => some (String.ofList ((cs.takeWhile isSchemeChar).map Char.toLower), rest)
      | _ => none
    else none

/-- The sets of characters that each part keeps as they are. -/
def keptInFragment (c : Char) : Bool :=
  !isControl c && !" \"<>\x60".toList.contains c

def keptInPath (c : Char) : Bool :=
  keptInFragment c && !"#?\x7b\x7d".toList.contains c

def keptInCredentials (c : Char) : Bool :=
  keptInPath c && !"/:;=@[\\]^|".toList.contains c

def keptInQuery (kind : Kind) (c : Char) : Bool :=
  !isControl c && !" \"#<>".toList.contains c && !(isSpecial kind && c = '\'')

def encoded (keep : Char → Bool) (cs : List Char) : String :=
  String.ofList (Percent.encodeChars keep cs)

/-- Whether `c` separates path segments. -/
def isSlash (kind : Kind) (c : Char) : Bool :=
  c = '/' || (isSpecial kind && c = '\\')

def endsAuthority (kind : Kind) (c : Char) : Bool :=
  isSlash kind c || c = '?' || c = '#'

/-- Query and fragment, from the rest that starts with one of them or is empty. -/
def readTail (kind : Kind) (cs : List Char) : Option String × Option String :=
  let fragment := match cs.dropWhile (· ≠ '#') with
    | _ :: rest => some (encoded keptInFragment rest)
    | [] => none
  let query := match cs.takeWhile (· ≠ '#') with
    | '?' :: rest => some (encoded (keptInQuery kind) rest)
    | _ => none
  (query, fragment)

def isDot (cs : List Char) : Bool :=
  cs.map Char.toLower ∈ ["." |>.toList, "%2e".toList]

def isDoubleDot (cs : List Char) : Bool :=
  cs.map Char.toLower ∈ [".." |>.toList, ".%2e".toList, "%2e.".toList, "%2e%2e".toList]

/-- A drive such as `C:` or `C|`. -/
def isDrive : List Char → Bool
  | [c, d] => c.isAlpha && (d = ':' || d = '|')
  | _ => false

/-- Takes the last segment back, unless it is a drive. -/
def dropSegment : List String → List String
  | [] => []
  | s :: taken => if isDrive s.toList then s :: taken else taken

/-- Pieces of a path on top of the segments already taken, last first. A double dot takes one back,
and dots at the end leave an empty segment. -/
def walk (kind : Kind) (taken : List String) : List (List Char) → List String
  | [] => taken
  | p :: rest =>
    let taken' :=
      if isDoubleDot p then dropSegment taken
      else if isDot p then taken
      else if kind = .file && taken.isEmpty && isDrive p then
        String.ofList [p.headD 'c', ':'] :: taken
      else encoded keptInPath p :: taken
    let closed := if rest.isEmpty && (isDoubleDot p || isDot p) then "" :: taken' else taken'
    walk kind closed rest

/-- The pieces between the slashes of a scheme. -/
def pathPieces (kind : Kind) (cs : List Char) : List (List Char) :=
  (cs.map fun c => if isSlash kind c then '/' else c).splitOn '/'

def isTailStart (c : Char) : Bool :=
  c = '?' || c = '#'

/-- The segments of a path whose first slash is already read, and what follows the path. -/
def readSegments (kind : Kind) (cs : List Char) : List String × List Char :=
  ((walk kind [] (pathPieces kind (cs.takeWhile (!isTailStart ·)))).reverse,
    cs.dropWhile (!isTailStart ·))

/-- The path after an authority. Special schemes always have one. -/
def readPath (kind : Kind) (cs : List Char) : List String × List Char :=
  match cs with
  | [] => if isSpecial kind then readSegments kind [] else ([], [])
  | c :: rest =>
    if isSlash kind c then readSegments kind rest
    else if !isSpecial kind && isTailStart c then ([], cs)
    else readSegments kind cs

/-- User name and password, and what follows the last `@` before the path. -/
def readCredentials (kind : Kind) (cs : List Char) :
    Except Url.Error ((String × String) × List Char) :=
  let front := cs.takeWhile (!endsAuthority kind ·)
  if !front.contains '@' then .ok (("", ""), cs)
  else
    let after := (front.reverse.takeWhile (· ≠ '@')).reverse
    let user := front.take (front.length - after.length - 1)
    let rest := cs.drop (user.length + 1)
    if user.isEmpty then
      match rest with
      | c :: _ => if endsAuthority kind c then .error .emptyHost else .ok (("", ""), rest)
      | [] => .ok (("", ""), rest)
    else
      match cutChars ':' user with
      | none => .ok ((encoded keptInCredentials user, ""), rest)
      | some (name, password) =>
        .ok ((encoded keptInCredentials name, encoded keptInCredentials password), rest)

/-- The characters of a host, which a colon ends unless it stands between brackets. -/
def hostChars (kind : Kind) (inside : Bool) : List Char → List Char
  | [] => []
  | c :: cs =>
    if (c = ':' && !inside) || endsAuthority kind c then []
    else c :: hostChars kind (c = '[' || (inside && c ≠ ']')) cs

/-- A port after its colon; the default port of the scheme is left out. -/
def readPort (scheme : String) (cs : List Char) :
    Except Url.Error (Option Nat × List Char) :=
  let digits := cs.takeWhile Char.isDigit
  let rest := cs.dropWhile Char.isDigit
  let stops := match rest with
    | [] => true
    | c :: _ => c = '/' || c = '\\' || c = '?' || c = '#'
  match natural? digits with
  | none => if stops then .ok (none, rest) else .error .badPort
  | some n =>
    if 65535 < n || !stops then .error .badPort
    else .ok (if defaultPort scheme = some n then none else some n, rest)

def hostOf (kind : Kind) (cs : List Char) : Except Url.Error (Option Host) :=
  if isSpecial kind then
    if cs.isEmpty then .error .emptyHost else (readHost cs).map some
  else readPlainHost cs

/-- Everything after `//`. -/
def readAuthority (scheme : String) (kind : Kind) (cs : List Char) : Except Url.Error Url := do
  let ((username, password), cs) ← readCredentials kind cs
  let written := hostChars kind false cs
  let host ← hostOf kind written
  let rest := cs.drop written.length
  let (port, rest) ← match rest with
    | ':' :: more => if host.isNone then .error .emptyHost else readPort scheme more
    | _ => .ok (none, rest)
  let hasCredentials := username ≠ "" || password ≠ ""
  if host.isNone && hasCredentials then .error .emptyHost
  else
    let (segments, rest) := readPath kind rest
    let (query, fragment) := readTail kind rest
    .ok ⟨scheme, some ⟨username, password, host, port⟩, .segments segments, query, fragment⟩

/-- Drops empty segments at the front, as long as others follow. -/
def dropLeadingEmpty : List String → List String
  | "" :: s :: ss => dropLeadingEmpty (s :: ss)
  | ss => ss

/-- Whether a path begins with a drive. -/
def startsWithDrive (segments : List String) : Bool :=
  segments.head?.any (isDrive ·.toList)

/-- A file URL names the local machine unless a host is written, and drives are always local. -/
def readFile (cs : List Char) : Except Url.Error Url := do
  let finish (host : Option Host) (read : List String × List Char) : Url :=
    let (query, fragment) := readTail .file read.2
    let host := if startsWithDrive read.1 then none else host
    ⟨"file", some ⟨"", "", host, none⟩, .segments (dropLeadingEmpty read.1), query, fragment⟩
  match cs with
  | c :: rest =>
    if isSlash .file c then
      match rest with
      | d :: more =>
        if isSlash .file d then
          let written := more.takeWhile (!endsAuthority .file ·)
          if isDrive written then .ok (finish none (readSegments .file more))
          else
            let after := more.drop written.length
            if written.isEmpty then .ok (finish none (readPath .file after))
            else
              let host ← readHost written
              let host := if host = .domain "localhost" then none else some host
              .ok (finish host (readPath .file after))
        else .ok (finish none (readSegments .file rest))
      | [] => .ok (finish none (readSegments .file []))
    else .ok (finish none (readSegments .file cs))
  | [] => .ok (finish none (readSegments .file []))

/-- A scheme without a known form has an authority after `//`, segments after `/`, and otherwise a
path without structure. -/
def readOther (scheme : String) (cs : List Char) : Except Url.Error Url :=
  match cs with
  | '/' :: '/' :: rest => readAuthority scheme .other rest
  | '/' :: rest =>
    let (segments, rest) := readSegments .other rest
    let (query, fragment) := readTail .other rest
    .ok ⟨scheme, none, .segments segments, query, fragment⟩
  | _ =>
    let (query, fragment) := readTail .other (cs.dropWhile (!isTailStart ·))
    .ok ⟨scheme, none, .plain (encoded (!isControl ·) (cs.takeWhile (!isTailStart ·))), query,
      fragment⟩

/-- Reads an absolute URL. Blanks around the text and line breaks inside it are dropped first; then
the scheme decides how the rest is taken apart. The names of hosts are read in ASCII alone, see
`domain?`. -/
def parse (s : String) : Except Url.Error Url :=
  match readScheme (tidy s.toList) with
  | none => .error .relative
  | some (scheme, rest) =>
    match kindOf scheme with
    | .file => readFile rest
    | .special => readAuthority scheme .special (rest.dropWhile (isSlash .special ·))
    | .other => readOther scheme rest

end Switchboard.Url
