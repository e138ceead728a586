import Switchboard.Text.Blank
import Switchboard.Text.Case
import Switchboard.Text.Percent
import Switchboard.Text.Quoted
import Switchboard.Url.Basic
import Switchboard.Url.Punycode

/-!
Reading hosts. Schemes with a known form resolve names to a canonical spelling and read every number
as an IPv4 address; other schemes take a host almost as it is written.

Names are resolved as far as ASCII goes. A name with other characters would have to be mapped,
normalised and encoded label by label (IDNA), which is left out: it counts as no name here. What
follows of hosts that are read, or are not, is therefore said of names in ASCII.
-/

namespace Switchboard.Url

open Text Number

/-- Controls and everything outside ASCII. -/
def isControl (c : Char) : Bool :=
  c.toNat < 0x20 || 0x7F ≤ c.toNat

/-- A number in decimal, octal or hexadecimal, as its digits' base and value. -/
def baseValue (base : Nat) (digit? : Char → Option Nat) (cs : List Char) : Option Nat :=
  cs.foldl (fun acc c => acc.bind fun a => (digit? c).bind fun d =>
    if d < base then some (base * a + d) else none) (some 0)

/-- One part of a dotted number: `0x` leads hexadecimal and `0` octal digits. -/
def numberPart? (cs : List Char) : Option Nat :=
  match cs with
  | [] => none
  | '0' :: 'x' :: ds => baseValue 16 Address.hexValue? ds
  | '0' :: 'X' :: ds => baseValue 16 Address.hexValue? ds
  | '0' :: d :: ds => baseValue 8 Address.hexValue? (d :: ds)
  | ds => baseValue 10 Address.hexValue? ds

/-- Parts between dots, a last empty one left out. -/
def dottedParts (cs : List Char) : List (List Char) :=
  let parts := cs.splitOn '.'
  if parts.getLast? = some [] then parts.dropLast else parts

def endsInNumber (cs : List Char) : Bool :=
  let parts := cs.splitOn '.'
  let last := if parts.getLast? = some [] then parts.dropLast.getLast? else parts.getLast?
  match last with
  | none => false
  | some part => (!part.isEmpty && part.all Char.isDigit) || (numberPart? part).isSome

/-- Up to four parts, of which the last fills the octets left. -/
def readIpv4 (cs : List Char) : Option Nat :=
  let parts := dottedParts cs
  if 4 < parts.length then none
  else
    match parts.mapM numberPart? with
    | none => none
    | some numbers =>
      match numbers.getLast? with
      | none => none
      | some last =>
        let front := numbers.dropLast
        if front.all (· ≤ 255) && last < Nat.pow 256 (4 - front.length) then
          some (Address.ofOctets front * Nat.pow 256 (4 - front.length) + last)
        else none

/-- Characters that no name may contain. -/
def isForbiddenInDomain (c : Char) : Bool :=
  c.toNat ≤ 0x20 || c.toNat = 0x7F || "%#/:<>?@[\\]^|".toList.contains c

/-- A label that claims to be encoded has to stand for a name outside ASCII, one without capitals
and hidden characters. That the name is mapped and normalised in every other way is not checked. -/
def labelOk (cs : List Char) : Bool :=
  match "xn--".toList.isPrefixOf? cs with
  | none => true
  | some encoded =>
    match Punycode.decode? encoded with
    | none => false
    | some name => name.any (128 ≤ ·.toNat) && name.all fun c => !isUpper c && !isHidden c

/-- The canonical spelling of a name in ASCII: small letters. A name with any other character has
none here, whether or not IDNA would encode it. -/
def domain? (s : String) : Option String :=
  let lowered := s.toList.map Char.toLower
  if lowered.all (fun c => c.toNat < 128 && !isForbiddenInDomain c) &&
      (lowered.splitOn '.').all labelOk then some (String.ofList lowered)
  else none

/-- The text between the brackets of an IPv6 host. -/
def bracketed? (cs : List Char) : Option (Except Url.Error Host) :=
  match cs with
  | '[' :: rest =>
    some (match rest.getLast? with
      | some ']' =>
        match Address.readV6 rest.dropLast with
        | some gs => .ok (.address (.v6 gs))
        | none => .error .badIpv6
      | _ => .error .badIpv6)
  | _ => none

/-- The host of a scheme with a known form. -/
def readHost (cs : List Char) : Except Url.Error Host :=
  match bracketed? cs with
  | some result => result
  | none =>
    match Percent.ofBytes? (Percent.unescape (Percent.bytes (String.ofList cs))) with
    | none => .error .badDomain
    | some decoded =>
      match domain? decoded with
      | none => .error .badDomain
      | some name =>
        if name = "" then .error .emptyHost
        else if endsInNumber name.toList then
          match readIpv4 name.toList with
          | some n => .ok (.address (.v4 n))
          | none => .error .badIpv4
        else .ok (.domain name)

def isForbiddenInHost (c : Char) : Bool :=
  c = '\x00' || "\t\n\r #/:<>?@[\\]^|".toList.contains c

/-- The host of any other scheme; none where nothing is written. -/
def readPlainHost (cs : List Char) : Except Url.Error (Option Host) :=
  match bracketed? cs with
  | some result => result.map some
  | none =>
    if cs.any isForbiddenInHost then .error .badDomainCharacter
    else if cs.isEmpty then .ok none
    else .ok (some (.domain (String.ofList (Percent.encodeChars (!isControl ·) cs))))

end Switchboard.Url
