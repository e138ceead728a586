import Switchboard.Config.Error
import Switchboard.Text.Blank
import Switchboard.Text.Cut

namespace Switchboard.Config.Check

open Text

/-- Holds, or says what is wrong with which property. -/
abbrev Verdict := Except Error Unit

def fail (property : String) (fault : Fault) : Verdict :=
  .error (.invalid property fault)

def notBlank (value property : String) : Verdict :=
  if isBlankText value then fail property .blank else .ok ()

/-- One of the allowed values; `showValue` writes a value for the message. -/
def oneOf {α : Type} [DecidableEq α] (showValue : α → String) (value : α) (allowed : List α)
    (property : String) : Verdict :=
  if value ∈ allowed then .ok ()
  else fail property (.notOneOf (showValue value) (allowed.map showValue))

/-- `http://` or `https://` with something after it that is no slash. -/
def isWebUrl (value : String) : Bool :=
  let rest := match "http://".toList.isPrefixOf? value.toList with
    | some rest => some rest
    | none => "https://".toList.isPrefixOf? value.toList
  match rest with
  | some (c :: _) => c ≠ '/'
  | _ => false

def webUrl (value property : String) : Verdict :=
  if isWebUrl value then .ok () else fail property (.notWebUrl value)

def port (value : Nat) (property : String) : Verdict :=
  if value = 0 then fail property .portZero else .ok ()

/-- Every item in turn, up to the first that fails. -/
def each {α : Type} (check : α → Verdict) : List α → Verdict
  | [] => .ok ()
  | x :: xs => do
    check x
    each check xs

end Switchboard.Config.Check
