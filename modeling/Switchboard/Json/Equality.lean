import Switchboard.Json.Document

namespace Switchboard.Json.Document

mutual

def same : Document → Document → Bool
  | .null, .null => true
  | .bool a, .bool b => a = b
  | .number a, .number b => a = b
  | .text a, .text b => a = b
  | .list a, .list b => sameItems a b
  | .object a, .object b => sameMembers a b
  | _, _ => false

def sameItems : List Document → List Document → Bool
  | [], [] => true
  | d :: ds, e :: es => same d e && sameItems ds es
  | _, _ => false

def sameMembers : List (Option String × Document) → List (Option String × Document) → Bool
  | [], [] => true
  | (m, d) :: ds, (n, e) :: es => m = n && same d e && sameMembers ds es
  | _, _ => false

end

mutual

theorem same_iff (d e : Document) : same d e = true ↔ d = e := by
  match d with
  | .null | .bool _ | .number _ | .text _ => cases e <;> simp [same]
  | .list items => cases e <;> simp [same, sameItems_iff items]
  | .object members => cases e <;> simp [same, sameMembers_iff members]

theorem sameItems_iff (ds es : List Document) : sameItems ds es = true ↔ ds = es := by
  match ds with
  | [] => cases es <;> simp [sameItems]
  | d :: ds => cases es <;> simp [sameItems, same_iff d, sameItems_iff ds]

theorem sameMembers_iff (ms ns : List (Option String × Document)) :
    sameMembers ms ns = true ↔ ms = ns := by
  match ms with
  | [] => cases ns <;> simp [sameMembers]
  | (m, d) :: ms =>
    cases ns <;> simp [sameMembers, same_iff d, sameMembers_iff ms, Prod.ext_iff]

end

instance : DecidableEq Document := fun d e =>
  decidable_of_iff (same d e = true) (same_iff d e)

end Switchboard.Json.Document
