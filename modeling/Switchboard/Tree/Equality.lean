import Switchboard.Tree.Basic

namespace Switchboard.Tree

mutual

def same : Tree → Tree → Bool
  | .null, .null => true
  | .bool a, .bool b => a = b
  | .whole a, .whole b => a = b
  | .real a, .real b => a = b
  | .text a, .text b => a = b
  | .list a, .list b => sameItems a b
  | .record a, .record b => sameFields a b
  | _, _ => false

def sameItems : List Tree → List Tree → Bool
  | [], [] => true
  | t :: ts, u :: us => same t u && sameItems ts us
  | _, _ => false

def sameFields : List (String × Tree) → List (String × Tree) → Bool
  | [], [] => true
  | (m, t) :: ts, (n, u) :: us => m = n && same t u && sameFields ts us
  | _, _ => false

end

mutual

theorem same_iff (t u : Tree) : same t u = true ↔ t = u := by
  match t with
  | .null | .bool _ | .whole _ | .real _ | .text _ => cases u <;> simp [same]
  | .list items => cases u <;> simp [same, sameItems_iff items]
  | .record fields => cases u <;> simp [same, sameFields_iff fields]

theorem sameItems_iff (ts us : List Tree) : sameItems ts us = true ↔ ts = us := by
  match ts with
  | [] => cases us <;> simp [sameItems]
  | t :: ts => cases us <;> simp [sameItems, same_iff t, sameItems_iff ts]

theorem sameFields_iff (fs gs : List (String × Tree)) : sameFields fs gs = true ↔ fs = gs := by
  match fs with
  | [] => cases gs <;> simp [sameFields]
  | (n, t) :: fs =>
    cases gs <;> simp [sameFields, same_iff t, sameFields_iff fs, Prod.ext_iff]

end

instance : DecidableEq Tree := fun t u =>
  decidable_of_iff (same t u = true) (same_iff t u)

end Switchboard.Tree
