import Switchboard.Proofs.Contenders

namespace Switchboard.Proofs.Unversioned
open Http Route Leaders Routing Contenders

/-- The entry without its version constraint. -/
def unversioned (e : Entry) : Entry :=
  { e with version := none }

/-- What takes part in selection does not see the version constraint. -/
theorem rank_unversioned (request : Request) (e : Entry) :
    rank request (unversioned e) = rank request e :=
  rfl

/-- A disabled resolver admits every entry, and every resolver admits one without constraint. -/
theorem keeps_unversioned (resolver : Version.Resolver) (request : Request) :
    Keeps .disabled resolver request fun _ => unversioned where
  method _ _ := rfl
  template _ _ := rfl
  version _ _ := by simp [unversioned, Version.Resolver.disabled, Version.Rules.disabled]

/-- A disabled resolver answers for the table what any resolver answers for the same table without
constraints: the same place is chosen with the same captures, the same places tie, or the request
fails in the same way. -/
theorem verdict_disabled (table : Table) (resolver : Version.Resolver) (request : Request) :
    verdict ⟨table, .disabled⟩ request = verdict ⟨table.map unversioned, resolver⟩ request := by
  have hkeeps := keeps_unversioned resolver request
  have hmap : table.map unversioned = table.mapIdx fun _ => unversioned := by
    apply List.ext_getElem?
    intro i
    rw [List.getElem?_map, List.getElem?_mapIdx]
  rw [hmap, eq_comm, hkeeps.verdict_eq_iff]
  simp only [rank_unversioned]

end Switchboard.Proofs.Unversioned
