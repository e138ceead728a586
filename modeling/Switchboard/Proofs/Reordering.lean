import Switchboard.Proofs.Routing

namespace Switchboard.Proofs.Reordering
open Http Route Leaders Routing

/-- Answers that are the same but for the order in which they list methods or routes. -/
inductive SameButOrder : Except Failure Match → Except Failure Match → Prop where
  | chosen (m : Match) : SameButOrder (.ok m) (.ok m)
  | notFound (path : String) : SameButOrder (.error (.notFound path)) (.error (.notFound path))
  | notAccepted (path : String) (wanted : Version.Wanted) :
      SameButOrder (.error (.notAccepted path wanted)) (.error (.notAccepted path wanted))
  | methodNotAllowed (method : Method) (path : String) {allowed allowed' : List Method}
      (h : allowed.Perm allowed') :
      SameButOrder (.error (.methodNotAllowed method path allowed))
        (.error (.methodNotAllowed method path allowed'))
  | ambiguous (path : String) {texts texts' : List String} (h : texts.Perm texts') :
      SameButOrder (.error (.ambiguous path texts)) (.error (.ambiguous path texts'))

theorem eraseDups_perm {α : Type} [DecidableEq α] {items items' : List α}
    (h : items.Perm items') : items.eraseDups.Perm items'.eraseDups := by
  apply (List.perm_ext_iff_of_nodup (nodup_eraseDups items) (nodup_eraseDups items')).mpr
  intro x
  rw [List.mem_eraseDups, List.mem_eraseDups, h.mem_iff]

section
variable {table table' : Table} (h : table.Perm table') (resolver : Version.Resolver)
  (request : Request)
include h

theorem reached_perm : (reached table request).Perm (reached table' request) :=
  h.filter _

theorem methodsAt_perm (path : String) : (methodsAt table path).Perm (methodsAt table' path) :=
  eraseDups_perm ((h.filter _).map _)

theorem eligible_perm :
    (eligible ⟨table, resolver⟩ request).Perm (eligible ⟨table', resolver⟩ request) :=
  (reached_perm h request).filter _

theorem winners_perm :
    (winners ⟨table, resolver⟩ request).Perm (winners ⟨table', resolver⟩ request) :=
  leaders_perm _ (eligible_perm h resolver request)

/-- What decides an answer is found again in the other table. -/
theorem decides_reorder {answer : Except Failure Match}
    (hd : Decides ⟨table, resolver⟩ request answer) :
    ∃ answer', Decides ⟨table', resolver⟩ request answer' ∧ SameButOrder answer answer' := by
  have hreached := reached_perm h request
  have hmethods := methodsAt_perm h request.path
  have heligible := eligible_perm h resolver request
  have hwinners := winners_perm h resolver request
  cases hd with
  | unknownPath hr hm =>
    rw [hr] at hreached
    rw [hm] at hmethods
    exact ⟨_, .unknownPath hreached.nil_eq.symm hmethods.nil_eq.symm, .notFound _⟩
  | otherMethods hr hm =>
    rw [hr] at hreached
    have hm' : methodsAt table' request.path ≠ [] := fun he => hm (he ▸ hmethods).eq_nil
    exact ⟨_, .otherMethods hreached.nil_eq.symm hm', .methodNotAllowed _ _ hmethods⟩
  | otherVersions hr he =>
    rw [he] at heligible
    have hr' : reached table' request ≠ [] := fun he' => hr (he' ▸ hreached).eq_nil
    exact ⟨_, .otherVersions hr' heligible.nil_eq.symm, .notAccepted _ _⟩
  | chosen e captures hw hc =>
    rw [hw] at hwinners
    exact ⟨_, .chosen e captures (List.perm_singleton.mp hwinners.symm) hc, .chosen _⟩
  | tied hw =>
    rw [hwinners.length_eq] at hw
    exact ⟨_, .tied hw, .ambiguous _ (hwinners.map Entry.text)⟩

/-- The order of registration decides nothing. -/
theorem route_reorder :
    SameButOrder (Router.route ⟨table, resolver⟩ request)
      (Router.route ⟨table', resolver⟩ request) := by
  obtain ⟨answer, hd, hsame⟩ := decides_reorder h resolver request (decides_route _ request)
  rwa [(decides_route ⟨table', resolver⟩ request).unique hd]

end

/-- A route to a single segment under a name. -/
def single (name : String) : Entry :=
  ⟨.get, ⟨"/\x7b" ++ name ++ "\x7d", [.variable name]⟩, [], [], none, name⟩

/-- Of two rivals neither is preferred, whichever comes first. -/
theorem rivals_reorder :
    [single "id", single "name"].Perm [single "name", single "id"] ∧
    SameButOrder
      (Router.route ⟨[single "id", single "name"], .standard⟩ (.of .get "/7"))
      (Router.route ⟨[single "name", single "id"], .standard⟩ (.of .get "/7")) ∧
    Router.route ⟨[single "name", single "id"], .standard⟩ (.of .get "/7") =
      .error (.ambiguous "/7" ["GET /\x7bname\x7d", "GET /\x7bid\x7d"]) := by
  have h : [single "id", single "name"].Perm [single "name", single "id"] := .swap _ _ _
  exact ⟨h, route_reorder h .standard (.of .get "/7"), by rfl⟩

end Switchboard.Proofs.Reordering
