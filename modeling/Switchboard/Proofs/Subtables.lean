import Switchboard.Proofs.Contenders

/-!
Routing against some of the entries of a table. Entries that lose against others never matter for
the answer, though without them some of the rules may not even be applied.
-/

namespace Switchboard.Proofs.Subtables
open Http Route Leaders Routing Contenders

section
variable {table sub : Table} (h : sub.Sublist table) (resolver : Version.Resolver)
  (request : Request)
include h

theorem eligible_sublist :
    (eligible ⟨sub, resolver⟩ request).Sublist (eligible ⟨table, resolver⟩ request) := by
  rw [eligible_eq, eligible_eq]
  exact h.filter _

/-- Once one of the entries that are left is kept, those that are kept are left again. -/
theorem contenders_subtable {e : Entry} (he : e ∈ sub)
    (hleft : e ∈ contenders ⟨table, resolver⟩ request) :
    contenders ⟨sub, resolver⟩ request =
      sub.filter (· ∈ contenders ⟨table, resolver⟩ request) := by
  have hsuits : ∀ d ∈ contenders ⟨table, resolver⟩ request, Suits resolver request d :=
    fun d hd => (mem_eligible.mp (mem_contenders.mp hd).1).2
  have heligible : e ∈ eligible ⟨sub, resolver⟩ request := mem_eligible.mpr ⟨he, hsuits e hleft⟩
  have hfewer : contenders ⟨sub, resolver⟩ request = (eligible ⟨sub, resolver⟩ request).filter
      (· ∈ contenders ⟨table, resolver⟩ request) := by
    rw [contenders_eq ⟨table, resolver⟩] at hleft ⊢
    rw [contenders_eq]
    exact leaders_subset (eligible_sublist h resolver request).subset heligible hleft
  rw [hfewer, eligible_eq, List.filter_filter]
  apply List.filter_congr
  intro d _
  rw [← Bool.decide_and, decide_eq_decide]
  exact ⟨And.left, fun hd => ⟨hd, hsuits d hd⟩⟩

/-- Entries that lose do not matter: a chosen entry that is kept is chosen again, and of tied
entries the ones that are kept tie again, or a single one is chosen. -/
theorem route_subtable :
    (∀ m, Router.route ⟨table, resolver⟩ request = .ok m → m.entry ∈ sub →
      Router.route ⟨sub, resolver⟩ request = .ok m) ∧
    (∀ path texts tied, Router.route ⟨table, resolver⟩ request = .error (.ambiguous path texts) →
      contenders ⟨table, resolver⟩ request = tied →
      texts = tied.map Entry.text ∧
      (∀ t, sub.filter (· ∈ tied) = [t] → ∃ captures,
        t.template.matchPath request.path = some captures ∧
        Router.route ⟨sub, resolver⟩ request =
          .ok ⟨t, captures, request.query, resolver.wanted request⟩) ∧
      (2 ≤ (sub.filter (· ∈ tied)).length →
        Router.route ⟨sub, resolver⟩ request =
          .error (.ambiguous path ((sub.filter (· ∈ tied)).map Entry.text)))) := by
  have hkept : ∀ e ∈ sub, e ∈ contenders ⟨table, resolver⟩ request →
      contenders ⟨sub, resolver⟩ request =
        sub.filter (· ∈ contenders ⟨table, resolver⟩ request) :=
    fun e => contenders_subtable h resolver request
  constructor
  · intro m hm he
    obtain ⟨hone, hrest⟩ := route_ok_iff.mp hm
    refine route_ok_iff.mpr ⟨?_, hrest⟩
    have hall : table.filter (· ∈ [m.entry]) = [m.entry] := by
      rw [← hone]
      exact filter_contenders ⟨table, resolver⟩ request
    have hfew : (sub.filter (· ∈ [m.entry])).Sublist [m.entry] := by
      have hfilter := h.filter (· ∈ [m.entry])
      rwa [hall] at hfilter
    have hin : m.entry ∈ sub.filter (· ∈ [m.entry]) := by simp [he]
    rw [hkept m.entry he (by simp [hone]), hone]
    rcases List.sublist_singleton.mp hfew with hnil | hsame
    · rw [hnil] at hin
      cases hin
    · exact hsame
  · rintro path texts tied hambiguous rfl
    obtain ⟨rfl, -, htexts⟩ := route_ambiguous_iff.mp hambiguous
    refine ⟨htexts, ?_, ?_⟩
    · intro t ht
      have hin : t ∈ sub.filter (· ∈ contenders ⟨table, resolver⟩ request) := by simp [ht]
      obtain ⟨hsub, hleft⟩ := List.mem_filter.mp hin
      have hleft := of_decide_eq_true hleft
      obtain ⟨captures, hc⟩ := Option.isSome_iff_exists.mp
        (mem_eligible.mp (mem_contenders.mp hleft).1).2.1.2
      refine ⟨captures, hc, route_ok_iff.mpr ⟨?_, hc, rfl, rfl⟩⟩
      rw [hkept t hsub hleft, ht]
    · intro htwo
      obtain ⟨t, ht⟩ := List.exists_mem_of_length_pos (Nat.lt_of_lt_of_le Nat.two_pos htwo)
      obtain ⟨hsub, hleft⟩ := List.mem_filter.mp ht
      have hkept := hkept t hsub (of_decide_eq_true hleft)
      exact route_ambiguous_iff.mpr ⟨rfl, hkept ▸ htwo, by rw [hkept]⟩

end

/-- A route without media types or version. -/
def plain (pattern : String) (segments : List Segment) : Entry :=
  ⟨.get, ⟨pattern, segments⟩, [], [], none, pattern⟩

def anyById : Entry :=
  plain "/\x7bkind\x7d/\x7bid\x7d" [.variable "kind", .variable "id"]

def userById : Entry :=
  plain "/users/\x7bid\x7d" [.literal "users", .variable "id"]

def userByName : Entry :=
  plain "/users/\x7bname\x7d" [.literal "users", .variable "name"]

/-- Without its rival a tied route is chosen, and it stays so when a worse one goes as well. The
rivals tie without the worse one too. -/
theorem rival_removed :
    [anyById, userByName].Sublist [anyById, userById, userByName] ∧
    [userByName].Sublist [anyById, userByName] ∧
    [userById, userByName].Sublist [anyById, userById, userByName] ∧
    Router.route ⟨[anyById, userById, userByName], .standard⟩ (.of .get "/users/7") =
      .error (.ambiguous "/users/7" ["GET /users/\x7bid\x7d", "GET /users/\x7bname\x7d"]) ∧
    Router.route ⟨[userByName], .standard⟩ (.of .get "/users/7") =
      .ok ⟨userByName, [("name", "7")], [], none⟩ ∧
    Router.route ⟨[userById, userByName], .standard⟩ (.of .get "/users/7") =
      .error (.ambiguous "/users/7"
        ["GET /users/\x7bid\x7d", "GET /users/\x7bname\x7d"]) := by
  have h : [anyById, userByName].Sublist [anyById, userById, userByName] :=
    .cons_cons _ (.cons _ (.refl _))
  have h' : [userByName].Sublist [anyById, userByName] := .cons _ (.refl _)
  have hrivals : [userById, userByName].Sublist [anyById, userById, userByName] :=
    .cons _ (.refl _)
  have htie : Router.route ⟨[anyById, userById, userByName], .standard⟩ (.of .get "/users/7") =
      .error (.ambiguous "/users/7"
        ["GET /users/\x7bid\x7d", "GET /users/\x7bname\x7d"]) := by rfl
  obtain ⟨-, hsingle, -⟩ := (route_subtable h .standard (.of .get "/users/7")).2 _ _ _ htie rfl
  obtain ⟨captures, hc, hroute⟩ := hsingle userByName (by rfl)
  obtain rfl : [("name", "7")] = captures := Option.some.inj (hc.symm.trans (by rfl)).symm
  obtain ⟨-, -, hboth⟩ :=
    (route_subtable hrivals .standard (.of .get "/users/7")).2 _ _ _ htie rfl
  exact ⟨h, h', hrivals, htie, (route_subtable h' .standard _).1 _ hroute (by decide),
    hboth (by decide)⟩

end Switchboard.Proofs.Subtables
