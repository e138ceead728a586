import Switchboard.Proofs.Routing

/-!
The entries that selection leaves for a request, and the places where they are registered. Through
places the answers of different tables can be compared.
-/

namespace Switchboard.Proofs.Contenders
open Http Route Leaders Routing

/-- Whether an entry may answer a request, whatever else the table holds. -/
def Suits (resolver : Version.Resolver) (request : Request) (e : Entry) : Prop :=
  (e.method = request.method ∧ (e.template.matchPath request.path).isSome) ∧
    (resolver.rules.enabled = true → ∀ c ∈ e.version, c.accepts (resolver.wanted request) = true)

instance (resolver : Version.Resolver) (request : Request) (e : Entry) :
    Decidable (Suits resolver request e) :=
  inferInstanceAs (Decidable (_ ∧ _))

/-- The candidates among which selection chooses. -/
def pool (router : Router) (request : Request) : List Candidate :=
  Router.admitted router.resolver (router.resolver.wanted request)
    (candidates router.table request.method request.path)

/-- The entries that selection leaves, in order of registration. -/
def contenders (router : Router) (request : Request) : List Entry :=
  (narrow request (pool router request)).map (·.entry)

/-- The places in the table of the entries that selection leaves. -/
def places (router : Router) (request : Request) : List Nat :=
  router.table.findIdxs (· ∈ contenders router request)

/-- What an answer says of the table: places stand for entries. -/
inductive Verdict where
  | chosen (place : Nat) (captures : Captures)
  | tied (places : List Nat)
  | methodNotAllowed (allowed : List Method)
  | notFound
  | notAccepted
deriving Repr, DecidableEq

/-- The answer to a request by places. -/
def verdict (router : Router) (request : Request) : Verdict :=
  match router.route request with
  | .ok m => .chosen (router.table.idxOf m.entry) m.captures
  | .error (.ambiguous _ _) => .tied (places router request)
  | .error (.methodNotAllowed _ _ allowed) => .methodNotAllowed allowed
  | .error (.notFound _) => .notFound
  | .error (.notAccepted _ _) => .notAccepted

theorem eligible_eq (router : Router) (request : Request) :
    eligible router request = router.table.filter (Suits router.resolver request) := by
  unfold eligible reached
  rw [List.filter_filter]
  apply List.filter_congr
  intro e _
  rw [← Bool.decide_and, decide_eq_decide, and_comm]
  rfl

theorem mem_eligible {router : Router} {request : Request} {e : Entry} :
    e ∈ eligible router request ↔ e ∈ router.table ∧ Suits router.resolver request e := by
  rw [eligible_eq, List.mem_filter, decide_eq_true_iff]

theorem contenders_eq (router : Router) (request : Request) :
    contenders router request = winners router request :=
  map_narrow router request

theorem contenders_of_unreached {router : Router} {request : Request}
    (h : reached router.table request = []) : contenders router request = [] := by
  rw [contenders_eq]
  exact (winners_eq_nil_iff router request).mpr (eligible_of_unreached h)

theorem mem_contenders {router : Router} {request : Request} {e : Entry} :
    e ∈ contenders router request ↔ e ∈ eligible router request ∧
      ∀ d ∈ eligible router request, rank request d ≤ rank request e := by
  rw [contenders_eq, winners, mem_leaders]

theorem filter_contenders (router : Router) (request : Request) :
    router.table.filter (· ∈ contenders router request) = contenders router request := by
  rw [contenders_eq, winners, eligible_eq, filter_mem_leaders]

/-- An entry is chosen if it alone is left. -/
theorem route_ok_iff {router : Router} {request : Request} {m : Match} :
    router.route request = .ok m ↔ contenders router request = [m.entry] ∧
      m.entry.template.matchPath request.path = some m.captures ∧
      m.query = request.query ∧ m.wanted = router.resolver.wanted request := by
  have hd := decides_route router request
  rw [contenders_eq]
  constructor
  · intro h
    rw [h] at hd
    cases hd with
    | chosen e captures hw hc => exact ⟨hw, hc, rfl, rfl⟩
  · rintro ⟨hw, hc, hq, hv⟩
    rw [hd.unique (.chosen m.entry m.captures hw hc), ← hq, ← hv]

/-- Entries tie if more than one is left, and the answer lists them. -/
theorem route_ambiguous_iff {router : Router} {request : Request} {path : String}
    {texts : List String} :
    router.route request = .error (.ambiguous path texts) ↔ path = request.path ∧
      2 ≤ (contenders router request).length ∧
      texts = (contenders router request).map Entry.text := by
  have hd := decides_route router request
  rw [contenders_eq]
  constructor
  · intro h
    rw [h] at hd
    cases hd with
    | tied hw => exact ⟨rfl, hw, rfl⟩
  · rintro ⟨rfl, hw, rfl⟩
    exact hd.unique (.tied hw)

theorem mem_places {router : Router} {request : Request} {i : Nat} :
    i ∈ places router request ↔ ∃ e, router.table[i]? = some e ∧ e ∈ contenders router request := by
  simp [places, List.getElem?_eq_some_iff]

theorem map_findIdxs (p : Entry → Bool) (table : Table) :
    (table.findIdxs p).map (table[·]?) = (table.filter p).map some := by
  apply List.ext_getElem
  · rw [List.length_map, List.length_map, List.length_findIdxs, List.countP_eq_length_filter]
  · intro n _ hn
    have hfilter : n < (table.filter p).length := by simpa using hn
    have hplace := List.getElem_filter_eq_getElem_getElem_findIdxs hfilter
    rw [List.getElem_map, List.getElem_map, hplace, List.getElem?_eq_getElem]

/-- The places hold the entries that are left, in the same order. -/
theorem map_places (router : Router) (request : Request) :
    (places router request).map (router.table[·]?) = (contenders router request).map some := by
  rw [places, map_findIdxs, filter_contenders]

theorem length_places (router : Router) (request : Request) :
    (places router request).length = (contenders router request).length := by
  simpa using congrArg List.length (map_places router request)

theorem places_of_unreached {table : Table} {request : Request} (h : reached table request = [])
    (resolver : Version.Resolver) : places ⟨table, resolver⟩ request = [] := by
  have hlen := length_places ⟨table, resolver⟩ request
  rw [contenders_of_unreached h] at hlen
  exact List.length_eq_zero_iff.mp hlen

/-- Places ascend, so two lists of them with the same members are equal. -/
theorem places_ext_iff {router router' : Router} {request : Request} :
    places router request = places router' request ↔
      ∀ i, i ∈ places router request ↔ i ∈ places router' request := by
  constructor
  · intro heq i
    rw [heq]
  · intro hmem
    exact List.pairwise_findIdxs.eq_of_mem_iff List.pairwise_findIdxs hmem

/-- An entry that is left alone stands in one place only. -/
theorem places_of_single {router : Router} {request : Request} {e : Entry}
    (h : contenders router request = [e]) :
    places router request = [router.table.idxOf e] ∧
      router.table[router.table.idxOf e]? = some e := by
  have hleft : e ∈ contenders router request := by rw [h]; exact List.mem_singleton_self e
  have hmem : e ∈ router.table := (mem_eligible.mp (mem_contenders.mp hleft).1).1
  have hat : router.table[router.table.idxOf e]? = some e := List.getElem?_idxOf hmem
  have hin : router.table.idxOf e ∈ places router request := mem_places.mpr ⟨e, hat, hleft⟩
  have hone : (places router request).length = 1 := by rw [length_places, h]; rfl
  obtain ⟨i, hi⟩ := List.length_eq_one_iff.mp hone
  rw [hi, List.mem_singleton] at hin
  exact ⟨by rw [hi, hin], hat⟩

/-- What entries left at these places come to, given what is captured at each place. -/
def Verdict.ofPlaces (captures : Nat → Captures) : List Nat → Verdict
  | [] => .notAccepted
  | [i] => .chosen i (captures i)
  | i :: j :: rest => .tied (i :: j :: rest)

theorem Verdict.ofPlaces_inj {captures : Nat → Captures} {is js : List Nat} :
    Verdict.ofPlaces captures is = Verdict.ofPlaces captures js ↔ is = js := by
  constructor
  · intro h
    -- no two of the three shapes of a list give the same kind of verdict
    rcases is with _ | ⟨i, _ | ⟨i', is⟩⟩ <;> rcases js with _ | ⟨j, _ | ⟨j', js⟩⟩ <;>
      simp_all [ofPlaces]
  · rintro rfl
    rfl

/-- What the entry at a place captures from the path of a request. -/
def capturesAt (table : Table) (request : Request) (i : Nat) : Captures :=
  ((table[i]?).bind fun e => e.template.matchPath request.path).getD []

/-- Methods decide a verdict where no entry is reached, and places everywhere else. -/
theorem verdict_eq (router : Router) (request : Request) :
    verdict router request =
      if reached router.table request = [] then
        if methodsAt router.table request.path = [] then .notFound
        else .methodNotAllowed (methodsAt router.table request.path)
      else .ofPlaces (capturesAt router.table request) (places router request) := by
  have hd := decides_route router request
  have hlen := length_places router request
  unfold verdict
  generalize router.route request = answer at hd
  cases hd with
  | unknownPath hr hm => simp [hr, hm]
  | otherMethods hr hm => simp [hr, hm]
  | otherVersions hr he =>
    have hnone : contenders router request = [] := by
      rw [contenders_eq]
      exact (winners_eq_nil_iff router request).mpr he
    rw [hnone] at hlen
    simp [hr, List.length_eq_zero_iff.mp hlen, Verdict.ofPlaces]
  | chosen e captures hw hc =>
    rw [← contenders_eq] at hw
    obtain ⟨hplaces, hat⟩ := places_of_single hw
    have hr : reached router.table request ≠ [] := by
      intro hr
      rw [contenders_of_unreached hr] at hw
      cases hw
    simp [hr, hplaces, Verdict.ofPlaces, capturesAt, hat, hc]
  | tied hw =>
    rw [← contenders_eq] at hw
    have hr : reached router.table request ≠ [] := by
      intro hr
      simp [contenders_of_unreached hr] at hw
    rw [← hlen] at hw
    match hplaces : places router request with
    | [] => simp [hplaces] at hw
    | [i] => simp [hplaces] at hw
    | i :: j :: rest => simp [hr, Verdict.ofPlaces]

/-- The eligible entries, each with its place. -/
def standing (router : Router) (request : Request) : List (Entry × Nat) :=
  router.table.zipIdx.filter fun p => Suits router.resolver request p.1

theorem mem_standing {router : Router} {request : Request} {e : Entry} {i : Nat} :
    (e, i) ∈ standing router request ↔
      router.table[i]? = some e ∧ Suits router.resolver request e := by
  rw [standing, List.mem_filter, List.mk_mem_zipIdx_iff_getElem?, decide_eq_true_iff]

theorem map_standing (router : Router) (request : Request) :
    (standing router request).map (·.1) = eligible router request := by
  have htable : router.table.zipIdx.map (·.1) = router.table := List.zipIdx_map_fst 0 router.table
  conv => rhs; rw [eligible_eq, ← htable, List.filter_map]
  rfl

theorem map_filter_mapIdx {β : Type} {f : Nat → Entry → Entry} {p : Entry → Bool} {g : Entry → β}
    (hp : ∀ i e, p (f i e) = p e) (hg : ∀ i e, g (f i e) = g e) (table : Table) :
    ((table.mapIdx f).filter p).map g = (table.filter p).map g := by
  induction table generalizing f with
  | nil => rfl
  | cons e table ih =>
    have ih := ih (fun i => hp (i + 1)) (fun i => hg (i + 1))
    rw [List.mapIdx_cons, List.filter_cons, List.filter_cons, hp]
    split
    · rw [List.map_cons, List.map_cons, hg, ih]
    · exact ih

/-- A change of entries at their places, and perhaps of the resolver, after which the same places
may answer a request as before. -/
structure Keeps (resolver resolver' : Version.Resolver) (request : Request)
    (f : Nat → Entry → Entry) : Prop where
  method (i : Nat) (e : Entry) : (f i e).method = e.method
  template (i : Nat) (e : Entry) : (f i e).template = e.template
  version (i : Nat) (e : Entry) :
    (resolver'.rules.enabled = true →
      ∀ c ∈ (f i e).version, c.accepts (resolver'.wanted request) = true) ↔
    (resolver.rules.enabled = true →
      ∀ c ∈ e.version, c.accepts (resolver.wanted request) = true)

section
variable {table : Table} {resolver resolver' : Version.Resolver} {request : Request}
  {f : Nat → Entry → Entry} (h : Keeps resolver resolver' request f)
include h

theorem Keeps.suits (i : Nat) (e : Entry) :
    Suits resolver' request (f i e) ↔ Suits resolver request e := by
  unfold Suits
  rw [h.method, h.template, h.version]

theorem Keeps.reached_nil_iff :
    reached (table.mapIdx f) request = [] ↔ reached table request = [] := by
  have hmethods : (reached (table.mapIdx f) request).map (·.method) =
      (reached table request).map (·.method) := by
    apply map_filter_mapIdx
    · intro i e
      rw [h.method, h.template]
    · exact h.method
  rw [← List.map_eq_nil_iff, hmethods, List.map_eq_nil_iff]

theorem Keeps.methodsAt_eq (path : String) :
    methodsAt (table.mapIdx f) path = methodsAt table path := by
  unfold methodsAt
  congr 1
  apply map_filter_mapIdx
  · intro i e
    rw [h.template]
  · exact h.method

theorem Keeps.capturesAt_eq : capturesAt (table.mapIdx f) request = capturesAt table request := by
  funext i
  unfold capturesAt
  rw [List.getElem?_mapIdx]
  cases table[i]? with
  | none => rfl
  | some e => simp [h.template]

theorem Keeps.eligible_mapIdx :
    eligible ⟨table.mapIdx f, resolver'⟩ request =
      (standing ⟨table, resolver⟩ request).map fun p => f p.2 p.1 := by
  rw [eligible_eq, List.mapIdx_eq_zipIdx_map, List.filter_map, standing]
  congr 1
  apply List.filter_congr
  intro p _
  exact decide_eq_decide.mpr (h.suits p.2 p.1)

/-- The places that are left are those whose changed entries lead. -/
theorem Keeps.mem_places_iff {i : Nat} :
    i ∈ places ⟨table.mapIdx f, resolver'⟩ request ↔ ∃ e, (e, i) ∈
      leaders (fun p => rank request (f p.2 p.1)) (standing ⟨table, resolver⟩ request) := by
  have hat : ∀ d, (table.mapIdx f)[i]? = some d ↔ ∃ e, table[i]? = some e ∧ f i e = d := by
    intro d
    rw [List.getElem?_mapIdx, Option.map_eq_some_iff]
  simp only [mem_places, hat, mem_leaders, mem_contenders, mem_standing]
  constructor
  · rintro ⟨_, ⟨e, he, rfl⟩, hin, hbest⟩
    have hsuits := (h.suits i e).mp (mem_eligible.mp hin).2
    refine ⟨e, ⟨he, hsuits⟩, fun p hp => hbest _ ?_⟩
    rw [h.eligible_mapIdx]
    exact List.mem_map_of_mem hp
  · rintro ⟨e, ⟨he, hsuits⟩, hbest⟩
    refine ⟨f i e, ⟨e, he, rfl⟩, mem_eligible.mpr ⟨?_, (h.suits i e).mpr hsuits⟩, ?_⟩
    · exact List.mem_of_getElem? ((hat _).mpr ⟨e, he, rfl⟩)
    · intro d hd
      rw [h.eligible_mapIdx] at hd
      obtain ⟨p, hp, rfl⟩ := List.mem_map.mp hd
      exact hbest p hp

theorem Keeps.mem_places_of_standing {i : Nat} {e : Entry}
    (hin : (e, i) ∈ standing ⟨table, resolver⟩ request) :
    i ∈ places ⟨table.mapIdx f, resolver'⟩ request ↔ (e, i) ∈
      leaders (fun p => rank request (f p.2 p.1)) (standing ⟨table, resolver⟩ request) := by
  rw [h.mem_places_iff]
  constructor
  · rintro ⟨d, hd⟩
    have hat := (mem_standing.mp hin).1
    have hat' := (mem_standing.mp (mem_leaders.mp hd).1).1
    obtain rfl : e = d := Option.some.inj (hat.symm.trans hat')
    exact hd
  · intro hlead
    exact ⟨e, hlead⟩

end

theorem Keeps.refl (resolver : Version.Resolver) (request : Request) :
    Keeps resolver resolver request fun _ e => e :=
  ⟨fun _ _ => rfl, fun _ _ => rfl, fun _ _ => Iff.rfl⟩

theorem mapIdx_same (table : Table) : (table.mapIdx fun _ e => e) = table := by
  apply List.ext_getElem?
  intro i
  simp

section
variable {table : Table} {resolver resolver' : Version.Resolver} {request : Request}
  {f : Nat → Entry → Entry} (h : Keeps resolver resolver' request f)
include h

theorem Keeps.places_eq_iff :
    places ⟨table.mapIdx f, resolver'⟩ request = places ⟨table, resolver⟩ request ↔
      leaders (fun p => rank request (f p.2 p.1)) (standing ⟨table, resolver⟩ request) =
        leaders (fun p => rank request p.1) (standing ⟨table, resolver⟩ request) := by
  have hrefl := Keeps.refl resolver request
  conv => lhs; rhs; rw [← mapIdx_same table]
  constructor
  · intro heq
    apply leaders_ext
    rintro ⟨e, i⟩ hin
    rw [← h.mem_places_of_standing hin, heq, hrefl.mem_places_of_standing hin]
  · intro heq
    rw [places_ext_iff]
    intro i
    rw [h.mem_places_iff, hrefl.mem_places_iff, heq]

/-- Where the same places may answer, a verdict stays just when those that lead do. -/
theorem Keeps.verdict_eq_iff :
    verdict ⟨table.mapIdx f, resolver'⟩ request = verdict ⟨table, resolver⟩ request ↔
      leaders (fun p => rank request (f p.2 p.1)) (standing ⟨table, resolver⟩ request) =
        leaders (fun p => rank request p.1) (standing ⟨table, resolver⟩ request) := by
  rw [← h.places_eq_iff, verdict_eq, verdict_eq, h.capturesAt_eq, h.methodsAt_eq]
  simp only [h.reached_nil_iff]
  by_cases hr : reached table request = []
  · have hnone := places_of_unreached hr resolver
    have hnone' := places_of_unreached (h.reached_nil_iff.mpr hr) resolver'
    simp [hr, hnone, hnone']
  · simp only [hr, if_false]
    exact Verdict.ofPlaces_inj

end

end Switchboard.Proofs.Contenders
