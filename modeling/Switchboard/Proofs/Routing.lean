import Switchboard.Proofs.Leaders
import Switchboard.Proofs.TemplateLanguage
import Switchboard.Route.Router

namespace Switchboard.Proofs.Routing
open Http Route Leaders

/-- The entries under the method of a request whose template matches its path. -/
def reached (table : Table) (request : Request) : List Entry :=
  table.filter fun e => e.method = request.method ∧ (e.template.matchPath request.path).isSome

/-- The methods of all entries whose template matches a path, each where it first stands. -/
def methodsAt (table : Table) (path : String) : List Method :=
  ((table.filter fun e => (e.template.matchPath path).isSome).map (·.method)).eraseDups

/-- The reached entries that may answer the version a request asks for. Without versioning all of
them may. -/
def eligible (router : Router) (request : Request) : List Entry :=
  (reached router.table request).filter fun e => router.resolver.rules.enabled = true →
    ∀ c ∈ e.version, c.accepts (router.resolver.wanted request) = true

/-- How well an entry consumes what a request carries. Without a readable content type all entries
do alike. -/
def consumed (request : Request) (e : Entry) : Nat :=
  match request.contentType? with
  | none => 0
  | some type => if e.consumes = [] then 1 else e.consumes.toFinset.sup (·.matchRank type)

/-- Quality and specificity of the best type that an entry produces. -/
def produced (request : Request) (e : Entry) : Nat ×ₗ Nat :=
  let quality := request.accept.quality
  if e.produces = [] then toLex (quality MediaType.any, 1)
  else e.produces.toFinset.sup fun m =>
    toLex (quality m, if 0 < quality m then m.specificity else 0)

/-- Literal segments count most, then what is consumed, then what is produced. -/
def rank (request : Request) (e : Entry) : Nat ×ₗ Nat ×ₗ Nat ×ₗ Nat :=
  toLex (e.template.literalCount, toLex (consumed request e, produced request e))

/-- The eligible entries of the highest rank, in order of registration. -/
def winners (router : Router) (request : Request) : List Entry :=
  leaders (rank request) (eligible router request)

/-- The answer to a request. `notAccepted` is the answer "not found" that names the version. -/
inductive Decides (router : Router) (request : Request) : Except Failure Match → Prop where
  | unknownPath (hr : reached router.table request = [])
      (hm : methodsAt router.table request.path = []) :
      Decides router request (.error (.notFound request.path))
  | otherMethods (hr : reached router.table request = [])
      (hm : methodsAt router.table request.path ≠ []) :
      Decides router request (.error (.methodNotAllowed request.method request.path
        (methodsAt router.table request.path)))
  | otherVersions (hr : reached router.table request ≠ []) (he : eligible router request = []) :
      Decides router request
        (.error (.notAccepted request.path (router.resolver.wanted request)))
  | chosen (e : Entry) (captures : Captures) (hw : winners router request = [e])
      (hc : e.template.matchPath request.path = some captures) :
      Decides router request
        (.ok ⟨e, captures, request.query, router.resolver.wanted request⟩)
  | tied (hw : 2 ≤ (winners router request).length) :
      Decides router request
        (.error (.ambiguous request.path ((winners router request).map Entry.text)))

theorem consumesScore_eq (e : Entry) (type : MediaType) :
    consumesScore e type =
      if e.consumes = [] then 1 else e.consumes.toFinset.sup (·.matchRank type) := by
  unfold consumesScore
  rw [List.foldl_map, ← foldl_sup]
  simp only [List.isEmpty_iff]
  rfl

theorem producesScore_eq (request : Request) (e : Entry) :
    toLex (producesScore e request.accept) = produced request e := by
  unfold producesScore produced
  simp only [List.isEmpty_iff]
  split
  · rfl
  · rw [toLex_bestScore]

theorem keepConsuming_eq (request : Request) (pool : List Candidate) :
    keepConsuming request pool = leaders (fun c => consumed request c.entry) pool := by
  unfold keepConsuming
  split
  · rename_i hl
    exact (leaders_of_length_le_one _ hl).symm
  · cases ht : request.contentType? with
    | none =>
      refine (leaders_const ?_).symm
      intro x _ y _
      simp [consumed, ht]
    | some type =>
      simp only [keepBest_single, consumesScore_eq, consumed, ht]

theorem keepProducing_eq (request : Request) (pool : List Candidate) :
    keepProducing request pool = leaders (fun c => produced request c.entry) pool := by
  unfold keepProducing
  split
  · rename_i hl
    exact (leaders_of_length_le_one _ hl).symm
  · rw [keepBest_eq]
    simp only [producesScore_eq]

/-- The three rules in turn, each skipped once it has nothing to decide, are one comparison. -/
theorem narrow_eq (request : Request) (pool : List Candidate) :
    narrow request pool = leaders (fun c => rank request c.entry) pool := by
  unfold narrow keepLiteral
  rw [keepProducing_eq, keepConsuming_eq, keepBest_single, leaders_leaders, leaders_leaders]
  rfl

theorem matchPath_isSome (t : Template) (path : String) :
    (t.matchPath path).isSome = t.fitsPath (pathSegments path) :=
  TemplateLanguage.matchSegments_isSome t (pathSegments path)

/-- The methods collected so far come first, and only new ones are added behind them. -/
theorem foldl_addMethod (path : String) (table : Table) (methods : List Method) :
    table.foldl (addMethod (pathSegments path)) methods =
      methods ++ (((table.filter fun e => (e.template.matchPath path).isSome).map (·.method)).filter
        (· ∉ methods)).eraseDups := by
  induction table generalizing methods with
  | nil => simp
  | cons e table ih =>
    rw [List.foldl_cons, ih, List.filter_cons]
    cases hf : (e.template.matchPath path).isSome with
    | false =>
      have hsame : addMethod (pathSegments path) methods e = methods := by
        rw [matchPath_isSome] at hf
        simp [addMethod, hf]
      simp [hsame]
    | true =>
      rw [matchPath_isSome] at hf
      by_cases hm : e.method ∈ methods
      · simp [addMethod, hm]
      · have hadd : addMethod (pathSegments path) methods e = methods ++ [e.method] := by
          simp [addMethod, hm, hf]
        simp only [hadd, if_true, List.map_cons, List.filter_cons, hm, not_false_eq_true,
          decide_true, List.eraseDups_cons, List.filter_filter, List.append_assoc,
          List.singleton_append]
        congr 3
        apply List.filter_congr
        intro m _
        by_cases hmm : m ∈ methods <;> by_cases he : m = e.method <;> simp [hmm, he]

theorem allowedMethods_eq (table : Table) (path : String) :
    allowedMethods table path = methodsAt table path := by
  unfold allowedMethods methodsAt
  rw [foldl_addMethod]
  simp

theorem nodup_eraseDups {α : Type} [DecidableEq α] (items : List α) : items.eraseDups.Nodup := by
  match items with
  | [] => simp
  | x :: items =>
    rw [List.eraseDups_cons, List.nodup_cons]
    refine ⟨?_, nodup_eraseDups _⟩
    simp [List.mem_eraseDups]
termination_by items.length
decreasing_by exact Nat.lt_succ_of_le (List.length_filter_le _ _)

theorem candidate?_eq_some_iff {e : Entry} {method : Method} {path : String} {c : Candidate} :
    e.candidate? method (pathSegments path) = some c ↔
      e.method = method ∧ c.entry = e ∧ e.template.matchPath path = some c.captures := by
  unfold Entry.candidate? Template.matchPath
  by_cases hm : e.method = method
  · rw [if_pos hm, Option.map_eq_some_iff]
    constructor
    · intro h
      obtain ⟨captures, hc, rfl⟩ := h
      exact ⟨hm, rfl, hc⟩
    · intro h
      obtain ⟨-, rfl, hc⟩ := h
      exact ⟨c.captures, hc, rfl⟩
  · simp [hm]

theorem mem_candidates {table : Table} {request : Request} {c : Candidate}
    (h : c ∈ candidates table request.method request.path) :
    c.entry.template.matchPath request.path = some c.captures := by
  obtain ⟨e, _, hc⟩ := List.mem_filterMap.mp h
  obtain ⟨_, rfl, hm⟩ := candidate?_eq_some_iff.mp hc
  exact hm

/-- The candidates are the reached entries, each with what its template captures. -/
theorem map_candidates (table : Table) (request : Request) :
    (candidates table request.method request.path).map (·.entry) = reached table request := by
  unfold candidates reached
  induction table with
  | nil => rfl
  | cons e table ih =>
    rw [List.filterMap_cons, List.filter_cons]
    cases hc : e.candidate? request.method (pathSegments request.path) with
    | none =>
      have hno : ¬(e.method = request.method ∧ (e.template.matchPath request.path).isSome) := by
        intro h
        obtain ⟨hm, hs⟩ := h
        obtain ⟨captures, hcs⟩ := Option.isSome_iff_exists.mp hs
        have := candidate?_eq_some_iff.mpr
          ⟨hm, (rfl : (⟨e, captures⟩ : Candidate).entry = e), hcs⟩
        simp [hc] at this
      simp only [hno, decide_false, Bool.false_eq_true, if_false]
      exact ih
    | some c =>
      obtain ⟨hm, rfl, hs⟩ := candidate?_eq_some_iff.mp hc
      simp only [hm, hs, Option.isSome_some, and_self, decide_true, if_true, List.map_cons, ih]

theorem admits_iff (resolver : Version.Resolver) (wanted : Version.Wanted)
    (version : Option Version.Constraint) :
    resolver.admits wanted version = true ↔
      (resolver.rules.enabled = true → ∀ c ∈ version, c.accepts wanted = true) := by
  unfold Version.Resolver.admits
  cases version with
  | none => simp
  | some c => cases resolver.rules.enabled <;> simp

theorem map_admitted (router : Router) (request : Request) :
    (Router.admitted router.resolver (router.resolver.wanted request)
      (candidates router.table request.method request.path)).map (·.entry) =
      eligible router request := by
  unfold Router.admitted eligible
  rw [← map_candidates, List.filter_map]
  congr 1
  apply List.filter_congr
  intro c _
  apply Bool.eq_iff_iff.mpr
  rw [admits_iff]
  exact decide_eq_true_iff.symm

theorem map_narrow (router : Router) (request : Request) :
    (narrow request (Router.admitted router.resolver (router.resolver.wanted request)
      (candidates router.table request.method request.path))).map (·.entry) =
      winners router request := by
  rw [narrow_eq, map_leaders, map_admitted]
  rfl

theorem eligible_of_unreached {router : Router} {request : Request}
    (h : reached router.table request = []) : eligible router request = [] := by
  simp [eligible, h]

theorem winners_eq_nil_iff (router : Router) (request : Request) :
    winners router request = [] ↔ eligible router request = [] := by
  constructor
  · intro hw
    by_contra he
    exact leaders_ne_nil (rank request) he hw
  · intro he
    simp [winners, he, leaders]

/-- A request has one answer. -/
theorem Decides.unique {router : Router} {request : Request} {a b : Except Failure Match}
    (ha : Decides router request a) (hb : Decides router request b) : a = b := by
  have hr : reached router.table request = [] → eligible router request = [] :=
    eligible_of_unreached
  have hw := winners_eq_nil_iff router request
  -- any two kinds of answer differ in what is reached, what is eligible or how many lead
  cases ha <;> cases hb <;> simp_all

/-- What the candidates come to once versions are settled. -/
theorem select_decides {router : Router} {request : Request}
    (he : eligible router request ≠ []) :
    Decides router request
      ((select request (Router.admitted router.resolver (router.resolver.wanted request)
        (candidates router.table request.method request.path))).map fun c =>
          ⟨c.entry, c.captures, request.query, router.resolver.wanted request⟩) := by
  have hmap := map_narrow router request
  have hsub : ∀ c ∈ narrow request (Router.admitted router.resolver
      (router.resolver.wanted request) (candidates router.table request.method request.path)),
      c.entry.template.matchPath request.path = some c.captures := by
    intro c hc
    rw [narrow_eq, mem_leaders] at hc
    exact mem_candidates (List.mem_filter.mp hc.1).1
  unfold select
  split
  · rename_i hn
    rw [hn] at hmap
    exact absurd ((winners_eq_nil_iff router request).mp hmap.symm) he
  · rename_i c hn
    rw [hn] at hmap hsub
    exact .chosen c.entry c.captures hmap.symm (hsub c (by simp))
  · rename_i hnil hone
    generalize narrow request _ = pool at *
    simp only [Except.map]
    have htexts : pool.map (fun c => c.entry.text) =
        (winners router request).map Entry.text := by
      rw [← hmap, List.map_map]
      rfl
    rw [htexts]
    apply Decides.tied
    rw [← hmap, List.length_map]
    match pool, hnil, hone with
    | [], hnil, _ => exact absurd rfl hnil
    | [c], _, hone => exact absurd rfl (hone c)
    | c :: d :: rest, _, _ => simp

theorem decides_route (router : Router) (request : Request) :
    Decides router request (router.route request) := by
  have hmap := map_candidates router.table request
  have heligible := map_admitted router request
  unfold Router.route
  by_cases hr : reached router.table request = []
  · rw [hr, List.map_eq_nil_iff] at hmap
    simp only [hmap, List.isEmpty_nil, if_true, allowedMethods_eq]
    cases hm : methodsAt router.table request.path with
    | nil => exact .unknownPath hr hm
    | cons m ms =>
      simp only [← hm]
      exact .otherMethods hr (by simp [hm])
  · have hne : candidates router.table request.method request.path ≠ [] := by
      intro hc
      exact hr (by rw [← hmap, hc]; rfl)
    simp only [List.isEmpty_iff, hne, if_false]
    by_cases he : eligible router request = []
    · rw [he, List.map_eq_nil_iff] at heligible
      simp only [heligible, if_true]
      exact .otherVersions hr he
    · have hne' : Router.admitted router.resolver (router.resolver.wanted request)
          (candidates router.table request.method request.path) ≠ [] := by
        intro hc
        exact he (by rw [← heligible, hc]; rfl)
      simp only [hne', if_false]
      exact select_decides he

/-- Routing is one decision over the whole table: three filters in a row behind a lazy match come to
a single comparison of the eligible entries. -/
theorem route_eq_iff_decides (router : Router) (request : Request)
    (answer : Except Failure Match) :
    router.route request = answer ↔ Decides router request answer := by
  constructor
  · rintro rfl
    exact decides_route router request
  · intro h
    exact (decides_route router request).unique h

end Switchboard.Proofs.Routing
