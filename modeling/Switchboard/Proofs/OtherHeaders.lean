import Mathlib.Data.List.Basic
import Switchboard.Route.Router

namespace Switchboard.Proofs.OtherHeaders
open Http Route Text

/-- The last of the values written under a name, letter case aside. -/
def lastValue (name : String) (written : List (String × String)) : Option String :=
  (written.reverse.find? fun header => asciiLower header.1 = asciiLower name).map (·.2)

/-- The names of the headers that a router reads. -/
def namesRead (router : Router) : List String :=
  "Content-Type" :: "Accept" :: router.resolver.rules.headerNames

theorem lastValue_cons (name : String) (header : String × String)
    (written : List (String × String)) :
    lastValue name (header :: written) = (lastValue name written).or
      (if asciiLower header.1 = asciiLower name then some header.2 else none) := by
  unfold lastValue
  rw [List.reverse_cons, List.find?_append, Option.map_or]
  congr 1
  by_cases hname : asciiLower header.1 = asciiLower name <;> simp [List.find?, hname]

theorem get?_insert (name value other : String) (h : Headers) :
    (h.insert name value).get? other =
      if asciiLower name = asciiLower other then some value else h.get? other := by
  unfold Headers.insert Headers.get?
  split
  · next heq => rw [heq, Tree.Fields.find?_put_self]
  · next hne => rw [Tree.Fields.find?_put_of_ne (Ne.symm hne)]

theorem get?_of_same {name other : String} (hname : asciiLower name = asciiLower other)
    (h : Headers) : h.get? name = h.get? other := by
  unfold Headers.get?
  rw [hname]

/-- A later value takes the place of an earlier one, and both that of what the request began
with. -/
theorem get?_withHeaders (name : String) (written : List (String × String)) (r : Request) :
    (r.withHeaders written).headers.get? name =
      (lastValue name written).or (r.headers.get? name) := by
  induction written generalizing r with
  | nil => rfl
  | cons header written ih =>
    have hstep : r.withHeaders (header :: written) =
        (r.withHeader header.1 header.2).withHeaders written := rfl
    have hget : (r.withHeader header.1 header.2).headers.get? name =
        if asciiLower header.1 = asciiLower name then some header.2 else r.headers.get? name :=
      get?_insert header.1 header.2 name r.headers
    rw [hstep, ih, hget, lastValue_cons, Option.or_assoc]
    congr 1
    split <;> rfl

/-- Two requests between which a router cannot tell. -/
structure Alike (router : Router) (r r' : Request) : Prop where
  method : r.method = r'.method
  path : r.path = r'.path
  query : r.query = r'.query
  header (name : String) (h : name ∈ namesRead router) : r.headers.get? name = r'.headers.get? name

theorem withHeaders_keeps (r : Request) (written : List (String × String)) :
    (r.withHeaders written).method = r.method ∧ (r.withHeaders written).path = r.path ∧
      (r.withHeaders written).query = r.query := by
  induction written generalizing r with
  | nil => exact ⟨rfl, rfl, rfl⟩
  | cons header written ih => exact ih (r.withHeader header.1 header.2)

theorem alike_withHeaders {router : Router} {written written' : List (String × String)}
    (h : ∀ name ∈ namesRead router, lastValue name written = lastValue name written')
    (r : Request) : Alike router (r.withHeaders written) (r.withHeaders written') := by
  obtain ⟨hmethod, hpath, hquery⟩ := withHeaders_keeps r written
  obtain ⟨hmethod', hpath', hquery'⟩ := withHeaders_keeps r written'
  refine ⟨hmethod.trans hmethod'.symm, hpath.trans hpath'.symm, hquery.trans hquery'.symm, ?_⟩
  intro name hname
  rw [get?_withHeaders, get?_withHeaders, h name hname]

section
variable {router : Router} {r r' : Request} (h : Alike router r r')
include h

theorem Alike.wanted : router.resolver.wanted r = router.resolver.wanted r' := by
  have hsources : Version.Resolver.sources router.resolver.rules r.headers r.query =
      Version.Resolver.sources router.resolver.rules r'.headers r'.query := by
    unfold Version.Resolver.sources
    rw [h.query]
    congr 2
    apply List.filterMap_congr
    intro name hname
    exact h.header name (List.mem_cons_of_mem _ (List.mem_cons_of_mem _ hname))
  unfold Version.Resolver.wanted Version.Resolver.wantedOf
  rw [hsources]

theorem Alike.contentType : r.contentType? = r'.contentType? := by
  have hget := h.header "Content-Type" List.mem_cons_self
  have hname : asciiLower "Content-Type" = asciiLower "content-type" := by decide
  rw [get?_of_same hname, get?_of_same hname] at hget
  unfold Request.contentType?
  rw [hget]

theorem Alike.accept : r.accept = r'.accept := by
  have hget := h.header "Accept" (List.mem_cons_of_mem _ List.mem_cons_self)
  have hname : asciiLower "Accept" = asciiLower "accept" := by decide
  rw [get?_of_same hname, get?_of_same hname] at hget
  unfold Request.accept
  rw [hget]

/-- The rules of selection read the content type and the accepted types, and nothing else. -/
theorem Alike.select (pool : List Candidate) : select r pool = select r' pool := by
  have hnarrow : narrow r pool = narrow r' pool := by
    unfold narrow keepProducing keepConsuming
    rw [h.contentType, h.accept]
  unfold Route.select
  rw [hnarrow, h.path]

theorem Alike.route : router.route r = router.route r' := by
  unfold Router.route
  simp only [h.method, h.path, h.query, h.wanted, h.select]

end

/-- What a request is answered depends on its method, its target and what was last written under the
names that the router reads: no other header, no other spelling of a name, no value that was written
over and no order in which headers were written changes it. -/
theorem route_other_headers {router : Router} {written written' : List (String × String)}
    (h : ∀ name ∈ namesRead router, lastValue name written = lastValue name written')
    (method : Method) (target : String) :
    router.route ((Request.of method target).withHeaders written) =
      router.route ((Request.of method target).withHeaders written') :=
  (alike_withHeaders h _).route

/-- Reports of the second version. -/
def reports : Entry :=
  ⟨.get, ⟨"/reports", [.literal "reports"]⟩, [MediaType.json], [], some (.exact "2"), "reports"⟩

/-- The second request asks for the same version and type as the first, in other words and with
another version written over. -/
theorem reports_other_headers :
    (∀ name ∈ namesRead ⟨[reports], .standard⟩,
      lastValue name [("Accept", "text/html"), ("X-Trace", "1"), ("accept", "application/json"),
          ("x-api-version", " v2")] =
        lastValue name [("X-API-VERSION", "7"), ("ACCEPT", "application/json"),
          ("X-Api-Version", " v2"), ("Host", "a")]) ∧
    Router.route ⟨[reports], .standard⟩ ((Request.of .get "/reports?page=3").withHeaders
        [("Accept", "text/html"), ("X-Trace", "1"), ("accept", "application/json"),
          ("x-api-version", " v2")]) =
      .ok ⟨reports, [], [("page", "3")], some "v2"⟩ ∧
    Router.route ⟨[reports], .standard⟩ ((Request.of .get "/reports?page=3").withHeaders
        [("X-API-VERSION", "7"), ("ACCEPT", "application/json"), ("X-Api-Version", " v2"),
          ("Host", "a")]) =
      .ok ⟨reports, [], [("page", "3")], some "v2"⟩ := by
  have hlast : ∀ name ∈ namesRead ⟨[reports], .standard⟩,
      lastValue name [("Accept", "text/html"), ("X-Trace", "1"), ("accept", "application/json"),
          ("x-api-version", " v2")] =
        lastValue name [("X-API-VERSION", "7"), ("ACCEPT", "application/json"),
          ("X-Api-Version", " v2"), ("Host", "a")] := by decide
  have hfirst : Router.route ⟨[reports], .standard⟩
      ((Request.of .get "/reports?page=3").withHeaders [("Accept", "text/html"), ("X-Trace", "1"),
        ("accept", "application/json"), ("x-api-version", " v2")]) =
      .ok ⟨reports, [], [("page", "3")], some "v2"⟩ := by rfl
  exact ⟨hlast, hfirst, (route_other_headers hlast .get "/reports?page=3").symm.trans hfirst⟩

end Switchboard.Proofs.OtherHeaders
