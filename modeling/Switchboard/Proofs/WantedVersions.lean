import Switchboard.Proofs.Chains
import Switchboard.Proofs.OtherHeaders
import Switchboard.Text.Trimming

namespace Switchboard.Proofs.WantedVersions
open Http Text Version OtherHeaders

/-- A place where a version may be asked for. -/
inductive Source where
  | header (name : String)
  | parameter (name : String)
  | fallback

/-- All places, in order of preference. -/
def places (rules : Rules) : List Source :=
  rules.headerNames.map .header ++ rules.parameterNames.map .parameter ++ [.fallback]

/-- What is written in a place. Of the headers of a name, letter case aside, the last one counts,
and of the parameters of exactly a name the first. -/
inductive Holds (rules : Rules) (query written : List (String × String)) :
    Source → String → Prop where
  | header (name spelled value : String) (before after : List (String × String))
      (hwritten : written = before ++ (spelled, value) :: after)
      (hname : asciiLower spelled = asciiLower name)
      (hlast : ∀ h ∈ after, asciiLower h.1 ≠ asciiLower name) :
      Holds rules query written (.header name) value
  | parameter (name value : String) (before after : List (String × String))
      (hquery : query = before ++ (name, value) :: after)
      (hfirst : ∀ p ∈ before, p.1 ≠ name) :
      Holds rules query written (.parameter name) value
  | fallback (value : String) (h : rules.defaultVersion = some value) :
      Holds rules query written .fallback value

/-- The trimmed text of the first place that holds more than blanks. -/
def Foremost (rules : Rules) (query written : List (String × String)) (t : String) : Prop :=
  ∃ before source after value, places rules = before ++ source :: after ∧
    Holds rules query written source value ∧ isBlankText value = false ∧ t = trim value ∧
    ∀ s ∈ before, ∀ v, Holds rules query written s v → isBlankText v = true

/-- A request with these query pairs, its headers written one after the other. -/
def request (method : Method) (path : String) (query written : List (String × String)) : Request :=
  (⟨method, path, query, .empty⟩ : Request).withHeaders written

/-- The text that a place holds, if any. -/
def held (rules : Rules) (query written : List (String × String)) : Source → Option String
  | .header name => lastValue name written
  | .parameter name => Query.find? name query
  | .fallback => rules.defaultVersion

theorem lastValue_eq_some_iff {name value : String} {written : List (String × String)} :
    lastValue name written = some value ↔ ∃ spelled before after,
      written = before ++ (spelled, value) :: after ∧ asciiLower spelled = asciiLower name ∧
      ∀ h ∈ after, asciiLower h.1 ≠ asciiLower name := by
  unfold lastValue
  rw [Option.map_eq_some_iff]
  constructor
  · rintro ⟨⟨spelled, _⟩, hfind, rfl⟩
    obtain ⟨hname, after, before, hwritten, hlast⟩ := List.find?_eq_some_iff_append.mp hfind
    refine ⟨spelled, before.reverse, after.reverse, ?_, of_decide_eq_true hname, ?_⟩
    · rw [← List.reverse_reverse written, hwritten]
      simp
    · intro h hh
      simpa using hlast h (List.mem_reverse.mp hh)
  · rintro ⟨spelled, before, after, rfl, hname, hlast⟩
    refine ⟨(spelled, value), List.find?_eq_some_iff_append.mpr
      ⟨decide_eq_true hname, after.reverse, before.reverse, by simp, ?_⟩, rfl⟩
    intro h hh
    simpa using hlast h (List.mem_reverse.mp hh)

theorem find?_eq_some_iff {name value : String} {query : List (String × String)} :
    Query.find? name query = some value ↔ ∃ before after,
      query = before ++ (name, value) :: after ∧ ∀ p ∈ before, p.1 ≠ name := by
  unfold Query.find?
  rw [Option.map_eq_some_iff]
  constructor
  · rintro ⟨⟨key, _⟩, hfind, rfl⟩
    obtain ⟨hname, before, after, hquery, hfirst⟩ := List.find?_eq_some_iff_append.mp hfind
    obtain rfl : key = name := of_decide_eq_true hname
    exact ⟨before, after, hquery, fun p hp => by simpa using hfirst p hp⟩
  · rintro ⟨before, after, rfl, hfirst⟩
    refine ⟨(name, value), List.find?_eq_some_iff_append.mpr
      ⟨decide_eq_true rfl, before, after, rfl, ?_⟩, rfl⟩
    exact fun p hp => by simpa using hfirst p hp

theorem holds_iff {rules : Rules} {query written : List (String × String)} {s : Source}
    {value : String} :
    Holds rules query written s value ↔ held rules query written s = some value := by
  constructor
  · intro h
    cases h with
    | header name spelled _ before after hwritten hname hlast =>
      exact lastValue_eq_some_iff.mpr ⟨spelled, before, after, hwritten, hname, hlast⟩
    | parameter name _ before after hquery hfirst =>
      exact find?_eq_some_iff.mpr ⟨before, after, hquery, hfirst⟩
    | fallback _ h => exact h
  · intro h
    cases s with
    | header name =>
      obtain ⟨spelled, before, after, hwritten, hname, hlast⟩ := lastValue_eq_some_iff.mp h
      exact .header name spelled value before after hwritten hname hlast
    | parameter name =>
      obtain ⟨before, after, hquery, hfirst⟩ := find?_eq_some_iff.mp h
      exact .parameter name value before after hquery hfirst
    | fallback => exact .fallback value h

theorem get?_request (method : Method) (path : String) (query written : List (String × String))
    (name : String) :
    (request method path query written).headers.get? name = lastValue name written := by
  rw [request, get?_withHeaders]
  exact Option.or_none

theorem sources_eq {rules : Rules} {headers : Headers} {query written : List (String × String)}
    (h : ∀ name, headers.get? name = lastValue name written) :
    Resolver.sources rules headers query = (places rules).filterMap (held rules query written) := by
  have hheaders : headers.get? = fun name => held rules query written (.header name) := funext h
  rw [Resolver.sources, places, List.filterMap_append, List.filterMap_append, List.filterMap_map,
    List.filterMap_map, hheaders]
  cases hdefault : rules.defaultVersion <;> simp [held, hdefault, Function.comp_def]

/-- The first trimmed text that is not empty is that of the foremost place. -/
theorem find?_trimmed_iff {rules : Rules} {query written : List (String × String)} {t : String} :
    (((places rules).filterMap (held rules query written)).map trim).find? (· ≠ "") = some t ↔
      Foremost rules query written t := by
  have hshows : ∀ o : Option String, o.any ((fun t => decide (t ≠ "")) ∘ trim) = true ↔
      ∃ v, o = some v ∧ isBlankText v = false := by
    intro o
    simp [Option.any_eq_true, trim_eq_empty_iff]
  have hhides : ∀ o : Option String, o.any ((fun t => decide (t ≠ "")) ∘ trim) = false ↔
      ∀ v, o = some v → isBlankText v = true := by
    intro o
    simp [Option.any_eq_false, trim_eq_empty_iff]
  rw [List.find?_map, Option.map_eq_some_iff]
  simp only [List.find?_filterMap, Option.bind_eq_some_iff, List.find?_eq_some_iff_append,
    Bool.not_eq_true', hshows, hhides]
  constructor
  · rintro ⟨value, ⟨source, ⟨⟨_, hsome, hblank⟩, before, after, hplaces, hbefore⟩, hvalue⟩, rfl⟩
    obtain rfl := Option.some.inj (hsome.symm.trans hvalue)
    exact ⟨before, source, after, _, hplaces, holds_iff.mpr hvalue, hblank, rfl,
      fun s hs v hv => hbefore s hs v (holds_iff.mp hv)⟩
  · rintro ⟨before, source, after, value, hplaces, hholds, hblank, rfl, hbefore⟩
    have hvalue := holds_iff.mp hholds
    exact ⟨value, ⟨source, ⟨⟨value, hvalue, hblank⟩, before, after, hplaces,
      fun s hs v hv => hbefore s hs v (holds_iff.mpr hv)⟩, hvalue⟩, rfl⟩

theorem find?_trimmed_eq_none_iff {rules : Rules} {query written : List (String × String)} :
    (((places rules).filterMap (held rules query written)).map trim).find? (· ≠ "") = none ↔
      ∀ s ∈ places rules, ∀ v, Holds rules query written s v → isBlankText v = true := by
  simp only [List.find?_eq_none, List.forall_mem_map, List.mem_filterMap, decide_eq_true_eq,
    not_not, trim_eq_empty_iff, holds_iff]
  constructor
  · intro h s hs v hv
    exact h v ⟨s, hs, hv⟩
  · rintro h v ⟨s, hs, hv⟩
    exact h s hs v hv

/-- A default that passes its check is not blank. -/
theorem default_shown {rules : Rules} (h : rules.check = .ok ()) {value : String}
    (hdefault : rules.defaultVersion = some value) : isBlankText value = false := by
  by_contra hblank
  have hfail : Config.Check.notBlank value "router.versioning.default-version" =
      Config.Check.fail "router.versioning.default-version" .blank := by
    rw [Config.Check.notBlank, if_pos (by simpa using hblank)]
  rw [Rules.check, hdefault] at h
  simp only [hfail] at h
  cases h

theorem of_ofRules {rules : Rules} {r : Resolver} (h : Resolver.ofRules rules = .ok r) :
    rules.check = .ok () ∧ r = ⟨rules⟩ := by
  obtain ⟨⟨⟩, hcheck, hr⟩ := Chains.bind_ok_iff.mp h
  exact ⟨hcheck, (Except.ok.inj hr).symm⟩

theorem wanted_eq {rules : Rules} (hon : rules.enabled = true) (method : Method) (path : String)
    (query written : List (String × String)) :
    Resolver.wanted ⟨rules⟩ (request method path query written) =
      (((places rules).filterMap (held rules query written)).map trim).find? (· ≠ "") := by
  have hquery : (request method path query written).query = query :=
    (withHeaders_keeps _ written).2.2
  rw [Resolver.wanted, Resolver.wantedOf, if_pos hon, hquery,
    sources_eq (get?_request method path query written)]

/-- Under rules that pass their check a request asks for what is written in the foremost place, and
for no version only where every place is blank; so a default always counts in the end. -/
theorem wanted_foremost {rules : Rules} {r : Resolver} (h : Resolver.ofRules rules = .ok r)
    (hon : rules.enabled = true) (method : Method) (path : String)
    (query written : List (String × String)) :
    (∀ t, r.wanted (request method path query written) = some t ↔ Foremost rules query written t) ∧
    (r.wanted (request method path query written) = none ↔
      ∀ s ∈ places rules, ∀ v, Holds rules query written s v → isBlankText v = true) ∧
    (rules.defaultVersion ≠ none → r.wanted (request method path query written) ≠ none) ∧
    ∀ t, r.wanted (request method path query written) = some t → t ≠ "" ∧ Tight t.toList := by
  obtain ⟨hcheck, rfl⟩ := of_ofRules h
  have hwanted := wanted_eq hon method path query written
  have hsome : ∀ t, Resolver.wanted ⟨rules⟩ (request method path query written) = some t ↔
      Foremost rules query written t := by
    intro t
    rw [hwanted]
    exact find?_trimmed_iff
  have hnone : Resolver.wanted ⟨rules⟩ (request method path query written) = none ↔
      ∀ s ∈ places rules, ∀ v, Holds rules query written s v → isBlankText v = true := by
    rw [hwanted]
    exact find?_trimmed_eq_none_iff
  refine ⟨hsome, hnone, ?_, ?_⟩
  · intro hdefault habsent
    obtain ⟨value, hvalue⟩ := Option.ne_none_iff_exists'.mp hdefault
    have hplace : Source.fallback ∈ places rules := by simp [places]
    have hblank := hnone.mp habsent .fallback hplace value (.fallback value hvalue)
    rw [default_shown hcheck hvalue] at hblank
    cases hblank
  · intro t ht
    obtain ⟨_, _, _, value, -, -, hblank, rfl, -⟩ := (hsome t).mp ht
    rw [toList_trim, ne_eq, trim_eq_empty_iff]
    exact ⟨by simp [hblank], tight_trimChars value.toList⟩

/-- Two headers, a parameter and a default. -/
def twoHeaders : Rules :=
  ⟨true, some "1", ["X-API-VERSION", "Accept-Version"], ["api-version"]⟩

/-- The first header is blank, and the second one was written over. -/
theorem second_header_foremost :
    Resolver.ofRules twoHeaders = .ok ⟨twoHeaders⟩ ∧ twoHeaders.enabled = true ∧
    Resolver.wanted ⟨twoHeaders⟩ (request .get "/users" [("api-version", "3")]
      [("accept-version", "9"), ("x-api-version", "  "), ("ACCEPT-VERSION", " 2 ")]) =
        some "2" := by
  have hrules : Resolver.ofRules twoHeaders = .ok ⟨twoHeaders⟩ := by rfl
  have hforemost : Foremost twoHeaders [("api-version", "3")]
      [("accept-version", "9"), ("x-api-version", "  "), ("ACCEPT-VERSION", " 2 ")] "2" := by
    refine ⟨[.header "X-API-VERSION"], .header "Accept-Version",
      [.parameter "api-version", .fallback], " 2 ", rfl, ?_, by decide, by decide, ?_⟩
    · exact .header "Accept-Version" "ACCEPT-VERSION" " 2 "
        [("accept-version", "9"), ("x-api-version", "  ")] [] rfl (by decide) (by simp)
    · intro s hs v hv
      obtain rfl := List.mem_singleton.mp hs
      have hblank : held twoHeaders [("api-version", "3")] [("accept-version", "9"),
          ("x-api-version", "  "), ("ACCEPT-VERSION", " 2 ")] (.header "X-API-VERSION") =
            some "  " := by decide
      obtain rfl := Option.some.inj (hblank.symm.trans (holds_iff.mp hv))
      decide
  exact ⟨hrules, rfl, ((wanted_foremost hrules rfl .get "/users" _ _).1 "2").mpr hforemost⟩

end Switchboard.Proofs.WantedVersions
