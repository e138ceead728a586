import Switchboard.Directory.Consul
import Switchboard.Proofs.Extensions
import Switchboard.Proofs.Fetching

namespace Switchboard.Proofs.Targets
open Service Directory Http Text Url Segments Extensions
open Metadata (Exchange noting)

/-- A URL of an agent whose path goes on, from that of the agent, by these segments and by one more
that is decoded to an id. -/
structure Reaches (agent : Url) (lead : List String) (id : String) (query : Option String)
    (url : Url) : Prop where
  scheme : url.scheme = agent.scheme
  authority : url.authority = (withoutCredentials agent).authority
  path : ∃ names last, agent.path = .segments names ∧
    url.path = .segments (unclosed names ++ lead ++ [last]) ∧
    Percent.ofBytes? (Percent.unescape (Percent.bytes last)) = some id
  query : url.query = query
  fragment : url.fragment = none

/-- One request, and it reaches an id. -/
def Requests (agent : Url) (lead : List String) (id : String) (query : Option String)
    (sent : List Exchange) : Prop :=
  ∃ e, sent = [e] ∧ Reaches agent lead id query e.call.url

/-- A text that means itself in a path: nothing in it ends a segment or the path, is dropped or is
read as an escape. -/
structure Plain (id : String) : Prop where
  kept : ∀ c ∈ id.toList, isSlash .special c = false ∧ isTailStart c = false ∧ isKept c = true
  unescaped : ∀ high low, [37, high, low] <:+: Percent.bytes id →
    Percent.pairValue high low = none

/-- Nothing to be dropped at the end. -/
def EndsVisibly (id : String) : Prop :=
  ∀ z, id.toList.getLast? = some z → 0x20 < z.toNat

/-- A URL reaches at most one id. -/
theorem Reaches.unique {agent url : Url} {lead : List String} {id id' : String}
    {query query' : Option String} (h : Reaches agent lead id query url)
    (h' : Reaches agent lead id' query' url) : id = id' := by
  obtain ⟨names, last, hnames, hpath, hid⟩ := h.path
  obtain ⟨names', last', hnames', hpath', hid'⟩ := h'.path
  obtain rfl := Path.segments.inj (hnames.symm.trans hnames')
  have hlast := List.append_cancel_left (Path.segments.inj (hpath.symm.trans hpath'))
  obtain rfl := (List.cons.inj hlast).1
  exact Option.some.inj (hid.symm.trans hid')

section
variable {lead : List String} {tail cs : List Char} {query : Option String} {id : String}

/-- A segment that is read as it is written. -/
structure Steady (name : String) : Prop where
  kept : ∀ c ∈ name.toList, isSlash .special c = false ∧ isTailStart c = false ∧ isKept c = true
  stepped : ∀ taken, stepped taken name.toList = name :: taken

/-- Segments with a slash behind each. -/
def leading (lead : List String) : List Char :=
  lead.flatMap (·.toList ++ ['/'])

/-- What may follow an id in an address. -/
inductive Ending : List Char → Option String → Prop where
  | bare : Ending [] none
  | passing : Ending "?passing".toList (some "passing")

theorem tidyEnd_leading (h : ∀ name ∈ lead, Steady name) (cs : List Char) :
    tidyEnd (leading lead ++ cs) = leading lead ++ tidyEnd cs := by
  induction lead with
  | nil => rfl
  | cons name lead ih =>
    obtain ⟨hname, hlead⟩ := List.forall_mem_cons.mp h
    have hkept : name.toList.filter isKept = name.toList :=
      List.filter_eq_self.mpr fun c hc => (hname.kept c hc).2.2
    have happ : leading (name :: lead) ++ cs = name.toList ++ '/' :: (leading lead ++ cs) := by
      simp [leading]
    rw [happ, tidyEnd, dropEndWhile_append rfl, List.filter_append, List.filter_cons_of_pos rfl,
      hkept]
    have hrest := ih hlead
    rw [tidyEnd] at hrest
    rw [hrest]
    simp [leading]

theorem takeWhile_leading (h : ∀ name ∈ lead, Steady name) :
    ∀ c ∈ leading lead, (!isTailStart c) = true := by
  intro c hc
  obtain ⟨name, hname, hc⟩ := List.mem_flatMap.mp hc
  rcases List.mem_append.mp hc with hc | hc
  · rw [((h name hname).kept c hc).2.1]
    rfl
  · obtain rfl := List.mem_singleton.mp hc
    rfl

theorem walk_leading (h : ∀ name ∈ lead, Steady name) (taken : List String) (cs : List Char) :
    walk .special taken (pathPieces .special (leading lead ++ cs)) =
      walk .special (lead.reverse ++ taken) (pathPieces .special cs) := by
  induction lead generalizing taken with
  | nil => rfl
  | cons name lead ih =>
    obtain ⟨hname, hlead⟩ := List.forall_mem_cons.mp h
    have happ : leading (name :: lead) ++ cs = name.toList ++ '/' :: (leading lead ++ cs) := by
      simp [leading]
    rw [happ, pathPieces_append rfl, pathPieces_of_free fun c hc => (hname.kept c hc).1,
      walk_append _ _ (pathPieces_ne_nil _ _)]
    simp only [List.foldl_cons, List.foldl_nil, hname.stepped]
    rw [ih hlead]
    simp

theorem tidyEnd_eq_self_iff : tidyEnd cs = cs ↔
    (∀ c ∈ cs, isKept c = true) ∧ ∀ z, cs.getLast? = some z → 0x20 < z.toNat := by
  constructor
  · intro h
    have hdrop : dropEndWhile isLow cs = cs := by
      apply (dropEndWhile_sublist isLow cs).eq_of_length_le
      conv => lhs; rw [← h]
      exact List.length_filter_le _ _
    rw [tidyEnd, hdrop] at h
    refine ⟨List.filter_eq_self.mp h, fun z hz => ?_⟩
    exact Nat.lt_of_not_le (of_decide_eq_false (dropEndWhile_eq_self_iff.mp hdrop z hz))
  · rintro ⟨hkept, hlast⟩
    have hdrop : dropEndWhile isLow cs = cs :=
      dropEndWhile_eq_self_iff.mpr fun z hz => decide_eq_false (Nat.not_le.mpr (hlast z hz))
    rw [tidyEnd, hdrop, List.filter_eq_self.mpr hkept]

/-- What is left of an id at the end of an address. -/
theorem exists_kept (hend : Ending tail query) (id : String) : ∃ kept : List Char,
    kept.Sublist id.toList ∧ tidyEnd (id.toList ++ tail) = kept ++ tail ∧
      (kept = id.toList ↔
        (∀ c ∈ id.toList, isKept c = true) ∧ (tail = [] → EndsVisibly id)) := by
  cases hend with
  | bare =>
    refine ⟨tidyEnd id.toList, ?_, by simp, ?_⟩
    · exact List.filter_sublist.trans (dropEndWhile_sublist isLow id.toList)
    · rw [tidyEnd_eq_self_iff]
      simp [EndsVisibly]
  | passing =>
    refine ⟨id.toList.filter isKept, List.filter_sublist, ?_, ?_⟩
    · have htail : "?passing".toList = '?' :: "passing".toList := rfl
      have hdrop : dropEndWhile isLow "passing".toList = "passing".toList := by decide
      have hfilter : "passing".toList.filter isKept = "passing".toList := by decide
      rw [htail, tidyEnd, dropEndWhile_append rfl, hdrop, List.filter_append,
        List.filter_cons_of_pos rfl, hfilter]
    · rw [List.filter_eq_self]
      simp

/-- What stands in the path, and what follows it. -/
theorem cut_at_tail (hend : Ending tail query) (kept : List Char) :
    (kept ++ tail).takeWhile (!isTailStart ·) = kept.takeWhile (!isTailStart ·) ∧
      ((∀ c ∈ kept, isTailStart c = false) →
        (kept ++ tail).dropWhile (!isTailStart ·) = tail) := by
  have hstop : tail.takeWhile (!isTailStart ·) = [] ∧ tail.dropWhile (!isTailStart ·) = tail := by
    cases hend <;> exact ⟨rfl, rfl⟩
  constructor
  · rw [List.takeWhile_append]
    split
    · next hall =>
      rw [hstop.1, List.append_nil, (List.takeWhile_sublist _).eq_of_length hall]
    · rfl
  · intro hkept
    rw [List.dropWhile_append_of_pos, hstop.2]
    intro c hc
    rw [hkept c hc]
    rfl

theorem readTail_ending (hend : Ending tail query) : readTail .special tail = (query, none) := by
  cases hend <;> rfl

end

section
variable {base id : String} {agent : Url} {a : Authority} {path gap tail kept : List Char}
  {lead : List String} {query : Option String}

theorem readPath_lead (hext : Extends base agent a path gap) (hgap : path = [] → gap = [])
    (hlead : ∀ name ∈ lead, Steady name) (more : List Char) :
    readPath .special (path ++ gap ++ '/' :: (leading lead ++ more)) =
      ((walk .special (lead.reverse ++ taken (path ++ gap))
          (pathPieces .special (more.takeWhile (!isTailStart ·)))).reverse,
        more.dropWhile (!isTailStart ·)) := by
  have hpath : IsPath (path ++ gap) := by
    refine ⟨fun c hc => ?_, fun c hc => ?_⟩
    · cases path with
      | nil =>
        rw [hgap rfl] at hc
        cases hc
      | cons d path => exact hext.isPath.slash c hc
    · rcases List.mem_append.mp hc with hc | hc
      · exact hext.isPath.inner c hc
      · exact (endsAuthority_eq_false_iff.mp (endsAuthority_of_low (hext.low c hc))).2
  rw [readPath_append hpath, List.takeWhile_append_of_pos (takeWhile_leading hlead),
    List.dropWhile_append_of_pos (takeWhile_leading hlead), walk_leading hlead]

/-- The last segment of a path is empty or what is written of the last piece. -/
theorem last_of_walk {taken : List String} {p : List Char} {last : String} {rest : List String}
    (h : walk .special taken [p] = last :: rest) (hne : last ≠ "") :
    last = encoded keptInPath p ∧ rest = taken := by
  rw [walk_singleton] at h
  split at h
  · exact absurd (List.cons.inj h).1.symm hne
  · next hdots =>
    rw [stepped_of_not_dots fun hd => hdots (Bool.or_eq_true_iff.mpr hd)] at h
    obtain ⟨rfl, rfl⟩ := List.cons.inj h
    exact ⟨rfl, rfl⟩

/-- A segment that is decoded to an id is written for the whole id. -/
theorem plain_of_decoded {ps : List (List Char)} {p : List Char} (hsub : kept.Sublist id.toList)
    (hpieces : pathPieces .special (kept.takeWhile (!isTailStart ·)) = ps ++ [p])
    (hid : Percent.ofBytes? (Percent.unescape (Percent.bytes (encoded keptInPath p))) = some id) :
    ps = [] ∧ p = id.toList ∧ kept = id.toList ∧
      (∀ c ∈ id.toList, isSlash .special c = false ∧ isTailStart c = false) ∧
      ∀ high low, [37, high, low] <:+: Percent.bytes id → Percent.pairValue high low = none := by
  have hbytes := Percent.bytes_of_ofBytes? hid
  rw [Escapes.unescape_encoded] at hbytes
  have hmem : p ∈ pathPieces .special (kept.takeWhile (!isTailStart ·)) := by simp [hpieces]
  obtain ⟨hpiece, hfree⟩ := of_mem_pathPieces hmem
  have hpath := List.takeWhile_sublist (l := kept) (!isTailStart ·)
  -- Decoding never makes a text longer, so nothing of the id can have been lost on the way.
  obtain ⟨rfl, hself⟩ := Escapes.eq_of_unescape ((hpiece.trans hpath).trans hsub) hbytes.symm
  have hkept : kept = id.toList := hsub.eq_of_length_le (hpiece.trans hpath).length_le
  have htake : kept.takeWhile (!isTailStart ·) = kept :=
    hpath.eq_of_length_le (hsub.trans hpiece).length_le
  rw [htake, hkept, pathPieces_of_free hfree] at hpieces
  refine ⟨List.self_eq_append_left.mp hpieces, rfl, hkept, fun c hc => ⟨hfree c hc, ?_⟩,
    Escapes.unescape_eq_self_iff.mp hself⟩
  rw [← hkept] at hc
  simpa using List.takeWhile_eq_self_iff.mp htake c hc

theorem path_of_extends (h : Extends base agent a path gap) :
    agent.path = .segments (names path) := by
  rw [h.own, located, readPath_names h.isPath]

theorem plain_of_reaches (hext : Extends base agent a path gap) (hgap : path = [] → gap = [])
    (hlead : ∀ name ∈ lead, Steady name) (hend : Ending tail query) (hid : id ≠ "")
    (h : Reaches agent lead id query (withoutCredentials (located agent.scheme a
      (path ++ gap ++ '/' :: tidyEnd (leading lead ++ (id.toList ++ tail)))))) :
    Joins base ∧ Plain id ∧ (tail = [] → EndsVisibly id) := by
  obtain ⟨kept, hsub, htidy, hkept⟩ := exists_kept hend id
  obtain ⟨names', last, hnames, hpath, hlast⟩ := h.path
  obtain rfl := Path.segments.inj ((path_of_extends hext).symm.trans hnames)
  obtain hnil | ⟨ps, p, hpieces⟩ := List.eq_nil_or_concat'
    (pathPieces .special (kept.takeWhile (!isTailStart ·)))
  · exact absurd hnil (pathPieces_ne_nil _ _)
  simp only [withoutCredentials, located, tidyEnd_leading hlead, htidy,
    readPath_lead hext hgap hlead, (cut_at_tail hend kept).1, hpieces,
    walk_append _ _ (List.cons_ne_nil p []), Path.segments.injEq, List.reverse_eq_iff,
    List.reverse_concat] at hpath
  have hne : last ≠ "" := by
    rintro rfl
    exact hid (Option.some.inj hlast).symm
  obtain ⟨rfl, htaken⟩ := last_of_walk hpath hne
  obtain ⟨rfl, -, hself, hchars, hunescaped⟩ := plain_of_decoded hsub hpieces hlast
  rw [List.foldl_nil, List.reverse_append, List.append_cancel_left_eq] at htaken
  have hjoins := (taken_eq_unclosed_iff hext.isPath hext.low hgap).mp
    (List.reverse_eq_iff.mpr htaken.symm)
  obtain ⟨hall, hvisible⟩ := hkept.mp hself
  exact ⟨hext.joins.mpr hjoins,
    ⟨fun c hc => ⟨(hchars c hc).1, (hchars c hc).2, hall c hc⟩, hunescaped⟩, hvisible⟩

theorem not_dots_of_plain (h : Plain id) (hid : id ∉ ["", ".", ".."]) : ¬IsDots id.toList := by
  intro hdots
  have hself := Escapes.unescape_eq_self_iff.mpr h.unescaped
  rw [← String.ofList_toList (s := id)] at hself hid
  rcases eq_of_dots hdots hself with he | he
  · exact hid (by rw [he]; decide)
  · exact hid (by rw [he]; decide)

theorem reaches_of_plain (hext : Extends base agent a path gap) (hjoins : Joins base)
    (hlead : ∀ name ∈ lead, Steady name) (hend : Ending tail query) (hid : id ∉ ["", ".", ".."])
    (hplain : Plain id) (hvisible : tail = [] → EndsVisibly id) :
    (path = [] → gap = []) ∧ Reaches agent lead id query (withoutCredentials
      (located agent.scheme a
        (path ++ gap ++ '/' :: tidyEnd (leading lead ++ (id.toList ++ tail))))) := by
  obtain ⟨kept, -, htidy, hkept⟩ := exists_kept hend id
  obtain rfl := hkept.mpr ⟨fun c hc => (hplain.kept c hc).2.2, hvisible⟩
  obtain ⟨hcut, htail⟩ := cut_at_tail hend id.toList
  obtain ⟨hnil, hslash⟩ := hext.joins.mp hjoins
  have hgap : path = [] → gap = [] := fun _ => hnil
  have hself := Escapes.unescape_eq_self_iff.mpr hplain.unescaped
  have hinner : ∀ c ∈ id.toList, isTailStart c = false := fun c hc => (hplain.kept c hc).2.1
  have htake : id.toList.takeWhile (!isTailStart ·) = id.toList :=
    List.takeWhile_eq_self_iff.mpr fun c hc => by rw [hinner c hc]; rfl
  have hdots := not_dots_of_plain hplain hid
  have hread : readPath .special
      (path ++ gap ++ '/' :: tidyEnd (leading lead ++ (id.toList ++ tail))) =
        (unclosed (names path) ++ lead ++ [encoded keptInPath id.toList], tail) := by
    rw [tidyEnd_leading hlead, htidy, readPath_lead hext hgap hlead, hcut, htail hinner, htake,
      pathPieces_of_free fun c hc => (hplain.kept c hc).1, walk_singleton,
      if_neg fun h => hdots (Bool.or_eq_true_iff.mp h), stepped_of_not_dots hdots,
      List.reverse_cons, List.reverse_append, List.reverse_reverse,
      (taken_eq_unclosed_iff hext.isPath hext.low hgap).mpr ⟨hnil, hslash⟩]
  refine ⟨hgap, rfl, ?_, ⟨names path, encoded keptInPath id.toList, path_of_extends hext, ?_, ?_⟩,
    ?_, ?_⟩
  · rw [hext.own]
    rfl
  · simp only [withoutCredentials, located, hread]
  · rw [Escapes.unescape_encoded, String.ofList_toList, hself, Percent.ofBytes?_bytes]
  · simp only [withoutCredentials, located, hread, readTail_ending hend]
  · simp only [withoutCredentials, located, hread, readTail_ending hend]

/-- An id behind a base is reached just if the base goes on and the id means itself. -/
theorem reaches_extended_iff (hext : Extends base agent a path gap)
    (hlead : ∀ name ∈ lead, Steady name) (hend : Ending tail query)
    (hid : id ∉ ["", ".", ".."]) :
    (∃ url, Url.parse (base ++ String.ofList ('/' :: (leading lead ++ (id.toList ++ tail)))) =
        .ok url ∧ Reaches agent lead id query (withoutCredentials url)) ↔
      Joins base ∧ Plain id ∧ (tail = [] → EndsVisibly id) := by
  simp only [hext.extended]
  constructor
  · rintro ⟨url, ⟨hgap, rfl⟩, hreaches⟩
    have hne : id ≠ "" := fun he => hid (he ▸ List.mem_cons_self)
    exact plain_of_reaches hext hgap hlead hend hne hreaches
  · rintro ⟨hjoins, hplain, hvisible⟩
    obtain ⟨hgap, hreaches⟩ := reaches_of_plain hext hjoins hlead hend hid hplain hvisible
    exact ⟨_, ⟨hgap, rfl⟩, hreaches⟩

end

section
variable {σ : Type} (wire : Wire σ) {c : Consul} {agent : Url} {lead : List String} {id : String}
  {tail : List Char} {query : Option String} {method : Method} {address : String}
  {body : Option Tree}

theorem callOf_ok_iff {call : Call} : callOf method address body = .ok call ↔
    ∃ url, Url.parse address = .ok url ∧ (withoutCredentials url).host.isSome = true ∧ IsWeb url ∧
      call = ⟨method, withoutCredentials url, body⟩ := by
  unfold callOf IsWeb
  cases Url.parse address with
  | error e => simp
  | ok url =>
    simp only [Except.ok.injEq, exists_eq_left']
    split
    · next hok =>
      rw [Bool.and_eq_true, Bool.or_eq_true, decide_eq_true_eq, decide_eq_true_eq] at hok
      exact ⟨fun h => ⟨hok.1, hok.2, (Except.ok.inj h).symm⟩, fun h => congrArg _ h.2.2.symm⟩
    · next hno =>
      refine iff_of_false (fun h => by cases h) fun h => hno ?_
      rw [Bool.and_eq_true, Bool.or_eq_true, decide_eq_true_eq, decide_eq_true_eq]
      exact ⟨h.1, h.2.1⟩

theorem requests_exchanged_iff {s : σ} :
    Requests agent lead id query (Fetching.exchanged wire method address body s) ↔
      ∃ url, Url.parse address = .ok url ∧ (withoutCredentials url).host.isSome = true ∧ IsWeb url ∧
        Reaches agent lead id query (withoutCredentials url) := by
  unfold Requests Fetching.exchanged
  constructor
  · rintro ⟨e, he, hreaches⟩
    cases hcall : callOf method address body with
    | error cause =>
      rw [hcall] at he
      cases he
    | ok call =>
      rw [hcall] at he
      obtain rfl := (List.cons.inj he).1
      obtain ⟨url, hparse, hhost, hweb, rfl⟩ := callOf_ok_iff.mp hcall
      exact ⟨url, hparse, hhost, hweb, hreaches⟩
  · rintro ⟨url, hparse, hhost, hweb, hreaches⟩
    rw [callOf_ok_iff.mpr ⟨url, hparse, hhost, hweb, rfl⟩]
    exact ⟨_, rfl, hreaches⟩

theorem requests_iff (hbase : Url.parse c.base = .ok agent) (hquery : agent.query = none)
    (hfragment : agent.fragment = none) (hlead : ∀ name ∈ lead, Steady name)
    (hend : Ending tail query) (hid : id ∉ ["", ".", ".."]) (s : σ) :
    Requests agent lead id query (Fetching.exchanged wire method
        (c.base ++ String.ofList ('/' :: (leading lead ++ (id.toList ++ tail)))) none s) ↔
      IsWeb agent ∧ Joins c.base ∧ Plain id ∧ (tail = [] → EndsVisibly id) := by
  rw [requests_exchanged_iff]
  constructor
  · rintro ⟨url, hparse, -, hweb, hreaches⟩
    have hagent : IsWeb agent := by
      unfold IsWeb
      rw [← hreaches.scheme]
      exact hweb
    obtain ⟨a, path, gap, hext⟩ := parse_extends hbase hagent hquery hfragment
    exact ⟨hagent, (reaches_extended_iff hext hlead hend hid).mp ⟨url, hparse, hreaches⟩⟩
  · rintro ⟨hagent, hall⟩
    obtain ⟨a, path, gap, hext⟩ := parse_extends hbase hagent hquery hfragment
    obtain ⟨url, hparse, hreaches⟩ := (reaches_extended_iff hext hlead hend hid).mpr hall
    obtain ⟨-, rfl⟩ := (hext.extended _ _).mp hparse
    exact ⟨_, hparse, hext.host, hagent, hreaches⟩

/-- The fixed segments of a request that an instance be forgotten. -/
def deregisterLead : List String := ["v1", "agent", "service", "deregister"]

/-- The fixed segments of a request for the instances of a service. -/
def healthLead : List String := ["v1", "health", "service"]

theorem steady_of_all {name : String}
    (hkept : (name.toList.all fun c => !isSlash .special c && !isTailStart c && isKept c) = true)
    (hstepped : ∀ taken, stepped taken name.toList = name :: taken) : Steady name := by
  refine ⟨fun c hc => ?_, hstepped⟩
  simpa only [Bool.and_eq_true, Bool.not_eq_true', and_assoc] using List.all_eq_true.mp hkept c hc

theorem steady_deregisterLead : ∀ name ∈ deregisterLead, Steady name := by
  simp only [deregisterLead, List.forall_mem_cons, List.not_mem_nil, false_imp_iff, implies_true,
    and_true]
  exact ⟨steady_of_all (by decide) fun _ => rfl, steady_of_all (by decide) fun _ => rfl,
    steady_of_all (by decide) fun _ => rfl, steady_of_all (by decide) fun _ => rfl⟩

theorem steady_healthLead : ∀ name ∈ healthLead, Steady name := by
  simp only [healthLead, List.forall_mem_cons, List.not_mem_nil, false_imp_iff, implies_true,
    and_true]
  exact ⟨steady_of_all (by decide) fun _ => rfl, steady_of_all (by decide) fun _ => rfl,
    steady_of_all (by decide) fun _ => rfl⟩

/-- An address with an id in it, taken apart. -/
theorem address_eq (fixed : String) (hfixed : fixed.toList = '/' :: leading lead)
    (base id : String) (tail : List Char) : base ++ fixed ++ id ++ String.ofList tail =
      base ++ String.ofList ('/' :: (leading lead ++ (id.toList ++ tail))) := by
  apply String.toList_inj.mp
  simp [hfixed]

theorem deregisterUrl_eq (c : Consul) (id : String) : c.deregisterUrl id =
    c.base ++ String.ofList ('/' :: (leading deregisterLead ++ (id.toList ++ []))) := by
  rw [← address_eq "/v1/agent/service/deregister/" (by decide)]
  exact (String.append_empty).symm

theorem healthUrl_eq (c : Consul) (service : String) : c.healthUrl service =
    c.base ++ String.ofList ('/' :: (leading healthLead ++
      (service.toList ++ if c.passingOnly then "?passing".toList else []))) := by
  rw [← address_eq "/v1/health/service/" (by decide), Consul.healthUrl]
  split <;> rfl

end

/-- A request to an agent reaches the id that it is about, and no other, just if the text of the
base goes on and the id means itself. -/
theorem request_reaches_iff {σ : Type} (wire : Wire σ) (c : Consul) {agent : Url}
    (hbase : Url.parse c.base = .ok agent) (hquery : agent.query = none)
    (hfragment : agent.fragment = none) (s : σ) :
    (∀ id ∉ ["", ".", ".."],
      (Requests agent deregisterLead id none (c.deregister (noting wire) id (s, [])).2.2 ↔
        IsWeb agent ∧ Joins c.base ∧ Plain id ∧ EndsVisibly id)) ∧
    (∀ service, hyphenate service ∉ ["", ".", ".."] →
      (Requests agent healthLead (hyphenate service)
          (if c.passingOnly then some "passing" else none)
          (c.instancesOf (noting wire) service (s, [])).2.2 ↔
        IsWeb agent ∧ Joins c.base ∧ Plain (hyphenate service) ∧
          (c.passingOnly = true ∨ EndsVisibly (hyphenate service)))) ∧
    ∀ lead query url id id', Reaches agent lead id query url → Reaches agent lead id' query url →
      id = id' := by
  refine ⟨fun id hid => ?_, fun service hid => ?_, fun _ _ _ _ _ h h' => h.unique h'⟩
  · have hsent : (c.deregister (noting wire) id (s, [])).2.2 =
        Fetching.exchanged wire .put (c.deregisterUrl id) none s := by
      unfold Consul.deregister
      rw [Fetching.send_noting]
    rw [hsent, deregisterUrl_eq,
      requests_iff wire hbase hquery hfragment steady_deregisterLead .bare hid]
    simp only [true_imp_iff]
  · have hsent : (c.instancesOf (noting wire) service (s, [])).2.2 =
        Fetching.exchanged wire .get (c.healthUrl (hyphenate service)) none s := by
      unfold Consul.instancesOf
      rw [Fetching.send_noting]
    rw [hsent, healthUrl_eq]
    cases c.passingOnly with
    | false =>
      rw [if_neg Bool.false_ne_true, if_neg Bool.false_ne_true,
        requests_iff wire hbase hquery hfragment steady_healthLead .bare hid]
      simp
    | true =>
      rw [if_pos rfl, if_pos rfl,
        requests_iff wire hbase hquery hfragment steady_healthLead .passing hid]
      simp

/-- An agent on the local machine. -/
def localConsul : Consul :=
  ⟨"http://localhost:8500", "http", false⟩

/-- A URL on the local machine. -/
def localUrl (names : List String) (fragment : Option String) : Url :=
  ⟨"http", some ⟨"", "", some (.domain "localhost"), some 8500⟩, .segments names, none, fragment⟩

/-- Nothing answers. -/
def silent : Wire Unit := fun _ s => (.dropped, s)

/-- What is sent so that an instance be forgotten. -/
def sentFor (id : String) : List Exchange :=
  (localConsul.deregister (noting silent) id ((), [])).2.2

theorem discount_reached :
    Url.parse localConsul.base = .ok (localUrl [""] none) ∧
    "50% off é" ∉ ["", ".", ".."] ∧
    Requests (localUrl [""] none) deregisterLead "50% off é" none (sentFor "50% off é") := by
  have hparse : Url.parse localConsul.base = .ok (localUrl [""] none) := by decide +kernel
  have hid : "50% off é" ∉ ["", ".", ".."] := by decide
  have hplain : Plain "50% off é" :=
    ⟨List.all_iff_forall_prop.mp (by decide), Escapes.unescape_eq_self_iff.mp (by decide +kernel)⟩
  have hvisible : EndsVisibly "50% off é" := by
    intro z hz
    obtain rfl := Option.some.inj hz
    decide
  exact ⟨hparse, hid, ((request_reaches_iff silent localConsul hparse rfl rfl ()).1 _ hid).mpr
    ⟨.inl rfl, ⟨'0', rfl, by decide, rfl⟩, hplain, hvisible⟩⟩

/-- An id with a slash in it makes two segments, and one with a hash loses what follows it, so that
the request forgets another instance. -/
theorem marked_lost :
    (sentFor "billing/1").map (·.call.url) =
      [localUrl (deregisterLead ++ ["billing", "1"]) none] ∧
    (sentFor "billing#1").map (·.call.url) =
      [localUrl (deregisterLead ++ ["billing"]) (some "1")] ∧
    (sentFor "billing").map (·.call.url) = [localUrl (deregisterLead ++ ["billing"]) none] ∧
    ¬Requests (localUrl [""] none) deregisterLead "billing/1" none (sentFor "billing/1") ∧
    ¬Requests (localUrl [""] none) deregisterLead "billing#1" none (sentFor "billing#1") := by
  have hslash : (sentFor "billing/1").map (·.call.url) =
      [localUrl (deregisterLead ++ ["billing", "1"]) none] := by decide +kernel
  have hhash : (sentFor "billing#1").map (·.call.url) =
      [localUrl (deregisterLead ++ ["billing"]) (some "1")] := by decide +kernel
  refine ⟨hslash, hhash, by decide +kernel, ?_, ?_⟩
  · rintro ⟨e, he, hreaches⟩
    rw [he] at hslash
    obtain ⟨names, last, hnames, hpath, -⟩ := hreaches.path
    obtain rfl := Path.segments.inj hnames
    have hurl : e.call.url = localUrl (deregisterLead ++ ["billing", "1"]) none :=
      (List.cons.inj hslash).1
    rw [hurl] at hpath
    cases hpath
  · rintro ⟨e, he, hreaches⟩
    rw [he] at hhash
    have hurl : e.call.url = localUrl (deregisterLead ++ ["billing"]) (some "1") :=
      (List.cons.inj hhash).1
    have hfragment := hreaches.fragment
    rw [hurl] at hfragment
    cases hfragment

end Switchboard.Proofs.Targets
