import Switchboard.Proofs.Bounds
import Switchboard.Proofs.Chains
import Switchboard.Proofs.Forms
import Switchboard.Route.Entry

namespace Switchboard.Proofs.NamedVersions
open Text Version Versions Pairs Forms Bounds

/-- The texts of versions that stand in the text of a constraint. -/
inductive Names (s : String) : Constraint → String → Prop where
  | whole (t : String) : Names s (.exact t) s
  | alternative (ts : List String) (part : String) (h : part ∈ split '|' s) :
      Names s (.oneOf ts) part
  | least (v : Version) (front t : String) (hfront : isBlankText front = true)
      (hs : s = front ++ ">=" ++ t) : Names s (.minimum v) t
  | greatest (v : Version) (front t : String) (hfront : isBlankText front = true)
      (hs : s = front ++ "<=" ++ t) : Names s (.maximum v) t
  | lower (a b : Version) (l r : String) (hs : s = l ++ ".." ++ r) : Names s (.range a b) l
  | upper (a b : Version) (l r : String) (hs : s = l ++ ".." ++ r) : Names s (.range a b) r

theorem exists_trim (s : String) : ∃ front back, isBlankText front = true ∧
    isBlankText back = true ∧ s = front ++ trim s ++ back := by
  obtain ⟨front, back, hfront, hback, _, haround⟩ := exists_around s.toList
  refine ⟨String.ofList front, String.ofList back, ?_, ?_, ?_⟩
  · rwa [isBlankText_iff, String.toList_ofList]
  · rwa [isBlankText_iff, String.toList_ofList]
  · rw [← String.toList_inj]
    simpa using haround

section
variable {front back : String} (hfront : isBlankText front = true)
  (hback : isBlankText back = true)

include hfront in
theorem token_after_blanks (t : String) : token (front ++ t) = token t := by
  apply token_congr
  rw [String.toList_append, trimChars_blank_append ((isBlankText_iff front).mp hfront)]

include hback in
theorem token_before_blanks (t : String) : token (t ++ back) = token t := by
  apply token_congr
  rw [String.toList_append, trimChars_append_blank ((isBlankText_iff back).mp hback)]

end

theorem tokens_trim (s : String) :
    (split '|' (trim s)).map token = (split '|' s).map token := by
  have htrim : ∀ parts : List String, (parts.map trim).map token = parts.map token := by
    intro parts
    simp [token_trim]
  rw [← htrim, map_trim_split (by decide), htrim]

/-- After blanks alone an operator is followed by one text only. -/
theorem after_operator {lead front front' t t' : String} {op : Char} {ops : List Char}
    (hlead : lead.toList = op :: ops) (hop : isBlank op = false)
    (hfront : isBlankText front = true) (hfront' : isBlankText front' = true)
    (h : front ++ lead ++ t = front' ++ lead ++ t') : t = t' := by
  have hdrop : ∀ f u : String, isBlankText f = true →
      (f ++ lead ++ u).toList.dropWhile isBlank = lead.toList ++ u.toList := by
    intro f u hf
    rw [String.toList_append, String.toList_append, List.append_assoc,
      List.dropWhile_append_of_pos ((isBlankText_iff f).mp hf), hlead, List.cons_append,
      List.dropWhile_cons, hop, if_neg (by decide)]
  have hboth := hdrop front t hfront
  rw [h, hdrop front' t' hfront'] at hboth
  exact (String.toList_inj.mp (List.append_cancel_left hboth)).symm

/-- Between versions a pair of dots stands at one place only. -/
theorem around_dots {l r l' r' : String} {a b : Version} (hl : Version.parse? l = some a)
    (hr : Version.parse? r = some b) (h : l ++ ".." ++ r = l' ++ ".." ++ r') :
    l' = l ∧ r' = r := by
  rw [← String.toList_inj] at h
  obtain ⟨hleft, hright⟩ := pair_unique (firm_of_parse? hl) (firm_of_parse? hr)
    (by simpa [String.toList_append] using h)
  exact ⟨String.toList_inj.mp hleft, String.toList_inj.mp hright⟩

theorem parse?_congr {s t : String} (h : token s = token t) :
    Version.parse? s = Version.parse? t := by
  rw [parse?_eq, parse?_eq, h]

/-- A version within the bounds of a constraint is accepted. -/
theorem accepts_of_parse? {c : Constraint} {bounds : Set (Nat ×ₗ Nat)} {t : String} {v : Version}
    (hc : interval c = some bounds) (ht : Version.parse? t = some v) (hv : place v ∈ bounds) :
    c.accepts (some t) = true :=
  (accepts_iff_token hc t).mpr (LiesIn.token ⟨v, ht, hv⟩).2

/-- How the text of a constraint is made up, the blanks around it included. -/
inductive Made (s : String) : Constraint → Prop where
  | least (v : Version) (front t : String) (hfront : isBlankText front = true)
      (hs : s = front ++ ">=" ++ t) (ht : Version.parse? t = some v) : Made s (.minimum v)
  | greatest (v : Version) (front t : String) (hfront : isBlankText front = true)
      (hs : s = front ++ "<=" ++ t) (ht : Version.parse? t = some v) : Made s (.maximum v)
  | range (a b : Version) (l r : String) (hs : s = l ++ ".." ++ r)
      (hl : Version.parse? l = some a) (hr : Version.parse? r = some b)
      (hle : place a ≤ place b) : Made s (.range a b)
  | oneOf : Made s (.oneOf ((split '|' s).map token))
  | exact : Made s (.exact (token s))

theorem made_of_parse? {s : String} {c : Constraint} (h : Constraint.parse? s = some c) :
    Made s c := by
  obtain ⟨front, back, hfront, hback, haround⟩ := exists_trim s
  have hback' : ∀ t, Version.parse? (t ++ back) = Version.parse? t :=
    fun t => parse?_congr (token_before_blanks hback t)
  have hfront' : ∀ t, Version.parse? (front ++ t) = Version.parse? t :=
    fun t => parse?_congr (token_after_blanks hfront t)
  cases parse?_eq_some_iff.mp h with
  | minimum t v hs ht =>
    refine .least v front (t ++ back) hfront ?_ ((hback' t).trans ht)
    rw [hs] at haround
    simpa [String.append_assoc] using haround
  | maximum t v hs ht =>
    refine .greatest v front (t ++ back) hfront ?_ ((hback' t).trans ht)
    rw [hs] at haround
    simpa [String.append_assoc] using haround
  | range l r a b hs hl hr hle =>
    refine .range a b (front ++ l) (r ++ back) ?_ ((hfront' l).trans hl) ((hback' r).trans hr) hle
    rw [hs] at haround
    simpa [String.append_assoc] using haround
  | oneOf ts hbar hdots hparts ht =>
    rw [ht, tokens_trim]
    exact .oneOf
  | exact t hdots htoken ht =>
    rw [ht, token_trim]
    exact .exact

theorem Made.names {s : String} {c : Constraint} (h : Made s c) : ∃ t, Names s c t := by
  cases h with
  | least v front t hfront hs ht => exact ⟨t, .least v front t hfront hs⟩
  | greatest v front t hfront hs ht => exact ⟨t, .greatest v front t hfront hs⟩
  | range a b l r hs hl hr hle => exact ⟨l, .lower a b l r hs⟩
  | oneOf =>
    obtain ⟨p, ps, hp⟩ := List.exists_cons_of_ne_nil (List.splitOn_ne_nil '|' s.toList)
    have hmem : String.ofList p ∈ split '|' s := by
      rw [split, hp]
      exact List.mem_cons_self
    exact ⟨String.ofList p, .alternative _ _ hmem⟩
  | exact => exact ⟨s, .whole _⟩

theorem accepts_oneOf_iff (ts : List String) (s : String) :
    (Constraint.oneOf ts).accepts (some s) = true ↔ token s ∈ ts := by
  simp [Constraint.accepts]

theorem Made.accepts {s t : String} {c : Constraint} (h : Made s c) (hn : Names s c t) :
    c.accepts (some t) = true := by
  cases h with
  | least v front u hfront hs hu =>
    cases hn with
    | least _ front' _ hfront' hs' =>
      obtain rfl := after_operator rfl (by decide) hfront' hfront (hs'.symm.trans hs)
      exact accepts_of_parse? rfl hu (Set.mem_Ici.mpr le_rfl)
  | greatest v front u hfront hs hu =>
    cases hn with
    | greatest _ front' _ hfront' hs' =>
      obtain rfl := after_operator rfl (by decide) hfront' hfront (hs'.symm.trans hs)
      exact accepts_of_parse? rfl hu (Set.mem_Iic.mpr le_rfl)
  | range a b l r hs hl hr hle =>
    cases hn with
    | lower _ _ l' r' hs' =>
      obtain ⟨rfl, rfl⟩ := around_dots hl hr (hs.symm.trans hs')
      exact accepts_of_parse? rfl hl (Set.mem_Icc.mpr ⟨le_rfl, hle⟩)
    | upper _ _ l' r' hs' =>
      obtain ⟨rfl, rfl⟩ := around_dots hl hr (hs.symm.trans hs')
      exact accepts_of_parse? rfl hr (Set.mem_Icc.mpr ⟨hle, le_rfl⟩)
  | oneOf =>
    cases hn with
    | alternative _ _ hmem =>
      rw [accepts_oneOf_iff]
      exact List.mem_map_of_mem hmem
  | exact =>
    cases hn with
    | whole _ => simp [Constraint.accepts]

theorem version_of_build {d : Route.Definition} {e : Route.Entry} {c : Constraint}
    (h : d.build = .ok e) (hc : e.version = some c) :
    ∃ s, d.version = some s ∧ Constraint.parse? s = some c := by
  obtain ⟨version, hversion, h⟩ := Chains.bind_ok_iff.mp h
  obtain ⟨template, -, h⟩ := Chains.bind_ok_iff.mp h
  obtain ⟨produces, -, h⟩ := Chains.bind_ok_iff.mp h
  obtain ⟨consumes, -, h⟩ := Chains.bind_ok_iff.mp h
  obtain rfl := Except.ok.inj h
  obtain rfl : version = some c := hc
  unfold Route.readVersion at hversion
  split at hversion
  · cases hversion
  · next s hs =>
    split at hversion
    · next c' hc' => exact ⟨s, hs, hc'.trans (Except.ok.inj hversion)⟩
    · cases hversion

/-- Every version that a constraint names is accepted as it is written there, and every constraint
names one: none that can be registered is unsatisfiable. -/
theorem named_accepted :
    (∀ (s : String) (c : Constraint), Constraint.parse? s = some c →
      (∀ t, Names s c t → c.accepts (some t) = true) ∧ (∃ t, Names s c t) ∧
      ∀ a b, c = .range a b → place a ≤ place b) ∧
    ∀ (d : Route.Definition) (e : Route.Entry), d.build = .ok e → ∀ c, e.version = some c →
      ∃ s t, d.version = some s ∧ Names s c t ∧ c.accepts (some t) = true := by
  have hnamed : ∀ (s : String) (c : Constraint), Constraint.parse? s = some c →
      (∀ t, Names s c t → c.accepts (some t) = true) ∧ (∃ t, Names s c t) ∧
      ∀ a b, c = .range a b → place a ≤ place b := by
    intro s c h
    have hmade := made_of_parse? h
    refine ⟨fun t hn => hmade.accepts hn, hmade.names, ?_⟩
    rintro a b rfl
    cases hmade with
    | range _ _ _ _ _ _ _ hle => exact hle
  refine ⟨hnamed, ?_⟩
  intro d e hd c hc
  obtain ⟨s, hs, hparse⟩ := version_of_build hd hc
  obtain ⟨hall, ⟨t, ht⟩, -⟩ := hnamed s c hparse
  exact ⟨s, t, hs, ht, hall t ht⟩

/-- A route for two versions, the later of which is written with a mark. -/
def twoVersions : Route.Definition :=
  ⟨.get, "/users", [], [], some " +1 .. v2.0 ", "users"⟩

/-- Both bounds are accepted with the blanks, the plus and the mark that they are written with. -/
theorem bounds_accepted :
    Constraint.parse? " +1 .. v2.0 " = some (.range ⟨1, 0⟩ ⟨2, 0⟩) ∧
    Names " +1 .. v2.0 " (.range ⟨1, 0⟩ ⟨2, 0⟩) " +1 " ∧
    Names " +1 .. v2.0 " (.range ⟨1, 0⟩ ⟨2, 0⟩) " v2.0 " ∧
    (Constraint.range ⟨1, 0⟩ ⟨2, 0⟩).accepts (some " +1 ") = true ∧
    (Constraint.range ⟨1, 0⟩ ⟨2, 0⟩).accepts (some " v2.0 ") = true ∧
    twoVersions.build = .ok ⟨.get, ⟨"/users", [.literal "users"]⟩, [], [],
      some (.range ⟨1, 0⟩ ⟨2, 0⟩), "users"⟩ ∧
    ∃ s t, twoVersions.version = some s ∧ Names s (.range ⟨1, 0⟩ ⟨2, 0⟩) t ∧
      (Constraint.range ⟨1, 0⟩ ⟨2, 0⟩).accepts (some t) = true := by
  have hread : Constraint.parse? " +1 .. v2.0 " = some (.range ⟨1, 0⟩ ⟨2, 0⟩) := by decide
  have hlower : Names " +1 .. v2.0 " (.range ⟨1, 0⟩ ⟨2, 0⟩) " +1 " := .lower _ _ _ " v2.0 " rfl
  have hupper : Names " +1 .. v2.0 " (.range ⟨1, 0⟩ ⟨2, 0⟩) " v2.0 " := .upper _ _ " +1 " _ rfl
  have hbuild : twoVersions.build = .ok ⟨.get, ⟨"/users", [.literal "users"]⟩, [], [],
      some (.range ⟨1, 0⟩ ⟨2, 0⟩), "users"⟩ := by rfl
  obtain ⟨hall, -, -⟩ := named_accepted.1 _ _ hread
  exact ⟨hread, hlower, hupper, hall _ hlower, hall _ hupper, hbuild,
    named_accepted.2 twoVersions _ hbuild _ rfl⟩

end Switchboard.Proofs.NamedVersions
