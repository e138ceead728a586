import Mathlib.Data.List.Nodup
import Switchboard.Directory.Backend
import Switchboard.Proofs.Chains
import Switchboard.Proofs.Decimals
import Switchboard.Text.Cutting

namespace Switchboard.Proofs.Numbering
open Service Directory Chains Switchboard.Tree

/-- The address that a text writes. -/
def readAddress (uri : String) : Except Error Url :=
  (Url.parse uri).mapError (.badUri uri)

def idOf (service : String) (k : Nat) : String :=
  service ++ "-" ++ toString k

/-- The instances of a service at addresses in a row, numbered from `first` on. -/
def numbered (service : String) (first : Nat) (urls : List Url) : List Instance :=
  urls.mapIdx fun k url => .ofUrl (idOf service (first + k)) service url

/-- The addresses that entries list for a service, in their order. -/
def addressesOf (service : String) (entries : List (String × List String)) : List String :=
  (entries.filter (hyphenate ·.1 = service)).flatMap (·.2)

/-- All instances of a directory. -/
def held (f : Fixed) : List Instance :=
  f.services.flatMap (·.2)

/-- The last hyphen of an id is the one before the number, which has none. -/
theorem idOf_inj {service other : String} {m n : Nat} :
    idOf service m = idOf other n ↔ service = other ∧ m = n := by
  have hcut : ∀ (s : String) (k : Nat), Text.cutChars '-' (idOf s k).toList.reverse =
      some ((toString k).toList.reverse, s.toList.reverse) := by
    intro s k
    rw [Text.cutChars_eq_some_iff]
    refine ⟨by simp [idOf], fun hm => ?_⟩
    exact absurd (Decimals.isDigit_of_mem (List.mem_reverse.mp hm)) (by decide)
  constructor
  · intro h
    obtain ⟨hnumber, hname⟩ := Prod.mk.inj (Option.some.inj ((hcut service m).symm.trans
      (h ▸ hcut other n)))
    rw [List.reverse_inj] at hnumber
    rw [List.reverse_inj, String.toList_inj] at hname
    refine ⟨hname, Option.some.inj ?_⟩
    rw [← Decimals.natural?_toString m, hnumber, Decimals.natural?_toString]
  · rintro ⟨rfl, rfl⟩
    rfl

section
variable {service : String} {n : Nat} {urls : List Url}

theorem numbered_append (service : String) (n : Nat) (urls more : List Url) :
    numbered service n (urls ++ more) =
      numbered service n urls ++ numbered service (n + urls.length) more := by
  simp only [numbered, List.mapIdx_append, Nat.add_assoc, Nat.add_comm urls.length]

theorem length_numbered : (numbered service n urls).length = urls.length :=
  List.length_mapIdx

theorem uris_numbered : (numbered service n urls).map (·.uri) = urls := by
  apply List.ext_getElem
  · simp [numbered]
  · intro k _ _
    simp [numbered, Instance.ofUrl]

theorem ids_numbered :
    (numbered service n urls).map (·.id) = (List.range' n urls.length).map (idOf service) := by
  apply List.ext_getElem
  · simp [numbered]
  · intro k _ _
    simp [numbered, Instance.ofUrl]

theorem nodup_ids_numbered : ((numbered service n urls).map (·.id)).Nodup := by
  rw [ids_numbered]
  exact (List.nodup_range' 1 Nat.one_pos).map fun _ _ h => (idOf_inj.mp h).2

end

theorem ofText_eq (id service uri : String) :
    Instance.ofText id service uri = (readAddress uri).map (.ofUrl id service) := by
  unfold Instance.ofText readAddress
  cases Url.parse uri <;> rfl

theorem number_eq (service : String) (before : List Instance) (uris : List String) :
    Fixed.number service before uris =
      (uris.mapM readAddress).map fun urls => before ++ numbered service before.length urls := by
  induction uris generalizing before with
  | nil => simp [Fixed.number, numbered, Except.map, pure, Except.pure]
  | cons uri uris ih =>
    rw [Fixed.number, ofText_eq, List.mapM_cons]
    cases readAddress uri with
    | error e => rfl
    | ok url =>
      simp only [Except.map, bind, Except.bind, ih]
      cases uris.mapM readAddress with
      | error e => rfl
      | ok urls => simp [pure, Except.pure, numbered, idOf, Nat.add_assoc, Nat.add_comm 1]

/-- Adding an entry ends as reading its addresses does. -/
theorem add_eq (f : Fixed) (entry : String × List String) :
    f.add entry = (entry.2.mapM readAddress).map fun urls =>
      let before := (Fields.find? (hyphenate entry.1) f.services).getD []
      ⟨Fields.put (hyphenate entry.1)
        (before ++ numbered (hyphenate entry.1) before.length urls) f.services⟩ := by
  unfold Fixed.add
  simp only [number_eq]
  cases entry.2.mapM readAddress <;> rfl

/-- So does adding entries in a row. -/
theorem foldlM_add_outcome (f : Fixed) (entries : List (String × List String)) :
    (entries.foldlM Fixed.add f).map (fun _ => ()) =
      ((entries.flatMap (·.2)).mapM readAddress).map fun _ => () := by
  induction entries generalizing f with
  | nil => rfl
  | cons entry entries ih =>
    rw [List.foldlM_cons, List.flatMap_cons, List.mapM_append, add_eq]
    cases entry.2.mapM readAddress with
    | error e => rfl
    | ok urls =>
      refine (ih _).trans ?_
      simp only [bind, Except.bind]
      cases (entries.flatMap (·.2)).mapM readAddress <;> rfl

/-- What a directory holds of the entries added so far. -/
structure Holds (entries : List (String × List String)) (f : Fixed) : Prop where
  ascending : Fields.Ascending f.services
  named : ∀ service, service ∈ f.services.map (·.1) ↔ ∃ e ∈ entries, hyphenate e.1 = service
  found : ∀ service, ∃ urls, (addressesOf service entries).map Url.parse = urls.map .ok ∧
    (Fields.find? service f.services).getD [] = numbered service 0 urls
  whole : ∃ urls, (entries.flatMap (·.2)).map Url.parse = urls.map .ok ∧
    ((held f).map (·.uri)).Perm urls

theorem holds_empty : Holds [] .empty :=
  ⟨.nil, by simp [Fixed.empty], fun _ => ⟨[], rfl, rfl⟩, ⟨[], rfl, .nil⟩⟩

theorem parsed_of_read {uris : List String} {urls : List Url}
    (h : uris.mapM readAddress = .ok urls) : uris.map Url.parse = urls.map .ok := by
  induction uris generalizing urls with
  | nil =>
    cases h
    rfl
  | cons uri uris ih =>
    rw [List.mapM_cons] at h
    obtain ⟨url, hurl, h⟩ := bind_ok_iff.mp h
    obtain ⟨rest, hrest, h⟩ := bind_ok_iff.mp h
    cases h
    have hparse : Url.parse uri = .ok url := by
      unfold readAddress at hurl
      cases hp : Url.parse uri with
      | error cause =>
        rw [hp] at hurl
        cases hurl
      | ok other =>
        rw [hp] at hurl
        exact congrArg Except.ok (Except.ok.inj hurl)
    rw [List.map_cons, List.map_cons, hparse, ih hrest]

/-- More instances of one service are so many more in all. -/
theorem flatMap_put_perm {services : List (String × List Instance)} (h : Fields.Ascending services)
    (service : String) (more : List Instance) :
    ((Fields.put service ((Fields.find? service services).getD [] ++ more) services).flatMap
      (·.2)).Perm (services.flatMap (·.2) ++ more) := by
  induction services with
  | nil => simp [Fields.put, Fields.find?]
  | cons entry rest ih =>
    obtain ⟨name, is⟩ := entry
    obtain ⟨hlt, hrest⟩ := List.pairwise_cons.mp h
    by_cases heq : service = name
    · subst heq
      simp only [Fields.put, Fields.find?, if_true, Option.getD_some, List.flatMap_cons,
        List.append_assoc]
      exact List.perm_append_comm.append_left is
    · by_cases hlow : service < name
      · -- the names behind are higher still, so there was no instance yet
        have hnone : Fields.find? service ((name, is) :: rest) = none := by
          rw [← Option.not_isSome_iff_eq_none, Fields.find?_isSome_iff, List.map_cons,
            List.mem_cons, not_or]
          refine ⟨heq, fun hm => ?_⟩
          obtain ⟨e, he, rfl⟩ := List.mem_map.mp hm
          exact String.lt_asymm hlow (hlt e he)
        rw [hnone, Fields.put, if_neg heq, if_pos hlow]
        exact List.perm_append_comm
      · simp only [Fields.put, Fields.find?, if_neg heq, if_neg hlow, List.flatMap_cons,
          List.append_assoc]
        exact (ih hrest).append_left is

section
variable {entries : List (String × List String)} {entry : String × List String}

theorem addressesOf_append_self (entries : List (String × List String))
    (entry : String × List String) : addressesOf (hyphenate entry.1) (entries ++ [entry]) =
      addressesOf (hyphenate entry.1) entries ++ entry.2 := by
  simp [addressesOf]

theorem addressesOf_append_other {service : String} (h : service ≠ hyphenate entry.1) :
    addressesOf service (entries ++ [entry]) = addressesOf service entries := by
  simp [addressesOf, Ne.symm h]

theorem Holds.add {f g : Fixed} (h : Holds entries f) (hadd : f.add entry = .ok g) :
    Holds (entries ++ [entry]) g := by
  rw [add_eq] at hadd
  cases hread : entry.2.mapM readAddress with
  | error e =>
    rw [hread] at hadd
    cases hadd
  | ok urls =>
    rw [hread] at hadd
    cases hadd
    have hurls := parsed_of_read hread
    refine ⟨h.ascending.put _ _, ?_, ?_, ?_⟩
    · intro service
      rw [Fields.mem_names_put, h.named]
      simp [or_comm, eq_comm (a := service)]
    · intro service
      by_cases hs : service = hyphenate entry.1
      · subst hs
        obtain ⟨before, hbefore, hfound⟩ := h.found (hyphenate entry.1)
        refine ⟨before ++ urls, ?_, ?_⟩
        · rw [addressesOf_append_self, List.map_append, List.map_append, hbefore, hurls]
        · rw [Fields.find?_put_self, Option.getD_some, hfound, length_numbered, numbered_append,
            Nat.zero_add]
      · obtain ⟨others, hothers, hfound⟩ := h.found service
        refine ⟨others, ?_, ?_⟩
        · rw [addressesOf_append_other hs, hothers]
        · rw [Fields.find?_put_of_ne hs, hfound]
    · obtain ⟨before, hbefore, hperm⟩ := h.whole
      refine ⟨before ++ urls, ?_, ?_⟩
      · simp only [List.flatMap_append, List.flatMap_singleton, List.map_append, hbefore, hurls]
      · have hput := (flatMap_put_perm h.ascending (hyphenate entry.1) (numbered (hyphenate entry.1)
          ((Fields.find? (hyphenate entry.1) f.services).getD []).length urls)).map (·.uri)
        rw [List.map_append, uris_numbered] at hput
        exact hput.trans (hperm.append_right urls)

theorem Holds.addAll {before : List (String × List String)} {f g : Fixed} (h : Holds before f)
    (hadd : entries.foldlM Fixed.add f = .ok g) : Holds (before ++ entries) g := by
  induction entries generalizing before f with
  | nil =>
    cases hadd
    rwa [List.append_nil]
  | cons entry entries ih =>
    rw [List.foldlM_cons] at hadd
    obtain ⟨next, hnext, hadd⟩ := bind_ok_iff.mp hadd
    have hall := ih (h.add hnext) hadd
    rwa [List.append_assoc] at hall

end

/-- The instances that a directory made of entries lists, and their services. -/
structure Lists (entries : List (String × List String)) (f : Fixed) : Prop where
  /-- The instances of a service, under whatever spelling, are numbered without a gap. -/
  instances : ∀ name, ∃ urls, (addressesOf (hyphenate name) entries).map Url.parse = urls.map .ok ∧
    f.instancesOf name = numbered (hyphenate name) 0 urls
  /-- Every address makes one instance. -/
  whole : ∃ urls, (entries.flatMap (·.2)).map Url.parse = urls.map .ok ∧
    ((held f).map (·.uri)).Perm urls
  count : f.count = (entries.flatMap (·.2)).length
  ids : ((held f).map (·.id)).Nodup
  services : ∃ names : List String, names.Pairwise (· < ·) ∧
    (∀ name, name ∈ names ↔ ∃ e ∈ entries, hyphenate e.1 = name) ∧
    ∀ {σ : Type} (net : Network σ) (s : σ),
      Leaf.services net (.fixed f) s = (.now (.ok names), .fixed f, s)

theorem Holds.nodup_ids {entries : List (String × List String)} {f : Fixed} (h : Holds entries f) :
    ((held f).map (·.id)).Nodup := by
  have hnumbered : ∀ e ∈ f.services, ∃ urls, e.2 = numbered e.1 0 urls := by
    intro e he
    obtain ⟨urls, -, hfound⟩ := h.found e.1
    rw [h.ascending.find?_eq_some he] at hfound
    exact ⟨urls, hfound⟩
  rw [held, List.map_flatMap, List.nodup_flatMap]
  constructor
  · intro e he
    obtain ⟨urls, hurls⟩ := hnumbered e he
    rw [hurls]
    exact nodup_ids_numbered
  · refine h.ascending.imp_of_mem fun {d e} hd he hlt => ?_
    obtain ⟨urls, hurls⟩ := hnumbered d hd
    obtain ⟨others, hothers⟩ := hnumbered e he
    simp only [Function.onFun, hurls, hothers, ids_numbered]
    intro id hid hid'
    obtain ⟨m, -, rfl⟩ := List.mem_map.mp hid
    obtain ⟨n, -, hsame⟩ := List.mem_map.mp hid'
    rw [(idOf_inj.mp hsame).1] at hlt
    exact String.lt_irrefl _ hlt

theorem Holds.lists {entries : List (String × List String)} {f : Fixed} (h : Holds entries f) :
    Lists entries f := by
  refine ⟨fun name => h.found (hyphenate name), h.whole, ?_, h.nodup_ids, ?_⟩
  · obtain ⟨urls, hurls, hperm⟩ := h.whole
    have hlength := congrArg List.length hurls
    rw [List.length_map, List.length_map] at hlength
    rw [hlength, ← hperm.length_eq, List.length_map]
    rfl
  · refine ⟨f.services.map (·.1), ?_, h.named, fun _ _ => rfl⟩
    rw [List.pairwise_map]
    exact h.ascending

/-- The fault of the first address that cannot be read. -/
def FirstFault (uris : List String) (e : Error) : Prop :=
  ∃ before uri after cause, uris = before ++ uri :: after ∧
    (∀ other ∈ before, ∃ url, Url.parse other = .ok url) ∧ Url.parse uri = .error cause ∧
    e = .badUri uri cause

theorem readAddress_ok_iff {uri : String} :
    (∃ url, readAddress uri = .ok url) ↔ ∃ url, Url.parse uri = .ok url := by
  unfold readAddress
  cases Url.parse uri <;> simp [Except.mapError]

theorem readAddress_error_iff {uri : String} {e : Error} :
    readAddress uri = .error e ↔ ∃ cause, Url.parse uri = .error cause ∧ e = .badUri uri cause := by
  unfold readAddress
  cases Url.parse uri <;> simp [Except.mapError, eq_comm]

theorem mapM_readAddress_error_iff {uris : List String} {e : Error} :
    uris.mapM readAddress = .error e ↔ FirstFault uris e := by
  simp only [mapM_error_iff, readAddress_ok_iff, readAddress_error_iff, FirstFault]
  constructor
  · rintro ⟨before, uri, after, happ, hbefore, cause, hcause, he⟩
    exact ⟨before, uri, after, cause, happ, hbefore, hcause, he⟩
  · rintro ⟨before, uri, after, cause, happ, hbefore, hcause, he⟩
    exact ⟨before, uri, after, happ, hbefore, cause, hcause, he⟩

/-- Entries make a directory just if all their addresses can be read; else the first one that cannot
is reported. The directory holds one instance for each address, under an id of its own. -/
theorem listed_once (entries : List (String × List String)) :
    ((∃ f, Fixed.ofList entries = .ok f) ↔
      ∀ uri ∈ entries.flatMap (·.2), ∃ url, Url.parse uri = .ok url) ∧
    (∀ e, Fixed.ofList entries = .error e ↔ FirstFault (entries.flatMap (·.2)) e) ∧
    ∀ f, Fixed.ofList entries = .ok f → Lists entries f := by
  have houtcome := foldlM_add_outcome .empty entries
  refine ⟨?_, fun e => ?_, fun f hf => ?_⟩
  · rw [← map_ok_iff (f := fun _ => ()), Fixed.ofList, houtcome, map_ok_iff, mapM_ok_iff]
    simp only [readAddress_ok_iff]
  · rw [← map_error_iff (f := fun _ => ()), Fixed.ofList, houtcome, map_error_iff,
      mapM_readAddress_error_iff]
  · exact (holds_empty.addAll hf).lists

/-- Two spellings of one service, and another service whose name looks like an id of the first. -/
example : ((Fixed.ofList [("userService", ["http://a", "http://b"]),
    ("user-service-0", ["http://c"]), ("user_service", ["http://d"])]).toOption.map fun f =>
      (held f).map (·.id)) =
      some ["user-service-0", "user-service-1", "user-service-2", "user-service-0-0"] := by
  decide +kernel

end Switchboard.Proofs.Numbering
