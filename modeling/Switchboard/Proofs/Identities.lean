import Mathlib.Data.List.Nodup
import Switchboard.Directory.Droplet
import Switchboard.Proofs.Chains

namespace Switchboard.Proofs.Identities
open Service Directory Chains
open Switchboard.Tree

/-- The first of several texts that is there and not empty. -/
def firstWritten (texts : List (Option String)) : Option String :=
  texts.findSome? (·.filter (· ≠ ""))

section
variable (d : Droplet)

/-- The texts that may name a machine: its id, its host name, its public and its private address. -/
def names : List (Option String) :=
  [d.idText, d.hostname, d.publicInterfaces.head?.bind (·.ipv4),
    d.privateInterfaces.head?.bind (·.ipv4)]

/-- What the description says under a key of the metadata. -/
def source : String → Option String
  | "instance-id" => d.idText
  | "name" => d.hostname
  | "region" => d.region
  | "private-ipv4" => d.privateInterfaces.head?.bind (·.ipv4)
  | "public-ipv4" => d.publicInterfaces.head?.bind (·.ipv4)
  | "private-ipv6" => d.privateInterfaces.head?.bind (·.ipv6)
  | "public-ipv6" => d.publicInterfaces.head?.bind (·.ipv6)
  | "user-data" => d.userData
  | "vendor-data" => d.vendorData
  | _ => none

/-- The id, or else the host name, is present and empty. -/
def Nameless : Prop :=
  d.idText = some "" ∨ d.idText = none ∧ d.hostname = some ""

end

theorem firstWritten_none (texts : List (Option String)) :
    firstWritten (none :: texts) = firstWritten texts := by
  simp [firstWritten]

theorem firstWritten_some {text : String} (h : text ≠ "") (texts : List (Option String)) :
    firstWritten (some text :: texts) = some text := by
  simp [firstWritten, h]

theorem firstWritten_ne_empty {texts : List (Option String)} {text : String}
    (h : firstWritten texts = some text) : text ≠ "" := by
  obtain ⟨t, -, ht⟩ := List.exists_of_findSome?_eq_some h
  exact of_decide_eq_true (Option.filter_eq_some_iff.mp ht).2

section
variable {d : Droplet} {service scheme : String} {port : Nat} {i : Instance}

/-- The public address comes before the private one. -/
theorem ipv4_eq : d.ipv4 = firstWritten [d.publicInterfaces.head?.bind (·.ipv4),
    d.privateInterfaces.head?.bind (·.ipv4)] := by
  unfold Droplet.ipv4 Droplet.publicIpv4 Droplet.privateIpv4 Droplet.firstAddress firstWritten
  simp only [List.findSome?_cons, List.findSome?_nil]
  cases (d.publicInterfaces.head?.bind (·.ipv4)).filter (· ≠ "") with
  | some ip => rfl
  | none => cases (d.privateInterfaces.head?.bind (·.ipv4)).filter (· ≠ "") <;> rfl

/-- Metadata that is added leaves the id as it is. -/
theorem foldl_withMetadata (entries : List (String × String)) (i : Instance) :
    entries.foldl (fun i (key, value) => i.withMetadata key value) i =
      { i with metadata :=
        entries.foldl (fun fields (key, value) => Fields.put key value fields) i.metadata } := by
  induction entries generalizing i with
  | nil => rfl
  | cons entry entries ih => exact ih _

theorem of_toInstance (h : d.toInstance service scheme port = .ok i) :
    ∃ ip, d.ipv4 = some ip ∧ i.id = (d.idText.or d.hostname).getD ip ∧
      i.metadata = Fields.ofList d.present := by
  unfold Droplet.toInstance at h
  cases hip : d.ipv4 with
  | none =>
    rw [hip] at h
    cases h
  | some ip =>
    rw [hip] at h
    unfold Instance.ofText at h
    simp only at h
    split at h
    · next url _ =>
      simp only [Except.map, foldl_withMetadata] at h
      obtain rfl := Except.ok.inj h
      exact ⟨ip, rfl, rfl, rfl⟩
    · cases h

/-- An id or a host name that is present is taken even when it is empty. -/
theorem id_eq_empty_iff {ip : String} (hip : d.ipv4 = some ip) :
    (d.idText.or d.hostname).getD ip = "" ↔ Nameless d := by
  have hne : ip ≠ "" := firstWritten_ne_empty (ipv4_eq.symm.trans hip)
  unfold Nameless
  cases d.idText with
  | some id => simp
  | none => cases d.hostname <;> simp [hne]

theorem firstWritten_names {ip : String} (hip : d.ipv4 = some ip) (h : ¬ Nameless d) :
    firstWritten (names d) = some ((d.idText.or d.hostname).getD ip) := by
  have hlast := ipv4_eq.symm.trans hip
  unfold Nameless at h
  unfold names
  cases hid : d.idText with
  | some id =>
    rw [firstWritten_some fun he => h (.inl (by rw [hid, he]))]
    rfl
  | none =>
    rw [firstWritten_none]
    cases hname : d.hostname with
    | some name =>
      rw [firstWritten_some fun he => h (.inr ⟨hid, by rw [hname, he]⟩)]
      rfl
    | none =>
      rw [firstWritten_none, hlast]
      rfl

end

section
variable {entries : List (String × Option String)} (key : String)

/-- The entries that are there and not empty. -/
def written (entries : List (String × Option String)) : List (String × String) :=
  entries.filterMap fun (key, value) => (value.filter (· ≠ "")).map (key, ·)

theorem written_none {name : String} {value : Option String} (h : value.filter (· ≠ "") = none) :
    written ((name, value) :: entries) = written entries :=
  List.filterMap_cons_none (by simp only [h, Option.map_none])

theorem written_some {name text : String} {value : Option String}
    (h : value.filter (· ≠ "") = some text) :
    written ((name, value) :: entries) = (name, text) :: written entries :=
  List.filterMap_cons_some (by simp only [h, Option.map_some])

theorem keys_written : ((written entries).map (·.1)).Sublist (entries.map (·.1)) := by
  induction entries with
  | nil => exact .slnil
  | cons entry entries ih =>
    obtain ⟨name, value⟩ := entry
    cases hv : value.filter (· ≠ "") with
    | none =>
      rw [written_none hv]
      exact ih.cons name
    | some text =>
      rw [written_some hv]
      exact ih.cons_cons name

/-- Where no two entries share a key, each is found unless it is empty. -/
theorem find?_written (h : (entries.map (·.1)).Nodup) :
    Fields.find? key (Fields.ofList (written entries)) =
      (Fields.find? key entries).join.filter (· ≠ "") := by
  rw [Fields.find?_ofList (keys_written.nodup h)]
  induction entries with
  | nil => rfl
  | cons entry entries ih =>
    obtain ⟨name, value⟩ := entry
    obtain ⟨hnew, hrest⟩ := List.nodup_cons.mp h
    have hnone : (written entries).find? (·.1 = name) = none := by
      rw [List.find?_eq_none]
      intro e he hname
      exact hnew (keys_written.subset (List.mem_map.mpr ⟨e, he, of_decide_eq_true hname⟩))
    rw [Fields.find?]
    by_cases hkey : key = name
    · subst hkey
      rw [if_pos rfl, Option.join_some]
      cases hv : value.filter (· ≠ "") with
      | none => rw [written_none hv, hnone, Option.map_none]
      | some text => simp [written_some hv]
    · rw [if_neg hkey, ← ih hrest]
      cases hv : value.filter (· ≠ "") with
      | none => rw [written_none hv]
      | some text => simp [written_some hv, Ne.symm hkey]

end

theorem find?_present (d : Droplet) (key : String) :
    Fields.find? key (Fields.ofList d.present) = (source d key).filter (· ≠ "") := by
  have hkeys : (d.details.map (·.1)).Nodup := by simp [Droplet.details]
  refine (find?_written key hkeys).trans ?_
  unfold source
  split
  case h_10 => simp_all [Droplet.details, Fields.find?]
  all_goals simp [Droplet.details, Fields.find?, Droplet.publicIpv4, Droplet.privateIpv4,
    Droplet.publicIpv6, Droplet.privateIpv6, Droplet.firstAddress]

/-- An instance made of a description is named by the first text that is there and not empty, except
where the id, or without one the host name, is there and empty: then its name is empty. A key stands
in its metadata exactly where the text for it is there and not empty. -/
theorem named_iff {d : Droplet} {service scheme : String} {port : Nat} {i : Instance}
    (h : d.toInstance service scheme port = .ok i) :
    (firstWritten (names d) = some i.id ↔ ¬ Nameless d) ∧ (i.id = "" ↔ Nameless d) ∧
    (∀ key, Fields.find? key i.metadata = (source d key).filter (· ≠ "")) ∧
    ∀ entry ∈ i.metadata, entry.2 ≠ "" := by
  obtain ⟨ip, hip, hid, hmetadata⟩ := of_toInstance h
  have hempty : i.id = "" ↔ Nameless d := hid ▸ id_eq_empty_iff hip
  have hfound : ∀ key, Fields.find? key i.metadata = (source d key).filter (· ≠ "") := by
    intro key
    rw [hmetadata, find?_present]
  refine ⟨⟨?_, ?_⟩, hempty, hfound, ?_⟩
  · intro hfirst hnameless
    exact firstWritten_ne_empty hfirst (hempty.mpr hnameless)
  · intro hnamed
    rw [firstWritten_names hip hnamed, hid]
  · intro entry hentry
    have hascending : Fields.Ascending i.metadata := hmetadata ▸ Fields.ofList_ascending _
    have hentry := (hfound entry.1).symm.trans (hascending.find?_eq_some hentry)
    exact of_decide_eq_true (Option.filter_eq_some_iff.mp hentry).2

/-- A description with everything but user data, its vendor data being empty. -/
def sample : Droplet :=
  ⟨some (.whole 2756294), some "sample-droplet", some "nyc3", some "", none,
    [⟨some "104.131.20.105", some "2604:a880::1"⟩], [⟨some "10.132.255.113", none⟩]⟩

/-- The instance that the description makes, seen by its id. -/
theorem toInstance_of_id {d : Droplet} {id : String}
    (h : (d.toInstance "webApp" "http" 8080).toOption.map (·.id) = some id) :
    ∃ i, d.toInstance "webApp" "http" 8080 = .ok i ∧ i.id = id := by
  obtain ⟨i, hi, hid⟩ := Option.map_eq_some_iff.mp h
  exact ⟨i, ok_of_toOption hi, hid⟩

theorem sample_named : ∃ i, sample.toInstance "webApp" "http" 8080 = .ok i ∧
    i.id = "2756294" ∧ firstWritten (names sample) = some i.id ∧
    Fields.find? "name" i.metadata = some "sample-droplet" ∧
    Fields.find? "vendor-data" i.metadata = none := by
  have hmade : (sample.toInstance "webApp" "http" 8080).toOption.map (·.id) = some "2756294" := by
    decide +kernel
  obtain ⟨i, hi, hid⟩ := toInstance_of_id hmade
  obtain ⟨hfirst, hempty, hfound, -⟩ := named_iff hi
  have hnamed : ¬ Nameless sample := by
    rw [← hempty, hid]
    decide
  exact ⟨i, hi, hid, hfirst.mpr hnamed, hfound "name", hfound "vendor-data"⟩

/-- An id that is the empty text names the machine, although there is a host name. -/
theorem empty_id_taken : ∃ d i,
    Droplet.parse ("\x7b\"droplet_id\":\"\",\"hostname\":\"h\",\"interfaces\":" ++
      "\x7b\"public\":[\x7b\"ipv4\":\x7b\"ip_address\":\"1.2.3.4\"\x7d\x7d]\x7d\x7d") = .ok d ∧
    d.toInstance "webApp" "http" 8080 = .ok i ∧ i.id = "" ∧ firstWritten (names d) = some "h" := by
  have hmade : (Droplet.parse ("\x7b\"droplet_id\":\"\",\"hostname\":\"h\",\"interfaces\":" ++
      "\x7b\"public\":[\x7b\"ipv4\":\x7b\"ip_address\":\"1.2.3.4\"\x7d\x7d]\x7d\x7d")).toOption.bind
      (fun d => (d.toInstance "webApp" "http" 8080).toOption.map fun i =>
        (i.id, firstWritten (names d))) = some ("", some "h") := by
    decide +kernel
  obtain ⟨d, hd, hmade⟩ := Option.bind_eq_some_iff.mp hmade
  obtain ⟨i, hi, hpair⟩ := Option.map_eq_some_iff.mp hmade
  obtain ⟨hid, hfirst⟩ := Prod.mk.inj hpair
  exact ⟨d, i, ok_of_toOption hd, ok_of_toOption hi, hid, hfirst⟩

end Switchboard.Proofs.Identities
