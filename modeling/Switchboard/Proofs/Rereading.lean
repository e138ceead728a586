import Switchboard.Proofs.Chains
import Switchboard.Settings

namespace Switchboard.Proofs.Rereading
open Switchboard.Tree Directory FieldReader Chains

section
variable {α : Type} {read : Tree → Reading α} {write : α → Tree}

/-- A list is read back just if each of its items is. -/
theorem readItems_map_iff {xs : List α} :
    readItems read (xs.map write) = .ok xs ↔ ∀ x ∈ xs, read (write x) = .ok x := by
  induction xs with
  | nil => simp [readItems]
  | cons x xs ih =>
    rw [List.map_cons, List.forall_mem_cons, ← ih, readItems]
    simp [bind_ok_iff, pure_eq_ok]

theorem readEntries_map {entries : List (String × α)} (h : ∀ x, read (write x) = .ok x) :
    readEntries read (entries.map fun e => (e.1, write e.2)) = .ok entries := by
  induction entries with
  | nil => rfl
  | cons e entries ih => simp only [List.map_cons, readEntries, h, ih, ok_bind, pure_eq_ok]

end

theorem readList_texts (texts : List String) :
    readList readText (.list (texts.map .text)) = .ok texts :=
  readItems_map_iff.mpr fun _ _ => rfl

/-- However short a list of texts is, it is taken for no scalar. -/
theorem readTexts_texts (texts : List String) :
    readTexts (.list (texts.map .text)) = .ok texts := by
  have hall : (texts.map Tree.text).mapM scalarText? = some texts := by
    rw [mapM_some_iff, List.map_map]
    rfl
  simp [readTexts, scalarText?, hall]

theorem readPort_whole (port : Nat) : readPort (.whole port) =
    if port < 65536 then .ok port else .error (.wrongValue (.whole port) "u16") := by
  have hrange : (decide (0 ≤ (port : Int)) && decide ((port : Int) ≤ 65535)) =
      decide (port < 65536) := by
    rw [← Bool.decide_and]
    exact decide_eq_decide.mpr (by omega)
  simp only [readPort, readWhole, hrange, decide_eq_true_eq]
  split <;> rfl

theorem policy_reread (p : Policy) : Policy.ofTree (.text p.name) = .ok p := by
  cases p <;> rfl

theorem rules_reread (r : Version.Rules) : Version.Rules.ofTree r.toTree = .ok r := by
  rw [Version.Rules.ofTree, Version.Rules.toTree, readStruct_record,
    readRecord_eq_foldlM (by simp [Version.Rules.schema])]
  obtain ⟨enabled, defaultVersion, headerNames, parameterNames⟩ := r
  cases defaultVersion <;>
    simp [setNamed, Version.Rules.schema, readOptionalText, readOption, readScalar, scalarText?,
      readBool, readTexts_texts, ok_bind, pure_eq_ok, Except.map]

/-- A default version that looks like a number, no name and a single one that looks like a
boolean. -/
example : Version.Rules.ofTree (Version.Rules.toTree ⟨true, some "01", [], ["true"]⟩) =
    .ok ⟨true, some "01", [], ["true"]⟩ := rfl

theorem fixed_reread (services : FixedServices) :
    readRecord FixedServices.schema [] (FixedServices.toFields services) = .ok services := by
  have hfields : FixedServices.toFields services =
      [("services", .record (services.map fun s => (s.1, .list (s.2.map .text))))] := rfl
  have hservices : readMap (readList readText)
      (.record (services.map fun s => (s.1, .list (s.2.map .text)))) = .ok services :=
    readEntries_map readList_texts
  rw [readRecord_eq_foldlM (by simp [FixedServices.schema]), hfields]
  simp [setNamed, FixedServices.schema, hservices, ok_bind, pure_eq_ok]

theorem dns_reread_iff (s : DnsSettings) :
    readRecord DnsSettings.schema .standard s.toFields = .ok s ↔ s.port < 65536 := by
  rw [readRecord_eq_foldlM (by simp [DnsSettings.schema])]
  obtain ⟨domain, port, scheme, services⟩ := s
  by_cases hport : port < 65536 <;> cases domain <;>
    simp [setNamed, DnsSettings.schema, DnsSettings.toFields, readOption, readText, readPort_whole,
      hport, readTexts_texts, ok_bind, error_bind, pure_eq_ok, Except.map]

theorem metadata_reread_iff (s : MetadataSettings) :
    readRecord MetadataSettings.schema .standard s.toFields = .ok s ↔ s.port < 65536 := by
  rw [readRecord_eq_foldlM (by simp [MetadataSettings.schema, MetadataSettings.toFields])]
  obtain ⟨service, url, port, scheme⟩ := s
  by_cases hport : port < 65536 <;>
    simp [setNamed, MetadataSettings.schema, MetadataSettings.toFields, readText, readPort_whole,
      hport, ok_bind, error_bind, pure_eq_ok]

theorem consul_reread (s : ConsulSettings) :
    readRecord ConsulSettings.schema .standard s.toFields = .ok s := by
  rw [readRecord_eq_foldlM (by simp [ConsulSettings.schema, ConsulSettings.toFields])]
  simp [setNamed, ConsulSettings.schema, ConsulSettings.toFields, readText, readBool, ok_bind,
    pure_eq_ok]

/-- Whether the port of a backend has 16 bits. -/
def PortFits : BackendSettings → Prop
  | .dns s => s.port < 65536
  | .metadata s => s.port < 65536
  | _ => True

theorem tag_fresh (b : BackendSettings) : ∀ e ∈ b.fields, e.1 ≠ BackendSettings.tagName := by
  cases b <;> simp [BackendSettings.fields, BackendSettings.tagName, FixedServices.toFields,
    DnsSettings.toFields, MetadataSettings.toFields, ConsulSettings.toFields]

theorem ofTree_toTree (b : BackendSettings) : BackendSettings.ofTree b.toTree =
    BackendSettings.readKind (.text b.kind) (.entries b.fields) := by
  rw [BackendSettings.toTree, BackendSettings.ofTree, Fields.find?_put_self]
  simp only [Fields.filter_put (tag_fresh b)]

theorem backend_reread_iff (b : BackendSettings) :
    BackendSettings.ofTree b.toTree = .ok b ↔ PortFits b := by
  rw [ofTree_toTree]
  cases b with
  | fixed services =>
    exact iff_of_true ((bind_pure_ok_iff fun _ _ => BackendSettings.fixed.inj).mpr
      (fixed_reread services)) trivial
  | dns s => exact (bind_pure_ok_iff fun _ _ => BackendSettings.dns.inj).trans (dns_reread_iff s)
  | metadata s =>
    exact (bind_pure_ok_iff fun _ _ => BackendSettings.metadata.inj).trans (metadata_reread_iff s)
  | consul s =>
    exact iff_of_true ((bind_pure_ok_iff fun _ _ => BackendSettings.consul.inj).mpr
      (consul_reread s)) trivial

theorem discovery_reread_iff (s : Directory.Settings) :
    Directory.Settings.ofTree s.toTree = .ok s ↔ ∀ b ∈ s.backends, PortFits b := by
  simp only [← backend_reread_iff, ← readItems_map_iff]
  rw [Directory.Settings.ofTree, Directory.Settings.toTree, readStruct_record,
    readRecord_eq_foldlM (by simp [Directory.Settings.schema])]
  obtain ⟨policy, backends⟩ := s
  cases hbackends : readItems BackendSettings.ofTree (backends.map BackendSettings.toTree) <;>
    simp [setNamed, Directory.Settings.schema, readList, hbackends, policy_reread, ok_bind,
      error_bind, pure_eq_ok]

/-- Settings are read back from the tree that they are written as just if their ports have 16
bits. -/
theorem settings_reread_iff (s : Settings) :
    Settings.ofTree s.toTree = .ok s ↔ ∀ b ∈ s.discovery.backends, PortFits b := by
  have hrouter : Settings.readRouter (.record [("versioning", s.versioning.toTree)]) =
      .ok s.versioning := by
    rw [Settings.readRouter, readStruct_record,
      readRecord_eq_foldlM (by simp [Settings.routerSchema])]
    simp [setNamed, Settings.routerSchema, rules_reread]
  rw [← discovery_reread_iff, Settings.ofTree, Settings.toTree, readStruct_record,
    readRecord_eq_foldlM (by simp [Settings.schema])]
  obtain ⟨versioning, discovery⟩ := s
  cases hdiscovery : Directory.Settings.ofTree discovery.toTree <;>
    simp [setNamed, Settings.schema, hdiscovery, hrouter, ok_bind, error_bind, pure_eq_ok]

end Switchboard.Proofs.Rereading
