import Mathlib.Logic.Basic
import Switchboard.Proofs.Chains
import Switchboard.Settings

namespace Switchboard.Proofs.FailFast
open Service Directory Chains

theorem each_ok_iff {α : Type} {check : α → Config.Check.Verdict} {xs : List α} :
    Config.Check.each check xs = .ok () ↔ ∀ x ∈ xs, check x = .ok () := by
  induction xs with
  | nil => simp [Config.Check.each]
  | cons x xs ih =>
    rw [Config.Check.each, then_ok_iff, List.forall_mem_cons, ih]

/-- Whether the parser takes a text for a URL. -/
def IsUrl (written : String) : Prop :=
  ∃ u, Url.parse written = .ok u

theorem checkUri_ok_iff {service uri : String} :
    FixedServices.checkUri service uri = .ok () ↔ IsUrl uri := by
  unfold FixedServices.checkUri IsUrl
  cases Url.parse uri <;> simp [Config.Check.fail]

theorem number_ok (service : String) (before : List Instance) {uris : List String}
    (h : ∀ uri ∈ uris, IsUrl uri) : ∃ is, Fixed.number service before uris = .ok is := by
  induction uris generalizing before with
  | nil => exact ⟨before, rfl⟩
  | cons uri uris ih =>
    obtain ⟨⟨u, hu⟩, hrest⟩ := List.forall_mem_cons.mp h
    obtain ⟨is, his⟩ := ih _ hrest
    refine ⟨is, ?_⟩
    rw [Fixed.number, Instance.ofText, hu]
    exact his

theorem add_ok (f : Fixed) {entry : String × List String} (h : ∀ uri ∈ entry.2, IsUrl uri) :
    ∃ g, f.add entry = .ok g := by
  obtain ⟨is, his⟩ := number_ok (hyphenate entry.1)
    ((Tree.Fields.find? (hyphenate entry.1) f.services).getD []) h
  exact ⟨⟨Tree.Fields.put (hyphenate entry.1) is f.services⟩, bind_ok_iff.mpr ⟨is, his, rfl⟩⟩

theorem foldlM_add_ok (f : Fixed) {entries : List (String × List String)}
    (h : ∀ entry ∈ entries, ∀ uri ∈ entry.2, IsUrl uri) :
    ∃ g, entries.foldlM Fixed.add f = .ok g := by
  induction entries generalizing f with
  | nil => exact ⟨f, rfl⟩
  | cons entry entries ih =>
    obtain ⟨hentry, hrest⟩ := List.forall_mem_cons.mp h
    obtain ⟨g, hg⟩ := add_ok f hentry
    obtain ⟨k, hk⟩ := ih g hrest
    refine ⟨k, ?_⟩
    rw [List.foldlM_cons, hg]
    exact hk

/-- Addresses that pass their check are all turned into instances. -/
theorem ofList_ok {services : FixedServices} (h : FixedServices.check services = .ok ()) :
    ∃ f, Fixed.ofList services = .ok f := by
  apply foldlM_add_ok .empty
  intro entry he uri hu
  obtain ⟨-, hall⟩ := then_ok_iff.mp (each_ok_iff.mp h entry he)
  exact checkUri_ok_iff.mp (each_ok_iff.mp hall uri hu)

/-- Whether a backend can be built once its settings have passed their check. -/
def Usable (b : BackendSettings) : Prop :=
  ∀ c, b = .consul c → IsUrl c.url

theorem buildBackend_consul {c : ConsulSettings} {cause : Url.Error}
    (h : Url.parse c.url = .error cause) :
    Directory.Settings.buildBackend (.consul c) =
      .error (.unbuildable "consul" (.badConsulUrl c.url cause)) := by
  simp only [Directory.Settings.buildBackend, BackendSettings.build, ConsulSettings.build,
    Consul.atUrl, h]
  rfl

theorem buildBackend_usable {b : BackendSettings} (hc : b.check = .ok ()) (hu : Usable b) :
    ∃ part, Directory.Settings.buildBackend b = .ok part := by
  cases b with
  | fixed services =>
    obtain ⟨f, hf⟩ := ofList_ok hc
    refine ⟨.leaf (.fixed f), ?_⟩
    simp only [Directory.Settings.buildBackend, BackendSettings.build, hf]
    rfl
  | dns s => exact ⟨.leaf (.dns s.build), rfl⟩
  | metadata s => exact ⟨.leaf (.metadata s.build), rfl⟩
  | consul c =>
    obtain ⟨u, hurl⟩ := hu c rfl
    simp only [Directory.Settings.buildBackend, BackendSettings.build, ConsulSettings.build,
      Consul.atUrl, hurl]
    exact ⟨_, rfl⟩

theorem buildBackend_ok_iff {b : BackendSettings} (hc : b.check = .ok ()) :
    (∃ part, Directory.Settings.buildBackend b = .ok part) ↔ Usable b := by
  constructor
  · rintro ⟨part, hpart⟩ c rfl
    cases hurl : Url.parse c.url with
    | ok u => exact ⟨u, hurl⟩
    | error cause =>
      rw [buildBackend_consul hurl] at hpart
      cases hpart
  · exact buildBackend_usable hc

theorem buildBackend_error_iff {b : BackendSettings} {e : Service.Error} (hc : b.check = .ok ()) :
    Directory.Settings.buildBackend b = .error e ↔ ∃ c cause, b = .consul c ∧
      Url.parse c.url = .error cause ∧ e = .unbuildable "consul" (.badConsulUrl c.url cause) := by
  constructor
  · intro h
    by_cases hu : Usable b
    · obtain ⟨part, hpart⟩ := buildBackend_usable hc hu
      rw [hpart] at h
      cases h
    · simp only [Usable, not_forall] at hu
      obtain ⟨c, rfl, hbad⟩ := hu
      cases hurl : Url.parse c.url with
      | ok u => exact absurd ⟨u, hurl⟩ hbad
      | error cause =>
        rw [buildBackend_consul hurl] at h
        exact ⟨c, cause, rfl, hurl, (Except.error.inj h).symm⟩
  · intro h
    obtain ⟨c, cause, rfl, hurl, rfl⟩ := h
    exact buildBackend_consul hurl

/-- The error of the first backend that cannot be used, which is a Consul agent. -/
def Unbuildable (backends : List BackendSettings) (e : Service.Error) : Prop :=
  ∃ before c after cause, backends = before ++ .consul c :: after ∧ (∀ b ∈ before, Usable b) ∧
    Url.parse c.url = .error cause ∧ e = .unbuildable "consul" (.badConsulUrl c.url cause)

theorem build_eq {s : Directory.Settings} (hc : s.check = .ok ()) :
    s.build = s.backends.mapM Directory.Settings.buildBackend := by
  unfold Directory.Settings.build
  rw [hc]
  rfl

theorem build_ok_iff {s : Directory.Settings} (hc : s.check = .ok ()) :
    (∃ parts, s.build = .ok parts) ↔ ∀ b ∈ s.backends, Usable b := by
  rw [build_eq hc, mapM_ok_iff]
  have heach := each_ok_iff.mp hc
  constructor
  · intro h b hb
    exact (buildBackend_ok_iff (heach b hb)).mp (h b hb)
  · intro h b hb
    exact (buildBackend_ok_iff (heach b hb)).mpr (h b hb)

theorem build_error_iff {s : Directory.Settings} {e : Service.Error} (hc : s.check = .ok ()) :
    s.build = .error e ↔ Unbuildable s.backends e := by
  rw [build_eq hc, mapM_error_iff]
  have heach := each_ok_iff.mp hc
  constructor
  · intro h
    obtain ⟨before, b, after, happ, hbefore, hb⟩ := h
    obtain ⟨c, cause, rfl, hurl, rfl⟩ :=
      (buildBackend_error_iff (heach b (by simp [happ]))).mp hb
    refine ⟨before, c, after, cause, happ, ?_, hurl, rfl⟩
    intro d hd
    exact (buildBackend_ok_iff (heach d (by simp [happ, hd]))).mp (hbefore d hd)
  · intro h
    obtain ⟨before, c, after, cause, happ, hbefore, hurl, rfl⟩ := h
    refine ⟨before, .consul c, after, happ, ?_, buildBackend_consul hurl⟩
    intro d hd
    exact buildBackend_usable (heach d (by simp [happ, hd])) (hbefore d hd)

/-- Settings as they come from a store, a text or a file. -/
inductive Loaded (s : Settings) : Prop where
  | ofStore (store : Config.Store) (h : Settings.ofStore store = .ok s)
  | parse (environment : Environment) (format : Config.Format) (content : String)
      (h : Settings.parse environment format content = .ok s)
  | load (environment : Environment) (folder : Config.Folder) (path : String)
      (h : Settings.load environment folder path = .ok s)

theorem ofStore_checked {store : Config.Store} {s : Settings}
    (h : Settings.ofStore store = .ok s) : s.check = .ok () := by
  obtain ⟨versioning, -, h⟩ := bind_ok_iff.mp h
  obtain ⟨discovery, -, h⟩ := bind_ok_iff.mp h
  obtain ⟨⟨⟩, hc, h⟩ := bind_ok_iff.mp h
  obtain rfl := Except.ok.inj h
  exact hc

theorem Loaded.checked {s : Settings} (h : Loaded s) : s.check = .ok () := by
  cases h with
  | ofStore store h => exact ofStore_checked h
  | parse environment format content h =>
    obtain ⟨store, -, h⟩ := bind_ok_iff.mp h
    exact ofStore_checked h
  | load environment folder path h =>
    obtain ⟨store, -, h⟩ := bind_ok_iff.mp h
    exact ofStore_checked h

/-- Loaded settings always have a resolver, and they have a directory unless the address of a Consul
backend, though it begins like that of a web page, is no URL. -/
theorem loaded_builds_iff {s : Settings} (h : Loaded s) :
    (∃ r, s.resolver = .ok r) ∧
    ((∃ b, s.directory = .ok b) ↔ ∀ b ∈ s.discovery.backends, Usable b) ∧
    ∀ e, s.directory = .error e ↔ Unbuildable s.discovery.backends e := by
  obtain ⟨hv, hd⟩ := then_ok_iff.mp h.checked
  refine ⟨⟨⟨s.versioning⟩, bind_ok_iff.mpr ⟨(), hv, rfl⟩⟩, ?_, ?_⟩
  · rw [← build_ok_iff hd]
    exact map_ok_iff
  · intro e
    rw [← build_error_iff hd]
    exact map_error_iff

/-- A configuration of one Consul backend. -/
def agentText (url : String) : String :=
  "\x7b\"discovery\":\x7b\"backends\":[\x7b\"type\":\"consul\",\"url\":\"" ++ url ++ "\"\x7d]\x7d\x7d"

def withAgent (url : String) : Settings :=
  ⟨.standard, ⟨.strict, [.consul ⟨url, false⟩]⟩⟩

theorem localAgent_builds :
    Loaded (withAgent "http://localhost:8500") ∧
    ∃ b, (withAgent "http://localhost:8500").directory = .ok b := by
  have hparse : Settings.parse [] .json (agentText "http://localhost:8500") =
      .ok (withAgent "http://localhost:8500") := ok_of_toOption (by decide +kernel)
  have hl := Loaded.parse [] .json _ hparse
  refine ⟨hl, (loaded_builds_iff hl).2.1.mpr ?_⟩
  intro b hb c hc
  obtain rfl := List.mem_singleton.mp hb
  obtain rfl := BackendSettings.consul.inj hc
  exact ⟨_, rfl⟩

/-- The check does not look at the port, and no port has this number. -/
theorem overlongPort_not_built :
    Settings.parse [] .json (agentText "http://localhost:85000") =
      .ok (withAgent "http://localhost:85000") ∧
    ¬∃ b, (withAgent "http://localhost:85000").directory = .ok b := by
  refine ⟨ok_of_toOption (by decide +kernel), ?_⟩
  intro h
  obtain ⟨b, hb⟩ := h
  have hbad : (withAgent "http://localhost:85000").directory =
      .error (.unbuildable "consul" (.badConsulUrl "http://localhost:85000" .badPort)) := rfl
  rw [hbad] at hb
  cases hb

end Switchboard.Proofs.FailFast
