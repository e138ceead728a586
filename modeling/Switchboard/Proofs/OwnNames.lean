import Switchboard.Proofs.Registrations

namespace Switchboard.Proofs.OwnNames
open Service Directory Registrations
open Roster (Request serveAll)

/-- A lookup under the name of its own service finds the instance. -/
def Found (r : Roster) (i : Instance) : Prop :=
  ∃ found, r.instancesOf i.service = .ok found ∧ i ∈ found

/-- A lookup under this name finds some instance. -/
def Resolves (r : Roster) (service : String) : Prop :=
  ∃ found, r.instancesOf service = .ok found ∧ found ≠ []

theorem mem_place {i j : Instance} {is : List Instance} (h : j ∈ Roster.place i is) :
    j = i ∨ j ∈ is := by
  induction is with
  | nil => exact .inl (by simpa [Roster.place] using h)
  | cons k ks ih =>
    rw [Roster.place] at h
    split at h
    · exact (List.mem_cons.mp h).imp_right (List.mem_cons_of_mem k)
    · rcases List.mem_cons.mp h with rfl | h
      · exact .inr List.mem_cons_self
      · exact (ih h).imp_right (List.mem_cons_of_mem k)

/-- An instance comes into a roster by a request to register it. -/
theorem registered_of_mem_serve {r : Roster} {request : Request} {i : Instance}
    (h : i ∈ (r.serve request).2.instances) : .register i = request ∨ i ∈ r.instances := by
  by_cases hclear : request = .clear
  · subst hclear
    cases h
  by_cases hclose : request = .close
  · subst hclose
    exact .inr h
  cases hclosed : r.closed with
  | true =>
    rw [serve_of_closed hclosed hclear hclose] at h
    exact .inr h
  | false =>
    cases request with
    | clear => exact absurd rfl hclear
    | close => exact absurd rfl hclose
    | register j =>
      rw [serve_register hclosed] at h
      exact (mem_place h).imp_left (congrArg Request.register)
    | deregister id =>
      by_cases hid : id ∈ r.instances.map (·.id)
      · rw [serve_deregister_held hclosed hid] at h
        exact .inr (List.mem_of_mem_eraseP h)
      · rw [serve_deregister_absent hclosed hid] at h
        exact .inr h
    | instances service =>
      rw [serve_instances hclosed] at h
      exact .inr h
    | services =>
      rw [serve_services hclosed] at h
      exact .inr h

theorem registered_of_mem {r : Roster} {requests : List Request} {i : Instance}
    (h : i ∈ (serveAll r requests).2.instances) : .register i ∈ requests ∨ i ∈ r.instances := by
  induction requests generalizing r with
  | nil => exact .inr h
  | cons request requests ih =>
    rw [serveAll_cons] at h
    rcases ih h with h | h
    · exact .inl (List.mem_cons_of_mem request h)
    · rcases registered_of_mem_serve h with rfl | h
      · exact .inl List.mem_cons_self
      · exact .inr h

section
variable {r : Roster} (hopen : r.closed = false)
include hopen

theorem instancesOf_eq (service : String) :
    r.instancesOf service = .ok (r.instances.filter (·.service = hyphenate service)) := by
  rw [Roster.instancesOf, whenOpen_of_open hopen]

theorem found_iff {i : Instance} (hi : i ∈ r.instances) :
    Found r i ↔ hyphenate i.service = i.service := by
  unfold Found
  rw [instancesOf_eq hopen]
  simp [hi, eq_comm]

theorem mem_services_iff {services : List String} (h : r.services = .ok services)
    (service : String) : service ∈ services ↔ ∃ i ∈ r.instances, i.service = service := by
  rw [Roster.services, whenOpen_of_open hopen] at h
  obtain rfl := Except.ok.inj h
  exact mem_services r service

theorem resolves_iff {services : List String} (h : r.services = .ok services) (service : String) :
    Resolves r service ↔ hyphenate service ∈ services := by
  unfold Resolves
  rw [instancesOf_eq hopen, mem_services_iff hopen h]
  simp

end

/-- An instance held is found under the name of its own service just if that name is canonical, and
a name listed resolves just if its canonical form is listed. So nothing is out of reach as long as
every service registered has a canonical name. -/
theorem found_iff_canonical (name : String) (requests : List Request) (r : Roster)
    (hr : (serveAll (.named name) requests).2 = r) (hopen : r.closed = false) :
    (∀ i ∈ r.instances, Found r i ↔ hyphenate i.service = i.service) ∧
    ∃ services, r.services = .ok services ∧
      (∀ service ∈ services, Resolves r service ↔ hyphenate service ∈ services) ∧
      ((∀ i, .register i ∈ requests → hyphenate i.service = i.service) →
        (∀ i ∈ r.instances, Found r i) ∧ ∀ service ∈ services, Resolves r service) := by
  obtain ⟨services, hservices⟩ : ∃ services, r.services = .ok services := by
    rw [Roster.services, whenOpen_of_open hopen]
    exact ⟨_, rfl⟩
  refine ⟨fun i hi => found_iff hopen hi, services, hservices,
    fun service _ => resolves_iff hopen hservices service, fun hcanonical => ?_⟩
  have hheld : ∀ i ∈ r.instances, hyphenate i.service = i.service := by
    intro i hi
    rw [← hr] at hi
    exact hcanonical i ((registered_of_mem hi).resolve_right List.not_mem_nil)
  constructor
  · intro i hi
    exact (found_iff hopen hi).mpr (hheld i hi)
  · intro service hs
    obtain ⟨i, hi, rfl⟩ := (mem_services_iff hopen hservices service).mp hs
    rw [resolves_iff hopen hservices, hheld i hi]
    exact hs

/-- An address on a host of one letter. -/
def home : Url :=
  ⟨"http", some ⟨"", "", some (.domain "h"), none⟩, .segments [""], none, none⟩

/-- An instance of users, made from another spelling of the name. -/
def users : Instance :=
  .ofUrl "1" "userService" home

/-- A user service registers, is joined by another instance that leaves again, and is found. -/
theorem users_found :
    (serveAll (.named "memory") [.register users, .register { users with id := "2" },
      .deregister "2"]).2 = ⟨"memory", [users], false⟩ ∧
    Found ⟨"memory", [users], false⟩ users ∧ Resolves ⟨"memory", [users], false⟩ "user-service" := by
  have hr : (serveAll (.named "memory") [.register users, .register { users with id := "2" },
      .deregister "2"]).2 = ⟨"memory", [users], false⟩ := by decide +kernel
  have hs : hyphenate users.service = users.service := by decide +kernel
  obtain ⟨-, services, hservices, -, hall⟩ := found_iff_canonical "memory" _ _ hr rfl
  obtain ⟨hfound, hresolves⟩ := hall (by
    intro i hi
    simp only [List.mem_cons, Request.register.injEq, reduceCtorEq, List.not_mem_nil,
      or_false] at hi
    rcases hi with rfl | rfl <;> exact hs)
  refine ⟨hr, hfound users (by simp), hresolves _ ?_⟩
  exact (mem_services_iff rfl hservices _).mpr ⟨users, by simp, by decide +kernel⟩

/-- An instance whose name is two capitals, of which only the first has a small letter. -/
def capitals : Instance :=
  .ofUrl "1" "A𝐀" home

/-- An instance read from elsewhere, under a name that is not canonical. -/
def camel : Instance :=
  ⟨"2", "userService", home, [], none⟩

/-- The hyphen that the second capital takes is due only once the first one is a small letter, so
the name made from another spelling is not yet canonical, and neither is a name that is read as it
is. -/
theorem capitals_out_of_reach :
    Instance.ofText "1" "A𝐀" "http://h" = .ok capitals ∧ capitals.service = "a𝐀" ∧
    Instance.ofTree (.record [("id", .text "2"), ("metadata", .record []),
      ("service_id", .text "userService"), ("uri", .text "http://h")]) = .ok camel ∧
    ∃ r, serveAll (.named "memory") [.register capitals, .register camel] = ([.done, .done], r) ∧
      r.instances = [capitals, camel] ∧ r.services = .ok ["a𝐀", "userService"] ∧
      r.instancesOf "a𝐀" = .ok [] ∧ r.instancesOf "userService" = .ok [] := by
  refine ⟨by rfl, by decide +kernel, by rfl, _, rfl, rfl, by rfl, by rfl, by rfl⟩

end Switchboard.Proofs.OwnNames
