import Mathlib.Data.List.Basic
import Switchboard.Directory.Requests

namespace Switchboard.Proofs.Registrations
open Service Directory
open Roster (Request Reply serve serveAll)

/-- A map from ids to instances: the ids in order of insertion, and what each of them holds. -/
structure Ledger where
  order : List String
  held : String → Option Instance
  closed : Bool
  distinct : order.Nodup
  mem_order : ∀ id, id ∈ order ↔ (held id).isSome
  own : ∀ id i, held id = some i → i.id = id

namespace Ledger

def empty : Ledger where
  order := []
  held _ := none
  closed := false
  distinct := .nil
  mem_order := by simp
  own := by simp

def instances (l : Ledger) : List Instance :=
  l.order.filterMap l.held

end Ledger

/-- What a ledger of some name replies to a request, and the ledger after it. -/
inductive Serves (name : String) (l : Ledger) : Request → Reply → Ledger → Prop where
  | replaced {i : Instance} {l' : Ledger} (hopen : l.closed = false) (hid : i.id ∈ l.order)
      (horder : l'.order = l.order)
      (hheld : ∀ id, l'.held id = if i.id = id then some i else l.held id)
      (hclosed : l'.closed = false) : Serves name l (.register i) .done l'
  | appended {i : Instance} {l' : Ledger} (hopen : l.closed = false) (hid : i.id ∉ l.order)
      (horder : l'.order = l.order ++ [i.id])
      (hheld : ∀ id, l'.held id = if i.id = id then some i else l.held id)
      (hclosed : l'.closed = false) : Serves name l (.register i) .done l'
  | removed {id : String} {l' : Ledger} (hopen : l.closed = false) (hid : id ∈ l.order)
      (horder : l'.order = l.order.filter (· ≠ id))
      (hheld : ∀ other, l'.held other = if id = other then none else l.held other)
      (hclosed : l'.closed = false) : Serves name l (.deregister id) .done l'
  | absent {id : String} (hopen : l.closed = false) (hid : id ∉ l.order) :
      Serves name l (.deregister id) (.failed (.notFound id)) l
  | cleared {l' : Ledger} (horder : l'.order = []) (hclosed : l'.closed = l.closed) :
      Serves name l .clear .done l'
  | found {service : String} (hopen : l.closed = false) :
      Serves name l (.instances service)
        (.instances (l.instances.filter (·.service = hyphenate service))) l
  | names {services : List String} (hopen : l.closed = false)
      (hascending : services.Pairwise (· < ·))
      (hmem : ∀ service, service ∈ services ↔ ∃ i ∈ l.instances, i.service = service) :
      Serves name l .services (.services services) l
  | shut {l' : Ledger} (horder : l'.order = l.order) (hheld : l'.held = l.held)
      (hclosed : l'.closed = true) : Serves name l .close .done l'
  | refused {request : Request} (hclosed : l.closed = true) (hclear : request ≠ .clear)
      (hclose : request ≠ .close) : Serves name l request (.failed (.closed name)) l

/-- Requests in a row. -/
inductive Follows (name : String) : Ledger → List Request → List Reply → Ledger → Prop where
  | nil (l : Ledger) : Follows name l [] [] l
  | cons {l l' l'' : Ledger} {request : Request} {requests : List Request} {reply : Reply}
      {replies : List Reply} (first : Serves name l request reply l')
      (rest : Follows name l' requests replies l'') :
      Follows name l (request :: requests) (reply :: replies) l''

section
variable (i : Instance) (is : List Instance)

theorem map_id_place : (Roster.place i is).map (·.id) =
    if i.id ∈ is.map (·.id) then is.map (·.id) else is.map (·.id) ++ [i.id] := by
  induction is with
  | nil => simp [Roster.place]
  | cons j js ih =>
    by_cases h : j.id = i.id
    · simp [Roster.place, h]
    · simp only [Roster.place, h, if_false, List.map_cons, ih, List.mem_cons, Ne.symm h, false_or]
      split <;> rfl

theorem find?_place (id : String) : (Roster.place i is).find? (·.id = id) =
    if i.id = id then some i else is.find? (·.id = id) := by
  induction is with
  | nil => by_cases h : i.id = id <;> simp [Roster.place, h]
  | cons j js ih =>
    by_cases h : j.id = i.id
    · by_cases hid : i.id = id <;> simp [Roster.place, h, hid]
    · by_cases hj : j.id = id
      · have hne : i.id ≠ id := fun he => h (hj.trans he.symm)
        simp [Roster.place, hj, hne, Ne.symm hne]
      · simp [Roster.place, h, hj, ih]

theorem find?_filter (id : String) (is : List Instance) (other : String) :
    (is.filter (·.id ≠ id)).find? (·.id = other) =
      if id = other then none else is.find? (·.id = other) := by
  rw [List.find?_filter]
  split
  · next h =>
    subst h
    simp
  · next h =>
    congr 1
    funext j
    by_cases hj : j.id = other
    · simp [hj, Ne.symm h]
    · simp [hj]

end

section
variable {is : List Instance} (hd : (is.map (·.id)).Nodup)
include hd

theorem find?_of_mem {i : Instance} (hi : i ∈ is) : is.find? (·.id = i.id) = some i := by
  induction is with
  | nil => simp at hi
  | cons j js ih =>
    obtain ⟨hj, hjs⟩ := List.nodup_cons.mp hd
    rcases List.mem_cons.mp hi with rfl | hi
    · simp
    · have hne : j.id ≠ i.id := by
        intro he
        exact hj (List.mem_map.mpr ⟨i, hi, he.symm⟩)
      simp [hne, ih hjs hi]

/-- Where ids are distinct, one instance at most goes. -/
theorem eraseP_eq_filter (id : String) :
    is.eraseP (·.id = id) = is.filter (·.id ≠ id) := by
  induction is with
  | nil => rfl
  | cons j js ih =>
    obtain ⟨hj, hjs⟩ := List.nodup_cons.mp hd
    by_cases h : j.id = id
    · have hkeep : js.filter (·.id ≠ id) = js := by
        apply List.filter_eq_self.mpr
        intro i hi
        rw [decide_eq_true_iff]
        rintro rfl
        exact hj (List.mem_map.mpr ⟨i, hi, h.symm⟩)
      rw [List.eraseP_cons_of_pos (by simpa using h), List.filter_cons_of_neg (by simpa using h),
        hkeep]
    · rw [List.eraseP_cons_of_neg (by simpa using h), List.filter_cons_of_pos (by simpa using h),
        ih hjs]

end

/-- The ledger that a roster keeps. -/
def ledger (r : Roster) (hd : (r.instances.map (·.id)).Nodup) : Ledger where
  order := r.instances.map (·.id)
  held id := r.instances.find? (·.id = id)
  closed := r.closed
  distinct := hd
  mem_order := by simp
  own id i h := by simpa using List.find?_some h

theorem instances_ledger (r : Roster) (hd : (r.instances.map (·.id)).Nodup) :
    (ledger r hd).instances = r.instances := by
  unfold Ledger.instances ledger
  rw [List.filterMap_map]
  calc r.instances.filterMap (fun i => r.instances.find? (·.id = i.id))
      = r.instances.filterMap some := List.filterMap_congr fun i hi => find?_of_mem hd hi
    _ = r.instances := List.filterMap_some

theorem mem_services (r : Roster) (service : String) :
    service ∈ (Tree.Fields.ofList (r.instances.map fun i => (i.service, ()))).map (·.1) ↔
      ∃ i ∈ r.instances, i.service = service := by
  rw [Tree.Fields.mem_names_ofList, List.map_map]
  simp

section
variable {r : Roster}

theorem whenOpen_of_open {α : Type} (hopen : r.closed = false) (result : Except Error α) :
    r.whenOpen result = result := by
  simp [Roster.whenOpen, hopen]

theorem serve_of_closed (hclosed : r.closed = true) {request : Request}
    (hclear : request ≠ .clear) (hclose : request ≠ .close) :
    r.serve request = (.failed (.closed r.name), r) := by
  have hrefuse : ∀ {α : Type} (result : Except Error α),
      r.whenOpen result = .error (.closed r.name) := by
    intro α result
    simp [Roster.whenOpen, hclosed]
  cases request with
  | clear => exact absurd rfl hclear
  | close => exact absurd rfl hclose
  | register i => rw [Roster.serve, Roster.register, hrefuse, Roster.change]
  | deregister id => rw [Roster.serve, Roster.deregister, hrefuse, Roster.change]
  | instances service => rw [Roster.serve, Roster.instancesOf, hrefuse, Reply.ofResult]
  | services => rw [Roster.serve, Roster.services, hrefuse, Reply.ofResult]

theorem serve_register (hopen : r.closed = false) (i : Instance) :
    r.serve (.register i) = (.done, { r with instances := Roster.place i r.instances }) := by
  rw [Roster.serve, Roster.register, whenOpen_of_open hopen, Roster.change]

theorem serve_deregister_held (hopen : r.closed = false) {id : String}
    (hid : id ∈ r.instances.map (·.id)) :
    r.serve (.deregister id) =
      (.done, { r with instances := r.instances.eraseP (·.id = id) }) := by
  have hany : r.instances.any (·.id = id) = true := by simpa using hid
  rw [Roster.serve, Roster.deregister, whenOpen_of_open hopen, if_pos hany, Roster.change]

theorem serve_deregister_absent (hopen : r.closed = false) {id : String}
    (hid : id ∉ r.instances.map (·.id)) :
    r.serve (.deregister id) = (.failed (.notFound id), r) := by
  have hany : ¬r.instances.any (·.id = id) = true := by simpa using hid
  rw [Roster.serve, Roster.deregister, whenOpen_of_open hopen, if_neg hany, Roster.change]

theorem serve_instances (hopen : r.closed = false) (service : String) :
    r.serve (.instances service) =
      (.instances (r.instances.filter (·.service = hyphenate service)), r) := by
  rw [Roster.serve, Roster.instancesOf, whenOpen_of_open hopen, Reply.ofResult]

theorem serve_services (hopen : r.closed = false) :
    r.serve .services =
      (.services ((Tree.Fields.ofList (r.instances.map fun i => (i.service, ()))).map (·.1)),
        r) := by
  rw [Roster.serve, Roster.services, whenOpen_of_open hopen, Reply.ofResult]

end

/-- A roster that holds what a ledger says. -/
structure Keeps (r : Roster) (l : Ledger) : Prop where
  instances : r.instances = l.instances
  ids : r.instances.map (·.id) = l.order
  closed : r.closed = l.closed

theorem keeps_ledger (r : Roster) (hd : (r.instances.map (·.id)).Nodup) : Keeps r (ledger r hd) :=
  ⟨(instances_ledger r hd).symm, rfl, rfl⟩

/-- What one request does to a roster, it does to the ledger. -/
theorem serve_serves {r : Roster} (hd : (r.instances.map (·.id)).Nodup) (request : Request) :
    (r.serve request).2.name = r.name ∧
    ∃ hd' : ((r.serve request).2.instances.map (·.id)).Nodup,
      Serves r.name (ledger r hd) request (r.serve request).1 (ledger (r.serve request).2 hd') := by
  by_cases hclear : request = .clear
  · subst hclear
    exact ⟨rfl, .nil, .cleared rfl rfl⟩
  by_cases hclose : request = .close
  · subst hclose
    exact ⟨rfl, hd, .shut rfl rfl rfl⟩
  cases hclosed : r.closed with
  | true =>
    rw [serve_of_closed hclosed hclear hclose]
    exact ⟨rfl, hd, .refused hclosed hclear hclose⟩
  | false =>
    cases request with
    | clear => exact absurd rfl hclear
    | close => exact absurd rfl hclose
    | register i =>
      rw [serve_register hclosed]
      have hids := map_id_place i r.instances
      have hfind := find?_place i r.instances
      by_cases hid : i.id ∈ r.instances.map (·.id)
      · rw [if_pos hid] at hids
        exact ⟨rfl, hids ▸ hd, .replaced hclosed hid hids hfind hclosed⟩
      · rw [if_neg hid] at hids
        refine ⟨rfl, ?_, .appended hclosed hid hids hfind hclosed⟩
        rw [hids]
        exact List.nodup_append.mpr ⟨hd, List.pairwise_singleton _ _, by simpa using hid⟩
    | deregister id =>
      by_cases hid : id ∈ r.instances.map (·.id)
      · have hids : (r.instances.filter (·.id ≠ id)).map (·.id) =
            (r.instances.map (·.id)).filter (· ≠ id) := by
          rw [List.filter_map]
          rfl
        rw [serve_deregister_held hclosed hid, eraseP_eq_filter hd]
        exact ⟨rfl, hids ▸ hd.sublist List.filter_sublist,
          .removed hclosed hid hids (find?_filter id r.instances) hclosed⟩
      · rw [serve_deregister_absent hclosed hid]
        exact ⟨rfl, hd, .absent hclosed hid⟩
    | instances service =>
      rw [serve_instances hclosed]
      refine ⟨rfl, hd, ?_⟩
      rw [← instances_ledger r hd]
      exact .found hclosed
    | services =>
      rw [serve_services hclosed]
      refine ⟨rfl, hd, .names hclosed ?_ ?_⟩
      · exact List.pairwise_map.mpr (Tree.Fields.ofList_ascending _)
      · rw [instances_ledger]
        exact mem_services r

theorem serveAll_serves {r : Roster} (hd : (r.instances.map (·.id)).Nodup)
    (requests : List Request) :
    (serveAll r requests).2.name = r.name ∧
    ∃ hd' : ((serveAll r requests).2.instances.map (·.id)).Nodup,
      Follows r.name (ledger r hd) requests (serveAll r requests).1
        (ledger (serveAll r requests).2 hd') := by
  induction requests generalizing r with
  | nil => exact ⟨rfl, hd, .nil _⟩
  | cons request requests ih =>
    obtain ⟨hname, hd', hfirst⟩ := serve_serves hd request
    obtain ⟨hname', hd'', hrest⟩ := ih hd'
    rw [hname] at hname' hrest
    exact ⟨hname', hd'', .cons hfirst hrest⟩

theorem serveAll_cons (r : Roster) (request : Request) (requests : List Request) :
    serveAll r (request :: requests) =
      ((r.serve request).1 :: (serveAll (r.serve request).2 requests).1,
        (serveAll (r.serve request).2 requests).2) := rfl

theorem serveAll_append (r : Roster) (requests later : List Request) :
    serveAll r (requests ++ later) =
      ((serveAll r requests).1 ++ (serveAll (serveAll r requests).2 later).1,
        (serveAll (serveAll r requests).2 later).2) := by
  induction requests generalizing r with
  | nil => rfl
  | cons request requests ih => simp only [List.cons_append, serveAll_cons, ih]

/-- What a closed roster replies. -/
def refusal (name : String) : Request → Reply
  | .clear | .close => .done
  | _ => .failed (.closed name)

/-- A closed roster stays closed, and only clearing it still changes what it holds. -/
theorem serveAll_of_closed {r : Roster} (hclosed : r.closed = true) (requests : List Request) :
    serveAll r requests =
      (requests.map (refusal r.name), if .clear ∈ requests then r.clear else r) := by
  induction requests generalizing r with
  | nil => rfl
  | cons request requests ih =>
    by_cases hclear : request = .clear
    · subst hclear
      have hrest : serveAll r.clear requests = (requests.map (refusal r.name), r.clear) := by
        rw [ih (r := r.clear) hclosed]
        simp [Roster.clear]
      rw [serveAll_cons, Roster.serve, hrest]
      simp [refusal]
    by_cases hclose : request = .close
    · subst hclose
      have hsame : r.close = r := by
        rw [Roster.close, ← hclosed]
      rw [serveAll_cons, Roster.serve, hsame, ih hclosed]
      simp [refusal]
    · rw [serveAll_cons, serve_of_closed hclosed hclear hclose, ih hclosed]
      cases request with
      | clear => exact absurd rfl hclear
      | close => exact absurd rfl hclose
      | _ => simp [refusal]

/-- Whatever a roster is asked for, it replies and changes as a map from ids to instances in order
of insertion does. Once it is closed it refuses everything but to be cleared and closed. -/
theorem roster_keeps_ledger (name : String) (requests : List Request) :
    let (replies, r) := serveAll (.named name) requests
    (∃ l, Follows name .empty requests replies l ∧ Keeps r l) ∧
    ∀ later, serveAll (.named name) (requests ++ .close :: later) =
      (replies ++ .done :: later.map (refusal name),
        if .clear ∈ later then r.close.clear else r.close) := by
  obtain ⟨hname, hd, hfollows⟩ := serveAll_serves (r := .named name) .nil requests
  constructor
  · exact ⟨ledger _ hd, hfollows, keeps_ledger _ hd⟩
  · intro later
    have hclosed := serveAll_of_closed (r := (serveAll (.named name) requests).2.close) rfl later
    rw [serveAll_append, serveAll_cons, Roster.serve, hclosed, Roster.close, hname]
    rfl

end Switchboard.Proofs.Registrations
