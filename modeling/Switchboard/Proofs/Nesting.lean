import Switchboard.Proofs.Addresses
import Switchboard.Proofs.FanOut

namespace Switchboard.Proofs.Nesting
open Service Directory FanOut

mutual

/-- The single directories of a backend, from left to right. -/
def leaves : Backend → List Leaf
  | .leaf l => [l]
  | .composite _ parts => leavesOf parts

def leavesOf : List Backend → List Leaf
  | [] => []
  | b :: bs => leaves b ++ leavesOf bs

end

/-- Every composite of a backend follows this policy. -/
inductive Uniform (policy : Policy) : Backend → Prop where
  | leaf (l : Leaf) : Uniform policy (.leaf l)
  | composite {parts : List Backend} (each : ∀ b ∈ parts, Uniform policy b) :
      Uniform policy (.composite policy parts)

@[simp] theorem uniform_leaf (policy : Policy) (l : Leaf) : Uniform policy (.leaf l) :=
  .leaf l

@[simp] theorem uniform_composite_iff {policy own : Policy} {parts : List Backend} :
    Uniform policy (.composite own parts) ↔ own = policy ∧ ∀ b ∈ parts, Uniform policy b := by
  constructor
  · rintro ⟨⟩
    exact ⟨rfl, ‹_›⟩
  · rintro ⟨rfl, each⟩
    exact .composite each

theorem leavesOf_flat (ls : List Leaf) : leavesOf (ls.map .leaf) = ls := by
  induction ls with
  | nil => rfl
  | cons l ls ih =>
    rw [List.map_cons, leavesOf, leaves, ih]
    rfl

section
variable {α : Type} (policy : Policy)

/-- What an answer counts for behind a composite: under the best-effort policy none is as good as an
empty one. -/
def share (answer : Option (List α)) : Option (List α) :=
  match policy with
  | .strict => answer
  | .bestEffort => some (answer.getD [])

/-- Answers put in a row, unless one counts for nothing. -/
def total : List (Option (List α)) → Option (List α)
  | [] => some []
  | a :: as => (share policy a).bind fun items => (total as).map (items ++ ·)

theorem total_singleton (a : Option (List α)) : total policy [a] = share policy a := by
  rw [total, total]
  cases share policy a <;> simp

theorem total_append (as bs : List (Option (List α))) :
    total policy (as ++ bs) =
      (total policy as).bind fun items => (total policy bs).map (items ++ ·) := by
  induction as with
  | nil => cases h : total policy bs <;> simp [total, h]
  | cons a as ih =>
    rw [List.cons_append, total, total, ih]
    cases share policy a <;> cases total policy as <;> cases total policy bs <;> simp

/-- A sum that is an answer itself counts for what it is. -/
theorem share_total (as : List (Option (List α))) :
    share policy (total policy as) = total policy as := by
  cases policy with
  | strict => rfl
  | bestEffort =>
    have hsome : ∃ items, total .bestEffort as = some items := by
      induction as with
      | nil => exact ⟨[], rfl⟩
      | cons a as ih =>
        obtain ⟨items, h⟩ := ih
        exact ⟨a.getD [] ++ items, by simp [total, share, h]⟩
    obtain ⟨items, h⟩ := hsome
    rw [h, share, Option.getD_some]

variable {policy}

theorem total_of_answers {as : List (Option (List α))}
    (h : policy = .bestEffort ∨ ∀ a ∈ as, a ≠ none) :
    total policy as = some (as.filterMap id).flatten := by
  induction as with
  | nil => rfl
  | cons a as ih =>
    rw [total, ih (h.imp_right fun ha b hb => ha b (List.mem_cons_of_mem a hb))]
    cases a with
    | some items => cases policy <;> rfl
    | none =>
      rcases h with rfl | h
      · rfl
      · exact absurd rfl (h none List.mem_cons_self)

theorem total_of_none {as : List (Option (List α))} (h : none ∈ as) : total .strict as = none := by
  induction as with
  | nil => cases h
  | cons a as ih =>
    rw [total]
    rcases List.mem_cons.mp h with rfl | h
    · rfl
    · rw [ih h]
      cases share .strict a <;> rfl

theorem answer?_eq (e : Ending α) : answer? e = e.result.toOption := by
  cases e <;> rfl

theorem answer?_eq_none_iff (e : Ending α) : answer? e = none ↔ ∃ cause, cause? e = some cause := by
  cases e <;> simp [answer?, cause?]

/-- A composite answers with the sum of its parts' answers, whatever their order. -/
theorem total_of_comes {names : List String} {endings : List (Ending α)} {order : List Nat}
    {r : Except Error (List α)} (h : Comes policy names endings order r) :
    r.toOption = total policy (endings.map answer?) := by
  cases h with
  | best hp =>
    rw [total_of_answers (.inl hp), List.filterMap_map]
    rfl
  | all hp ha =>
    have hall : ∀ a ∈ endings.map answer?, a ≠ none := by
      intro a hm
      obtain ⟨e, he, rfl⟩ := List.mem_map.mp hm
      intro hnone
      obtain ⟨cause, hcause⟩ := (answer?_eq_none_iff e).mp hnone
      rw [ha e he] at hcause
      cases hcause
    rw [total_of_answers (.inr hall), List.filterMap_map]
    rfl
  | failed hp before after place e cause name ho hb he hc hn =>
    subst hp
    have hnone : none ∈ endings.map answer? :=
      List.mem_map.mpr ⟨e, List.mem_of_getElem? he, (answer?_eq_none_iff e).mpr ⟨cause, hc⟩⟩
    rw [total_of_none hnone]
    rfl

end

section
variable {α β σ : Type}

/-- A directory whose answer is the same whenever it is asked. -/
def Steady (ask : Leaf → σ → Outcome α × Leaf × σ) (l : Leaf) : Prop :=
  ∀ s t, (ask l s).1.result = (ask l t).1.result

/-- Two outcomes that both fail or bring the same items in the same order. -/
def Alike (o o' : Outcome α) : Prop :=
  o.result.toOption = o'.result.toOption

variable (schedule : Schedule σ) (enter : β → β) (ask : β → Leaf → σ → Outcome α × Leaf × σ)

/-- A composite's answer is the sum of what its parts answer. -/
theorem total_of_composite (question : β) (policy : Policy) (parts : List Backend) (s : σ) :
    (Backend.query schedule enter ask question (.composite policy parts) s).1.result.toOption =
      total policy
        ((Backend.queryAll schedule enter ask (enter question) parts s).1.map
          (·.result.toOption)) := by
  have hcomes := ((query_gathers schedule enter ask question policy parts s).comes _).mp rfl
  rw [total_of_comes hcomes, List.map_map]
  congr 2
  funext o
  exact answer?_eq o.ending

mutual

/-- A part counts for what all its directories count for, however deep they are. `u` stands for any
state, since the answers of the directories do not depend on it. -/
theorem share_query {question : β} (henter : enter question = question) (u : σ)
    (policy : Policy) (b : Backend) (hu : Uniform policy b)
    (hs : ∀ l ∈ leaves b, Steady (ask question) l) (s : σ) :
    share policy (Backend.query schedule enter ask question b s).1.result.toOption =
      total policy ((leaves b).map fun l => (ask question l u).1.result.toOption) := by
  match b, hu with
  | .leaf l, _ =>
    rw [leaves, List.map_singleton, total_singleton, hs l (by simp [leaves]) u s, query_leaf]
  | .composite _ parts, .composite each =>
    rw [total_of_composite, share_total, henter]
    exact total_queryAll henter u _ parts each hs s

theorem total_queryAll {question : β} (henter : enter question = question) (u : σ)
    (policy : Policy) (bs : List Backend) (hu : ∀ b ∈ bs, Uniform policy b)
    (hs : ∀ l ∈ leavesOf bs, Steady (ask question) l) (s : σ) :
    total policy ((Backend.queryAll schedule enter ask question bs s).1.map (·.result.toOption)) =
      total policy ((leavesOf bs).map fun l => (ask question l u).1.result.toOption) := by
  match bs with
  | [] => rfl
  | b :: bs =>
    obtain ⟨hb, hbs⟩ := List.forall_mem_cons.mp hu
    rw [leavesOf, List.forall_mem_append] at hs
    rw [Backend.queryAll, List.map_cons, total, leavesOf, List.map_append, total_append,
      share_query henter u policy b hb hs.1, total_queryAll henter u policy bs hbs hs.2]

end

/-- One composite of all the directories that parts have, with no other composite in it. -/
def flat (policy : Policy) (parts : List Backend) : Backend :=
  .composite policy ((leavesOf parts).map .leaf)

/-- A question that composites pass on unchanged once one of them has taken it in finds the same
whether the composites are nested or not. -/
theorem query_flat {question : β} (henter : enter (enter question) = enter question)
    {policy : Policy} {parts : List Backend} (hu : Uniform policy (.composite policy parts))
    (hs : ∀ l ∈ leavesOf parts, Steady (ask (enter question)) l) (other : Schedule σ) (s t : σ) :
    Alike (Backend.query schedule enter ask question (.composite policy parts) s).1
      (Backend.query other enter ask question (flat policy parts) t).1 := by
  have hnested := total_queryAll schedule enter ask henter s policy parts
    (uniform_composite_iff.mp hu).2 hs s
  have hflat := total_queryAll other enter ask henter s policy ((leavesOf parts).map .leaf)
    (by simp) (by rwa [leavesOf_flat]) t
  rw [leavesOf_flat] at hflat
  rw [Alike, flat, total_of_composite, total_of_composite, hnested, hflat]

end

/-- A wire whose replies to a call do not change. -/
def Constant {σ : Type} (wire : Http.Wire σ) : Prop :=
  ∀ call s t, (wire call s).1 = (wire call t).1

section
variable {σ : Type} {wire : Http.Wire σ} (hw : Constant wire)
include hw

theorem send_constant (method : Http.Method) (address : String) (body : Option Tree) (s t : σ) :
    (Http.send wire method address body s).1 = (Http.send wire method address body t).1 := by
  unfold Http.send
  split
  · rfl
  · next call hcall =>
    have hreply := hw call s t
    cases hs : wire call s with
    | mk reply s' =>
      cases ht : wire call t with
      | mk reply' t' =>
        obtain rfl : reply = reply' := by simpa [hs, ht] using hreply
        cases reply <;> rfl

theorem metadata_steady (m : Metadata) (service : String) (s t : σ) :
    (m.instancesOf wire service s).1 = (m.instancesOf wire service t).1 := by
  have hsend := send_constant hw .get m.url none s t
  unfold Metadata.instancesOf
  split
  · unfold Metadata.localInstance
    cases m.known with
    | some i => rfl
    | none =>
      dsimp only
      rw [hsend]
      cases m.describedBy (Http.send wire .get m.url none t).1 <;> rfl
  · rfl

end

/-- Every directory gives steady answers where the replies from the web do not change. -/
theorem steady_of_constant {σ : Type} {net : Network σ} (hw : Constant net.wire) (l : Leaf) :
    Steady (Leaf.services net) l ∧ ∀ service, Steady (Leaf.instancesOf net service) l := by
  cases l with
  | metadata m =>
    refine ⟨fun s t => rfl, fun service s t => ?_⟩
    have hsame := metadata_steady hw m service s t
    simp only [Leaf.instancesOf, Outcome.overNetwork, Outcome.result, hsame]
  | consul c =>
    have hlist := send_constant hw .get c.servicesUrl none
    refine ⟨fun s t => ?_, fun service s t => ?_⟩
    · simp only [Leaf.services, Consul.services, Outcome.overNetwork, Outcome.result, hlist s t]
    · have hfind := send_constant hw .get (c.healthUrl (hyphenate service)) none s t
      simp only [Leaf.instancesOf, Consul.instancesOf, Outcome.overNetwork, Outcome.result, hfind]
  | _ => exact ⟨fun s t => rfl, fun service s t => rfl⟩

section
variable {σ : Type} (net : Network σ) (other : Schedule σ)

theorem services_schedule :
    Leaf.services { net with schedule := other } = Leaf.services net := by
  funext l s
  cases l <;> simp only [Leaf.services]

theorem instancesOf_schedule (service : String) :
    Leaf.instancesOf { net with schedule := other } service = Leaf.instancesOf net service := by
  funext l s
  cases l <;> simp only [Leaf.instancesOf]

end

/-- Composites of one policy answer alike nested and flat, whatever their directories are as long as
these give steady answers, and in whatever order queries end. For instances the canonical form of
the name has to be canonical itself. -/
theorem nested_answers_flat {σ : Type} (net : Network σ) (other : Schedule σ) {policy : Policy}
    {parts : List Backend} (hu : Uniform policy (.composite policy parts)) (s t : σ) :
    (∀ listed : Leaf → σ → Outcome String × Leaf × σ,
      (∀ l ∈ leavesOf parts, Steady listed l) →
      Alike (Backend.query net.schedule id (fun _ => listed) () (.composite policy parts) s).1
        (Backend.query other id (fun _ => listed) () (flat policy parts) t).1) ∧
    (∀ (found : String → Leaf → σ → Outcome Instance × Leaf × σ) (service : String),
      hyphenate (hyphenate service) = hyphenate service →
      (∀ l ∈ leavesOf parts, Steady (found (hyphenate service)) l) →
      Alike (Backend.query net.schedule hyphenate found service (.composite policy parts) s).1
        (Backend.query other hyphenate found service (flat policy parts) t).1) ∧
    (Constant net.wire →
      Alike (Backend.services net (.composite policy parts) s).1
        (Backend.services { net with schedule := other } (flat policy parts) t).1 ∧
      ∀ service, hyphenate (hyphenate service) = hyphenate service →
        Alike (Backend.instancesOf net service (.composite policy parts) s).1
          (Backend.instancesOf { net with schedule := other } service (flat policy parts)
            t).1) := by
  refine ⟨fun listed hs => query_flat _ id _ rfl hu hs other s t,
    fun found service henter hs => query_flat _ hyphenate found henter hu hs other s t,
    fun hw => ⟨?_, fun service henter => ?_⟩⟩
  · unfold Backend.services
    simp only [services_schedule]
    exact query_flat net.schedule id (fun _ => Leaf.services net) rfl hu
      (fun l _ => (steady_of_constant hw l).1) other s t
  · unfold Backend.instancesOf
    simp only [funext (instancesOf_schedule net other)]
    exact query_flat net.schedule hyphenate (Leaf.instancesOf net) henter hu
      (fun l _ => (steady_of_constant hw l).2 _) other s t

/-- Queries end in the reverse order of the backends, and nothing is known of the web. -/
def backwards : Network Unit where
  lookup _ := .unknown
  wire _ s := (.dropped, s)
  schedule := ⟨fun arrivals s => ((List.range arrivals.length).reverse, s),
    fun _ _ => List.reverse_perm _⟩

/-- A directory of one instance of users. -/
def usersAt (name : String) (i : Instance) : Backend :=
  .leaf (.scripted ⟨name, [i], [i.service], none, none, false, 0⟩)

def user (id : String) : Instance :=
  .ofUrl id "userService" (Addresses.webUrl (.domain "users") 80)

/-- Composites at several depths, one of them without parts and one with a directory that panics. -/
def nested : List Backend :=
  [.composite .bestEffort [usersAt "a" (user "1"), .composite .bestEffort []],
    usersAt "b" (user "2"),
    .composite .bestEffort [.composite .bestEffort [
      .leaf (.scripted ⟨"c", [], [], none, none, true, 0⟩), usersAt "d" (user "3")]]]

theorem nested_users_flat :
    Uniform .bestEffort (.composite .bestEffort nested) ∧ Constant backwards.wire ∧
    hyphenate (hyphenate "userService") = hyphenate "userService" ∧
    (Backend.instancesOf backwards "userService"
        (.composite .bestEffort nested) ()).1.result.toOption =
      some [user "1", user "2", user "3"] ∧
    Alike (Backend.instancesOf backwards "userService" (.composite .bestEffort nested) ()).1
      (Backend.instancesOf { backwards with schedule := .byArrival } "userService"
        (flat .bestEffort nested) ()).1 := by
  have hu : Uniform .bestEffort (.composite .bestEffort nested) := by
    simp [nested, usersAt]
  have hw : Constant backwards.wire := fun _ _ _ => rfl
  have hs : hyphenate (hyphenate "userService") = hyphenate "userService" := by decide +kernel
  exact ⟨hu, hw, hs, by decide +kernel,
    ((nested_answers_flat backwards .byArrival hu () ()).2.2 hw).2 _ hs⟩

end Switchboard.Proofs.Nesting
