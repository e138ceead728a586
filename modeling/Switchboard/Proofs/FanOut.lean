import Mathlib.Data.List.Forall2
import Switchboard.Directory.Backend

namespace Switchboard.Proofs.FanOut
open Service Directory

section
variable {α : Type}

/-- The items of an ending that is an answer. -/
def answer? : Ending α → Option (List α)
  | .answer items => some items
  | .failure _ => none
  | .panic => none

/-- Why an ending is no answer. -/
def cause? : Ending α → Option Error
  | .answer _ => none
  | .failure cause => some cause
  | .panic => some .panicked

/-- The answers of the backends that gave one, in the order of the backends. -/
def answered (endings : List (Ending α)) : List α :=
  (endings.filterMap answer?).flatten

/-- What backends of these names come to when they end in this order of their places. -/
inductive Comes (policy : Policy) (names : List String) (endings : List (Ending α))
    (order : List Nat) : Except Error (List α) → Prop where
  | best (hp : policy = .bestEffort) : Comes policy names endings order (.ok (answered endings))
  | all (hp : policy = .strict) (ha : ∀ e ∈ endings, cause? e = none) :
      Comes policy names endings order (.ok (answered endings))
  | failed (hp : policy = .strict) (before after : List Nat) (place : Nat) (e : Ending α)
      (cause : Error) (name : String) (ho : order = before ++ place :: after)
      (hb : ∀ p ∈ before, ∃ items, endings[p]? = some (.answer items))
      (he : endings[place]? = some e) (hc : cause? e = some cause)
      (hn : names[place]? = some name) :
      Comes policy names endings order (.error (.backend name cause))

/-- The slots while some places are pending. A slot holds the answer of its own backend, if any. -/
structure Filled (endings : List (Ending α)) (slots : List (Option (List α)))
    (pending : List Nat) : Prop where
  length : slots.length = endings.length
  ended : ∀ (p : Nat) e, endings[p]? = some e → p ∉ pending → slots[p]? = some (answer? e)
  failed : ∀ (p : Nat) e, endings[p]? = some e → answer? e = none → slots[p]? = some none

theorem Filled.start {endings : List (Ending α)} {order : List Nat}
    (h : ∀ p < endings.length, p ∈ order) : Filled endings (endings.map fun _ => none) order := by
  refine ⟨by simp, ?_, ?_⟩
  · intro p e he hp
    exact absurd (h p (List.getElem?_eq_some_iff.mp he).1) hp
  · intro p e he _
    rw [List.getElem?_map, he]
    rfl

theorem Filled.answer {endings : List (Ending α)} {slots : List (Option (List α))} {place : Nat}
    {pending : List Nat} {items : List α} (h : Filled endings slots (place :: pending))
    (he : endings[place]? = some (.answer items)) :
    Filled endings (slots.set place (some items)) pending := by
  have hlt : place < slots.length := by
    rw [h.length]
    exact (List.getElem?_eq_some_iff.mp he).1
  refine ⟨by rw [List.length_set, h.length], ?_, ?_⟩
  · intro p e hpe hp
    by_cases hpp : place = p
    · subst p
      obtain rfl := Option.some.inj (he.symm.trans hpe)
      rw [List.getElem?_set_self hlt]
      rfl
    · rw [List.getElem?_set_ne hpp]
      apply h.ended p e hpe
      intro hm
      rcases List.mem_cons.mp hm with hm | hm
      · exact hpp hm.symm
      · exact hp hm
  · intro p e hpe hn
    have hpp : place ≠ p := by
      rintro rfl
      obtain rfl := Option.some.inj (he.symm.trans hpe)
      cases hn
    rw [List.getElem?_set_ne hpp]
    exact h.failed p e hpe hn

/-- A failure leaves its slot empty, so nothing has to be written. -/
theorem Filled.skip {endings : List (Ending α)} {slots : List (Option (List α))} {place : Nat}
    {pending : List Nat} {e : Ending α} (h : Filled endings slots (place :: pending))
    (he : endings[place]? = some e) (hn : answer? e = none) : Filled endings slots pending := by
  refine ⟨h.length, ?_, h.failed⟩
  intro p q hpq hp
  by_cases hpp : p = place
  · subst p
    obtain rfl := Option.some.inj (he.symm.trans hpq)
    rw [hn]
    exact h.failed place e he hn
  · exact h.ended p q hpq (by simp [hpp, hp])

theorem Filled.finish {endings : List (Ending α)} {slots : List (Option (List α))}
    (h : Filled endings slots []) : slots = endings.map answer? := by
  apply List.ext_getElem?
  intro p
  rw [List.getElem?_map]
  cases he : endings[p]? with
  | none =>
    rw [Option.map_none, List.getElem?_eq_none_iff, h.length]
    exact List.getElem?_eq_none_iff.mp he
  | some e => exact h.ended p e he (by simp)

/-- Endings as they arrive, each from the place that it names. -/
def Arrive (endings : List (Ending α)) (arrived : List (Nat × Ending α)) : Prop :=
  ∀ a ∈ arrived, endings[a.1]? = some a.2

/-- Unless a failure decides the query, all slots are filled in the end. -/
theorem collect_filled {policy : Policy} {names : List String} {endings : List (Ending α)}
    {slots : List (Option (List α))} {arrived : List (Nat × Ending α)}
    (hf : Filled endings slots (arrived.map (·.1))) (ha : Arrive endings arrived)
    (hp : policy = .bestEffort ∨ ∀ a ∈ arrived, cause? a.2 = none) :
    collect policy names slots arrived = .ok (answered endings) := by
  induction arrived generalizing slots with
  | nil =>
    unfold collect answered
    rw [hf.finish, List.filterMap_map]
    rfl
  | cons a arrived ih =>
    obtain ⟨place, e⟩ := a
    have he := ha (place, e) (by simp)
    have hrest : Arrive endings arrived := fun b hb => ha b (List.mem_cons_of_mem _ hb)
    have hp' : policy = .bestEffort ∨ ∀ a ∈ arrived, cause? a.2 = none :=
      hp.imp_right fun h b hb => h b (List.mem_cons_of_mem _ hb)
    cases e with
    | answer items => exact ih (hf.answer he) hrest hp'
    | failure cause =>
      rcases hp with rfl | hp
      · exact ih (hf.skip he rfl) hrest hp'
      · cases hp (place, .failure cause) (by simp)
    | panic =>
      rcases hp with rfl | hp
      · exact ih (hf.skip he rfl) hrest hp'
      · cases hp (place, .panic) (by simp)

/-- Under the strict policy the first failure to arrive ends the query, whatever is in the slots. -/
theorem collect_failed {names : List String} {slots : List (Option (List α))}
    {before after : List (Nat × Ending α)} {place : Nat} {e : Ending α} {cause : Error}
    (hb : ∀ a ∈ before, cause? a.2 = none) (hc : cause? e = some cause) :
    collect .strict names slots (before ++ (place, e) :: after) =
      .error (.backend (names[place]?.getD "") cause) := by
  induction before generalizing slots with
  | nil =>
    cases e with
    | answer items => cases hc
    | failure c =>
      obtain rfl := Option.some.inj hc
      rfl
    | panic =>
      obtain rfl := Option.some.inj hc
      rfl
  | cons a before ih =>
    obtain ⟨p, q⟩ := a
    have hq : cause? q = none := hb (p, q) (by simp)
    cases q with
    | answer items => exact ih fun b hm => hb b (List.mem_cons_of_mem _ hm)
    | failure c => cases hq
    | panic => cases hq

/-- The arrivals of a complete order, one for every backend. -/
theorem map_ended {outcomes : List (Outcome α)} {order : List Nat}
    (h : ∀ p ∈ order, p < outcomes.length) : (ended outcomes order).map (·.1) = order := by
  unfold ended
  induction order with
  | nil => rfl
  | cons p order ih =>
    have hlt := h p (by simp)
    rw [List.filterMap_cons, List.getElem?_eq_getElem hlt, Option.map_some, List.map_cons,
      ih fun q hq => h q (List.mem_cons_of_mem _ hq)]

theorem arrive_ended (outcomes : List (Outcome α)) (order : List Nat) :
    Arrive (outcomes.map (·.ending))
      ((ended outcomes order).map fun (place, o) => (place, o.ending)) := by
  intro a ha
  obtain ⟨⟨place, o⟩, hm, rfl⟩ := List.mem_map.mp ha
  obtain ⟨p, _, hp⟩ := List.mem_filterMap.mp hm
  obtain ⟨q, hq, he⟩ := Option.map_eq_some_iff.mp hp
  obtain ⟨rfl, rfl⟩ := Prod.mk.inj he
  simp [hq]

theorem ofResult_result (r : Except Error (List α)) : (Ending.ofResult r).result = r := by
  cases r <;> rfl

/-- Whatever the order, the slots bring the answers back into the order of the backends, and a
failure is reported under the name of its own backend. -/
theorem gather_comes (policy : Policy) {names : List String} {outcomes : List (Outcome α)}
    {order : List Nat} (hn : names.length = outcomes.length)
    (ho : order.Perm (List.range outcomes.length)) :
    Comes policy names (outcomes.map (·.ending)) order
      (gather policy names outcomes order).result := by
  have hmem : ∀ p, p ∈ order ↔ p < outcomes.length := by
    intro p
    rw [ho.mem_iff, List.mem_range]
  have hslots : (outcomes.map fun _ => (none : Option (List α))) =
      (outcomes.map (·.ending)).map fun _ => none := by
    rw [List.map_map]
    rfl
  unfold gather Outcome.result
  rw [ofResult_result, hslots]
  have harrive := arrive_ended outcomes order
  have hplaces : ((ended outcomes order).map fun (place, o) => (place, o.ending)).map (·.1) =
      order := by
    rw [List.map_map]
    exact map_ended fun p hp => (hmem p).mp hp
  generalize (ended outcomes order).map (fun (place, o) => (place, o.ending)) = arrived at *
  have hstart : Filled (outcomes.map (·.ending)) ((outcomes.map (·.ending)).map fun _ => none)
      (arrived.map (·.1)) := by
    rw [hplaces]
    apply Filled.start
    intro p hp
    exact (hmem p).mpr (by simpa using hp)
  cases policy with
  | bestEffort =>
    rw [collect_filled hstart harrive (.inl rfl)]
    exact .best rfl
  | strict =>
    cases hfind : arrived.find? fun a => (cause? a.2).isSome with
    | none =>
      have hnone : ∀ a ∈ arrived, cause? a.2 = none := by
        intro a ha
        simpa using List.find?_eq_none.mp hfind a ha
      rw [collect_filled hstart harrive (.inr hnone)]
      apply Comes.all rfl
      intro e he
      obtain ⟨p, hp⟩ := List.mem_iff_getElem?.mp he
      have hplace : p ∈ arrived.map (·.1) := by
        rw [hplaces, hmem]
        simpa using (List.getElem?_eq_some_iff.mp hp).1
      obtain ⟨a, ha, rfl⟩ := List.mem_map.mp hplace
      obtain rfl := Option.some.inj (hp.symm.trans (harrive a ha))
      exact hnone a ha
    | some a =>
      obtain ⟨hsome, before, after, happ, hbefore⟩ := List.find?_eq_some_iff_append.mp hfind
      obtain ⟨cause, hcause⟩ := Option.isSome_iff_exists.mp hsome
      have hb : ∀ b ∈ before, cause? b.2 = none := fun b hb => by simpa using hbefore b hb
      have ha := harrive a (by simp [happ])
      have hlt : a.1 < names.length := by
        rw [hn]
        simpa using (List.getElem?_eq_some_iff.mp ha).1
      rw [happ, collect_failed hb hcause, List.getElem?_eq_getElem hlt]
      refine .failed rfl (before.map (·.1)) (after.map (·.1)) a.1 a.2 cause _ ?_ ?_ ha hcause
        (List.getElem?_eq_getElem hlt)
      · rw [← hplaces, happ, List.map_append, List.map_cons]
      · intro p hp
        obtain ⟨b, hm, rfl⟩ := List.mem_map.mp hp
        have hat := harrive b (by simp [happ, hm])
        have hans := hb b hm
        cases hq : b.2 with
        | answer items => exact ⟨items, hq ▸ hat⟩
        | failure c =>
          rw [hq] at hans
          cases hans
        | panic =>
          rw [hq] at hans
          cases hans

/-- The first failure of an order is the only one that has answers alone before it. -/
theorem first_failure {endings : List (Ending α)} {before before' after after' : List Nat}
    {place place' : Nat} (h : before ++ place :: after = before' ++ place' :: after')
    (hb : ∀ p ∈ before, ∃ items, endings[p]? = some (.answer items))
    (hb' : ∀ p ∈ before', ∃ items, endings[p]? = some (.answer items))
    (he : ∀ items, endings[place]? ≠ some (.answer items))
    (he' : ∀ items, endings[place']? ≠ some (.answer items)) : place = place' := by
  induction before generalizing before' with
  | nil =>
    cases before' with
    | nil => exact (List.cons.inj h).1
    | cons p before' =>
      obtain ⟨items, hp⟩ := hb' p (by simp)
      rw [← (List.cons.inj h).1] at hp
      exact absurd hp (he items)
  | cons p before ih =>
    cases before' with
    | nil =>
      obtain ⟨items, hp⟩ := hb p (by simp)
      rw [(List.cons.inj h).1] at hp
      exact absurd hp (he' items)
    | cons p' before' =>
      exact ih (List.cons.inj h).2 (fun q hq => hb q (List.mem_cons_of_mem _ hq))
        fun q hq => hb' q (List.mem_cons_of_mem _ hq)

theorem not_answer {endings : List (Ending α)} {place : Nat} {e : Ending α} {cause : Error}
    (he : endings[place]? = some e) (hc : cause? e = some cause) (items : List α) :
    endings[place]? ≠ some (.answer items) := by
  intro h
  obtain rfl := Option.some.inj (he.symm.trans h)
  cases hc

/-- What backends come to is settled by their endings and the order of these. -/
theorem Comes.unique {policy : Policy} {names : List String} {endings : List (Ending α)}
    {order : List Nat} {r r' : Except Error (List α)} (h : Comes policy names endings order r)
    (h' : Comes policy names endings order r') : r = r' := by
  cases h with
  | best hp =>
    cases h' with
    | best => rfl
    | all => rfl
    | failed hp' => cases hp.symm.trans hp'
  | all hp ha =>
    cases h' with
    | best => rfl
    | all => rfl
    | failed _ _ _ _ _ _ _ _ _ he hc =>
      rw [ha _ (List.mem_of_getElem? he)] at hc
      cases hc
  | failed hp before after place e cause name ho hb he hc hn =>
    cases h' with
    | best hp' => cases hp.symm.trans hp'
    | all _ ha =>
      rw [ha _ (List.mem_of_getElem? he)] at hc
      cases hc
    | failed _ before' after' place' e' cause' name' ho' hb' he' hc' hn' =>
      obtain rfl := first_failure (ho.symm.trans ho') hb hb' (not_answer he hc) (not_answer he' hc')
      obtain rfl := Option.some.inj (he.symm.trans he')
      obtain rfl := Option.some.inj (hc.symm.trans hc')
      obtain rfl := Option.some.inj (hn.symm.trans hn')
      rfl

/-- An answer owes nothing to the order. -/
theorem Comes.reorder {policy : Policy} {names : List String} {endings : List (Ending α)}
    {order : List Nat} {items : List α} (h : Comes policy names endings order (.ok items))
    (order' : List Nat) : Comes policy names endings order' (.ok items) := by
  cases h with
  | best hp => exact .best hp
  | all hp ha => exact .all hp ha

end

section
variable {α β σ : Type} (schedule : Schedule σ) (enter : β → β)
  (ask : β → Leaf → σ → Outcome α × Leaf × σ)

theorem describeAll_eq (parts : List Backend) :
    Backend.describeAll parts = parts.map Backend.describe := by
  induction parts with
  | nil => rfl
  | cons b parts ih =>
    rw [Backend.describeAll, ih]
    rfl

/-- Nothing is gathered from a single directory: what it is asked, it answers itself. -/
theorem query_leaf (question : β) (l : Leaf) (s : σ) :
    (Backend.query schedule enter ask question (.leaf l) s).1 = (ask question l s).1 := rfl

/-- One outcome of every part, in their order. -/
theorem queryAll_each (question : β) (parts : List Backend) (s : σ) :
    List.Forall₂ (fun part o => ∃ t, (Backend.query schedule enter ask question part t).1 = o) parts
      (Backend.queryAll schedule enter ask question parts s).1 := by
  induction parts generalizing s with
  | nil => exact .nil
  | cons b parts ih =>
    rw [Backend.queryAll]
    exact .cons ⟨s, rfl⟩ (ih _)

/-- What a composite makes of what its parts were asked. -/
structure Gathers (question : β) (policy : Policy) (parts : List Backend)
    (asked : List (Outcome α) × List Backend × σ) (outcome : Outcome α) : Prop where
  each : List.Forall₂ (fun part o => ∃ t, (Backend.query schedule enter ask question part t).1 = o)
    parts asked.1
  comes : ∀ result, outcome.result = result ↔
    Comes policy (parts.map (·.describe)) (asked.1.map (·.ending))
      (schedule.order (asked.1.map (·.arrival)) asked.2.2).1 result
  steady : ∀ items, outcome.result = .ok items →
    ∀ order, order.Perm (List.range parts.length) →
      (gather policy (parts.map (·.describe)) asked.1 order).result = .ok items

/-- A part that is a single directory contributes what the directory itself answers. -/
theorem Gathers.of_leaf {question : β} {policy : Policy} {parts : List Backend}
    {asked : List (Outcome α) × List Backend × σ} {outcome : Outcome α}
    (h : Gathers schedule enter ask question policy parts asked outcome) {place : Nat} {l : Leaf}
    (hl : parts[place]? = some (.leaf l)) :
    ∃ t, asked.1[place]? = some (ask question l t).1 := by
  obtain ⟨hlength, heach⟩ := List.forall₂_iff_get.mp h.each
  obtain ⟨hpart, hleaf⟩ := List.getElem?_eq_some_iff.mp hl
  have hlt : place < asked.1.length := hlength ▸ hpart
  obtain ⟨t, ht⟩ := heach place hpart hlt
  rw [List.get_eq_getElem, List.get_eq_getElem, hleaf, query_leaf] at ht
  exact ⟨t, by rw [List.getElem?_eq_getElem hlt, ht]⟩

theorem query_gathers (question : β) (policy : Policy) (parts : List Backend) (s : σ) :
    Gathers schedule enter ask (enter question) policy parts
      (Backend.queryAll schedule enter ask (enter question) parts s)
      (Backend.query schedule enter ask question (.composite policy parts) s).1 := by
  have heach := queryAll_each schedule enter ask (enter question) parts s
  rw [Backend.query, describeAll_eq]
  generalize Backend.queryAll schedule enter ask (enter question) parts s = asked at *
  have hlength := heach.length_eq
  have hnames : (parts.map (·.describe)).length = asked.1.length := by
    rw [List.length_map, hlength]
  have hcomplete := schedule.complete (asked.1.map (·.arrival)) asked.2.2
  rw [List.length_map] at hcomplete
  have hcomes := gather_comes policy hnames hcomplete
  refine ⟨heach, ?_, ?_⟩
  · intro result
    constructor
    · rintro rfl
      exact hcomes
    · exact hcomes.unique
  · intro items hok order horder
    rw [hlength] at horder
    rw [hok] at hcomes
    exact (gather_comes policy hnames horder).unique (hcomes.reorder order)

end

/-- Whatever the order in which the queries of its parts end, a composite comes to what its policy
makes of their endings. For instances it passes on the canonical name. -/
theorem composite_gathers {σ : Type} (net : Network σ) (policy : Policy) (parts : List Backend)
    (s : σ) :
    (∀ service, Gathers net.schedule hyphenate (Leaf.instancesOf net) (hyphenate service) policy
      parts (Backend.queryAll net.schedule hyphenate (Leaf.instancesOf net) (hyphenate service)
        parts s)
      (Backend.instancesOf net service (.composite policy parts) s).1) ∧
    Gathers net.schedule id (fun _ => Leaf.services net) () policy parts
      (Backend.queryAll net.schedule id (fun _ => Leaf.services net) () parts s)
      (Backend.services net (.composite policy parts) s).1 := by
  constructor
  · intro service
    exact query_gathers net.schedule hyphenate (Leaf.instancesOf net) service policy parts s
  · exact query_gathers net.schedule id (fun _ => Leaf.services net) () policy parts s

end Switchboard.Proofs.FanOut
