import Switchboard.Directory.Closing
import Switchboard.Proofs.Chains
import Switchboard.Proofs.Nesting

namespace Switchboard.Proofs.Closing
open Service Directory FanOut Nesting

/-- The result of closing clients, given who was closed in turn and what each answered. -/
structure Attempts {β : Type} (clients : List β) (calls : List (β × Except Error Unit))
    (result : Except Error Unit) : Prop where
  each : calls.map (·.1) = clients
  clean : result = .ok () ↔ ∀ call ∈ calls, call.2 = .ok ()
  failed : ∀ before client first after, calls = before ++ (client, .error first) :: after →
    (∀ call ∈ before, call.2 = .ok ()) →
    result = .error (.close first (calls.countP (!·.2.isOk)))

section
variable {β σ : Type} (shut : Shut β σ)

/-- Who is closed in turn, and what each answers. -/
def attempts : List β → σ → List (β × Except Error Unit)
  | [], _ => []
  | b :: bs, s => (b, (shut b s).1) :: attempts bs (shut b s).2.2

/-- Why a client could not be closed. -/
def failure? (call : β × Except Error Unit) : Option Error :=
  match call.2 with
  | .ok () => none
  | .error e => some e

theorem map_attempts (bs : List β) (s : σ) : (attempts shut bs s).map (·.1) = bs := by
  induction bs generalizing s with
  | nil => rfl
  | cons b bs ih => rw [attempts, List.map_cons, ih]

theorem failures_closeEach (bs : List β) (s : σ) :
    (closeEach shut bs s).1 = (attempts shut bs s).filterMap failure? := by
  induction bs generalizing s with
  | nil => rfl
  | cons b bs ih =>
    rw [closeEach, attempts, List.filterMap_cons, ← ih]
    cases h : (shut b s).1 <;> simp [h, failure?]

theorem closeEach_noting (bs : List β) (s : σ) (noted : List (β × Except Error Unit)) :
    closeEach (notingShut shut) bs (s, noted) =
      ((closeEach shut bs s).1, (closeEach shut bs s).2.1, (closeEach shut bs s).2.2,
        noted ++ attempts shut bs s) := by
  induction bs generalizing s noted with
  | nil => simp [closeEach, attempts]
  | cons b bs ih =>
    simp only [closeEach, notingShut, ih, attempts, List.append_assoc, List.singleton_append]
    cases (shut b s).1 <;> rfl

theorem failure?_eq_none_iff (call : β × Except Error Unit) :
    failure? call = none ↔ call.2 = .ok () := by
  unfold failure?
  cases call.2 <;> simp

theorem length_failures (calls : List (β × Except Error Unit)) :
    (calls.filterMap failure?).length = calls.countP (!·.2.isOk) := by
  induction calls with
  | nil => rfl
  | cons call calls ih =>
    rw [List.countP_cons, ← ih]
    obtain ⟨b, result⟩ := call
    cases result with
    | ok _ =>
      have hnone : failure? (b, .ok ()) = none := rfl
      rw [List.filterMap_cons_none hnone]
      rfl
    | error e =>
      have hsome : failure? (b, .error e) = some e := rfl
      rw [List.filterMap_cons_some hsome]
      rfl

/-- The failures alone tell how closing ends. -/
theorem attempts_closing {clients : List β} {calls : List (β × Except Error Unit)}
    (h : calls.map (·.1) = clients) :
    Attempts clients calls (Backend.closing (calls.filterMap failure?)) := by
  refine ⟨h, ?_, ?_⟩
  · have hnil : Backend.closing (calls.filterMap failure?) = .ok () ↔
        calls.filterMap failure? = [] := by
      cases calls.filterMap failure? <;> simp [Backend.closing]
    simp only [hnil, List.filterMap_eq_nil_iff, failure?_eq_none_iff]
  · intro before client first after hcalls hbefore
    have hnone : before.filterMap failure? = [] := by
      rw [List.filterMap_eq_nil_iff]
      exact fun call hcall => (failure?_eq_none_iff call).mpr (hbefore call hcall)
    rw [← length_failures]
    simp [hcalls, hnone, failure?, Backend.closing]

theorem closeEach_attempts (bs : List β) (s : σ) :
    Attempts bs (attempts shut bs s) (Backend.closing (closeEach shut bs s).1) := by
  rw [failures_closeEach]
  exact attempts_closing (map_attempts shut bs s)

end

/-- Closing the parts of a composite is closing clients one after another. -/
theorem closeEach_shut (bs : List Backend) (s : Unit) :
    closeEach Backend.shut bs s = ((Backend.closeAll bs).1, (Backend.closeAll bs).2, s) := by
  induction bs with
  | nil => rfl
  | cons b bs ih =>
    simp only [closeEach, Backend.shut, ih, Backend.closeAll]
    cases b.close.1 <;> rfl

theorem attempts_shut (bs : List Backend) (s : Unit) :
    attempts Backend.shut bs s = bs.map fun b => (b, b.close.1) := by
  induction bs with
  | nil => rfl
  | cons b bs ih =>
    rw [attempts, ih]
    rfl

theorem closeAll_after (bs : List Backend) : (Backend.closeAll bs).2 = bs.map (·.close.2) := by
  induction bs with
  | nil => rfl
  | cons b bs ih =>
    rw [List.map_cons, ← ih]
    simp only [Backend.closeAll]
    cases b.close.1 <;> rfl

mutual

/-- Every single directory is closed, at whatever depth it stands. -/
theorem leaves_close (b : Backend) : leaves b.close.2 = (leaves b).map (·.close.2) := by
  match b with
  | .leaf l => rfl
  | .composite policy parts =>
    rw [Backend.close, leaves, leaves]
    exact leavesOf_closeAll parts

theorem leavesOf_closeAll (bs : List Backend) :
    leavesOf (Backend.closeAll bs).2 = (leavesOf bs).map (·.close.2) := by
  match bs with
  | [] => rfl
  | b :: bs =>
    rw [closeAll_after, List.map_cons, leavesOf, leavesOf, List.map_append, leaves_close b,
      ← closeAll_after, leavesOf_closeAll bs]

end

theorem closed_of_close {l : Leaf} {r : Roster} (h : l.close.2 = .roster r) : r.closed = true := by
  cases l with
  | roster r' =>
    obtain rfl := Leaf.roster.inj h
    rfl
  | _ => cases h

/-- What closing a composite comes to, and what becomes of its parts. -/
structure ClosesAll (parts : List Backend) (result : Except Error Unit) (after : List Backend) :
    Prop where
  attempts : Attempts parts (parts.map fun b => (b, b.close.1)) result
  each : after = parts.map (·.close.2)
  closed : ∀ r, .roster r ∈ leavesOf after → r.closed = true

theorem closesAll (policy : Policy) (parts : List Backend) :
    ClosesAll parts (Backend.close (.composite policy parts)).1 (Backend.closeAll parts).2 := by
  have hattempts := closeEach_attempts Backend.shut parts ()
  rw [closeEach_shut, attempts_shut] at hattempts
  refine ⟨hattempts, closeAll_after parts, ?_⟩
  intro r hr
  rw [leavesOf_closeAll] at hr
  obtain ⟨l, -, hl⟩ := List.mem_map.mp hr
  exact closed_of_close hl

/-- Under the strict policy one part that never answers is enough. -/
theorem strict_fails {α β σ : Type} (schedule : Schedule σ) (enter : β → β)
    (ask : β → Leaf → σ → Outcome α × Leaf × σ) (question : β) {parts : List Backend} {b : Backend}
    (hb : b ∈ parts)
    (hfails : ∀ t, cause? (Backend.query schedule enter ask (enter question) b t).1.ending ≠ none)
    (s : σ) : ∃ name cause,
      (Backend.query schedule enter ask question (.composite .strict parts) s).1.result =
        .error (.backend name cause) := by
  have hgathers := query_gathers schedule enter ask question .strict parts s
  have hcomes := (hgathers.comes _).mp rfl
  generalize (Backend.query schedule enter ask question (.composite .strict parts) s).1.result =
    result at hcomes
  cases hcomes with
  | best hp => cases hp
  | all _ hall =>
    obtain ⟨o, ho, t, rfl⟩ := Chains.exists_of_mem_right hgathers.each.flip hb
    exact absurd (hall _ (List.mem_map_of_mem ho)) (hfails t)
  | failed _ before after place e cause name => exact ⟨name, cause, rfl⟩

theorem closed_fails {σ : Type} (net : Network σ) (service : String) {r : Roster}
    (h : r.closed = true) (s : σ) :
    cause? (Backend.query net.schedule hyphenate (Leaf.instancesOf net) service
      (.leaf (.roster r)) s).1.ending = some (.closed r.name) := by
  simp [Backend.query, Leaf.instancesOf, Roster.instancesOf, Roster.whenOpen, h, Outcome.now,
    Ending.ofResult, cause?]

/-- Closing several clients closes each once and in turn, and counts those that fail. A composite
closes its parts in this way: no roster among them stays open, and wherever one of them is asked
under the strict policy, the query fails. -/
theorem close_attempts_all {β σ τ : Type} (shut : Shut β σ) (clients : List β) (s : σ)
    (policy : Policy) (parts : List Backend) (net : Network τ) :
    (∃ calls,
      closeEach (notingShut shut) clients (s, []) =
        ((closeEach shut clients s).1, (closeEach shut clients s).2.1,
          (closeEach shut clients s).2.2, calls) ∧
      Attempts clients calls (Backend.closing (closeEach shut clients s).1)) ∧
    (Backend.close (.composite policy parts)).1 =
      Backend.closing (closeEach Backend.shut parts ()).1 ∧
    ∃ after, (Backend.close (.composite policy parts)).2 = .composite policy after ∧
      ClosesAll parts (Backend.close (.composite policy parts)).1 after ∧
      ∀ r, .roster r ∈ leavesOf after → ∀ asked, .leaf (.roster r) ∈ asked →
        ∀ service t, ∃ name cause,
          (Backend.instancesOf net service (.composite .strict asked) t).1.result =
            .error (.backend name cause) := by
  refine ⟨⟨attempts shut clients s, closeEach_noting shut clients s [],
    closeEach_attempts shut clients s⟩, ?_, (Backend.closeAll parts).2, rfl,
    closesAll policy parts, ?_⟩
  · rw [closeEach_shut]
    rfl
  · intro r hr asked hmem service t
    apply strict_fails _ _ _ _ hmem
    intro t'
    rw [closed_fails net _ ((closesAll policy parts).closed r hr)]
    exact Option.some_ne_none _

/-- A directory that cannot be closed. -/
def refusing (name : String) : Backend :=
  .leaf (.scripted ⟨name, [], [], none, some name, false, 0⟩)

/-- Two parts that cannot be closed, one of them for what stands inside it beside a roster. -/
def stubborn : List Backend :=
  [.leaf (.roster (.named "a")), refusing "b",
    .composite .bestEffort [refusing "c", .leaf (.roster (.named "d")), refusing "e"]]

theorem stubborn_closed :
    (Backend.close (.composite .bestEffort stubborn)).1 = .error (.close (.failed "b") 2) ∧
    ∃ name cause, (Backend.instancesOf backwards "userService"
      (.composite .strict [usersAt "f" (user "1"), .leaf (.roster (Roster.named "d").close)])
        ()).1.result = .error (.backend name cause) := by
  obtain ⟨-, -, after, -, hcloses, hfails⟩ :=
    close_attempts_all Backend.shut stubborn () .bestEffort stubborn backwards
  have hmem : .roster (Roster.named "d").close ∈ leavesOf after := by
    rw [hcloses.each]
    simp [stubborn, refusing, leavesOf, leaves, Backend.close, Backend.closeAll, Leaf.close]
  exact ⟨hcloses.attempts.failed [_] (refusing "b") _ [_] rfl (by simp [Backend.close, Leaf.close]),
    hfails _ hmem _ (by simp) "userService" ()⟩

end Switchboard.Proofs.Closing
