import Mathlib.Algebra.Group.Nat.Defs
import Mathlib.Data.List.Rotate
import Switchboard.Directory.Turns

namespace Switchboard.Proofs.Turns
open Service Directory
open Balancer (Call Turn)

/-- The instances of an answer that may be called: those of which nothing bad is known. -/
def available : Except Error (List Instance) → List Instance
  | .ok instances => instances.filter (·.health ∈ [none, some .up, some .unknown])
  | .error _ => []

/-- What a call comes to after `earlier` calls that succeeded. -/
inductive Picks (earlier : Nat) (call : Call) : Except Error Instance → Prop where
  | failed (cause : Error) (ha : call.answer = .error cause) : Picks earlier call (.error cause)
  | absent (instances : List Instance) (ha : call.answer = .ok instances)
      (hn : available call.answer = []) : Picks earlier call (.error (.notFound call.service))
  | picked (i : Instance)
      (hi : (available call.answer)[earlier % (available call.answer).length]? = some i) :
      Picks earlier call (.ok i)

/-- The instances that calls succeeded with. -/
def picked (turns : List Turn) : List Instance :=
  turns.filterMap (·.result.toOption)

theorem isAvailable_eq (i : Instance) :
    i.isAvailable = decide (i.health ∈ [none, some .up, some .unknown]) := by
  unfold Instance.isAvailable
  cases i.health with
  | none => rfl
  | some h => cases h <;> rfl

theorem filter_isAvailable (instances : List Instance) :
    instances.filter Instance.isAvailable = available (.ok instances) :=
  congrArg (instances.filter ·) (funext isAvailable_eq)

section
variable (call : Call) (taken : UInt64)

/-- Only a call that succeeds is counted. -/
theorem serve_picks : ∃ result,
    Balancer.serve ⟨.roundRobin, taken⟩ call = (⟨call, result⟩,
      ⟨.roundRobin, taken + .ofNat (picked [⟨call, result⟩]).length⟩) ∧
    Picks taken.toNat call result := by
  obtain ⟨service, answer, chance⟩ := call
  unfold Balancer.serve Balancer.resolve
  cases answer with
  | error cause => exact ⟨_, by simp [picked, Except.toOption], .failed cause rfl⟩
  | ok instances =>
    simp only [filter_isAvailable]
    by_cases hn : available (.ok instances) = []
    · rw [hn]
      exact ⟨_, by simp [picked, Except.toOption], .absent instances rfl hn⟩
    · have hlt : taken.toNat % (available (.ok instances)).length <
          (available (.ok instances)).length := Nat.mod_lt _ (List.length_pos_iff.mpr hn)
      refine ⟨_, ?_, .picked _ (List.getElem?_eq_getElem hlt)⟩
      simp [hn, Balancer.pick, List.getElem?_eq_getElem hlt, picked, Except.toOption]

end

theorem length_picked_cons (turn : Turn) (turns : List Turn) :
    (picked (turn :: turns)).length = (picked [turn]).length + (picked turns).length := by
  rw [← List.length_append]
  exact congrArg List.length (List.filterMap_append (l := [turn]))

theorem length_picked_append (turns others : List Turn) :
    (picked (turns ++ others)).length = (picked turns).length + (picked others).length := by
  rw [picked, List.filterMap_append, List.length_append]
  rfl

theorem picked_failed {turn : Turn} {cause : Error} (h : turn.result = .error cause)
    (turns : List Turn) : picked (turn :: turns) = picked turns := by
  simp [picked, h, Except.toOption]

theorem picked_succeeded {turn : Turn} {i : Instance} (h : turn.result = .ok i)
    (turns : List Turn) : picked (turn :: turns) = i :: picked turns := by
  simp [picked, h, Except.toOption]

/-- Calls in a row from a balancer on that has counted `earlier`. -/
theorem serveAll_picks (calls : List Call) (earlier : Nat) :
    let turns := (Balancer.serveAll ⟨.roundRobin, .ofNat earlier⟩ calls).1
    turns.map (·.call) = calls ∧
    ∀ before turn after, turns = before ++ turn :: after →
      earlier + (picked before).length < 2 ^ 64 →
      Picks (earlier + (picked before).length) turn.call turn.result := by
  induction calls generalizing earlier with
  | nil => simp [Balancer.serveAll]
  | cons call calls ih =>
    obtain ⟨result, hserve, hpicks⟩ := serve_picks call (.ofNat earlier)
    rw [← UInt64.ofNat_add] at hserve
    obtain ⟨hcalls, hrest⟩ := ih (earlier + (picked [⟨call, result⟩]).length)
    simp only [Balancer.serveAll, hserve]
    refine ⟨by rw [List.map_cons, hcalls], ?_⟩
    intro before turn after hturns hlt
    cases before with
    | nil =>
      obtain ⟨rfl, -⟩ := List.cons.inj hturns
      have hnow : (UInt64.ofNat earlier).toNat = earlier := UInt64.toNat_ofNat_of_lt' hlt
      rwa [hnow] at hpicks
    | cons first before =>
      obtain ⟨rfl, hrow⟩ := List.cons.inj hturns
      rw [length_picked_cons, ← Nat.add_assoc] at hlt ⊢
      exact hrest before turn after hrow hlt

/-- Places that follow each other among the same instances, the calls that fail left out. -/
theorem picked_round {window : List Turn} {seen : List Instance} {earlier : Nat}
    (hplace : ∀ before turn after i, window = before ++ turn :: after → turn.result = .ok i →
      seen[(earlier + (picked before).length) % seen.length]? = some i)
    {j : Nat} (hj : j < (picked window).length) :
    (picked window)[j]? = seen[(j + earlier) % seen.length]? := by
  induction window generalizing earlier j with
  | nil => cases hj
  | cons turn window ih =>
    have hnext : ∀ before next after i, window = before ++ next :: after → next.result = .ok i →
        seen[(earlier + (picked [turn]).length + (picked before).length) % seen.length]? =
          some i := by
      intro before next after i hw hi
      rw [Nat.add_assoc, ← length_picked_cons]
      exact hplace (turn :: before) next after i (by rw [hw, List.cons_append]) hi
    cases hr : turn.result with
    | error cause =>
      rw [picked_failed hr] at hj ⊢
      rw [picked_failed hr] at hnext
      exact ih hnext hj
    | ok i =>
      rw [picked_succeeded hr] at hj ⊢
      rw [picked_succeeded hr] at hnext
      cases j with
      | zero =>
        rw [List.getElem?_cons_zero, Nat.zero_add]
        exact (hplace [] turn window i rfl hr).symm
      | succ j =>
        rw [List.getElem?_cons_succ, ih hnext (Nat.lt_of_succ_lt_succ hj), Nat.add_right_comm j]
        rfl

/-- A call that finds instances to call picks the one whose place is the number of the calls that
succeeded before, counted around; other calls fail and do not count. So as many calls that succeed
as there are instances pick each of them once, if all of them find the same ones, whatever calls
fail between them. -/
theorem picked_in_turn (calls : List Call) :
    let turns := ((Balancer.of .roundRobin).serveAll calls).1
    turns.map (·.call) = calls ∧
    (∀ before turn after, turns = before ++ turn :: after → (picked before).length < 2 ^ 64 →
      Picks (picked before).length turn.call turn.result) ∧
    ∀ before window after seen, turns = before ++ window ++ after →
      (picked before).length + seen.length ≤ 2 ^ 64 →
      (∀ turn ∈ window, ∀ i, turn.result = .ok i → available turn.call.answer = seen) →
      (picked window).length = seen.length → (picked window).Perm seen := by
  obtain ⟨hcalls, hpicks⟩ := serveAll_picks calls 0
  simp only [Nat.zero_add] at hpicks
  refine ⟨hcalls, hpicks, ?_⟩
  intro before window after seen hturns hbound hsame hlength
  have hplace : ∀ front turn back i, window = front ++ turn :: back → turn.result = .ok i →
      seen[((picked before).length + (picked front).length) % seen.length]? = some i := by
    intro front turn back i hw hi
    -- The call itself succeeds, so the count before it has not wrapped around.
    have hlt : (picked (before ++ front)).length < 2 ^ 64 := by
      rw [hw, length_picked_append, picked_succeeded hi, List.length_cons] at hlength
      rw [length_picked_append]
      omega
    have hmem : turn ∈ window := hw ▸ List.mem_append_right front List.mem_cons_self
    have hpick := hpicks (before ++ front) turn (back ++ after) (hturns.trans (by simp [hw])) hlt
    rw [hi, length_picked_append] at hpick
    cases hpick with
    | picked _ h => rwa [hsame turn hmem i hi] at h
  have hround : picked window = seen.rotate (picked before).length := by
    refine List.ext_getElem? fun j => ?_
    by_cases hj : j < seen.length
    · rw [picked_round hplace (hlength ▸ hj), List.getElem?_rotate hj]
    · rw [List.getElem?_eq_none (by omega), List.getElem?_eq_none (by simpa using hj)]
  rw [hround]
  exact List.rotate_perm seen _

def node (id : String) (health : Option Health) : Instance :=
  { Instance.blank with id, health }

/-- Two instances to call and one that is down; between two such answers the directory fails once,
and once it only lists the one that is down. -/
def calls : List Call :=
  [⟨"api", .ok [node "a" none, node "b" (some .down), node "c" (some .unknown)], 0⟩,
    ⟨"api", .error .panicked, 0⟩, ⟨"api", .ok [node "b" (some .down)], 0⟩,
    ⟨"api", .ok [node "a" none, node "b" (some .down), node "c" (some .unknown)], 0⟩]

theorem both_picked :
    (picked ((Balancer.of .roundRobin).serveAll calls).1).length = 2 ∧
    (picked ((Balancer.of .roundRobin).serveAll calls).1).Perm
      [node "a" none, node "c" (some .unknown)] := by
  have hlength : (picked ((Balancer.of .roundRobin).serveAll calls).1).length = 2 := by decide
  have hsame : ∀ turn ∈ ((Balancer.of .roundRobin).serveAll calls).1,
      turn.result.toOption.isSome = true →
        available turn.call.answer = [node "a" none, node "c" (some .unknown)] := by decide
  refine ⟨hlength, (picked_in_turn calls).2.2 [] _ [] _ (by simp) (by decide) ?_ hlength⟩
  intro turn hturn i hi
  exact hsame turn hturn (by rw [hi]; rfl)

end Switchboard.Proofs.Turns
