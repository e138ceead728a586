import Mathlib.Order.Interval.Set.Defs
import Switchboard.Proofs.Versions
import Switchboard.Version.Constraint

/-!
Constraints with bounds. They accept the versions of an interval, but what they read is the token of
the text a request carries, and a token that is no version as it stands may hold one once a second
mark is dropped.
-/

namespace Switchboard.Proofs.Bounds
open Version Versions

/-- The versions between the bounds of a constraint, if it is one with bounds. -/
def interval : Constraint → Option (Set (Nat ×ₗ Nat))
  | .minimum least => some (Set.Ici (place least))
  | .maximum greatest => some (Set.Iic (place greatest))
  | .range least greatest => some (Set.Icc (place least) (place greatest))
  | .exact _ => none
  | .oneOf _ => none

/-- A text that is a version of a set. -/
def LiesIn (bounds : Set (Nat ×ₗ Nat)) (s : String) : Prop :=
  ∃ v, Version.parse? s = some v ∧ place v ∈ bounds

theorem numberSatisfies_iff {p : Version → Bool} {bounds : Set (Nat ×ₗ Nat)}
    (h : ∀ v, p v = true ↔ place v ∈ bounds) (t : String) :
    Constraint.numberSatisfies p t = true ↔ LiesIn bounds t := by
  unfold Constraint.numberSatisfies LiesIn
  cases hv : Version.parse? t with
  | none => simp
  | some v => simp [h]

variable {c : Constraint} {bounds : Set (Nat ×ₗ Nat)} {s : String}

/-- It is the token that has to lie between the bounds. -/
theorem accepts_iff_token (h : interval c = some bounds) (s : String) :
    c.accepts (some s) = true ↔ LiesIn bounds (token s) := by
  cases c with
  | exact t => cases h
  | oneOf ts => cases h
  | minimum least =>
    obtain rfl := Option.some.inj h
    change Constraint.numberSatisfies (fun v => least.le v) (token s) = true ↔ _
    refine numberSatisfies_iff (fun v => ?_) _
    rw [le_iff, Set.mem_Ici]
  | maximum greatest =>
    obtain rfl := Option.some.inj h
    change Constraint.numberSatisfies (fun v => v.le greatest) (token s) = true ↔ _
    refine numberSatisfies_iff (fun v => ?_) _
    rw [le_iff, Set.mem_Iic]
  | range least greatest =>
    obtain rfl := Option.some.inj h
    change Constraint.numberSatisfies (fun v => least.le v && v.le greatest) (token s) = true ↔ _
    refine numberSatisfies_iff (fun v => ?_) _
    rw [Bool.and_eq_true, le_iff, le_iff, Set.mem_Icc]

theorem LiesIn.token (h : LiesIn bounds s) : Bare (token s) ∧ LiesIn bounds (token s) := by
  obtain ⟨v, hv, hin⟩ := h
  obtain ⟨hbare, hagain⟩ := parse?_token hv
  exact ⟨hbare, v, hagain, hin⟩

/-- What is a version between the bounds is accepted. What is accepted is such a version, unless its
token begins with a mark or a blank of its own and is one after the token is taken again. -/
theorem accepts_iff_liesIn (h : interval c = some bounds) (s : String) :
    (c.accepts (some s) = true ↔ LiesIn bounds (token s)) ∧
    (LiesIn bounds s → c.accepts (some s) = true) ∧
    ((c.accepts (some s) = true ↔ LiesIn bounds s) ↔
      (LiesIn bounds (token s) → Bare (token s))) := by
  have htoken := accepts_iff_token h s
  refine ⟨htoken, fun hin => htoken.mpr hin.token.2, ?_⟩
  rw [htoken]
  constructor
  · intro hsame hin
    exact (hsame.mp hin).token.1
  · intro hbare
    refine ⟨fun hin => ?_, fun hin => hin.token.2⟩
    obtain ⟨v, hv, hbounds⟩ := hin
    rw [parse?_token_of_bare (hbare ⟨v, hv, hbounds⟩)] at hv
    exact ⟨v, hv, hbounds⟩

/-- Blanks and one mark around a version between the bounds do no harm. -/
theorem marked_version_accepted :
    interval (.range ⟨1, 0⟩ ⟨2, 0⟩) = some (Set.Icc (place ⟨1, 0⟩) (place ⟨2, 0⟩)) ∧
    LiesIn (Set.Icc (place ⟨1, 0⟩) (place ⟨2, 0⟩)) " v1.5 " ∧
    (Constraint.range ⟨1, 0⟩ ⟨2, 0⟩).accepts (some " v1.5 ") = true := by
  have hinterval : interval (.range ⟨1, 0⟩ ⟨2, 0⟩) =
      some (Set.Icc (place ⟨1, 0⟩) (place ⟨2, 0⟩)) := rfl
  have hin : LiesIn (Set.Icc (place ⟨1, 0⟩) (place ⟨2, 0⟩)) " v1.5 " :=
    ⟨⟨1, 5⟩, by decide, (le_iff ⟨1, 0⟩ ⟨1, 5⟩).mp rfl, (le_iff ⟨1, 5⟩ ⟨2, 0⟩).mp rfl⟩
  exact ⟨hinterval, hin, (accepts_iff_liesIn hinterval " v1.5 ").2.1 hin⟩

/-- A second mark makes a text no version, and it is accepted all the same. -/
theorem second_mark_accepted :
    interval (.minimum ⟨1, 0⟩) = some (Set.Ici (place ⟨1, 0⟩)) ∧
    Version.parse "vv1" = .error (.badFormat "vv1") ∧
    ¬LiesIn (Set.Ici (place ⟨1, 0⟩)) "vv1" ∧
    (Constraint.minimum ⟨1, 0⟩).accepts (some "vv1") = true := by
  refine ⟨rfl, by decide, ?_, by decide⟩
  rintro ⟨v, hv, -⟩
  have hnone : Version.parse? "vv1" = none := by decide
  rw [hnone] at hv
  cases hv

end Switchboard.Proofs.Bounds
