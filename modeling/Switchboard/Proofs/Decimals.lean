import Mathlib.Data.List.Basic
import Mathlib.Data.List.Induction
import Switchboard.Number.Integer

namespace Switchboard.Proofs.Decimals
open Number

theorem toList_toString (n : Nat) : (toString n).toList = Nat.toDigits 10 n := by
  rw [Nat.toString_eq_repr, Nat.repr_eq_ofList_toDigits, String.toList_ofList]

theorem isDigit_of_mem {n : Nat} {c : Char} (h : c ∈ (toString n).toList) : c.isDigit = true := by
  rw [toList_toString] at h
  exact Nat.isDigit_of_mem_toDigits (by decide) (by decide) h

theorem ofDigits_eq {cs : List Char} (h : ∀ c ∈ cs, c.isDigit = true) (acc : Nat) :
    ofDigits acc cs = some (Nat.ofDigitChars 10 cs acc) := by
  induction cs generalizing acc with
  | nil => rfl
  | cons c cs ih =>
    obtain ⟨hc, hcs⟩ := List.forall_mem_cons.mp h
    rw [ofDigits, digit?, if_pos hc]
    exact ih hcs _

theorem toString_ne_nil (n : Nat) : (toString n).toList ≠ [] := by
  rw [toList_toString]
  exact Nat.toDigits_ne_nil

theorem natural?_eq {cs : List Char} (hne : cs ≠ []) : natural? cs = ofDigits 0 cs := by
  cases cs with
  | nil => exact absurd rfl hne
  | cons c cs => rfl

theorem natural?_toString (n : Nat) : natural? (toString n).toList = some n := by
  rw [natural?_eq (toString_ne_nil n), ofDigits_eq fun c hc => isDigit_of_mem hc, toList_toString,
    Nat.ofDigitChars_toDigits (by decide) (by decide)]

theorem of_ofDigits {acc n : Nat} {cs : List Char} (h : ofDigits acc cs = some n) :
    ∀ c ∈ cs, c.isDigit = true := by
  induction cs generalizing acc with
  | nil => exact fun _ hc => absurd hc List.not_mem_nil
  | cons c cs ih =>
    rw [ofDigits, digit?] at h
    by_cases hc : c.isDigit = true
    · rw [if_pos hc] at h
      exact List.forall_mem_cons.mpr ⟨hc, ih h⟩
    · rw [if_neg hc] at h
      cases h

theorem of_natural? {n : Nat} {cs : List Char} (h : natural? cs = some n) :
    cs ≠ [] ∧ ∀ c ∈ cs, c.isDigit = true := by
  cases cs with
  | nil => cases h
  | cons c cs => exact ⟨List.cons_ne_nil c cs, of_ofDigits h⟩

/-- A zero that says nothing: other digits follow it. -/
def Padded (cs : List Char) : Prop :=
  ∃ c more, cs = '0' :: c :: more

theorem range_of_isDigit {c : Char} (h : c.isDigit = true) : 48 ≤ c.toNat ∧ c.toNat ≤ 57 :=
  Char.isDigit_iff_toNat.mp h

theorem toDigits_digit {c : Char} (h : c.isDigit = true) :
    Nat.toDigits 10 (c.toNat - 48) = [c] := by
  have hall : ∀ d < 10, Nat.toDigits 10 d = [Char.ofNat (d + 48)] := by decide
  obtain ⟨hleast, hmost⟩ := range_of_isDigit h
  rw [hall _ (by omega), Nat.sub_add_cancel hleast, Char.ofNat_toNat]

/-- Digits that do not begin with a zero are those of their number. -/
theorem toDigits_ofDigitChars {cs : List Char} (hne : cs ≠ []) (h : ∀ c ∈ cs, c.isDigit = true)
    (hzero : '0' ∉ cs.head?) : Nat.toDigits 10 (Nat.ofDigitChars 10 cs 0) = cs := by
  induction cs using List.reverseRecOn with
  | nil => exact absurd rfl hne
  | append_singleton front last ih =>
    obtain ⟨hfront, hlast⟩ := List.forall_mem_append.mp h
    have hlast := hlast last (List.mem_singleton_self last)
    rw [Nat.ofDigitChars_append, Nat.ofDigitChars_cons, Nat.ofDigitChars_nil]
    by_cases hnil : front = []
    · subst hnil
      simpa using toDigits_digit hlast
    · rw [List.head?_append_of_ne_nil _ hnil] at hzero
      have hdigits := ih hnil hfront hzero
      have hpos : 0 < Nat.ofDigitChars 10 front 0 := by
        rw [Nat.pos_iff_ne_zero]
        intro he
        rw [he] at hdigits
        exact hzero (hdigits ▸ rfl)
      have hrange := range_of_isDigit hlast
      have hlow : last.toNat - 48 < 10 := by omega
      have hjoined := Nat.toDigits_append_toDigits (b := 10) (by decide) hpos hlow
      rw [hdigits, toDigits_digit hlast] at hjoined
      exact hjoined.symm

theorem not_padded_toDigits (n : Nat) : ¬Padded (Nat.toDigits 10 n) := by
  induction n using Nat.strongRecOn with
  | ind n ih =>
    rw [Nat.toDigits_eq_if (by decide)]
    rintro ⟨c, more, h⟩
    split at h
    · exact absurd (congrArg List.length h) (by simp)
    · next hn =>
      obtain ⟨d, front, hfront⟩ := List.exists_cons_of_ne_nil (Nat.toDigits_ne_nil (n := n / 10))
      rw [hfront, List.cons_append] at h
      obtain ⟨rfl, -⟩ := List.cons.inj h
      cases front with
      | nil =>
        have hzero := congrArg (Nat.ofDigitChars 10 · 0) hfront
        rw [Nat.ofDigitChars_toDigits (by decide) (by decide)] at hzero
        have hzero : n / 10 = 0 := hzero
        omega
      | cons e front => exact ih (n / 10) (by omega) ⟨e, front, hfront⟩

/-- Digits are those of their number unless a zero pads them. -/
theorem toDigits_ofDigitChars_iff {cs : List Char} (hne : cs ≠ [])
    (h : ∀ c ∈ cs, c.isDigit = true) :
    Nat.toDigits 10 (Nat.ofDigitChars 10 cs 0) = cs ↔ ¬Padded cs := by
  refine ⟨fun he => he ▸ not_padded_toDigits _, fun hp => ?_⟩
  by_cases hzero : '0' ∈ cs.head?
  · obtain ⟨more, rfl⟩ := List.head?_eq_some_iff.mp hzero
    cases more with
    | nil => decide
    | cons c more => exact absurd ⟨c, more, rfl⟩ hp
  · exact toDigits_ofDigitChars hne h hzero

end Switchboard.Proofs.Decimals
