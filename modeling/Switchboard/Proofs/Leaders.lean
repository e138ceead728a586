import Mathlib.Data.Finset.Lattice.Fold
import Mathlib.Data.List.MinMax
import Mathlib.Data.Prod.Lex
import Mathlib.Order.Lattice.Nat
import Switchboard.Route.Selection

namespace Switchboard.Proofs.Leaders
open Route

section
variable {α β γ : Type} [LinearOrder β] [LinearOrder γ]

/-- The items with the greatest key, in their order. -/
def leaders (key : α → β) (items : List α) : List α :=
  items.filter fun x => ∀ y ∈ items, key y ≤ key x

theorem mem_leaders {key : α → β} {items : List α} {x : α} :
    x ∈ leaders key items ↔ x ∈ items ∧ ∀ y ∈ items, key y ≤ key x := by
  simp [leaders]

theorem leaders_ne_nil (key : α → β) {items : List α} (h : items ≠ []) :
    leaders key items ≠ [] := by
  cases hm : items.argmax key with
  | none => exact absurd (List.argmax_eq_none.mp hm) h
  | some x =>
    have hbest : x ∈ leaders key items :=
      mem_leaders.mpr ⟨List.argmax_mem hm, fun y hy => List.le_of_mem_argmax hy hm⟩
    exact List.ne_nil_of_mem hbest

theorem leaders_ext {key : α → β} {key' : α → γ} {items : List α}
    (h : ∀ x ∈ items, x ∈ leaders key items ↔ x ∈ leaders key' items) :
    leaders key items = leaders key' items := by
  apply List.filter_congr
  intro x hx
  have hlead := h x hx
  simp only [mem_leaders, hx, true_and] at hlead
  exact decide_eq_decide.mpr hlead

/-- Only the comparisons between keys matter. -/
theorem leaders_congr {key : α → β} {key' : α → γ} {items : List α}
    (h : ∀ x ∈ items, ∀ y ∈ items, key y ≤ key x ↔ key' y ≤ key' x) :
    leaders key items = leaders key' items := by
  apply List.filter_congr
  intro x hx
  exact decide_eq_decide.mpr (forall₂_congr fun y hy => h x hx y hy)

theorem leaders_const {key : α → β} {items : List α}
    (h : ∀ x ∈ items, ∀ y ∈ items, key x = key y) : leaders key items = items := by
  apply List.filter_eq_self.mpr
  intro x hx
  exact decide_eq_true fun y hy => (h y hy x hx).le

/-- A single item needs no comparison. -/
theorem leaders_of_length_le_one (key : α → β) {items : List α} (h : items.length ≤ 1) :
    leaders key items = items := by
  apply leaders_const
  match items, h with
  | [], _ => simp
  | [x], _ => simp

/-- The order of the items does not matter. -/
theorem leaders_perm (key : α → β) {items items' : List α} (h : items.Perm items') :
    (leaders key items).Perm (leaders key items') := by
  have hbest : leaders key items' = items'.filter fun x => ∀ y ∈ items, key y ≤ key x := by
    apply List.filter_congr
    intro x _
    simp only [h.mem_iff]
  rw [hbest]
  exact h.filter _

/-- Among fewer items that still include a leader the leaders are the old ones that are left. -/
theorem leaders_subset [DecidableEq α] {key : α → β} {items fewer : List α} (h : fewer ⊆ items)
    {x : α} (hx : x ∈ fewer) (hbest : x ∈ leaders key items) :
    leaders key fewer = fewer.filter (· ∈ leaders key items) := by
  apply List.filter_congr
  intro y hy
  rw [decide_eq_decide, mem_leaders]
  constructor
  · intro hlead
    exact ⟨h hy, fun z hz => ((mem_leaders.mp hbest).2 z hz).trans (hlead x hx)⟩
  · rintro ⟨-, hlead⟩ z hz
    exact hlead z (h hz)

/-- Items that do not lead may be lowered, as long as all that lead keep their keys. -/
theorem leaders_lower {key key' : α → β} {items : List α}
    (hle : ∀ x ∈ items, key' x ≤ key x) (hsame : ∀ x ∈ leaders key items, key' x = key x) :
    leaders key' items = leaders key items := by
  apply List.filter_congr
  intro x hx
  rw [decide_eq_decide]
  constructor
  · intro hlead y hy
    obtain ⟨best, hbest⟩ := List.exists_mem_of_ne_nil _
      (leaders_ne_nil key (List.ne_nil_of_mem hx))
    obtain ⟨hmem, hall⟩ := mem_leaders.mp hbest
    calc key y ≤ key best := hall y hy
      _ = key' best := (hsame best hbest).symm
      _ ≤ key' x := hlead best hmem
      _ ≤ key x := hle x hx
  · intro hlead y hy
    have hx' : key' x = key x := hsame x (mem_leaders.mpr ⟨hx, hlead⟩)
    rw [hx']
    exact (hle y hy).trans (hlead y hy)

/-- A leader that falls to another item which keeps its key, or below, shares or leaves the lead. -/
theorem leaders_ne_of_lowered {key key' : α → β} {items : List α} {x y : α}
    (hx : x ∈ leaders key items) (hy : y ∈ items) (hlow : key' x < key x)
    (hbelow : key' x ≤ key' y) (hsame : key' y = key y) :
    leaders key' items ≠ leaders key items := by
  intro heq
  have hbest : ∀ z ∈ items, key' z ≤ key' x := (mem_leaders.mp (heq ▸ hx)).2
  have hy' : y ∈ leaders key' items :=
    mem_leaders.mpr ⟨hy, fun z hz => (hbest z hz).trans hbelow⟩
  rw [heq, mem_leaders] at hy'
  apply lt_irrefl (key x)
  calc key x ≤ key y := hy'.2 x (mem_leaders.mp hx).1
    _ = key' y := hsame.symm
    _ ≤ key' x := hbest y hy
    _ < key x := hlow

/-- Whether an item leads depends on the item alone, not on where it stands. -/
theorem filter_mem_leaders [DecidableEq α] (key : α → β) (p : α → Bool) (items : List α) :
    items.filter (· ∈ leaders key (items.filter p)) = leaders key (items.filter p) := by
  conv => rhs; rw [leaders, List.filter_filter]
  apply List.filter_congr
  intro x hx
  rw [← Bool.decide_coe (p x), ← Bool.decide_and, decide_eq_decide, mem_leaders]
  simp [hx, and_comm]

/-- Keeping the best by one key and then by another is keeping the best by both, the first of which
counts more. -/
theorem leaders_leaders (f : α → β) (g : α → γ) (items : List α) :
    leaders g (leaders f items) = leaders (fun x => toLex (f x, g x)) items := by
  unfold leaders
  rw [List.filter_filter]
  apply List.filter_congr
  intro x hx
  rw [← Bool.decide_and, decide_eq_decide]
  constructor
  · rintro ⟨hg, hf⟩ y hy
    rw [Prod.Lex.toLex_le_toLex]
    rcases lt_or_eq_of_le (hf y hy) with hlt | heq
    · exact .inl hlt
    · refine .inr ⟨heq, hg y ?_⟩
      have hbest : ∀ z ∈ items, f z ≤ f y := fun z hz => heq ▸ hf z hz
      exact List.mem_filter.mpr ⟨hy, decide_eq_true hbest⟩
  · intro hl
    have hf : ∀ y ∈ items, f y ≤ f x := by
      intro y hy
      rcases Prod.Lex.toLex_le_toLex.mp (hl y hy) with hlt | ⟨heq, -⟩
      · exact hlt.le
      · exact heq.le
    refine ⟨?_, hf⟩
    intro y hy
    obtain ⟨hy, hbest⟩ := List.mem_filter.mp hy
    rcases Prod.Lex.toLex_le_toLex.mp (hl y hy) with hlt | ⟨-, hle⟩
    · exact absurd (of_decide_eq_true hbest x hx) (not_le.mpr hlt)
    · exact hle

omit [LinearOrder β] in
theorem mem_leaders_comp {key : β → γ} {f : α → β} {items : List α} {x : α} :
    x ∈ leaders (fun x => key (f x)) items ↔ x ∈ items ∧ f x ∈ leaders key (items.map f) := by
  simp only [mem_leaders, List.forall_mem_map]
  constructor
  · rintro ⟨hx, hbest⟩
    exact ⟨hx, List.mem_map_of_mem hx, hbest⟩
  · rintro ⟨hx, -, hbest⟩
    exact ⟨hx, hbest⟩

omit [LinearOrder β] in
theorem map_leaders (key : β → γ) (f : α → β) (items : List α) :
    (leaders (fun x => key (f x)) items).map f = leaders key (items.map f) := by
  unfold leaders
  rw [List.filter_map]
  congr 1
  apply List.filter_congr
  intro x hx
  simp

end

/-- Scores compare as pairs do, the first part first. -/
theorem le_iff (a b : Score) : Score.le a b = true ↔ toLex a ≤ toLex b := by
  simp [Score.le, Prod.Lex.toLex_le_toLex]

theorem toLex_max (a b : Score) : toLex (Score.max a b) = max (toLex a) (toLex b) := by
  unfold Score.max
  split
  · rename_i h
    exact (max_eq_right ((le_iff a b).mp h)).symm
  · rename_i h
    rw [le_iff, not_le] at h
    exact (max_eq_left h.le).symm

/-- A running maximum over a list is the supremum of its items. -/
theorem foldl_sup [DecidableEq α] [SemilatticeSup β] [OrderBot β] (f : α → β) (items : List α) :
    items.foldl (fun best x => best ⊔ f x) ⊥ = items.toFinset.sup f := by
  have hfrom : ∀ b, items.foldl (fun best x => best ⊔ f x) b = b ⊔ items.toFinset.sup f := by
    induction items with
    | nil => intro b; simp
    | cons x items ih =>
      intro b
      rw [List.foldl_cons, ih, List.toFinset_cons, Finset.sup_insert, sup_assoc]
  rw [hfrom, bot_sup_eq]

theorem toLex_bestScore [DecidableEq α] (score : α → Score) (items : List α) :
    toLex (bestScore (items.map score)) = items.toFinset.sup fun x => toLex (score x) := by
  unfold bestScore
  rw [← foldl_sup, List.foldl_map]
  refine (List.foldl_hom toLex ?_).symm
  intro best x
  exact (toLex_max best (score x)).symm

theorem keepBest_eq (score : α → Score) (items : List α) :
    keepBest score items = leaders (fun x => toLex (score x)) items := by
  classical
  unfold keepBest leaders
  apply List.filter_congr
  intro x hx
  rw [decide_eq_decide, ← toLex_inj, toLex_bestScore]
  have hle : ∀ y ∈ items, toLex (score y) ≤ items.toFinset.sup fun z => toLex (score z) :=
    fun y hy => Finset.le_sup (f := fun z => toLex (score z)) (List.mem_toFinset.mpr hy)
  constructor
  · intro he y hy
    change toLex (score y) ≤ toLex (score x)
    rw [he]
    exact hle y hy
  · intro hbest
    apply le_antisymm (hle x hx)
    exact Finset.sup_le fun y hy => hbest y (List.mem_toFinset.mp hy)

theorem keepBest_single (key : α → Nat) (items : List α) :
    keepBest (fun x => (key x, 0)) items = leaders key items := by
  rw [keepBest_eq]
  apply leaders_congr
  intro x _ y _
  rw [Prod.Lex.toLex_le_toLex]
  omega

end Switchboard.Proofs.Leaders
