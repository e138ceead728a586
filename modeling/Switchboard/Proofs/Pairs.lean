import Mathlib.Data.List.Chain
import Switchboard.Text.Cutting

namespace Switchboard.Proofs.Pairs
open Text

/-- No two of `sep` stand side by side. -/
def Sparse (sep : Char) (cs : List Char) : Prop :=
  cs.IsChain fun c d => ¬(c = sep ∧ d = sep)

theorem sparse_of_not_mem {sep : Char} {cs : List Char} (h : sep ∉ cs) : Sparse sep cs := by
  induction cs with
  | nil => exact .nil
  | cons c cs ih =>
    rw [List.mem_cons, not_or] at h
    exact List.isChain_cons.mpr ⟨fun _ _ hboth => h.1 hboth.1.symm, ih h.2⟩

theorem sparse_append_iff {sep : Char} {cs ds : List Char} :
    Sparse sep (cs ++ ds) ↔ Sparse sep cs ∧ Sparse sep ds ∧
      ¬(sep ∈ cs.getLast? ∧ sep ∈ ds.head?) := by
  unfold Sparse
  rw [List.isChain_append]
  refine and_congr_right' (and_congr_right' ?_)
  constructor
  · rintro h ⟨hc, hd⟩
    exact h sep hc sep hd ⟨rfl, rfl⟩
  · rintro h _ hc _ hd ⟨rfl, rfl⟩
    exact h ⟨hc, hd⟩

theorem not_sparse_pair {sep : Char} {cs ds : List Char} :
    ¬Sparse sep (cs ++ sep :: sep :: ds) := by
  intro h
  have hpair := (sparse_append_iff.mp h).2.1
  exact (List.isChain_cons_cons.mp hpair).1 ⟨rfl, rfl⟩

theorem cutPair_eq_none_iff {sep : Char} {cs : List Char} :
    cutPair sep cs = none ↔ Sparse sep cs := by
  fun_induction cutPair sep cs with
  | case1 => exact iff_of_true rfl .nil
  | case2 c => exact iff_of_true rfl (.singleton c)
  | case3 c d cs h => simp [Sparse, h]
  | case4 c d cs h ih =>
    rw [Option.map_eq_none_iff, ih, Sparse, Sparse, List.isChain_cons_cons, and_iff_right h]

theorem cutPair_append {sep : Char} {cs : List Char} (h : Sparse sep (cs ++ [sep]))
    (ds : List Char) : cutPair sep (cs ++ sep :: sep :: ds) = some (cs, ds) := by
  induction cs with
  | nil => simp [cutPair]
  | cons c cs ih =>
    obtain ⟨hc, hcs⟩ := List.isChain_cons.mp h
    cases cs with
    | nil =>
      have hne : c ≠ sep := fun he => hc sep rfl ⟨he, rfl⟩
      simp [cutPair, hne]
    | cons d cs =>
      have hne : ¬(c = sep ∧ d = sep) := hc d rfl
      rw [List.cons_append, List.cons_append, cutPair, if_neg hne, ← List.cons_append, ih hcs]
      rfl

theorem of_cutPair {sep : Char} {cs before after : List Char}
    (h : cutPair sep cs = some (before, after)) : cs = before ++ sep :: sep :: after := by
  fun_induction cutPair sep cs generalizing before with
  | case1 => cases h
  | case2 c => cases h
  | case3 c d cs hpair =>
    obtain ⟨rfl, rfl⟩ := Prod.mk.inj (Option.some.inj h)
    rw [hpair.1, hpair.2]
    rfl
  | case4 c d cs _ ih =>
    obtain ⟨⟨l, r⟩, hcut, he⟩ := Option.map_eq_some_iff.mp h
    obtain ⟨rfl, rfl⟩ := Prod.mk.inj he
    rw [ih hcut]
    rfl

/-- Sparse, and `sep` stands at neither end. -/
structure Firm (sep : Char) (cs : List Char) : Prop where
  sparse : Sparse sep cs
  head : sep ∉ cs.head?
  last : sep ∉ cs.getLast?

theorem firm_of_not_mem {sep : Char} {cs : List Char} (h : sep ∉ cs) : Firm sep cs :=
  ⟨sparse_of_not_mem h, fun hc => h (List.mem_of_mem_head? hc),
    fun hc => h (List.mem_of_getLast? hc)⟩

theorem Firm.append {sep : Char} {cs ds : List Char} (hc : Firm sep cs) (hd : Firm sep ds) :
    Firm sep (cs ++ ds) := by
  refine ⟨sparse_append_iff.mpr ⟨hc.sparse, hd.sparse, fun h => hc.last h.1⟩, ?_, ?_⟩
  · intro hmem
    rw [List.head?_append, Option.mem_def, Option.or_eq_some_iff] at hmem
    exact hmem.elim hc.head fun h => hd.head h.2
  · intro hmem
    rw [List.getLast?_append, Option.mem_def, Option.or_eq_some_iff] at hmem
    exact hmem.elim hd.last fun h => hc.last h.2

/-- A single `sep` inside. -/
theorem firm_around {sep : Char} {cs ds : List Char} (hcs : cs ≠ []) (hc : sep ∉ cs) (hds : ds ≠ [])
    (hd : sep ∉ ds) : Firm sep (cs ++ sep :: ds) := by
  have hfirm := firm_of_not_mem hc
  have hfirm' := firm_of_not_mem hd
  have htail : Sparse sep (sep :: ds) :=
    List.isChain_cons.mpr ⟨fun d hmem hboth => hfirm'.head (hboth.2 ▸ hmem), hfirm'.sparse⟩
  refine ⟨sparse_append_iff.mpr ⟨hfirm.sparse, htail, fun h => hfirm.last h.1⟩, ?_, ?_⟩
  · rw [List.head?_append_of_ne_nil _ hcs]
    exact hfirm.head
  · rw [List.getLast?_append_of_ne_nil _ (List.cons_ne_nil sep ds),
      List.getLast?_cons_of_ne_nil hds]
    exact hfirm'.last

theorem Firm.snoc {sep : Char} {cs : List Char} (h : Firm sep cs) : Sparse sep (cs ++ [sep]) :=
  sparse_append_iff.mpr ⟨h.sparse, .singleton sep, fun hboth => h.last hboth.1⟩

theorem Firm.cons {sep : Char} {cs : List Char} (h : Firm sep cs) : Sparse sep (sep :: cs) :=
  List.isChain_cons.mpr ⟨fun _ hmem hboth => h.head (hboth.2 ▸ hmem), h.sparse⟩

/-- Between firm texts a pair stands at one place only. -/
theorem pair_unique {sep : Char} {before after front back : List Char}
    (hb : Firm sep before) (ha : Firm sep after)
    (h : before ++ sep :: sep :: after = front ++ sep :: sep :: back) :
    front = before ∧ back = after := by
  have hb := hb.snoc
  have ha := ha.cons
  rcases List.append_eq_append_iff.mp h with ⟨k, rfl, hk⟩ | ⟨k, rfl, hk⟩
  · cases k with
    | nil => simpa using hk.symm
    | cons c k =>
      have htail : sep :: after = k ++ sep :: sep :: back := (List.cons.inj hk).2
      rw [htail] at ha
      exact absurd ha not_sparse_pair
  · cases k with
    | nil => simpa using hk
    | cons c k =>
      obtain ⟨rfl, htail⟩ : sep = c ∧ sep :: back = k ++ sep :: sep :: after := List.cons.inj hk
      rw [List.append_assoc] at hb
      cases k with
      | nil => exact absurd hb not_sparse_pair
      | cons d k =>
        obtain rfl : sep = d := (List.cons.inj htail).1
        exact absurd hb not_sparse_pair

theorem sparse_intercalate {sep c : Char} (hc : c ≠ sep) {parts : List (List Char)}
    (h : ∀ p ∈ parts, Sparse sep p) : Sparse sep ([c].intercalate parts) := by
  induction parts with
  | nil => exact .nil
  | cons p rest ih =>
    obtain ⟨hp, hrest⟩ := List.forall_mem_cons.mp h
    cases rest with
    | nil => simpa using hp
    | cons q rest =>
      have hone : Sparse sep [c] := .singleton c
      have hlast : sep ∉ (p ++ [c]).getLast? := by simpa using hc
      rw [List.intercalate_cons_cons]
      refine sparse_append_iff.mpr ⟨sparse_append_iff.mpr ⟨hp, hone, ?_⟩, ih hrest, ?_⟩
      · exact fun hboth => hc (by simpa using hboth.2)
      · exact fun hboth => hlast hboth.1

/-- Texts without `sep` that are put together with one `sep` each. -/
theorem firm_intercalate {sep : Char} {parts : List (List Char)}
    (h : ∀ p ∈ parts, p ≠ [] ∧ sep ∉ p) : Firm sep ([sep].intercalate parts) := by
  induction parts with
  | nil => exact firm_of_not_mem List.not_mem_nil
  | cons p rest ih =>
    obtain ⟨⟨hne, hp⟩, hrest⟩ := List.forall_mem_cons.mp h
    cases rest with
    | nil => simpa using firm_of_not_mem hp
    | cons q rest =>
      have htail := ih hrest
      have hnonempty : [sep].intercalate (q :: rest) ≠ [] := by
        intro hnil
        have hq : q <:+: [sep].intercalate (q :: rest) := infix_intercalate List.mem_cons_self
        rw [hnil, List.infix_nil] at hq
        exact (hrest q List.mem_cons_self).1 hq
      have hfirm := firm_of_not_mem hp
      rw [List.intercalate_cons_cons, List.append_assoc, List.singleton_append]
      refine ⟨sparse_append_iff.mpr ⟨hfirm.sparse, htail.cons, fun hboth => hfirm.last hboth.1⟩,
        ?_, ?_⟩
      · rw [List.head?_append_of_ne_nil _ hne]
        exact hfirm.head
      · rw [List.getLast?_append_of_ne_nil _ (List.cons_ne_nil sep _),
          List.getLast?_cons_of_ne_nil hnonempty]
        exact htail.last

end Switchboard.Proofs.Pairs
