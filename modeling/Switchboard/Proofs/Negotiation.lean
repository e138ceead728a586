import Mathlib.Data.Prod.Lex
import Switchboard.Http.Accept
import Switchboard.Text.Cutting

/-!
What an `Accept` header gives to a type. The ranges of a header are put in order, and the last of
the most specific ranges that cover a type decides; so the order in which the header lists them does
not matter.
-/

namespace Switchboard.Proofs.Negotiation
open Http Text

/-- The usable ranges of a header, as it lists them. -/
def listed (header : String) : List (MediaType × Nat) :=
  (split ',' header).filterMap Accept.range?

/-- The place of a range in the order of preference: the quality counts first. -/
def worth (r : MediaType × Nat) : Nat ×ₗ Nat :=
  toLex (r.2, r.1.specificity)

/-- In order of preference. -/
def Falling (ranges : List (MediaType × Nat)) : Prop :=
  ranges.Pairwise fun a b => worth b ≤ worth a

/-- What ranges give to a type, in whatever order they stand: the lowest of the qualities that the
most specific ranges covering it have, and nothing if none covers it. -/
inductive Gives (ranges : List (MediaType × Nat)) (m : MediaType) : Nat → Prop where
  | nothing (h : ∀ r ∈ ranges, r.1.covers m = false) : Gives ranges m 0
  | quality (r : MediaType × Nat) (hr : r ∈ ranges) (hc : r.1.covers m = true)
      (hbest : ∀ s ∈ ranges, s.1.covers m = true → s.1.specificity < r.1.specificity ∨
        (s.1.specificity = r.1.specificity ∧ r.2 ≤ s.2)) : Gives ranges m r.2

theorem Gives.unique {ranges : List (MediaType × Nat)} {m : MediaType} {q q' : Nat}
    (h : Gives ranges m q) (h' : Gives ranges m q') : q = q' := by
  cases h with
  | nothing hnone =>
    cases h' with
    | nothing _ => rfl
    | quality r hr hc _ => exact absurd hc (by simp [hnone r hr])
  | quality r hr hc hbest =>
    cases h' with
    | nothing hnone => exact absurd hc (by simp [hnone r hr])
    | quality s hs hsc hsbest =>
      rcases hbest s hs hsc with hlt | ⟨heq, hle⟩
      · rcases hsbest r hr hc with hlt' | ⟨heq', -⟩
        · exact absurd hlt' (Nat.lt_asymm hlt)
        · exact absurd heq' (Nat.ne_of_gt hlt)
      · rcases hsbest r hr hc with hlt' | ⟨-, hle'⟩
        · exact absurd heq (Nat.ne_of_gt hlt')
        · exact Nat.le_antisymm hle hle'

theorem Gives.perm {ranges ranges' : List (MediaType × Nat)} (hp : ranges.Perm ranges')
    {m : MediaType} {q : Nat} (h : Gives ranges m q) : Gives ranges' m q := by
  cases h with
  | nothing hnone => exact .nothing fun r hr => hnone r (hp.mem_iff.mpr hr)
  | quality r hr hc hbest =>
    exact .quality r (hp.mem_iff.mp hr) hc fun s hs => hbest s (hp.mem_iff.mpr hs)

theorem precedes_iff (a b : MediaType × Nat) :
    Accept.precedes a b = true ↔ worth b ≤ worth a := by
  unfold Accept.precedes worth
  rw [Prod.Lex.toLex_le_toLex, eq_comm (a := b.2)]
  simp

theorem falling_mergeSort (ranges : List (MediaType × Nat)) :
    Falling (ranges.mergeSort Accept.precedes) := by
  have htrans : ∀ a b c, Accept.precedes a b = true → Accept.precedes b c = true →
      Accept.precedes a c = true := by
    intro a b c hab hbc
    rw [precedes_iff] at hab hbc ⊢
    exact hbc.trans hab
  have htotal : ∀ a b, (Accept.precedes a b || Accept.precedes b a) = true := by
    intro a b
    rw [Bool.or_eq_true, precedes_iff, precedes_iff]
    exact le_total (worth b) (worth a)
  exact (List.pairwise_mergeSort htrans htotal ranges).imp fun {a b} h => (precedes_iff a b).mp h

theorem parse_unlisted {header : String} (h : listed header = []) :
    Accept.parse header = Accept.any := by
  unfold listed at h
  rw [Accept.parse, h]

theorem parse_listed {header : String} (h : listed header ≠ []) :
    (Accept.parse header).ranges = (listed header).mergeSort Accept.precedes := by
  unfold listed at h ⊢
  rw [Accept.parse]
  split
  · contradiction
  · rfl

theorem parse_falling (header : String) : Falling (Accept.parse header).ranges := by
  by_cases h : listed header = []
  · rw [parse_unlisted h]
    exact List.pairwise_singleton _ _
  · rw [parse_listed h]
    exact falling_mergeSort _

/-- Sorting loses no range and adds none; without a usable one there is the one that takes
anything. -/
theorem parse_perm (header : String) : (Accept.parse header).ranges.Perm
    (if listed header = [] then [(MediaType.any, 1000)] else listed header) := by
  split
  · next h => rw [parse_unlisted h]; rfl
  · next h => rw [parse_listed h]; exact List.mergeSort_perm _ _

theorem mostSpecific_eq_none {ranges : List (MediaType × Nat)}
    (h : Accept.mostSpecific ranges = none) : ranges = [] := by
  cases ranges with
  | nil => rfl
  | cons first rest =>
    rw [Accept.mostSpecific] at h
    split at h
    · cases h
    · split at h <;> cases h

/-- The range that decides is the last of those that are as specific. -/
theorem of_mostSpecific {ranges : List (MediaType × Nat)} {r : MediaType × Nat}
    (h : Accept.mostSpecific ranges = some r) : ∃ before after, ranges = before ++ r :: after ∧
      (∀ s ∈ before, s.1.specificity ≤ r.1.specificity) ∧
      ∀ s ∈ after, s.1.specificity < r.1.specificity := by
  induction ranges generalizing r with
  | nil => cases h
  | cons first rest ih =>
    rw [Accept.mostSpecific] at h
    cases hbest : Accept.mostSpecific rest with
    | none =>
      rw [hbest] at h
      obtain rfl := Option.some.inj h
      exact ⟨[], rest, rfl, by simp, by simp [mostSpecific_eq_none hbest]⟩
    | some best =>
      obtain ⟨before, after, hrest, hbefore, hafter⟩ := ih hbest
      have hbelow : ∀ s ∈ rest, s.1.specificity ≤ best.1.specificity := by
        intro s hs
        rw [hrest, List.mem_append, List.mem_cons] at hs
        rcases hs with hs | rfl | hs
        · exact hbefore s hs
        · exact Nat.le_refl _
        · exact Nat.le_of_lt (hafter s hs)
      simp only [hbest] at h
      by_cases hlt : best.1.specificity < first.1.specificity
      · rw [if_pos hlt] at h
        obtain rfl := Option.some.inj h
        exact ⟨[], rest, rfl, by simp, fun s hs => Nat.lt_of_le_of_lt (hbelow s hs) hlt⟩
      · rw [if_neg hlt] at h
        obtain rfl := Option.some.inj h
        refine ⟨first :: before, after, by rw [hrest, List.cons_append], ?_, hafter⟩
        exact List.forall_mem_cons.mpr ⟨Nat.not_lt.mp hlt, hbefore⟩

/-- In ranges that fall, the last of the most specific ones has the lowest quality of these. -/
theorem gives_quality {a : Accept} (h : Falling a.ranges) (m : MediaType) :
    Gives a.ranges m (a.quality m) := by
  have hcovering : ∀ r, r ∈ a.ranges.filter (·.1.covers m) ↔
      r ∈ a.ranges ∧ r.1.covers m = true := fun r => List.mem_filter
  unfold Accept.quality
  split
  · next r hr =>
    obtain ⟨before, after, hsplit, hbefore, hafter⟩ := of_mostSpecific hr
    have hfalling : Falling (before ++ r :: after) := hsplit ▸ h.sublist List.filter_sublist
    obtain ⟨hin, hc⟩ := (hcovering r).mp (hsplit ▸ List.mem_append_right _ List.mem_cons_self)
    refine .quality r hin hc ?_
    intro s hs hsc
    have hmem : s ∈ before ++ r :: after := hsplit ▸ (hcovering s).mpr ⟨hs, hsc⟩
    rcases List.mem_append.mp hmem with hs | hs
    · rcases Nat.lt_or_eq_of_le (hbefore s hs) with hlt | heq
      · exact .inl hlt
      · have hle : worth r ≤ worth s := (List.pairwise_append.mp hfalling).2.2 s hs r (by simp)
        rcases Prod.Lex.toLex_le_toLex.mp hle with hlt | ⟨hq, -⟩
        · exact .inr ⟨heq, Nat.le_of_lt hlt⟩
        · exact .inr ⟨heq, Nat.le_of_eq hq⟩
    · rcases List.mem_cons.mp hs with rfl | hs
      · exact .inr ⟨rfl, Nat.le_refl _⟩
      · exact .inl (hafter s hs)
  · next hnone =>
    refine .nothing fun r hr => ?_
    by_contra hc
    have hmem := (hcovering r).mpr ⟨hr, by simpa using hc⟩
    rw [mostSpecific_eq_none hnone] at hmem
    cases hmem

/-- Headers with the same parts, in whatever order, are read as the same ranges. -/
theorem ranges_perm {header header' : String} (h : (split ',' header').Perm (split ',' header)) :
    (Accept.parse header').ranges.Perm (Accept.parse header).ranges := by
  have hlisted : (listed header').Perm (listed header) := h.filterMap Accept.range?
  have hnil : listed header' = [] ↔ listed header = [] := by
    rw [← List.length_eq_zero_iff, hlisted.length_eq, List.length_eq_zero_iff]
  refine (parse_perm header').trans (.trans ?_ (parse_perm header).symm)
  simp only [hnil]
  split
  · rfl
  · exact hlisted

/-- A header gives to a type what its ranges give in whatever order, so the order of its parts does
not matter. What is read of it are the usable ranges in order of preference. -/
theorem quality_negotiated (header : String) :
    (∀ parts, parts.Perm (split ',' header) → ∀ m,
      (Accept.parse (join "," parts)).quality m = (Accept.parse header).quality m) ∧
    (∀ m, Gives (Accept.parse header).ranges m ((Accept.parse header).quality m)) ∧
    (Accept.parse header).ranges.Perm
      (if listed header = [] then [(MediaType.any, 1000)] else listed header) ∧
    (Accept.parse header).ranges ≠ [] ∧ Falling (Accept.parse header).ranges := by
  refine ⟨?_, fun m => gives_quality (parse_falling header) m, parse_perm header, ?_,
    parse_falling header⟩
  · intro parts hparts m
    have hne : parts ≠ [] := fun hnil => split_ne_nil ',' header (hnil ▸ hparts).nil_eq.symm
    have hsplit : split ',' (join "," parts) = parts :=
      split_join hne fun part hpart => not_mem_of_mem_split (hparts.mem_iff.mp hpart)
    have hboth : (split ',' (join "," parts)).Perm (split ',' header) := hsplit.symm ▸ hparts
    exact (gives_quality (parse_falling (join "," parts)) m).unique
      ((gives_quality (parse_falling header) m).perm (ranges_perm hboth).symm)
  · intro hnil
    have hperm := parse_perm header
    rw [hnil] at hperm
    split at hperm
    · exact absurd hperm.nil_eq (by simp)
    · next h => exact h hperm.nil_eq.symm

/-- Anything, and one type twice. -/
def twice : String := "*/*, text/html;q=0.7, text/html;q=0.4"

/-- The lower quality counts, also in a header that begins with it. -/
theorem twice_negotiated :
    [" text/html;q=0.4", "*/*", " text/html;q=0.7"].Perm (split ',' twice) ∧
    (Accept.parse (join "," [" text/html;q=0.4", "*/*", " text/html;q=0.7"])).quality
      MediaType.html = 400 ∧
    (Accept.parse twice).quality MediaType.html = 400 := by
  obtain ⟨horder, hgives, hranges, -, -⟩ := quality_negotiated twice
  have hparts : [" text/html;q=0.4", "*/*", " text/html;q=0.7"].Perm (split ',' twice) := by decide
  have hlisted : listed twice =
      [(MediaType.any, 1000), (MediaType.html, 700), (MediaType.html, 400)] := by decide
  have hquality : (Accept.parse twice).quality MediaType.html = 400 := by
    rw [hlisted, if_neg (List.cons_ne_nil _ _)] at hranges
    exact ((hgives MediaType.html).perm hranges).unique
      (.quality (MediaType.html, 400) (by decide) (by decide) (by decide))
  exact ⟨hparts, (horder _ hparts MediaType.html).trans hquality, hquality⟩

end Switchboard.Proofs.Negotiation
