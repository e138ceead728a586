import Switchboard.Proofs.Versions
import Switchboard.Version.Constraint

/-!
The five forms in which a version constraint is written, and that reading takes a text for what it
writes. The forms exclude each other: no version begins with an operator, and none holds a bar or a
pair of dots.
-/

namespace Switchboard.Proofs.Forms
open Text Version Versions Pairs

/-- The constraint that a text without blanks around it writes. -/
inductive Written (s : String) : Constraint → Prop where
  | minimum (t : String) (least : Version) (hs : s = ">=" ++ t)
      (h : Version.parse? t = some least) : Written s (.minimum least)
  | maximum (t : String) (greatest : Version) (hs : s = "<=" ++ t)
      (h : Version.parse? t = some greatest) : Written s (.maximum greatest)
  | range (l r : String) (least greatest : Version) (hs : s = l ++ ".." ++ r)
      (hl : Version.parse? l = some least) (hr : Version.parse? r = some greatest)
      (hle : place least ≤ place greatest) : Written s (.range least greatest)
  | oneOf (tokens : List String) (hbar : '|' ∈ s.toList) (hdots : Sparse '.' s.toList)
      (h : ∀ part ∈ split '|' s, isToken part = true)
      (ht : tokens = (split '|' s).map token) : Written s (.oneOf tokens)
  | exact (t : String) (hdots : Sparse '.' s.toList) (h : isToken s = true) (ht : t = token s) :
      Written s (.exact t)

theorem isToken_iff (s : String) :
    isToken s = true ↔ token s ≠ "" ∧ ∀ c ∈ (token s).toList, isTokenChar c = true := by
  simp [isToken]

/-- What a text consists of, if its token consists of `p`. -/
theorem chars_of_token {p : Char → Prop} {s : String} (h : ∀ c ∈ (token s).toList, p c) :
    ∀ c ∈ s.toList, isBlank c = true ∨ isTokenChar c = true ∨ p c := by
  obtain ⟨front, mark, back, hfront, hmark, hback, hs⟩ := exists_token s
  intro c hc
  rw [hs] at hc
  simp only [List.mem_append] at hc
  rcases hc with ((hc | hc) | hc) | hc
  · exact .inl (hfront c hc)
  · rcases hmark c hc with rfl | rfl
    · exact .inr (.inl (by decide))
    · exact .inr (.inl (by decide))
  · exact .inr (.inr (h c hc))
  · exact .inl (hback c hc)

/-- Characters that stand in no version and in no token. -/
def IsForeign (c : Char) : Prop :=
  isBlank c = false ∧ isTokenChar c = false ∧ c ≠ '+'

instance (c : Char) : Decidable (IsForeign c) :=
  inferInstanceAs (Decidable (_ ∧ _))

theorem foreign_not_mem_token {c : Char} (hc : IsForeign c) {s : String}
    (h : isToken s = true) : c ∉ s.toList := by
  intro hmem
  rcases chars_of_token ((isToken_iff s).mp h).2 c hmem with hb | ht | ht
  · exact absurd (hc.1.symm.trans hb) (by decide)
  · exact absurd (hc.2.1.symm.trans ht) (by decide)
  · exact absurd (hc.2.1.symm.trans ht) (by decide)

theorem foreign_not_mem_version {c : Char} (hc : IsForeign c) {s : String} {v : Version}
    (h : Version.parse? s = some v) : c ∉ s.toList := by
  rw [parse?_eq] at h
  intro hmem
  rcases chars_of_token (numeral_of_number? h) c hmem with hb | ht | hd | hp | hdot
  · exact absurd (hc.1.symm.trans hb) (by decide)
  · exact absurd (hc.2.1.symm.trans ht) (by decide)
  · exact absurd (hc.2.1.symm.trans (isTokenChar_of_isDigit hd)) (by decide)
  · exact hc.2.2 hp
  · rw [hdot] at hc
    exact absurd hc.2.1 (by decide)

theorem after?_eq_none {lead s : String} {c : Char} (hlead : c ∈ lead.toList)
    (h : c ∉ s.toList) : after? lead s = none := by
  rw [Option.eq_none_iff_forall_not_mem]
  intro t ht
  rw [Option.mem_def, after?_eq_some_iff] at ht
  rw [ht, String.toList_append] at h
  exact h (List.mem_append_left _ hlead)

theorem range?_eq_some_iff {l r : String} {c : Constraint} :
    Constraint.range? l r = some c ↔ ∃ least greatest, Version.parse? l = some least ∧
      Version.parse? r = some greatest ∧ place least ≤ place greatest ∧
      c = .range least greatest := by
  unfold Constraint.range?
  constructor
  · intro h
    split at h
    · next least greatest hl hr =>
      obtain ⟨hle, hc⟩ := Option.ite_none_right_eq_some.mp h
      exact ⟨least, greatest, hl, hr, (le_iff least greatest).mp hle, (Option.some.inj hc).symm⟩
    · cases h
  · rintro ⟨least, greatest, hl, hr, hle, rfl⟩
    simp only [hl, hr, (le_iff least greatest).mpr hle, if_true]

theorem oneOf?_eq_some_iff {parts : List String} {c : Constraint} :
    Constraint.oneOf? parts = some c ↔
      (∀ part ∈ parts, isToken part = true) ∧ c = .oneOf (parts.map token) := by
  unfold Constraint.oneOf?
  rw [Option.ite_none_right_eq_some, List.all_eq_true, Option.some.injEq, eq_comm (a := c)]

/-- A foreign character of a list of tokens is the bar between them. -/
theorem foreign_not_mem_tokens {c : Char} (hc : IsForeign c) (hbar : c ≠ '|') {s : String}
    (h : ∀ part ∈ split '|' s, isToken part = true) : c ∉ s.toList := by
  intro hmem
  rcases eq_or_mem_splitOn '|' hmem with heq | ⟨p, hp, hin⟩
  · exact hbar heq
  · have htoken := h (String.ofList p) (List.mem_map_of_mem hp)
    have hnot := foreign_not_mem_token hc htoken
    rw [String.toList_ofList] at hnot
    exact hnot hin

theorem written_of_ofTrimmed? {s : String} {c : Constraint}
    (h : Constraint.ofTrimmed? s = some c) : Written s c := by
  unfold Constraint.ofTrimmed? at h
  split at h
  · next t hs =>
    obtain ⟨least, ht, rfl⟩ := Option.map_eq_some_iff.mp h
    exact .minimum t least (after?_eq_some_iff.mp hs) ht
  · split at h
    · next t hs =>
      obtain ⟨greatest, ht, rfl⟩ := Option.map_eq_some_iff.mp h
      exact .maximum t greatest (after?_eq_some_iff.mp hs) ht
    · split at h
      · next l r hcut =>
        obtain ⟨least, greatest, hl, hr, hle, rfl⟩ := range?_eq_some_iff.mp h
        refine .range _ _ least greatest ?_ hl hr hle
        rw [← String.toList_inj, of_cutPair hcut]
        simp
      · next hcut =>
        have hdots := cutPair_eq_none_iff.mp hcut
        split at h
        · next hbar =>
          obtain ⟨hparts, rfl⟩ := oneOf?_eq_some_iff.mp h
          exact .oneOf _ (List.contains_iff_mem.mp hbar) hdots hparts rfl
        · split at h
          · next htoken =>
            obtain rfl := Option.some.inj h
            exact .exact _ hdots htoken rfl
          · cases h

section
variable {s : String} (hgt : '>' ∉ s.toList) (hlt : '<' ∉ s.toList)
include hgt hlt

theorem no_operator : after? ">=" s = none ∧ after? "<=" s = none :=
  ⟨after?_eq_none (c := '>') (by decide) hgt, after?_eq_none (c := '<') (by decide) hlt⟩

/-- A text without operators is a range if it holds a pair of dots. -/
theorem ofTrimmed?_of_pair {l r : List Char} (h : cutPair '.' s.toList = some (l, r)) :
    Constraint.ofTrimmed? s = Constraint.range? (String.ofList l) (String.ofList r) := by
  obtain ⟨hleast, hgreatest⟩ := no_operator hgt hlt
  simp only [Constraint.ofTrimmed?, hleast, hgreatest, h]

/-- Without such a pair a bar makes it a list, and else it has to be a token. -/
theorem ofTrimmed?_of_sparse (h : Sparse '.' s.toList) :
    Constraint.ofTrimmed? s = if s.toList.contains '|' then Constraint.oneOf? (split '|' s)
      else if isToken s then some (Constraint.exactly s) else none := by
  obtain ⟨hleast, hgreatest⟩ := no_operator hgt hlt
  simp only [Constraint.ofTrimmed?, hleast, hgreatest, cutPair_eq_none_iff.mpr h]

end

theorem Written.ofTrimmed?_eq {s : String} {c : Constraint} (h : Written s c) :
    Constraint.ofTrimmed? s = some c := by
  have hgt : IsForeign '>' := by decide
  have hlt : IsForeign '<' := by decide
  cases h with
  | minimum t least hs ht =>
    have hafter : after? ">=" s = some t := after?_eq_some_iff.mpr hs
    simp only [Constraint.ofTrimmed?, hafter, ht, Option.map_some]
  | maximum t greatest hs ht =>
    have hbefore : after? ">=" s = none := by
      apply after?_eq_none (c := '>') (by decide)
      rw [hs, String.toList_append, List.mem_append, not_or]
      exact ⟨by decide, foreign_not_mem_version hgt ht⟩
    have hafter : after? "<=" s = some t := after?_eq_some_iff.mpr hs
    simp only [Constraint.ofTrimmed?, hbefore, hafter, ht, Option.map_some]
  | range l r least greatest hs hl hr hle =>
    have hsplit : s.toList = l.toList ++ '.' :: '.' :: r.toList := by simp [hs]
    have hno : ∀ c, IsForeign c → c ≠ '.' → c ∉ s.toList := by
      intro c hforeign hdot
      rw [hsplit, List.mem_append, List.mem_cons, List.mem_cons]
      rintro (hin | heq | heq | hin)
      · exact foreign_not_mem_version hforeign hl hin
      · exact hdot heq
      · exact hdot heq
      · exact foreign_not_mem_version hforeign hr hin
    have hcut : cutPair '.' s.toList = some (l.toList, r.toList) := by
      rw [hsplit]
      exact cutPair_append (firm_of_parse? hl).snoc r.toList
    rw [ofTrimmed?_of_pair (hno '>' hgt (by decide)) (hno '<' hlt (by decide)) hcut,
      String.ofList_toList, String.ofList_toList]
    exact range?_eq_some_iff.mpr ⟨least, greatest, hl, hr, hle, rfl⟩
  | oneOf tokens hbar hdots hparts ht =>
    rw [ofTrimmed?_of_sparse (foreign_not_mem_tokens hgt (by decide) hparts)
      (foreign_not_mem_tokens hlt (by decide) hparts) hdots,
      if_pos (List.contains_iff_mem.mpr hbar)]
    exact oneOf?_eq_some_iff.mpr ⟨hparts, ht ▸ rfl⟩
  | exact t hdots htoken ht =>
    have hbar : ¬s.toList.contains '|' = true := by
      rw [List.contains_iff_mem]
      exact foreign_not_mem_token (by decide) htoken
    rw [ofTrimmed?_of_sparse (foreign_not_mem_token hgt htoken) (foreign_not_mem_token hlt htoken)
      hdots, if_neg hbar, if_pos htoken, ht]
    rfl

/-- Reading gives the constraint that the text between the outer blanks writes, and there is none
where it fails. -/
theorem parse?_eq_some_iff {s : String} {c : Constraint} :
    Constraint.parse? s = some c ↔ Written (trim s) c :=
  ⟨written_of_ofTrimmed?, Written.ofTrimmed?_eq⟩

end Switchboard.Proofs.Forms
