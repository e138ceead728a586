import Mathlib.Data.Prod.Lex
import Switchboard.Proofs.Decimals
import Switchboard.Proofs.Pairs
import Switchboard.Version.Basic

namespace Switchboard.Proofs.Versions
open Text Number Version Pairs

/-- The place of a version in their order: the major number counts first. -/
def place (v : Version) : Nat ×ₗ Nat :=
  toLex (v.major, v.minor)

theorem le_iff (a b : Version) : a.le b = true ↔ place a ≤ place b := by
  unfold Version.le place
  rw [Prod.Lex.toLex_le_toLex]
  simp

theorem natCast_le_iff (n : Nat) : (n : Int) ≤ Int.pow 2 32 - 1 ↔ n < 0x100000000 := by
  have hpow : Int.pow 2 32 = 4294967296 := rfl
  omega

/-- An unsigned integer is written in digits, perhaps after a plus. -/
theorem of_uint32? {n : Nat} {cs : List Char} (h : uint32? cs = some n) :
    cs ≠ [] ∧ (∀ c ∈ cs, c.isDigit = true ∨ c = '+') ∧ n < 0x100000000 := by
  obtain ⟨i, hi, rfl⟩ := Option.map_eq_some_iff.mp h
  obtain ⟨hvalue, hrange⟩ := Option.filter_eq_some_iff.mp hi
  obtain ⟨hnonneg, hmost⟩ := Bool.and_eq_true_iff.mp hrange
  have hbound : i.toNat < 0x100000000 := by
    rw [← natCast_le_iff, Int.toNat_of_nonneg (of_decide_eq_true hnonneg)]
    exact of_decide_eq_true hmost
  split at hvalue
  · obtain ⟨m, hm, -⟩ := Option.map_eq_some_iff.mp hvalue
    refine ⟨List.cons_ne_nil _ _, List.forall_mem_cons.mpr ⟨.inr rfl, ?_⟩, hbound⟩
    exact fun c hc => .inl ((Decimals.of_natural? hm).2 c hc)
  · cases hvalue
  · obtain ⟨m, hm, -⟩ := Option.map_eq_some_iff.mp hvalue
    exact ⟨(Decimals.of_natural? hm).1, fun c hc => .inl ((Decimals.of_natural? hm).2 c hc), hbound⟩

theorem uint32?_toString {n : Nat} (h : n < 0x100000000) :
    uint32? (toString n).toList = some n := by
  have hdigits := fun c hc => Decimals.isDigit_of_mem (n := n) (c := c) hc
  unfold uint32? integer?
  split
  · next heq => exact absurd (hdigits '+' (heq ▸ List.mem_cons_self)) (by decide)
  · next heq => exact absurd (hdigits '-' (heq ▸ List.mem_cons_self)) (by decide)
  · rw [Decimals.natural?_toString]
    have hrange : (decide ((0 : Int) ≤ n) && decide ((n : Int) ≤ Int.pow 2 32 - 1)) = true := by
      rw [Bool.and_eq_true, decide_eq_true_iff, decide_eq_true_iff]
      exact ⟨Int.natCast_nonneg n, (natCast_le_iff n).mpr h⟩
    exact Option.map_eq_some_iff.mpr
      ⟨n, Option.filter_eq_some_iff.mpr ⟨rfl, hrange⟩, Int.toNat_natCast n⟩

theorem dot_not_mem {n : Nat} {cs : List Char} (h : uint32? cs = some n) : '.' ∉ cs := by
  intro hmem
  rcases (of_uint32? h).2.1 '.' hmem with hdigit | hplus
  · exact absurd hdigit (by decide)
  · exact absurd hplus (by decide)

/-- A version number is its major number, or both numbers around a dot. -/
theorem number?_eq_some_iff {cs : List Char} {v : Version} :
    number? cs = some v ↔
      (∃ major minor, cs = major ++ '.' :: minor ∧ uint32? major = some v.major ∧
        uint32? minor = some v.minor) ∨
      (uint32? cs = some v.major ∧ v.minor = 0) := by
  unfold number?
  constructor
  · intro h
    split at h
    · next major minor hcut =>
      split at h
      · next a b ha hb =>
        obtain rfl := Option.some.inj h
        exact .inl ⟨major, minor, (cutChars_eq_some_iff.mp hcut).1, ha, hb⟩
      · cases h
    · obtain ⟨a, ha, rfl⟩ := Option.map_eq_some_iff.mp h
      exact .inr ⟨ha, rfl⟩
  · rintro (⟨major, minor, rfl, ha, hb⟩ | ⟨ha, hb⟩)
    · have hcut : cutChars '.' (major ++ '.' :: minor) = some (major, minor) :=
        cutChars_eq_some_iff.mpr ⟨rfl, dot_not_mem ha⟩
      simp only [hcut, ha, hb]
    · have hcut : cutChars '.' cs = none := cutChars_eq_none_iff.mpr (dot_not_mem ha)
      simp only [hcut, ha, Option.map_some, ← hb]

/-- The characters of version numbers. -/
def IsNumeral (c : Char) : Prop :=
  c.isDigit = true ∨ c = '+' ∨ c = '.'

theorem numeral_of_uint32? {n : Nat} {cs : List Char} (h : uint32? cs = some n) :
    ∀ c ∈ cs, IsNumeral c :=
  fun c hc => ((of_uint32? h).2.1 c hc).imp_right .inl

theorem numeral_of_number? {cs : List Char} {v : Version} (h : number? cs = some v) :
    ∀ c ∈ cs, IsNumeral c := by
  rcases number?_eq_some_iff.mp h with ⟨major, minor, rfl, ha, hb⟩ | ⟨ha, -⟩
  · intro c hc
    rcases List.mem_append.mp hc with hc | hc
    · exact numeral_of_uint32? ha c hc
    · rcases List.mem_cons.mp hc with rfl | hc
      · exact .inr (.inr rfl)
      · exact numeral_of_uint32? hb c hc
  · exact numeral_of_uint32? ha

/-- The dot of a version number stands inside. -/
theorem firm_of_number? {cs : List Char} {v : Version} (h : number? cs = some v) :
    Firm '.' cs := by
  rcases number?_eq_some_iff.mp h with ⟨major, minor, rfl, ha, hb⟩ | ⟨ha, -⟩
  · exact firm_around (of_uint32? ha).1 (dot_not_mem ha) (of_uint32? hb).1 (dot_not_mem hb)
  · exact firm_of_not_mem (dot_not_mem ha)

theorem isTokenChar_of_isDigit {c : Char} (h : c.isDigit = true) : isTokenChar c = true := by
  simp [isTokenChar, Char.isAlphanum, h]

theorem isBlank_of_isTokenChar {c : Char} (h : isTokenChar c = true) : isBlank c = false := by
  simp only [isTokenChar, Bool.or_eq_true, decide_eq_true_eq] at h
  rcases h with ((h | rfl) | rfl) | rfl
  · exact isBlank_of_isAlphanum h
  · decide
  · decide
  · decide

/-- Neither a blank nor a mark. -/
def IsPlain (c : Char) : Prop :=
  isBlank c = false ∧ c ≠ 'v' ∧ c ≠ 'V'

theorem IsNumeral.isPlain {c : Char} (h : IsNumeral c) : IsPlain c := by
  rcases h with h | rfl | rfl
  · refine ⟨isBlank_of_isTokenChar (isTokenChar_of_isDigit h), ?_, ?_⟩ <;> rintro rfl <;> cases h
  · exact ⟨by decide, by decide, by decide⟩
  · exact ⟨by decide, by decide, by decide⟩

/-- A text that begins with neither a blank nor a mark. -/
def Bare (t : String) : Prop :=
  ∀ c ∈ t.toList.head?, IsPlain c

instance (c : Char) : Decidable (IsPlain c) :=
  inferInstanceAs (Decidable (_ ∧ _))

instance (t : String) : Decidable (Bare t) :=
  decidable_of_iff (t.toList.head?.toList.all (fun c => decide (IsPlain c)) = true) (by simp [Bare])

theorem exists_mark (cs : List Char) :
    ∃ mark, cs = mark ++ dropMark cs ∧ ∀ c ∈ mark, c = 'v' ∨ c = 'V' := by
  unfold dropMark
  split
  · exact ⟨['v'], rfl, by simp⟩
  · exact ⟨['V'], rfl, by simp⟩
  · exact ⟨[], rfl, by simp⟩

theorem dropMark_eq_self {cs : List Char} (h : ∀ c ∈ cs.head?, c ≠ 'v' ∧ c ≠ 'V') :
    dropMark cs = cs := by
  unfold dropMark
  split
  · exact absurd rfl (h 'v' rfl).1
  · exact absurd rfl (h 'V' rfl).2
  · rfl

theorem toList_token (s : String) : (token s).toList = dropMark (trimChars s.toList) := by
  rw [token, String.toList_ofList]

theorem token_congr {s t : String} (h : trimChars s.toList = trimChars t.toList) :
    token s = token t := by
  rw [token, token, h]

theorem token_trim (s : String) : token (trim s) = token s := by
  apply token_congr
  rw [toList_trim, trimChars_of_tight (tight_trimChars s.toList)]

/-- A text is its token behind a mark, with blanks around both. -/
theorem exists_token (s : String) : ∃ front mark back, (∀ c ∈ front, isBlank c = true) ∧
    (∀ c ∈ mark, c = 'v' ∨ c = 'V') ∧ (∀ c ∈ back, isBlank c = true) ∧
      s.toList = front ++ mark ++ (token s).toList ++ back := by
  obtain ⟨front, back, hfront, hback, _, haround⟩ := exists_around s.toList
  obtain ⟨mark, hmark, hchars⟩ := exists_mark (trimChars s.toList)
  refine ⟨front, mark, back, hfront, hchars, hback, ?_⟩
  rw [toList_token, List.append_assoc front, ← hmark, ← haround]

theorem infix_of_token (s : String) : (token s).toList <:+: s.toList := by
  obtain ⟨front, mark, back, _, _, _, hs⟩ := exists_token s
  exact ⟨front ++ mark, back, hs.symm⟩

theorem token_eq_self {t : String} (ht : Tight t.toList) (hb : Bare t) : token t = t := by
  rw [token, trimChars_of_tight ht, dropMark_eq_self fun c hc => (hb c hc).2, String.ofList_toList]

theorem token_token {s : String} (h : Bare (token s)) : token (token s) = token s := by
  refine token_eq_self ⟨fun c hc => (h c hc).1, ?_⟩ h
  obtain ⟨mark, hmark, _⟩ := exists_mark (trimChars s.toList)
  intro c hc
  apply (tight_trimChars s.toList).2 c
  rw [toList_token, Option.mem_def] at hc
  rw [hmark, List.getLast?_append, hc]
  rfl

theorem parse?_eq (s : String) : parse? s = number? (token s).toList := by
  unfold parse? parse
  split
  · next h => rw [h]; rfl
  · split
    · next h => rw [h]; rfl
    · next h => rw [h]; rfl

theorem bare_of_number? {t : String} {v : Version} (h : number? t.toList = some v) : Bare t :=
  fun c hc => (numeral_of_number? h c (List.mem_of_mem_head? hc)).isPlain

theorem parse?_of_number? {t : String} {v : Version} (h : number? t.toList = some v) :
    parse? t = some v := by
  have htight : Tight t.toList := tight_of_all fun c hc => (numeral_of_number? h c hc).isPlain.1
  rw [parse?_eq, token_eq_self htight (bare_of_number? h), h]

/-- Taking the token twice is no different for what is a version as it stands. -/
theorem parse?_token {s : String} {v : Version} (h : parse? s = some v) :
    Bare (token s) ∧ parse? (token s) = some v := by
  rw [parse?_eq] at h
  exact ⟨bare_of_number? h, parse?_of_number? h⟩

theorem parse?_token_of_bare {s : String} (h : Bare (token s)) : parse? (token s) = parse? s := by
  rw [parse?_eq, parse?_eq, token_token h]

/-- A text that is a version holds no pair of dots and has no dot at an end. -/
theorem firm_of_parse? {s : String} {v : Version} (h : parse? s = some v) : Firm '.' s.toList := by
  obtain ⟨front, mark, back, hfront, hmark, hback, hs⟩ := exists_token s
  rw [parse?_eq] at h
  have hdot : ¬isBlank '.' = true := by decide
  have hfront' : Firm '.' front := firm_of_not_mem fun hm => hdot (hfront '.' hm)
  have hmark' : Firm '.' mark := firm_of_not_mem fun hm => absurd (hmark '.' hm) (by decide)
  have hback' : Firm '.' back := firm_of_not_mem fun hm => hdot (hback '.' hm)
  rw [hs]
  exact ((hfront'.append hmark').append (firm_of_number? h)).append hback'

theorem number?_text {v : Version} (ha : v.major < 0x100000000) (hb : v.minor < 0x100000000) :
    number? v.text.toList = some v := by
  rw [number?_eq_some_iff, Version.text]
  split
  · next hzero => exact .inr ⟨uint32?_toString ha, hzero⟩
  · refine .inl ⟨_, _, ?_, uint32?_toString ha, uint32?_toString hb⟩
    simp

/-- A version that was read is read again from its text. -/
theorem number?_text_of_parse? {s : String} {v : Version} (h : parse? s = some v) :
    number? v.text.toList = some v := by
  rw [parse?_eq, number?_eq_some_iff] at h
  rcases h with ⟨_, _, _, ha, hb⟩ | ⟨ha, hb⟩
  · exact number?_text (of_uint32? ha).2.2 (of_uint32? hb).2.2
  · exact number?_text (of_uint32? ha).2.2 (hb ▸ by decide)

end Switchboard.Proofs.Versions
