import Switchboard.Proofs.Forms

namespace Switchboard.Proofs.ConstraintTexts
open Text Version Versions Pairs Forms

/-- The tokens that a constraint compares with. -/
def tokens : Constraint → List String
  | .exact t => [t]
  | .oneOf ts => ts
  | .minimum _ => []
  | .maximum _ => []
  | .range _ _ => []

/-- What reading takes for a token. -/
structure Word (t : String) : Prop where
  nonempty : t ≠ ""
  chars : ∀ c ∈ t.toList, isTokenChar c = true
  dots : Sparse '.' t.toList

theorem word_token {s : String} (h : isToken s = true) (hdots : Sparse '.' s.toList) :
    Word (token s) :=
  ⟨((isToken_iff s).mp h).1, ((isToken_iff s).mp h).2, hdots.infix (infix_of_token s)⟩

theorem token_eq_self_iff {t : String} (ht : Tight t.toList) : token t = t ↔ Bare t := by
  constructor
  · intro heq c hc
    refine ⟨ht.1 c hc, ?_⟩
    have hlist : dropMark t.toList = t.toList := by
      rw [← trimChars_of_tight ht, ← toList_token, heq, trimChars_of_tight ht]
    obtain ⟨cs, hcs⟩ := List.head?_eq_some_iff.mp hc
    rw [hcs] at hlist
    refine ⟨?_, ?_⟩ <;> rintro rfl <;> exact List.cons_ne_self _ _ hlist.symm
  · exact token_eq_self ht

theorem Word.tight {t : String} (h : Word t) : Tight t.toList :=
  tight_of_all fun c hc => isBlank_of_isTokenChar (h.chars c hc)

theorem Word.isToken {t : String} (h : Word t) (hb : Bare t) : isToken t = true := by
  rw [isToken_iff, token_eq_self h.tight hb]
  exact ⟨h.nonempty, h.chars⟩

theorem Word.bar_not_mem {t : String} (h : Word t) : '|' ∉ t.toList :=
  fun hmem => absurd (h.chars '|' hmem) (by decide)

theorem written_exact_iff {t : String} (h : Word t) : Written t (.exact t) ↔ Bare t := by
  rw [← token_eq_self_iff h.tight]
  constructor
  · intro hw
    cases hw with
    | exact _ _ _ ht => exact ht.symm
  · intro ht
    exact .exact t h.dots (h.isToken ((token_eq_self_iff h.tight).mp ht)) ht.symm

theorem toList_join (ts : List String) :
    (join "|" ts).toList = ['|'].intercalate (ts.map String.toList) :=
  Text.toList_join "|" ts

section
variable {ts : List String} (h : ∀ t ∈ ts, Word t)
include h

theorem split_tokens (hne : ts ≠ []) : split '|' (join "|" ts) = ts :=
  split_join hne fun t ht => (h t ht).bar_not_mem

theorem tight_join : Tight (join "|" ts).toList := by
  apply tight_of_all
  intro c hc
  rw [toList_join] at hc
  rcases mem_intercalate hc with rfl | ⟨p, hp, hc⟩
  · decide
  · obtain ⟨t, ht, rfl⟩ := List.mem_map.mp hp
    exact isBlank_of_isTokenChar ((h t ht).chars c hc)

theorem sparse_join : Sparse '.' (join "|" ts).toList := by
  rw [toList_join]
  apply sparse_intercalate (by decide)
  intro p hp
  obtain ⟨t, ht, rfl⟩ := List.mem_map.mp hp
  exact (h t ht).dots

theorem written_oneOf_iff (hlen : 2 ≤ ts.length) :
    Written (join "|" ts) (.oneOf ts) ↔ ∀ t ∈ ts, Bare t := by
  have hsplit : split '|' (join "|" ts) = ts := split_tokens h fun hnil => by simp [hnil] at hlen
  have hbare : ts.map token = ts ↔ ∀ t ∈ ts, Bare t := by
    conv => lhs; rhs; rw [← List.map_id ts]
    rw [List.map_inj_left]
    exact forall₂_congr fun t ht => token_eq_self_iff (h t ht).tight
  rw [← hbare]
  constructor
  · intro hw
    cases hw with
    | oneOf _ _ _ _ ht => exact (hsplit ▸ ht).symm
  · intro ht
    have hbar : '|' ∈ (join "|" ts).toList := by
      match ts, hlen with
      | a :: b :: rest, _ => simp [toList_join, List.intercalate_cons_cons]
    refine .oneOf ts hbar (sparse_join h) ?_ (by rw [hsplit, ht])
    rw [hsplit]
    exact fun t hmem => (h t hmem).isToken (hbare.mp ht t hmem)

end

/-- A text with a bar has two pieces at least. -/
theorem two_le_length_split {s : String} (h : '|' ∈ s.toList) : 2 ≤ (split '|' s).length := by
  rw [split, List.length_map]
  rcases hp : s.toList.splitOn '|' with _ | ⟨p, _ | ⟨q, rest⟩⟩
  · exact absurd hp (List.splitOn_ne_nil '|' s.toList)
  · have hcs : ['|'].intercalate (s.toList.splitOn '|') = s.toList := List.intercalate_splitOn '|'
    have hnot : '|' ∉ p := not_mem_of_mem_splitOn (hp ▸ List.mem_singleton_self p)
    rw [hp, List.intercalate_singleton] at hcs
    exact absurd (hcs ▸ h) hnot
  · exact Nat.le_add_left 2 rest.length

theorem word_of_part {s part : String} (hdots : Sparse '.' s.toList) (hpart : part ∈ split '|' s)
    (h : isToken part = true) : Word (token part) := by
  obtain ⟨p, hp, rfl⟩ := List.mem_map.mp hpart
  apply word_token h
  rw [String.toList_ofList]
  exact hdots.infix (infix_of_mem_splitOn hp)

theorem parse?_iff_of_tight {s : String} {c : Constraint} (h : Tight s.toList) :
    Constraint.parse? s = some c ↔ Written s c := by
  rw [parse?_eq_some_iff, trim_of_tight h]

/-- No blank in it. -/
def Solid (s : String) : Prop :=
  ∀ c ∈ s.toList, isBlank c = false

instance (s : String) : Decidable (Solid s) :=
  decidable_of_iff (s.toList.all (!isBlank ·) = true) (by simp [Solid])

theorem Solid.append {s t : String} (hs : Solid s) (ht : Solid t) : Solid (s ++ t) := by
  intro c hc
  rw [String.toList_append] at hc
  exact (List.mem_append.mp hc).elim (hs c) (ht c)

/-- A version that was read is read again from its text. -/
theorem solid_of_parse? {s : String} {v : Version} (h : Version.parse? s = some v) :
    Solid v.text ∧ Version.parse? v.text = some v := by
  have hnumber := number?_text_of_parse? h
  exact ⟨fun c hc => (numeral_of_number? hnumber c hc).isPlain.1, parse?_of_number? hnumber⟩

/-- The text of a constraint is read as that constraint, unless a token in it begins with a mark. -/
theorem parse?_text_iff {s : String} {c : Constraint} (h : Constraint.parse? s = some c) :
    Constraint.parse? c.text = some c ↔ ∀ t ∈ tokens c, Bare t := by
  cases parse?_eq_some_iff.mp h with
  | minimum t least hs ht =>
    obtain ⟨hsolid, hagain⟩ := solid_of_parse? ht
    have hall : Solid (">=" ++ least.text) := .append (by decide) hsolid
    refine iff_of_true ?_ (fun _ hmem => absurd hmem List.not_mem_nil)
    exact (parse?_iff_of_tight (tight_of_all hall)).mpr (.minimum _ _ rfl hagain)
  | maximum t greatest hs ht =>
    obtain ⟨hsolid, hagain⟩ := solid_of_parse? ht
    have hall : Solid ("<=" ++ greatest.text) := .append (by decide) hsolid
    refine iff_of_true ?_ (fun _ hmem => absurd hmem List.not_mem_nil)
    exact (parse?_iff_of_tight (tight_of_all hall)).mpr (.maximum _ _ rfl hagain)
  | range l r least greatest hs hl hr hle =>
    obtain ⟨hsolid, hagain⟩ := solid_of_parse? hl
    obtain ⟨hsolid', hagain'⟩ := solid_of_parse? hr
    have hall : Solid (least.text ++ ".." ++ greatest.text) :=
      (hsolid.append (by decide)).append hsolid'
    refine iff_of_true ?_ (fun _ hmem => absurd hmem List.not_mem_nil)
    exact (parse?_iff_of_tight (tight_of_all hall)).mpr (.range _ _ _ _ rfl hagain hagain' hle)
  | oneOf ts hbar hdots hparts ht =>
    have hwords : ∀ t ∈ ts, Word t := by
      rw [ht]
      intro t hmem
      obtain ⟨part, hpart, rfl⟩ := List.mem_map.mp hmem
      exact word_of_part hdots hpart (hparts part hpart)
    have hlen : 2 ≤ ts.length := by
      rw [ht, List.length_map]
      exact two_le_length_split hbar
    exact (parse?_iff_of_tight (tight_join hwords)).trans (written_oneOf_iff hwords hlen)
  | exact t hdots htoken ht =>
    have hword : Word t := ht ▸ word_token htoken hdots
    have hbare : (∀ u ∈ tokens (.exact t), Bare u) ↔ Bare t := by simp [tokens]
    rw [hbare]
    exact (parse?_iff_of_tight hword.tight).trans (written_exact_iff hword)

/-- Blanks and single marks around alternatives are gone for good. -/
theorem alternatives_read_again :
    Constraint.parse? " v1.1-rc | V2 " = some (.oneOf ["1.1-rc", "2"]) ∧
    (∀ t ∈ tokens (.oneOf ["1.1-rc", "2"]), Bare t) ∧
    Constraint.parse? (Constraint.text (.oneOf ["1.1-rc", "2"])) =
      some (.oneOf ["1.1-rc", "2"]) := by
  have hread : Constraint.parse? " v1.1-rc | V2 " = some (.oneOf ["1.1-rc", "2"]) := by decide
  have hbare : ∀ t ∈ tokens (.oneOf ["1.1-rc", "2"]), Bare t := by
    rw [tokens, List.forall_mem_cons, List.forall_mem_singleton]
    exact ⟨by decide, by decide⟩
  exact ⟨hread, hbare, (parse?_text_iff hread).mpr hbare⟩

/-- Of two marks one is dropped each time: what is written is another constraint, or none. -/
theorem second_mark_lost :
    Constraint.parse? "vv1" = some (.exact "v1") ∧
    Constraint.parse? (Constraint.text (.exact "v1")) = some (.exact "1") ∧
    Constraint.parse? "vv" = some (.exact "v") ∧
    Constraint.parse? (Constraint.text (.exact "v")) = none := by
  decide

end Switchboard.Proofs.ConstraintTexts
