import Switchboard.Proofs.NamedVersions
import Switchboard.Version.Rules

/-!
Pinning a route to a version token. A token may hold dots anywhere, and a constraint takes a pair of
dots for the middle of a range, so the tokens that can be pinned are those without such a pair.
-/

namespace Switchboard.Proofs.Pins
open Text Version Versions Pairs Forms NamedVersions

theorem isToken_trim (s : String) : isToken (trim s) = isToken s := by
  rw [isToken, isToken, token_trim]

theorem dot_not_mem_blanks {s : String} (h : isBlankText s = true) : '.' ∉ s.toList :=
  fun hm => absurd ((isBlankText_iff s).mp h '.' hm) (by decide)

/-- Blanks at the ends make no pair of dots and part none. -/
theorem sparse_trim_iff (s : String) : Sparse '.' (trim s).toList ↔ Sparse '.' s.toList := by
  obtain ⟨front, back, hfront, hback, hs⟩ := exists_trim s
  have hbefore := firm_of_not_mem (dot_not_mem_blanks hfront)
  have hafter := firm_of_not_mem (dot_not_mem_blanks hback)
  conv => rhs; rw [hs, String.toList_append, String.toList_append]
  rw [sparse_append_iff, sparse_append_iff]
  constructor
  · intro h
    exact ⟨⟨hbefore.sparse, h, fun hboth => hbefore.last hboth.1⟩, hafter.sparse,
      fun hboth => hafter.head hboth.2⟩
  · intro h
    exact h.1.2.1

theorem parse?_exact_iff {s : String} (h : isToken s = true) :
    Constraint.parse? s = some (.exact (token s)) ↔ Sparse '.' s.toList := by
  rw [parse?_eq_some_iff, ← sparse_trim_iff]
  constructor
  · intro hw
    cases hw with
    | exact _ hdots _ _ => exact hdots
  · intro hdots
    exact .exact _ hdots ((isToken_trim s).trans h) (token_trim s).symm

/-- What is read of a token is that token, or a range. -/
theorem exact_or_range {s : String} (h : isToken s = true) {c : Constraint}
    (hc : Constraint.parse? s = some c) :
    c = .exact (token s) ∨ ∃ least greatest, c = .range least greatest := by
  have htoken : isToken (trim s) = true := (isToken_trim s).trans h
  cases parse?_eq_some_iff.mp hc with
  | minimum t least hs _ =>
    have hmem : '>' ∈ (trim s).toList := by simp [hs]
    exact absurd hmem (foreign_not_mem_token (by decide) htoken)
  | maximum t greatest hs _ =>
    have hmem : '<' ∈ (trim s).toList := by simp [hs]
    exact absurd hmem (foreign_not_mem_token (by decide) htoken)
  | range _ _ least greatest _ _ _ _ => exact .inr ⟨least, greatest, rfl⟩
  | oneOf _ hbar _ _ _ => exact absurd hbar (foreign_not_mem_token (by decide) htoken)
  | exact t _ _ ht => exact .inl (by rw [ht, token_trim])

theorem trimChars_ne_nil {s : String} {v : Version} (h : Version.parse? s = some v) :
    trimChars s.toList ≠ [] := by
  intro hnil
  rw [parse?_eq, toList_token, hnil] at h
  cases h

/-- A range may have blanks around it and around its dots. -/
theorem parse?_range {l r : String} {least greatest : Version}
    (hl : Version.parse? l = some least) (hr : Version.parse? r = some greatest)
    (hle : place least ≤ place greatest) :
    Constraint.parse? (l ++ ".." ++ r) = some (.range least greatest) := by
  obtain ⟨front, inner, hfront, hinner, hlist⟩ := exists_trim l
  obtain ⟨inner', back, hinner', hback, hlist'⟩ := exists_trim r
  have hleft : Version.parse? (trim l ++ inner) = some least := by
    rw [parse?_congr (token_before_blanks hinner _), parse?_congr (token_trim l), hl]
  have hright : Version.parse? (inner' ++ trim r) = some greatest := by
    rw [parse?_congr (token_after_blanks hinner' _), parse?_congr (token_trim r), hr]
  have htight : Tight ((trim l ++ inner) ++ ".." ++ (inner' ++ trim r)).toList := by
    have hboth := tight_around (trimChars_ne_nil hl) (tight_trimChars l.toList)
      (trimChars_ne_nil hr) (tight_trimChars r.toList) (inner.toList ++ ['.', '.'] ++ inner'.toList)
    simpa using hboth
  have htrim : trim (l ++ ".." ++ r) = (trim l ++ inner) ++ ".." ++ (inner' ++ trim r) := by
    have haround := trimChars_around ((isBlankText_iff front).mp hfront)
      ((isBlankText_iff back).mp hback) htight
    rw [← String.toList_inj, toList_trim, ← haround]
    conv => lhs; rw [hlist, hlist']
    simp only [String.toList_append, List.append_assoc]
  rw [parse?_eq_some_iff, htrim]
  exact .range _ _ least greatest rfl hleft hright hle

/-- A token with a pair of dots is a range between what stands on both sides, if it is anything. -/
theorem parse?_pair_iff {s l r : String} (h : isToken s = true) (hs : s = l ++ ".." ++ r)
    (c : Constraint) : Constraint.parse? s = some c ↔ ∃ least greatest,
      Version.parse? l = some least ∧ Version.parse? r = some greatest ∧
      place least ≤ place greatest ∧ c = .range least greatest := by
  constructor
  · intro hc
    rcases exact_or_range h hc with rfl | ⟨least, greatest, rfl⟩
    · have hdots := (parse?_exact_iff h).mp hc
      rw [hs, String.toList_append, String.toList_append, List.append_assoc] at hdots
      exact absurd hdots not_sparse_pair
    · cases made_of_parse? hc with
      | range _ _ l' r' hs' hl hr hle =>
        obtain ⟨rfl, rfl⟩ := around_dots hl hr (hs'.symm.trans hs)
        exact ⟨least, greatest, hl, hr, hle, rfl⟩
  · rintro ⟨least, greatest, hl, hr, hle, rfl⟩
    rw [hs]
    exact parse?_range hl hr hle

theorem accepts_exact_iff (t s : String) :
    (Constraint.exact t).accepts (some s) = true ↔ token s = t := by
  simp [Constraint.accepts]

theorem not_blank_of_isToken {s : String} (h : isToken s = true) : isBlankText s = false := by
  rw [← Bool.not_eq_true, ← trim_eq_empty_iff]
  intro hempty
  apply ((isToken_iff s).mp h).1
  rw [← token_trim, hempty]
  rfl

/-- A token is a fine default. -/
theorem check_default {s : String} (h : isToken s = true) (rules : Rules) :
    { rules with defaultVersion := some s }.check =
      { rules with defaultVersion := none }.check := by
  have hblank : Config.Check.notBlank s "router.versioning.default-version" = .ok () := by
    rw [Config.Check.notBlank, not_blank_of_isToken h, if_neg (by decide)]
  simp only [Rules.check, hblank, h]
  rfl

/-- A token without a pair of dots pins its version, and a token with one is a range or nothing; it
is a fine default all the same. -/
theorem parse?_token_iff {s : String} (h : isToken s = true) :
    (Constraint.parse? s = some (.exact (token s)) ↔ Sparse '.' s.toList) ∧
    (∀ t, (Constraint.exact (token s)).accepts (some t) = true ↔ token t = token s) ∧
    (∀ l r, s = l ++ ".." ++ r → ∀ c, Constraint.parse? s = some c ↔ ∃ least greatest,
      Version.parse? l = some least ∧ Version.parse? r = some greatest ∧
      place least ≤ place greatest ∧ c = .range least greatest) ∧
    (∀ c, Constraint.parse? s = some c → c = .exact (token s) ∨ ∃ a b, c = .range a b) ∧
    ∀ rules : Rules, { rules with defaultVersion := some s }.check =
      { rules with defaultVersion := none }.check :=
  ⟨parse?_exact_iff h, accepts_exact_iff (token s), fun _ _ hs => parse?_pair_iff h hs,
    fun _ hc => exact_or_range h hc, check_default h⟩

/-- A token with single dots is pinned as it is, and a pair of dots in a token makes a range. -/
theorem candidate_pinned :
    isToken " v2.0-rc.1 " = true ∧ Sparse '.' " v2.0-rc.1 ".toList ∧
    Constraint.parse? " v2.0-rc.1 " = some (.exact "2.0-rc.1") ∧
    (Constraint.exact "2.0-rc.1").accepts (some "V2.0-rc.1") = true ∧
    isToken "v1..2" = true ∧ Constraint.parse? "v1..2" = some (.range ⟨1, 0⟩ ⟨2, 0⟩) := by
  have htoken : isToken " v2.0-rc.1 " = true := by decide
  have hdots : Sparse '.' " v2.0-rc.1 ".toList := cutPair_eq_none_iff.mp (by decide)
  have hpair : isToken "v1..2" = true := by decide
  obtain ⟨hpin, haccepts, -⟩ := parse?_token_iff htoken
  have hrange := ((parse?_token_iff hpair).2.2.1 "v1" "2" (by decide) (.range ⟨1, 0⟩ ⟨2, 0⟩)).mpr
    ⟨⟨1, 0⟩, ⟨2, 0⟩, by decide, by decide, (le_iff _ _).mp (by decide), rfl⟩
  exact ⟨htoken, hdots, hpin.mpr hdots, (haccepts "V2.0-rc.1").mpr (by decide), hpair, hrange⟩

/-- Such a token is never its own version, and one with its numbers the wrong way round is
refused. -/
theorem pair_not_pinned :
    isToken "1..2" = true ∧ Constraint.parse? "1..2" = some (.range ⟨1, 0⟩ ⟨2, 0⟩) ∧
    (Constraint.range ⟨1, 0⟩ ⟨2, 0⟩).accepts (some "1..2") = false ∧
    isToken "2..1" = true ∧ Constraint.parse? "2..1" = none := by
  decide

end Switchboard.Proofs.Pins
