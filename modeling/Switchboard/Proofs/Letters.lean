import Switchboard.Proofs.CanonicalNames

namespace Switchboard.Proofs.Letters
open Service Text Pairs CanonicalNames

/-- The small letters of what does not only separate words. -/
def letters (cs : List Char) : List Char :=
  (cs.filter (!isSeparator ·)).flatMap lower

theorem letters_cons (c : Char) (cs : List Char) :
    letters (c :: cs) = letters [c] ++ letters cs := by
  cases hc : isSeparator c <;> simp [letters, hc]

theorem filter_lower {c : Char} (hc : isSeparator c = false) :
    (lower c).filter (· ≠ '-') = lower c := by
  refine List.filter_eq_self.mpr fun d hd => decide_eq_true ?_
  rintro rfl
  exact hyphen_not_mem_lower hc hd

/-- What is written for a character is its letters, perhaps behind a hyphen. -/
theorem filter_writes {last : Option Char} {c : Char} {written : List Char}
    (h : Writes last c written) : written.filter (· ≠ '-') = letters [c] := by
  cases h with
  | nothing hc => simp [letters, hc]
  | hyphen hc => simp [letters, hc]
  | word hc =>
    rw [filter_lower hc]
    simp [letters, hc]
  | newWord hc =>
    rw [List.filter_cons_of_neg (by decide), filter_lower hc]
    simp [letters, hc]

theorem filter_spell (last before : Option Char) (cs : List Char) :
    (spell last before cs).filter (· ≠ '-') = letters cs := by
  induction cs generalizing last before with
  | nil => rfl
  | cons c cs ih =>
    obtain ⟨written, hwrites, hspell⟩ := spell_cons last before c cs
    rw [hspell, List.filter_append, filter_writes hwrites, ih, ← letters_cons]

theorem letters_trimChars (cs : List Char) : letters (trimChars cs) = letters cs := by
  have hblank : ∀ c, isBlank c = true → (!isSeparator c) = false := by
    intro c hc
    simp [isSeparator, hc]
  exact congrArg (List.flatMap lower) (filter_stripChars hblank cs)

/-- The canonical form of a name has the letters of the name between single hyphens, and nothing
else. -/
theorem hyphenate_keeps_letters (name : String) :
    (hyphenate name).toList.filter (· ≠ '-') = letters name.toList ∧
    Firm '-' (hyphenate name).toList ∧
    ∀ c ∈ (hyphenate name).toList, c ≠ '_' ∧ isBlank c = false := by
  obtain ⟨hletters, hfirm⟩ := canonical_hyphenate name
  refine ⟨?_, hfirm, fun c hc => ?_⟩
  · rw [toList_hyphenate, filter_stripChars (by simp), filter_spell, letters_trimChars]
  · rcases hletters c hc with rfl | hletter
    · decide
    · refine ⟨?_, hletter.not_blank⟩
      rintro rfl
      exact absurd hletter.1 (by decide)

/-- The dotted capital has two characters in lower case. -/
example : hyphenate "__İstanbul  API-Gate_" = "i̇stanbul-api-gate" := by decide +kernel

end Switchboard.Proofs.Letters
