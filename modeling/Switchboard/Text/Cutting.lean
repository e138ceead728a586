import Mathlib.Data.List.Basic
import Switchboard.Text.Cut
import Switchboard.Text.Trimming

namespace Switchboard.Text

theorem not_mem_of_mem_splitOn {sep : Char} {cs p : List Char} (h : p ∈ cs.splitOn sep) :
    sep ∉ p := by
  induction cs generalizing p with
  | nil =>
    obtain rfl := List.mem_singleton.mp h
    exact List.not_mem_nil
  | cons c cs ih =>
    rw [List.splitOn_cons_eq_if_modifyHead] at h
    split at h
    · rcases List.mem_cons.mp h with rfl | h
      · exact List.not_mem_nil
      · exact ih h
    · next hc =>
      obtain ⟨q, qs, hq⟩ := List.exists_cons_of_ne_nil (List.splitOn_ne_nil sep cs)
      rw [hq, List.modifyHead_cons] at h
      rw [hq] at ih
      rcases List.mem_cons.mp h with rfl | h
      · have hne : sep ≠ c := fun heq => hc (beq_iff_eq.mpr heq.symm)
        exact List.not_mem_cons_of_ne_of_not_mem hne (ih List.mem_cons_self)
      · exact ih (List.mem_cons_of_mem q h)

/-- What stands in front of a text goes to its first piece. -/
theorem splitOn_append_left {sep : Char} {front : List Char} (h : sep ∉ front) (cs : List Char) :
    (front ++ cs).splitOn sep = (cs.splitOn sep).modifyHead (front ++ ·) := by
  induction front with
  | nil =>
    obtain ⟨p, ps, hp⟩ := List.exists_cons_of_ne_nil (List.splitOn_ne_nil sep cs)
    simp [hp]
  | cons c front ih =>
    have hc : ¬(c == sep) = true := fun heq => h (eq_of_beq heq ▸ List.mem_cons_self)
    rw [List.cons_append, List.splitOn_cons_eq_if_modifyHead, if_neg hc,
      ih fun hm => h (List.mem_cons_of_mem c hm), List.modifyHead_modifyHead]
    rfl

/-- What stands behind a text goes to its last piece. -/
theorem splitOn_append_right {sep : Char} {back : List Char} (h : sep ∉ back) (cs : List Char) :
    ∃ front last, cs.splitOn sep = front ++ [last] ∧
      (cs ++ back).splitOn sep = front ++ [last ++ back] := by
  induction cs with
  | nil => exact ⟨[], [], rfl, List.splitOn_eq_singleton h⟩
  | cons c cs ih =>
    obtain ⟨front, last, hcs, hboth⟩ := ih
    rw [List.cons_append, List.splitOn_cons_eq_if_modifyHead,
      List.splitOn_cons_eq_if_modifyHead, hcs, hboth]
    split
    · exact ⟨[] :: front, last, rfl, rfl⟩
    · cases front with
      | nil => exact ⟨[], c :: last, rfl, rfl⟩
      | cons p front => exact ⟨(c :: p) :: front, last, rfl, rfl⟩

theorem intercalate_cons (sep : Char) (p : List Char) (ps : List (List Char)) :
    [sep].intercalate (p :: ps) = p ++ ps.flatMap (sep :: ·) := by
  induction ps generalizing p with
  | nil => simp
  | cons q ps ih => simp [List.intercalate_cons_cons, ih]

theorem infix_intercalate {sep : Char} {p : List Char} {parts : List (List Char)}
    (h : p ∈ parts) : p <:+: [sep].intercalate parts := by
  induction parts with
  | nil => cases h
  | cons q rest ih =>
    cases rest with
    | nil =>
      obtain rfl := List.mem_singleton.mp h
      simp
    | cons r rest =>
      rw [List.intercalate_cons_cons]
      rcases List.mem_cons.mp h with rfl | h
      · rw [List.append_assoc]
        exact (List.prefix_append p _).isInfix
      · exact (ih h).trans (List.suffix_append _ _).isInfix

theorem infix_of_mem_splitOn {sep : Char} {cs p : List Char} (h : p ∈ cs.splitOn sep) :
    p <:+: cs := by
  have hjoined : p <:+: [sep].intercalate (cs.splitOn sep) := infix_intercalate h
  rwa [List.intercalate_splitOn] at hjoined

theorem mem_intercalate {sep c : Char} {parts : List (List Char)}
    (h : c ∈ [sep].intercalate parts) : c = sep ∨ ∃ p ∈ parts, c ∈ p := by
  induction parts with
  | nil => cases h
  | cons p rest ih =>
    cases rest with
    | nil => exact .inr ⟨p, List.mem_singleton_self p, by simpa using h⟩
    | cons q rest =>
      rw [List.intercalate_cons_cons, List.append_assoc, List.mem_append, List.singleton_append,
        List.mem_cons] at h
      rcases h with hp | rfl | hrest
      · exact .inr ⟨p, List.mem_cons_self, hp⟩
      · exact .inl rfl
      · refine (ih hrest).imp_right ?_
        rintro ⟨r, hr, hc⟩
        exact ⟨r, List.mem_cons_of_mem p hr, hc⟩

/-- A character stands in a piece or between two. -/
theorem eq_or_mem_splitOn {c : Char} (sep : Char) {cs : List Char} (h : c ∈ cs) :
    c = sep ∨ ∃ p ∈ cs.splitOn sep, c ∈ p := by
  apply mem_intercalate
  rwa [List.intercalate_splitOn]

theorem cutChars_eq_none_iff {sep : Char} {cs : List Char} : cutChars sep cs = none ↔ sep ∉ cs := by
  induction cs with
  | nil => simp [cutChars]
  | cons c cs ih =>
    rw [cutChars]
    by_cases hc : c = sep
    · simp [hc]
    · simp [hc, Ne.symm hc, ih]

theorem cutChars_eq_some_iff {sep : Char} {cs before after : List Char} :
    cutChars sep cs = some (before, after) ↔ cs = before ++ sep :: after ∧ sep ∉ before := by
  induction cs generalizing before with
  | nil => simp [cutChars]
  | cons c cs ih =>
    rw [cutChars]
    by_cases hc : c = sep
    · subst hc
      cases before <;> simp +contextual [eq_comm]
    · cases before with
      | nil => simp [hc]
      | cons b before =>
        simp only [hc, if_false, Option.map_eq_some_iff, Prod.exists, Prod.mk.injEq,
          List.cons.injEq, List.cons_append, List.mem_cons, not_or]
        constructor
        · rintro ⟨l, r, hcut, ⟨rfl, rfl⟩, rfl⟩
          obtain ⟨rfl, hmem⟩ := ih.mp hcut
          exact ⟨⟨rfl, rfl⟩, Ne.symm hc, hmem⟩
        · rintro ⟨⟨rfl, rfl⟩, _, hmem⟩
          exact ⟨before, after, ih.mpr ⟨rfl, hmem⟩, ⟨rfl, rfl⟩, rfl⟩

theorem after?_eq_some_iff {lead s t : String} : after? lead s = some t ↔ s = lead ++ t := by
  rw [after?, Option.map_eq_some_iff, ← String.toList_inj, String.toList_append]
  simp only [List.isPrefixOf?_eq_some_iff_append_eq]
  constructor
  · rintro ⟨rest, hrest, rfl⟩
    rw [String.toList_ofList, hrest]
  · intro h
    exact ⟨t.toList, h.symm, String.ofList_toList⟩

theorem words_append (sep : Char) (s t : String) :
    words sep (s ++ String.singleton sep ++ t) = words sep s ++ words sep t := by
  simp [words, split, List.splitOn_append_cons_self]

theorem words_ofList (sep : Char) (cs ds : List Char) :
    words sep (String.ofList (cs ++ sep :: ds)) =
      words sep (String.ofList cs) ++ words sep (String.ofList ds) := by
  simp [words, split, List.splitOn_append_cons_self]

theorem of_mem_words {sep : Char} {s w : String} (h : w ∈ words sep s) :
    w ≠ "" ∧ sep ∉ w.toList := by
  obtain ⟨hm, hne⟩ := List.mem_filter.mp h
  obtain ⟨p, hp, rfl⟩ := List.mem_map.mp hm
  refine ⟨of_decide_eq_true hne, ?_⟩
  rw [String.toList_ofList]
  exact not_mem_of_mem_splitOn hp

theorem words_of_not_mem {sep : Char} {s : String} (hne : s ≠ "") (h : sep ∉ s.toList) :
    words sep s = [s] := by
  simp [words, split, List.splitOn_eq_singleton h, hne]

theorem toList_join (sep : String) (texts : List String) :
    (join sep texts).toList = sep.toList.intercalate (texts.map String.toList) := by
  rw [join, String.toList_intercalate]

theorem join_cons (sep first : String) (rest : List String) :
    join sep (first :: rest) = first ++ String.join (rest.map (sep ++ ·)) := by
  rw [join]
  induction rest generalizing first with
  | nil => simp
  | cons next rest ih =>
    rw [String.intercalate_cons_cons, ih, List.map_cons, String.join_cons, String.append_assoc,
      String.append_assoc]

theorem not_mem_of_mem_split {sep : Char} {s part : String} (h : part ∈ split sep s) :
    sep ∉ part.toList := by
  obtain ⟨p, hp, rfl⟩ := List.mem_map.mp h
  rw [String.toList_ofList]
  exact not_mem_of_mem_splitOn hp

theorem split_ne_nil (sep : Char) (s : String) : split sep s ≠ [] := by
  rw [split, ne_eq, List.map_eq_nil_iff]
  exact List.splitOn_ne_nil sep s.toList

/-- Blanks around a text are blanks around its pieces. -/
theorem map_trimChars_splitOn {sep : Char} (h : isBlank sep = false) (cs : List Char) :
    ((trimChars cs).splitOn sep).map trimChars = (cs.splitOn sep).map trimChars := by
  have hfree : ∀ blanks : List Char, (∀ c ∈ blanks, isBlank c = true) → sep ∉ blanks := by
    intro blanks hall hmem
    rw [hall sep hmem] at h
    cases h
  obtain ⟨front, back, hfront, hback, -, hcs⟩ := exists_around cs
  obtain ⟨init, last, hone, hboth⟩ := splitOn_append_right (hfree back hback) (trimChars cs)
  have hafter : ((trimChars cs ++ back).splitOn sep).map trimChars =
      ((trimChars cs).splitOn sep).map trimChars := by
    simp only [hone, hboth, List.map_append, List.map_cons, List.map_nil,
      trimChars_append_blank hback]
  have hbefore : ((front ++ (trimChars cs ++ back)).splitOn sep).map trimChars =
      ((trimChars cs ++ back).splitOn sep).map trimChars := by
    obtain ⟨first, rest, hne⟩ :=
      List.exists_cons_of_ne_nil (List.splitOn_ne_nil sep (trimChars cs ++ back))
    simp only [splitOn_append_left (hfree front hfront), hne, List.modifyHead_cons, List.map_cons,
      trimChars_blank_append hfront]
  conv => rhs; rw [hcs, List.append_assoc, hbefore, hafter]

theorem map_trim_split {sep : Char} (h : isBlank sep = false) (s : String) :
    (split sep (trim s)).map trim = (split sep s).map trim := by
  have hmap : ∀ cs : List (List Char),
      (cs.map String.ofList).map trim = (cs.map trimChars).map String.ofList := by
    intro cs
    simp [trim]
  rw [split, split, hmap, hmap, toList_trim, map_trimChars_splitOn h]

theorem cut?_eq_some_iff {sep : Char} {s before after : String} :
    cut? sep s = some (before, after) ↔
      s = before ++ String.singleton sep ++ after ∧ sep ∉ before.toList := by
  rw [cut?, Option.map_eq_some_iff, ← String.toList_inj]
  constructor
  · rintro ⟨⟨l, r⟩, hcut, hpair⟩
    obtain ⟨rfl, rfl⟩ := Prod.mk.inj hpair
    simpa using cutChars_eq_some_iff.mp hcut
  · rintro ⟨hs, hmem⟩
    refine ⟨(before.toList, after.toList), cutChars_eq_some_iff.mpr ⟨?_, hmem⟩, ?_⟩
    · simpa using hs
    · simp

/-- Splitting takes apart what was joined. -/
theorem split_join {sep : Char} {parts : List String} (hne : parts ≠ [])
    (h : ∀ part ∈ parts, sep ∉ part.toList) :
    split sep (join (String.singleton sep) parts) = parts := by
  have hparts : ∀ p ∈ parts.map String.toList, sep ∉ p := by
    intro p hp
    obtain ⟨part, hpart, rfl⟩ := List.mem_map.mp hp
    exact h part hpart
  rw [split, toList_join, String.toList_singleton,
    List.splitOn_intercalate sep hparts (by simpa using hne), List.map_map]
  exact (List.map_congr_left fun part _ => String.ofList_toList).trans (List.map_id parts)

end Switchboard.Text
