import Switchboard.Directory.Fixed
import Switchboard.Proofs.LowerCase
import Switchboard.Proofs.Pairs
import Switchboard.Service.Name

namespace Switchboard.Proofs.CanonicalNames
open Service Directory Text LowerCase Pairs

/-- No capital stands where it starts a word. -/
def Parted (cs : List Char) : Prop :=
  ∀ front before capital back, cs = front ++ before :: capital :: back →
    isUpper capital = true → startsWord before back.head? = false

/-- What lower case leaves as it is, and nothing that only separates words. -/
def IsLetter (c : Char) : Prop :=
  isSeparator c = false ∧ lower c = [c]

/-- Letters with single hyphens between them. -/
structure Canonical (cs : List Char) : Prop where
  letters : ∀ c ∈ cs, c = '-' ∨ IsLetter c
  firm : Firm '-' cs

theorem parted_toList (last : Option Char) : Parted last.toList := by
  intro front before capital back h
  have hlength := congrArg List.length h
  cases last <;> simp at hlength
  omega

theorem parted_cons_iff (last : Option Char) {c : Char} {cs : List Char} :
    Parted (last.toList ++ c :: cs) ↔
      (isUpper c = true → last.any (startsWord · cs.head?) = false) ∧ Parted (c :: cs) := by
  cases last with
  | none => simp
  | some b =>
    constructor
    · intro h
      refine ⟨h [] b c cs rfl, ?_⟩
      intro front before capital back hcs
      exact h (b :: front) before capital back (by simp [hcs])
    · rintro ⟨hb, hcs⟩ front before capital back h
      cases front with
      | nil =>
        obtain ⟨rfl, rfl, rfl⟩ : b = before ∧ c = capital ∧ cs = back := by simpa using h
        exact hb
      | cons d front =>
        obtain ⟨rfl, htail⟩ := List.cons.inj h
        exact hcs front before capital back htail

theorem startsWord_hyphen (after : Option Char) : startsWord '-' after = false := by
  have hlower : isLower '-' = false := by decide
  have hupper : isUpper '-' = false := by decide
  simp [startsWord, hlower, hupper]

/-- Before a hyphen a capital starts a word only if it does so before any other character. -/
theorem startsWord_before_hyphen {before : Char} {after : Option Char}
    (h : startsWord before after = false) : startsWord before (some '-') = false := by
  have hhyphen : isLower '-' = false := by decide
  rw [startsWord, Bool.or_eq_false_iff] at h ⊢
  exact ⟨h.1, by simp [hhyphen]⟩

theorem spell_hyphen {last before : Option Char} (h : mayHyphenate last = true) (cs : List Char) :
    spell last before ('-' :: cs) = '-' :: spell (some '-') (some '-') cs := by
  have hseparator : isSeparator '-' = true := by decide
  rw [spell, if_pos hseparator, if_pos h]

/-- Where a name holds letters only, what was read last is what was written last. -/
theorem spell_letter {last : Option Char} {c : Char} (h : IsLetter c) (cs : List Char) :
    spell last last (c :: cs) =
      if isUpper c = true ∧ last.any (startsWord · cs.head?) = true then
        '-' :: c :: spell (some c) (some c) cs
      else c :: spell (some c) (some c) cs := by
  obtain ⟨hseparator, hlower⟩ := h
  have hmay : last.any (startsWord · cs.head?) = true → mayHyphenate last = true := by
    cases last with
    | none => simp
    | some b =>
      intro hstarts
      have hb : b ≠ '-' := by
        rintro rfl
        rw [Option.any_some, startsWord_hyphen] at hstarts
        cases hstarts
      simp [mayHyphenate, hb]
  have hstarts : (isUpper c && mayHyphenate last && last.any (startsWord · cs.head?)) = true ↔
      isUpper c = true ∧ last.any (startsWord · cs.head?) = true := by
    rw [Bool.and_eq_true, Bool.and_eq_true]
    exact ⟨fun h => ⟨h.1.1, h.2⟩, fun h => ⟨⟨h.1, hmay h.2⟩, h.2⟩⟩
  rw [spell, if_neg (by simp [hseparator]), hlower]
  simp only [hstarts, List.getLast?_singleton, Option.some_or, List.cons_append, List.nil_append]

theorem IsLetter.ne_hyphen {c : Char} (h : IsLetter c) : c ≠ '-' := by
  rintro rfl
  exact absurd h.1 (by decide)

section
variable {last : Option Char} {cs : List Char}

/-- Canonical text behind a character. -/
structure Continues (last : Option Char) (cs : List Char) : Prop where
  letters : ∀ c ∈ cs, c = '-' ∨ IsLetter c
  sparse : Sparse '-' cs
  head : '-' ∈ cs.head? → mayHyphenate last = true

theorem Continues.tail (h : Continues last (c :: cs)) : Continues (some c) cs := by
  obtain ⟨hc, hcs⟩ := List.isChain_cons.mp h.sparse
  refine ⟨fun d hd => h.letters d (List.mem_cons_of_mem c hd), hcs, fun hhead => ?_⟩
  have hne : c ≠ '-' := fun he => hc '-' hhead ⟨he, rfl⟩
  simp [mayHyphenate, hne]

theorem Continues.cases (h : Continues last (c :: cs)) :
    (c = '-' ∧ spell last last (c :: cs) = '-' :: spell (some '-') (some '-') cs) ∨ IsLetter c := by
  refine (h.letters c List.mem_cons_self).imp_left fun hc => ?_
  subst hc
  exact ⟨rfl, spell_hyphen (h.head rfl) cs⟩

/-- A second pass changes nothing just if it would write no hyphen before a capital. -/
theorem spell_eq_self_iff (h : Continues last cs) :
    spell last last cs = cs ↔ Parted (last.toList ++ cs) := by
  induction cs generalizing last with
  | nil =>
    rw [List.append_nil]
    exact iff_of_true rfl (parted_toList last)
  | cons c cs ih =>
    rw [parted_cons_iff]
    have hrest := ih h.tail
    rcases h.cases with ⟨rfl, hspell⟩ | hc
    · have hupper : isUpper '-' = false := by decide
      rw [hspell, List.cons.injEq]
      simpa [hupper] using hrest
    · rw [spell_letter hc]
      by_cases hstarts : isUpper c = true ∧ last.any (startsWord · cs.head?) = true
      · rw [if_pos hstarts]
        refine iff_of_false (fun he => hc.ne_hyphen (List.cons.inj he).1.symm) ?_
        rintro ⟨hnone, -⟩
        rw [hnone hstarts.1] at hstarts
        exact absurd hstarts.2 (by decide)
      · rw [if_neg hstarts, List.cons.injEq, and_iff_right rfl, hrest]
        refine (and_iff_right fun hupper => ?_).symm
        simpa [hupper] using hstarts

theorem head_spell (h : Continues last cs) :
    (spell last last cs).head? = cs.head? ∨ (spell last last cs).head? = some '-' := by
  cases cs with
  | nil => exact .inl rfl
  | cons c cs =>
    rcases h.cases with ⟨rfl, hspell⟩ | hc
    · rw [hspell]
      exact .inr rfl
    · rw [spell_letter hc]
      split
      · exact .inr rfl
      · exact .inl rfl

/-- The hyphens of a second pass take no word apart further. -/
theorem parted_spell (h : Continues last cs) : Parted (last.toList ++ spell last last cs) := by
  induction cs generalizing last with
  | nil =>
    rw [spell, List.append_nil]
    exact parted_toList last
  | cons c cs ih =>
    have hhyphen : isUpper '-' = false := by decide
    have hrest := ih h.tail
    rcases h.cases with ⟨rfl, hspell⟩ | hc
    · rw [hspell, parted_cons_iff]
      exact ⟨by simp [hhyphen], hrest⟩
    · rw [spell_letter hc]
      split
      · rw [parted_cons_iff]
        refine ⟨by simp [hhyphen], (parted_cons_iff (some '-')).mpr ⟨fun _ => ?_, hrest⟩⟩
        exact startsWord_hyphen _
      · next hstarts =>
        rw [parted_cons_iff]
        refine ⟨fun hupper => ?_, hrest⟩
        have hnone : last.any (startsWord · cs.head?) = false := by simpa [hupper] using hstarts
        rcases head_spell h.tail with hhead | hhead
        · rw [hhead]
          exact hnone
        · rw [hhead]
          cases last with
          | none => rfl
          | some b => exact startsWord_before_hyphen hnone

end

theorem isLetter_of_mem_lower {c d : Char} (hc : isSeparator c = false) (h : d ∈ lower c) :
    IsLetter d := by
  obtain ⟨hsettled, hfree⟩ := isForm_of_mem_lower h
  refine ⟨?_, hsettled⟩
  rcases hfree with rfl | hfree
  · exact hc
  · have hblank : isBlank d = false := by
      rw [← Bool.not_eq_true]
      intro hblank
      rw [covers_of_isBlank hblank] at hfree
      cases hfree
    have hne : d ≠ '_' ∧ d ≠ '-' := by
      constructor <;> rintro rfl <;> exact absurd hfree (by decide)
    simp [isSeparator, hne, hblank]

/-- What is written for a character behind `last`. -/
inductive Writes (last : Option Char) (c : Char) : List Char → Prop where
  | nothing (hc : isSeparator c = true) (hlast : mayHyphenate last = false) : Writes last c []
  | hyphen (hc : isSeparator c = true) (hlast : mayHyphenate last = true) : Writes last c ['-']
  | word (hc : isSeparator c = false) : Writes last c (lower c)
  | newWord (hc : isSeparator c = false) (hlast : mayHyphenate last = true) :
      Writes last c ('-' :: lower c)

theorem spell_cons (last before : Option Char) (c : Char) (cs : List Char) :
    ∃ written, Writes last c written ∧
      spell last before (c :: cs) = written ++ spell (written.getLast?.or last) (some c) cs := by
  obtain ⟨d, word, hword⟩ := List.exists_cons_of_ne_nil (lower_ne_nil c)
  rw [spell]
  split
  · next hc =>
    split
    · next hlast => exact ⟨['-'], .hyphen hc hlast, rfl⟩
    · next hlast => exact ⟨[], .nothing hc (eq_false_of_ne_true hlast), rfl⟩
  · next hc =>
    have hc := eq_false_of_ne_true hc
    simp only
    split
    · next hstarts =>
      simp only [Bool.and_eq_true] at hstarts
      refine ⟨_, .newWord hc hstarts.1.2, ?_⟩
      rw [hword, List.getLast?_cons_cons]
    · exact ⟨_, .word hc, rfl⟩

theorem Writes.letters (h : Writes last c written) (hd : d ∈ written) :
    d = '-' ∨ IsLetter d ∧ d ∈ lower c := by
  cases h with
  | nothing => cases hd
  | hyphen => exact .inl (List.mem_singleton.mp hd)
  | word hc => exact .inr ⟨isLetter_of_mem_lower hc hd, hd⟩
  | newWord hc =>
    rcases List.mem_cons.mp hd with rfl | hd
    · exact .inl rfl
    · exact .inr ⟨isLetter_of_mem_lower hc hd, hd⟩

theorem hyphen_not_mem_lower {c : Char} (hc : isSeparator c = false) : '-' ∉ lower c :=
  fun h => (isLetter_of_mem_lower hc h).ne_hyphen rfl

theorem Writes.sparse (h : Writes last c written) :
    Sparse '-' written ∧ ('-' ∈ written.head? → mayHyphenate last = true) := by
  cases h with
  | nothing => exact ⟨.nil, nofun⟩
  | hyphen _ hlast => exact ⟨.singleton '-', fun _ => hlast⟩
  | word hc =>
    have hfirm := firm_of_not_mem (hyphen_not_mem_lower hc)
    exact ⟨hfirm.sparse, fun h => absurd h hfirm.head⟩
  | newWord hc hlast => exact ⟨(firm_of_not_mem (hyphen_not_mem_lower hc)).cons, fun _ => hlast⟩

theorem letters_spell {last before : Option Char} {cs : List Char} {d : Char}
    (h : d ∈ spell last before cs) : d = '-' ∨ IsLetter d ∧ ∃ c ∈ cs, d ∈ lower c := by
  induction cs generalizing last before with
  | nil => cases h
  | cons c cs ih =>
    obtain ⟨written, hwrites, hspell⟩ := spell_cons last before c cs
    rw [hspell] at h
    rcases List.mem_append.mp h with hd | hd
    · exact (hwrites.letters hd).imp_right fun ⟨hletter, hlower⟩ =>
        ⟨hletter, c, List.mem_cons_self, hlower⟩
    · exact (ih hd).imp_right fun ⟨hletter, c', hc', hlower⟩ =>
        ⟨hletter, c', List.mem_cons_of_mem c hc', hlower⟩

theorem sparse_spell (last before : Option Char) (cs : List Char) :
    Sparse '-' (spell last before cs) ∧
      ('-' ∈ (spell last before cs).head? → mayHyphenate last = true) := by
  induction cs generalizing last before with
  | nil => exact ⟨.nil, nofun⟩
  | cons c cs ih =>
    obtain ⟨written, hwrites, hspell⟩ := spell_cons last before c cs
    obtain ⟨hsparse, hhead⟩ := hwrites.sparse
    obtain ⟨hrest, hnext⟩ := ih (written.getLast?.or last) (some c)
    rw [hspell]
    refine ⟨sparse_append_iff.mpr ⟨hsparse, hrest, fun ⟨hlast, hfirst⟩ => ?_⟩, fun h => ?_⟩
    · have hmay := hnext hfirst
      rw [Option.mem_def.mp hlast, Option.some_or] at hmay
      exact absurd hmay (by decide)
    · cases written with
      | nil => exact hnext h
      | cons d written => exact hhead h

theorem Writes.ends (h : Writes last c written) (hc : isSeparator c = false) :
    ∃ d ∈ written.getLast?, d ≠ '-' := by
  have hd := List.getLast?_eq_some_getLast (lower_ne_nil c)
  have hne : (lower c).getLast (lower_ne_nil c) ≠ '-' := fun he =>
    hyphen_not_mem_lower hc (he ▸ List.getLast_mem (lower_ne_nil c))
  cases h with
  | nothing hc' | hyphen hc' =>
    rw [hc] at hc'
    cases hc'
  | word => exact ⟨_, hd, hne⟩
  | newWord => exact ⟨_, by rw [List.getLast?_cons, hd]; rfl, hne⟩

theorem last_spell {last before : Option Char} {cs : List Char} {c : Char}
    (h : c ∈ cs.getLast?) (hc : isSeparator c = false) :
    ∃ d ∈ (spell last before cs).getLast?, d ≠ '-' := by
  induction cs generalizing last before with
  | nil => cases h
  | cons b cs ih =>
    obtain ⟨written, hwrites, hspell⟩ := spell_cons last before b cs
    rw [hspell]
    cases cs with
    | nil =>
      obtain rfl : b = c := by simpa using h
      rw [spell, List.append_nil]
      exact hwrites.ends hc
    | cons b' cs =>
      have hlast : c ∈ (b' :: cs).getLast? := by simpa using h
      obtain ⟨d, hd, hne⟩ := ih hlast
      exact ⟨d, by rw [List.getLast?_append, Option.mem_def.mp hd]; rfl, hne⟩

theorem head_first_pass (cs : List Char) :
    ∀ c ∈ (spell none none cs).head?, (c == '-') = false := by
  intro c hc
  rw [beq_eq_false_iff_ne]
  rintro rfl
  exact absurd ((sparse_spell none none cs).2 hc) (by decide)

/-- A first pass begins with no hyphen, so that those at both ends may be dropped. -/
theorem toList_hyphenate (name : String) : (hyphenate name).toList =
    stripChars (· == '-') (spell none none (trimChars name.toList)) := by
  rw [hyphenate, String.toList_ofList, stripChars, dropWhile_eq_self (head_first_pass _)]

theorem toList_hyphenate_of_last {name : String}
    (h : '-' ∉ (spell none none (trimChars name.toList)).getLast?) :
    (hyphenate name).toList = spell none none (trimChars name.toList) := by
  rw [toList_hyphenate]
  refine stripChars_of_clean ⟨head_first_pass _, fun c hc => ?_⟩
  rw [beq_eq_false_iff_ne]
  rintro rfl
  exact h hc

theorem Canonical.continues (h : Canonical cs) : Continues none cs :=
  ⟨h.letters, h.firm.sparse, fun hhead => absurd hhead h.firm.head⟩

theorem canonical_hyphenate (name : String) : Canonical (hyphenate name).toList := by
  rw [toList_hyphenate]
  have hwithin := infix_stripChars (· == '-') (spell none none (trimChars name.toList))
  have hclean := clean_stripChars (· == '-') (spell none none (trimChars name.toList))
  refine ⟨fun c hc => ?_, ?_, fun hhead => ?_, fun hlast => ?_⟩
  · exact (letters_spell (hwithin.subset hc)).imp_right And.left
  · obtain ⟨front, back, hall⟩ := hwithin
    have hsparse := (sparse_spell none none (trimChars name.toList)).1
    rw [← hall] at hsparse
    exact (sparse_append_iff.mp (sparse_append_iff.mp hsparse).1).2.1
  · exact absurd (hclean.1 '-' hhead) (by decide)
  · exact absurd (hclean.2 '-' hlast) (by decide)

theorem IsLetter.not_blank {c : Char} (h : IsLetter c) : isBlank c = false := by
  have hseparator := h.1
  simp only [isSeparator, Bool.or_eq_false_iff] at hseparator
  exact hseparator.2

/-- Nothing is trimmed from a canonical name. -/
theorem toList_hyphenate_canonical (h : Canonical name.toList) :
    (hyphenate name).toList = spell none none name.toList := by
  have htight : Tight name.toList := by
    apply tight_of_all
    intro c hc
    rcases h.letters c hc with rfl | hletter
    · decide
    · exact hletter.not_blank
  have hpass : trimChars name.toList = name.toList := trimChars_of_tight htight
  rw [toList_hyphenate_of_last, hpass]
  rw [hpass]
  intro hhyphen
  cases hlast : name.toList.getLast? with
  | none =>
    rw [List.getLast?_eq_none_iff.mp hlast] at hhyphen
    cases hhyphen
  | some c =>
    rcases h.letters c (List.mem_of_getLast? hlast) with rfl | hletter
    · exact h.firm.last hlast
    · obtain ⟨d, hd, hne⟩ := last_spell hlast hletter.1
      exact hne (Option.some.inj (hd.symm.trans hhyphen))

theorem hyphenate_eq_self_iff (h : Canonical name.toList) :
    hyphenate name = name ↔ Parted name.toList := by
  rw [← String.toList_inj, toList_hyphenate_canonical h]
  exact spell_eq_self_iff h.continues

theorem parted_hyphenate (h : Canonical name.toList) : Parted (hyphenate name).toList := by
  rw [toList_hyphenate_canonical h]
  exact parted_spell h.continues

/-- As long as every capital of a name has a small letter, none is left in its canonical form. -/
theorem parted_of_small {name : String}
    (h : ∀ c ∈ name.toList, isUpper c = true → lower c ≠ [c]) : Parted (hyphenate name).toList := by
  intro front before capital back hcs hupper
  have hmem : capital ∈ (hyphenate name).toList := by
    rw [hcs]
    simp
  rw [toList_hyphenate] at hmem
  rcases letters_spell ((infix_stripChars _ _).subset hmem) with rfl | ⟨hletter, c, hc, hlower⟩
  · exact absurd hupper (by decide)
  · rcases isUpper_of_mem_lower hlower with rfl | hsmall
    · exact absurd hletter.2 (h _ ((infix_stripChars isBlank name.toList).subset hc) hupper)
    · rw [hupper] at hsmall
      cases hsmall

/-- Putting a name into canonical form a second time changes nothing just if no capital that is left
in it stands where it starts a word. That is so as long as every capital of the name has a small
letter, and whatever the name is, a third time changes nothing any more. -/
theorem hyphenate_again (name : String) :
    (hyphenate (hyphenate name) = hyphenate name ↔ Parted (hyphenate name).toList) ∧
    ((∀ c ∈ name.toList, isUpper c = true → lower c ≠ [c]) →
      hyphenate (hyphenate name) = hyphenate name) ∧
    hyphenate (hyphenate (hyphenate name)) = hyphenate (hyphenate name) := by
  have hiff : ∀ s, hyphenate (hyphenate s) = hyphenate s ↔ Parted (hyphenate s).toList :=
    fun s => hyphenate_eq_self_iff (canonical_hyphenate s)
  refine ⟨hiff name, fun h => (hiff name).mpr (parted_of_small h), (hiff (hyphenate name)).mpr ?_⟩
  exact parted_hyphenate (canonical_hyphenate name)

theorem server_settled :
    hyphenate "HTTPServer_v2" = "http-server-v2" ∧
    (∀ c ∈ "HTTPServer_v2".toList, isUpper c = true → lower c ≠ [c]) ∧
    hyphenate (hyphenate "HTTPServer_v2") = hyphenate "HTTPServer_v2" := by
  have hall : ("HTTPServer_v2".toList.all fun c => !isUpper c || lower c != [c]) = true := by
    decide +kernel
  have hsmall : ∀ c ∈ "HTTPServer_v2".toList, isUpper c = true → lower c ≠ [c] := by
    intro c hc hupper
    simpa [hupper] using List.all_eq_true.mp hall c hc
  exact ⟨by decide +kernel, hsmall, (hyphenate_again "HTTPServer_v2").2.1 hsmall⟩

/-- The instance that a directory makes for a service listed under two capitals, of which only the
first has a small letter. -/
def capitals : Instance :=
  ⟨"a𝐀-0", "a-𝐀", ⟨"http", some ⟨"", "", some (.domain "h"), none⟩, .segments [""], none, none⟩,
    [], none⟩

/-- The hyphen between the capitals is due once the first one is small. So the service is found by
whoever asks for it as it is listed, but not by whoever asks for the canonical form, and its
instance bears neither name. -/
theorem capitals_part_again :
    hyphenate "A𝐀" = "a𝐀" ∧ hyphenate (hyphenate "A𝐀") = "a-𝐀" ∧
    Fixed.ofList [("A𝐀", ["http://h"])] = .ok ⟨[("a𝐀", [capitals])]⟩ ∧
    (⟨[("a𝐀", [capitals])]⟩ : Fixed).instancesOf "A𝐀" = [capitals] ∧
    (⟨[("a𝐀", [capitals])]⟩ : Fixed).instancesOf (hyphenate "A𝐀") = [] := by
  have hname : hyphenate "A𝐀" = "a𝐀" := by decide +kernel
  have hagain : hyphenate "a𝐀" = "a-𝐀" := by decide +kernel
  refine ⟨hname, by rw [hname, hagain], by rfl, ?_, ?_⟩
  · rw [Fixed.instancesOf, hname]
    rfl
  · rw [Fixed.instancesOf, hname, hagain]
    rfl

end Switchboard.Proofs.CanonicalNames
