import Switchboard.Text.Case
import Switchboard.Text.Trimming

namespace Switchboard.Proofs.LowerCase
open Text

/-- Whether a shift moves nothing to where `other` holds something. Spans of every second code point
may lie in each other. -/
def clears (s : Shift) (other : Span) : Bool :=
  Nat.blt (s.apply s.span.last) other.first || Nat.blt other.last s.target ||
    ((s.span.step == 2 || s.span.first == s.span.last) && other.step == 2 &&
      (s.target + other.first) % 2 == 1)

/-- Code points that are no small letters, among them all white space and the rest of ASCII. -/
def barred : List Span := [
  ⟨0, 0x60, 1⟩, ⟨0x7B, 0xA0, 1⟩, ⟨0x130, 0x130, 1⟩, ⟨0x1680, 0x1680, 1⟩, ⟨0x2000, 0x205F, 1⟩,
  ⟨0x3000, 0x3000, 1⟩, ⟨0xD800, 0xDFFF, 1⟩]

theorem holds_iff {s : Span} {n : Nat} :
    s.holds n = true ↔ s.first ≤ n ∧ n ≤ s.last ∧ (n - s.first) % s.step = 0 := by
  simp [Span.holds, and_assoc]

theorem not_covers_iff {spans : List Span} {n : Nat} :
    Span.covers spans n = false ↔ ∀ s ∈ spans, s.holds n = false := by
  simp [Span.covers]

theorem not_holds_apply {s : Shift} {other : Span} {n : Nat} (h : clears s other = true)
    (hn : s.span.holds n = true) : other.holds (s.apply n) = false := by
  rw [← Bool.not_eq_true, holds_iff]
  rw [holds_iff] at hn
  obtain ⟨hfirst, hlast, hstep⟩ := hn
  simp only [clears, Shift.apply, Bool.or_eq_true, Bool.and_eq_true, Nat.blt_eq,
    beq_iff_eq] at *
  rintro ⟨hafter, hbefore, hother⟩
  rcases h with (hlow | hhigh) | ⟨⟨htwo | hone, htwo'⟩, hodd⟩
  · omega
  · omega
  · rw [htwo] at hstep
    rw [htwo'] at hother
    omega
  · rw [htwo'] at hother
    omega

/-- No shift goes to where a shift starts, so nothing is moved twice. -/
theorem lowerShifts_clear :
    (lowerShifts.all fun s => lowerShifts.all fun t => clears s t.span) = true := by
  decide +kernel

theorem barred_clear : (lowerShifts.all fun s => barred.all (clears s)) = true := by
  decide +kernel

theorem upper_clear : (lowerShifts.all fun s => upperSpans.all (clears s)) = true := by
  decide +kernel

theorem apply_last_lt : ∀ s ∈ lowerShifts, s.apply s.span.last < 0x110000 := by
  decide +kernel

theorem image_cases (shifts : List Shift) (n : Nat) :
    (∃ s ∈ shifts, s.span.holds n = true ∧ Shift.image shifts n = s.apply n) ∨
      Shift.image shifts n = n := by
  unfold Shift.image
  split
  · next s hs =>
    have hholds := List.find?_some hs
    exact .inl ⟨s, List.mem_of_find?_eq_some hs, hholds, rfl⟩
  · exact .inr rfl

theorem image_of_not_holds {shifts : List Shift} {n : Nat}
    (h : ∀ s ∈ shifts, s.span.holds n = false) : Shift.image shifts n = n := by
  have hnone : shifts.find? (·.span.holds n) = none :=
    List.find?_eq_none.mpr fun s hs => by simp [h s hs]
  rw [Shift.image, hnone]

/-- A form that lower case gives to a character: it has itself for its form, and where it is another
character it is none of those that are barred. -/
structure IsForm (c d : Char) : Prop where
  settled : lower d = [d]
  free : d = c ∨ Span.covers barred d.toNat = false

theorem lower_ascii {c : Char} (h : c.toNat < 128) : lower c = [c.toLower] := if_pos h

theorem lower_other {c : Char} (h : ¬c.toNat < 128) (hi : c ≠ 'İ') :
    lower c = [Char.ofNat (Shift.image lowerShifts c.toNat)] := by
  rw [lower, if_neg h, if_neg hi]

theorem isForm_toLower {c : Char} (h : c.toNat < 128) : IsForm c c.toLower := by
  have hall : lower c.toLower = [c.toLower] ∧
      (c.toLower = c ∨ Span.covers barred c.toLower.toNat = false) :=
    ascii_forall (P := fun c => lower c.toLower = [c.toLower] ∧
      (c.toLower = c ∨ Span.covers barred c.toLower.toNat = false)) (by decide +kernel) h
  exact ⟨hall.1, hall.2⟩

/-- What is not barred in ASCII are the small letters. -/
theorem of_free {d : Char} (h : d.toNat < 128) (hfree : Span.covers barred d.toNat = false) :
    lower d = [d] ∧ isUpper d = false :=
  ascii_forall (P := fun d => Span.covers barred d.toNat = false →
    lower d = [d] ∧ isUpper d = false) (by decide +kernel) h hfree

theorem not_covers_apply {spans : List Span} {s : Shift} {n : Nat}
    (h : (lowerShifts.all fun s => spans.all (clears s)) = true) (hs : s ∈ lowerShifts)
    (hn : s.span.holds n = true) : Span.covers spans (s.apply n) = false :=
  not_covers_iff.mpr fun other ho =>
    not_holds_apply (List.all_eq_true.mp (List.all_eq_true.mp h s hs) other ho) hn

theorem toNat_apply {n : Nat} {s : Shift} (hs : s ∈ lowerShifts) (hn : s.span.holds n = true) :
    (Char.ofNat (s.apply n)).toNat = s.apply n := by
  have hlast : n ≤ s.span.last := (holds_iff.mp hn).2.1
  have hbelow := apply_last_lt s hs
  have hsurrogate :=
    not_covers_iff.mp (not_covers_apply barred_clear hs hn) ⟨0xD800, 0xDFFF, 1⟩ (by decide)
  rw [← Bool.not_eq_true, holds_iff] at hsurrogate
  have hvalid : (s.apply n).isValidChar := by
    unfold Nat.isValidChar
    unfold Shift.apply at *
    simp only [Nat.mod_one, and_true] at hsurrogate
    omega
  rw [Char.ofNat, dif_pos hvalid]
  rfl

theorem isForm_apply {c : Char} {s : Shift} (hs : s ∈ lowerShifts)
    (hc : s.span.holds c.toNat = true) : IsForm c (Char.ofNat (s.apply c.toNat)) := by
  have hmoved : Shift.image lowerShifts (s.apply c.toNat) = s.apply c.toNat :=
    image_of_not_holds fun t ht =>
      not_holds_apply (List.all_eq_true.mp (List.all_eq_true.mp lowerShifts_clear s hs) t ht) hc
  have hfree : Span.covers barred (Char.ofNat (s.apply c.toNat)).toNat = false := by
    rw [toNat_apply hs hc]
    exact not_covers_apply barred_clear hs hc
  refine ⟨?_, .inr hfree⟩
  by_cases hascii : (Char.ofNat (s.apply c.toNat)).toNat < 128
  · exact (of_free hascii hfree).1
  · rw [lower_other hascii, toNat_apply hs hc, hmoved]
    intro hdotted
    rw [hdotted] at hfree
    exact absurd hfree (by decide)

theorem isUpper_apply {n : Nat} {s : Shift} (hs : s ∈ lowerShifts) (hn : s.span.holds n = true) :
    isUpper (Char.ofNat (s.apply n)) = false := by
  have hcode := toNat_apply hs hn
  have hfree := not_covers_apply barred_clear hs hn
  rw [← hcode] at hfree
  by_cases hascii : (Char.ofNat (s.apply n)).toNat < 128
  · exact (of_free hascii hfree).2
  · rw [isUpper, if_neg hascii, hcode]
    exact not_covers_apply upper_clear hs hn

/-- Where the lower-case form of a character comes from. -/
theorem lower_cases (c : Char) :
    (c.toNat < 128 ∧ lower c = [c.toLower]) ∨ lower c = ['i', Char.ofNat 0x307] ∨
    (∃ s ∈ lowerShifts, s.span.holds c.toNat = true ∧
      lower c = [Char.ofNat (s.apply c.toNat)]) ∨ lower c = [c] := by
  by_cases hascii : c.toNat < 128
  · exact .inl ⟨hascii, lower_ascii hascii⟩
  by_cases hdotted : c = 'İ'
  · exact .inr (.inl (by rw [hdotted]; rfl))
  have hlower := lower_other hascii hdotted
  rcases image_cases lowerShifts c.toNat with ⟨s, hs, hc, himage⟩ | himage
  · exact .inr (.inr (.inl ⟨s, hs, hc, by rw [hlower, himage]⟩))
  · rw [himage, Char.ofNat_toNat] at hlower
    exact .inr (.inr (.inr hlower))

theorem isForm_of_mem_lower {c d : Char} (h : d ∈ lower c) : IsForm c d := by
  rcases lower_cases c with ⟨hascii, hlower⟩ | hlower | ⟨s, hs, hc, hlower⟩ | hlower
  · rw [hlower, List.mem_singleton] at h
    exact h ▸ isForm_toLower hascii
  · have hboth : d = 'i' ∨ d = Char.ofNat 0x307 := by simpa [hlower] using h
    rcases hboth with rfl | rfl
    · exact ⟨by decide, .inr (by decide)⟩
    · exact ⟨by decide +kernel, .inr (by decide)⟩
  · rw [hlower, List.mem_singleton] at h
    exact h ▸ isForm_apply hs hc
  · rw [hlower, List.mem_singleton] at h
    subst h
    exact ⟨hlower, .inl rfl⟩

/-- Lower case makes no capitals: those that come out of it have no small letter. -/
theorem isUpper_of_mem_lower {c d : Char} (h : d ∈ lower c) : d = c ∨ isUpper d = false := by
  rcases lower_cases c with ⟨hascii, hlower⟩ | hlower | ⟨s, hs, hc, hlower⟩ | hlower
  · have hc : isUpper c.toLower = false :=
      ascii_forall (P := fun c => isUpper c.toLower = false) (by decide +kernel) hascii
    rw [hlower, List.mem_singleton] at h
    exact .inr (h ▸ hc)
  · have hboth : d = 'i' ∨ d = Char.ofNat 0x307 := by simpa [hlower] using h
    rcases hboth with rfl | rfl
    · exact .inr (by decide)
    · exact .inr (by decide +kernel)
  · rw [hlower, List.mem_singleton] at h
    exact .inr (h ▸ isUpper_apply hs hc)
  · rw [hlower, List.mem_singleton] at h
    exact .inl h

theorem lower_ne_nil (c : Char) : lower c ≠ [] := by
  unfold lower
  split
  · exact List.cons_ne_nil _ _
  · split <;> exact List.cons_ne_nil _ _

/-- The characters of a text go to their forms one by one; what stands around a sigma only decides
between two of them. -/
theorem lowerFrom_cons (before : List Char) (c : Char) (cs : List Char) :
    ∃ word, word ≠ [] ∧ (∀ d ∈ word, IsForm c d) ∧
      lowerFrom before (c :: cs) = word ++ lowerFrom (c :: before) cs := by
  rw [lowerFrom]
  split
  · next hc =>
    subst hc
    split
    · refine ⟨['ς'], List.cons_ne_nil _ _, ?_, rfl⟩
      rw [List.forall_mem_singleton]
      exact ⟨by decide +kernel, .inr (by decide)⟩
    · refine ⟨['σ'], List.cons_ne_nil _ _, ?_, rfl⟩
      rw [List.forall_mem_singleton]
      exact ⟨by decide +kernel, .inr (by decide)⟩
  · exact ⟨lower c, lower_ne_nil c, fun _ hd => isForm_of_mem_lower hd, rfl⟩

theorem mem_lowerFrom {before cs : List Char} {d : Char} (h : d ∈ lowerFrom before cs) :
    ∃ c ∈ cs, IsForm c d := by
  induction cs generalizing before with
  | nil => cases h
  | cons c cs ih =>
    obtain ⟨word, -, hforms, hcons⟩ := lowerFrom_cons before c cs
    rw [hcons] at h
    rcases List.mem_append.mp h with hd | hd
    · exact ⟨c, List.mem_cons_self, hforms d hd⟩
    · obtain ⟨c', hc', hform⟩ := ih hd
      exact ⟨c', List.mem_cons_of_mem c hc', hform⟩

theorem head_lowerFrom {before cs : List Char} {d : Char} (h : d ∈ (lowerFrom before cs).head?) :
    ∃ c ∈ cs.head?, IsForm c d := by
  cases cs with
  | nil => cases h
  | cons c cs =>
    obtain ⟨word, hne, hforms, hcons⟩ := lowerFrom_cons before c cs
    obtain ⟨e, rest, rfl⟩ := List.exists_cons_of_ne_nil hne
    rw [hcons] at h
    obtain rfl := Option.some.inj h
    exact ⟨c, rfl, hforms _ List.mem_cons_self⟩

theorem last_lowerFrom {before cs : List Char} {d : Char}
    (h : d ∈ (lowerFrom before cs).getLast?) : ∃ c ∈ cs.getLast?, IsForm c d := by
  induction cs generalizing before with
  | nil => cases h
  | cons c cs ih =>
    obtain ⟨word, -, hforms, hcons⟩ := lowerFrom_cons before c cs
    rw [hcons, List.getLast?_append, Option.mem_def, Option.or_eq_some_iff] at h
    rcases h with hlast | ⟨hnone, hlast⟩
    · obtain ⟨c', hc', hform⟩ := ih hlast
      refine ⟨c', ?_, hform⟩
      rw [Option.mem_def] at hc'
      rw [List.getLast?_cons, hc']
      rfl
    · cases cs with
      | nil => exact ⟨c, rfl, hforms d (List.mem_of_getLast? hlast)⟩
      | cons c' cs =>
        obtain ⟨word', hne, -, hcons'⟩ := lowerFrom_cons (c :: before) c' cs
        rw [List.getLast?_eq_none_iff, hcons', List.append_eq_nil_iff] at hnone
        exact absurd hnone.1 hne

theorem lowerFrom_eq_self {before cs : List Char} (h : ∀ c ∈ cs, lower c = [c]) :
    lowerFrom before cs = cs := by
  induction cs generalizing before with
  | nil => rfl
  | cons c cs ih =>
    obtain ⟨hc, hcs⟩ := List.forall_mem_cons.mp h
    have hsigma : c ≠ 'Σ' := by
      rintro rfl
      exact absurd hc (by decide +kernel)
    rw [lowerFrom, if_neg hsigma, hc, ih hcs]
    rfl

theorem toList_lowerText (s : String) : (lowerText s).toList = lowerFrom [] s.toList :=
  String.toList_ofList

/-- A text in lower case stays as it is. -/
theorem lowerText_lowerText (s : String) : lowerText (lowerText s) = lowerText s := by
  have hsettled : ∀ d ∈ (lowerText s).toList, lower d = [d] := by
    intro d hd
    rw [toList_lowerText] at hd
    obtain ⟨c, -, hform⟩ := mem_lowerFrom hd
    exact hform.settled
  rw [lowerText, lowerFrom_eq_self hsettled, String.ofList_toList]

theorem covers_of_isBlank {d : Char} (h : isBlank d = true) :
    Span.covers barred d.toNat = true := by
  simp only [isBlank, Bool.or_eq_true, Bool.and_eq_true, beq_iff_eq, decide_eq_true_eq] at h
  simp only [Span.covers, barred, List.any_cons, List.any_nil, Bool.or_eq_true, holds_iff,
    Nat.mod_one, and_true]
  omega

theorem IsForm.not_blank {c d : Char} (h : IsForm c d) (hc : isBlank c = false) :
    isBlank d = false := by
  rcases h.free with rfl | hfree
  · exact hc
  · rw [← Bool.not_eq_true]
    intro hd
    rw [covers_of_isBlank hd] at hfree
    cases hfree

theorem tight_lowerText {s : String} (h : Tight s.toList) : Tight (lowerText s).toList := by
  rw [toList_lowerText]
  refine ⟨fun d hd => ?_, fun d hd => ?_⟩
  · obtain ⟨c, hc, hform⟩ := head_lowerFrom hd
    exact hform.not_blank (h.1 c hc)
  · obtain ⟨c, hc, hform⟩ := last_lowerFrom hd
    exact hform.not_blank (h.2 c hc)

/-- Barred characters do not come into a text by lower case. -/
theorem not_mem_lowerText {s : String} {d : Char} (hd : Span.covers barred d.toNat = true)
    (h : d ∉ s.toList) : d ∉ (lowerText s).toList := by
  intro hmem
  rw [toList_lowerText] at hmem
  obtain ⟨c, hc, hform⟩ := mem_lowerFrom hmem
  rcases hform.free with rfl | hfree
  · exact h hc
  · rw [hd] at hfree
    cases hfree

end Switchboard.Proofs.LowerCase
