import Mathlib.Data.List.DropRight
import Switchboard.Text.Blank

namespace Switchboard.Text

/-- What holds of the first 128 code points holds of ASCII. -/
theorem ascii_forall {P : Char → Prop} (h : ∀ n < 128, P (Char.ofNat n)) {c : Char}
    (hc : c.toNat < 128) : P c := by
  have hcode := h c.toNat hc
  rwa [Char.ofNat_toNat] at hcode

/-- What ASCII shows is not white space. -/
theorem isBlank_of_visible {c : Char} (h : 0x20 < c.toNat ∧ c.toNat < 0x7f) :
    isBlank c = false := by
  simp only [isBlank, Bool.or_eq_false_iff, beq_eq_false_iff_ne, Bool.and_eq_false_iff,
    decide_eq_false_iff_not]
  omega

/-- The characters of a word are digits, capitals and small letters. -/
theorem toNat_of_isAlphanum {c : Char} (h : c.isAlphanum = true) :
    (48 ≤ c.toNat ∧ c.toNat ≤ 57) ∨ (65 ≤ c.toNat ∧ c.toNat ≤ 90) ∨
      (97 ≤ c.toNat ∧ c.toNat ≤ 122) := by
  have hcases : ((decide (c.val ≥ 'A'.val ∧ c.val ≤ 'Z'.val) ||
      (decide (c.val ≥ 'a'.val) && decide (c.val ≤ 'z'.val))) ||
      (decide (c.val ≥ '0'.val) && decide (c.val ≤ '9'.val))) = true := h
  simp only [Bool.or_eq_true, Bool.and_eq_true, decide_eq_true_eq, ge_iff_le,
    UInt32.le_iff_toNat_le, Char.toNat_val, Char.reduceToNat] at hcases
  omega

theorem isBlank_of_isAlphanum {c : Char} (h : c.isAlphanum = true) : isBlank c = false := by
  have hranges := toNat_of_isAlphanum h
  apply isBlank_of_visible
  omega

@[simp] theorem toList_trim (s : String) : (trim s).toList = trimChars s.toList := by
  simp [trim]

theorem isBlankText_iff (s : String) : isBlankText s = true ↔ ∀ c ∈ s.toList, isBlank c = true :=
  List.all_eq_true

/-- Nothing that satisfies `p` at either end. -/
def Clean (p : Char → Bool) (cs : List Char) : Prop :=
  (∀ c ∈ cs.head?, p c = false) ∧ ∀ c ∈ cs.getLast?, p c = false

theorem dropWhile_eq_self {p : Char → Bool} {cs : List Char} (h : ∀ c ∈ cs.head?, p c = false) :
    cs.dropWhile p = cs := by
  cases cs with
  | nil => rfl
  | cons c cs => rw [List.dropWhile_cons, if_neg (by simp [h c rfl])]

theorem dropWhile_head? (p : Char → Bool) (cs : List Char) :
    ∀ c ∈ (cs.dropWhile p).head?, p c = false := by
  intro c hc
  have hhead := List.head?_dropWhile_not p cs
  rw [Option.mem_def.mp hc] at hhead
  exact hhead

theorem stripChars_around {p : Char → Bool} {before cs after : List Char}
    (hb : ∀ c ∈ before, p c = true) (ha : ∀ c ∈ after, p c = true) (h : Clean p cs) :
    stripChars p (before ++ cs ++ after) = cs := by
  obtain ⟨hhead, hlast⟩ := h
  unfold stripChars dropEndWhile
  rw [List.append_assoc, List.dropWhile_append_of_pos hb]
  cases cs with
  | nil =>
    have hnone : (after ++ []).dropWhile p = [] := List.dropWhile_append_of_pos ha
    rw [List.append_nil] at hnone
    rw [List.nil_append, hnone]
    rfl
  | cons c cs =>
    have hfront : ((c :: cs) ++ after).dropWhile p = (c :: cs) ++ after :=
      dropWhile_eq_self fun d hd => hhead d hd
    have hafter : ∀ d ∈ after.reverse, p d = true := fun d hd => ha d (List.mem_reverse.mp hd)
    rw [hfront, List.reverse_append, List.dropWhile_append_of_pos hafter, dropWhile_eq_self,
      List.reverse_reverse]
    rw [List.head?_reverse]
    exact hlast

theorem dropEndWhile_eq_rdropWhile (p : Char → Bool) (cs : List Char) :
    dropEndWhile p cs = cs.rdropWhile p := rfl

theorem dropEndWhile_sublist (p : Char → Bool) (cs : List Char) : (dropEndWhile p cs).Sublist cs :=
  List.IsPrefix.sublist <| List.rdropWhile_prefix p cs

theorem dropEndWhile_eq_self_iff {p : Char → Bool} {cs : List Char} :
    dropEndWhile p cs = cs ↔ ∀ c ∈ cs.getLast?, p c = false := by
  rw [dropEndWhile_eq_rdropWhile, List.rdropWhile_eq_self_iff]
  constructor
  · intro h c hc
    obtain ⟨hne, rfl⟩ := List.mem_getLast?_eq_getLast hc
    exact Bool.not_eq_true _ ▸ h hne
  · intro h hne
    rw [h _ (List.getLast?_eq_some_getLast hne)]
    exact Bool.false_ne_true

theorem exists_stripped (p : Char → Bool) (cs : List Char) : ∃ before after,
    (∀ c ∈ before, p c = true) ∧ (∀ c ∈ after, p c = true) ∧ Clean p (stripChars p cs) ∧
      cs = before ++ stripChars p cs ++ after := by
  have hrest : stripChars p cs ++ (cs.dropWhile p).rtakeWhile p = cs.dropWhile p :=
    List.rdropWhile_append_rtakeWhile
  refine ⟨cs.takeWhile p, (cs.dropWhile p).rtakeWhile p, fun _ => List.mem_takeWhile_imp,
    fun _ => List.mem_rtakeWhile_imp, ⟨?_, ?_⟩, ?_⟩
  · intro c hc
    apply dropWhile_head? p cs c
    rw [← hrest, List.head?_append, Option.mem_def.mp hc]
    rfl
  · exact dropEndWhile_eq_self_iff.mp (List.rdropWhile_idempotent p _)
  · rw [List.append_assoc, hrest, List.takeWhile_append_dropWhile]

theorem clean_stripChars (p : Char → Bool) (cs : List Char) : Clean p (stripChars p cs) := by
  obtain ⟨_, _, _, _, hclean, _⟩ := exists_stripped p cs
  exact hclean

theorem infix_stripChars (p : Char → Bool) (cs : List Char) : stripChars p cs <:+: cs := by
  obtain ⟨before, after, _, _, _, hcs⟩ := exists_stripped p cs
  exact ⟨before, after, hcs.symm⟩

/-- Characters that do not count anyway may be stripped. -/
theorem filter_stripChars {p keep : Char → Bool} (h : ∀ c, p c = true → keep c = false)
    (cs : List Char) : (stripChars p cs).filter keep = cs.filter keep := by
  obtain ⟨before, after, hbefore, hafter, -, hcs⟩ := exists_stripped p cs
  have hnone : ∀ ds : List Char, (∀ c ∈ ds, p c = true) → ds.filter keep = [] := by
    intro ds hds
    refine List.filter_eq_nil_iff.mpr fun c hc => ?_
    rw [h c (hds c hc)]
    exact Bool.false_ne_true
  conv => rhs; rw [hcs, List.filter_append, List.filter_append, hnone before hbefore,
    hnone after hafter, List.nil_append, List.append_nil]

theorem stripChars_of_clean {p : Char → Bool} {cs : List Char} (h : Clean p cs) :
    stripChars p cs = cs := by
  have hnone : ∀ c ∈ ([] : List Char), p c = true := fun _ hc => absurd hc List.not_mem_nil
  simpa using stripChars_around hnone hnone h

/-- No white space at either end. -/
def Tight (cs : List Char) : Prop :=
  (∀ c ∈ cs.head?, isBlank c = false) ∧ ∀ c ∈ cs.getLast?, isBlank c = false

theorem tight_of_all {cs : List Char} (h : ∀ c ∈ cs, isBlank c = false) : Tight cs :=
  ⟨fun c hc => h c (List.mem_of_mem_head? hc), fun c hc => h c (List.mem_of_getLast? hc)⟩

/-- What stands between tight texts does not matter. -/
theorem tight_around {cs ds : List Char} (hcs : cs ≠ []) (hc : Tight cs) (hds : ds ≠ [])
    (hd : Tight ds) (mid : List Char) : Tight (cs ++ mid ++ ds) := by
  refine ⟨fun c hmem => ?_, fun c hmem => ?_⟩
  · obtain ⟨d, rest, rfl⟩ := List.exists_cons_of_ne_nil hcs
    exact hc.1 c hmem
  · rw [List.getLast?_append, Option.mem_def, Option.or_eq_some_iff] at hmem
    rcases hmem with hlast | ⟨hnone, -⟩
    · exact hd.2 c hlast
    · exact absurd (List.getLast?_eq_none_iff.mp hnone) hds

/-- Trimming takes away what stands around a tight text, if all of it is white space. -/
theorem trimChars_around {before cs after : List Char} (hb : ∀ c ∈ before, isBlank c = true)
    (ha : ∀ c ∈ after, isBlank c = true) (h : Tight cs) :
    trimChars (before ++ cs ++ after) = cs :=
  stripChars_around hb ha h

/-- A text is its trimmed form with white space around. -/
theorem exists_around (cs : List Char) : ∃ before after,
    (∀ c ∈ before, isBlank c = true) ∧ (∀ c ∈ after, isBlank c = true) ∧ Tight (trimChars cs) ∧
      cs = before ++ trimChars cs ++ after :=
  exists_stripped isBlank cs

theorem tight_trimChars (cs : List Char) : Tight (trimChars cs) :=
  clean_stripChars isBlank cs

theorem trimChars_of_tight {cs : List Char} (h : Tight cs) : trimChars cs = cs :=
  stripChars_of_clean h

theorem trimChars_blank_append {before : List Char} (h : ∀ c ∈ before, isBlank c = true)
    (cs : List Char) : trimChars (before ++ cs) = trimChars cs := by
  obtain ⟨front, back, hfront, hback, htight, hcs⟩ := exists_around cs
  have hboth : ∀ c ∈ before ++ front, isBlank c = true := by
    intro c hc
    exact (List.mem_append.mp hc).elim (h c) (hfront c)
  conv => lhs; rw [hcs, ← List.append_assoc, ← List.append_assoc]
  exact trimChars_around hboth hback htight

theorem trimChars_append_blank {after : List Char} (h : ∀ c ∈ after, isBlank c = true)
    (cs : List Char) : trimChars (cs ++ after) = trimChars cs := by
  obtain ⟨front, back, hfront, hback, htight, hcs⟩ := exists_around cs
  have hboth : ∀ c ∈ back ++ after, isBlank c = true := by
    intro c hc
    exact (List.mem_append.mp hc).elim (hback c) (h c)
  conv => lhs; rw [hcs, List.append_assoc]
  exact trimChars_around hfront hboth htight

theorem trim_of_tight {s : String} (h : Tight s.toList) : trim s = s := by
  rw [trim, trimChars_of_tight h, String.ofList_toList]

theorem trim_trim (s : String) : trim (trim s) = trim s := by
  apply trim_of_tight
  rw [toList_trim]
  exact tight_trimChars s.toList

theorem mem_of_mem_trim {s : String} {c : Char} (h : c ∈ (trim s).toList) : c ∈ s.toList := by
  rw [toList_trim] at h
  exact (infix_stripChars isBlank s.toList).subset h

theorem toList_stripChar (d : Char) (s : String) :
    (stripChar d s).toList = stripChars (· == d) s.toList :=
  String.toList_ofList

theorem mem_of_mem_stripChar {d : Char} {s : String} {c : Char}
    (h : c ∈ (stripChar d s).toList) : c ∈ s.toList := by
  rw [toList_stripChar] at h
  exact (infix_stripChars _ s.toList).subset h

/-- A character that stays keeps what stands before it. -/
theorem dropEndWhile_append {p : Char → Bool} {c : Char} (h : p c = false) (cs ds : List Char) :
    dropEndWhile p (cs ++ c :: ds) = cs ++ c :: dropEndWhile p ds := by
  have hstay : (c :: cs.reverse).dropWhile p = c :: cs.reverse := by
    rw [List.dropWhile_cons, h, if_neg (by decide)]
  rw [dropEndWhile, List.reverse_append, List.reverse_cons, List.append_assoc,
    List.singleton_append, List.dropWhile_append, hstay]
  split
  · next hnone => simp [dropEndWhile, List.isEmpty_iff.mp hnone]
  · simp [dropEndWhile]

theorem trimChars_append_cons {c : Char} {cs : List Char} (hcs : Tight cs)
    (hc : isBlank c = false) (ds : List Char) :
    trimChars (cs ++ c :: ds) = cs ++ c :: dropEndWhile isBlank ds := by
  have hhead : ∀ d ∈ (cs ++ c :: ds).head?, isBlank d = false := by
    cases cs with
    | nil => simpa using hc
    | cons d cs => simpa using hcs.1
  rw [trimChars, stripChars, dropWhile_eq_self hhead, dropEndWhile_append hc]

theorem trimChars_dropEndWhile (cs : List Char) :
    trimChars (dropEndWhile isBlank cs) = trimChars cs := by
  have hblank : ∀ c ∈ cs.rtakeWhile isBlank, isBlank c = true := fun _ => List.mem_rtakeWhile_imp
  rw [← trimChars_append_blank hblank, dropEndWhile_eq_rdropWhile,
    List.rdropWhile_append_rtakeWhile]

theorem trim_trimEnd (s : String) : trim (trimEnd s) = trim s := by
  rw [trim, trim, trimEnd, String.toList_ofList, trimChars_dropEndWhile]

theorem trim_eq_empty_iff {s : String} : trim s = "" ↔ isBlankText s = true := by
  rw [isBlankText_iff, ← String.toList_inj, toList_trim, String.toList_empty]
  constructor
  · intro h
    obtain ⟨before, after, hb, ha, _, hs⟩ := exists_around s.toList
    rw [h, List.append_nil] at hs
    rw [hs]
    exact fun c hc => (List.mem_append.mp hc).elim (hb c) (ha c)
  · intro h
    exact trimChars_append_blank h []

end Switchboard.Text
