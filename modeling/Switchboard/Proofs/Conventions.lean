import Switchboard.Proofs.CanonicalNames

namespace Switchboard.Proofs.Conventions
open Service Text LowerCase CanonicalNames

/-- Small ASCII letters and digits behind them, two characters at least. -/
structure Word where
  letters : List Char
  digits : List Char
  isLower_letters : ∀ c ∈ letters, c.isLower = true
  isDigit_digits : ∀ c ∈ digits, c.isDigit = true
  letters_ne_nil : letters ≠ []
  two_le_length : 2 ≤ letters.length + digits.length

namespace Word

def chars (w : Word) : List Char :=
  w.letters ++ w.digits

def text (w : Word) : String :=
  String.ofList w.chars

def capitalized (w : Word) : List Char :=
  match w.chars with
  | [] => []
  | c :: cs => c.toUpper :: cs

def capitals (w : Word) : List Char :=
  w.chars.map Char.toUpper

end Word

inductive Convention where
  | pascal
  | camel
  | snake
  | screaming
  | kebab
deriving Repr, DecidableEq

/-- The name of some words. -/
def Convention.spelling : Convention → List Word → List Char
  | .pascal, ws => ws.flatMap Word.capitalized
  | .camel, [] => []
  | .camel, w :: ws => w.chars ++ ws.flatMap Word.capitalized
  | .snake, ws => ['_'].intercalate (ws.map Word.chars)
  | .screaming, ws => ['_'].intercalate (ws.map Word.capitals)
  | .kebab, ws => ['-'].intercalate (ws.map Word.chars)

/-- A small ASCII letter or a digit. -/
def IsSmall (c : Char) : Prop :=
  c.isLower = true ∨ c.isDigit = true

instance : DecidablePred IsSmall := fun _ => inferInstanceAs (Decidable (_ ∨ _))

theorem ascii_of_isSmall {c : Char} (h : IsSmall c) : c.toNat < 128 := by
  have hword : c.isAlphanum = true := by
    rcases h with h | h
    · exact Bool.or_eq_true_iff.mpr (.inl (Bool.or_eq_true_iff.mpr (.inr h)))
    · exact Bool.or_eq_true_iff.mpr (.inr h)
  have hranges := toNat_of_isAlphanum hword
  omega

/-- A small character is written as it is, and a capital behind it starts a word. -/
structure Kept (c : Char) : Prop where
  notSeparator : isSeparator c = false
  notUpper : isUpper c = false
  lower_eq : lower c = [c]
  starts : startsWord c none = true

theorem IsSmall.kept {c : Char} (h : IsSmall c) : Kept c := by
  have hall : isSeparator c = false ∧ isUpper c = false ∧ lower c = [c] ∧
      startsWord c none = true :=
    ascii_forall (P := fun c => IsSmall c → isSeparator c = false ∧ isUpper c = false ∧
      lower c = [c] ∧ startsWord c none = true) (by decide +kernel) (ascii_of_isSmall h) h
  exact ⟨hall.1, hall.2.1, hall.2.2.1, hall.2.2.2⟩

/-- The capital of a small letter is written as this letter, and behind it a word goes on unless a
small letter follows. -/
structure Lowered (c : Char) : Prop where
  notSeparator : isSeparator c.toUpper = false
  upper : isUpper c.toUpper = true
  lower_eq : lower c.toUpper = [c]
  goesOn : startsWord c.toUpper none = false

theorem lowered {c : Char} (h : c.isLower = true) : Lowered c := by
  have hall : isSeparator c.toUpper = false ∧ isUpper c.toUpper = true ∧ lower c.toUpper = [c] ∧
      startsWord c.toUpper none = false :=
    ascii_forall (P := fun c => c.isLower = true → isSeparator c.toUpper = false ∧
      isUpper c.toUpper = true ∧ lower c.toUpper = [c] ∧ startsWord c.toUpper none = false)
      (by decide +kernel) (ascii_of_isSmall (.inl h)) h
  exact ⟨hall.1, hall.2.1, hall.2.2.1, hall.2.2.2⟩

theorem startsWord_of_none {c : Char} (h : startsWord c none = true) (after : Option Char) :
    startsWord c after = true := by
  simp only [startsWord, Option.any_none, Bool.and_false, Bool.or_false] at h
  simp [startsWord, h]

theorem not_startsWord_of_none {c : Char} {after : Option Char} (h : startsWord c none = false)
    (hafter : after.any isLower = false) : startsWord c after = false := by
  simp only [startsWord, Option.any_none, Bool.and_false, Bool.or_false] at h
  simp [startsWord, h, hafter]

theorem IsSmall.ne_hyphen {c : Char} (h : IsSmall c) : c ≠ '-' := by
  rintro rfl
  exact absurd h.kept.notSeparator (by decide)

theorem mayHyphenate_of_isSmall {c : Char} (h : IsSmall c) : mayHyphenate (some c) = true := by
  simp [mayHyphenate, h.ne_hyphen]

section
variable {last before : Option Char}

theorem spell_small {c : Char} (h : IsSmall c) (cs : List Char) :
    spell last before (c :: cs) = c :: spell (some c) (some c) cs := by
  obtain ⟨hseparator, hupper, hlower, -⟩ := h.kept
  rw [spell, if_neg (by simp [hseparator]), hlower]
  simp [hupper]

theorem spell_smalls {cs : List Char} (h : ∀ c ∈ cs, IsSmall c) (rest : List Char) :
    spell last before (cs ++ rest) =
      cs ++ spell (cs.getLast?.or last) (cs.getLast?.or before) rest := by
  induction cs generalizing last before with
  | nil => rfl
  | cons c cs ih =>
    obtain ⟨hc, hcs⟩ := List.forall_mem_cons.mp h
    rw [List.cons_append, spell_small hc, ih hcs, List.getLast?_cons]
    cases cs.getLast? <;> rfl

theorem spell_capital {c : Char} (h : c.isLower = true) (cs : List Char) :
    spell last before (c.toUpper :: cs) =
      if mayHyphenate last && before.any (startsWord · cs.head?) then
        '-' :: c :: spell (some c) (some c.toUpper) cs
      else c :: spell (some c) (some c.toUpper) cs := by
  obtain ⟨hseparator, hupper, hlower, -⟩ := lowered h
  rw [spell, if_neg (by simp [hseparator]), hlower]
  simp [hupper]

theorem head_capitals {cs rest : List Char} (hcs : ∀ c ∈ cs, c.isLower = true)
    (hrest : rest.head?.any isLower = false) :
    (cs.map Char.toUpper ++ rest).head?.any isLower = false := by
  cases cs with
  | nil => exact hrest
  | cons c cs =>
    have hgoesOn := (lowered (hcs c List.mem_cons_self)).goesOn
    simp only [startsWord, Bool.or_eq_false_iff] at hgoesOn
    exact hgoesOn.1.1

/-- Capitals before no small letter stay in one word. -/
theorem spell_capitals {cs rest : List Char} (hcs : ∀ c ∈ cs, c.isLower = true)
    (hrest : rest.head?.any isLower = false)
    (hlast : mayHyphenate last = true → before.any (startsWord · none) = false) :
    ∃ before', spell last before (cs.map Char.toUpper ++ rest) =
      cs ++ spell (cs.getLast?.or last) before' rest := by
  induction cs generalizing last before with
  | nil => exact ⟨before, rfl⟩
  | cons c cs ih =>
    obtain ⟨hc, hall⟩ := List.forall_mem_cons.mp hcs
    have hnext := head_capitals hall hrest
    have hjoined : ¬(mayHyphenate last &&
        before.any (startsWord · (cs.map Char.toUpper ++ rest).head?)) = true := by
      rw [Bool.and_eq_true]
      rintro ⟨hmay, hstarts⟩
      cases before with
      | none => cases hstarts
      | some b =>
        rw [Option.any_some, not_startsWord_of_none (hlast hmay) hnext] at hstarts
        cases hstarts
    have hbehind : mayHyphenate (some c) = true →
        (some c.toUpper).any (startsWord · none) = false := fun _ => (lowered hc).goesOn
    obtain ⟨before', hrest'⟩ := ih hall hbehind
    refine ⟨before', ?_⟩
    rw [List.map_cons, List.cons_append, spell_capital hc, if_neg hjoined, hrest',
      List.getLast?_cons]
    cases cs.getLast? <;> rfl

end

namespace Word

variable (w : Word)

theorem isSmall_chars : ∀ c ∈ w.chars, IsSmall c := by
  intro c hc
  rcases List.mem_append.mp hc with hc | hc
  · exact .inl (w.isLower_letters c hc)
  · exact .inr (w.isDigit_digits c hc)

/-- A word begins with a letter, and that is not all. -/
theorem chars_eq : ∃ c cs, w.chars = c :: cs ∧ c.isLower = true ∧ cs ≠ [] := by
  obtain ⟨c, letters, hletters⟩ := List.exists_cons_of_ne_nil w.letters_ne_nil
  refine ⟨c, letters ++ w.digits, by rw [chars, hletters, List.cons_append], ?_, ?_⟩
  · exact w.isLower_letters c (hletters ▸ List.mem_cons_self)
  · intro hnil
    have htwo := w.two_le_length
    obtain ⟨rfl, hdigits⟩ := List.append_eq_nil_iff.mp hnil
    rw [hletters, hdigits] at htwo
    exact absurd htwo (by simp)

theorem chars_ne_nil : w.chars ≠ [] :=
  List.append_ne_nil_of_left_ne_nil w.letters_ne_nil w.digits

theorem exists_last : ∃ d, IsSmall d ∧ w.chars.getLast? = some d :=
  ⟨w.chars.getLast w.chars_ne_nil, w.isSmall_chars _ (List.getLast_mem w.chars_ne_nil),
    List.getLast?_eq_some_getLast w.chars_ne_nil⟩

end Word

/-- The texts that `f` gives words are written as these words, where no hyphen may stand before them
and no small letter follows. -/
def KeepsWords (f : Word → List Char) : Prop :=
  ∀ w, ∃ d, IsSmall d ∧ ∀ last before rest, mayHyphenate last = false →
    rest.head?.any isLower = false → ∃ before',
      spell last before (f w ++ rest) = w.chars ++ spell (some d) before' rest

/-- Some small characters are read and written as they are, whatever stands around them. -/
theorem spell_some {cs : List Char} (hne : cs ≠ []) (h : ∀ c ∈ cs, IsSmall c) :
    ∃ d, IsSmall d ∧ ∀ last before rest,
      spell last before (cs ++ rest) = cs ++ spell (some d) (some d) rest := by
  refine ⟨cs.getLast hne, h _ (List.getLast_mem hne), fun last before rest => ?_⟩
  rw [spell_smalls h, List.getLast?_eq_some_getLast hne, Option.some_or, Option.some_or]

section
variable (w : Word)

theorem spell_chars : ∃ d, IsSmall d ∧ ∀ last before rest,
    spell last before (w.chars ++ rest) = w.chars ++ spell (some d) (some d) rest :=
  spell_some w.chars_ne_nil w.isSmall_chars

/-- Behind a small character the capital of a word takes a hyphen, and at the beginning none. -/
theorem spell_capitalized : ∃ d, IsSmall d ∧ ∀ rest,
    (spell none none (w.capitalized ++ rest) = w.chars ++ spell (some d) (some d) rest) ∧
    ∀ b, IsSmall b → spell (some b) (some b) (w.capitalized ++ rest) =
      '-' :: w.chars ++ spell (some d) (some d) rest := by
  obtain ⟨c, cs, hchars, hc, hne⟩ := w.chars_eq
  have hsmall : ∀ c ∈ cs, IsSmall c := fun d hd =>
    w.isSmall_chars d (hchars ▸ List.mem_cons_of_mem c hd)
  obtain ⟨d, hd, htail⟩ := spell_some hne hsmall
  have hcapitalized : w.capitalized = c.toUpper :: cs := by rw [Word.capitalized, hchars]
  refine ⟨d, hd, fun rest => ⟨?_, fun b hb => ?_⟩⟩
  · rw [hcapitalized, List.cons_append, spell_capital hc, if_neg (by simp), htail, hchars]
    rfl
  · have hstarts : (mayHyphenate (some b) &&
        (some b).any (startsWord · (cs ++ rest).head?)) = true := by
      rw [mayHyphenate_of_isSmall hb, Option.any_some, startsWord_of_none hb.kept.starts]
      rfl
    rw [hcapitalized, List.cons_append, spell_capital hc, if_pos hstarts, htail, hchars]
    rfl

theorem digit_facts {c : Char} (h : c.isDigit = true) : c.toUpper = c ∧ isLower c = false :=
  ascii_forall (P := fun c => c.isDigit = true → c.toUpper = c ∧ isLower c = false)
    (by decide +kernel) (ascii_of_isSmall (.inr h)) h

theorem Word.capitals_eq : w.capitals = w.letters.map Char.toUpper ++ w.digits := by
  have hdigits : w.digits.map Char.toUpper = w.digits := by
    rw [List.map_congr_left fun c hc => (digit_facts (w.isDigit_digits c hc)).1]
    exact List.map_id w.digits
  rw [Word.capitals, Word.chars, List.map_append, hdigits]

end

theorem keepsWords_chars : KeepsWords Word.chars := by
  intro w
  obtain ⟨d, hd, hspell⟩ := spell_chars w
  exact ⟨d, hd, fun last before rest _ _ => ⟨some d, hspell last before rest⟩⟩

/-- A word of capitals stays whole where no hyphen may stand before it. -/
theorem keepsWords_capitals : KeepsWords Word.capitals := by
  intro w
  obtain ⟨d, hsmall, hd⟩ := w.exists_last
  refine ⟨d, hsmall, fun last before rest hlast hrest => ?_⟩
  have hnext : (w.digits ++ rest).head?.any isLower = false := by
    cases hdigits : w.digits with
    | nil => exact hrest
    | cons c digits =>
      exact (digit_facts (w.isDigit_digits c (hdigits ▸ List.mem_cons_self))).2
  have hquiet : mayHyphenate last = true → before.any (startsWord · none) = false := by
    rw [hlast]
    exact nofun
  obtain ⟨before', hletters⟩ := spell_capitals w.isLower_letters hnext hquiet
  refine ⟨w.digits.getLast?.or before', ?_⟩
  have hlast' : w.digits.getLast?.or (w.letters.getLast?.or last) = some d := by
    rw [Word.chars, List.getLast?_append] at hd
    rw [← Option.or_assoc, hd, Option.some_or]
  rw [w.capitals_eq, List.append_assoc, hletters,
    spell_smalls fun c hc => .inr (w.isDigit_digits c hc), hlast', Word.chars, List.append_assoc]

theorem spell_flatMap_capitalized {b : Char} (hb : IsSmall b) (ws : List Word) :
    spell (some b) (some b) (ws.flatMap Word.capitalized) = ws.flatMap ('-' :: ·.chars) := by
  induction ws generalizing b with
  | nil => rfl
  | cons w ws ih =>
    obtain ⟨d, hd, hspell⟩ := spell_capitalized w
    rw [List.flatMap_cons, List.flatMap_cons, (hspell _).2 b hb, ih hd]

section
variable {sep : Char} {f : Word → List Char}

theorem head_separated (hlower : isLower sep = false) (ws : List Word) :
    (ws.flatMap (sep :: f ·)).head?.any isLower = false := by
  cases ws with
  | nil => rfl
  | cons w ws => exact hlower

/-- Separators become hyphens, however the words between them are written. -/
theorem spell_flatMap_separated (hsep : isSeparator sep = true) (hlower : isLower sep = false)
    (hf : KeepsWords f) {b : Char} (hb : IsSmall b) (before : Option Char) (ws : List Word) :
    spell (some b) before (ws.flatMap (sep :: f ·)) = ws.flatMap ('-' :: ·.chars) := by
  induction ws generalizing b before with
  | nil => rfl
  | cons w ws ih =>
    obtain ⟨d, hd, hspell⟩ := hf w
    obtain ⟨before', hword⟩ :=
      hspell (some '-') (some sep) _ (by decide) (head_separated hlower ws)
    rw [List.flatMap_cons, List.flatMap_cons, List.cons_append, spell, if_pos hsep,
      if_pos (mayHyphenate_of_isSmall hb), hword, ih hd]
    rfl

theorem spell_separated (hsep : isSeparator sep = true) (hlower : isLower sep = false)
    (hf : KeepsWords f) (ws : List Word) :
    spell none none ([sep].intercalate (ws.map f)) = ['-'].intercalate (ws.map Word.chars) := by
  cases ws with
  | nil => rfl
  | cons w ws =>
    obtain ⟨d, hd, hspell⟩ := hf w
    obtain ⟨before', hword⟩ := hspell none none _ rfl (head_separated hlower ws)
    rw [List.map_cons, List.map_cons, intercalate_cons, intercalate_cons, List.flatMap_map,
      List.flatMap_map, hword, spell_flatMap_separated hsep hlower hf hd]

end

theorem spell_spelling (convention : Convention) (ws : List Word) :
    spell none none (convention.spelling ws) = ['-'].intercalate (ws.map Word.chars) := by
  have hunderscore : isSeparator '_' = true ∧ isLower '_' = false := by decide
  have hhyphen : isSeparator '-' = true ∧ isLower '-' = false := by decide
  cases convention with
  | snake => exact spell_separated hunderscore.1 hunderscore.2 keepsWords_chars ws
  | screaming => exact spell_separated hunderscore.1 hunderscore.2 keepsWords_capitals ws
  | kebab => exact spell_separated hhyphen.1 hhyphen.2 keepsWords_chars ws
  | pascal =>
    cases ws with
    | nil => rfl
    | cons w ws =>
      obtain ⟨d, hd, hspell⟩ := spell_capitalized w
      rw [Convention.spelling, List.flatMap_cons, (hspell _).1, spell_flatMap_capitalized hd,
        List.map_cons, intercalate_cons, List.flatMap_map]
  | camel =>
    cases ws with
    | nil => rfl
    | cons w ws =>
      obtain ⟨d, hd, hspell⟩ := spell_chars w
      rw [Convention.spelling, hspell, spell_flatMap_capitalized hd, List.map_cons,
        intercalate_cons, List.flatMap_map]

theorem not_blank_of_isSmall {c : Char} (h : IsSmall c) :
    isBlank c = false ∧ isBlank c.toUpper = false :=
  ascii_forall (P := fun c => IsSmall c → isBlank c = false ∧ isBlank c.toUpper = false)
    (by decide +kernel) (ascii_of_isSmall h) h

theorem Word.not_blank (w : Word) : (∀ c ∈ w.chars, isBlank c = false) ∧
    (∀ c ∈ w.capitals, isBlank c = false) ∧ ∀ c ∈ w.capitalized, isBlank c = false := by
  have hchars : ∀ c ∈ w.chars, isBlank c = false := fun c hc =>
    (not_blank_of_isSmall (w.isSmall_chars c hc)).1
  have hcapitals : ∀ c ∈ w.capitals, isBlank c = false := by
    intro c hc
    obtain ⟨d, hd, rfl⟩ := List.mem_map.mp hc
    exact (not_blank_of_isSmall (w.isSmall_chars d hd)).2
  refine ⟨hchars, hcapitals, ?_⟩
  obtain ⟨c, cs, hw, -, -⟩ := w.chars_eq
  rw [hw] at hchars
  rw [Word.capitals, hw] at hcapitals
  rw [Word.capitalized, hw]
  exact List.forall_mem_cons.mpr
    ⟨hcapitals _ List.mem_cons_self, (List.forall_mem_cons.mp hchars).2⟩

theorem not_blank_intercalate {sep : Char} (hsep : isBlank sep = false) {f : Word → List Char}
    (hf : ∀ w, ∀ c ∈ f w, isBlank c = false) (ws : List Word) :
    ∀ c ∈ [sep].intercalate (ws.map f), isBlank c = false := by
  intro c hc
  rcases mem_intercalate hc with rfl | ⟨p, hp, hcp⟩
  · exact hsep
  · obtain ⟨w, -, rfl⟩ := List.mem_map.mp hp
    exact hf w c hcp

theorem not_blank_flatMap {f : Word → List Char} (hf : ∀ w, ∀ c ∈ f w, isBlank c = false)
    (ws : List Word) : ∀ c ∈ ws.flatMap f, isBlank c = false := by
  intro c hc
  obtain ⟨w, -, hcw⟩ := List.mem_flatMap.mp hc
  exact hf w c hcw

theorem not_blank_spelling (convention : Convention) (ws : List Word) :
    ∀ c ∈ convention.spelling ws, isBlank c = false := by
  cases convention with
  | pascal => exact not_blank_flatMap (fun w => w.not_blank.2.2) ws
  | snake => exact not_blank_intercalate (by decide) (fun w => w.not_blank.1) ws
  | screaming => exact not_blank_intercalate (by decide) (fun w => w.not_blank.2.1) ws
  | kebab => exact not_blank_intercalate (by decide) (fun w => w.not_blank.1) ws
  | camel =>
    cases ws with
    | nil => exact nofun
    | cons w ws =>
      intro c hc
      rcases List.mem_append.mp hc with hc | hc
      · exact w.not_blank.1 c hc
      · exact not_blank_flatMap (fun w => w.not_blank.2.2) ws c hc

theorem last_intercalate (w : Word) (ws : List Word) : ∃ d, IsSmall d ∧
    (['-'].intercalate ((w :: ws).map Word.chars)).getLast? = some d := by
  induction ws generalizing w with
  | nil =>
    obtain ⟨d, hsmall, hd⟩ := w.exists_last
    exact ⟨d, hsmall, by simpa using hd⟩
  | cons w' ws ih =>
    obtain ⟨d, hsmall, hd⟩ := ih w'
    refine ⟨d, hsmall, ?_⟩
    rw [List.map_cons, List.map_cons, List.intercalate_cons_cons, List.getLast?_append,
      ← List.map_cons, hd, Option.some_or]

theorem hyphen_not_last (ws : List Word) :
    '-' ∉ (['-'].intercalate (ws.map Word.chars)).getLast? := by
  cases ws with
  | nil => exact nofun
  | cons w ws =>
    obtain ⟨d, hsmall, hd⟩ := last_intercalate w ws
    rw [hd]
    exact fun hmem => hsmall.ne_hyphen (Option.some.inj hmem)

/-- Whatever convention puts the words together, and whatever white space stands around, the
canonical form of the name has one hyphen between neighbours. -/
theorem hyphenate_spelling (convention : Convention) (ws : List Word) (front back : String)
    (hfront : isBlankText front = true) (hback : isBlankText back = true) :
    hyphenate (front ++ String.ofList (convention.spelling ws) ++ back) =
      join "-" (ws.map Word.text) := by
  have hname : trimChars (front ++ String.ofList (convention.spelling ws) ++ back).toList =
      convention.spelling ws := by
    rw [String.toList_append, String.toList_append, String.toList_ofList]
    exact trimChars_around ((isBlankText_iff front).mp hfront) ((isBlankText_iff back).mp hback)
      (tight_of_all (not_blank_spelling convention ws))
  have htexts : (ws.map Word.text).map String.toList = ws.map Word.chars := by
    simp [Word.text, Function.comp_def]
  rw [← String.toList_inj, toList_join, htexts, toList_hyphenate_of_last, hname, spell_spelling]
  · rfl
  · rw [hname, spell_spelling]
    exact hyphen_not_last ws

def http2 : Word :=
  ⟨['h', 't', 't', 'p'], ['2'], List.all_eq_true.mp rfl, List.all_eq_true.mp rfl, by simp, by simp⟩

def server : Word :=
  ⟨['s', 'e', 'r', 'v', 'e', 'r'], [], List.all_eq_true.mp rfl, List.all_eq_true.mp rfl, by simp,
    by simp⟩

theorem http2Server_hyphenated :
    isBlankText "\t" = true ∧ isBlankText "\n " = true ∧
    "\t" ++ String.ofList (Convention.screaming.spelling [http2, server]) ++ "\n " =
      "\tHTTP2_SERVER\n " ∧
    hyphenate "\tHTTP2_SERVER\n " = "http2-server" ∧ hyphenate "Http2Server" = "http2-server" := by
  have hscreaming := hyphenate_spelling .screaming [http2, server] "\t" "\n " rfl rfl
  have hpascal := hyphenate_spelling .pascal [http2, server] "" "" rfl rfl
  exact ⟨rfl, rfl, rfl, hscreaming, hpascal⟩

end Switchboard.Proofs.Conventions
