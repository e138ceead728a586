import Mathlib.Data.List.Forall2
import Switchboard.Proofs.Chains
import Switchboard.Proofs.Rendering

namespace Switchboard.Proofs.Patterns
open Route Text TemplateLanguage Rendering

/-- A non-empty word of ASCII letters, digits, `_` and `-`. -/
def IsName (n : String) : Prop :=
  n ≠ "" ∧ ∀ c ∈ n.toList, c.isAlphanum = true ∨ c = '_' ∨ c = '-'

/-- A piece that stands for itself. -/
def IsLiteral (p : String) : Prop :=
  '\x7b' ∉ p.toList ∧ '\x7d' ∉ p.toList ∧ p.toList.head? ≠ some ':' ∧ p ≠ "*" ∧ p ≠ "**"

instance : DecidablePred IsLiteral := fun _ => inferInstanceAs (Decidable (_ ∧ _))

/-- The pieces that stand for segments. -/
inductive Stands : String → Segment → Prop where
  | literal {p : String} (h : IsLiteral p) : Stands p (.literal p)
  | braced {n : String} (h : IsName n) : Stands ("\x7b" ++ n ++ "\x7d") (.variable n)
  | colon {n : String} (h : IsName n) : Stands (":" ++ n) (.variable n)
  | star : Stands "*" (.wildcard Segment.anonymous)
  | stars : Stands "**" (.wildcard Segment.anonymous)
  | bracedStar {n : String} (h : IsName n) : Stands ("\x7b*" ++ n ++ "\x7d") (.wildcard n)
  | bracedPlus {n : String} (h : IsName n) : Stands ("\x7b+" ++ n ++ "\x7d") (.wildcard n)

theorem isName_ofList_iff (cs : List Char) :
    Segment.isName cs = true ↔ IsName (String.ofList cs) := by
  unfold Segment.isName IsName
  rw [String.toList_ofList, ne_eq, ← String.toList_inj, String.toList_ofList]
  simp [Segment.isNameChar, or_assoc]

theorem IsName.isName (h : IsName n) : Segment.isName n.toList = true := by
  rw [isName_ofList_iff, String.ofList_toList]
  exact h

theorem unbraced?_eq_some_iff {cs inner : List Char} :
    Segment.unbraced? cs = some inner ↔ cs = '\x7b' :: (inner ++ ['\x7d']) := by
  unfold Segment.unbraced?
  split
  · next rest =>
    rw [List.cons.injEq, and_iff_right rfl]
    split
    · next hlast =>
      rw [Option.some.injEq]
      constructor
      · rintro rfl
        exact (List.dropLast_append_getLast? _ hlast).symm
      · rintro rfl
        exact List.dropLast_concat
    · next hlast =>
      refine iff_of_false nofun ?_
      rintro rfl
      exact hlast List.getLast?_concat
  · next hhead =>
    refine iff_of_false nofun ?_
    rintro rfl
    exact hhead _ rfl

theorem stands_of_ofBraced? {inner : List Char} (hp : p.toList = '\x7b' :: (inner ++ ['\x7d']))
    (h : Segment.ofBraced? inner = some s) : Stands p s := by
  unfold Segment.ofBraced? at h
  split at h <;> split at h <;> cases h
  · next name hname =>
    have hpiece : p = "\x7b*" ++ String.ofList name ++ "\x7d" := by simp [← String.toList_inj, hp]
    exact hpiece ▸ .bracedStar ((isName_ofList_iff name).mp hname)
  · next name hname =>
    have hpiece : p = "\x7b+" ++ String.ofList name ++ "\x7d" := by simp [← String.toList_inj, hp]
    exact hpiece ▸ .bracedPlus ((isName_ofList_iff name).mp hname)
  · next hname =>
    have hpiece : p = "\x7b" ++ String.ofList inner ++ "\x7d" := by simp [← String.toList_inj, hp]
    exact hpiece ▸ .braced ((isName_ofList_iff inner).mp hname)

theorem stands_of_ofPiece? (h : Segment.ofPiece? p = some s) : Stands p s := by
  unfold Segment.ofPiece? at h
  split at h
  · next hp =>
    obtain rfl : p = "*" := String.toList_inj.mp hp
    cases h
    exact .star
  · next hp =>
    obtain rfl : p = "**" := String.toList_inj.mp hp
    cases h
    exact .stars
  · next name hp =>
    split at h <;> cases h
    next hname =>
    have hpiece : p = ":" ++ String.ofList name := by simp [← String.toList_inj, hp]
    exact hpiece ▸ .colon ((isName_ofList_iff name).mp hname)
  · next hstar hstars hcolon =>
    split at h
    · obtain ⟨inner, hinner, hs⟩ := Option.bind_eq_some_iff.mp h
      exact stands_of_ofBraced? (unbraced?_eq_some_iff.mp hinner) hs
    · next hbraces =>
      cases h
      refine .literal ⟨?_, ?_, ?_, ?_, ?_⟩
      · simp_all
      · simp_all
      · intro hhead
        obtain ⟨name, hname⟩ := List.head?_eq_some_iff.mp hhead
        exact hcolon name hname
      · rintro rfl
        exact hstar rfl
      · rintro rfl
        exact hstars rfl

theorem ofPiece?_braced (inner : String) :
    Segment.ofPiece? ("\x7b" ++ inner ++ "\x7d") = Segment.ofBraced? inner.toList := by
  have hpiece : ("\x7b" ++ inner ++ "\x7d").toList = '\x7b' :: (inner.toList ++ ['\x7d']) := by simp
  unfold Segment.ofPiece?
  simp [hpiece, unbraced?_eq_some_iff.mpr rfl]

theorem IsName.not_mem (h : IsName n) {c : Char} (hc : Segment.isNameChar c = false) :
    c ∉ n.toList := by
  intro hmem
  have hname := h.isName
  rw [Segment.isName, Bool.and_eq_true] at hname
  exact absurd (List.all_eq_true.mp hname.2 c hmem) (by simp [hc])

theorem IsName.ofBraced? (h : IsName n) : Segment.ofBraced? n.toList = some (.variable n) := by
  unfold Segment.ofBraced?
  split
  · next name hn => exact absurd (hn ▸ List.mem_cons_self) (h.not_mem (c := '*') (by decide))
  · next name hn => exact absurd (hn ▸ List.mem_cons_self) (h.not_mem (c := '+') (by decide))
  · rw [if_pos h.isName, String.ofList_toList]

theorem Stands.ofPiece? (h : Stands p s) : Segment.ofPiece? p = some s := by
  cases h with
  | star => rfl
  | stars => rfl
  | colon h =>
    unfold Segment.ofPiece?
    simp [h.isName]
  | braced h => rw [ofPiece?_braced, h.ofBraced?]
  | @bracedStar n h =>
    have hinner : "\x7b*" ++ n ++ "\x7d" = "\x7b" ++ ("*" ++ n) ++ "\x7d" := by
      simp [← String.toList_inj]
    rw [hinner, ofPiece?_braced]
    simp [Segment.ofBraced?, h.isName]
  | @bracedPlus n h =>
    have hinner : "\x7b+" ++ n ++ "\x7d" = "\x7b" ++ ("+" ++ n) ++ "\x7d" := by
      simp [← String.toList_inj]
    rw [hinner, ofPiece?_braced]
    simp [Segment.ofBraced?, h.isName]
  | literal h =>
    obtain ⟨hopen, hclose, hcolon, hstar, hstars⟩ := h
    unfold Segment.ofPiece?
    split
    · next hp => exact absurd (String.toList_inj.mp hp) hstar
    · next hp => exact absurd (String.toList_inj.mp hp) hstars
    · next name hp => exact absurd (hp ▸ rfl) hcolon
    · simp [hopen, hclose]

/-- A piece is read as the segment that it stands for. -/
theorem ofPiece?_eq_some_iff : Segment.ofPiece? p = some s ↔ Stands p s :=
  ⟨stands_of_ofPiece?, Stands.ofPiece?⟩

theorem Stands.unique (h : Stands p s) (h' : Stands p t) : s = t :=
  Option.some.inj (h.ofPiece?.symm.trans h'.ofPiece?)

theorem stands_of_readPieces {before : List Segment} {pieces : List String}
    (hr : Template.readPieces pattern before pieces = .ok segments) :
    ∃ read, segments = before.reverse ++ read ∧ List.Forall₂ Stands pieces read := by
  induction pieces generalizing before with
  | nil =>
    obtain rfl := Except.ok.inj hr
    exact ⟨[], (List.append_nil _).symm, .nil⟩
  | cons piece pieces ih =>
    obtain ⟨s, hs, -, -, hrest⟩ := readPieces_cons hr
    obtain ⟨read, rfl, hread⟩ := ih hrest
    exact ⟨s :: read, by simp, .cons (ofPiece?_eq_some_iff.mp hs) hread⟩

/-- In well-formed segments only the last one is a wildcard, and no name comes back. -/
theorem of_wellFormed_append_cons {front : List Segment} (h : WellFormed (front ++ s :: back)) :
    (s.isWildcard = true → back = []) ∧
    ∀ n, s.name? = some n → n ∉ front.filterMap Segment.name? := by
  constructor
  · intro hs
    cases s with
    | wildcard n =>
      have hlast := h.wildcardLast front.length n (by simp)
      simpa using hlast
    | literal _ | «variable» _ => cases hs
  · intro n hn hmem
    have hdistinct := h.distinct
    rw [List.filterMap_append, List.nodup_append] at hdistinct
    exact hdistinct.2.2 n hmem n (List.mem_filterMap.mpr ⟨s, List.mem_cons_self, hn⟩) rfl

theorem any_name_iff {before : List Segment} {n : String} :
    before.any (·.name? = some n) = true ↔ n ∈ before.filterMap Segment.name? := by
  simp

theorem last_or_fixed {s : Segment} {rest : List String} (h : s.isWildcard = true → rest = []) :
    (s.isWildcard && !rest.isEmpty) = false := by
  cases hs : s.isWildcard with
  | false => rfl
  | true => rw [h hs]; rfl

/-- Reading goes on behind a piece that stands for a segment, under a new name if it has one. -/
theorem readPieces_step {before : List Segment} (hs : Stands piece s)
    (hlast : s.isWildcard = true → rest = [])
    (hnew : ∀ n, s.name? = some n → n ∉ before.filterMap Segment.name?) :
    Template.readPieces pattern before (piece :: rest) =
      Template.readPieces pattern (s :: before) rest := by
  rw [Template.readPieces]
  simp only [hs.ofPiece?, last_or_fixed hlast, Bool.false_eq_true, if_false]
  cases hn : s.name? with
  | none => rfl
  | some n =>
    have hfresh := hnew n hn
    rw [← any_name_iff] at hfresh
    simp only [hfresh]
    rfl

theorem readPieces_of_stands {before : List Segment} {pieces : List String}
    (h : List.Forall₂ Stands pieces segments) (hw : WellFormed (before.reverse ++ segments)) :
    Template.readPieces pattern before pieces = .ok (before.reverse ++ segments) := by
  induction h generalizing before with
  | nil => simp [Template.readPieces]
  | @cons piece s pieces segments hs hrest ih =>
    obtain ⟨hlast, hnew⟩ := of_wellFormed_append_cons hw
    have hend : s.isWildcard = true → pieces = [] := by
      intro hwild
      obtain rfl := hlast hwild
      cases hrest
      rfl
    rw [readPieces_step hs hend (by simpa using hnew), ih (by simpa using hw)]
    simp

theorem parse_eq_ok_iff_read : Template.parse pattern = .ok t ↔ t.pattern = pattern ∧
    Template.readPieces pattern [] (pathSegments pattern) = .ok t.segments := by
  constructor
  · intro hp
    have hread := readPieces_of_parse hp
    rw [Template.parse, hread] at hp
    exact ⟨(congrArg Template.pattern (Except.ok.inj hp)).symm, hread⟩
  · rintro ⟨rfl, hread⟩
    rw [Template.parse, hread]
    rfl

/-- A pattern is read as the segments that its pieces stand for, if they are well formed. -/
theorem parse_eq_ok_iff : Template.parse pattern = .ok t ↔
    t.pattern = pattern ∧ List.Forall₂ Stands (pathSegments pattern) t.segments ∧
      WellFormed t.segments := by
  constructor
  · intro hp
    obtain ⟨hpattern, hread⟩ := parse_eq_ok_iff_read.mp hp
    obtain ⟨read, hsegments, hstands⟩ := stands_of_readPieces hread
    obtain rfl : t.segments = read := hsegments
    exact ⟨hpattern, hstands, parse_wellFormed hp⟩
  · rintro ⟨hpattern, hstands, hw⟩
    have hwhole : WellFormed (([] : List Segment).reverse ++ t.segments) := hw
    exact parse_eq_ok_iff_read.mpr ⟨hpattern, readPieces_of_stands hstands hwhole⟩

/-- What is wrong with a piece, where `passed` stands before it and `rest` behind it. A piece that
stands for no segment is not looked at further, and neither is a wildcard that is not the last. -/
inductive Fault (pattern : String) (passed : List String) (piece : String) (rest : List String) :
    Template.Error → Prop where
  | malformed (h : ∀ s, ¬Stands piece s) :
      Fault pattern passed piece rest (.malformed pattern piece)
  | wildcardNotLast {n : String} (h : Stands piece (.wildcard n)) (hrest : rest ≠ []) :
      Fault pattern passed piece rest (.wildcardNotLast pattern)
  | duplicate {s : Segment} {n : String} (h : Stands piece s)
      (hlast : s.isWildcard = true → rest = []) (hn : s.name? = some n)
      (hpassed : ∃ q ∈ passed, ∃ t, Stands q t ∧ t.name? = some n) :
      Fault pattern passed piece rest (.duplicate pattern n)

/-- Nothing is wrong with the pieces of `front`, where `passed` stands before them and `rest`
behind them. -/
def Faultless (pattern : String) (passed front rest : List String) : Prop :=
  ∀ init piece tail, front = init ++ piece :: tail →
    ∀ e, ¬Fault pattern (passed ++ init) piece (tail ++ rest) e

/-- The leftmost piece with which something is wrong gives the error. -/
def FirstFault (pattern : String) (pieces : List String) (e : Template.Error) : Prop :=
  ∃ front piece rest, pieces = front ++ piece :: rest ∧
    Faultless pattern [] front (piece :: rest) ∧ Fault pattern front piece rest e

theorem faultless_nil (pattern : String) (passed rest : List String) :
    Faultless pattern passed [] rest := by
  intro init piece tail h
  simp at h

theorem faultless_cons_iff : Faultless pattern passed (piece :: front) rest ↔
    (∀ e, ¬Fault pattern passed piece (front ++ rest) e) ∧
      Faultless pattern (passed ++ [piece]) front rest := by
  constructor
  · intro h
    refine ⟨fun e => ?_, ?_⟩
    · simpa using h [] piece front rfl e
    · rintro init q tail rfl
      simpa using h (piece :: init) q tail rfl
  · rintro ⟨hpiece, hfront⟩ init q tail h
    cases init with
    | nil =>
      obtain ⟨rfl, rfl⟩ := List.cons.inj h
      simpa using hpiece
    | cons p init =>
      obtain ⟨rfl, rfl⟩ := List.cons.inj h
      simpa using hfront init q tail rfl

section
variable {passed : List String} {before : List Segment}
  (hb : List.Forall₂ Stands passed before.reverse)
include hb

/-- The names that the pieces passed give are those of the segments that they stand for. -/
theorem mem_names_iff_passed (n : String) : n ∈ before.filterMap Segment.name? ↔
    ∃ q ∈ passed, ∃ t, Stands q t ∧ t.name? = some n := by
  rw [List.mem_filterMap]
  constructor
  · rintro ⟨t, ht, hn⟩
    obtain ⟨q, hq, hstands⟩ := Chains.exists_of_mem_right hb (List.mem_reverse.mpr ht)
    exact ⟨q, hq, t, hstands, hn⟩
  · rintro ⟨q, hq, t, hstands, hn⟩
    obtain ⟨t', ht', hstands'⟩ := Chains.exists_of_mem_right hb.flip hq
    obtain rfl := hstands.unique hstands'
    exact ⟨t, List.mem_reverse.mp ht', hn⟩

theorem readPieces_of_fault (hf : Fault pattern passed piece rest e) :
    Template.readPieces pattern before (piece :: rest) = .error e := by
  rw [Template.readPieces]
  cases hf with
  | malformed h =>
    have hnone : Segment.ofPiece? piece = none := by
      rw [Option.eq_none_iff_forall_ne_some]
      intro s hs
      exact h s (ofPiece?_eq_some_iff.mp hs)
    rw [hnone]
  | wildcardNotLast h hrest => simp [h.ofPiece?, Segment.isWildcard, hrest]
  | @duplicate s n h hlast hn hpassed =>
    have hused := any_name_iff.mpr ((mem_names_iff_passed hb n).mpr hpassed)
    simp only [h.ofPiece?, last_or_fixed hlast, hn, hused, Bool.false_eq_true, if_false, if_true]

theorem readPieces_of_faultless (hf : ∀ e, ¬Fault pattern passed piece rest e) :
    ∃ s, Stands piece s ∧ Template.readPieces pattern before (piece :: rest) =
      Template.readPieces pattern (s :: before) rest := by
  obtain ⟨s, hs⟩ : ∃ s, Stands piece s := by
    by_contra hnone
    exact hf _ (.malformed (not_exists.mp hnone))
  have hlast : s.isWildcard = true → rest = [] := by
    intro hwild
    cases s with
    | wildcard n =>
      by_contra hrest
      exact hf _ (.wildcardNotLast hs hrest)
    | literal _ | «variable» _ => cases hwild
  refine ⟨s, hs, readPieces_step hs hlast ?_⟩
  intro n hn
  rw [mem_names_iff_passed hb]
  exact fun hpassed => hf _ (.duplicate hs hlast hn hpassed)

theorem stands_append (hs : Stands piece s) :
    List.Forall₂ Stands (passed ++ [piece]) (s :: before).reverse := by
  rw [List.reverse_cons]
  exact List.rel_append hb (.cons hs .nil)

end

/-- Reading goes on behind pieces with which nothing is wrong. -/
theorem readPieces_append {passed : List String} {before : List Segment}
    (hb : List.Forall₂ Stands passed before.reverse) (hf : Faultless pattern passed front rest) :
    ∃ read, List.Forall₂ Stands front read ∧
      Template.readPieces pattern before (front ++ rest) =
        Template.readPieces pattern (read.reverse ++ before) rest := by
  induction front generalizing passed before with
  | nil => exact ⟨[], .nil, rfl⟩
  | cons piece front ih =>
    obtain ⟨hpiece, hfront⟩ := faultless_cons_iff.mp hf
    obtain ⟨s, hs, hstep⟩ := readPieces_of_faultless hb hpiece
    obtain ⟨read, hread, hrest⟩ := ih (stands_append hb hs) hfront
    exact ⟨s :: read, .cons hs hread, by rw [List.cons_append, hstep, hrest]; simp⟩

theorem readPieces_of_firstFault {pieces : List String} (h : FirstFault pattern pieces e) :
    Template.readPieces pattern [] pieces = .error e := by
  obtain ⟨front, piece, rest, rfl, hfront, hf⟩ := h
  have hempty : List.Forall₂ Stands [] ([] : List Segment).reverse := .nil
  obtain ⟨read, hread, hrest⟩ := readPieces_append hempty hfront
  rw [hrest]
  exact readPieces_of_fault (by simpa using hread) hf

theorem fault_of_readPieces {passed pieces : List String} {before : List Segment}
    (hb : List.Forall₂ Stands passed before.reverse)
    (h : Template.readPieces pattern before pieces = .error e) :
    ∃ front piece rest, pieces = front ++ piece :: rest ∧
      Faultless pattern passed front (piece :: rest) ∧
        Fault pattern (passed ++ front) piece rest e := by
  induction pieces generalizing passed before with
  | nil => cases h
  | cons piece pieces ih =>
    by_cases hfault : ∃ e', Fault pattern passed piece pieces e'
    · obtain ⟨e', hf⟩ := hfault
      rw [readPieces_of_fault hb hf] at h
      obtain rfl := Except.error.inj h
      exact ⟨[], piece, pieces, rfl, faultless_nil _ _ _, by simpa using hf⟩
    · have hpiece := not_exists.mp hfault
      obtain ⟨s, hs, hstep⟩ := readPieces_of_faultless hb hpiece
      rw [hstep] at h
      obtain ⟨front, q, rest, rfl, hfront, hf⟩ := ih (stands_append hb hs) h
      exact ⟨piece :: front, q, rest, rfl, faultless_cons_iff.mpr ⟨hpiece, hfront⟩,
        by simpa using hf⟩

theorem parse_eq_error_iff : Template.parse pattern = .error e ↔
    FirstFault pattern (pathSegments pattern) e := by
  rw [Template.parse, Chains.map_error_iff]
  constructor
  · intro h
    exact fault_of_readPieces .nil h
  · exact readPieces_of_firstFault

theorem Stands.isLiteral (h : Stands p s) : s.isLiteral = decide (IsLiteral p) := by
  symm
  cases h with
  | literal h => exact decide_eq_true h
  | star | stars => rfl
  | _ => exact decide_eq_false fun h => by simp [IsLiteral] at h

theorem literalCount_of_stands {t : Template} {pieces : List String}
    (h : List.Forall₂ Stands pieces t.segments) : t.literalCount = pieces.countP (IsLiteral ·) := by
  unfold Template.literalCount
  generalize t.segments = segments at h
  induction h with
  | nil => rfl
  | cons hs _ ih => rw [List.countP_cons, List.countP_cons, ih, hs.isLiteral]

theorem IsName.piece_wildcard (h : IsName n) :
    (Segment.wildcard n).piece = "\x7b*" ++ n ++ "\x7d" := by
  refine if_neg ?_
  rintro rfl
  exact h.not_mem (c := '*') (by decide) List.mem_cons_self

/-- The canonical piece of a segment stands for it. -/
theorem Stands.piece (h : Stands p s) : Stands s.piece s := by
  cases h with
  | literal h => exact .literal h
  | braced h | colon h => exact .braced h
  | star | stars => exact .star
  | bracedStar h | bracedPlus h =>
    rw [h.piece_wildcard]
    exact .bracedStar h

theorem Stands.isPiece (h : Stands p s) (hp : IsPiece p) : IsPiece s.piece := by
  have hslash : Segment.isNameChar '/' = false := by decide
  cases h with
  | literal h => exact hp
  | braced h | colon h =>
    exact ⟨by simp [Segment.piece], by simpa [Segment.piece] using h.not_mem hslash⟩
  | star | stars => exact ⟨by decide, by decide⟩
  | bracedStar h | bracedPlus h =>
    rw [h.piece_wildcard]
    exact ⟨by simp, by simpa using h.not_mem hslash⟩

theorem stands_pieces {pieces : List String} (h : List.Forall₂ Stands pieces segments)
    (hp : ∀ p ∈ pieces, IsPiece p) : List.Forall₂ Stands (segments.map Segment.piece) segments ∧
      ∀ p ∈ segments.map Segment.piece, IsPiece p := by
  induction h with
  | nil => exact ⟨.nil, hp⟩
  | cons hs _ ih =>
    obtain ⟨hpiece, hrest⟩ := List.forall_mem_cons.mp hp
    obtain ⟨hstands, hall⟩ := ih hrest
    exact ⟨.cons hs.piece hstands, List.forall_mem_cons.mpr ⟨hs.isPiece hpiece, hall⟩⟩

/-- The canonical pieces of a template, with slashes between them, are a pattern of it. -/
theorem parse_spaced (hp : Template.parse pattern = .ok t)
    (hs : Spaced (t.segments.map Segment.piece) again.toList) :
    Template.parse again = .ok ⟨again, t.segments⟩ := by
  obtain ⟨-, hstands, hw⟩ := parse_eq_ok_iff.mp hp
  obtain ⟨hagain, hpieces⟩ := stands_pieces hstands fun _ hmem => of_mem_words hmem
  have hsegments : pathSegments again = t.segments.map Segment.piece := by
    have hwords := words_spaced hs hpieces
    rwa [String.ofList_toList] at hwords
  rw [parse_eq_ok_iff, hsegments]
  exact ⟨rfl, hagain, hw⟩

/-- A pattern is a template just if its pieces stand for segments that are well formed, and
otherwise the leftmost piece with which something is wrong gives the error. The canonical pieces of
a template, however the slashes stand around them, write its segments again. -/
theorem parse_grammar (pattern : String) :
    (∀ t, Template.parse pattern = .ok t ↔ t.pattern = pattern ∧
      List.Forall₂ Stands (pathSegments pattern) t.segments ∧ WellFormed t.segments) ∧
    (∀ e, Template.parse pattern = .error e ↔ FirstFault pattern (pathSegments pattern) e) ∧
    ∀ t, Template.parse pattern = .ok t →
      t.literalCount = (pathSegments pattern).countP (IsLiteral ·) ∧
      ∀ again, Spaced (t.segments.map Segment.piece) again.toList →
        Template.parse again = .ok ⟨again, t.segments⟩ := by
  refine ⟨fun t => parse_eq_ok_iff, fun e => parse_eq_error_iff, fun t hp => ⟨?_, ?_⟩⟩
  · exact literalCount_of_stands (parse_eq_ok_iff.mp hp).2.1
  · exact fun again hs => parse_spaced hp hs

def tabs : Template :=
  ⟨"/users/\x7bid\x7d//:tab/\x7b+rest\x7d",
    [.literal "users", .variable "id", .variable "tab", .wildcard "rest"]⟩

theorem tabs_written_back :
    Template.parse "/users/\x7bid\x7d//:tab/\x7b+rest\x7d" = .ok tabs ∧ tabs.literalCount = 1 ∧
    Template.parse "//users/\x7bid\x7d/\x7btab\x7d/\x7b*rest\x7d/" =
      .ok ⟨"//users/\x7bid\x7d/\x7btab\x7d/\x7b*rest\x7d/", tabs.segments⟩ := by
  have hp : Template.parse "/users/\x7bid\x7d//:tab/\x7b+rest\x7d" = .ok tabs := by decide
  obtain ⟨hcount, hagain⟩ := (parse_grammar _).2.2 tabs hp
  have hspaced : Spaced (tabs.segments.map Segment.piece)
      "//users/\x7bid\x7d/\x7btab\x7d/\x7b*rest\x7d/".toList :=
    .cons 2 _ (.cons 0 _ (.cons 0 _ (.last 0 _ 1)))
  exact ⟨hp, hcount.trans (by decide), hagain _ hspaced⟩

end Switchboard.Proofs.Patterns
