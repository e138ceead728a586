import Mathlib.Data.List.TakeWhile
import Switchboard.Url.Reader

namespace Switchboard.Proofs.Escapes
open Text Percent

theorem length_unescape_le (bs : List UInt8) : (unescape bs).length ≤ bs.length := by
  fun_induction unescape bs <;> simp <;> omega

/-- Decoding changes nothing just if nothing is written as an escape. -/
theorem unescape_eq_self_iff {bs : List UInt8} : unescape bs = bs ↔
    ∀ high low, [37, high, low] <:+: bs → pairValue high low = none := by
  fun_induction unescape bs with
  | case1 high low rest b hb ih =>
    constructor
    · intro h
      have hle := length_unescape_le rest
      have hlength := congrArg List.length h
      simp only [List.length_cons] at hlength
      omega
    · intro h
      rw [h high low (List.prefix_append [37, high, low] rest).isInfix] at hb
      cases hb
  | case2 high low rest hb ih =>
    rw [List.cons.injEq, and_iff_right rfl, ih]
    constructor
    · intro h high' low' hin
      rcases List.infix_cons_iff.mp hin with hfirst | hin
      · obtain ⟨more, hmore⟩ := hfirst
        obtain ⟨rfl, rfl, -⟩ : high' = high ∧ low' = low ∧ more = rest := by simpa using hmore
        exact hb
      · exact h high' low' hin
    · intro h high' low' hin
      exact h high' low' (List.infix_cons hin)
  | case3 b rest hb ih =>
    rw [List.cons.injEq, and_iff_right rfl, ih]
    constructor
    · intro h high' low' hin
      rcases List.infix_cons_iff.mp hin with hfirst | hin
      · obtain ⟨more, hmore⟩ := hfirst
        obtain ⟨rfl, rfl⟩ := List.cons.inj hmore
        exact absurd rfl (hb high' low' more rfl)
      · exact h high' low' hin
    · intro h high' low' hin
      exact h high' low' (List.infix_cons hin)
  | case4 => simp

/-- A byte that no escape consists of. -/
def Inert (b : UInt8) : Prop :=
  b ≠ 37 ∧ digitValue b = none

theorem pairValue_eq_none {high low : UInt8} (h : digitValue high = none ∨ digitValue low = none) :
    pairValue high low = none := by
  unfold pairValue
  rcases h with h | h
  · rw [h]
  · rw [h]
    cases digitValue high <;> rfl

theorem unescape_percent {bs : List UInt8}
    (h : ∀ high low rest, bs = high :: low :: rest → pairValue high low = none) :
    unescape (37 :: bs) = 37 :: unescape bs := by
  match bs with
  | [] => rfl
  | [_] => rfl
  | high :: low :: rest => rw [unescape, h high low rest rfl]

theorem unescape_percent_append {d : UInt8} (hd : digitValue d = none) {front : List UInt8}
    (hshort : ∀ high low more, front ≠ high :: low :: more) (back : List UInt8) :
    unescape (37 :: (front ++ d :: back)) = 37 :: unescape (front ++ d :: back) := by
  apply unescape_percent
  intro high low rest hrest
  match front with
  | [] =>
    obtain ⟨rfl, -⟩ := List.cons.inj hrest
    exact pairValue_eq_none (.inl hd)
  | [_] =>
    obtain ⟨-, hmore⟩ := List.cons.inj hrest
    obtain ⟨rfl, -⟩ := List.cons.inj hmore
    exact pairValue_eq_none (.inr hd)
  | high :: low :: more => exact absurd rfl (hshort high low more)

/-- It makes no difference whether such a byte is escaped. -/
theorem unescape_inert {b high low : UInt8} (h : Inert b) (hb : pairValue high low = some b)
    (front back : List UInt8) :
    unescape (front ++ 37 :: high :: low :: back) = unescape (front ++ b :: back) := by
  fun_induction unescape front with
  | case1 _ _ _ _ hvalue ih => simp only [List.cons_append, unescape, hvalue, ih]
  | case2 _ _ _ hvalue ih =>
    simp only [List.cons_append] at ih ⊢
    simp only [unescape, hvalue, ih]
  | case3 c rest hc ih =>
    rw [List.cons_append, List.cons_append]
    by_cases hpercent : c = 37
    · subst hpercent
      have hshort : ∀ high low more, rest ≠ high :: low :: more :=
        fun high low more => hc high low more rfl
      rw [unescape_percent_append rfl hshort, unescape_percent_append h.2 hshort, ih]
    · rw [unescape_cons hpercent, unescape_cons hpercent, ih]
  | case4 =>
    rw [List.nil_append, List.nil_append, unescape_cons h.1]
    simp only [unescape, hb]

theorem unescape_escapes {bs : List UInt8} (h : ∀ b ∈ bs, Inert b) (front back : List UInt8) :
    unescape (front ++ ((bs.flatMap escapeByte).flatMap String.utf8EncodeChar ++ back)) =
      unescape (front ++ (bs ++ back)) := by
  induction bs generalizing front with
  | nil => rfl
  | cons b bs ih =>
    obtain ⟨hb, hbs⟩ := List.forall_mem_cons.mp h
    obtain ⟨hvalue, hescape⟩ := escapeByte_digits b
    obtain ⟨⟨hhigh, -⟩, hlow, -⟩ := digits_of_pairValue hvalue
    have hpercent : String.utf8EncodeChar '%' = [37] := rfl
    have hfirst := ih hbs (front ++ [b])
    simp only [List.append_assoc, List.singleton_append] at hfirst
    simp only [List.flatMap_cons, hescape, hpercent, utf8EncodeChar_ofUInt8 hhigh,
      utf8EncodeChar_ofUInt8 hlow, List.cons_append, List.nil_append, unescape_inert hb hvalue,
      hfirst]

/-- Characters that are written as escapes are read as they were. -/
theorem unescape_encodeChars {keep : Char → Bool}
    (h : ∀ c, keep c = false → ∀ b ∈ String.utf8EncodeChar c, Inert b) (cs : List Char) :
    unescape (bytes (String.ofList (encodeChars keep cs))) =
      unescape (bytes (String.ofList cs)) := by
  have hfront : ∀ front, unescape (front ++ (encodeChars keep cs).flatMap String.utf8EncodeChar) =
      unescape (front ++ cs.flatMap String.utf8EncodeChar) := by
    induction cs with
    | nil => exact fun _ => rfl
    | cons c cs ih =>
      intro front
      rw [encodeChars, List.flatMap_cons, List.flatMap_append, List.flatMap_cons]
      cases hkeep : keep c with
      | true =>
        have hc : encodeChar keep c = [c] := if_pos hkeep
        rw [hc, List.flatMap_singleton, ← List.append_assoc, ← List.append_assoc]
        exact ih _
      | false =>
        have hc : encodeChar keep c = (String.utf8EncodeChar c).flatMap escapeByte := by
          simp [encodeChar, hkeep]
        rw [hc, unescape_escapes (h c hkeep), ← List.append_assoc, ← List.append_assoc]
        exact ih _
  rw [bytes_ofList, bytes_ofList]
  exact hfront []

theorem utf8EncodeChar_cases {c : Char} {b : UInt8} (h : b ∈ String.utf8EncodeChar c) :
    (c.toNat < 128 ∧ b = UInt8.ofNat c.toNat) ∨ 128 ≤ b := by
  by_cases hc : c.toNat < 128
  · rw [utf8EncodeChar_ascii hc, List.mem_singleton] at h
    exact .inl ⟨hc, h⟩
  · right
    have hval : ¬c.val.toNat ≤ 127 := fun hle => hc (Nat.lt_succ_of_le hle)
    unfold String.utf8EncodeChar at h
    simp only [hval, if_false] at h
    rw [UInt8.le_iff_toNat_le]
    split at h
    · simp at h
      rcases h with rfl | rfl <;> simp <;> omega
    · split at h
      · simp at h
        rcases h with rfl | rfl | rfl <;> simp <;> omega
      · simp at h
        rcases h with rfl | rfl | rfl | rfl <;> simp <;> omega

theorem mem_unescape {b : UInt8} (h : Inert b) {bs : List UInt8} (hb : b ∈ bs) :
    b ∈ unescape bs := by
  fun_induction unescape bs with
  | case1 high low rest value hvalue ih =>
    have hhigh : b ≠ high := by
      rintro rfl
      rw [pairValue_eq_none (.inl h.2)] at hvalue
      cases hvalue
    have hlow : b ≠ low := by
      rintro rfl
      rw [pairValue_eq_none (.inr h.2)] at hvalue
      cases hvalue
    simp only [List.mem_cons, h.1, hhigh, hlow, false_or] at hb
    exact List.mem_cons_of_mem value (ih hb)
  | case2 high low rest hvalue ih =>
    exact List.mem_cons_of_mem 37 (ih ((List.mem_cons.mp hb).resolve_left h.1))
  | case3 c rest hc ih =>
    rcases List.mem_cons.mp hb with rfl | hb
    · exact List.mem_cons_self
    · exact List.mem_cons_of_mem c (ih hb)
  | case4 => cases hb

theorem mem_of_byte_mem {c : Char} (hc : c.toNat < 128) {s : String}
    (h : UInt8.ofNat c.toNat ∈ bytes s) : c ∈ s.toList := by
  rw [← String.ofList_toList (s := s), bytes_ofList] at h
  obtain ⟨d, hd, hb⟩ := List.mem_flatMap.mp h
  have hcode : ∀ e : Char, e.toNat < 128 → (UInt8.ofNat e.toNat).toNat = e.toNat :=
    fun e he => UInt8.toNat_ofNat_of_lt' (Nat.lt_trans he (by decide))
  rcases utf8EncodeChar_cases hb with ⟨hascii, he⟩ | hhigh
  · have hcode := (hcode c hc).symm.trans ((congrArg UInt8.toNat he).trans (hcode d hascii))
    rw [Char.toNat_inj.mp hcode]
    exact hd
  · have hle := UInt8.le_iff_toNat_le.mp hhigh
    rw [hcode c hc] at hle
    exact absurd hle (Nat.not_le.mpr hc)

/-- A character that no escape consists of is still there in what is decoded. -/
theorem mem_of_decoded {c : Char} {cs : List Char} {s : String} (hc : c.toNat < 128)
    (hinert : Inert (UInt8.ofNat c.toNat)) (hmem : c ∈ cs)
    (h : ofBytes? (unescape (bytes (String.ofList cs))) = some s) : c ∈ s.toList := by
  apply mem_of_byte_mem hc
  rw [bytes_of_ofBytes? h]
  apply mem_unescape hinert
  rw [bytes_ofList]
  refine List.mem_flatMap.mpr ⟨c, hmem, ?_⟩
  rw [utf8EncodeChar_ascii hc]
  exact List.mem_singleton_self _

/-- What a path does not keep is no part of an escape. -/
theorem inert_of_not_kept {c : Char} (h : Url.keptInPath c = false) :
    ∀ b ∈ String.utf8EncodeChar c, Inert b := by
  have hascii : ∀ n < 128, Url.keptInPath (Char.ofNat n) = true ∨ Inert (UInt8.ofNat n) := by
    unfold Inert
    decide +kernel
  have hhigh : ∀ n < 256, 128 ≤ n → Inert (UInt8.ofNat n) := by
    unfold Inert
    decide +kernel
  intro b hb
  rcases utf8EncodeChar_cases hb with ⟨hc, rfl⟩ | hb
  · have hinert := hascii c.toNat hc
    rw [Char.ofNat_toNat, h] at hinert
    exact hinert.resolve_left Bool.false_ne_true
  · have hinert := hhigh b.toNat b.toNat_lt (UInt8.le_iff_toNat_le.mp hb)
    rwa [UInt8.ofNat_toNat] at hinert

theorem unescape_encoded (cs : List Char) :
    unescape (bytes (Url.encoded Url.keptInPath cs)) = unescape (bytes (String.ofList cs)) :=
  unescape_encodeChars (fun _ => inert_of_not_kept) cs

theorem length_bytes_le {cs ds : List Char} (h : cs.Sublist ds) :
    (bytes (String.ofList cs)).length ≤ (bytes (String.ofList ds)).length := by
  rw [bytes_ofList, bytes_ofList]
  induction h with
  | slnil => exact Nat.le_refl _
  | cons d _ ih =>
    rw [List.flatMap_cons, List.length_append]
    exact Nat.le_add_left_of_le ih
  | cons_cons c _ ih =>
    rw [List.flatMap_cons, List.flatMap_cons, List.length_append, List.length_append]
    exact Nat.add_le_add_left ih _

/-- A text that lost characters has fewer bytes. -/
theorem eq_of_sublist {cs ds : List Char} (h : cs.Sublist ds)
    (hlength : (bytes (String.ofList ds)).length ≤ (bytes (String.ofList cs)).length) :
    cs = ds := by
  induction h with
  | slnil => rfl
  | @cons cs ds d hsub _ =>
    have hle := length_bytes_le hsub
    have hpos := List.length_pos_iff.mpr (String.utf8EncodeChar_ne_nil (c := d))
    simp only [bytes_ofList, List.flatMap_cons, List.length_append] at hle hlength
    omega
  | cons_cons c _ ih =>
    rw [bytes_ofList, bytes_ofList, List.flatMap_cons, List.flatMap_cons, List.length_append,
      List.length_append, Nat.add_le_add_iff_left, ← bytes_ofList, ← bytes_ofList] at hlength
    rw [ih hlength]

/-- If a part of a text is decoded to the text, it is the whole text, without an escape. -/
theorem eq_of_unescape {cs : List Char} {s : String} (hsub : cs.Sublist s.toList)
    (h : unescape (bytes (String.ofList cs)) = bytes s) :
    cs = s.toList ∧ unescape (bytes s) = bytes s := by
  have hle := length_unescape_le (bytes (String.ofList cs))
  have hs : String.ofList s.toList = s := String.ofList_toList
  have hcs : cs = s.toList := by
    apply eq_of_sublist hsub
    rw [hs, ← h]
    exact hle
  subst hcs
  rw [hs] at h
  exact ⟨rfl, h⟩

end Switchboard.Proofs.Escapes
