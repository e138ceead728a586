import Switchboard.Text.Quoted

/-!
Percent-encoding. Decoding works on bytes: `%` and two hexadecimal digits stand for one byte, and
any other `%` for itself. A text whose decoded bytes are not UTF-8 is left as it was written.
-/

namespace Switchboard.Text.Percent

/-- The UTF-8 bytes of a text. -/
def bytes (s : String) : List UInt8 :=
  s.toUTF8.data.toList

/-- The text with these UTF-8 bytes, if there is one. -/
def ofBytes? (bs : List UInt8) : Option String :=
  String.fromUTF8? ⟨bs.toArray⟩

def digitValue (b : UInt8) : Option UInt8 :=
  if 48 ≤ b && b ≤ 57 then some (b - 48)
  else if 65 ≤ b && b ≤ 70 then some (b - 55)
  else if 97 ≤ b && b ≤ 102 then some (b - 87)
  else none

/-- The byte that two hexadecimal digits name. -/
def pairValue (high low : UInt8) : Option UInt8 :=
  match digitValue high, digitValue low with
  | some h, some l => some (16 * h + l)
  | _, _ => none

def unescape : List UInt8 → List UInt8
  | 37 :: high :: low :: rest =>
    match pairValue high low with
    | some b => b :: unescape rest
    | none => 37 :: unescape (high :: low :: rest)
  | b :: rest => b :: unescape rest
  | [] => []

def decode (s : String) : String :=
  (ofBytes? (unescape (bytes s))).getD s

theorem bytes_of_ofBytes? {bs : List UInt8} {s : String} (h : ofBytes? bs = some s) :
    bytes s = bs := by
  unfold ofBytes? String.fromUTF8? at h
  split at h
  · obtain rfl := Option.some.inj h
    simp [bytes, String.fromUTF8]
  · cases h

theorem bytes_eq_nil_iff (s : String) : bytes s = [] ↔ s = "" := by
  constructor
  · intro h
    apply String.toByteArray_inj.mp
    apply ByteArray.ext
    exact Array.toList_inj.mp h
  · rintro rfl
    rfl

theorem bytes_ofList (cs : List Char) :
    bytes (String.ofList cs) = cs.flatMap String.utf8EncodeChar := by
  unfold bytes String.toUTF8
  rw [String.toByteArray_ofList]
  simp [List.utf8Encode]

theorem ofBytes?_bytes (s : String) : ofBytes? (bytes s) = some s := by
  have hs : (⟨(bytes s).toArray⟩ : ByteArray) = s.toByteArray := by simp [bytes]
  unfold ofBytes? String.fromUTF8?
  rw [hs, dif_pos s.isValidUTF8]
  rfl

/-- A text without `%` has nothing to decode. -/
theorem unescape_eq_self {bs : List UInt8} (h : 37 ∉ bs) : unescape bs = bs := by
  fun_induction unescape bs <;> simp_all

theorem unescape_cons {b : UInt8} (h : b ≠ 37) (bs : List UInt8) :
    unescape (b :: bs) = b :: unescape bs := by
  rw [unescape]
  rintro _ _ _ rfl
  exact absurd rfl h

theorem unescape_eq_nil_iff (bs : List UInt8) : unescape bs = [] ↔ bs = [] := by
  fun_cases unescape bs <;> simp_all

/-- Decoding never makes a text empty. -/
theorem decode_eq_empty_iff (s : String) : decode s = "" ↔ s = "" := by
  unfold decode
  cases h : ofBytes? (unescape (bytes s)) with
  | none => rfl
  | some t =>
    rw [Option.getD_some, ← bytes_eq_nil_iff, bytes_of_ofBytes? h, unescape_eq_nil_iff,
      bytes_eq_nil_iff]

def digitChar (n : Nat) : Char :=
  if n < 10 then Char.ofNat (48 + n) else Char.ofNat (55 + n)

/-- `%` and the two upper-case digits of a byte. -/
def escapeByte (b : UInt8) : List Char :=
  ['%', digitChar (b.toNat / 16), digitChar (b.toNat % 16)]

/-- Keeps the characters of a set and writes the bytes of every other one as escapes. -/
def encodeChar (keep : Char → Bool) (c : Char) : List Char :=
  if keep c then [c] else (String.utf8EncodeChar c).flatMap escapeByte

def encodeChars (keep : Char → Bool) (cs : List Char) : List Char :=
  cs.flatMap (encodeChar keep)

theorem encodeChars_eq_self {keep : Char → Bool} {cs : List Char} (h : ∀ c ∈ cs, keep c = true) :
    encodeChars keep cs = cs := by
  induction cs with
  | nil => rfl
  | cons c cs ih =>
    obtain ⟨hc, hcs⟩ := List.forall_mem_cons.mp h
    have hrest := ih hcs
    rw [encodeChars] at hrest ⊢
    rw [List.flatMap_cons, encodeChar, if_pos hc, hrest]
    rfl

/-- Characters that write each byte as `%` with two hexadecimal digits of either case. -/
inductive Escapes : List UInt8 → List Char → Prop where
  | nil : Escapes [] []
  | cons {b high low : UInt8} {bs : List UInt8} {cs : List Char} (hb : pairValue high low = some b)
      (rest : Escapes bs cs) :
      Escapes (b :: bs) ('%' :: Char.ofUInt8 high :: Char.ofUInt8 low :: cs)

theorem digits_of_pairValue {high low b : UInt8} (h : pairValue high low = some b) :
    (high < 128 ∧ high ≠ 47) ∧ low < 128 ∧ low ≠ 47 := by
  unfold pairValue digitValue at h
  grind

theorem utf8EncodeChar_ascii {c : Char} (h : c.toNat < 128) :
    String.utf8EncodeChar c = [UInt8.ofNat c.toNat] := by
  have hval : c.toNat ≤ 127 := Nat.le_of_lt_succ h
  simp [String.utf8EncodeChar, hval]

theorem utf8EncodeChar_ofUInt8 {b : UInt8} (h : b < 128) :
    String.utf8EncodeChar (Char.ofUInt8 b) = [b] := by
  have hascii : (Char.ofUInt8 b).toNat < 128 := UInt8.lt_iff_toNat_lt.mp h
  have hb : UInt8.ofNat (Char.ofUInt8 b).toNat = b := UInt8.ofNat_toNat
  rw [utf8EncodeChar_ascii hascii, hb]

theorem Escapes.unescape_eq {bs : List UInt8} {cs : List Char} (h : Escapes bs cs) :
    unescape (bytes (String.ofList cs)) = bs := by
  induction h with
  | nil => rfl
  | @cons b high low bs cs hb rest ih =>
    obtain ⟨⟨hhigh, -⟩, hlow, -⟩ := digits_of_pairValue hb
    have hpercent : String.utf8EncodeChar '%' = [37] := rfl
    rw [bytes_ofList] at ih ⊢
    simp only [List.flatMap_cons, hpercent, utf8EncodeChar_ofUInt8 hhigh,
      utf8EncodeChar_ofUInt8 hlow, List.singleton_append, unescape, hb, ih]

/-- Decoding gives back the text whose bytes are escaped. -/
theorem Escapes.decode_eq {s : String} {cs : List Char} (h : Escapes (bytes s) cs) :
    decode (String.ofList cs) = s := by
  rw [decode, h.unescape_eq, ofBytes?_bytes, Option.getD_some]

theorem Escapes.slash_not_mem {bs : List UInt8} {cs : List Char} (h : Escapes bs cs) :
    '/' ∉ cs := by
  have hslash : ∀ b : UInt8, b ≠ 47 → '/' ≠ Char.ofUInt8 b := by
    intro b hb he
    have hcode : 47 = b.toNat := congrArg Char.toNat he
    exact hb (UInt8.toNat_inj.mp hcode.symm)
  induction h with
  | nil => exact List.not_mem_nil
  | cons hb rest ih =>
    obtain ⟨hhigh, hlow⟩ := digits_of_pairValue hb
    simp [ih, hslash _ hhigh.2, hslash _ hlow.2]

/-- The byte of the digit for `n`. -/
def digitByte (n : Nat) : UInt8 :=
  UInt8.ofNat (digitChar n).toNat

theorem escapeByte_digits (b : UInt8) :
    pairValue (digitByte (b.toNat / 16)) (digitByte (b.toNat % 16)) = some b ∧
    escapeByte b = ['%', Char.ofUInt8 (digitByte (b.toNat / 16)),
      Char.ofUInt8 (digitByte (b.toNat % 16))] := by
  have hall : ∀ n : Fin 256,
      pairValue (digitByte (n.val / 16)) (digitByte (n.val % 16)) = some (UInt8.ofNat n.val) ∧
      escapeByte (UInt8.ofNat n.val) = ['%', Char.ofUInt8 (digitByte (n.val / 16)),
        Char.ofUInt8 (digitByte (n.val % 16))] := by
    decide +kernel
  simpa using hall ⟨b.toNat, b.toNat_lt⟩

/-- Every text can be escaped. -/
theorem escapes_escapeByte (bs : List UInt8) : Escapes bs (bs.flatMap escapeByte) := by
  induction bs with
  | nil => exact .nil
  | cons b bs ih =>
    obtain ⟨hb, he⟩ := escapeByte_digits b
    rw [List.flatMap_cons, he]
    exact .cons hb ih

end Switchboard.Text.Percent
