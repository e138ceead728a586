import Mathlib.Data.List.Forall2
import Switchboard.Http.Request
import Switchboard.Text.Cutting

namespace Switchboard.Proofs.FormQueries
open Http Text
open Percent (bytes)

/-- ASCII characters to which a query gives no meaning, the unreserved ones among them. -/
def isPlain (c : Char) : Bool :=
  c.toNat < 128 && c ≠ '%' && c ≠ '+' && c ≠ '&' && c ≠ '='

/-- Characters that write bytes of a text: a plain character itself, a space as `+`, and any byte as
`%` with two hexadecimal digits of either case. -/
inductive Encodes : List UInt8 → List Char → Prop where
  | nil : Encodes [] []
  | kept {c : Char} {bs : List UInt8} {cs : List Char} (h : isPlain c = true)
      (rest : Encodes bs cs) : Encodes (UInt8.ofNat c.toNat :: bs) (c :: cs)
  | space {bs : List UInt8} {cs : List Char} (rest : Encodes bs cs) :
      Encodes (32 :: bs) ('+' :: cs)
  | escaped {b high low : UInt8} {bs : List UInt8} {cs : List Char}
      (hb : Percent.pairValue high low = some b) (rest : Encodes bs cs) :
      Encodes (b :: bs) ('%' :: Char.ofUInt8 high :: Char.ofUInt8 low :: cs)

/-- A text for a pair, with `=` between key and value. -/
def EncodesPair (pair : String × String) (part : String) : Prop :=
  ∃ key value, Encodes (bytes pair.1) key.toList ∧ Encodes (bytes pair.2) value.toList ∧
    part = key ++ "=" ++ value

/-- A query for pairs, with `&` between neighbours. -/
def EncodesForm (pairs : List (String × String)) (query : String) : Prop :=
  ∃ parts, List.Forall₂ EncodesPair pairs parts ∧ query = join "&" parts

theorem isPlain_iff {c : Char} :
    isPlain c = true ↔ c.toNat < 128 ∧ c ≠ '%' ∧ c ≠ '+' ∧ c ≠ '&' ∧ c ≠ '=' := by
  simp [isPlain, and_assoc]

theorem isPlain_digit {high low b : UInt8} (h : Percent.pairValue high low = some b) :
    isPlain (Char.ofUInt8 high) = true ∧ isPlain (Char.ofUInt8 low) = true := by
  have hall : ∀ n : Fin 256, (Percent.digitValue (UInt8.ofNat n.val)).isSome = true →
      isPlain (Char.ofUInt8 (UInt8.ofNat n.val)) = true := by decide +kernel
  have hdigit : ∀ d v : UInt8, Percent.digitValue d = some v →
      isPlain (Char.ofUInt8 d) = true := by
    intro d v hd
    have hplain := hall ⟨d.toNat, d.toNat_lt⟩
    rw [UInt8.ofNat_toNat, hd] at hplain
    exact hplain rfl
  unfold Percent.pairValue at h
  split at h
  · next hhigh hlow => exact ⟨hdigit high _ hhigh, hdigit low _ hlow⟩
  · cases h

/-- No mark that separates parts of a query comes out of an encoder. -/
theorem Encodes.not_mem (h : Encodes bs cs) : '&' ∉ cs ∧ '=' ∉ cs := by
  have hplain : ∀ c, isPlain c = true → '&' ≠ c ∧ '=' ≠ c := by
    intro c hc
    obtain ⟨-, -, -, hand, hequal⟩ := isPlain_iff.mp hc
    exact ⟨hand.symm, hequal.symm⟩
  induction h with
  | nil => simp
  | kept hc _ ih => simp [ih, hplain _ hc]
  | space _ ih => simp [ih]
  | escaped hb _ ih =>
    obtain ⟨hhigh, hlow⟩ := isPlain_digit hb
    simp [ih, hplain _ hhigh, hplain _ hlow]

theorem ofNat_ne_percent {c : Char} (h : c.toNat < 128) (hc : c ≠ '%') :
    UInt8.ofNat c.toNat ≠ 37 := by
  intro he
  have hmod : c.toNat % 256 = 37 := congrArg UInt8.toNat he
  have hcode : c.toNat = '%'.toNat := by
    rw [Nat.mod_eq_of_lt (by omega)] at hmod
    exact hmod
  exact hc (Char.toNat_inj.mp hcode)

/-- A plus stands for a space. -/
def unplus (c : Char) : Char :=
  if c = '+' then ' ' else c

theorem unplus_of_isPlain {c : Char} (h : isPlain c = true) : unplus c = c :=
  if_neg (isPlain_iff.mp h).2.2.1

/-- A plus is read before the escapes are, and neither their digits nor a plain character is one. -/
theorem Encodes.unescape_eq (h : Encodes bs cs) :
    Percent.unescape (bytes (String.ofList (cs.map unplus))) = bs := by
  induction h with
  | nil => rfl
  | kept hc _ ih =>
    obtain ⟨hascii, hpercent, -⟩ := isPlain_iff.mp hc
    rw [Percent.bytes_ofList] at ih ⊢
    rw [List.map_cons, unplus_of_isPlain hc, List.flatMap_cons, Percent.utf8EncodeChar_ascii hascii,
      List.singleton_append, Percent.unescape_cons (ofNat_ne_percent hascii hpercent), ih]
  | space _ ih =>
    have hspace : String.utf8EncodeChar (unplus '+') = [32] := rfl
    rw [Percent.bytes_ofList] at ih ⊢
    rw [List.map_cons, List.flatMap_cons, hspace, List.singleton_append,
      Percent.unescape_cons (by decide), ih]
  | escaped hb _ ih =>
    obtain ⟨hhigh, hlow⟩ := isPlain_digit hb
    obtain ⟨⟨hhigh', -⟩, hlow', -⟩ := Percent.digits_of_pairValue hb
    have hpercent : String.utf8EncodeChar (unplus '%') = [37] := rfl
    rw [Percent.bytes_ofList] at ih ⊢
    simp only [List.map_cons, unplus_of_isPlain hhigh, unplus_of_isPlain hlow, List.flatMap_cons,
      hpercent, Percent.utf8EncodeChar_ofUInt8 hhigh', Percent.utf8EncodeChar_ofUInt8 hlow',
      List.singleton_append, Percent.unescape, hb, ih]

theorem decodePart_eq {s part : String} (h : Encodes (bytes s) part.toList) :
    Query.decodePart part = s := by
  have hpart : Query.decodePart part = Percent.decode (String.ofList (part.toList.map unplus)) :=
    rfl
  rw [hpart, Percent.decode, h.unescape_eq, Percent.ofBytes?_bytes, Option.getD_some]

theorem decodePair_eq (h : EncodesPair pair part) : Query.decodePair part = pair := by
  obtain ⟨key, value, hkey, hvalue, rfl⟩ := h
  have hcut : cut? '=' (key ++ "=" ++ value) = some (key, value) :=
    cut?_eq_some_iff.mpr ⟨rfl, hkey.not_mem.2⟩
  rw [Query.decodePair, hcut]
  simp only [decodePart_eq hkey, decodePart_eq hvalue]

theorem isPart (h : EncodesPair pair part) : part ≠ "" ∧ '&' ∉ part.toList := by
  obtain ⟨key, value, hkey, hvalue, rfl⟩ := h
  simp [hkey.not_mem.1, hvalue.not_mem.1]

theorem words_join {parts : List String} (h : ∀ part ∈ parts, part ≠ "" ∧ '&' ∉ part.toList) :
    words '&' (join "&" parts) = parts := by
  by_cases hparts : parts = []
  · subst hparts
    rfl
  · have hsplit : split '&' (join "&" parts) = parts :=
      split_join hparts fun part hpart => (h part hpart).2
    rw [words, hsplit, List.filter_eq_self]
    exact fun part hpart => decide_eq_true (h part hpart).1

theorem forall_of_encodesPair (h : List.Forall₂ EncodesPair pairs parts) :
    (∀ part ∈ parts, part ≠ "" ∧ '&' ∉ part.toList) ∧ parts.map Query.decodePair = pairs := by
  induction h with
  | nil => exact ⟨by simp, rfl⟩
  | cons hp _ ih =>
    refine ⟨List.forall_mem_cons.mpr ⟨isPart hp, ih.1⟩, ?_⟩
    rw [List.map_cons, decodePair_eq hp, ih.2]

theorem parse_eq (h : EncodesForm pairs query) : Query.parse query = pairs := by
  obtain ⟨parts, hparts, rfl⟩ := h
  obtain ⟨hall, hdecoded⟩ := forall_of_encodesPair hparts
  rw [Query.parse, words_join hall, hdecoded]

/-- The characters that stand for themselves in every part of an address. -/
def isUnreserved (c : Char) : Bool :=
  c.isAlphanum || c = '-' || c = '.' || c = '_' || c = '~'

def encodeByte (b : UInt8) : List Char :=
  if b = 32 then ['+']
  else if isUnreserved (Char.ofUInt8 b) then [Char.ofUInt8 b]
  else Percent.escapeByte b

def encode (s : String) : String :=
  String.ofList ((bytes s).flatMap encodeByte)

def formText (pairs : List (String × String)) : String :=
  join "&" (pairs.map fun (key, value) => encode key ++ "=" ++ encode value)

theorem isPlain_of_isUnreserved {c : Char} (h : isUnreserved c = true) : isPlain c = true := by
  simp only [isUnreserved, Bool.or_eq_true, decide_eq_true_eq] at h
  rcases h with (((h | rfl) | rfl) | rfl) | rfl
  · have hranges := toNat_of_isAlphanum h
    simp only [isPlain_iff, ne_eq, ← Char.toNat_inj, Char.reduceToNat]
    omega
  all_goals decide

theorem encodes_encodeByte (b : UInt8) (h : Encodes bs cs) :
    Encodes (b :: bs) (encodeByte b ++ cs) := by
  unfold encodeByte
  split
  · next hspace =>
    subst hspace
    exact .space h
  · split
    · next hkept =>
      have hb : UInt8.ofNat (Char.ofUInt8 b).toNat = b := UInt8.ofNat_toNat
      have hencodes := Encodes.kept (isPlain_of_isUnreserved hkept) h
      rwa [hb] at hencodes
    · obtain ⟨hb, hescape⟩ := Percent.escapeByte_digits b
      rw [hescape]
      exact .escaped hb h

theorem encodes_encode (s : String) : Encodes (bytes s) (encode s).toList := by
  rw [encode, String.toList_ofList]
  induction bytes s with
  | nil => exact .nil
  | cons b bs ih => exact encodes_encodeByte b ih

theorem encodesForm_formText (pairs : List (String × String)) :
    EncodesForm pairs (formText pairs) := by
  refine ⟨_, ?_, rfl⟩
  induction pairs with
  | nil => exact .nil
  | cons pair pairs ih =>
    exact .cons ⟨_, _, encodes_encode pair.1, encodes_encode pair.2, rfl⟩ ih

/-- Whatever query a form writes for its pairs, a request has exactly these pairs, and the path that
stands before the query. -/
theorem of_form (method : Method) (path : String) (hpath : '?' ∉ path.toList)
    (pairs : List (String × String)) :
    EncodesForm pairs (formText pairs) ∧
    ∀ query, EncodesForm pairs query →
      Request.of method (path ++ "?" ++ query) = ⟨method, path, pairs, .empty⟩ := by
  refine ⟨encodesForm_formText pairs, fun query hquery => ?_⟩
  have hcut : cut? '?' (path ++ "?" ++ query) = some (path, query) :=
    cut?_eq_some_iff.mpr ⟨rfl, hpath⟩
  rw [Request.of, hcut]
  simp only [parse_eq hquery]

theorem encodes_mark : Encodes (bytes "k&") "k%26".toList :=
  .kept (c := 'k') (by decide) (.escaped (show Percent.pairValue 50 54 = some 38 by decide) .nil)

theorem encodes_words : Encodes (bytes "é b") "%c3%A9+%62".toList :=
  .escaped (show Percent.pairValue 99 51 = some 0xC3 by decide)
    (.escaped (show Percent.pairValue 65 57 = some 0xA9 by decide)
      (.space (.escaped (show Percent.pairValue 54 50 = some 98 by decide) .nil)))

theorem search_decoded :
    '?' ∉ "/search".toList ∧
    EncodesForm [("k&", "é b"), ("", ""), ("k&", "")] "k%26=%c3%A9+%62&=&k%26=" ∧
    Request.of .get "/search?k%26=%c3%A9+%62&=&k%26=" =
      ⟨.get, "/search", [("k&", "é b"), ("", ""), ("k&", "")], .empty⟩ := by
  have hempty : Encodes (bytes "") "".toList := .nil
  have hpath : '?' ∉ "/search".toList := by decide
  have hquery : EncodesForm [("k&", "é b"), ("", ""), ("k&", "")] "k%26=%c3%A9+%62&=&k%26=" := by
    refine ⟨["k%26=%c3%A9+%62", "=", "k%26="], ?_, rfl⟩
    exact .cons ⟨"k%26", "%c3%A9+%62", encodes_mark, encodes_words, rfl⟩
      (.cons ⟨"", "", hempty, hempty, rfl⟩ (.cons ⟨"k%26", "", encodes_mark, hempty, rfl⟩ .nil))
  exact ⟨hpath, hquery, (of_form .get "/search" hpath _).2 _ hquery⟩

end Switchboard.Proofs.FormQueries
