import Mathlib.Data.List.TakeWhile
import Switchboard.Proofs.Hosts

namespace Switchboard.Proofs.AddressTexts
open Text Number Url Address Hosts Pairs

/-- An address of 32 bits, or of eight groups of 16 bits. -/
def Fits : Address → Prop
  | .v4 n => n < 2 ^ 32
  | .v6 gs => gs.length = 8 ∧ ∀ g ∈ gs, g < 2 ^ 16

theorem octet?_toString : ∀ k < 256, octet? (toString k).toList = some k := by
  simp only [Decimals.toList_toString]
  decide +kernel

theorem ofOctets_octets {n : Nat} (h : n < 2 ^ 32) : ofOctets (octets n) = n := by
  simp [octets, ofOctets]
  omega

theorem readV4_v4Text {n : Nat} (h : n < 2 ^ 32) : readV4 (v4Text n).toList = some n := by
  have hread : ∀ k, octet? (toString (k % 256)).toList = some (k % 256) :=
    fun k => octet?_toString _ (Nat.mod_lt k (by decide))
  unfold readV4
  rw [splitOn_v4Text]
  simp only [octets, List.map_cons, List.map_nil, hread]
  exact congrArg some (ofOctets_octets h)

theorem readHex_hex (n : Nat) : readHex (some 0) (hex n) = some n := by
  have hdigit : ∀ d < 16, hexValue? (Nat.digitChar d) = some d := by decide
  rw [hex]
  induction n using Nat.strongRecOn with
  | ind n ih =>
    rw [Nat.toDigits_eq_if (by decide)]
    split
    · next hn => simp [readHex, hdigit n hn]
    · next hn =>
      have hfront := ih (n / 16) (by omega)
      have hlast : 16 * (n / 16) + n % 16 = n := Nat.div_add_mod n 16
      unfold readHex at hfront ⊢
      rw [List.foldl_append, hfront]
      simp [hdigit (n % 16) (Nat.mod_lt n (by decide)), hlast]

theorem hex_ne_nil (n : Nat) : hex n ≠ [] :=
  Nat.toDigits_ne_nil

theorem group?_hex {g : Nat} (h : g < 2 ^ 16) : group? (hex g) = some g := by
  have hlength : (hex g).length ≤ 4 := (Nat.length_toDigits_le_iff (by decide) (by decide)).mpr h
  unfold group?
  rw [if_neg (by simp [hex_ne_nil, Nat.not_lt.mpr hlength])]
  exact readHex_hex g

theorem colon_not_mem_hex (n : Nat) : ':' ∉ hex n := by
  intro hm
  obtain ⟨d, hd, he⟩ := hex_char hm
  have hall : ∀ d < 16, ':' ≠ Nat.digitChar d := by decide
  exact hall d hd he

theorem groups?_hex (mayEndDotted : Bool) {gs : List Nat} (h : ∀ g ∈ gs, g < 2 ^ 16) :
    groups? mayEndDotted (gs.map hex) = some gs := by
  induction gs with
  | nil => rfl
  | cons g gs ih =>
    obtain ⟨hg, hgs⟩ := List.forall_mem_cons.mp h
    cases gs with
    | nil => simp [groups?, group?_hex hg]
    | cons g' gs =>
      have hrest := ih hgs
      rw [List.map_cons] at hrest
      simp only [List.map_cons, groups?, group?_hex hg]
      rw [hrest]
      rfl

theorem firm_groupsText (gs : List Nat) : Firm ':' (groupsText gs).toList := by
  rw [toList_groupsText]
  refine firm_intercalate fun p hp => ?_
  obtain ⟨g, -, rfl⟩ := List.mem_map.mp hp
  exact ⟨hex_ne_nil g, colon_not_mem_hex g⟩

theorem sides_groupsText (gs : List Nat) : sides (groupsText gs).toList = gs.map hex := by
  unfold sides
  rw [toList_groupsText]
  cases gs with
  | nil => rfl
  | cons g gs =>
    have hfree : ∀ p ∈ (g :: gs).map hex, ':' ∉ p := by
      intro p hp
      obtain ⟨g, -, rfl⟩ := List.mem_map.mp hp
      exact colon_not_mem_hex g
    have hne : [':'].intercalate ((g :: gs).map hex) ≠ [] := by
      intro hnil
      have hg : hex g <:+: [':'].intercalate ((g :: gs).map hex) :=
        infix_intercalate List.mem_cons_self
      rw [hnil, List.infix_nil] at hg
      exact hex_ne_nil g hg
    rw [if_neg (by simpa using hne), List.splitOn_intercalate ':' hfree (by simp)]

/-- A run of zeros stands where it is said to. -/
theorem exists_run (i : Nat) (gs : List Nat) :
    (longestRun i gs).2 = 0 ∨ ∃ front back,
      gs = front ++ List.replicate (longestRun i gs).2 0 ++ back ∧
        (longestRun i gs).1 = i + front.length := by
  induction gs generalizing i with
  | nil => exact .inl rfl
  | cons g gs ih =>
    rw [longestRun]
    dsimp only
    split
    · have hrun : (g :: gs).takeWhile (· = 0) = List.replicate (zeros (g :: gs)) 0 := by
        refine List.eq_replicate_of_mem fun k hk => ?_
        simpa using List.mem_takeWhile_imp hk
      refine .inr ⟨[], (g :: gs).dropWhile (· = 0), ?_, rfl⟩
      rw [← hrun, List.nil_append, List.takeWhile_append_dropWhile]
    · next hlong =>
      rcases ih (i + 1) with hnone | ⟨front, back, hgs, hstart⟩
      · omega
      · refine .inr ⟨g :: front, back, ?_, ?_⟩
        · conv => lhs; rw [hgs]
          rfl
        · rw [hstart, List.length_cons]
          omega

/-- What `::` leaves out is zeros. -/
theorem readV6_compressed {front back : List Nat} (hfront : ∀ g ∈ front, g < 2 ^ 16)
    (hback : ∀ g ∈ back, g < 2 ^ 16) (h : front.length + back.length ≤ 7) :
    readV6 (groupsText front ++ "::" ++ groupsText back).toList =
      some (front ++ List.replicate (8 - front.length - back.length) 0 ++ back) := by
  have hcut := cutPair_append (firm_groupsText front).snoc (groupsText back).toList
  have htext : (groupsText front ++ "::" ++ groupsText back).toList =
      (groupsText front).toList ++ ':' :: ':' :: (groupsText back).toList := by simp
  unfold readV6
  rw [htext, hcut]
  dsimp only
  rw [sides_groupsText, sides_groupsText, groups?_hex false hfront, groups?_hex true hback]
  exact if_pos h

theorem readV6_v6Text {gs : List Nat} (hlength : gs.length = 8) (h : ∀ g ∈ gs, g < 2 ^ 16) :
    readV6 (v6Text gs).toList = some gs := by
  unfold v6Text
  dsimp only
  split
  · next hlong =>
    obtain hnone | ⟨front, back, hgs, hstart⟩ := exists_run 0 gs
    · omega
    · generalize longestRun 0 gs = run at *
      obtain ⟨start, count⟩ := run
      dsimp only at *
      rw [Nat.zero_add] at hstart
      subst hstart hgs
      have hfront : ∀ g ∈ front, g < 2 ^ 16 := fun g hg => h g (by simp [hg])
      have hback : ∀ g ∈ back, g < 2 ^ 16 := fun g hg => h g (by simp [hg])
      have htake : (front ++ List.replicate count 0 ++ back).take front.length = front := by simp
      have hdrop : (front ++ List.replicate count 0 ++ back).drop (front.length + count) = back :=
        List.drop_left' (by simp)
      simp only [List.length_append, List.length_replicate] at hlength
      have hcount : 8 - front.length - back.length = count := by omega
      rw [htake, hdrop, readV6_compressed hfront hback (by omega), hcount]
  · have hsparse := cutPair_eq_none_iff.mpr (firm_groupsText gs).sparse
    unfold readV6
    rw [hsparse, sides_groupsText, groups?_hex true h]
    simp [hlength]

theorem group?_v4Text (n : Nat) : group? (v4Text n).toList = none := by
  rw [Option.eq_none_iff_forall_ne_some]
  intro g hg
  have hdot : '.' ∈ (v4Text n).toList := by
    rw [toList_v4Text]
    simp [octets, List.intercalate_cons_cons]
  exact of_group? hg '.' hdot (by decide)

/-- An address that embeds another one, shown in decimal. -/
theorem readV6_embedded {n : Nat} (h : n < 2 ^ 32) :
    readV6 ("::ffff:" ++ v4Text n).toList =
      some [0, 0, 0, 0, 0, 0xFFFF, n / Nat.pow 2 16, n % Nat.pow 2 16] := by
  have htext : ("::ffff:" ++ v4Text n).toList =
      ':' :: ':' :: (['f', 'f', 'f', 'f'] ++ ':' :: (v4Text n).toList) := by simp
  have hfree : ':' ∉ (v4Text n).toList := fun hc =>
    absurd (canonical_v4Text.allowed ':' hc) (by decide)
  have hsides : sides (['f', 'f', 'f', 'f'] ++ ':' :: (v4Text n).toList) =
      [['f', 'f', 'f', 'f'], (v4Text n).toList] := by
    have hfour : ':' ∉ ['f', 'f', 'f', 'f'] := by decide
    have hpieces := List.splitOn_append_cons_self_of_not_mem hfour (v4Text n).toList
    rw [List.splitOn_eq_singleton hfree] at hpieces
    exact hpieces
  have hgroups : groups? true [['f', 'f', 'f', 'f'], (v4Text n).toList] =
      some [0xFFFF, n / Nat.pow 2 16, n % Nat.pow 2 16] := by
    have hgroup : group? ['f', 'f', 'f', 'f'] = some 0xFFFF := by decide
    simp only [groups?, hgroup, group?_v4Text, readV4_v4Text h, if_true, Option.map_some]
  unfold readV6
  rw [htext]
  simp only [cutPair, and_self, if_true]
  rw [hsides, hgroups]
  rfl

theorem readV6_text {gs : List Nat} (h : Fits (.v6 gs)) :
    readV6 (Address.text (.v6 gs)).toList = some gs := by
  unfold Address.text
  split
  · next heq => cases heq
  · next high low heq =>
    obtain rfl := Address.v6.inj heq
    have hhigh : high < 2 ^ 16 := h.2 high (by simp)
    have hlow : low < 2 ^ 16 := h.2 low (by simp)
    rw [readV6_embedded (by simp only [Nat.pow_eq]; omega)]
    simp only [Nat.pow_eq]
    have hquotient : (high * 2 ^ 16 + low) / 2 ^ 16 = high := by omega
    have hremainder : (high * 2 ^ 16 + low) % 2 ^ 16 = low := by omega
    rw [hquotient, hremainder]
  · next gs' _ heq =>
    obtain rfl := Address.v6.inj heq
    exact readV6_v6Text h.1 h.2

end Switchboard.Proofs.AddressTexts
