import Mathlib.Algebra.Group.Nat.Defs
import Switchboard.Proofs.Chains
import Switchboard.Proofs.Decimals
import Switchboard.Proofs.Pairs
import Switchboard.Url.Host

namespace Switchboard.Proofs.Hosts
open Text Number Url

/-- Digits and dots stand in a name as they are. -/
theorem plain_of_digit_or_dot {c : Char} (h : c.isDigit = true ∨ c = '.') :
    c.toNat < 128 ∧ c.toLower = c ∧ isForbiddenInDomain c = false := by
  have hascii : c.toNat < 128 := by
    rcases h with hdigit | rfl
    · exact Nat.lt_of_le_of_lt (Char.isDigit_iff_toNat.mp hdigit).2 (by decide)
    · decide
  have hall := ascii_forall (P := fun c => c.isDigit = true ∨ c = '.' →
    c.toLower = c ∧ isForbiddenInDomain c = false) (by decide +kernel) hascii
  exact ⟨hascii, hall h⟩

/-- A name in canonical spelling: it is the canonical spelling of itself. -/
structure Canonical (name : String) : Prop where
  lower : ∀ c ∈ name.toList, c.toLower = c
  ascii : ∀ c ∈ name.toList, c.toNat < 128
  allowed : ∀ c ∈ name.toList, isForbiddenInDomain c = false
  labels : (name.toList.splitOn '.').all labelOk = true

theorem toLower_toLower (c : Char) : c.toLower.toLower = c.toLower := by
  unfold Char.toLower
  split
  · next h =>
    rw [dif_neg]
    have hlow := UInt32.le_iff_toNat_le.mp h.1
    have hhigh := UInt32.le_iff_toNat_le.mp h.2
    simp [UInt32.le_iff_toNat_le, UInt32.toNat_add] at *
    omega
  · rfl

section
variable {name s : String}

theorem canonical_of_domain? (h : domain? s = some name) : Canonical name := by
  unfold domain? at h
  simp only at h
  split at h
  · next hok =>
    obtain rfl := Option.some.inj h
    simp only [Bool.and_eq_true, List.all_eq_true, decide_eq_true_eq, Bool.not_eq_true'] at hok
    rw [← String.toList_ofList (l := s.toList.map Char.toLower)] at hok
    refine ⟨?_, fun c hc => (hok.1 c hc).1, fun c hc => (hok.1 c hc).2, List.all_eq_true.mpr hok.2⟩
    intro c hc
    rw [String.toList_ofList] at hc
    obtain ⟨d, -, rfl⟩ := List.mem_map.mp hc
    exact toLower_toLower d
  · cases h

theorem Canonical.domain? (h : Canonical name) : domain? name = some name := by
  have hmap : name.toList.map Char.toLower = name.toList :=
    (List.map_congr_left h.lower).trans (List.map_id _)
  unfold Url.domain?
  simp only [hmap, String.ofList_toList]
  rw [if_pos]
  rw [Bool.and_eq_true]
  refine ⟨List.all_eq_true.mpr fun c hc => ?_, h.labels⟩
  simp [h.ascii c hc, h.allowed c hc]

/-- Nothing in it is percent-encoded. -/
theorem Canonical.decoded (h : Canonical name) :
    Percent.ofBytes? (Percent.unescape (Percent.bytes (String.ofList name.toList))) =
      some name := by
  have hbytes : 37 ∉ Percent.bytes (String.ofList name.toList) := by
    rw [Percent.bytes_ofList]
    intro hm
    obtain ⟨c, hc, hb⟩ := List.mem_flatMap.mp hm
    have hsize : c.utf8Size = 1 :=
      Char.utf8Size_eq_one_iff.mpr (UInt32.le_iff_toNat_le.mpr (Nat.le_of_lt_succ (h.ascii c hc)))
    rw [String.utf8EncodeChar_eq_singleton hsize, List.mem_singleton] at hb
    have hn := congrArg UInt8.toNat hb
    have hlt := h.ascii c hc
    have hpercent : c = '%' := by
      apply Char.toNat_inj.mp
      simp only [UInt8.toNat_ofNat, UInt32.toNat_toUInt8, Char.toNat_val] at hn
      simp only [Char.reduceToNat]
      omega
    rw [hpercent] at hc
    exact absurd (h.allowed '%' hc) (by decide)
  rw [Percent.unescape_eq_self hbytes, Percent.ofBytes?_bytes, String.ofList_toList]

theorem Canonical.bracketed? (h : Canonical name) : bracketed? name.toList = none := by
  unfold Url.bracketed?
  split
  · next rest heq =>
    have hb := h.allowed '[' (heq ▸ List.mem_cons_self)
    exact absurd hb (by decide)
  · rfl

theorem Canonical.readHost (h : Canonical name) (hne : name ≠ "") :
    readHost name.toList =
      if endsInNumber name.toList then
        match readIpv4 name.toList with
        | some n => .ok (.address (.v4 n))
        | none => .error .badIpv4
      else .ok (.domain name) := by
  unfold Url.readHost
  rw [h.bracketed?]
  simp only [h.decoded, h.domain?]
  exact if_neg hne

end

section
variable {n : Nat} {cs : List Char}

/-- Octets come one to three digits long and without a leading zero, so their base is ten. -/
theorem numberPart?_octet : ∀ k < 256, numberPart? (toString k).toList = some k := by
  simp only [Decimals.toList_toString]
  decide +kernel

theorem octets_lt : ∀ k ∈ Address.octets n, k < 256 := by
  simp [Address.octets, Nat.mod_lt]

theorem toList_v4Text : (Address.v4Text n).toList =
    ['.'].intercalate ((Address.octets n).map fun k => (toString k).toList) := by
  rw [Address.v4Text, join, String.toList_intercalate, List.map_map]
  rfl

theorem splitOn_v4Text : (Address.v4Text n).toList.splitOn '.' =
    (Address.octets n).map fun k => (toString k).toList := by
  rw [toList_v4Text, List.splitOn_intercalate]
  · intro p hp hdot
    obtain ⟨k, -, rfl⟩ := List.mem_map.mp hp
    exact absurd (Decimals.isDigit_of_mem hdot) (by decide)
  · simp [Address.octets]

theorem getLast?_splitOn_v4Text :
    ((Address.v4Text n).toList.splitOn '.').getLast? = some (toString (n % 256)).toList := by
  rw [splitOn_v4Text]
  rfl

theorem dottedParts_v4Text : dottedParts (Address.v4Text n).toList =
    (Address.octets n).map fun k => (toString k).toList := by
  have hlast : ¬ ((Address.v4Text n).toList.splitOn '.').getLast? = some [] := by
    rw [getLast?_splitOn_v4Text, Option.some.injEq]
    exact Decimals.toString_ne_nil _
  unfold dottedParts
  simp only [if_neg hlast]
  exact splitOn_v4Text

theorem v4Text_ne_empty : Address.v4Text n ≠ "" := by
  intro he
  have hlast := getLast?_splitOn_v4Text (n := n)
  rw [he] at hlast
  exact Decimals.toString_ne_nil _ (Option.some.inj hlast).symm

theorem endsInNumber_v4Text : endsInNumber (Address.v4Text n).toList = true := by
  have hlast : ¬ some (toString (n % 256)).toList = some [] := by
    rw [Option.some.injEq]
    exact Decimals.toString_ne_nil _
  unfold endsInNumber
  simp only [getLast?_splitOn_v4Text, if_neg hlast]
  rw [numberPart?_octet _ (Nat.mod_lt n (by decide)), Option.isSome_some, Bool.or_true]

theorem readIpv4_eq_some_iff : readIpv4 cs = some n ↔
    (dottedParts cs).length ≤ 4 ∧ ∃ numbers last,
      (dottedParts cs).mapM numberPart? = some numbers ∧ numbers.getLast? = some last ∧
      (∀ b ∈ numbers.dropLast, b ≤ 255) ∧ last < 256 ^ (4 - numbers.dropLast.length) ∧
      n = Address.ofOctets numbers.dropLast * 256 ^ (4 - numbers.dropLast.length) + last := by
  unfold readIpv4
  simp only
  split
  · next hlen => exact iff_of_false (Option.some_ne_none n).symm fun h => Nat.not_le.mpr hlen h.1
  · next hlen =>
    cases hnumbers : (dottedParts cs).mapM numberPart? with
    | none => simp
    | some numbers =>
      cases hlast : numbers.getLast? with
      | none => simp [hlast]
      | some last => simp [hlast, Nat.not_lt.mp hlen, and_assoc, eq_comm (a := n)]

theorem ofOctets_lt {bytes : List Nat} (h : ∀ b ∈ bytes, b ≤ 255) :
    Address.ofOctets bytes < 256 ^ bytes.length := by
  have hfrom : ∀ acc, bytes.foldl (fun acc b => 256 * acc + b) acc <
      (acc + 1) * 256 ^ bytes.length := by
    induction bytes with
    | nil => simp
    | cons b bytes ih =>
      obtain ⟨hb, hbytes⟩ := List.forall_mem_cons.mp h
      intro acc
      calc (b :: bytes).foldl (fun acc b => 256 * acc + b) acc
          < (256 * acc + b + 1) * 256 ^ bytes.length := ih hbytes _
        _ ≤ ((acc + 1) * 256) * 256 ^ bytes.length := Nat.mul_le_mul_right _ (by omega)
        _ = (acc + 1) * 256 ^ (b :: bytes).length := by
          rw [List.length_cons, Nat.pow_succ, Nat.mul_assoc, Nat.mul_comm 256]
  simpa [Address.ofOctets] using hfrom 0

/-- Whatever is read as an IPv4 address fits 32 bits. -/
theorem readIpv4_lt (h : readIpv4 cs = some n) : n < 2 ^ 32 := by
  obtain ⟨hlen, numbers, last, hnumbers, -, hfront, hlast, rfl⟩ := readIpv4_eq_some_iff.mp h
  -- The last part fills whatever octets the parts before it leave of four.
  have hcount : numbers.dropLast.length ≤ 4 := by
    have hsame := congrArg List.length (Chains.mapM_some_iff.mp hnumbers)
    rw [List.length_map, List.length_map] at hsame
    rw [List.length_dropLast]
    omega
  calc Address.ofOctets numbers.dropLast * 256 ^ (4 - numbers.dropLast.length) + last
      < (Address.ofOctets numbers.dropLast + 1) * 256 ^ (4 - numbers.dropLast.length) := by
        rw [Nat.succ_mul]
        exact Nat.add_lt_add_left hlast _
    _ ≤ 256 ^ numbers.dropLast.length * 256 ^ (4 - numbers.dropLast.length) :=
        Nat.mul_le_mul_right _ (ofOctets_lt hfront)
    _ = 256 ^ 4 := by rw [← Nat.pow_add, Nat.add_sub_cancel' hcount]
    _ = 2 ^ 32 := rfl

theorem readIpv4_v4Text (h : n < 2 ^ 32) : readIpv4 (Address.v4Text n).toList = some n := by
  have hparts : ((Address.octets n).map fun k => (toString k).toList).mapM numberPart? =
      some (Address.octets n) := by
    rw [Chains.mapM_some_iff, List.map_map]
    exact List.map_congr_left fun k hk => numberPart?_octet k (octets_lt k hk)
  rw [readIpv4_eq_some_iff, dottedParts_v4Text, hparts]
  refine ⟨by simp [Address.octets], Address.octets n, n % 256, rfl, rfl, ?_, ?_, ?_⟩
  · intro b hb
    exact Nat.le_of_lt_succ (octets_lt b (List.dropLast_subset _ hb))
  · simp [Address.octets, Nat.mod_lt]
  · simp [Address.octets, Address.ofOctets]
    omega

theorem digit_or_dot {c : Char} (h : c ∈ (Address.v4Text n).toList) :
    c.isDigit = true ∨ c = '.' := by
  rw [toList_v4Text] at h
  rcases mem_intercalate h with rfl | ⟨p, hp, hc⟩
  · exact .inr rfl
  · obtain ⟨k, -, rfl⟩ := List.mem_map.mp hp
    exact .inl (Decimals.isDigit_of_mem hc)

/-- As a name it would be in canonical spelling. -/
theorem canonical_v4Text : Canonical (Address.v4Text n) := by
  have hplain : ∀ c ∈ (Address.v4Text n).toList,
      c.toNat < 128 ∧ c.toLower = c ∧ isForbiddenInDomain c = false :=
    fun c hc => plain_of_digit_or_dot (digit_or_dot hc)
  refine ⟨fun c hc => (hplain c hc).2.1, fun c hc => (hplain c hc).1,
    fun c hc => (hplain c hc).2.2, ?_⟩
  rw [splitOn_v4Text, List.all_map, List.all_eq_true]
  intro k _
  have hnot : "xn--".toList.isPrefixOf? (toString k).toList = none := by
    rw [Option.eq_none_iff_forall_ne_some]
    intro rest hrest
    have hx : 'x' ∈ (toString k).toList := by
      rw [← List.append_eq_of_isPrefixOf?_eq_some hrest]
      exact List.mem_cons_self
    exact absurd (Decimals.isDigit_of_mem hx) (by decide)
  simp only [Function.comp_apply, labelOk, hnot]

end

section
variable {gs : List Nat}

theorem hex_char {n : Nat} {c : Char} (h : c ∈ hex n) : ∃ d < 16, c = Nat.digitChar d := by
  rw [hex] at h
  induction n using Nat.strongRecOn with
  | ind n ih =>
    rw [Nat.toDigits_eq_if (by decide)] at h
    split at h
    · next hn => exact ⟨n, hn, List.mem_singleton.mp h⟩
    · next hn =>
      rcases List.mem_append.mp h with hfront | hlast
      · exact ih (n / 16) (by omega) hfront
      · exact ⟨n % 16, Nat.mod_lt n (by decide), List.mem_singleton.mp hlast⟩

theorem toList_groupsText : (Address.groupsText gs).toList = [':'].intercalate (gs.map hex) := by
  rw [Address.groupsText, join, String.toList_intercalate, List.map_map]
  simp [Function.comp_def]

theorem digit_or_colon_of_groups {c : Char} (h : c ∈ (Address.groupsText gs).toList) :
    c = ':' ∨ ∃ d < 16, c = Nat.digitChar d := by
  rw [toList_groupsText] at h
  refine (mem_intercalate h).imp_right ?_
  rintro ⟨p, hp, hc⟩
  obtain ⟨g, -, rfl⟩ := List.mem_map.mp hp
  exact hex_char hc

theorem digit_or_colon {c : Char} (h : c ∈ (Address.v6Text gs).toList) :
    c = ':' ∨ ∃ d < 16, c = Nat.digitChar d := by
  unfold Address.v6Text at h
  simp only at h
  split at h
  · simp only [String.toList_append, List.mem_append] at h
    rcases h with (hleft | hpair) | hright
    · exact digit_or_colon_of_groups hleft
    · exact .inl (by simpa using hpair)
    · exact digit_or_colon_of_groups hright
  · exact digit_or_colon_of_groups h

theorem allowed_or_colon {c : Char} (h : c ∈ (Address.v6Text gs).toList) :
    c = ':' ∨ isForbiddenInDomain c = false := by
  refine (digit_or_colon h).imp_right ?_
  rintro ⟨d, hd, rfl⟩
  have hall : ∀ d < 16, isForbiddenInDomain (Nat.digitChar d) = false := by decide
  exact hall d hd

/-- Eight groups cannot be written without a colon. -/
theorem colon_mem_v6Text (h : gs.length = 8) : ':' ∈ (Address.v6Text gs).toList := by
  unfold Address.v6Text
  simp only
  split
  · simp
  · rw [toList_groupsText]
    match gs with
    | a :: b :: rest => simp [List.intercalate_cons_cons]

theorem length_of_readV6 {cs : List Char} (h : Address.readV6 cs = some gs) : gs.length = 8 := by
  unfold Address.readV6 at h
  split at h
  · exact of_decide_eq_true (Option.filter_eq_some_iff.mp h).2
  · split at h
    · split at h
      · obtain rfl := Option.some.inj h
        simp
        omega
      · cases h
    · cases h

end

section
open Address Pairs

/-- The fold that reads hexadecimal digits. -/
def readHex (acc : Option Nat) (cs : List Char) : Option Nat :=
  cs.foldl (fun acc c => acc.bind fun a => (hexValue? c).map (16 * a + ·)) acc

/-- A character that an address may be written with. -/
def IsWritten (c : Char) : Prop :=
  c = ':' ∨ c = '.' ∨ hexValue? c ≠ none

theorem hexValue?_of_isDigit {c : Char} (h : c.isDigit = true) : hexValue? c ≠ none := by
  have hrange := Decimals.range_of_isDigit h
  simp [hexValue?, hrange]

theorem allowed_or_colon_of_written {c : Char} (h : IsWritten c) :
    c = ':' ∨ isForbiddenInDomain c = false := by
  rcases h with rfl | rfl | hhex
  · exact .inl rfl
  · exact .inr (by decide)
  · have hascii : c.toNat < 128 := by
      apply Nat.lt_of_not_le
      intro hle
      apply hhex
      unfold hexValue?
      grind
    have hall := ascii_forall (P := fun c => hexValue? c ≠ none → isForbiddenInDomain c = false)
      (by decide +kernel) hascii
    exact .inr (hall hhex)

theorem of_readHex {acc : Option Nat} {cs : List Char} {n : Nat} (h : readHex acc cs = some n) :
    acc ≠ none ∧ ∀ c ∈ cs, hexValue? c ≠ none := by
  induction cs generalizing acc with
  | nil =>
    obtain rfl : acc = some n := h
    simp
  | cons c cs ih =>
    obtain ⟨hstep, hcs⟩ := ih h
    obtain ⟨m, hm⟩ := Option.ne_none_iff_exists'.mp hstep
    obtain ⟨a, ha, hdigit⟩ := Option.bind_eq_some_iff.mp hm
    obtain ⟨d, hd, -⟩ := Option.map_eq_some_iff.mp hdigit
    refine ⟨by simp [ha], List.forall_mem_cons.mpr ⟨by simp [hd], hcs⟩⟩

theorem of_group? {cs : List Char} {g : Nat} (h : group? cs = some g) :
    ∀ c ∈ cs, hexValue? c ≠ none := by
  unfold group? at h
  split at h
  · cases h
  · exact (of_readHex h).2

theorem of_octet? {cs : List Char} {k : Nat} (h : octet? cs = some k) :
    ∀ c ∈ cs, c.isDigit = true := by
  unfold octet? at h
  split at h
  · cases h
  · split at h
    · exact (Decimals.of_natural? (Option.filter_eq_some_iff.mp h).1).2
    · cases h

theorem of_readV4 {cs : List Char} {n : Nat} (h : readV4 cs = some n) : ∀ c ∈ cs, IsWritten c := by
  unfold readV4 at h
  split at h
  · next a b c d hpieces =>
    split at h
    · next ha hb hc hd =>
      have hdigits : ∀ p ∈ cs.splitOn '.', ∀ x ∈ p, x.isDigit = true := by
        rw [hpieces]
        simp only [List.forall_mem_cons]
        exact ⟨of_octet? ha, of_octet? hb, of_octet? hc, of_octet? hd, by simp⟩
      intro x hx
      rcases eq_or_mem_splitOn '.' hx with rfl | ⟨p, hp, hxp⟩
      · exact .inr (.inl rfl)
      · exact .inr (.inr (hexValue?_of_isDigit (hdigits p hp x hxp)))
    · cases h
  · cases h

theorem of_groups? {mayEndDotted : Bool} {ps : List (List Char)} {gs : List Nat}
    (h : groups? mayEndDotted ps = some gs) : ∀ p ∈ ps, ∀ c ∈ p, IsWritten c := by
  have hgroup : ∀ {p g}, group? p = some g → ∀ c ∈ p, IsWritten c :=
    fun hp c hc => .inr (.inr (of_group? hp c hc))
  fun_induction groups? mayEndDotted ps generalizing gs with
  | case1 => simp
  | case2 p g hp => simpa using hgroup hp
  | case3 p _ hdotted =>
    obtain ⟨n, hn, -⟩ := Option.map_eq_some_iff.mp h
    simpa using of_readV4 hn
  | case4 => cases h
  | case5 p rest _ g hp ih =>
    obtain ⟨gs', hrest, -⟩ := Option.map_eq_some_iff.mp h
    exact List.forall_mem_cons.mpr ⟨hgroup hp, ih hrest⟩
  | case6 => cases h

theorem of_sides {mayEndDotted : Bool} {cs : List Char} {gs : List Nat}
    (h : groups? mayEndDotted (sides cs) = some gs) : ∀ c ∈ cs, IsWritten c := by
  intro c hc
  have hsides : sides cs = cs.splitOn ':' := by simp [sides, List.ne_nil_of_mem hc]
  rw [hsides] at h
  rcases eq_or_mem_splitOn ':' hc with rfl | ⟨p, hp, hcp⟩
  · exact .inl rfl
  · exact of_groups? h p hp c hcp

/-- Nothing else is read as an address. -/
theorem of_readV6 {cs : List Char} {gs : List Nat} (h : readV6 cs = some gs) :
    ∀ c ∈ cs, IsWritten c := by
  unfold readV6 at h
  split at h
  · exact of_sides (Option.filter_eq_some_iff.mp h).1
  · next left right hcut =>
    split at h
    · next hleft hright =>
      intro c hc
      rw [of_cutPair hcut] at hc
      simp only [List.mem_append, List.mem_cons] at hc
      rcases hc with hc | rfl | rfl | hc
      · exact of_sides hleft c hc
      · exact .inl rfl
      · exact .inl rfl
      · exact of_sides hright c hc
    · cases h

theorem readV6_eq_none {cs : List Char} {c : Char} (hc : c ∈ cs) (hcolon : c ≠ ':')
    (h : isForbiddenInDomain c = true) : readV6 cs = none := by
  rw [Option.eq_none_iff_forall_ne_some]
  intro gs hread
  rcases allowed_or_colon_of_written (of_readV6 hread c hc) with rfl | hallowed
  · exact hcolon rfl
  · rw [h] at hallowed
    cases hallowed

end

/-- A host as reading leaves it. -/
def Settled : Host → Prop
  | .domain name => Canonical name ∧ name ≠ "" ∧ endsInNumber name.toList = false
  | .address (.v4 n) => n < 2 ^ 32
  | .address (.v6 gs) => gs.length = 8

/-- Whether a host is an IPv6 address. -/
def IsV6 (host : Host) : Prop :=
  ∃ gs, host = .address (.v6 gs)

section
variable {host : Host} {cs : List Char}

theorem settled_of_bracketed? (h : bracketed? cs = some (.ok host)) : Settled host := by
  unfold bracketed? at h
  split at h
  · have hread := Option.some.inj h
    split at hread
    · split at hread
      · next gs hgs =>
        obtain rfl := Except.ok.inj hread
        exact length_of_readV6 hgs
      · cases hread
    · cases hread
  · cases h

theorem settled_of_readHost (h : readHost cs = .ok host) : Settled host := by
  unfold readHost at h
  split at h
  · next result hb => exact settled_of_bracketed? (h ▸ hb)
  · split at h
    · cases h
    · split at h
      · cases h
      · next name hname =>
        split at h
        · cases h
        · next hne =>
          split at h
          · split at h
            · next n hn =>
              obtain rfl := Except.ok.inj h
              exact readIpv4_lt hn
            · cases h
          · next hend =>
            obtain rfl := Except.ok.inj h
            exact ⟨canonical_of_domain? hname, hne, Bool.not_eq_true _ ▸ hend⟩

theorem text_ne_empty (h : Settled host) : host.text ≠ "" := by
  match host, h with
  | .domain name, ⟨_, hne, _⟩ => exact hne
  | .address (.v4 n), _ => exact v4Text_ne_empty
  | .address (.v6 gs), _ =>
    intro he
    have hopen : '[' ∈ (Host.address (.v6 gs)).text.toList := by simp [Host.text]
    rw [he] at hopen
    cases hopen

/-- A name or an IPv4 address is read back from its text. -/
theorem readHost_text (h : Settled host) (hv6 : ¬ IsV6 host) :
    readHost host.text.toList = .ok host := by
  match host, h with
  | .domain name, ⟨hname, hne, hend⟩ =>
    rw [Host.text, hname.readHost hne, hend]
    rfl
  | .address (.v4 n), hn =>
    rw [Host.text, canonical_v4Text.readHost v4Text_ne_empty, endsInNumber_v4Text,
      readIpv4_v4Text hn]
    rfl
  | .address (.v6 gs), _ => exact absurd ⟨gs, rfl⟩ hv6

theorem bracketed?_around (cs : List Char) : bracketed? ('[' :: cs ++ [']']) =
    some (match Address.readV6 cs with
      | some gs => .ok (.address (.v6 gs))
      | none => .error .badIpv6) := by
  cases hread : Address.readV6 cs <;> simp [bracketed?, hread]

/-- With a second pair of brackets an IPv6 address is none. -/
theorem readHost_bracketed (h : IsV6 host) :
    readHost ('[' :: host.text.toList ++ [']']) = .error .badIpv6 := by
  obtain ⟨gs, rfl⟩ := h
  have htext : (Host.address (.v6 gs)).text.toList = '[' :: ((Address.v6Text gs).toList ++ [']']) :=
    by simp [Host.text]
  unfold readHost
  rw [bracketed?_around, htext, readV6_eq_none List.mem_cons_self (by decide) (by decide)]

/-- Outside an IPv6 address, no character has a meaning of its own. -/
theorem allowed_of_mem_text (h : Settled host) (hv6 : ¬ IsV6 host) {c : Char}
    (hc : c ∈ host.text.toList) : isForbiddenInDomain c = false := by
  cases host with
  | domain name => exact h.1.allowed c hc
  | address a =>
    cases a with
    | v4 n => exact canonical_v4Text.allowed c hc
    | v6 gs => exact absurd ⟨gs, rfl⟩ hv6

/-- Only the text of an IPv6 address has a colon. -/
theorem colon_mem_text_iff (h : Settled host) : ':' ∈ host.text.toList ↔ IsV6 host := by
  constructor
  · intro hm
    apply Classical.byContradiction
    intro hv6
    exact absurd (allowed_of_mem_text h hv6 hm) (by decide)
  · rintro ⟨gs, rfl⟩
    simp [Host.text, colon_mem_v6Text h]

end

end Switchboard.Proofs.Hosts
