import Mathlib.Data.List.TakeWhile
import Switchboard.Proofs.Hosts
import Switchboard.Url.Reader

namespace Switchboard.Proofs.Addresses
open Text Number Url Hosts

/-- The URL of a host and a port; port 80 goes without saying. -/
def webUrl (host : Host) (port : Nat) : Url :=
  ⟨"http", some ⟨"", "", some host, if port = 80 then none else some port⟩, .segments [""], none,
    none⟩

theorem port_webUrl (host : Host) (port : Nat) : (webUrl host port).port = some port := by
  unfold Url.port webUrl
  by_cases h : port = 80
  · simp [h, defaultPort]
  · simp [h]

section
variable {c : Char} {cs hs : List Char} {kind : Kind} {port : Nat}

/-- A character that means nothing before the path, brackets and colons apart. -/
def Unmarked (c : Char) : Prop :=
  0x20 < c.toNat ∧ c ≠ '@' ∧ endsAuthority .special c = false

theorem ne_of_allowed {d : Char} (h : isForbiddenInDomain c = false)
    (hd : isForbiddenInDomain d = true) : c ≠ d := by
  rintro rfl
  exact absurd (h.symm.trans hd) (by decide)

theorem unmarked_of_allowed (h : isForbiddenInDomain c = false) : Unmarked c := by
  have hlow : 0x20 < c.toNat := by
    apply Nat.lt_of_not_le
    intro hle
    simp [isForbiddenInDomain, hle] at h
  have hends : endsAuthority .special c = false := by
    simp [endsAuthority, isSlash, ne_of_allowed h (d := '/') rfl, ne_of_allowed h (d := '\\') rfl,
      ne_of_allowed h (d := '?') rfl, ne_of_allowed h (d := '#') rfl]
  exact ⟨hlow, ne_of_allowed h rfl, hends⟩

theorem unmarked_of_sign (h : c ∈ ['[', ']', ':', '%']) : Unmarked c := by
  simp only [List.mem_cons, List.not_mem_nil, or_false] at h
  rcases h with rfl | rfl | rfl | rfl <;> exact ⟨by decide, by decide, by decide⟩

theorem Unmarked.stays (h : Unmarked c) (kind : Kind) : endsAuthority kind c = false := by
  obtain ⟨-, -, hends⟩ := h
  cases kind with
  | special => exact hends
  | file => exact hends
  | other =>
    simp only [endsAuthority, isSlash, Bool.or_eq_false_iff] at hends
    simp [endsAuthority, isSlash, isSpecial, hends]

theorem tidy_eq_self (h : ∀ c ∈ cs, 0x20 < c.toNat) : tidy cs = cs := by
  have hseen : ∀ c ∈ cs, decide (c.toNat ≤ 0x20) = false := fun c hc =>
    decide_eq_false (Nat.not_le.mpr (h c hc))
  have hclean : Clean (·.toNat ≤ 0x20) cs :=
    ⟨fun c hc => hseen c (List.mem_of_mem_head? hc),
      fun c hc => hseen c (List.mem_of_getLast? hc)⟩
  rw [tidy, stripChars_of_clean hclean, List.filter_eq_self]
  intro c hc
  have hlow := h c hc
  have hne : c ≠ '\t' ∧ c ≠ '\n' ∧ c ≠ '\r' := by
    refine ⟨?_, ?_, ?_⟩ <;> rintro rfl <;> exact absurd hlow (by decide)
  simp [hne]

theorem readCredentials_none (h : '@' ∉ cs) : readCredentials kind cs = .ok (("", ""), cs) := by
  have hfront : (cs.takeWhile (!endsAuthority kind ·)).contains '@' = false := by
    rw [← Bool.not_eq_true, List.contains_iff_mem]
    exact fun hm => h ((List.takeWhile_sublist _).subset hm)
  unfold readCredentials
  simp only [hfront, Bool.not_false, if_true]

theorem readPort_toString {scheme : String} (h : port ≤ 65535) :
    readPort scheme (toString port).toList =
      .ok (if defaultPort scheme = some port then none else some port, []) := by
  have hdigits : ∀ c ∈ (toString port).toList, c.isDigit = true :=
    fun c hc => Decimals.isDigit_of_mem hc
  have htake := List.takeWhile_eq_self_iff.mpr hdigits
  have hdrop := List.dropWhile_eq_nil_iff.mpr hdigits
  unfold readPort
  simp only [htake, hdrop, Decimals.natural?_toString]
  simp [Nat.not_lt.mpr h]

/-- A host that is written plainly ends at the colon before the port. -/
theorem hostChars_plain (h : ∀ c ∈ hs, isForbiddenInDomain c = false) (rest : List Char) :
    hostChars kind false (hs ++ ':' :: rest) = hs := by
  induction hs with
  | nil => rfl
  | cons c hs ih =>
    obtain ⟨hc, hhs⟩ := List.forall_mem_cons.mp h
    have hcolon : c ≠ ':' := ne_of_allowed hc rfl
    have hopen : c ≠ '[' := ne_of_allowed hc rfl
    rw [List.cons_append, hostChars]
    simp [hcolon, hopen, (unmarked_of_allowed hc).stays kind, ih hhs]

/-- Between brackets a colon does not end the host. -/
theorem hostChars_inside (h : ∀ c ∈ hs, c ≠ ']' ∧ Unmarked c) (rest : List Char) :
    hostChars kind true (hs ++ ']' :: rest) = hs ++ ']' :: hostChars kind false rest := by
  induction hs with
  | nil =>
    have hclose : endsAuthority kind ']' = false := (unmarked_of_sign (by simp)).stays kind
    simp [hostChars, hclose]
  | cons c hs ih =>
    obtain ⟨⟨hclose, hc⟩, hhs⟩ := List.forall_mem_cons.mp h
    rw [List.cons_append, hostChars]
    simp [hclose, hc.stays kind, ih hhs]

theorem inside_of_allowed_or_colon (h : c = ':' ∨ isForbiddenInDomain c = false) :
    c ≠ ']' ∧ Unmarked c := by
  rcases h with rfl | h
  · exact ⟨by decide, unmarked_of_sign (by simp)⟩
  · exact ⟨ne_of_allowed h rfl, unmarked_of_allowed h⟩

theorem readScheme_web (rest : List Char) :
    readScheme ("http:".toList ++ rest) = some ("http", rest) := by
  simp [readScheme, isSchemeChar]

theorem readPath_nil : readPath .special [] = ([""], []) := by
  simp [readPath, readSegments, isSpecial, pathPieces, walk, isDoubleDot, isDot, encoded,
    Percent.encodeChars]

section
variable {scheme : String} {ds : List Char} (hat : '@' ∉ hs ++ ':' :: ds)
  (hend : hostChars kind false (hs ++ ':' :: ds) = hs)
include hat hend

theorem readAuthority_bad {e : Url.Error} (hhost : hostOf kind hs = .error e) :
    readAuthority scheme kind (hs ++ ':' :: ds) = .error e := by
  unfold readAuthority
  rw [readCredentials_none hat]
  simp only [bind, Except.bind, hend, hhost]

theorem readAuthority_located {host : Host} {p : Option Nat}
    (hhost : hostOf kind hs = .ok (some host)) (hport : readPort scheme ds = .ok (p, [])) :
    readAuthority scheme kind (hs ++ ':' :: ds) =
      .ok ⟨scheme, some ⟨"", "", some host, p⟩, .segments (readPath kind []).1, none, none⟩ := by
  have hpath : (readPath kind []).2 = [] := by cases kind <;> rfl
  unfold readAuthority
  rw [readCredentials_none hat]
  simp only [bind, Except.bind, hend, hhost, List.drop_left, Option.isNone_some, hport]
  simp [hpath, readTail]

end

theorem hostOf_special (hne : hs ≠ []) : hostOf .special hs = (readHost hs).map some := by
  have hempty : hs.isEmpty = false := by simpa using hne
  simp [hostOf, isSpecial, hempty]

theorem readAuthority_web {ds : List Char} {p : Option Nat} (hne : hs ≠ [])
    (hat : '@' ∉ hs ++ ':' :: ds) (hend : hostChars .special false (hs ++ ':' :: ds) = hs)
    (hport : readPort "http" ds = .ok (p, [])) :
    readAuthority "http" .special (hs ++ ':' :: ds) = (readHost hs).map fun host =>
      ⟨"http", some ⟨"", "", some host, p⟩, .segments [""], none, none⟩ := by
  cases hread : readHost hs with
  | error e => exact readAuthority_bad hat hend (by rw [hostOf_special hne, hread]; rfl)
  | ok host =>
    rw [readAuthority_located hat hend (by rw [hostOf_special hne, hread]; rfl) hport, readPath_nil]
    rfl

/-- A host of unmarked characters in front of a colon and a port is read by itself. -/
theorem parse_web (hne : hs ≠ []) (hmarks : ∀ c ∈ hs, Unmarked c)
    (hend : ∀ rest, hostChars .special false (hs ++ ':' :: rest) = hs) (hport : port ≤ 65535) :
    Url.parse (String.ofList ("http://".toList ++ (hs ++ ':' :: (toString port).toList))) =
      (readHost hs).map (webUrl · port) := by
  have hdigits : ∀ c ∈ (toString port).toList, Unmarked c := fun c hc =>
    unmarked_of_allowed (plain_of_digit_or_dot (.inl (Decimals.isDigit_of_mem hc))).2.2
  have hrest : ∀ c ∈ hs ++ ':' :: (toString port).toList, 0x20 < c.toNat ∧ c ≠ '@' := by
    intro c hc
    rcases List.mem_append.mp hc with hc | hc
    · exact ⟨(hmarks c hc).1, (hmarks c hc).2.1⟩
    · rcases List.mem_cons.mp hc with rfl | hc
      · decide
      · exact ⟨(hdigits c hc).1, (hdigits c hc).2.1⟩
  -- Nothing is dropped at the ends or between, and the slashes go before the authority is read.
  have htidy : tidy ("http://".toList ++ (hs ++ ':' :: (toString port).toList)) =
      "http:".toList ++ ('/' :: '/' :: (hs ++ ':' :: (toString port).toList)) := by
    refine tidy_eq_self fun c hc => ?_
    rcases List.mem_append.mp hc with hc | hc
    · have hall : "http://".toList.all (0x20 < ·.toNat) = true := by decide
      exact of_decide_eq_true (List.all_eq_true.mp hall c hc)
    · exact (hrest c hc).1
  have hslashes : ('/' :: '/' :: (hs ++ ':' :: (toString port).toList)).dropWhile
      (isSlash .special ·) = hs ++ ':' :: (toString port).toList := by
    obtain ⟨c, cs, rfl⟩ := List.exists_cons_of_ne_nil hne
    have hc := (hmarks c List.mem_cons_self).2.2
    have hslash : isSlash .special c = false :=
      (Bool.or_eq_false_iff.mp (Bool.or_eq_false_iff.mp hc).1).1
    have hfirst : isSlash .special '/' = true := rfl
    simp [hslash, hfirst, -Nat.toList_repr]
  unfold Url.parse
  rw [String.toList_ofList, htidy, readScheme_web]
  have hkind : kindOf "http" = .special := by decide
  simp only [hkind, hslashes]
  have hread : readPort "http" (toString port).toList =
      .ok (if port = 80 then none else some port, []) := by
    rw [readPort_toString hport]
    simp [defaultPort, eq_comm]
  exact readAuthority_web hne (fun hm => (hrest '@' hm).2 rfl) (hend _) hread

end

section
variable {host : Host} {port : Nat}

theorem written_eq (hostText : String) : "http" ++ "://" ++ hostText ++ ":" ++ toString port =
    String.ofList ("http://".toList ++ (hostText.toList ++ ':' :: (toString port).toList)) := by
  apply String.toList_inj.mp
  simp

/-- A name or an IPv4 address in front of a port is read back, and so is the port. -/
theorem parse_host_port (h : Settled host) (hv6 : ¬ IsV6 host) (hport : port ≤ 65535) :
    Url.parse ("http" ++ "://" ++ host.text ++ ":" ++ toString port) = .ok (webUrl host port) := by
  have hplain : ∀ c ∈ host.text.toList, isForbiddenInDomain c = false :=
    fun c hc => allowed_of_mem_text h hv6 hc
  have hne : host.text.toList ≠ [] := fun he => text_ne_empty h (String.toList_eq_nil_iff.mp he)
  rw [written_eq, parse_web hne (fun c hc => unmarked_of_allowed (hplain c hc))
    (hostChars_plain hplain) hport, readHost_text h hv6]
  rfl

/-- Of two pairs of brackets both belong to the host. -/
theorem hostChars_bracketed (gs : List Nat) (rest : List Char) :
    hostChars .special false ('[' :: (Host.address (.v6 gs)).text.toList ++ [']'] ++ ':' :: rest) =
      '[' :: (Host.address (.v6 gs)).text.toList ++ [']'] := by
  -- Brackets do not nest: the first one that closes ends both, and the second one is a character
  -- like any other.
  have hopen : ∀ cs, hostChars .special false ('[' :: '[' :: cs) =
      '[' :: '[' :: hostChars .special true cs := fun _ => rfl
  have hclose : hostChars .special false (']' :: ':' :: rest) = [']'] := rfl
  have htext : (Host.address (.v6 gs)).text.toList =
      '[' :: (Address.v6Text gs).toList ++ [']'] := by
    simp [Host.text]
  have hwhole : '[' :: (Host.address (.v6 gs)).text.toList ++ [']'] ++ ':' :: rest =
      '[' :: '[' :: ((Address.v6Text gs).toList ++ ']' :: ']' :: ':' :: rest) := by
    simp [htext]
  rw [hwhole, hopen, hostChars_inside fun c hc => inside_of_allowed_or_colon (allowed_or_colon hc),
    hclose, htext]
  simp

/-- An IPv6 address between two pairs of brackets makes no URL. -/
theorem parse_bracketed_port (hv6 : IsV6 host) (hport : port ≤ 65535) :
    Url.parse ("http" ++ "://" ++ ("[" ++ host.text ++ "]") ++ ":" ++ toString port) =
      .error .badIpv6 := by
  have htext : ("[" ++ host.text ++ "]").toList = '[' :: host.text.toList ++ [']'] := by simp
  have hread := readHost_bracketed hv6
  obtain ⟨gs, rfl⟩ := hv6
  rw [written_eq, htext, parse_web _ _ (hostChars_bracketed gs) hport, hread]
  · rfl
  · exact List.cons_ne_nil _ _
  · intro c hc
    simp [Host.text] at hc
    rcases hc with rfl | hc | rfl
    · exact unmarked_of_sign (by simp)
    · exact (inside_of_allowed_or_colon (allowed_or_colon hc)).2
    · exact unmarked_of_sign (by simp)

end

section
variable {scheme text : String} {kind : Kind} {cs : List Char} {u : Url}

theorem readPort_le {p : Nat} {rest : List Char} (h : readPort scheme cs = .ok (some p, rest)) :
    p ≤ 65535 := by
  unfold readPort at h
  grind

theorem readAuthority_ok (h : readAuthority scheme kind cs = .ok u) :
    u.scheme = scheme ∧ ∃ a, u.authority = some a ∧
      (∃ names after, readCredentials kind cs = .ok (names, after) ∧
        hostOf kind (hostChars kind false after) = .ok a.host) ∧
      ∀ p, a.port = some p → p ≤ 65535 := by
  unfold readAuthority at h
  obtain ⟨⟨⟨username, password⟩, after⟩, hread, h⟩ := Chains.bind_ok_iff.mp h
  obtain ⟨host, hhost, h⟩ := Chains.bind_ok_iff.mp h
  simp only at h
  split at h
  · split at h
    · cases h
    · obtain ⟨⟨port, rest⟩, hport, h⟩ := Chains.bind_ok_iff.mp h
      simp only at h
      split at h
      · cases h
      · obtain rfl := Except.ok.inj h
        refine ⟨rfl, _, rfl, ⟨_, _, hread, hhost⟩, ?_⟩
        rintro p rfl
        exact readPort_le hport
  · obtain ⟨⟨port, rest⟩, hport, h⟩ := Chains.bind_ok_iff.mp h
    simp only at h
    split at h
    · cases h
    · obtain rfl := Except.ok.inj h
      cases hport
      exact ⟨rfl, _, rfl, ⟨_, _, hread, hhost⟩, fun p hp => by cases hp⟩

/-- A file has no port. -/
theorem of_readFile (h : readFile cs = .ok u) : u.scheme = "file" ∧ u.port = none := by
  unfold readFile at h
  simp only at h
  split at h
  · split at h
    · split at h
      · split at h
        · split at h
          · cases h
            exact ⟨rfl, rfl⟩
          · split at h
            · cases h
              exact ⟨rfl, rfl⟩
            · obtain ⟨host, -, h⟩ := Chains.bind_ok_iff.mp h
              cases h
              exact ⟨rfl, rfl⟩
        · cases h
          exact ⟨rfl, rfl⟩
      · cases h
        exact ⟨rfl, rfl⟩
    · cases h
      exact ⟨rfl, rfl⟩
  · cases h
    exact ⟨rfl, rfl⟩

theorem scheme_of_readOther (h : readOther scheme cs = .ok u) : u.scheme = scheme := by
  unfold readOther at h
  split at h
  · exact (readAuthority_ok h).1
  · obtain rfl := Except.ok.inj h
    rfl
  · obtain rfl := Except.ok.inj h
    rfl

theorem settled_of_hostOf {host : Option Host} (h : hostOf .special cs = .ok host) :
    ∃ named, host = some named ∧ Settled named := by
  simp only [hostOf, isSpecial, if_true] at h
  split at h
  · cases h
  · cases hread : readHost cs with
    | error e =>
      rw [hread] at h
      cases h
    | ok named =>
      rw [hread] at h
      exact ⟨named, (Except.ok.inj h).symm, settled_of_readHost hread⟩

/-- Every `http` URL has a host, as reading leaves hosts, and a port. -/
theorem host_port_of_parse (h : Url.parse text = .ok u) (hscheme : u.scheme = "http") :
    ∃ host port, u.host = some host ∧ Settled host ∧ u.port = some port ∧ port ≤ 65535 := by
  unfold Url.parse at h
  split at h
  · cases h
  · next scheme rest _ =>
    split at h
    · rw [(of_readFile h).1] at hscheme
      exact absurd hscheme (by decide)
    · obtain ⟨-, a, ha, ⟨_, _, -, hhost⟩, hport⟩ := readAuthority_ok h
      obtain ⟨host, hsome, hsettled⟩ := settled_of_hostOf hhost
      refine ⟨host, a.port.getD 80, by simp [Url.host, ha, hsome], hsettled, ?_, ?_⟩
      · cases hp : a.port <;> simp [Url.port, ha, hp, hscheme, defaultPort]
      · cases hp : a.port with
        | none => decide
        | some p => exact hport p hp
    · next hkind =>
      rw [← scheme_of_readOther h, hscheme] at hkind
      exact absurd hkind (by decide)

end

end Switchboard.Proofs.Addresses
