import Mathlib.Data.List.Forall2
import Switchboard.Directory.Settings
import Switchboard.Proofs.AddressTexts
import Switchboard.Proofs.Schemes

namespace Switchboard.Proofs.Resolved
open Text Number Url Directory Service Hosts Addresses AddressTexts Extensions Schemes

/-- The zone in which an endpoint is meant; 0 is none. -/
def zone : Endpoint → Nat
  | .v4 _ => 0
  | .v6 _ _ zone => zone

/-- What stands between the brackets of an IPv6 endpoint. -/
def inner (gs : List Nat) (zone : Nat) : List Char :=
  (Address.v6 gs).text.toList ++ if zone = 0 then [] else '%' :: (toString zone).toList

/-- What stands in front of the port. -/
def bareText : Endpoint → List Char
  | .v4 n => (Address.v4Text n).toList
  | .v6 gs _ zone => '[' :: inner gs zone ++ [']']

theorem toList_withPort (e : Endpoint) (port : Nat) :
    (e.withPort port).toList = bareText e ++ ':' :: (toString port).toList := by
  cases e with
  | v4 n => simp [Endpoint.withPort, Address.withPort, bareText]
  | v6 gs flow zone =>
    rw [Endpoint.withPort]
    split
    · next h => simp [Address.withPort, bareText, inner, h]
    · next h => simp [bareText, inner, h]

theorem inside_of_written {c : Char} (h : IsWritten c) : c ≠ ']' ∧ Unmarked c :=
  inside_of_allowed_or_colon (allowed_or_colon_of_written h)

theorem inside_of_digit {n : Nat} {c : Char} (h : c ∈ (toString n).toList) : c ≠ ']' ∧ Unmarked c :=
  inside_of_written (.inr (.inr (hexValue?_of_isDigit (Decimals.isDigit_of_mem h))))

section
variable {gs : List Nat} {e : Endpoint} {port : Nat}

theorem inside_inner (h : Fits (.v6 gs)) {zone : Nat} :
    ∀ c ∈ inner gs zone, c ≠ ']' ∧ Unmarked c := by
  intro c hc
  rcases List.mem_append.mp hc with hc | hc
  · exact inside_of_written (of_readV6 (readV6_text h) c hc)
  · split at hc
    · cases hc
    · rcases List.mem_cons.mp hc with rfl | hc
      · exact ⟨by decide, unmarked_of_sign (by simp)⟩
      · exact inside_of_digit hc

theorem unmarked_bareText (h : Fits e.address) : ∀ c ∈ bareText e, Unmarked c := by
  cases e with
  | v4 n => exact fun c hc => unmarked_of_allowed (canonical_v4Text.allowed c hc)
  | v6 gs flow zone =>
    intro c hc
    simp only [bareText, List.cons_append, List.mem_cons, List.mem_append, List.not_mem_nil,
      or_false] at hc
    rcases hc with rfl | hc | rfl
    · exact unmarked_of_sign (by simp)
    · exact (inside_inner h c hc).2
    · exact unmarked_of_sign (by simp)

theorem unmarked_withPort (h : Fits e.address) : ∀ c ∈ (e.withPort port).toList, Unmarked c := by
  intro c hc
  rw [toList_withPort] at hc
  rcases List.mem_append.mp hc with hc | hc
  · exact unmarked_bareText h c hc
  · rcases List.mem_cons.mp hc with rfl | hc
    · exact unmarked_of_sign (by simp)
    · exact (inside_of_digit hc).2

theorem isLow_withPort (h : Fits e.address) : ∀ c ∈ (e.withPort port).toList, isLow c = false := by
  intro c hc
  exact decide_eq_false (Nat.not_le.mpr (unmarked_withPort h c hc).1)

theorem hostChars_bareText (h : Fits e.address) (kind : Kind) (rest : List Char) :
    hostChars kind false (bareText e ++ ':' :: rest) = bareText e := by
  cases e with
  | v4 n => exact hostChars_plain canonical_v4Text.allowed rest
  | v6 gs flow zone =>
    have hopen : ∀ cs, hostChars kind false ('[' :: cs) = '[' :: hostChars kind true cs := by
      intro cs
      have hstays : endsAuthority kind '[' = false := (unmarked_of_sign (by simp)).stays kind
      simp [hostChars, hstays]
    have hend : hostChars kind false (':' :: rest) = [] := by simp [hostChars]
    have hwhole : bareText (.v6 gs flow zone) ++ ':' :: rest =
        '[' :: (inner gs zone ++ ']' :: ':' :: rest) := by simp [bareText]
    rw [hwhole, hopen, hostChars_inside (inside_inner h), hend]
    rfl

/-- Between brackets every scheme reads an IPv6 address. -/
theorem hostOf_around (kind : Kind) (cs : List Char) : hostOf kind ('[' :: cs ++ [']']) =
    match Address.readV6 cs with
    | some gs => .ok (some (.address (.v6 gs)))
    | none => .error .badIpv6 := by
  unfold hostOf readHost readPlainHost
  rw [bracketed?_around]
  cases Address.readV6 cs <;> simp [Except.map]

theorem readPlainHost_v4Text (n : Nat) :
    readPlainHost (Address.v4Text n).toList = .ok (some (.domain (Address.v4Text n))) := by
  have hkept : ∀ c ∈ (Address.v4Text n).toList,
      isForbiddenInHost c = false ∧ isControl c = false := by
    intro c hc
    rcases digit_or_dot hc with hdigit | rfl
    · have hall := ascii_forall (P := fun c => c.isDigit = true →
        isForbiddenInHost c = false ∧ isControl c = false) (by decide +kernel)
        (canonical_v4Text.ascii c hc)
      exact hall hdigit
    · decide
  have hallowed : (Address.v4Text n).toList.any isForbiddenInHost = false := by
    rw [List.any_eq_false]
    exact fun c hc => by simp [(hkept c hc).1]
  have hencoded : Percent.encodeChars (!isControl ·) (Address.v4Text n).toList =
      (Address.v4Text n).toList :=
    Percent.encodeChars_eq_self fun c hc => by simp [(hkept c hc).2]
  have hne : (Address.v4Text n).toList.isEmpty = false := by simpa using v4Text_ne_empty
  unfold readPlainHost
  simp only [canonical_v4Text.bracketed?, hallowed, hne, hencoded, String.ofList_toList]
  rfl

/-- The host of an endpoint that is meant everywhere is its address. -/
theorem hostOf_bareText (h : Fits e.address) (hzone : zone e = 0) (kind : Kind) :
    ∃ host, hostOf kind (bareText e) = .ok (some host) ∧
      host.text = (Host.address e.address).text := by
  cases e with
  | v4 n =>
    have hv6 : ¬IsV6 (.address (.v4 n)) := by
      rintro ⟨gs, hgs⟩
      cases hgs
    have hsettled : Settled (.address (.v4 n)) := h
    have hread := readHost_text hsettled hv6
    cases hkind : isSpecial kind with
    | true =>
      refine ⟨.address (.v4 n), ?_, rfl⟩
      rw [Host.text] at hread
      rw [hostOf, hkind, if_pos rfl, if_neg (by simpa [bareText] using v4Text_ne_empty), bareText,
        hread]
      rfl
    | false =>
      refine ⟨.domain (Address.v4Text n), ?_, rfl⟩
      rw [hostOf, hkind, if_neg Bool.false_ne_true, bareText, readPlainHost_v4Text]
  | v6 gs flow zone =>
    obtain rfl : zone = 0 := hzone
    refine ⟨.address (.v6 gs), ?_, rfl⟩
    have hinner : inner gs 0 = (Address.v6 gs).text.toList := List.append_nil _
    rw [bareText, hostOf_around, hinner, readV6_text h]

/-- A zone is no part of a host. -/
theorem hostOf_zoned (hzone : zone e ≠ 0) (kind : Kind) :
    hostOf kind (bareText e) = .error .badIpv6 := by
  cases e with
  | v4 n => exact absurd rfl hzone
  | v6 gs flow zone =>
    have hpercent : '%' ∈ inner gs zone := by simp [inner, show zone ≠ 0 from hzone]
    rw [bareText, hostOf_around, readV6_eq_none hpercent (by decide) (by decide)]

theorem at_not_mem (h : Fits e.address) : '@' ∉ bareText e ++ ':' :: (toString port).toList := by
  rw [← toList_withPort]
  exact fun hm => (unmarked_withPort h '@' hm).2.1 rfl

variable {scheme : String} (hnames : NamesScheme scheme) (h : Fits e.address)
include hnames h

theorem parse_withPort : Url.parse (scheme ++ "://" ++ e.withPort port) =
    readAuthority (lowered (leading scheme.toList)) (kindOf (lowered (leading scheme.toList)))
      (bareText e ++ ':' :: (toString port).toList) := by
  rw [parse_located hnames (isLow_withPort h), toList_withPort]
  intro c hc
  have hends := (unmarked_withPort h c (List.mem_of_mem_head? hc)).2.2
  exact (Bool.or_eq_false_iff.mp (Bool.or_eq_false_iff.mp hends).1).1

/-- An endpoint that is meant everywhere is read back behind a scheme. -/
theorem parse_unzoned (hport : port ≤ 65535) (hzone : zone e = 0) :
    ∃ u, Url.parse (scheme ++ "://" ++ e.withPort port) = .ok u ∧
      u.host.map Host.text = some (Host.address e.address).text ∧ u.port = some port := by
  obtain ⟨host, hhost, htext⟩ :=
    hostOf_bareText h hzone (kindOf (lowered (leading scheme.toList)))
  refine ⟨_, (parse_withPort hnames h).trans (readAuthority_located (at_not_mem h)
    (hostChars_bareText h _ _) hhost (readPort_toString hport)), ?_, ?_⟩
  · exact congrArg some htext
  · generalize lowered (leading scheme.toList) = name
    by_cases hdefault : defaultPort name = some port <;> simp [Url.port, hdefault]

theorem parse_zoned (hzone : zone e ≠ 0) :
    Url.parse (scheme ++ "://" ++ e.withPort port) = .error .badIpv6 :=
  (parse_withPort hnames h).trans
    (readAuthority_bad (at_not_mem h) (hostChars_bareText h _ _) (hostOf_zoned hzone _))

end

/-- An instance that is named after an endpoint and reached there. -/
structure IsAt (service : String) (port : Nat) (e : Endpoint) (i : Instance) : Prop where
  id : i.id = service ++ "-" ++ e.address.text
  host : i.host = some (Host.address e.address).text
  port : i.port = some port

/-- One instance for every distinct endpoint, in their order, on the configured port. -/
def Served (s : DnsSettings) (service : String) (endpoints : List Endpoint)
    (result : Except Service.Error (List Instance)) : Prop :=
  ∃ instances, result = .ok instances ∧
    List.Forall₂ (IsAt service s.port) endpoints.eraseDups instances

section
variable {s : DnsSettings} {service : String} {e : Endpoint}

theorem port_build (s : DnsSettings) : s.build.port = s.port := by
  unfold DnsSettings.build
  cases s.domain <;> rfl

theorem scheme_build (s : DnsSettings) : s.build.scheme = s.scheme := by
  unfold DnsSettings.build
  cases s.domain <;> rfl

theorem check_ok_iff : (BackendSettings.dns s).check = .ok () ↔
    s.port ≠ 0 ∧ isBlankText s.scheme = false := by
  have hcheck : (BackendSettings.dns s).check = s.check := rfl
  rw [hcheck, DnsSettings.check, Chains.then_ok_iff]
  simp [Config.Check.port, Config.Check.notBlank, Config.Check.fail]

theorem instanceAt_ok_iff {i : Instance} : s.build.instanceAt service e = .ok i ↔
    ∃ u, Url.parse (s.scheme ++ "://" ++ e.withPort s.port) = .ok u ∧
      i = .ofUrl (service ++ "-" ++ e.address.text) service u := by
  rw [Dns.instanceAt, port_build, scheme_build]
  cases Url.parse (s.scheme ++ "://" ++ e.withPort s.port) <;> simp [eq_comm]

theorem served_iff_each {lookup : String → Lookup} {endpoints : List Endpoint}
    (hfound : lookup (s.build.hostFor service) = .found endpoints) :
    Served s service endpoints (s.build.instancesOf lookup service) ↔
      ∀ e ∈ endpoints, ∃ i, s.build.instanceAt service e = .ok i ∧ IsAt service s.port e i := by
  have hdistinct : distinct [] endpoints = endpoints.eraseDups := by
    simpa using distinct_eq_eraseDups [] endpoints
  unfold Served Dns.instancesOf
  simp only [hfound, Dns.instancesAt, hdistinct, Chains.mapM_forall₂_iff, List.mem_eraseDups]

theorem isAt_iff (hnames : NamesScheme s.scheme) (h : Fits e.address) (hport : s.port ≤ 65535) :
    (∃ i, s.build.instanceAt service e = .ok i ∧ IsAt service s.port e i) ↔ zone e = 0 := by
  constructor
  · rintro ⟨i, hi, -⟩
    obtain ⟨u, hu, -⟩ := instanceAt_ok_iff.mp hi
    apply Classical.byContradiction
    intro hzone
    rw [parse_zoned hnames h hzone] at hu
    cases hu
  · intro hzone
    obtain ⟨u, hu, hhost, hport⟩ := parse_unzoned hnames h hport hzone
    exact ⟨_, instanceAt_ok_iff.mpr ⟨u, hu, rfl⟩, rfl, hhost, hport⟩

theorem address_of_text {a b : Address} (ha : Fits a) (hb : Fits b)
    (h : (Host.address a).text = (Host.address b).text) : a = b := by
  have hopen : ∀ {n gs}, (Host.address (.v4 n)).text ≠ (Host.address (.v6 gs)).text := by
    intro n gs heq
    have hmem : '[' ∈ (Host.address (.v4 n)).text.toList := by
      rw [heq]
      simp [Host.text]
    exact absurd (canonical_v4Text.allowed '[' hmem) (by decide)
  cases a with
  | v4 m =>
    cases b with
    | v4 n =>
      have hread := readV4_v4Text ha
      rw [show Address.v4Text m = Address.v4Text n from h, readV4_v4Text hb] at hread
      rw [Option.some.inj hread]
    | v6 gs => exact absurd h hopen
  | v6 fs =>
    cases b with
    | v4 n => exact absurd h.symm hopen
    | v6 gs =>
      have htext : (Address.v6Text fs).toList = (Address.v6Text gs).toList := by
        simpa [Host.text, ← String.toList_inj] using h
      have hread := readV6_v6Text ha.1 ha.2
      rw [htext, readV6_v6Text hb.1 hb.2] at hread
      rw [Option.some.inj hread]

/-- A text that names no scheme does not serve two addresses. -/
theorem address_of_nameless (service : String) (hnames : ¬NamesScheme s.scheme) :
    ∃ host, ∀ {e : Endpoint}, Fits e.address →
      (∃ i, s.build.instanceAt service e = .ok i ∧ IsAt service s.port e i) →
        some (Host.address e.address).text = host := by
  obtain ⟨host, hhost⟩ := host_of_nameless hnames
  refine ⟨host.map Host.text, fun {e} h hi => ?_⟩
  obtain ⟨i, hi, hat⟩ := hi
  obtain ⟨u, hu, rfl⟩ := instanceAt_ok_iff.mp hi
  have hport : u.port = some s.port := hat.port
  rw [← hat.host, ← (hhost (isLow_withPort h) hu).resolve_left (by simp [hport])]
  rfl

/-- Settings pass their check if there is a port and any scheme at all. They serve every list of
endpoints without zones, and no other, if the scheme names one; otherwise they never serve two
addresses. -/
theorem served_iff (hport : s.port ≤ 65535) :
    ((BackendSettings.dns s).check = .ok () ↔ s.port ≠ 0 ∧ isBlankText s.scheme = false) ∧
    ∀ lookup service endpoints, lookup (s.build.hostFor service) = .found endpoints →
      (∀ e ∈ endpoints, Fits e.address) →
      (NamesScheme s.scheme →
        (Served s service endpoints (s.build.instancesOf lookup service) ↔
          ∀ e ∈ endpoints, zone e = 0)) ∧
      (¬NamesScheme s.scheme →
        Served s service endpoints (s.build.instancesOf lookup service) →
          ∀ e ∈ endpoints, ∀ e' ∈ endpoints, e.address = e'.address) := by
  refine ⟨check_ok_iff, fun lookup service endpoints hfound hfits => ?_⟩
  rw [served_iff_each hfound]
  constructor
  · intro hnames
    exact forall₂_congr fun e he => isAt_iff hnames (hfits e he) hport
  · intro hnames hserved e he e' he'
    obtain ⟨host, hhost⟩ := address_of_nameless service hnames
    have hsame := (hhost (hfits e he) (hserved e he)).trans
      (hhost (hfits e' he') (hserved e' he')).symm
    exact address_of_text (hfits e he) (hfits e' he') (Option.some.inj hsame)

/-- A host of two addresses behind `https`. -/
theorem secure_served :
    Served ⟨none, 8443, "https", []⟩ "billing"
      [.v4 2130706433, .v6 [0xFD00, 0, 0, 0, 0, 0, 0, 2] 0 0]
      ((DnsSettings.build ⟨none, 8443, "https", []⟩).instancesOf
        (fun _ => .found [.v4 2130706433, .v6 [0xFD00, 0, 0, 0, 0, 0, 0, 2] 0 0]) "billing") := by
  have hall : (leading "https".toList).all isSchemeChar = true := by decide
  have hnames : NamesScheme "https" :=
    ⟨⟨⟨'h', by decide, by decide⟩, List.all_eq_true.mp hall⟩, by decide⟩
  refine (((served_iff (by decide)).2 _ _ _ rfl ?_).1 hnames).mpr ?_
  · simp [Fits, Endpoint.address]
  · simp [zone]

/-- A scheme with its slashes is accepted, and nothing is built with it. -/
theorem slashed_not_served :
    (BackendSettings.dns ⟨none, 8080, "http://", []⟩).check = .ok () ∧
    Lookup.of (fun _ => .unknown) "127.0.0.1" = .found [.v4 2130706433] ∧
    (DnsSettings.build ⟨none, 8080, "http://", []⟩).instancesOf
      (Lookup.of fun _ => .unknown) "127.0.0.1" =
        .error (.badAddress "127.0.0.1:8080" .emptyHost) ∧
    ¬Served ⟨none, 8080, "http://", []⟩ "127.0.0.1" [.v4 2130706433]
      ((DnsSettings.build ⟨none, 8080, "http://", []⟩).instancesOf
        (Lookup.of fun _ => .unknown) "127.0.0.1") := by
  have hresult : (DnsSettings.build ⟨none, 8080, "http://", []⟩).instancesOf
      (Lookup.of fun _ => .unknown) "127.0.0.1" =
        .error (.badAddress "127.0.0.1:8080" .emptyHost) := rfl
  refine ⟨rfl, by decide +kernel, hresult, ?_⟩
  rintro ⟨instances, hok, -⟩
  rw [hresult] at hok
  cases hok

end

end Switchboard.Proofs.Resolved
