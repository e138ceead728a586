import Switchboard.Proofs.Addresses
import Switchboard.Proofs.Segments

namespace Switchboard.Proofs.Extensions
open Text Number Url Segments Addresses

section
variable {base ds : List Char}

def isLow (c : Char) : Bool :=
  c.toNat ≤ 0x20

def isKept (c : Char) : Bool :=
  c ≠ '\t' && c ≠ '\n' && c ≠ '\r'

/-- What is left of a text at the end of an address. -/
def tidyEnd (ds : List Char) : List Char :=
  (dropEndWhile isLow ds).filter isKept

theorem tidy_eq (cs : List Char) : tidy cs = (stripChars isLow cs).filter isKept := rfl

theorem isKept_of_visible {c : Char} (h : isLow c = false) : isKept c = true := by
  have hne : ∀ d, isLow d = true → c ≠ d := by
    rintro d hd rfl
    rw [h] at hd
    cases hd
  simp [isKept, hne '\t' rfl, hne '\n' rfl, hne '\r' rfl]

/-- What is left of an address ends visibly. Behind it only what is dropped at the end of a text
can come to light when more follows. -/
theorem tidy_extend (h : tidy base ≠ []) : ∃ gap,
    (∀ c ∈ gap, c.toNat ≤ 0x20) ∧
    (∃ front, base.filter isKept = front ++ tidy base ++ gap) ∧
    (∃ z, (tidy base).getLast? = some z ∧ isLow z = false) ∧
    ∀ ds, tidy (base ++ '/' :: ds) = tidy base ++ gap ++ '/' :: tidyEnd ds := by
  obtain ⟨before, after, hbefore, hafter, ⟨hhead, hlast⟩, hbase⟩ := exists_stripped isLow base
  rw [tidy_eq] at h ⊢
  generalize stripChars isLow base = kept at *
  obtain rfl | ⟨front, z, rfl⟩ := List.eq_nil_or_concat' kept
  · exact absurd rfl h
  have hz : isLow z = false := hlast z (by simp)
  have hkept : ((front ++ [z]).filter isKept) = front.filter isKept ++ [z] := by
    simp [isKept_of_visible hz]
  refine ⟨after.filter isKept, ?_, ⟨before.filter isKept, ?_⟩, ⟨z, ?_, hz⟩, fun ds => ?_⟩
  · intro c hc
    exact of_decide_eq_true (hafter c (List.mem_of_mem_filter hc))
  · rw [hbase, List.filter_append, List.filter_append]
  · rw [hkept, List.getLast?_concat]
  · have hstart : (base ++ '/' :: ds).dropWhile isLow = front ++ [z] ++ after ++ '/' :: ds := by
      rw [hbase, List.append_assoc, List.append_assoc, List.append_assoc, List.append_assoc,
        List.dropWhile_append_of_pos hbefore, ← List.append_assoc]
      apply dropWhile_eq_self
      intro c hc
      apply hhead c
      cases front <;> simpa using hc
    rw [tidy_eq, stripChars, hstart, dropEndWhile_append rfl, List.filter_append,
      List.filter_append, List.filter_cons_of_pos rfl]
    rfl

end

section
variable {scheme : String} {cs written more : List Char} {z : Char}

/-- No character that ends an authority. -/
def Free (cs : List Char) : Prop :=
  ∀ c ∈ cs, endsAuthority .special c = false

/-- Nothing, or a text that begins with a character that ends an authority. -/
def Ends (cs : List Char) : Prop :=
  ∀ c, cs.head? = some c → endsAuthority .special c = true

/-- A letter, and further letters, digits and signs of a scheme. -/
def IsName (cs : List Char) : Prop :=
  (∃ c ∈ cs.head?, c.isAlpha = true) ∧ ∀ c ∈ cs, isSchemeChar c = true

def lowered (cs : List Char) : String :=
  String.ofList (cs.map Char.toLower)

theorem readScheme_eq_some_iff {rest : List Char} : readScheme cs = some (scheme, rest) ↔
    ∃ front, cs = front ++ ':' :: rest ∧ IsName front ∧ scheme = lowered front := by
  constructor
  · intro h
    cases cs with
    | nil => cases h
    | cons c cs =>
      have hsplit := List.takeWhile_append_dropWhile (p := isSchemeChar) (l := c :: cs)
      have hall := List.all_eq_true.mp (List.all_takeWhile (p := isSchemeChar) (l := c :: cs))
      unfold readScheme at h
      dsimp only at h
      split at h
      · next halpha =>
        split at h
        · next rest' hrest =>
          obtain ⟨rfl, rfl⟩ := Prod.mk.inj (Option.some.inj h)
          have hc : isSchemeChar c = true := by simp [isSchemeChar, Char.isAlphanum, halpha]
          rw [hrest] at hsplit
          refine ⟨(c :: cs).takeWhile isSchemeChar, hsplit.symm, ⟨⟨c, ?_, halpha⟩, hall⟩, rfl⟩
          rw [List.takeWhile_cons_of_pos hc]
          rfl
        · cases h
      · cases h
  · rintro ⟨front, rfl, ⟨⟨c, hhead, halpha⟩, hall⟩, rfl⟩
    obtain ⟨tail, rfl⟩ := List.head?_eq_some_iff.mp hhead
    have hdrop : (c :: tail ++ ':' :: rest).dropWhile isSchemeChar = ':' :: rest := by
      rw [List.dropWhile_append_of_pos hall]
      rfl
    have htake : (c :: tail ++ ':' :: rest).takeWhile isSchemeChar = c :: tail := by
      rw [List.takeWhile_append_of_pos hall]
      exact List.append_nil _
    rw [List.cons_append] at hdrop htake ⊢
    unfold readScheme
    simp only [halpha, if_true, hdrop, htake, lowered]

theorem readScheme_extend {rest : List Char} (h : readScheme cs = some (scheme, rest)) :
    (∃ front, cs = front ++ ':' :: rest) ∧
    ∀ more, readScheme (cs ++ more) = some (scheme, rest ++ more) := by
  obtain ⟨front, rfl, hname, hscheme⟩ := readScheme_eq_some_iff.mp h
  refine ⟨⟨front, rfl⟩, fun more => readScheme_eq_some_iff.mpr ⟨front, ?_, hname, hscheme⟩⟩
  rw [List.append_assoc, List.cons_append]

theorem hostChars_extend {kind : Kind} (hmore : ∀ c ∈ more.head?, endsAuthority kind c = true)
    (inside : Bool) : hostChars kind inside (cs ++ more) = hostChars kind inside cs := by
  induction cs generalizing inside with
  | nil =>
    cases more with
    | nil => rfl
    | cons c more => simp [hostChars, hmore c rfl]
  | cons c cs ih => rw [List.cons_append, hostChars, hostChars, ih]

/-- A host ends at the end of the authority or at a colon. -/
theorem hostChars_rest (hcs : Free cs) (inside : Bool) :
    hostChars .special inside cs = cs ∨
      ∃ port, cs = hostChars .special inside cs ++ ':' :: port := by
  induction cs generalizing inside with
  | nil => exact .inl rfl
  | cons c cs ih =>
    obtain ⟨hc, hcs⟩ := List.forall_mem_cons.mp hcs
    rw [hostChars, hc, Bool.or_false]
    split
    · next hcolon =>
      rw [Bool.and_eq_true, decide_eq_true_eq] at hcolon
      exact .inr ⟨cs, by rw [hcolon.1]; rfl⟩
    · rcases ih hcs _ with h | ⟨port, h⟩
      · exact .inl (congrArg (c :: ·) h)
      · exact .inr ⟨port, congrArg (c :: ·) h⟩

theorem takeWhile_free (hcs : Free cs) (hmore : Ends more) :
    (cs ++ more).takeWhile (!endsAuthority .special ·) = cs := by
  have hall : ∀ c ∈ cs, (!endsAuthority .special c) = true := by
    intro c hc
    rw [hcs c hc]
    rfl
  rw [List.takeWhile_append_of_pos hall]
  cases more with
  | nil => exact List.append_nil cs
  | cons c more => simp [hmore c rfl]

theorem exists_last_at (h : '@' ∈ cs) : ∃ user after, cs = user ++ '@' :: after ∧ '@' ∉ after := by
  obtain ⟨after, user, hcs, hat⟩ := List.eq_append_cons_of_mem (List.mem_reverse.mpr h)
  refine ⟨user.reverse, after.reverse, ?_, by rwa [List.mem_reverse]⟩
  rw [← List.reverse_reverse cs, hcs]
  simp

/-- What stands around the last `@`. -/
theorem around_last_at {user after : List Char} (hcs : cs = user ++ '@' :: after)
    (hat : '@' ∉ after) : (cs.reverse.takeWhile (· ≠ '@')).reverse = after ∧
      cs.take (cs.length - after.length - 1) = user := by
  have hall : ∀ c ∈ after.reverse, decide (c ≠ '@') = true := by
    intro c hc
    exact decide_eq_true (fun he => hat (he ▸ List.mem_reverse.mp hc))
  constructor
  · rw [hcs, List.reverse_append, List.reverse_cons, List.append_assoc,
      List.takeWhile_append_of_pos hall]
    simp
  · rw [hcs]
    apply List.take_left'
    simp
    omega

/-- The user name and the password that are written in front of an `@`. -/
def namesOf (user : List Char) : String × String :=
  match cutChars ':' user with
  | none => (encoded keptInCredentials user, "")
  | some (name, password) =>
    (encoded keptInCredentials name, encoded keptInCredentials password)

theorem readCredentials_without (hcs : Free cs) (hmore : Ends more) (hat : '@' ∉ cs) :
    readCredentials .special (cs ++ more) = .ok (("", ""), cs ++ more) := by
  have hcontains : cs.contains '@' = false := by
    rw [← Bool.not_eq_true, List.contains_iff_mem]
    exact hat
  unfold readCredentials
  simp only [takeWhile_free hcs hmore, hcontains, Bool.not_false, if_true]

/-- Only an `@` with nothing around it is refused. -/
theorem readCredentials_at {user after : List Char} (hcs : Free cs) (hmore : Ends more)
    (happ : cs = user ++ '@' :: after) (hat : '@' ∉ after) :
    readCredentials .special (cs ++ more) =
      if user = [] ∧ after = [] ∧ more ≠ [] then .error .emptyHost
      else .ok (namesOf user, after ++ more) := by
  obtain ⟨hafter, huser⟩ := around_last_at happ hat
  have hcontains : cs.contains '@' = true := by simp [happ]
  have hdrop : (cs ++ more).drop (user.length + 1) = after ++ more := by simp [happ]
  unfold readCredentials
  simp only [takeWhile_free hcs hmore, hcontains, Bool.not_true, Bool.false_eq_true, if_false,
    hafter, huser, hdrop]
  cases user with
  | nil =>
    cases after with
    | nil =>
      cases more with
      | nil => rfl
      | cons c more => simp [hmore c rfl]
    | cons c after =>
      have hc := hcs c (by simp [happ])
      simp [hc, namesOf, cutChars, encoded, Percent.encodeChars]
  | cons c user =>
    simp only [List.isEmpty_cons, Bool.false_eq_true, if_false, List.cons_ne_nil, false_and,
      namesOf]
    cases cutChars ':' (c :: user) <;> rfl

theorem readCredentials_extend {names : String × String} {rest : List Char} (hcs : Free cs)
    (hmore : Ends more) (h : readCredentials .special (cs ++ more) = .ok (names, rest)) :
    ∃ after, after <:+ cs ∧ rest = after ++ more ∧ (after ≠ [] → ∀ other, Ends other →
      readCredentials .special (cs ++ other) = .ok (names, after ++ other)) := by
  by_cases hat : '@' ∈ cs
  · obtain ⟨user, after, happ, hlast⟩ := exists_last_at hat
    rw [readCredentials_at hcs hmore happ hlast] at h
    split at h
    · cases h
    · obtain ⟨rfl, rfl⟩ := Prod.mk.inj (Except.ok.inj h)
      refine ⟨after, ⟨user ++ ['@'], by simp [happ]⟩, rfl, fun hne other hother => ?_⟩
      rw [readCredentials_at hcs hother happ hlast, if_neg fun hempty => hne hempty.2.1]
  · rw [readCredentials_without hcs hmore hat] at h
    obtain ⟨rfl, rfl⟩ := Prod.mk.inj (Except.ok.inj h)
    exact ⟨cs, List.suffix_rfl, rfl, fun _ other hother =>
      readCredentials_without hcs hother hat⟩

theorem endsAuthority_eq (c : Char) : endsAuthority .special c =
    (decide (c = '/') || decide (c = '\\') || decide (c = '?') || decide (c = '#')) := by
  simp [endsAuthority, isSlash, isSpecial]

/-- The port that digits name. -/
def portOf (scheme : String) (digits : List Char) : Except Url.Error (Option Nat) :=
  match natural? digits with
  | none => .ok none
  | some n =>
    if 65535 < n then .error .badPort
    else .ok (if defaultPort scheme = some n then none else some n)

theorem readPort_digits (hcs : ∀ c ∈ cs, c.isDigit = true) (hmore : Ends more) :
    readPort scheme (cs ++ more) = (portOf scheme cs).map (·, more) := by
  unfold readPort portOf
  rw [List.takeWhile_append_of_pos hcs, List.dropWhile_append_of_pos hcs]
  cases more with
  | nil =>
    simp only [List.takeWhile_nil, List.append_nil, List.dropWhile_nil]
    cases natural? cs with
    | none => rfl
    | some n =>
      simp only [Bool.not_true, Bool.or_false, decide_eq_true_eq]
      split <;> rfl
  | cons c more =>
    have hc := hmore c rfl
    rw [endsAuthority_eq] at hc
    have hdigit : ¬c.isDigit = true := by
      simp only [Bool.or_eq_true, decide_eq_true_eq] at hc
      rcases hc with ((rfl | rfl) | rfl) | rfl <;> decide
    simp only [List.takeWhile_cons, List.dropWhile_cons, if_neg hdigit, List.append_nil, hc,
      if_true]
    cases natural? cs with
    | none => rfl
    | some n =>
      simp only [Bool.not_true, Bool.or_false, decide_eq_true_eq]
      split <;> rfl

/-- A port is made of digits, and nothing of what follows them belongs to it. -/
theorem readPort_extend {port : Option Nat} {rest : List Char} (hcs : Free cs) (hmore : Ends more)
    (h : readPort scheme (cs ++ more) = .ok (port, rest)) :
    rest = more ∧ (∀ c ∈ cs, c.isDigit = true) ∧ ∀ other, Ends other →
      readPort scheme (cs ++ other) = .ok (port, other) := by
  by_cases hall : ∀ c ∈ cs, c.isDigit = true
  · have hread : ∀ other, Ends other →
        readPort scheme (cs ++ other) = (portOf scheme cs).map (·, other) :=
      fun _ => readPort_digits hall
    rw [hread more hmore] at h
    cases hport : portOf scheme cs with
    | error e =>
      rw [hport] at h
      cases h
    | ok port' =>
      rw [hport] at h
      obtain ⟨rfl, rfl⟩ := Prod.mk.inj (Except.ok.inj h)
      refine ⟨rfl, hall, fun other hother => ?_⟩
      rw [hread other hother, hport]
      rfl
  · exfalso
    have hne : cs.dropWhile Char.isDigit ≠ [] :=
      fun hnil => hall (List.dropWhile_eq_nil_iff.mp hnil)
    obtain ⟨d, tail, hd⟩ := List.exists_cons_of_ne_nil hne
    have hdrop : (cs ++ more).dropWhile Char.isDigit = d :: (tail ++ more) := by
      rw [List.dropWhile_append, hd]
      rfl
    have hfree := hcs d ((List.dropWhile_suffix _).subset (hd ▸ List.mem_cons_self))
    rw [endsAuthority_eq] at hfree
    unfold readPort at h
    simp only [hdrop, hfree] at h
    split at h
    · cases h
    · simp at h

theorem allowed_of_domain? {s name : String} (h : domain? s = some name) :
    ∀ c ∈ s.toList, isForbiddenInDomain c.toLower = false := by
  unfold domain? at h
  simp only at h
  split at h
  · next hok =>
    simp only [Bool.and_eq_true, List.all_eq_true, Bool.not_eq_true'] at hok
    exact fun c hc => (hok.1 c.toLower (List.mem_map_of_mem hc)).2
  · cases h

/-- Brackets are closed at the end of a host. -/
theorem last_of_bracketed? {host : Host} (h : bracketed? (cs ++ [z]) = some (.ok host)) :
    z = ']' ∨ z = '[' := by
  unfold bracketed? at h
  split at h
  · next rest hrest =>
    have hread := Option.some.inj h
    split at hread
    · next hlast =>
      left
      cases cs with
      | nil =>
        obtain rfl := (List.cons.inj hrest).2
        cases hlast
      | cons c cs =>
        obtain rfl : cs ++ [z] = rest := (List.cons.inj hrest).2
        rw [List.getLast?_concat] at hlast
        exact Option.some.inj hlast
    · cases hread
  · cases h

/-- A host that is read ends visibly. -/
theorem visible_of_readHost {host : Host} (h : readHost (cs ++ [z]) = .ok host) :
    0x20 < z.toNat := by
  apply Nat.lt_of_not_le
  intro hlow
  unfold readHost at h
  split at h
  · next result hbracketed =>
    subst h
    rcases last_of_bracketed? hbracketed with rfl | rfl <;> exact absurd hlow (by decide)
  · split at h
    · cases h
    · next decoded hdecoded =>
      split at h
      · cases h
      · next name hname =>
        have hinert : ∀ n ≤ 0x20, Escapes.Inert (UInt8.ofNat n) ∧
            isForbiddenInDomain (Char.ofNat n).toLower = true := by
          unfold Escapes.Inert
          decide
        -- No escape has a blank in it, so decoding leaves it in the domain, which refuses it.
        obtain ⟨hbyte, hforbidden⟩ := hinert z.toNat hlow
        have hmem : z ∈ decoded.toList :=
          Escapes.mem_of_decoded (by omega) hbyte (by simp) hdecoded
        rw [Char.ofNat_toNat, allowed_of_domain? hname z hmem] at hforbidden
        cases hforbidden

theorem read_of_hostOf {host : Host} (h : hostOf .special cs = .ok (some host)) :
    readHost cs = .ok host := by
  simp only [hostOf, isSpecial, if_true] at h
  split at h
  · cases h
  · cases hread : readHost cs with
    | error e =>
      rw [hread] at h
      cases h
    | ok named =>
      rw [hread] at h
      exact congrArg Except.ok (Option.some.inj (Except.ok.inj h))

/-- An address of the web with a given authority and what follows it. -/
def located (scheme : String) (a : Authority) (rest : List Char) : Url :=
  ⟨scheme, some a, .segments (readPath .special rest).1,
    (readTail .special (readPath .special rest).2).1,
    (readTail .special (readPath .special rest).2).2⟩

section
variable {username password : String} {after : List Char} {host : Host}

/-- Credentials and a host that takes all the rest of the authority. -/
theorem readAuthority_host (hwhole : hostChars .special false after = after)
    (hhost : hostOf .special after = .ok (some host))
    (hread : readCredentials .special (cs ++ more) = .ok ((username, password), after ++ more))
    (hmore : Ends more) : readAuthority scheme .special (cs ++ more) =
      .ok (located scheme ⟨username, password, some host, none⟩ more) := by
  unfold readAuthority
  rw [hread]
  simp only [bind, Except.bind, hostChars_extend hmore, hwhole, hhost, List.drop_left]
  split
  · exact absurd (hmore ':' rfl) (by decide)
  · rfl

/-- Credentials, a host and a port behind it. -/
theorem readAuthority_port {digits : List Char}
    (hcolon : after = hostChars .special false after ++ ':' :: digits)
    (hhost : hostOf .special (hostChars .special false after) = .ok (some host))
    (hread : readCredentials .special (cs ++ more) = .ok ((username, password), after ++ more))
    (hmore : Ends more) : readAuthority scheme .special (cs ++ more) =
      (readPort scheme (digits ++ more)).map fun (port, rest) =>
        located scheme ⟨username, password, some host, port⟩ rest := by
  have hdrop : (after ++ more).drop (hostChars .special false after).length =
      ':' :: (digits ++ more) := by
    have happ : after ++ more = hostChars .special false after ++ ':' :: (digits ++ more) := by
      conv => lhs; rw [hcolon]
      exact List.append_assoc _ _ _
    rw [happ, List.drop_left]
  unfold readAuthority
  rw [hread]
  simp only [bind, Except.bind, hostChars_extend hmore, hhost, hdrop, Option.isNone_some,
    Bool.false_eq_true, if_false]
  cases readPort scheme (digits ++ more) <;> rfl

end

/-- A host that is all the authority, or the port behind it, ends visibly. -/
theorem visible_of_host {after : List Char} {host : Host}
    (hhost : hostOf .special (hostChars .special false after) = .ok (some host))
    (hrest : hostChars .special false after = after ∨
      ∃ digits, after = hostChars .special false after ++ ':' :: digits ∧
        ∀ c ∈ digits, c.isDigit = true) : ∃ z, after.getLast? = some z ∧ 0x20 < z.toNat := by
  rcases hrest with hwhole | ⟨digits, hcolon, hdigits⟩
  · rw [hwhole] at hhost
    obtain rfl | ⟨front, z, rfl⟩ := List.eq_nil_or_concat' after
    · cases hhost
    · exact ⟨z, List.getLast?_concat, visible_of_readHost (read_of_hostOf hhost)⟩
  · rw [hcolon, List.getLast?_append_cons]
    obtain rfl | ⟨front, z, rfl⟩ := List.eq_nil_or_concat' digits
    · exact ⟨':', rfl, by decide⟩
    · have hz := Char.isDigit_iff_toNat.mp (hdigits z (by simp))
      refine ⟨z, ?_, Nat.lt_of_lt_of_le (by decide) hz.1⟩
      rw [← List.cons_append, List.getLast?_concat]

theorem readAuthority_extend {u : Url} (hcs : Free cs) (hmore : Ends more)
    (h : readAuthority scheme .special (cs ++ more) = .ok u) :
    ∃ a, a.host.isSome = true ∧ (∃ z, cs.getLast? = some z ∧ 0x20 < z.toNat) ∧
      ∀ other, Ends other →
        readAuthority scheme .special (cs ++ other) = .ok (located scheme a other) := by
  have hread := h
  unfold readAuthority at hread
  obtain ⟨⟨⟨username, password⟩, rest⟩, hcredentials, hread⟩ := Chains.bind_ok_iff.mp hread
  obtain ⟨host, hhost, -⟩ := Chains.bind_ok_iff.mp hread
  obtain ⟨after, hsuffix, rfl, hagain⟩ := readCredentials_extend hcs hmore hcredentials
  have hafter : Free after := fun c hc => hcs c (hsuffix.subset hc)
  simp only [hostChars_extend hmore] at hhost
  have hne : after ≠ [] := by
    rintro rfl
    cases hhost
  obtain ⟨named, rfl, -⟩ := Addresses.settled_of_hostOf hhost
  have hend : (∃ z, after.getLast? = some z ∧ 0x20 < z.toNat) →
      ∃ z, cs.getLast? = some z ∧ 0x20 < z.toNat := by
    rintro ⟨z, hz, hvisible⟩
    obtain ⟨front, rfl⟩ := hsuffix
    exact ⟨z, by rw [List.getLast?_append, hz]; rfl, hvisible⟩
  rcases hostChars_rest hafter false with hwhole | ⟨digits, hcolon⟩
  · refine ⟨⟨username, password, some named, none⟩, rfl,
      hend (visible_of_host hhost (.inl hwhole)), fun other hother => ?_⟩
    rw [hwhole] at hhost
    exact readAuthority_host hwhole hhost (hagain hne other hother) hother
  · have hdigits : Free digits := by
      intro c hc
      apply hafter c
      rw [hcolon]
      simp [hc]
    rw [readAuthority_port hcolon hhost hcredentials hmore] at h
    obtain ⟨⟨port, rest⟩, hport⟩ := Chains.map_ok_iff.mp ⟨u, h⟩
    obtain ⟨rfl, hall, hsame⟩ := readPort_extend hdigits hmore hport
    refine ⟨⟨username, password, some named, port⟩, rfl,
      hend (visible_of_host hhost (.inr ⟨digits, hcolon, hall⟩)), fun other hother => ?_⟩
    rw [readAuthority_port hcolon hhost (hagain hne other hother) hother,
      hsame other hother]
    rfl

end

section
variable {base : String} {agent : Url} {rest : List Char}

theorem tail_nil {cs : List Char}
    (h : readTail .special (cs.dropWhile (!isTailStart ·)) = (none, none)) :
    ∀ c ∈ cs, isTailStart c = false := by
  have hnil : cs.dropWhile (!isTailStart ·) = [] := by
    cases hcs : cs.dropWhile (!isTailStart ·) with
    | nil => rfl
    | cons c tail =>
      have hc : isTailStart c = true := by
        simpa using dropWhile_head? (!isTailStart ·) cs c (by rw [hcs]; rfl)
      rw [hcs] at h
      simp only [isTailStart, Bool.or_eq_true, decide_eq_true_eq] at hc
      rcases hc with rfl | rfl
      · cases (Prod.mk.inj h).1
      · cases (Prod.mk.inj h).2
  intro c hc
  simpa using List.dropWhile_eq_nil_iff.mp hnil c hc

theorem isPath_of_readTail (hends : Ends rest)
    (h : readTail .special (readPath .special rest).2 = (none, none)) : IsPath rest := by
  cases rest with
  | nil => exact ⟨fun c hc => (by cases hc), fun c hc => (by cases hc)⟩
  | cons c rest =>
    cases hc : isSlash .special c with
    | true =>
      rw [readPath, if_pos hc] at h
      have hrest := tail_nil h
      refine ⟨fun d hd => ?_, List.forall_mem_cons.mpr ⟨not_tail_of_slash hc, hrest⟩⟩
      obtain rfl := Option.some.inj hd
      exact hc
    | false =>
      have hread : readPath .special (c :: rest) = readSegments .special (c :: rest) := by
        rw [readPath, hc]
        rfl
      rw [hread] at h
      have htail := tail_nil h c List.mem_cons_self
      have hend := hends c rfl
      rw [endsAuthority, hc, Bool.false_or] at hend
      exact absurd (htail.symm.trans hend) (by decide)

/-- The last character of a base that counts is visible and no slash. -/
def Joins (base : String) : Prop :=
  ∃ z, (base.toList.filter isKept).getLast? = some z ∧ 0x20 < z.toNat ∧
    isSlash .special z = false

/-- An address of the web. -/
def IsWeb (u : Url) : Prop :=
  u.scheme = "http" ∨ u.scheme = "https"

/-- A base as it is read, and how it is read when more follows: its path goes on, after whatever was
dropped at its end. Without a path, nothing may have been dropped there. -/
structure Extends (base : String) (agent : Url) (a : Authority) (path gap : List Char) : Prop where
  host : a.host.isSome = true
  isPath : IsPath path
  low : ∀ c ∈ gap, c.toNat ≤ 0x20
  own : agent = located agent.scheme a path
  joins : Joins base ↔ gap = [] ∧ ∀ z, path.getLast? = some z → isSlash .special z = false
  extended : ∀ ds url, Url.parse (base ++ String.ofList ('/' :: ds)) = .ok url ↔
    (path = [] → gap = []) ∧ url = located agent.scheme a (path ++ gap ++ '/' :: tidyEnd ds)

theorem special_of_parse (h : Url.parse base = .ok agent) (hweb : IsWeb agent) :
    ∃ rest, readScheme (tidy base.toList) = some (agent.scheme, rest) ∧
      kindOf agent.scheme = .special ∧
      readAuthority agent.scheme .special (rest.dropWhile (isSlash .special ·)) = .ok agent := by
  have hkind : kindOf agent.scheme = .special := by
    rcases hweb with h | h <;> rw [h] <;> decide
  unfold Url.parse at h
  split at h
  · cases h
  · next scheme rest hread =>
    split at h
    · next hfile =>
      rw [(of_readFile h).1] at hkind
      exact absurd hkind (by decide)
    · obtain rfl := (readAuthority_ok h).1
      exact ⟨rest, hread, hkind, h⟩
    · next hother =>
      rw [← scheme_of_readOther h, hkind] at hother
      cases hother

theorem joins_iff {front written path gap : List Char} {last : Char} (hfree : Free written)
    (hgap : ∀ c ∈ gap, c.toNat ≤ 0x20)
    (hbase : base.toList.filter isKept = front ++ (written ++ path) ++ gap)
    (hlast : (written ++ path).getLast? = some last) (hvisible : 0x20 < last.toNat) :
    Joins base ↔ gap = [] ∧ ∀ z, path.getLast? = some z → isSlash .special z = false := by
  unfold Joins
  rw [hbase]
  obtain rfl | ⟨gap, w, rfl⟩ := List.eq_nil_or_concat' gap
  · rw [List.append_nil, List.getLast?_append, hlast]
    obtain rfl | ⟨path, z, rfl⟩ := List.eq_nil_or_concat' path
    · rw [List.append_nil] at hlast
      have hslash := hfree last (List.mem_of_getLast? hlast)
      exact iff_of_true ⟨last, rfl, hvisible, (endsAuthority_eq_false_iff.mp hslash).1⟩
        ⟨rfl, fun z hz => by cases hz⟩
    · rw [← List.append_assoc, List.getLast?_concat] at hlast
      obtain rfl := Option.some.inj hlast
      simp [hvisible]
  · refine iff_of_false ?_ (fun h => by simp at h)
    rintro ⟨z, hz, hzvisible, -⟩
    rw [← List.append_assoc, List.getLast?_concat] at hz
    obtain rfl := Option.some.inj hz
    exact absurd hzvisible (Nat.not_lt.mpr (hgap w (by simp)))

section
variable {written path gap : List Char} {a : Authority}

/-- What is dropped at the end of a base without a path comes to light within its authority. -/
theorem readAuthority_gap_iff (hfree : Free written) (hends : Ends path)
    (hgap : ∀ c ∈ gap, c.toNat ≤ 0x20)
    (hall : ∀ other, Ends other → readAuthority agent.scheme .special (written ++ other) =
      .ok (located agent.scheme a other)) (ds : List Char) (url : Url) :
    readAuthority agent.scheme .special (written ++ (path ++ gap ++ '/' :: ds)) = .ok url ↔
      (path = [] → gap = []) ∧ url = located agent.scheme a (path ++ gap ++ '/' :: ds) := by
  by_cases hcase : path = [] → gap = []
  · have hmore : Ends (path ++ gap ++ '/' :: ds) := by
      intro c hc
      cases path with
      | nil =>
        rw [hcase rfl] at hc
        obtain rfl := Option.some.inj hc
        rfl
      | cons d path => exact hends c hc
    rw [hall _ hmore, and_iff_right hcase, Except.ok.injEq, eq_comm]
  · -- The blanks then end a host or a port, and neither may end so.
    refine iff_of_false (fun hok => hcase fun hpath => ?_) fun hok => hcase hok.1
    subst hpath
    have hlow : Free (written ++ gap) := by
      intro c hc
      rcases List.mem_append.mp hc with hc | hc
      · exact hfree c hc
      · exact endsAuthority_of_low (hgap c hc)
    obtain rfl | ⟨gap, w, rfl⟩ := List.eq_nil_or_concat' gap
    · rfl
    · rw [List.nil_append, ← List.append_assoc] at hok
      obtain ⟨-, -, ⟨w', hw', hvisible⟩, -⟩ :=
        readAuthority_extend hlow (fun c hc => by obtain rfl := Option.some.inj hc; rfl) hok
      rw [← List.append_assoc, List.getLast?_concat] at hw'
      obtain rfl := Option.some.inj hw'
      exact absurd hvisible (Nat.not_lt.mpr (hgap w (by simp)))

/-- A base is taken apart: slashes stand before its authority, a path and blanks behind it. -/
theorem exists_body (h : readScheme (tidy base.toList) = some (agent.scheme, rest))
    (hkind : kindOf agent.scheme = .special) :
    ∃ front gap last, (∀ c ∈ gap, c.toNat ≤ 0x20) ∧ 0x20 < last.toNat ∧
      base.toList.filter isKept = front ++ rest.dropWhile (isSlash .special ·) ++ gap ∧
      (rest.dropWhile (isSlash .special ·) ≠ [] →
        (rest.dropWhile (isSlash .special ·)).getLast? = some last ∧
        ∀ ds, Url.parse (base ++ String.ofList ('/' :: ds)) =
          readAuthority agent.scheme .special
            (rest.dropWhile (isSlash .special ·) ++ (gap ++ '/' :: tidyEnd ds))) := by
  obtain ⟨⟨pre, hpre⟩, hscheme⟩ := readScheme_extend h
  have htidy : tidy base.toList ≠ [] := by
    rw [hpre]
    simp
  obtain ⟨gap, hgap, ⟨front, hfilter⟩, ⟨last, hlast, hvisible⟩, hextend⟩ := tidy_extend htidy
  have hslashes := List.takeWhile_append_dropWhile (p := isSlash .special) (l := rest)
  generalize hrest : rest.dropWhile (isSlash .special ·) = body at *
  have hbody : tidy base.toList = pre ++ ':' :: rest.takeWhile (isSlash .special ·) ++ body := by
    rw [hpre, List.append_assoc, List.cons_append, hslashes]
  refine ⟨front ++ (pre ++ ':' :: rest.takeWhile (isSlash .special ·)), gap, last, hgap,
    Nat.lt_of_not_le (of_decide_eq_false hvisible), ?_, fun hne => ⟨?_, fun ds => ?_⟩⟩
  · rw [hfilter, hbody]
    simp only [List.append_assoc]
  · rw [hbody, List.getLast?_append_of_ne_nil _ hne] at hlast
    exact hlast
  · have hdrop : (rest ++ (gap ++ '/' :: tidyEnd ds)).dropWhile (isSlash .special ·) =
        body ++ (gap ++ '/' :: tidyEnd ds) := by
      rw [List.dropWhile_append, hrest]
      simp [hne]
    unfold Url.parse
    rw [String.toList_append, String.toList_ofList, hextend, List.append_assoc, hscheme]
    simp only [hkind, hdrop]

end

theorem parse_extends (h : Url.parse base = .ok agent) (hweb : IsWeb agent)
    (hquery : agent.query = none) (hfragment : agent.fragment = none) :
    ∃ a path gap, Extends base agent a path gap := by
  obtain ⟨rest, hread, hkind, hagent⟩ := special_of_parse h hweb
  obtain ⟨front, gap, last, hgap, hvisible, hfilter, hbody⟩ := exists_body hread hkind
  generalize rest.dropWhile (isSlash .special ·) = body at *
  have hsplit := List.takeWhile_append_dropWhile (p := (!endsAuthority .special ·)) (l := body)
  have hfree : Free (body.takeWhile (!endsAuthority .special ·)) := by
    intro c hc
    simpa using List.mem_takeWhile_imp hc
  have hends : Ends (body.dropWhile (!endsAuthority .special ·)) := by
    intro c hc
    simpa using dropWhile_head? _ _ c hc
  generalize body.takeWhile (!endsAuthority .special ·) = written at *
  generalize body.dropWhile (!endsAuthority .special ·) = path at *
  subst hsplit
  obtain ⟨a, hhost, ⟨z, hz, -⟩, hall⟩ := readAuthority_extend hfree hends hagent
  have hwritten : written ≠ [] := by
    rintro rfl
    cases hz
  obtain ⟨hlast, hparse⟩ := hbody (List.append_ne_nil_of_left_ne_nil hwritten path)
  have hown : agent = located agent.scheme a path :=
    Except.ok.inj (hagent.symm.trans (hall path hends))
  refine ⟨a, path, gap, hhost, isPath_of_readTail hends ?_, hgap, hown,
    joins_iff hfree hgap hfilter hlast hvisible, fun ds url => ?_⟩
  · rw [hown] at hquery hfragment
    exact Prod.ext hquery hfragment
  · rw [hparse, List.append_assoc, ← List.append_assoc path]
    exact readAuthority_gap_iff hfree hends hgap hall _ url

end

end Switchboard.Proofs.Extensions
