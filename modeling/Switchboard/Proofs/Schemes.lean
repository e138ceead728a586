import Switchboard.Proofs.Extensions

/-!
A text in front of `://` and an address. If the text names a scheme, the address is read as an
authority. If it does not, the whole is no URL, or it has no port, or its host stands within the
text, whatever the address is.
-/

namespace Switchboard.Proofs.Schemes
open Text Number Url Addresses Extensions

section
variable {cs rest : List Char} {scheme name : String}

/-- What is read of a text in front of another one. -/
def leading (cs : List Char) : List Char :=
  (cs.dropWhile isLow).filter isKept

theorem tidy_append (hne : rest ≠ []) (h : ∀ c ∈ rest, isLow c = false) (cs : List Char) :
    tidy (cs ++ rest) = leading cs ++ rest := by
  obtain ⟨front, z, rfl⟩ := (List.eq_nil_or_concat' rest).resolve_left hne
  have hdrop : (cs ++ (front ++ [z])).dropWhile isLow = cs.dropWhile isLow ++ (front ++ [z]) := by
    rw [List.dropWhile_append]
    split
    · next hnil =>
      rw [List.isEmpty_iff.mp hnil]
      exact dropWhile_eq_self fun c hc => h c (List.mem_of_mem_head? hc)
    · rfl
  have hkept : (front ++ [z]).filter isKept = front ++ [z] :=
    List.filter_eq_self.mpr fun c hc => isKept_of_visible (h c hc)
  rw [tidy_eq, stripChars, hdrop, ← List.append_assoc, dropEndWhile_append (h z (by simp)),
    List.append_assoc, List.filter_append, leading]
  exact congrArg _ hkept

/-- Whether a text names a scheme other than that of files. Controls and blanks in front of it and
tabs and line breaks in it do not count. -/
def NamesScheme (scheme : String) : Prop :=
  IsName (leading scheme.toList) ∧ lowered (leading scheme.toList) ≠ "file"

/-- The first colon ends a scheme. -/
theorem readScheme_append (h : ':' ∈ cs) (more : List Char) :
    readScheme (cs ++ more) = (readScheme cs).map fun (name, rest) => (name, rest ++ more) := by
  cases hread : readScheme cs with
  | some p => exact (readScheme_extend hread).2 more
  | none =>
    rw [Option.map_none, Option.eq_none_iff_forall_ne_some]
    rintro ⟨name, rest⟩ hwhole
    obtain ⟨front, happ, hname, hlowered⟩ := readScheme_eq_some_iff.mp hwhole
    have hfree : ':' ∉ front := fun hm => absurd (hname.2 ':' hm) (by decide)
    obtain ⟨⟨before, after⟩, hcut⟩ : ∃ p, cutChars ':' cs = some p :=
      Option.ne_none_iff_exists'.mp fun hnone => cutChars_eq_none_iff.mp hnone h
    obtain ⟨hcs, hbefore⟩ := cutChars_eq_some_iff.mp hcut
    have hsame : some (before, after ++ more) = some (front, rest) := by
      rw [← cutChars_eq_some_iff.mpr ⟨happ, hfree⟩]
      exact (cutChars_eq_some_iff.mpr ⟨by simp [hcs], hbefore⟩).symm
    obtain ⟨rfl, -⟩ := Prod.mk.inj (Option.some.inj hsame)
    rw [readScheme_eq_some_iff.mpr ⟨before, hcs, hname, hlowered⟩] at hread
    cases hread

/-- A scheme that is read is the text as a whole, or stands in front of a colon within it. -/
theorem names_or_within (h : readScheme (cs ++ [':', '/', '/']) = some (name, rest)) :
    IsName cs ∧ name = lowered cs ∨ ∃ more, rest = more ++ [':', '/', '/'] := by
  obtain ⟨front, happ, hname, rfl⟩ := readScheme_eq_some_iff.mp h
  have hwhole : front = cs → IsName cs ∧ lowered front = lowered cs := by
    rintro rfl
    exact ⟨hname, rfl⟩
  rcases List.append_eq_append_iff.mp happ with ⟨between, hfront, hrest⟩ | ⟨between, hcs, hrest⟩
  · cases between with
    | nil => exact .inl (hwhole (by simpa using hfront))
    | cons c between =>
      have hcolon : ':' ∈ ['/', '/'] := by
        rw [(List.cons.inj hrest).2]
        simp
      exact absurd hcolon (by decide)
  · cases between with
    | nil => exact .inl (hwhole (by simpa using hcs.symm))
    | cons c between => exact .inr ⟨between, (List.cons.inj hrest).2⟩

theorem toList_located (authority : String) : (scheme ++ "://" ++ authority).toList =
    scheme.toList ++ ([':', '/', '/'] ++ authority.toList) := by
  simp

theorem tidy_located {authority : String} (h : ∀ c ∈ authority.toList, isLow c = false) :
    tidy (scheme ++ "://" ++ authority).toList =
      leading scheme.toList ++ [':', '/', '/'] ++ authority.toList := by
  rw [toList_located, tidy_append (by simp), List.append_assoc]
  intro c hc
  rcases List.mem_append.mp hc with hc | hc
  · have hall : ∀ c ∈ [':', '/', '/'], isLow c = false := by simp [isLow]
    exact hall c hc
  · exact h c hc

/-- Behind a scheme comes an authority. -/
theorem parse_located {authority : String} (hnames : NamesScheme scheme)
    (h : ∀ c ∈ authority.toList, isLow c = false)
    (hhead : ∀ c ∈ authority.toList.head?, isSlash .special c = false) :
    Url.parse (scheme ++ "://" ++ authority) =
      readAuthority (lowered (leading scheme.toList)) (kindOf (lowered (leading scheme.toList)))
        authority.toList := by
  obtain ⟨hname, hfile⟩ := hnames
  have hread : readScheme (leading scheme.toList ++ [':', '/', '/'] ++ authority.toList) =
      some (lowered (leading scheme.toList), '/' :: '/' :: authority.toList) :=
    readScheme_eq_some_iff.mpr ⟨leading scheme.toList, by simp, hname, rfl⟩
  unfold Url.parse
  rw [tidy_located h, hread]
  generalize lowered (leading scheme.toList) = name at *
  dsimp only
  cases hkind : kindOf name with
  | file =>
    rw [kindOf, if_neg hfile] at hkind
    split at hkind <;> cases hkind
  | special =>
    have hslashes : ('/' :: '/' :: authority.toList).dropWhile (isSlash .special ·) =
        authority.toList := by
      have hfirst : isSlash .special '/' = true := rfl
      rw [List.dropWhile_cons_of_pos hfirst, List.dropWhile_cons_of_pos hfirst]
      exact dropWhile_eq_self hhead
    dsimp only
    rw [hslashes]
  | other => rfl

end

section
variable {kind : Kind} {name : String}

theorem takeWhile_stop {p : Char → Bool} {d : Char} (h : p d = false) (cs ds : List Char) :
    (cs ++ d :: ds).takeWhile p = cs.takeWhile p := by
  induction cs with
  | nil => simp [h]
  | cons c cs ih => rw [List.cons_append, List.takeWhile_cons, List.takeWhile_cons, ih]

theorem dropWhile_append_stop {p : Char → Bool} {d : Char} (h : p d = false) (cs ds : List Char) :
    (cs ++ [d] ++ ds).dropWhile p = (cs ++ [d]).dropWhile p ++ ds := by
  rw [List.dropWhile_append, if_neg]
  intro hnil
  have hall := List.dropWhile_eq_nil_iff.mp (List.isEmpty_iff.mp hnil) d (by simp)
  rw [h] at hall
  cases hall

/-- Credentials end in front of the first slash. -/
theorem readCredentials_stop (kind : Kind) (front : List Char) :
    ∃ after, ∀ {rest names cs}, readCredentials kind (front ++ '/' :: rest) = .ok (names, cs) →
      cs = after ++ '/' :: rest := by
  have hslash : ∀ rest, (front ++ '/' :: rest).takeWhile (!endsAuthority kind ·) =
      front.takeWhile (!endsAuthority kind ·) := by
    intro rest
    exact takeWhile_stop (by cases kind <;> rfl) front rest
  unfold readCredentials
  simp only [hslash]
  have hlength : (front.takeWhile (!endsAuthority kind ·)).length ≤ front.length :=
    (List.takeWhile_sublist _).length_le
  generalize front.takeWhile (!endsAuthority kind ·) = held at *
  by_cases hat : held.contains '@' = true
  · have hpos : 0 < held.length := List.length_pos_of_mem (List.contains_iff_mem.mp hat)
    generalize huser :
      held.take (held.length - (held.reverse.takeWhile (· ≠ '@')).reverse.length - 1) = user
    have hshort : user.length + 1 ≤ front.length := by
      rw [← huser, List.length_take]
      omega
    refine ⟨front.drop (user.length + 1), fun {rest names cs} h => ?_⟩
    rw [← List.drop_append_of_le_length hshort]
    grind
  · refine ⟨front, fun {rest names cs} h => ?_⟩
    rw [if_pos (by simpa using hat)] at h
    exact (Prod.mk.inj (Except.ok.inj h)).2.symm

theorem readAuthority_stop (name : String) (kind : Kind) (front : List Char) :
    ∃ host, ∀ rest {u}, readAuthority name kind (front ++ '/' :: rest) = .ok u → u.host = host := by
  obtain ⟨after, hafter⟩ := readCredentials_stop kind front
  have hsame : ∀ rest,
      hostChars kind false (after ++ '/' :: rest) = hostChars kind false after := by
    intro rest
    apply hostChars_extend
    intro c hc
    obtain rfl := Option.some.inj hc
    cases kind <;> rfl
  refine ⟨(hostOf kind (hostChars kind false after)).toOption.join, fun rest {u} h => ?_⟩
  obtain ⟨-, a, ha, ⟨names, cs, hread, hhost⟩, -⟩ := readAuthority_ok h
  rw [hafter hread, hsame] at hhost
  rw [hhost, Url.host, ha]
  rfl

theorem defaultPort_of_other (h : kindOf name = .other) : defaultPort name = none := by
  unfold kindOf at h
  split at h
  · cases h
  · split at h
    · cases h
    · next hport => simpa using hport

theorem of_readOther {cs : List Char} {u : Url} (h : readOther name cs = .ok u) :
    (∃ rest, cs = '/' :: '/' :: rest ∧ readAuthority name .other rest = .ok u) ∨
      u.authority = none := by
  unfold readOther at h
  split at h
  · next rest => exact .inl ⟨rest, rfl, h⟩
  · obtain rfl := Except.ok.inj h
    exact .inr rfl
  · obtain rfl := Except.ok.inj h
    exact .inr rfl

theorem readOther_stop (hkind : kindOf name = .other) (front : List Char) :
    ∃ host, ∀ rest {u}, readOther name (front ++ ':' :: '/' :: rest) = .ok u →
      u.port = none ∨ u.host = host := by
  have hport : ∀ {u : Url}, u.scheme = name → u.authority = none → u.port = none := by
    intro u hscheme hnone
    rw [Url.port, hnone, hscheme]
    exact defaultPort_of_other hkind
  by_cases hslashes : ∃ inner, front = '/' :: '/' :: inner
  · obtain ⟨inner, rfl⟩ := hslashes
    obtain ⟨host, hhost⟩ := readAuthority_stop name .other (inner ++ [':'])
    refine ⟨host, fun rest {u} h => .inr (hhost rest ?_)⟩
    rw [List.append_assoc]
    exact h
  · refine ⟨none, fun rest {u} h => .inl (hport (scheme_of_readOther h) ?_)⟩
    refine (of_readOther h).resolve_left ?_
    rintro ⟨inner, happ, -⟩
    -- Two slashes in front of everything stand in front of the colon.
    rcases front with _ | ⟨c, _ | ⟨d, tail⟩⟩
    · exact absurd (List.cons.inj happ).1 (by decide)
    · exact absurd (List.cons.inj (List.cons.inj happ).2).1 (by decide)
    · rw [List.cons_append, List.cons_append, List.cons.injEq, List.cons.injEq] at happ
      obtain ⟨rfl, rfl, -⟩ := happ
      exact hslashes ⟨tail, rfl⟩

/-- Without a scheme, the host does not depend on the address. -/
theorem host_of_nameless {scheme : String} (h : ¬NamesScheme scheme) :
    ∃ host, ∀ {authority u}, (∀ c ∈ authority.toList, isLow c = false) →
      Url.parse (scheme ++ "://" ++ authority) = .ok u → u.port = none ∨ u.host = host := by
  have hcolon : ':' ∈ leading scheme.toList ++ [':', '/', '/'] := by simp
  cases hread : readScheme (leading scheme.toList ++ [':', '/', '/']) with
  | none =>
    refine ⟨none, fun {authority u} hlow hu => ?_⟩
    unfold Url.parse at hu
    rw [tidy_located hlow, readScheme_append hcolon, hread] at hu
    cases hu
  | some p =>
    obtain ⟨name, base⟩ := p
    have hscheme : ∀ {authority : String}, (∀ c ∈ authority.toList, isLow c = false) →
        readScheme (tidy (scheme ++ "://" ++ authority).toList) =
          some (name, base ++ authority.toList) := by
      intro authority hlow
      rw [tidy_located hlow, readScheme_append hcolon, hread]
      rfl
    have hwithin : name ≠ "file" → ∃ before, base = before ++ [':', '/', '/'] := by
      intro hfile
      refine (names_or_within hread).resolve_left fun hnames => h ⟨hnames.1, ?_⟩
      exact hnames.2 ▸ hfile
    cases hkind : kindOf name with
    | file =>
      refine ⟨none, fun {authority u} hlow hu => .inl ?_⟩
      simp only [Url.parse, hscheme hlow, hkind] at hu
      exact (of_readFile hu).2
    | special =>
      obtain ⟨before, rfl⟩ := hwithin (by rintro rfl; cases hkind)
      obtain ⟨host, hhost⟩ := readAuthority_stop name .special
        ((before ++ [':']).dropWhile (isSlash .special ·))
      refine ⟨host, fun {authority u} hlow hu => .inr (hhost ('/' :: authority.toList) ?_)⟩
      simp only [Url.parse, hscheme hlow, hkind] at hu
      rw [← dropWhile_append_stop (by simp [isSlash, isSpecial])]
      simpa using hu
    | other =>
      obtain ⟨before, rfl⟩ := hwithin (by rintro rfl; cases hkind)
      obtain ⟨host, hhost⟩ := readOther_stop hkind before
      refine ⟨host, fun {authority u} hlow hu => hhost ('/' :: authority.toList) ?_⟩
      simp only [Url.parse, hscheme hlow, hkind, List.append_assoc] at hu
      exact hu

end

end Switchboard.Proofs.Schemes
