import Mathlib.Data.Bool.AllAny
import Mathlib.Data.List.Basic
import Switchboard.Proofs.Escapes
import Switchboard.Text.Cutting

namespace Switchboard.Proofs.Segments
open Text Url

section
variable {kind : Kind} {cs p : List Char}

theorem pathPieces_append {s : Char} (hs : isSlash kind s = true) (cs ds : List Char) :
    pathPieces kind (cs ++ s :: ds) = pathPieces kind cs ++ pathPieces kind ds := by
  rw [pathPieces, List.map_append, List.map_cons, if_pos hs,
    List.splitOn_append_cons_self]
  rfl

theorem pathPieces_ne_nil (kind : Kind) (cs : List Char) : pathPieces kind cs ≠ [] :=
  List.splitOn_ne_nil _ _

theorem map_of_free (h : ∀ c ∈ cs, isSlash kind c = false) :
    (cs.map fun c => if isSlash kind c then '/' else c) = cs := by
  conv => rhs; rw [← List.map_id cs]
  apply List.map_congr_left
  intro c hc
  rw [h c hc]
  rfl

theorem slash_not_mem (h : ∀ c ∈ cs, isSlash kind c = false) : '/' ∉ cs := by
  intro hm
  have hslash : isSlash kind '/' = true := rfl
  rw [h '/' hm] at hslash
  cases hslash

/-- A piece has lost nothing but what stands around it, and no slash is left in it. -/
theorem of_mem_pathPieces (h : p ∈ pathPieces kind cs) :
    p.Sublist cs ∧ ∀ c ∈ p, isSlash kind c = false := by
  obtain ⟨q, hq, rfl⟩ := List.sublist_map_iff.mp (infix_of_mem_splitOn h).sublist
  have hslash := not_mem_of_mem_splitOn h
  have hfree : ∀ c ∈ q, isSlash kind c = false := by
    intro c hc
    apply Bool.eq_false_iff.mpr
    intro hs
    exact hslash (List.mem_map.mpr ⟨c, hc, if_pos hs⟩)
  rw [map_of_free hfree]
  exact ⟨hq, hfree⟩

theorem pathPieces_of_free (h : ∀ c ∈ cs, isSlash kind c = false) : pathPieces kind cs = [cs] := by
  rw [pathPieces, map_of_free h, List.splitOn_eq_singleton (slash_not_mem h)]

/-- What stands behind a path goes to its last piece. -/
theorem pathPieces_postpend {back : List Char} (h : ∀ c ∈ back, isSlash kind c = false)
    (cs : List Char) : ∃ front last, pathPieces kind cs = front ++ [last] ∧
      pathPieces kind (cs ++ back) = front ++ [last ++ back] := by
  rw [pathPieces, pathPieces, List.map_append, map_of_free h]
  exact splitOn_append_right (slash_not_mem h) _

/-- The last piece is empty where a slash stands at the end. -/
theorem last_eq_nil_iff {front : List (List Char)} (h : pathPieces kind cs = front ++ [p]) :
    p = [] ↔ ∀ c, cs.getLast? = some c → isSlash kind c = true := by
  rcases List.eq_nil_or_concat' cs with rfl | ⟨ds, d, rfl⟩
  · obtain ⟨-, hp⟩ := List.append_inj' (h.symm.trans (List.nil_append [[]]).symm) rfl
    simpa using hp
  · rw [List.getLast?_concat]
    cases hd : isSlash kind d with
    | true =>
      rw [pathPieces_append hd] at h
      obtain ⟨-, hp⟩ := List.append_inj' h rfl
      obtain rfl := (List.cons.inj hp).1
      simp [hd]
    | false =>
      have hback : ∀ c ∈ [d], isSlash kind c = false := by simpa using hd
      obtain ⟨front', last, -, hboth⟩ := pathPieces_postpend hback ds
      obtain ⟨-, hp⟩ := List.append_inj' (h.symm.trans hboth) rfl
      obtain rfl := (List.cons.inj hp).1
      simp [hd]

end

section
variable {kind : Kind} {cs p : List Char}

/-- What a piece makes of the segments before it, last first. -/
def stepped (taken : List String) (p : List Char) : List String :=
  if isDoubleDot p then dropSegment taken
  else if isDot p then taken
  else encoded keptInPath p :: taken

theorem walk_cons (taken : List String) (p : List Char) (rest : List (List Char)) :
    walk .special taken (p :: rest) = walk .special
      (if rest.isEmpty && (isDoubleDot p || isDot p) then "" :: stepped taken p
        else stepped taken p) rest := by
  rw [walk]
  simp [stepped]

/-- Only the last piece closes a path. -/
theorem walk_append (taken : List String) (ps : List (List Char)) {qs : List (List Char)}
    (hqs : qs ≠ []) :
    walk .special taken (ps ++ qs) = walk .special (ps.foldl stepped taken) qs := by
  induction ps generalizing taken with
  | nil => rfl
  | cons p ps ih =>
    have hrest : (ps ++ qs).isEmpty = false := by simp [hqs]
    rw [List.cons_append, walk_cons, hrest, ih]
    rfl

/-- The segments of a path with something behind it, last first. -/
def taken : List Char → List String
  | [] => []
  | _ :: cs => (pathPieces .special cs).foldl stepped []

/-- The segments of a path by itself. -/
def names (path : List Char) : List String :=
  (walk .special [] (pathPieces .special path.tail)).reverse

/-- Segments without an empty one at the end. -/
def unclosed (names : List String) : List String :=
  if names.getLast? = some "" then names.dropLast else names

/-- A path is empty or begins with a slash, and neither a query nor a fragment is in it. -/
structure IsPath (path : List Char) : Prop where
  slash : ∀ c, path.head? = some c → isSlash .special c = true
  inner : ∀ c ∈ path, isTailStart c = false

theorem not_tail_of_slash {c : Char} (h : isSlash .special c = true) : isTailStart c = false := by
  simp only [isSlash, isSpecial, Bool.true_and, Bool.or_eq_true, decide_eq_true_eq] at h
  rcases h with rfl | rfl <;> rfl

theorem readPath_names {path : List Char} (h : IsPath path) :
    readPath .special path = (names path, []) := by
  cases path with
  | nil => rfl
  | cons s cs =>
    have hall : ∀ c ∈ cs, (!isTailStart c) = true := by
      intro c hc
      rw [h.inner c (List.mem_cons_of_mem s hc)]
      rfl
    rw [readPath, if_pos (h.slash s rfl), readSegments, List.takeWhile_eq_self_iff.mpr hall,
      List.dropWhile_eq_nil_iff.mpr hall]
    rfl

theorem readPath_append {path : List Char} (h : IsPath path) (more : List Char) :
    readPath .special (path ++ '/' :: more) =
      ((walk .special (taken path)
          (pathPieces .special (more.takeWhile (!isTailStart ·)))).reverse,
        more.dropWhile (!isTailStart ·)) := by
  cases path with
  | nil => rfl
  | cons s cs =>
    have hall : ∀ c ∈ cs ++ ['/'], (!isTailStart c) = true := by
      intro c hc
      rcases List.mem_append.mp hc with hc | hc
      · rw [h.inner c (List.mem_cons_of_mem s hc)]
        rfl
      · obtain rfl := List.mem_singleton.mp hc
        rfl
    have happ : cs ++ '/' :: more = (cs ++ ['/']) ++ more := by simp
    rw [List.cons_append, readPath, if_pos (h.slash s rfl), readSegments, happ,
      List.takeWhile_append_of_pos hall, List.dropWhile_append_of_pos hall,
      List.append_assoc, List.singleton_append, pathPieces_append rfl,
      walk_append _ _ (pathPieces_ne_nil _ _)]
    rfl

/-- A dot, two of them, or what is read as if it were dots. -/
def IsDots (p : List Char) : Prop :=
  isDoubleDot p = true ∨ isDot p = true

theorem lower_of_dots (h : IsDots p) : p.map Char.toLower ∈ [".".toList, "%2e".toList,
    "..".toList, ".%2e".toList, "%2e.".toList, "%2e%2e".toList] := by
  unfold IsDots isDoubleDot isDot at h
  rw [decide_eq_true_eq, decide_eq_true_eq] at h
  rcases h with h | h
  · exact List.mem_of_mem_drop (i := 2) h
  · exact List.mem_of_mem_take (i := 2) h

theorem visible_of_dots (h : IsDots p) : ∀ c ∈ p, 0x20 < c.toNat := by
  have hlow : ∀ n ≤ 0x20, (Char.ofNat n).toLower = Char.ofNat n := by decide
  have hforms : ∀ form ∈ [".".toList, "%2e".toList, "..".toList, ".%2e".toList, "%2e.".toList,
      "%2e%2e".toList], ∀ c ∈ form, 0x20 < c.toNat := by
    simp only [← List.all_iff_forall_prop]
    decide
  intro c hc
  have hlower := hforms _ (lower_of_dots h) c.toLower (List.mem_map_of_mem hc)
  apply Nat.lt_of_not_le
  intro hle
  have hself := hlow c.toNat hle
  rw [Char.ofNat_toNat] at hself
  rw [hself] at hlower
  omega

/-- Of what is read as dots, only the letter has another small form. -/
theorem of_toLower {c d : Char} (h : c.toLower = d) (hd : d ∈ ['.', '%', '2', 'e']) :
    c = d ∨ c = 'E' ∧ d = 'e' := by
  have hascii : ∀ n < 128, (Char.ofNat n).toLower ∈ ['.', '%', '2', 'e'] →
      Char.ofNat n = (Char.ofNat n).toLower ∨
        Char.ofNat n = 'E' ∧ (Char.ofNat n).toLower = 'e' := by decide
  by_cases hc : c.toNat < 128
  · have hcode := hascii c.toNat hc
    rw [Char.ofNat_toNat, h] at hcode
    exact hcode hd
  · left
    rw [← h]
    refine Eq.symm (dif_neg ?_)
    rintro ⟨-, hle⟩
    have hcode : c.toNat ≤ 90 := UInt32.le_iff_toNat_le.mp hle
    omega

theorem sign_of_toLower {c d : Char} (h : c.toLower = d) (hd : d ∈ ['.', '%', '2']) : c = d := by
  rcases of_toLower h (List.mem_append_left ['e'] hd) with rfl | ⟨-, rfl⟩
  · rfl
  · exact absurd hd (by decide)

/-- An escaped dot is read as a dot. -/
theorem escaped_of_lower (front back : List Char)
    (h : p.map Char.toLower = front ++ '%' :: '2' :: 'e' :: back) :
    Percent.unescape (Percent.bytes (String.ofList p)) ≠ Percent.bytes (String.ofList p) := by
  obtain ⟨before, rest, rfl, -, h⟩ := List.map_eq_append_iff.mp h
  obtain ⟨c, rest, rfl, hc, h⟩ := List.map_eq_cons_iff.mp h
  obtain ⟨d, rest, rfl, hd, h⟩ := List.map_eq_cons_iff.mp h
  obtain ⟨e, after, rfl, he, -⟩ := List.map_eq_cons_iff.mp h
  obtain rfl := sign_of_toLower hc (by decide)
  obtain rfl := sign_of_toLower hd (by decide)
  intro hplain
  have hall := Escapes.unescape_eq_self_iff.mp hplain
  rw [Percent.bytes_ofList, List.flatMap_append] at hall
  rcases of_toLower he (by decide) with rfl | ⟨rfl, -⟩
  · exact absurd (hall 50 101 ⟨before.flatMap String.utf8EncodeChar, _, List.append_assoc _ _ _⟩)
      (by decide)
  · exact absurd (hall 50 69 ⟨before.flatMap String.utf8EncodeChar, _, List.append_assoc _ _ _⟩)
      (by decide)

/-- Dots that are not written as escapes. -/
theorem eq_of_dots (h : IsDots p)
    (hplain : Percent.unescape (Percent.bytes (String.ofList p)) =
      Percent.bytes (String.ofList p)) : p = ['.'] ∨ p = ['.', '.'] := by
  have hdot : ∀ {c}, Char.toLower c = '.' → c = '.' := fun hc => sign_of_toLower hc (by decide)
  have hforms := lower_of_dots h
  simp only [List.mem_cons, List.not_mem_nil, or_false] at hforms
  rcases hforms with hform | hform | hform | hform | hform | hform
  · left
    obtain ⟨c, rfl, hc⟩ := List.map_eq_singleton_iff.mp hform
    rw [hdot hc]
  · exact absurd hplain (escaped_of_lower [] [] hform)
  · right
    obtain ⟨c, rest, rfl, hc, hrest⟩ := List.map_eq_cons_iff.mp hform
    obtain ⟨d, rfl, hd⟩ := List.map_eq_singleton_iff.mp hrest
    rw [hdot hc, hdot hd]
  · exact absurd hplain (escaped_of_lower ['.'] [] hform)
  · exact absurd hplain (escaped_of_lower [] ['.'] hform)
  · exact absurd hplain (escaped_of_lower [] ['%', '2', 'e'] hform)

theorem stepped_of_not_dots (h : ¬IsDots p) (taken : List String) :
    stepped taken p = encoded keptInPath p :: taken := by
  rw [IsDots, not_or] at h
  rw [stepped, if_neg h.1, if_neg h.2]

theorem stepped_nil (taken : List String) : stepped taken [] = "" :: taken := rfl

theorem encoded_append (keep : Char → Bool) (cs ds : List Char) :
    encoded keep (cs ++ ds) = encoded keep cs ++ encoded keep ds := by
  simp [encoded, Percent.encodeChars]

theorem encoded_eq_empty_iff {keep : Char → Bool} {cs : List Char} :
    encoded keep cs = "" ↔ cs = [] := by
  constructor
  · intro h
    cases cs with
    | nil => rfl
    | cons c cs =>
      obtain ⟨hc, -⟩ := List.append_eq_nil_iff.mp (String.ofList_eq_empty_iff.mp h)
      unfold Percent.encodeChar at hc
      split at hc
      · cases hc
      · obtain ⟨b, bs, hbs⟩ := List.exists_cons_of_ne_nil (String.utf8EncodeChar_ne_nil (c := c))
        rw [hbs] at hc
        cases hc
  · rintro rfl
    rfl

theorem unclosed_closed (taken : List String) :
    unclosed ("" :: taken).reverse = taken.reverse := by
  simp [unclosed]

theorem unclosed_open {last : String} (h : last ≠ "") (taken : List String) :
    unclosed (last :: taken).reverse = (last :: taken).reverse := by
  simp [unclosed, h]

/-- The last piece of a path. -/
theorem walk_singleton (taken : List String) (p : List Char) : walk .special taken [p] =
    if isDoubleDot p || isDot p then "" :: stepped taken p else stepped taken p := by
  rw [walk_cons]
  rfl

/-- The last piece of a path, by itself and with more pieces behind it. -/
theorem unclosed_walk (taken : List String) (p : List Char) :
    unclosed (walk .special taken [p]).reverse =
      if p = [] then taken.reverse else (stepped taken p).reverse := by
  rw [walk_singleton]
  by_cases hdots : IsDots p
  · have hne : p ≠ [] := by
      rintro rfl
      exact hdots.elim (fun h => by cases h) (fun h => by cases h)
    rw [if_pos (Bool.or_eq_true_iff.mpr hdots), if_neg hne, unclosed_closed]
  · rw [if_neg (fun h => hdots (Bool.or_eq_true_iff.mp h)), stepped_of_not_dots hdots]
    split
    · next hp =>
      subst hp
      exact unclosed_closed taken
    · next hp => exact unclosed_open (fun h => hp (encoded_eq_empty_iff.mp h)) taken

theorem length_stepped_le (h : IsDots p) (taken : List String) :
    (stepped taken p).length ≤ taken.length := by
  unfold stepped
  split
  · unfold dropSegment
    split
    · exact Nat.le_refl _
    · split
      · exact Nat.le_refl _
      · exact Nat.le_succ _
  · next hdouble =>
    rw [if_pos (h.resolve_left hdouble)]

theorem last_slash_iff {s z : Char} {front : List (List Char)} (hs : isSlash .special s = true)
    (hz : (s :: cs).getLast? = some z) (h : pathPieces .special cs = front ++ [p]) :
    p = [] ↔ isSlash .special z = true := by
  rw [last_eq_nil_iff h]
  cases cs with
  | nil =>
    obtain rfl := Option.some.inj hz
    simp [hs]
  | cons c cs =>
    rw [List.getLast?_cons_cons] at hz
    simp [hz]

theorem not_dots_of_low {c : Char} (hc : c.toNat ≤ 0x20) (hmem : c ∈ p) : ¬IsDots p :=
  fun hdots => absurd (visible_of_dots hdots c hmem) (Nat.not_lt.mpr hc)

/-- A path that ends with a slash has an empty segment more than those that go on. -/
theorem stepped_eq_unclosed_iff (before : List String) (p : List Char) :
    (stepped before p).reverse = unclosed (walk .special before [p]).reverse ↔ p ≠ [] := by
  rw [unclosed_walk]
  split
  · next hp =>
    subst hp
    refine iff_of_false (fun he => ?_) (fun hp => hp rfl)
    have hlength := congrArg List.length he
    simp [stepped_nil] at hlength
  · next hp => exact iff_of_true rfl hp

/-- Something invisible behind a path is written into its last segment. -/
theorem stepped_ne_unclosed {c : Char} (hc : c.toNat ≤ 0x20) (before : List String)
    (p gap : List Char) :
    (stepped before (p ++ c :: gap)).reverse ≠ unclosed (walk .special before [p]).reverse := by
  intro he
  rw [stepped_of_not_dots (not_dots_of_low hc (by simp)), unclosed_walk] at he
  -- One segment more than before, or the last segment is another.
  by_cases hdots : p = [] ∨ IsDots p
  · have hle : (if p = [] then before.reverse else (stepped before p).reverse).length ≤
        before.length := by
      split
      · exact List.length_reverse.le
      · next hnil =>
        rw [List.length_reverse]
        exact length_stepped_le (hdots.resolve_left hnil) before
    rw [← he, List.length_reverse, List.length_cons] at hle
    omega
  · obtain ⟨hnil, hdots⟩ := not_or.mp hdots
    rw [if_neg hnil, stepped_of_not_dots hdots, List.reverse_inj] at he
    have hsame := (List.cons.inj he).1
    rw [encoded_append, String.append_eq_left_iff, encoded_eq_empty_iff] at hsame
    cases hsame

theorem endsAuthority_eq_false_iff {c : Char} : endsAuthority kind c = false ↔
    isSlash kind c = false ∧ isTailStart c = false := by
  rw [endsAuthority, Bool.or_assoc, Bool.or_eq_false_iff]
  rfl

theorem endsAuthority_of_low {c : Char} (h : c.toNat ≤ 0x20) :
    endsAuthority .special c = false := by
  have hall : ∀ n ≤ 0x20, endsAuthority .special (Char.ofNat n) = false := by decide
  rw [← Char.ofNat_toNat c]
  exact hall _ h

/-- A path is taken as it is, an empty segment at its end apart, unless it ends with a slash or
something invisible follows. -/
theorem taken_eq_unclosed_iff {path gap : List Char} (h : IsPath path)
    (hgap : ∀ c ∈ gap, c.toNat ≤ 0x20) (hnone : path = [] → gap = []) :
    (taken (path ++ gap)).reverse = unclosed (names path) ↔
      gap = [] ∧ ∀ z, path.getLast? = some z → isSlash .special z = false := by
  cases path with
  | nil =>
    obtain rfl := hnone rfl
    exact iff_of_true (by decide) ⟨rfl, fun z hz => by cases hz⟩
  | cons s cs =>
    have hz := List.getLast?_eq_some_getLast (List.cons_ne_nil s cs)
    generalize (s :: cs).getLast (List.cons_ne_nil s cs) = z at hz
    have hfree : ∀ c ∈ gap, isSlash .special c = false :=
      fun c hc => (endsAuthority_eq_false_iff.mp (endsAuthority_of_low (hgap c hc))).1
    obtain ⟨front, last, hcs, hboth⟩ := pathPieces_postpend hfree cs
    have hlast := last_slash_iff (h.slash s rfl) hz hcs
    have htaken : taken (s :: cs ++ gap) = stepped (front.foldl stepped []) (last ++ gap) := by
      rw [List.cons_append, taken, hboth, List.foldl_append]
      rfl
    have hnames : names (s :: cs) = (walk .special (front.foldl stepped []) [last]).reverse := by
      rw [names, List.tail_cons, hcs, walk_append _ _ (List.cons_ne_nil last [])]
    rw [htaken, hnames, hz]
    cases gap with
    | nil =>
      rw [List.append_nil, stepped_eq_unclosed_iff, ne_eq, hlast]
      simp
    | cons c gap =>
      exact iff_of_false (stepped_ne_unclosed (hgap c List.mem_cons_self) _ _ _)
        (fun hnil => by cases hnil.1)

end

end Switchboard.Proofs.Segments
