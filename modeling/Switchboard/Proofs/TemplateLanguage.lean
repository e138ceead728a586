import Mathlib.Data.List.Basic
import Switchboard.Route.Template

namespace Switchboard.Proofs.TemplateLanguage
open Route Text

/-- A wildcard stands last, and no name is used twice. -/
structure WellFormed (segments : List Segment) : Prop where
  wildcardLast : ∀ (i : Nat) n, segments[i]? = some (.wildcard n) → i + 1 = segments.length
  distinct : (segments.filterMap Segment.name?).Nodup

/-- A segment may be added behind segments that are no wildcards, under a new name. -/
theorem WellFormed.append (h : WellFormed segments)
    (hw : ∀ n, Segment.wildcard n ∉ segments)
    (hn : ∀ n, s.name? = some n → n ∉ segments.filterMap Segment.name?) :
    WellFormed (segments ++ [s]) := by
  refine ⟨?_, ?_⟩
  · intro i n hi
    rcases Nat.lt_or_ge i segments.length with hl | hl
    · rw [List.getElem?_append_left hl] at hi
      exact absurd (List.mem_of_getElem? hi) (hw n)
    · rw [List.getElem?_append_right hl] at hi
      have := (List.getElem?_eq_some_iff.mp hi).1
      simp at this ⊢
      omega
  · rw [List.filterMap_append, List.nodup_append]
    refine ⟨h.distinct, ?_, ?_⟩
    · cases hs : s.name? <;> simp [hs]
    · intro a ha b hb he
      subst b
      cases hs : s.name? with
      | none => simp [hs] at hb
      | some n =>
        simp only [List.filterMap_cons, hs, List.filterMap_nil, List.mem_singleton] at hb
        exact hn n hs (hb ▸ ha)

theorem WellFormed.tail (h : WellFormed (s :: segments)) : WellFormed segments := by
  refine ⟨?_, h.distinct.sublist ((List.sublist_cons_self s segments).filterMap _)⟩
  intro i n hi
  simpa using h.wildcardLast (i + 1) n (by simpa using hi)

theorem WellFormed.eq_nil (h : WellFormed (.wildcard n :: segments)) : segments = [] := by
  simpa using h.wildcardLast 0 n rfl

/-- Where reading goes on after a piece, it wrote a segment that is no wildcard unless it is the
last, and whose name is new. -/
theorem readPieces_cons {before : List Segment} {rest : List String}
    (hr : Template.readPieces pattern before (piece :: rest) = .ok segments) :
    ∃ s, Segment.ofPiece? piece = some s ∧ (rest ≠ [] → s.isWildcard = false) ∧
      (∀ n, s.name? = some n → n ∉ before.filterMap Segment.name?) ∧
      Template.readPieces pattern (s :: before) rest = .ok segments := by
  unfold Template.readPieces at hr
  cases hs : Segment.ofPiece? piece with
  | none => simp [hs] at hr
  | some s =>
    simp only [hs] at hr
    split at hr
    · cases hr
    · rename_i hlast
      have hwild : rest ≠ [] → s.isWildcard = false := by
        intro hne
        simpa [hne] using hlast
      cases hn : s.name? with
      | none => exact ⟨s, rfl, hwild, by simp [hn], by simpa [hn] using hr⟩
      | some n =>
        simp only [hn] at hr
        split at hr
        · cases hr
        · rename_i hnew
          refine ⟨s, rfl, hwild, ?_, hr⟩
          intro m hm hmem
          obtain rfl := Option.some.inj (hn.symm.trans hm)
          obtain ⟨q, hq, he⟩ := List.mem_filterMap.mp hmem
          exact hnew (List.any_eq_true.mpr ⟨q, hq, by simp [he]⟩)

/-- The segments already read stay well formed, and none of them is a wildcard as long as a piece
is left to read. -/
theorem readPieces_wellFormed {before : List Segment} {pieces : List String}
    (hb : WellFormed before.reverse) (hw : pieces ≠ [] → ∀ n, Segment.wildcard n ∉ before)
    (hr : Template.readPieces pattern before pieces = .ok segments) : WellFormed segments := by
  induction pieces generalizing before with
  | nil =>
    simp only [Template.readPieces, Except.ok.injEq] at hr
    exact hr ▸ hb
  | cons piece rest ih =>
    obtain ⟨s, -, hlast, hnew, hrest⟩ := readPieces_cons hr
    have hfree : ∀ n, Segment.wildcard n ∉ before := hw (List.cons_ne_nil piece rest)
    refine ih ?_ ?_ hrest
    · rw [List.reverse_cons]
      apply hb.append
      · simpa using hfree
      · simpa using hnew
    · intro hne n hm
      rcases List.mem_cons.mp hm with rfl | hm
      · cases hlast hne
      · exact hfree n hm

theorem readPieces_of_parse (hp : Template.parse pattern = .ok t) :
    Template.readPieces pattern [] (pathSegments pattern) = .ok t.segments := by
  unfold Template.parse at hp
  cases hr : Template.readPieces pattern [] (pathSegments pattern) with
  | error e => simp [hr, Except.map] at hp
  | ok segments =>
    simp only [hr, Except.map, Except.ok.injEq] at hp
    subst t
    rfl

theorem parse_wellFormed (hp : Template.parse pattern = .ok t) : WellFormed t.segments := by
  have hempty : WellFormed ([] : List Segment).reverse := ⟨by simp, by simp⟩
  exact readPieces_wellFormed hempty (by simp) (readPieces_of_parse hp)

/-- A path in the language of a template: literals stand for themselves, variables over some text,
and only a wildcard at the end lets the path be longer or end before it. -/
structure Fits (t : Template) (path : List String) : Prop where
  literal : ∀ (i : Nat) s, t.segments[i]? = some (.literal s) → path[i]? = some s
  filled : ∀ (i : Nat) n, t.segments[i]? = some (.variable n) → ∃ v, path[i]? = some v ∧ v ≠ ""
  sameLength : t.hasWildcard = false → path.length = t.segments.length
  leastLength : t.hasWildcard = true → t.segments.length - 1 ≤ path.length

theorem hasWildcard_iff (t : Template) :
    t.hasWildcard = true ↔ ∃ n, t.segments.getLast? = some (.wildcard n) := by
  unfold Template.hasWildcard
  cases hl : t.segments.getLast? with
  | none => simp
  | some s => cases s <;> simp [Segment.isWildcard]

/-- Only the last segment of a well-formed template stands behind the fixed part. -/
theorem WellFormed.lt_fixedCount_iff {t : Template} (h : WellFormed t.segments) (i : Nat) :
    i < t.fixedCount ↔ ∃ s, t.segments[i]? = some s ∧ s.isWildcard = false := by
  unfold Template.fixedCount
  cases hw : t.hasWildcard with
  | true =>
    obtain ⟨n, hn⟩ := (hasWildcard_iff t).mp hw
    rw [List.getLast?_eq_getElem?] at hn
    have hlen := (List.getElem?_eq_some_iff.mp hn).1
    constructor
    · intro hi
      simp only [if_true] at hi
      obtain ⟨s, hs⟩ : ∃ s, t.segments[i]? = some s := ⟨_, List.getElem?_eq_getElem (by omega)⟩
      refine ⟨s, hs, ?_⟩
      cases s with
      | wildcard m => have := h.wildcardLast i m hs; omega
      | literal _ | «variable» _ => rfl
    · intro h
      obtain ⟨s, hs, hf⟩ := h
      have hi := (List.getElem?_eq_some_iff.mp hs).1
      have hne : i ≠ t.segments.length - 1 := by
        intro he
        subst i
        rw [hn] at hs
        obtain rfl := Option.some.inj hs
        simp [Segment.isWildcard] at hf
      simp only [if_true]
      omega
  | false =>
    simp only [Bool.false_eq_true, if_false]
    constructor
    · intro hi
      refine ⟨_, List.getElem?_eq_getElem hi, ?_⟩
      cases hs : t.segments[i] with
      | wildcard m =>
        have hlast := h.wildcardLast i m (List.getElem?_eq_some_iff.mpr ⟨hi, hs⟩)
        have : t.hasWildcard = true := (hasWildcard_iff t).mpr ⟨m, by
          rw [List.getLast?_eq_getElem?, ← hlast]
          exact List.getElem?_eq_some_iff.mpr ⟨hi, hs⟩⟩
        rw [hw] at this
        cases this
      | literal _ | «variable» _ => rfl
    · intro h
      obtain ⟨s, hs, -⟩ := h
      exact (List.getElem?_eq_some_iff.mp hs).1

theorem all_zip_iff (p : α × β → Bool) (xs : List α) (ys : List β) :
    (xs.zip ys).all p = true ↔
      ∀ (i : Nat) x y, xs[i]? = some x → ys[i]? = some y → p (x, y) = true := by
  rw [List.all_eq_true]
  constructor
  · intro h i x y hx hy
    exact h (x, y) (List.mem_of_getElem? (List.getElem?_zip_eq_some.mpr ⟨hx, hy⟩))
  · intro h z hz
    obtain ⟨i, hi⟩ := List.mem_iff_getElem?.mp hz
    obtain ⟨hx, hy⟩ := List.getElem?_zip_eq_some.mp hi
    exact h i z.1 z.2 hx hy

/-- The two passes over the template agree on its positions: the shape check looks at the segments
before a wildcard, which are all that could stand over a missing value. -/
theorem fitsPath_iff {t : Template} (h : WellFormed t.segments) (path : List String) :
    t.fitsPath path = true ↔ Fits t path := by
  unfold Template.fitsPath
  rw [Bool.and_eq_true, all_zip_iff]
  constructor
  · intro h
    obtain ⟨hl, ha⟩ := h
    have hsame : t.hasWildcard = false → path.length = t.segments.length := by
      intro hw
      simpa [hw, Template.fixedCount] using hl
    have hleast : t.hasWildcard = true → t.segments.length - 1 ≤ path.length := by
      intro hw
      simpa [hw, Template.fixedCount] using hl
    have hover : ∀ (i : Nat) s, t.segments[i]? = some s → s.isWildcard = false →
        ∃ v, path[i]? = some v ∧ s.admits v = true := by
      intro i s hs hw
      have hi := (h.lt_fixedCount_iff i).mpr ⟨s, hs, hw⟩
      have hlt : i < path.length := by
        unfold Template.fixedCount at hi
        cases he : t.hasWildcard with
        | true => have := hleast he; simp [he] at hi; omega
        | false => have := hsame he; simp [he] at hi; omega
      refine ⟨_, List.getElem?_eq_getElem hlt, ?_⟩
      exact ha i s _ (by rw [List.getElem?_take_of_lt hi, hs]) (List.getElem?_eq_getElem hlt)
    refine ⟨?_, ?_, hsame, hleast⟩
    · intro i s hs
      obtain ⟨v, hv, hok⟩ := hover i _ hs rfl
      have he : s = v := by simpa [Segment.admits] using hok
      exact he ▸ hv
    · intro i n hs
      obtain ⟨v, hv, hok⟩ := hover i _ hs rfl
      exact ⟨v, hv, by simpa [Segment.admits] using hok⟩
  · intro hf
    refine ⟨?_, ?_⟩
    · unfold Template.fixedCount
      cases hw : t.hasWildcard with
      | true => simpa using hf.leastLength hw
      | false => simpa using hf.sameLength hw
    · intro i s v hs hv
      have hi := (List.getElem?_eq_some_iff.mp hs).1
      rw [List.length_take] at hi
      rw [List.getElem?_take_of_lt (by omega)] at hs
      obtain ⟨q, hq, hw⟩ := (h.lt_fixedCount_iff i).mp (by omega)
      obtain rfl := Option.some.inj (hs.symm.trans hq)
      cases s with
      | literal s =>
        obtain rfl := Option.some.inj (hv.symm.trans (hf.literal i s hs))
        simp [Segment.admits]
      | «variable» n =>
        obtain ⟨w, hv', hne⟩ := hf.filled i n hs
        obtain rfl := Option.some.inj (hv.symm.trans hv')
        simpa [Segment.admits] using hne
      | wildcard n => cases hw

theorem captureFrom_cons {path : List String} {place : Nat} {s : Segment} {rest : List Segment}
    {cs : Captures} (h : Template.captureFrom path place (s :: rest) = .ok cs) :
    ∃ c ds, s.capture path place = .ok c ∧
      Template.captureFrom path (place + 1) rest = .ok ds ∧ cs = c ++ ds := by
  unfold Template.captureFrom at h
  cases hc : s.capture path place with
  | error e => simp [hc, bind, Except.bind] at h
  | ok c =>
    cases hd : Template.captureFrom path (place + 1) rest with
    | error e => simp [hc, hd, bind, Except.bind] at h
    | ok ds =>
      simp only [hc, hd, bind, Except.bind, pure, Except.pure, Except.ok.injEq] at h
      exact ⟨c, ds, rfl, rfl, h.symm⟩

/-- The capturing pass finds every place that it reads. -/
theorem captureFrom_inBounds {path : List String} {segments : List Segment} {place : Nat}
    (hv : ∀ (i : Nat) n, segments[i]? = some (.variable n) → place + i < path.length)
    (hw : ∀ (i : Nat) n, segments[i]? = some (.wildcard n) → place + i ≤ path.length) :
    ∃ cs, Template.captureFrom path place segments = .ok cs := by
  induction segments generalizing place with
  | nil => exact ⟨[], rfl⟩
  | cons s rest ih =>
    have hrest : ∃ ds, Template.captureFrom path (place + 1) rest = .ok ds := by
      apply ih
      · intro i n hi
        have := hv (i + 1) n (by simpa using hi)
        omega
      · intro i n hi
        have := hw (i + 1) n (by simpa using hi)
        omega
    have hhead : ∃ c, s.capture path place = .ok c := by
      cases s with
      | literal t => exact ⟨[], rfl⟩
      | «variable» n =>
        have hlt : place < path.length := hv 0 n rfl
        exact ⟨[(n, Percent.decode path[place])], by simp [Segment.capture, hlt]⟩
      | wildcard n =>
        have hle : place ≤ path.length := hw 0 n rfl
        exact ⟨_, if_pos hle⟩
    obtain ⟨ds, hd⟩ := hrest
    obtain ⟨c, hc⟩ := hhead
    exact ⟨c ++ ds, by simp [Template.captureFrom, hc, hd, bind, Except.bind, pure, Except.pure]⟩

/-- A path of the right length reaches every segment, wherever wildcards stand. -/
theorem place_of_fits {t : Template} {path : List String} (hf : t.fitsPath path = true) {i : Nat}
    {s : Segment} (hs : t.segments[i]? = some s) :
    i ≤ path.length ∧ (s.isWildcard = false → i < path.length) := by
  have hi := (List.getElem?_eq_some_iff.mp hs).1
  unfold Template.fitsPath Template.fixedCount at hf
  rw [Bool.and_eq_true] at hf
  cases hw : t.hasWildcard with
  | false =>
    have hlen : path.length = t.segments.length := by simpa [hw] using hf.1
    omega
  | true =>
    have hlen : t.segments.length - 1 ≤ path.length := by simpa [hw] using hf.1
    refine ⟨by omega, ?_⟩
    intro hfix
    obtain ⟨n, hn⟩ := (hasWildcard_iff t).mp hw
    rw [List.getLast?_eq_getElem?] at hn
    have hne : i ≠ t.segments.length - 1 := by
      rintro rfl
      obtain rfl := Option.some.inj (hs.symm.trans hn)
      cases hfix
    omega

theorem captured_of_fits {t : Template} {path : List String} (hf : t.fitsPath path = true) :
    ∃ cs, Template.captureFrom path 0 t.segments = .ok cs := by
  apply captureFrom_inBounds
  · intro i n hi
    have := (place_of_fits hf hi).2 rfl
    omega
  · intro i n hi
    have := (place_of_fits hf hi).1
    omega

theorem tryMatch_inBounds (t : Template) (path : List String) :
    ∃ result, t.tryMatch path = .ok result := by
  unfold Template.tryMatch
  split
  · rename_i hf
    obtain ⟨cs, hc⟩ := captured_of_fits hf
    exact ⟨some cs, by simp [hc, Except.map]⟩
  · exact ⟨none, rfl⟩

theorem matchSegments_eq_some_iff {t : Template} {path : List String} {cs : Captures} :
    t.matchSegments path = some cs ↔
      t.fitsPath path = true ∧ Template.captureFrom path 0 t.segments = .ok cs := by
  unfold Template.matchSegments Template.tryMatch
  cases hf : t.fitsPath path with
  | false => simp
  | true =>
    obtain ⟨ds, hd⟩ := captured_of_fits hf
    simp [hd, Except.map]

theorem matchSegments_isSome (t : Template) (path : List String) :
    (t.matchSegments path).isSome = t.fitsPath path := by
  apply Bool.eq_iff_iff.mpr
  rw [Option.isSome_iff_exists]
  constructor
  · intro h
    obtain ⟨cs, h⟩ := h
    exact (matchSegments_eq_some_iff.mp h).1
  · intro hf
    obtain ⟨cs, hc⟩ := captured_of_fits hf
    exact ⟨cs, matchSegments_eq_some_iff.mpr ⟨hf, hc⟩⟩

/-- The captures of a template in the order of its names. A variable has the value over which it
stands, and a wildcard all values from its place on. -/
structure Captured (t : Template) (path : List String) (captures : Captures) : Prop where
  names : captures.map (·.1) = t.names
  ofVariable : ∀ (i : Nat) n, t.segments[i]? = some (.variable n) →
    ∃ v, path[i]? = some v ∧ Percent.decode v ≠ "" ∧ captures.get? n = some (Percent.decode v)
  ofWildcard : ∀ (i : Nat) n, t.segments[i]? = some (.wildcard n) →
    captures.get? n = some (join "/" ((path.drop i).map Percent.decode))

theorem get?_cons (n m v : String) (cs : Captures) :
    Captures.get? ((n, v) :: cs) m = if n = m then some v else cs.get? m := by
  unfold Captures.get?
  by_cases h : n = m <;> simp [h]

/-- Captures under distinct names are determined by what is found under each. -/
theorem captures_ext {cs ds : Captures} (hn : cs.map (·.1) = ds.map (·.1))
    (hd : (cs.map (·.1)).Nodup) (hg : ∀ n ∈ cs.map (·.1), cs.get? n = ds.get? n) : cs = ds := by
  induction cs generalizing ds with
  | nil => simpa using hn
  | cons c cs ih =>
    cases ds with
    | nil => simp at hn
    | cons d ds =>
      obtain ⟨n, v⟩ := c
      obtain ⟨m, w⟩ := d
      simp only [List.map_cons, List.cons.injEq] at hn
      obtain ⟨rfl, hn⟩ := hn
      simp only [List.map_cons, List.nodup_cons] at hd
      have hv : v = w := by
        have := hg n (by simp)
        simpa [get?_cons] using this
      have htail : cs = ds := by
        apply ih hn hd.2
        intro m hm
        have hne : n ≠ m := by
          rintro rfl
          exact hd.1 hm
        have := hg m (by simp [hm])
        simpa [get?_cons, hne] using this
      rw [hv, htail]

/-- What a segment that has a name captures at its place. -/
def valueAt (path : List String) (place : Nat) : Segment → String
  | .literal s => s
  | .variable _ => Percent.decode (path.getD place "")
  | .wildcard _ => join "/" ((path.drop place).map Percent.decode)

theorem capture_eq {path : List String} {place : Nat} {s : Segment} {c : Captures}
    (h : s.capture path place = .ok c) :
    c = s.name?.toList.map fun n => (n, valueAt path place s) := by
  cases s with
  | literal t =>
    obtain rfl := Except.ok.inj h
    rfl
  | «variable» n =>
    cases hv : path[place]? with
    | none => simp [Segment.capture, hv] at h
    | some v =>
      simp only [Segment.capture, hv, Except.ok.injEq] at h
      simp [← h, Segment.name?, valueAt, hv]
  | wildcard n =>
    by_cases hle : place ≤ path.length
    · simp only [Segment.capture, hle, if_true, Except.ok.injEq] at h
      simp [← h, Segment.name?, valueAt]
    · simp [Segment.capture, hle] at h

theorem captureFrom_names {path : List String} {segments : List Segment} {place : Nat}
    {cs : Captures} (h : Template.captureFrom path place segments = .ok cs) :
    cs.map (·.1) = segments.filterMap Segment.name? := by
  induction segments generalizing place cs with
  | nil =>
    obtain rfl := Except.ok.inj h
    rfl
  | cons s rest ih =>
    obtain ⟨c, ds, hc, hd, rfl⟩ := captureFrom_cons h
    rw [List.map_append, ih hd, capture_eq hc]
    cases hn : s.name? <;> simp [hn]

/-- Under distinct names every named segment finds its own value. -/
theorem captureFrom_get? {path : List String} {segments : List Segment} {place i : Nat}
    {cs : Captures} {s : Segment} {n : String}
    (h : Template.captureFrom path place segments = .ok cs)
    (hd : (segments.filterMap Segment.name?).Nodup) (hs : segments[i]? = some s)
    (hn : s.name? = some n) : cs.get? n = some (valueAt path (place + i) s) := by
  induction segments generalizing place cs i with
  | nil => simp at hs
  | cons q rest ih =>
    obtain ⟨c, ds, hc, hrest, rfl⟩ := captureFrom_cons h
    have hc := capture_eq hc
    cases i with
    | zero =>
      obtain rfl : q = s := by simpa using hs
      subst c
      simp [hn, get?_cons]
    | succ i =>
      have hs : rest[i]? = some s := by simpa using hs
      have hmem : n ∈ rest.filterMap Segment.name? :=
        List.mem_filterMap.mpr ⟨s, List.mem_of_getElem? hs, hn⟩
      have hplace : place + (i + 1) = place + 1 + i := by omega
      cases hq : q.name? with
      | none =>
        simp only [List.filterMap_cons, hq] at hd
        simp only [hq, Option.toList_none, List.map_nil] at hc
        rw [hc, List.nil_append, hplace]
        exact ih hrest hd hs
      | some m =>
        simp only [List.filterMap_cons, hq, List.nodup_cons] at hd
        have hne : m ≠ n := by
          rintro rfl
          exact hd.1 hmem
        simp only [hq, Option.toList_some, List.map_cons, List.map_nil] at hc
        rw [hc, List.cons_append, List.nil_append, get?_cons, if_neg hne, hplace]
        exact ih hrest hd.2 hs

theorem captured {t : Template} (h : WellFormed t.segments) {path : List String} {cs : Captures}
    (hf : Fits t path) (hc : Template.captureFrom path 0 t.segments = .ok cs) :
    Captured t path cs := by
  refine ⟨captureFrom_names hc, ?_, ?_⟩
  · intro i n hs
    obtain ⟨v, hv, hne⟩ := hf.filled i n hs
    have hget := captureFrom_get? hc h.distinct hs rfl
    refine ⟨v, hv, ?_, ?_⟩
    · rw [Ne, Percent.decode_eq_empty_iff]
      exact hne
    · simpa [valueAt, hv] using hget
  · intro i n hs
    simpa [valueAt] using captureFrom_get? hc h.distinct hs rfl

theorem Captured.unique {t : Template} (h : WellFormed t.segments) {path : List String}
    {cs ds : Captures} (hc : Captured t path cs) (hd : Captured t path ds) : cs = ds := by
  have hnames : cs.map (·.1) = ds.map (·.1) := hc.names.trans hd.names.symm
  apply captures_ext hnames
  · rw [hc.names]
    exact h.distinct
  · intro n hn
    rw [hc.names] at hn
    obtain ⟨s, hs, hname⟩ := List.mem_filterMap.mp hn
    obtain ⟨i, hi⟩ := List.mem_iff_getElem?.mp hs
    cases s with
    | literal t => cases hname
    | «variable» m =>
      obtain rfl := Option.some.inj hname
      obtain ⟨v, hv, -, hgc⟩ := hc.ofVariable i m hi
      obtain ⟨w, hw, -, hgd⟩ := hd.ofVariable i m hi
      obtain rfl := Option.some.inj (hv.symm.trans hw)
      rw [hgc, hgd]
    | wildcard m =>
      obtain rfl := Option.some.inj hname
      rw [hc.ofWildcard i m hi, hd.ofWildcard i m hi]

/-- Matching never reads beyond a path, succeeds on exactly the paths of the template's language,
and captures exactly what the names of the template stand for. -/
theorem matchSegments_language (hp : Template.parse pattern = .ok t) (path : List String) :
    (∃ result, t.tryMatch path = .ok result) ∧
    ((t.matchSegments path).isSome = true ↔ Fits t path) ∧
    ∀ captures, t.matchSegments path = some captures ↔
      Fits t path ∧ Captured t path captures := by
  have h := parse_wellFormed hp
  refine ⟨tryMatch_inBounds t path, ?_, ?_⟩
  · rw [matchSegments_isSome, fitsPath_iff h]
  · intro captures
    rw [matchSegments_eq_some_iff, fitsPath_iff h]
    constructor
    · intro h
      obtain ⟨hf, hc⟩ := h
      exact ⟨hf, captured h hf hc⟩
    · intro h
      obtain ⟨hf, hc⟩ := h
      obtain ⟨cs, hcs⟩ := captured_of_fits ((fitsPath_iff h path).mpr hf)
      rw [hc.unique h (captured h hf hcs)]
      exact ⟨hf, hcs⟩

def userFiles : Template :=
  ⟨"/users/\x7bid\x7d/**", [.literal "users", .variable "id", .wildcard Segment.anonymous]⟩

theorem userFiles_captured :
    Template.parse "/users/\x7bid\x7d/**" = .ok userFiles ∧
    Fits userFiles ["users", "a%20b"] ∧
    Captured userFiles ["users", "a%20b"] [("id", "a b"), (Segment.anonymous, "")] := by
  have hp : Template.parse "/users/\x7bid\x7d/**" = .ok userFiles := by decide
  have hm : userFiles.matchSegments ["users", "a%20b"] =
      some [("id", "a b"), (Segment.anonymous, "")] := by decide
  exact ⟨hp, ((matchSegments_language hp _).2.2 _).mp hm⟩

end Switchboard.Proofs.TemplateLanguage
