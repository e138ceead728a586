import Switchboard.Proofs.Chains
import Switchboard.Proofs.TemplateLanguage
import Switchboard.Text.Cutting

namespace Switchboard.Proofs.Rendering
open Route Text TemplateLanguage

/-- Values for the names of a template, none of them empty: a text for each variable, and texts for
a wildcard. -/
structure Assignment where
  value : String → { s : String // s ≠ "" }
  rest : List { s : String // s ≠ "" }

/-- A piece that writes every byte of a text as an escape. -/
def Encodes (v : { s : String // s ≠ "" }) (p : String) : Prop :=
  Percent.Escapes (Percent.bytes v) p.toList

/-- The pieces of a path that a segment writes. -/
inductive Writes (a : Assignment) : Segment → List String → Prop where
  | literal (s : String) : Writes a (.literal s) [s]
  | value {n p : String} (h : Encodes (a.value n) p) : Writes a (.variable n) [p]
  | rest {n : String} {ps : List String} (h : List.Forall₂ Encodes a.rest ps) :
      Writes a (.wildcard n) ps

/-- Pieces with slashes between them, as many as one likes but at least one, and any number of
slashes before the first piece and behind the last. -/
inductive Spaced : List String → List Char → Prop where
  | none (n : Nat) : Spaced [] (List.replicate n '/')
  | last (n : Nat) (p : String) (m : Nat) :
      Spaced [p] (List.replicate n '/' ++ p.toList ++ List.replicate m '/')
  | cons (n : Nat) (p : String) {q : String} {ps : List String} {cs : List Char}
      (h : Spaced (q :: ps) cs) :
      Spaced (p :: q :: ps) (List.replicate n '/' ++ p.toList ++ '/' :: cs)

/-- A path that a template writes. -/
def Renders (t : Template) (a : Assignment) (path : String) : Prop :=
  ∃ chunks, List.Forall₂ (Writes a) t.segments chunks ∧ Spaced chunks.flatten path.toList

/-- What a segment is to capture. -/
def captured? (a : Assignment) : Segment → Option (String × String)
  | .literal _ => none
  | .variable n => some (n, a.value n)
  | .wildcard n => some (n, join "/" (a.rest.map (·.1)))

/-- A piece that splitting a path can give. -/
def IsPiece (p : String) : Prop :=
  p ≠ "" ∧ '/' ∉ p.toList

theorem Encodes.decode_eq (h : Encodes v p) : Percent.decode p = v := by
  rw [← String.ofList_toList (s := p)]
  exact Percent.Escapes.decode_eq h

theorem Encodes.isPiece (h : Encodes v p) : IsPiece p := by
  refine ⟨?_, Percent.Escapes.slash_not_mem h⟩
  intro he
  rw [← Percent.decode_eq_empty_iff, h.decode_eq] at he
  exact v.2 he

theorem decode_all (h : List.Forall₂ Encodes vs ps) : ps.map Percent.decode = vs.map (·.1) := by
  induction h with
  | nil => rfl
  | cons hp _ ih => rw [List.map_cons, List.map_cons, hp.decode_eq, ih]

theorem Writes.eq_singleton (h : Writes a s c) (hs : s.isWildcard = false) : ∃ p, c = [p] := by
  cases h with
  | literal s => exact ⟨s, rfl⟩
  | value h => exact ⟨_, rfl⟩
  | rest h => cases hs

theorem Writes.isPiece (h : Writes a s c) (hs : ∀ text, s = .literal text → IsPiece text) :
    ∀ p ∈ c, IsPiece p := by
  intro p hp
  cases h with
  | literal text =>
    obtain rfl := List.mem_singleton.mp hp
    exact hs p rfl
  | value h =>
    obtain rfl := List.mem_singleton.mp hp
    exact h.isPiece
  | rest h =>
    obtain ⟨v, -, hv⟩ := Chains.exists_of_mem_right h hp
    exact hv.isPiece

theorem ofBraced?_ne_literal (inner : List Char) (s : String) :
    Segment.ofBraced? inner ≠ some (.literal s) := by
  unfold Segment.ofBraced?
  split <;> split <;> simp

theorem ofPiece?_literal (h : Segment.ofPiece? piece = some (.literal s)) : s = piece := by
  unfold Segment.ofPiece? at h
  split at h
  · cases h
  · cases h
  · split at h <;> cases h
  · split at h
    · obtain ⟨inner, -, hi⟩ := Option.bind_eq_some_iff.mp h
      exact absurd hi (ofBraced?_ne_literal inner s)
    · cases h
      rfl

theorem literal_of_readPieces {before : List Segment} {pieces : List String}
    (hr : Template.readPieces pattern before pieces = .ok segments)
    (hs : .literal s ∈ segments) : .literal s ∈ before ∨ s ∈ pieces := by
  induction pieces generalizing before with
  | nil =>
    simp only [Template.readPieces, Except.ok.injEq] at hr
    subst segments
    exact .inl (List.mem_reverse.mp hs)
  | cons piece pieces ih =>
    obtain ⟨q, hq, -, -, hrest⟩ := readPieces_cons hr
    rcases ih hrest with hm | hm
    · rcases List.mem_cons.mp hm with rfl | hm
      · exact .inr (ofPiece?_literal hq ▸ List.mem_cons_self)
      · exact .inl hm
    · exact .inr (List.mem_cons_of_mem piece hm)

theorem literal_of_parse (hp : Template.parse pattern = .ok t) (hs : .literal s ∈ t.segments) :
    IsPiece s := by
  rcases literal_of_readPieces (readPieces_of_parse hp) hs with hm | hm
  · cases hm
  · exact of_mem_words hm

theorem words_slashes (n : Nat) (cs : List Char) :
    words '/' (String.ofList (List.replicate n '/' ++ cs)) = words '/' (String.ofList cs) := by
  induction n with
  | zero => rfl
  | succ n ih =>
    have hcut := words_ofList '/' [] (List.replicate n '/' ++ cs)
    rw [List.nil_append, ih] at hcut
    exact hcut

theorem words_replicate (n : Nat) : words '/' (String.ofList (List.replicate n '/')) = [] := by
  have hslashes := words_slashes n []
  rw [List.append_nil] at hslashes
  exact hslashes

theorem words_spaced {ps : List String} {cs : List Char} (h : Spaced ps cs)
    (hps : ∀ p ∈ ps, IsPiece p) : words '/' (String.ofList cs) = ps := by
  induction h with
  | none n => exact words_replicate n
  | last n p m =>
    obtain ⟨hne, hp⟩ := hps p List.mem_cons_self
    rw [List.append_assoc, words_slashes]
    cases m with
    | zero => simpa using words_of_not_mem hne hp
    | succ m =>
      rw [List.replicate_succ, words_ofList, words_replicate, String.ofList_toList,
        words_of_not_mem hne hp]
      rfl
  | cons n p h ih =>
    obtain ⟨⟨hne, hp⟩, hrest⟩ := List.forall_mem_cons.mp hps
    rw [List.append_assoc, words_slashes, words_ofList, ih hrest, String.ofList_toList,
      words_of_not_mem hne hp]
    rfl

theorem isPiece_of_writes (hp : Template.parse pattern = .ok t)
    (hw : List.Forall₂ (Writes a) t.segments chunks) : ∀ p ∈ chunks.flatten, IsPiece p := by
  intro p hm
  obtain ⟨c, hc, hpc⟩ := List.mem_flatten.mp hm
  obtain ⟨s, hmem, hw⟩ := Chains.exists_of_mem_right hw hc
  refine hw.isPiece ?_ p hpc
  rintro text rfl
  exact literal_of_parse hp hmem

theorem pathSegments_eq (hp : Template.parse pattern = .ok t)
    (hw : List.Forall₂ (Writes a) t.segments chunks) (hs : Spaced chunks.flatten path.toList) :
    pathSegments path = chunks.flatten := by
  have hwords := words_spaced hs (isPiece_of_writes hp hw)
  rwa [String.ofList_toList] at hwords

/-- Before a wildcard every segment writes one piece. -/
theorem piece_of_writes (h : List.Forall₂ (Writes a) segments chunks) (hw : WellFormed segments)
    {i : Nat} (hi : segments[i]? = some s) (hs : s.isWildcard = false) :
    ∃ p, Writes a s [p] ∧ chunks.flatten[i]? = some p := by
  induction h generalizing i with
  | nil => simp at hi
  | @cons q c segments chunks hc _ ih =>
    cases i with
    | zero =>
      obtain rfl : q = s := by simpa using hi
      obtain ⟨p, rfl⟩ := hc.eq_singleton hs
      exact ⟨p, hc, rfl⟩
    | succ i =>
      have hrest : segments[i]? = some s := by simpa using hi
      have hq : q.isWildcard = false := by
        cases q with
        | wildcard n => simp [hw.eq_nil] at hrest
        | literal _ | «variable» _ => rfl
      obtain ⟨p, rfl⟩ := hc.eq_singleton hq
      exact ih hw.tail hrest

theorem length_of_writes (h : List.Forall₂ (Writes a) segments chunks)
    (hfixed : ∀ s ∈ segments, s.isWildcard = false) :
    chunks.flatten.length = segments.length := by
  induction h with
  | nil => rfl
  | cons hc _ ih =>
    obtain ⟨hs, hrest⟩ := List.forall_mem_cons.mp hfixed
    obtain ⟨p, rfl⟩ := hc.eq_singleton hs
    simpa using ih hrest

theorem le_length_of_writes (h : List.Forall₂ (Writes a) segments chunks)
    (hw : WellFormed segments) : segments.length - 1 ≤ chunks.flatten.length := by
  induction h with
  | nil => exact Nat.zero_le _
  | @cons s c segments chunks hc _ ih =>
    cases hs : s.isWildcard with
    | true =>
      cases s with
      | wildcard n => simp [hw.eq_nil]
      | literal _ | «variable» _ => cases hs
    | false =>
      obtain ⟨p, rfl⟩ := hc.eq_singleton hs
      have := ih hw.tail
      rw [List.flatten_cons, List.singleton_append, List.length_cons, List.length_cons]
      omega

theorem fits_of_writes {t : Template} (hw : WellFormed t.segments)
    (h : List.Forall₂ (Writes a) t.segments chunks)
    (hpieces : ∀ p ∈ chunks.flatten, p ≠ "") : Fits t chunks.flatten := by
  refine ⟨?_, ?_, ?_, fun _ => le_length_of_writes h hw⟩
  · intro i text hi
    obtain ⟨p, hp, hat⟩ := piece_of_writes h hw hi rfl
    cases hp
    exact hat
  · intro i n hi
    obtain ⟨p, -, hat⟩ := piece_of_writes h hw hi rfl
    exact ⟨p, hat, hpieces p (List.mem_of_getElem? hat)⟩
  · intro hfixed
    apply length_of_writes h
    intro s hs
    obtain ⟨i, hi⟩ := List.mem_iff_getElem?.mp hs
    have hlt : i < t.fixedCount := by
      simpa [Template.fixedCount, hfixed] using (List.getElem?_eq_some_iff.mp hi).1
    obtain ⟨q, hq, hqs⟩ := (hw.lt_fixedCount_iff i).mp hlt
    rwa [Option.some.inj (hi.symm.trans hq)]

/-- Each segment captures from the pieces that it wrote, whatever stands before them. -/
theorem captureFrom_of_writes (h : List.Forall₂ (Writes a) segments chunks)
    (hw : WellFormed segments) (front : List String) :
    Template.captureFrom (front ++ chunks.flatten) front.length segments =
      .ok (segments.filterMap (captured? a)) := by
  induction h generalizing front with
  | nil => rfl
  | @cons s c segments chunks hc hrest ih =>
    have hafter : ∀ p, Template.captureFrom (front ++ p :: chunks.flatten) (front.length + 1)
        segments = .ok (segments.filterMap (captured? a)) := by
      intro p
      simpa using ih hw.tail (front ++ [p])
    cases hc with
    | literal text =>
      simp [Template.captureFrom, Segment.capture, hafter, captured?, List.filterMap_cons, bind,
        Except.bind, pure, Except.pure]
    | value h =>
      simp [Template.captureFrom, Segment.capture, hafter, captured?, h.decode_eq, bind,
        Except.bind, pure, Except.pure]
    | rest h =>
      obtain rfl := hw.eq_nil
      cases hrest
      simp [Template.captureFrom, Segment.capture, captured?, decode_all h, bind, Except.bind,
        pure, Except.pure]

def encode (s : String) : String :=
  String.ofList ((Percent.bytes s).flatMap Percent.escapeByte)

theorem encodes_encode (v : { s : String // s ≠ "" }) : Encodes v (encode v) := by
  unfold Encodes encode
  rw [String.toList_ofList]
  exact Percent.escapes_escapeByte _

theorem exists_writes (a : Assignment) (s : Segment) : ∃ c, Writes a s c := by
  cases s with
  | literal text => exact ⟨_, .literal text⟩
  | «variable» n => exact ⟨_, .value (encodes_encode (a.value n))⟩
  | wildcard n =>
    refine ⟨a.rest.map fun v => encode v, .rest ?_⟩
    induction a.rest with
    | nil => exact .nil
    | cons v vs ih => exact .cons (encodes_encode v) ih

theorem spaced_join (ps : List String) : Spaced ps (join "/" ps).toList := by
  unfold join
  rw [String.toList_intercalate]
  induction ps with
  | nil => exact .none 0
  | cons p ps ih =>
    cases ps with
    | nil => simpa using Spaced.last 0 p 0
    | cons q ps => simpa using Spaced.cons 0 p ih

theorem exists_renders (t : Template) (a : Assignment) : ∃ path, Renders t a path := by
  have hchunks : ∃ chunks, List.Forall₂ (Writes a) t.segments chunks := by
    induction t.segments with
    | nil => exact ⟨[], .nil⟩
    | cons s segments ih =>
      obtain ⟨c, hc⟩ := exists_writes a s
      obtain ⟨chunks, hw⟩ := ih
      exact ⟨c :: chunks, .cons hc hw⟩
  obtain ⟨chunks, hw⟩ := hchunks
  exact ⟨_, chunks, hw, spaced_join chunks.flatten⟩

/-- Whatever values a template writes into a path, it captures again, under its names and in their
order. -/
theorem match_rendered (hp : Template.parse pattern = .ok t) (a : Assignment) :
    (∃ path, Renders t a path) ∧
    ∀ path, Renders t a path → t.matchPath path = some (t.segments.filterMap (captured? a)) := by
  refine ⟨exists_renders t a, ?_⟩
  rintro path ⟨chunks, hw, hs⟩
  have hwf := parse_wellFormed hp
  have hpieces : ∀ p ∈ chunks.flatten, p ≠ "" := fun p hm => (isPiece_of_writes hp hw p hm).1
  unfold Template.matchPath
  rw [pathSegments_eq hp hw hs]
  apply matchSegments_eq_some_iff.mpr
  refine ⟨(fitsPath_iff hwf _).mpr (fits_of_writes hwf hw hpieces), ?_⟩
  simpa using captureFrom_of_writes hw hwf []

def ownedFiles : Template :=
  ⟨"/files/:owner/\x7b*path\x7d", [.literal "files", .variable "owner", .wildcard "path"]⟩

def ownedByUs : Assignment :=
  ⟨fun _ => ⟨"a/b", by decide⟩, [⟨"ü", by decide⟩, ⟨"\x7bx\x7d", by decide⟩]⟩

theorem ownedFiles_rendered :
    Template.parse "/files/:owner/\x7b*path\x7d" = .ok ownedFiles ∧
    Renders ownedFiles ownedByUs "//files/%61%2F%62///%C3%BC/%7B%78%7D/" ∧
    ownedFiles.matchPath "//files/%61%2F%62///%C3%BC/%7B%78%7D/" =
      some [("owner", "a/b"), ("path", "ü/\x7bx\x7d")] := by
  have hp : Template.parse "/files/:owner/\x7b*path\x7d" = .ok ownedFiles := by decide
  have hr : Renders ownedFiles ownedByUs "//files/%61%2F%62///%C3%BC/%7B%78%7D/" := by
    refine ⟨[["files"], [encode "a/b"], [encode "ü", encode "\x7bx\x7d"]], ?_, ?_⟩
    · exact .cons (.literal _) (.cons (.value (encodes_encode _)) (.cons
        (.rest (.cons (encodes_encode _) (.cons (encodes_encode _) .nil))) .nil))
    · exact .cons 2 _ (.cons 0 _ (.cons 2 _ (.last 0 _ 1)))
  exact ⟨hp, hr, (match_rendered hp ownedByUs).2 _ hr⟩

end Switchboard.Proofs.Rendering
