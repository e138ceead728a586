import Mathlib.Data.List.Basic
import Switchboard.Http.MediaType
import Switchboard.Proofs.LowerCase
import Switchboard.Text.Cutting

namespace Switchboard.Proofs.MediaTypeTexts
open Text Http LowerCase

/-- A type or a subtype as it is read. -/
structure Name (t : String) : Prop where
  token : MediaType.isToken t = true
  settled : lowerText t = t

/-- The name of a parameter as it is read. -/
structure Key (k : String) : Prop where
  tight : Tight k.toList
  settled : lowerText k = k
  semicolon : ';' ∉ k.toList
  equals : '=' ∉ k.toList
  ordinary : k ≠ "q"

/-- The value of a parameter as it is read. -/
structure Value (v : String) : Prop where
  semicolon : ';' ∉ v.toList
  unquoted : Clean (· == '"') v.toList

/-- A media type as it is read. -/
structure Plain (m : MediaType) : Prop where
  type : Name m.type
  subtype : Name m.subtype
  wildcard : m.type = "*" → m.subtype = "*"
  ascending : Tree.Fields.Ascending m.params
  key : ∀ p ∈ m.params, Key p.1
  value : ∀ p ∈ m.params, Value p.2

theorem isBlank_of_isTokenChar {c : Char} (h : MediaType.isTokenChar c = true) :
    isBlank c = false := by
  have hmarks : ("!#$&-^_.+*".toList.all fun d => !isBlank d) = true := by decide
  rw [MediaType.isTokenChar, Bool.or_eq_true, List.contains_iff_mem] at h
  rcases h with hletter | hmark
  · exact isBlank_of_isAlphanum hletter
  · simpa using List.all_eq_true.mp hmarks c hmark

theorem isToken_iff {t : String} : MediaType.isToken t = true ↔
    t ≠ "" ∧ ∀ c ∈ t.toList, MediaType.isTokenChar c = true := by
  rw [MediaType.isToken, Bool.and_eq_true, decide_eq_true_eq, List.all_eq_true]

theorem name_lowerText {t : String} (h : MediaType.isToken (lowerText t) = true) :
    Name (lowerText t) :=
  ⟨h, lowerText_lowerText t⟩

theorem Name.tight {t : String} (h : Name t) : Tight t.toList :=
  tight_of_all fun c hc => isBlank_of_isTokenChar ((isToken_iff.mp h.token).2 c hc)

theorem Name.not_mem {t : String} (h : Name t) {c : Char}
    (hc : MediaType.isTokenChar c = false) : c ∉ t.toList := by
  intro hmem
  rw [(isToken_iff.mp h.token).2 c hmem] at hc
  cases hc

theorem Name.ne_nil {t : String} (h : Name t) : t.toList ≠ [] :=
  fun hnil => (isToken_iff.mp h.token).1 (String.toList_eq_nil_iff.mp hnil)

theorem param?_trim (part : String) : MediaType.param? (trim part) = MediaType.param? part := by
  rw [MediaType.param?, MediaType.param?, trim_trim]

theorem filterMap_trim (parts : List String) :
    (parts.map trim).filterMap MediaType.param? = parts.filterMap MediaType.param? := by
  simp only [List.filterMap_map, Function.comp_def, param?_trim]

theorem of_param? {part k v : String} (hpart : ';' ∉ part.toList)
    (h : MediaType.param? part = some (k, v)) : Key k ∧ Value v := by
  unfold MediaType.param? at h
  split at h
  · cases h
  · next key value hcut =>
    obtain ⟨htrim, hequals⟩ := cut?_eq_some_iff.mp hcut
    have hboth : ';' ∉ key.toList ∧ ';' ∉ value.toList := by
      have hall : ';' ∉ (trim part).toList := fun hmem => hpart (mem_of_mem_trim hmem)
      simpa [htrim] using hall
    dsimp only at h
    split at h
    · cases h
    · next hordinary =>
      obtain ⟨rfl, rfl⟩ := Prod.mk.inj (Option.some.inj h)
      have htight : Tight (trim key).toList := by
        rw [toList_trim]
        exact tight_trimChars key.toList
      refine ⟨⟨tight_lowerText htight, lowerText_lowerText _, ?_, ?_, hordinary⟩, ?_, ?_⟩
      · exact not_mem_lowerText (by decide) fun hmem => hboth.1 (mem_of_mem_trim hmem)
      · exact not_mem_lowerText (by decide) fun hmem => hequals (mem_of_mem_trim hmem)
      · exact fun hmem => hboth.2 (mem_of_mem_trim (mem_of_mem_stripChar hmem))
      · rw [toList_stripChar]
        exact clean_stripChars _ _

/-- What makes the essence of a media type unreadable. -/
theorem refused_iff (type subtype : String) :
    (!MediaType.isToken type || !MediaType.isToken subtype ||
      (type = "*" && subtype ≠ "*")) = true ↔
    ¬(MediaType.isToken type = true ∧ MediaType.isToken subtype = true ∧
      (type = "*" → subtype = "*")) := by
  cases MediaType.isToken type <;> cases MediaType.isToken subtype <;> simp

/-- Reading looks at the parts between the semicolons, each of them trimmed. -/
theorem parse?_iff {s essence : String} {parts : List String}
    (h : (split ';' s).map trim = essence :: parts) (m : MediaType) :
    MediaType.parse? s = some m ↔ ∃ type subtype, cut? '/' essence = some (type, subtype) ∧
      Name m.type ∧ Name m.subtype ∧ (m.type = "*" → m.subtype = "*") ∧
      m = ⟨lowerText (trim type), lowerText (trim subtype),
        Tree.Fields.ofList (parts.filterMap MediaType.param?)⟩ := by
  rw [← map_trim_split (by decide)] at h
  unfold MediaType.parse?
  cases hsplit : split ';' (trim s) with
  | nil => exact absurd hsplit (split_ne_nil ';' (trim s))
  | cons first rest =>
    rw [hsplit, List.map_cons] at h
    obtain ⟨rfl, rfl⟩ := List.cons.inj h
    rw [filterMap_trim]
    dsimp only
    constructor
    · intro hread
      split at hread
      · cases hread
      · next type subtype hcut =>
        split at hread
        · cases hread
        · next hgood =>
          rw [refused_iff, not_not] at hgood
          obtain ⟨htype, hsubtype, hwildcard⟩ := hgood
          obtain rfl := Option.some.inj hread
          exact ⟨type, subtype, hcut, name_lowerText htype, name_lowerText hsubtype,
            hwildcard, rfl⟩
    · rintro ⟨type, subtype, hcut, htype, hsubtype, hwildcard, rfl⟩
      dsimp only at htype hsubtype hwildcard
      have hgood := mt (refused_iff _ _).mp
        (not_not_intro ⟨htype.token, hsubtype.token, hwildcard⟩)
      rw [hcut]
      dsimp only
      rw [if_neg hgood]

theorem plain_of_parse? {s : String} {m : MediaType} (h : MediaType.parse? s = some m) :
    Plain m := by
  have hne : (split ';' s).map trim ≠ [] := by
    rw [ne_eq, List.map_eq_nil_iff]
    exact split_ne_nil ';' s
  obtain ⟨essence, parts, hsplit⟩ := List.exists_cons_of_ne_nil hne
  obtain ⟨type, subtype, -, htype, hsubtype, hwildcard, hm⟩ := (parse?_iff hsplit m).mp h
  have hparam : ∀ p ∈ m.params, Key p.1 ∧ Value p.2 := by
    intro p hp
    rw [hm] at hp
    obtain ⟨part, hpart, hread⟩ := List.mem_filterMap.mp (Tree.Fields.mem_ofList hp)
    have hmem : part ∈ (split ';' s).map trim := by
      rw [hsplit]
      exact List.mem_cons_of_mem essence hpart
    obtain ⟨piece, hpiece, rfl⟩ := List.mem_map.mp hmem
    rw [param?_trim] at hread
    exact of_param? (not_mem_of_mem_split hpiece) hread
  have hascending : Tree.Fields.Ascending m.params := by
    rw [hm]
    exact Tree.Fields.ofList_ascending _
  exact ⟨htype, hsubtype, hwildcard, hascending, fun p hp => (hparam p hp).1,
    fun p hp => (hparam p hp).2⟩

/-- A parameter as the text shows it, without the semicolon. -/
def shown (p : String × String) : String :=
  " " ++ p.1 ++ "=" ++ p.2

theorem text_eq (m : MediaType) :
    m.text = join (String.singleton ';') (m.essence :: m.params.map shown) := by
  rw [join_cons, List.map_map, MediaType.text]
  refine congrArg (fun texts => m.essence ++ String.join texts) (List.map_congr_left ?_)
  rintro ⟨k, v⟩ -
  rw [← String.toList_inj]
  simp [shown]

/-- What is read of a value that is shown without quotes. -/
def reread (v : String) : String :=
  stripChar '"' (trim v)

theorem param?_shown {k : String} (hk : Key k) (v : String) :
    MediaType.param? (shown (k, v)) = some (k, reread v) := by
  have htrim : trim (shown (k, v)) = k ++ String.singleton '=' ++ trimEnd v := by
    have hspace : ∀ c ∈ [' '], isBlank c = true := List.forall_mem_singleton.mpr (by decide)
    have hboth : trimChars ([' '] ++ (k.toList ++ '=' :: v.toList)) =
        k.toList ++ '=' :: dropEndWhile isBlank v.toList := by
      rw [trimChars_blank_append hspace, trimChars_append_cons hk.tight (by decide)]
    rw [← String.toList_inj]
    simpa [shown, trimEnd] using hboth
  have hcut : cut? '=' (trim (shown (k, v))) = some (k, trimEnd v) :=
    cut?_eq_some_iff.mpr ⟨htrim, hk.equals⟩
  rw [MediaType.param?, hcut]
  dsimp only
  rw [trim_of_tight hk.tight, hk.settled, if_neg hk.ordinary, trim_trimEnd, reread]

theorem Plain.trim_essence {m : MediaType} (h : Plain m) : trim m.essence = m.essence := by
  apply trim_of_tight
  have hboth := tight_around h.type.ne_nil h.type.tight h.subtype.ne_nil h.subtype.tight ['/']
  simpa [MediaType.essence] using hboth

theorem Plain.semicolon {m : MediaType} (h : Plain m) :
    ∀ part ∈ m.essence :: m.params.map shown, ';' ∉ part.toList := by
  rw [List.forall_mem_cons]
  refine ⟨?_, ?_⟩
  · have htype := h.type.not_mem (c := ';') (by decide)
    have hsubtype := h.subtype.not_mem (c := ';') (by decide)
    simp [MediaType.essence, htype, hsubtype]
  · intro part hpart
    obtain ⟨p, hp, rfl⟩ := List.mem_map.mp hpart
    simp [shown, (h.key p hp).semicolon, (h.value p hp).semicolon]

/-- The text of a media type is always readable, and everything but the values comes back as it
was. -/
theorem Plain.parse?_text {m : MediaType} (h : Plain m) : MediaType.parse? m.text =
    some { m with params := m.params.map fun (k, v) => (k, reread v) } := by
  have hsplit : (split ';' m.text).map trim = m.essence :: (m.params.map shown).map trim := by
    rw [text_eq, split_join (List.cons_ne_nil _ _) h.semicolon, List.map_cons, h.trim_essence]
  have hcut : cut? '/' m.essence = some (m.type, m.subtype) :=
    cut?_eq_some_iff.mpr ⟨rfl, h.type.not_mem (by decide)⟩
  have hparams : ((m.params.map shown).map trim).filterMap MediaType.param? =
      m.params.map fun (k, v) => (k, reread v) := by
    rw [filterMap_trim, List.filterMap_map, List.filterMap_eq_map_iff_forall_eq_some]
    rintro ⟨k, v⟩ hp
    rw [Function.comp_apply, param?_shown (h.key _ hp)]
  refine (parse?_iff hsplit _).mpr
    ⟨m.type, m.subtype, hcut, h.type, h.subtype, h.wildcard, ?_⟩
  rw [hparams, (h.ascending.map reread).ofList_eq, trim_of_tight h.type.tight,
    trim_of_tight h.subtype.tight, h.type.settled, h.subtype.settled]

theorem Value.reread_eq_self_iff {v : String} (h : Value v) : reread v = v ↔ Tight v.toList := by
  constructor
  · intro heq
    have hstrip : v.toList.Sublist (trimChars v.toList) := by
      conv => lhs; rw [← heq, reread, toList_stripChar, toList_trim]
      exact (infix_stripChars _ _).sublist
    have htrim : (trimChars v.toList).Sublist v.toList := (infix_stripChars isBlank _).sublist
    rw [hstrip.antisymm htrim]
    exact tight_trimChars v.toList
  · intro htight
    rw [reread, trim_of_tight htight, ← String.toList_inj, toList_stripChar,
      stripChars_of_clean h.unquoted]

theorem Plain.reread_eq_self_iff {m : MediaType} (h : Plain m) :
    { m with params := m.params.map fun (k, v) => (k, reread v) } = m ↔
      ∀ p ∈ m.params, Tight p.2.toList := by
  have hvalues : (m.params.map fun (k, v) => (k, reread v)) = m.params.map id ↔
      ∀ p ∈ m.params, Tight p.2.toList := by
    rw [List.map_inj_left]
    refine forall₂_congr fun p hp => ?_
    rw [← (h.value p hp).reread_eq_self_iff, id, Prod.ext_iff]
    exact and_iff_right rfl
  rw [← hvalues, List.map_id]
  constructor
  · intro heq
    exact congrArg MediaType.params heq
  · intro heq
    rw [heq]

/-- What is read as a media type can be read again from its text. Only values can change, and it is
the same media type exactly when none of them begins or ends with white space. -/
theorem read_again_iff {s : String} {m : MediaType} (h : MediaType.parse? s = some m) :
    MediaType.parse? m.text =
      some { m with params := m.params.map fun (k, v) => (k, reread v) } ∧
    (MediaType.parse? m.text = some m ↔ ∀ p ∈ m.params, Tight p.2.toList) := by
  have hplain := plain_of_parse? h
  refine ⟨hplain.parse?_text, ?_⟩
  rw [hplain.parse?_text, Option.some.injEq, hplain.reread_eq_self_iff]

/-- A media type whose value is tight. -/
def jsonText : MediaType :=
  ⟨"application", "json", [("charset", "utf-8")]⟩

/-- Capitals, quotes and a quality are gone from the text, and it is the same media type. -/
theorem jsonText_read_again :
    MediaType.parse? "Application/JSON; Charset=\"utf-8\"; q=0.5" = some jsonText ∧
    jsonText.text = "application/json; charset=utf-8" ∧
    MediaType.parse? jsonText.text = some jsonText := by
  have hread : MediaType.parse? "Application/JSON; Charset=\"utf-8\"; q=0.5" = some jsonText := by
    decide
  have htight : ∀ p ∈ jsonText.params, Tight p.2.toList := by
    intro p hp
    obtain rfl := List.mem_singleton.mp hp
    have htoken : MediaType.isToken "utf-8" = true := by decide
    exact tight_of_all fun c hc => isBlank_of_isTokenChar ((isToken_iff.mp htoken).2 c hc)
  exact ⟨hread, by decide, (read_again_iff hread).2.mpr htight⟩

/-- A media type whose value is kept apart from its quotes by spaces. -/
def spacedOut : MediaType :=
  ⟨"a", "b", [("k", " x ")]⟩

/-- The spaces within the quotes are lost, since the text shows them without quotes. -/
theorem spacedOut_lost :
    MediaType.parse? "a/b; k=\" x \"" = some spacedOut ∧ spacedOut.text = "a/b; k= x " ∧
    MediaType.parse? spacedOut.text = some ⟨"a", "b", [("k", "x")]⟩ ∧
    MediaType.parse? spacedOut.text ≠ some spacedOut := by
  decide

end Switchboard.Proofs.MediaTypeTexts
