import Switchboard.Proofs.Decimals
import Switchboard.Proofs.Overrides
import Switchboard.Version.Rules

namespace Switchboard.Proofs.Scalars
open Switchboard.Tree
open Number Config Version Decimals Histories Overrides Variables

/-- The text that is printed for a text. -/
def reprinted (raw : String) : String :=
  match int64? raw with
  | some n => toString n
  | none => raw

/-- A sign or a zero in front that an integer does not print. -/
inductive Adorned : List Char → Prop where
  | plus (cs : List Char) : Adorned ('+' :: cs)
  | minusZero (cs : List Char) : Adorned ('-' :: '0' :: cs)
  | zero (c : Char) (cs : List Char) : Adorned ('0' :: c :: cs)

/-- How an integer is written. -/
inductive Writes : List Char → Int → Prop where
  | plus {ds : List Char} {n : Nat} (h : natural? ds = some n) : Writes ('+' :: ds) n
  | minus {ds : List Char} {n : Nat} (h : natural? ds = some n) : Writes ('-' :: ds) (-n)
  | plain {ds : List Char} {n : Nat} (h : natural? ds = some n) : Writes ds n

theorem of_int64? {raw : String} {n : Int} (h : int64? raw = some n) :
    Writes raw.toList n ∧ n < Int.pow 2 63 := by
  obtain ⟨hvalue, hrange⟩ := Option.filter_eq_some_iff.mp h
  have hmost : n ≤ Int.pow 2 63 - 1 := of_decide_eq_true (Bool.and_eq_true_iff.mp hrange).2
  refine ⟨?_, by omega⟩
  split at hvalue
  · next ds hraw =>
    obtain ⟨m, hm, rfl⟩ := Option.map_eq_some_iff.mp hvalue
    exact hraw ▸ .plus hm
  · next ds hraw =>
    rw [if_pos (by decide)] at hvalue
    obtain ⟨_, hcast, rfl⟩ := Option.map_eq_some_iff.mp hvalue
    obtain ⟨m, hm, he⟩ := Option.bind_eq_some_iff.mp hcast
    obtain rfl := Option.some.inj he
    exact hraw ▸ .minus hm
  · obtain ⟨m, hm, rfl⟩ := Option.map_eq_some_iff.mp hvalue
    exact .plain hm

theorem eq_ofDigitChars {ds : List Char} {n : Nat} (h : natural? ds = some n) :
    n = Nat.ofDigitChars 10 ds 0 := by
  obtain ⟨hne, hdigits⟩ := of_natural? h
  rw [natural?_eq hne, ofDigits_eq hdigits] at h
  exact (Option.some.inj h).symm

/-- The digits of a number are written again unless a zero pads them. -/
theorem reprint_iff {ds : List Char} {n : Nat} (h : natural? ds = some n) :
    (toString n).toList = ds ↔ ¬Padded ds := by
  obtain ⟨hne, hdigits⟩ := of_natural? h
  rw [toList_toString, eq_ofDigitChars h, toDigits_ofDigitChars_iff hne hdigits]

theorem toString_neg {n : Nat} (h : n ≠ 0) : toString (-(n : Int)) = "-" ++ toString n := by
  obtain ⟨m, rfl⟩ := Nat.exists_eq_succ_of_ne_zero h
  rfl

/-- Behind a minus not even a single zero is written again. -/
theorem reprint_neg_iff {ds : List Char} {n : Nat} (h : natural? ds = some n) :
    (toString (-(n : Int))).toList = '-' :: ds ↔ '0' ∉ ds.head? := by
  obtain ⟨hne, hdigits⟩ := of_natural? h
  by_cases hn : n = 0
  · subst hn
    have htext : (toString (-((0 : Nat) : Int))).toList = ['0'] := rfl
    refine iff_of_false (fun he => absurd (htext.symm.trans he) (by simp)) fun hzero => ?_
    have hds := toDigits_ofDigitChars hne hdigits hzero
    rw [← eq_ofDigitChars h] at hds
    exact hzero (hds ▸ rfl)
  · have hminus : "-".toList = ['-'] := rfl
    rw [toString_neg hn, String.toList_append, hminus, List.singleton_append, List.cons_inj_right,
      reprint_iff h, not_iff_not]
    constructor
    · rintro ⟨c, more, rfl⟩
      rfl
    · intro hzero
      obtain ⟨more, rfl⟩ := List.head?_eq_some_iff.mp hzero
      cases more with
      | nil => exact absurd (Option.some.inj h).symm hn
      | cons c more => exact ⟨c, more, rfl⟩

theorem toString_writes_iff {cs : List Char} {n : Int} (h : Writes cs n) :
    (toString n).toList = cs ↔ ¬Adorned cs := by
  cases h with
  | plus h =>
    next ds n =>
    refine iff_of_false (fun he => ?_) (not_not_intro (.plus ds))
    exact absurd (isDigit_of_mem (n := n) (c := '+') (he ▸ List.mem_cons_self)) (by decide)
  | minus h =>
    rw [reprint_neg_iff h, not_iff_not]
    constructor
    · intro hzero
      obtain ⟨more, rfl⟩ := List.head?_eq_some_iff.mp hzero
      exact .minusZero more
    · rintro ⟨⟩
      rfl
  | plain h =>
    refine (reprint_iff h).trans (not_congr ⟨fun ⟨c, more, he⟩ => he ▸ .zero c more, ?_⟩)
    have hdigits := (of_natural? h).2
    rintro (_ | _ | ⟨c, more⟩)
    · exact absurd (hdigits '+' List.mem_cons_self) (by decide)
    · exact absurd (hdigits '-' List.mem_cons_self) (by decide)
    · exact ⟨c, more, rfl⟩

/-- Only an integer that its text adorns is printed otherwise. -/
theorem reprinted_eq_iff (raw : String) :
    reprinted raw = raw ↔ ¬((int64? raw).isSome ∧ Adorned raw.toList) := by
  unfold reprinted
  cases h : int64? raw with
  | none => simp
  | some n =>
    rw [← String.toList_inj, toString_writes_iff (of_int64? h).1]
    simp

theorem scalarText?_ofScalar (raw : String) :
    scalarText? (.ofScalar raw) = some (reprinted raw) := by
  unfold Tree.ofScalar
  by_cases htrue : raw = "true"
  · subst htrue
    decide
  by_cases hfalse : raw = "false"
  · subst hfalse
    decide
  rw [if_neg htrue, if_neg hfalse, reprinted]
  cases h : int64? raw with
  | none => rfl
  | some n => exact congrArg some (if_pos (of_int64? h).2)

theorem readTexts_ofScalar (raw : String) : readTexts (.ofScalar raw) = .ok [reprinted raw] := by
  unfold readTexts
  simp only [scalarText?_ofScalar]

theorem readOptionalText_ofScalar (raw : String) :
    readOptionalText (.ofScalar raw) = .ok (some (reprinted raw)) := by
  have hscalar : readScalar (.ofScalar raw) = .ok (reprinted raw) := by
    rw [readScalar, scalarText?_ofScalar]
  have hnull : Tree.ofScalar raw ≠ .null := by
    intro he
    have htext := scalarText?_ofScalar raw
    rw [he] at htext
    cases htext
  unfold readOptionalText readOption
  split
  · next he => exact absurd he hnull
  · rw [hscalar]
    rfl

/-- A rule that a text gives. -/
inductive TextRule where
  | defaultVersion
  | headerNames
  | parameterNames
deriving Repr, DecidableEq

namespace TextRule

def name : TextRule → String
  | .defaultVersion => "default-version"
  | .headerNames => "header-names"
  | .parameterNames => "parameter-names"

def property (rule : TextRule) : String :=
  "router.versioning." ++ rule.name

/-- Rules of which one is given, as the only name where there may be several. -/
def give (rule : TextRule) (text : String) (r : Rules) : Rules :=
  match rule with
  | .defaultVersion => { r with defaultVersion := some text }
  | .headerNames => { r with headerNames := [text] }
  | .parameterNames => { r with parameterNames := [text] }

/-- What a store has in the section beside a rule. -/
def others (rule : TextRule) (s : Store) : Tree :=
  .record (((s.lookup? "router.versioning").getD .empty).fields.filter (·.1 ≠ rule.name))

end TextRule

section
variable (rule : TextRule) (raw text : String) (r : Rules)

theorem parts_property :
    Property.parts rule.property = Property.parts "router.versioning" ++ [rule.name] := by
  cases rule <;> decide +kernel

theorem isKebab_property : IsKebab rule.property := by
  cases rule <;> decide +kernel

theorem setNamed_rule : FieldReader.setNamed Rules.schema r (rule.name, .ofScalar raw) =
    .ok (rule.give (reprinted raw) r) := by
  cases rule with
  | defaultVersion =>
    simp [FieldReader.setNamed, Rules.schema, TextRule.name, TextRule.give,
      readOptionalText_ofScalar, bind, Except.bind, pure, Except.pure]
  | headerNames =>
    simp [FieldReader.setNamed, Rules.schema, TextRule.name, TextRule.give,
      readTexts_ofScalar, bind, Except.bind, pure, Except.pure]
  | parameterNames =>
    simp [FieldReader.setNamed, Rules.schema, TextRule.name, TextRule.give,
      readTexts_ofScalar, bind, Except.bind, pure, Except.pure]

/-- Setting another rule does not depend on this one, and leaves it as it is. -/
theorem set_give {f : FieldReader Rules} (hf : f ∈ Rules.schema) (h : f.name ≠ rule.name)
    (t : Tree) : f.set (rule.give text r) t = (f.set r t).map (rule.give text) := by
  simp only [Rules.schema, List.mem_cons, List.not_mem_nil, or_false] at hf
  rcases hf with rfl | rfl | rfl | rfl
  · cases rule <;> dsimp only [TextRule.give] <;> cases readBool t <;> rfl
  · cases rule with
    | defaultVersion => exact absurd rfl h
    | _ =>
      dsimp only [TextRule.give]
      cases readOptionalText t <;> rfl
  · cases rule with
    | headerNames => exact absurd rfl h
    | _ =>
      dsimp only [TextRule.give]
      cases readTexts t <;> rfl
  · cases rule with
    | parameterNames => exact absurd rfl h
    | _ =>
      dsimp only [TextRule.give]
      cases readTexts t <;> rfl

theorem setNamed_give {entry : String × Tree} (h : entry.1 ≠ rule.name) :
    FieldReader.setNamed Rules.schema (rule.give text r) entry =
      (FieldReader.setNamed Rules.schema r entry).map (rule.give text) := by
  unfold FieldReader.setNamed
  cases hf : Rules.schema.find? (·.name = entry.1) with
  | none => rfl
  | some f =>
    have hname : f.name = entry.1 := by simpa using List.find?_some hf
    exact set_give rule text r (List.mem_of_find?_eq_some hf) (hname ▸ h) entry.2

theorem foldlM_give {entries : List (String × Tree)} (h : ∀ e ∈ entries, e.1 ≠ rule.name) :
    entries.foldlM (FieldReader.setNamed Rules.schema) (rule.give text r) =
      (entries.foldlM (FieldReader.setNamed Rules.schema) r).map (rule.give text) := by
  induction entries generalizing r with
  | nil => rfl
  | cons e entries ih =>
    obtain ⟨he, hrest⟩ := List.forall_mem_cons.mp h
    rw [List.foldlM_cons, List.foldlM_cons, setNamed_give rule text r he]
    cases FieldReader.setNamed Rules.schema r e with
    | error cause => rfl
    | ok next => exact ih next hrest

/-- No rule is asked for, so reading rules is setting them one by one. -/
theorem ofTree_record (entries : List (String × Tree)) : Rules.ofTree (.record entries) =
    entries.foldlM (FieldReader.setNamed Rules.schema) .standard := by
  rw [Rules.ofTree, FieldReader.readStruct_record,
    FieldReader.readRecord_eq_foldlM (by simp [Rules.schema])]

/-- The entries before and after a rule are the others. -/
theorem ofTree_given {entries : List (String × Tree)} (hentries : Fields.Ascending entries)
    (h : Fields.find? rule.name entries = some (.ofScalar raw)) :
    Rules.ofTree (.record entries) =
      (Rules.ofTree (.record (entries.filter (·.1 ≠ rule.name)))).map
        (rule.give (reprinted raw)) := by
  obtain ⟨before, after, rfl⟩ := List.append_of_mem (Fields.mem_of_find? h)
  obtain ⟨-, hafter, hbefore⟩ := List.pairwise_append.mp hentries
  have hbefore : ∀ e ∈ before, e.1 ≠ rule.name := fun e he hname =>
    String.lt_irrefl _ (hname ▸ hbefore e he _ List.mem_cons_self)
  have hafter : ∀ e ∈ after, e.1 ≠ rule.name := fun e he hname =>
    String.lt_irrefl _ (hname ▸ (List.pairwise_cons.mp hafter).1 e he)
  have hothers : (before ++ (rule.name, Tree.ofScalar raw) :: after).filter (·.1 ≠ rule.name) =
      before ++ after := by
    rw [List.filter_append, List.filter_cons_of_neg (by simp),
      List.filter_eq_self.mpr fun e he => decide_eq_true (hbefore e he),
      List.filter_eq_self.mpr fun e he => decide_eq_true (hafter e he)]
  rw [hothers, ofTree_record, ofTree_record, List.foldlM_append, List.foldlM_append]
  cases before.foldlM (FieldReader.setNamed Rules.schema) .standard with
  | error cause => rfl
  | ok r =>
    simp only [bind, Except.bind, List.foldlM_cons, setNamed_rule]
    exact foldlM_give rule _ r hafter

end

/-- No other setting disturbs this one: they all set the same, or something apart. -/
def Undisturbed (key : String) (value : Tree) (settings : List (String × Tree)) : Prop :=
  ∀ e ∈ settings, e = (key, value) ∨ Apart (Property.parts e.1) (Property.parts key)

theorem at?_applySettings {key : String} {value : Tree} (hk : Property.parts key ≠ [])
    {settings : List (String × Tree)} (hm : (key, value) ∈ settings)
    (h : Undisturbed key value settings) (t : Tree) :
    (applySettings settings t).at? (Property.parts key) = some value := by
  unfold applySettings
  induction settings using List.reverseRecOn with
  | nil => cases hm
  | append_singleton before last ih =>
    rw [List.foldl_append, List.foldl_cons, List.foldl_nil]
    obtain ⟨hbefore, hlast⟩ := List.forall_mem_append.mp h
    rcases hlast last (List.mem_singleton_self last) with rfl | hapart
    · have hhere := at?_insertAt_append value
        (before.foldl (fun t e => Tree.insertAt e.2 (Property.parts e.1) t) t) hk []
      rwa [List.append_nil] at hhere
    · rw [at?_insertAt_elsewhere _ _ hapart.2 hapart.1]
      refine ih ?_ hbefore
      rcases List.mem_append.mp hm with hm | hm
      · exact hm
      · obtain rfl := List.mem_singleton.mp hm
        exact absurd List.prefix_rfl hapart.1

/-- A store in which a text has come to a rule. -/
structure Arrives (rule : TextRule) (raw : String) (s : Store) : Prop where
  value : s.lookup? rule.property = some (.ofScalar raw)
  /-- The section is read as its other rules are, with the text for this one. -/
  rules : s.getSection Rules.ofTree "router.versioning" =
    ((Rules.ofTree (rule.others s)).map (rule.give (reprinted raw))).mapError
      (.mismatch "router.versioning")

theorem at?_append (t : Tree) (path rest : List String) :
    t.at? (path ++ rest) = (t.at? path).bind (·.at? rest) := by
  induction path generalizing t with
  | nil => rfl
  | cons name path ih =>
    rw [List.cons_append, at?_cons, at?_cons, Option.bind_assoc]
    exact Option.bind_congr fun u _ => ih u

section
variable {rule : TextRule} {raw : String} {s : Store}

theorem arrives_of_value (hs : TidyRecord s.root)
    (h : s.lookup? rule.property = some (.ofScalar raw)) : Arrives rule raw s := by
  have hpath := h
  rw [Store.lookup?, parts_property, at?_append, Option.bind_eq_some_iff] at hpath
  obtain ⟨u, hu, hfind⟩ := hpath
  rw [at?_singleton] at hfind
  have hrecord : u.isRecord = true := by
    by_contra hr
    rw [fields_of_not_record (Bool.eq_false_iff.mpr hr)] at hfind
    cases hfind
  have hsection : (s.lookup? "router.versioning").getD .empty = u := by
    rw [Store.lookup?, hu, Option.getD_some]
  refine ⟨h, ?_⟩
  rw [Store.getSection, Store.readAs, TextRule.others, hsection]
  conv => lhs; rw [eq_record hrecord]
  rw [ofTree_given rule raw (hs.tidy.at? hu).fields.1 hfind]

/-- From a variable. -/
theorem arrives_loadEnvironment (hs : TidyRecord s.root) {environment : Environment}
    (hm : (rule.property, Tree.ofScalar raw) ∈ settingsOf s.lead environment)
    (h : Undisturbed rule.property (.ofScalar raw) (settingsOf s.lead environment)) :
    Arrives rule raw (s.loadEnvironment environment) := by
  have htidy := Sources.applySettings_tidyRecord (Sources.settingsOf_tidy s.lead environment) hs
  exact arrives_of_value htidy (at?_applySettings (isKebab_property rule).parts_ne_nil hm h s.root)

/-- From a line, whatever the store had before. -/
theorem arrives_overlay (hs : TidyRecord s.root) {assigned : List (String × String)}
    (hm : (rule.property, Tree.ofScalar raw) ∈ assigned.map setting)
    (h : Undisturbed rule.property (.ofScalar raw) (assigned.map setting)) :
    Arrives rule raw (s.overlay (ofAssignments assigned)) := by
  have htidy := Sources.ofAssignments_tidyRecord assigned
  have hvalue : (ofAssignments assigned).at? (Property.parts rule.property) =
      some (.ofScalar raw) :=
    at?_applySettings (isKebab_property rule).parts_ne_nil hm h .empty
  refine arrives_of_value (overlay_tidyRecord hs htidy) ?_
  refine (Overlay.at?_merge htidy.tidy _ s.root).trans ?_
  rw [Overlay.explore_eq_value hvalue]
  cases s.root.at? (Property.parts rule.property) with
  | none => rfl
  | some b => exact congrArg some (Overlay.merge_of_not_record (isRecord_ofScalar raw) b)

end

/-- A text that a variable or a line of a file gives for a version or a name is printed again as it
is, unless it writes an integer that it adorns with a sign or a zero; then the integer is printed.
In either case that comes to the rules. -/
theorem text_arrives (rule : TextRule) (raw : String) {s : Store} (hs : Reached s) :
    readOptionalText (.ofScalar raw) = .ok (some (reprinted raw)) ∧
    readTexts (.ofScalar raw) = .ok [reprinted raw] ∧
    (∀ lead environment, s.lead = some lead →
      (lead ++ "_" ++ variableOf rule.property, raw) ∈ environment →
      Undisturbed rule.property (.ofScalar raw) (settingsOf (some lead) environment) →
      Arrives rule raw (s.loadEnvironment environment)) ∧
    (∀ served content assigned, Dotenv.read? served content = some assigned →
      (variableOf rule.property, raw) ∈ assigned →
      Undisturbed rule.property (.ofScalar raw) (assigned.map setting) →
      ∃ t, s.loadText served .env content = .ok t ∧ Arrives rule raw t) ∧
    (reprinted raw = raw ↔ ¬((int64? raw).isSome ∧ Adorned raw.toList)) := by
  refine ⟨readOptionalText_ofScalar raw, readTexts_ofScalar raw, ?_, ?_, reprinted_eq_iff raw⟩
  · intro lead environment hlead hm h
    have hsetting := settingOf?_variableOf (isKebab_property rule) lead raw
    refine arrives_loadEnvironment hs.tidyRecord ?_ (hlead ▸ h)
    rw [hlead, mem_settingsOf]
    exact ⟨_, hm, hsetting⟩
  · intro served content assigned hread hm h
    refine ⟨s.overlay (ofAssignments assigned), ?_, arrives_overlay hs.tidyRecord ?_ h⟩
    · simp only [Store.loadText, parseText, hread, Except.map]
    · refine List.mem_map.mpr ⟨_, hm, ?_⟩
      rw [setting, ofVariable_variableOf (isKebab_property rule)]

/-- A decimal stands for no integer. -/
theorem decimal_arrives :
    Reached (Store.withLead "TRELLIS") ∧
    ∃ environment, ("TRELLIS" ++ "_" ++ variableOf TextRule.defaultVersion.property, "2.0") ∈
        environment ∧
      Undisturbed TextRule.defaultVersion.property (.ofScalar "2.0")
        (settingsOf (some "TRELLIS") environment) ∧
      Arrives .defaultVersion "2.0" ((Store.withLead "TRELLIS").loadEnvironment environment) ∧
      reprinted "2.0" = "2.0" := by
  have hs : Reached (Store.withLead "TRELLIS") := ⟨some "TRELLIS", [], rfl⟩
  have hname : "TRELLIS" ++ "_" ++ variableOf TextRule.defaultVersion.property =
      "TRELLIS_ROUTER__VERSIONING__DEFAULT_VERSION" := by decide +kernel
  have hsettings : settingsOf (some "TRELLIS") [("HOME", "/"),
      ("TRELLIS_ROUTER__VERSIONING__DEFAULT_VERSION", "2.0")] =
      [(TextRule.defaultVersion.property, .ofScalar "2.0")] := by decide +kernel
  have hset : ("TRELLIS" ++ "_" ++ variableOf TextRule.defaultVersion.property, "2.0") ∈
      [("HOME", "/"), ("TRELLIS_ROUTER__VERSIONING__DEFAULT_VERSION", "2.0")] := by
    rw [hname]
    exact List.mem_cons_of_mem _ List.mem_cons_self
  have hundisturbed : Undisturbed TextRule.defaultVersion.property (.ofScalar "2.0")
      (settingsOf (some "TRELLIS") [("HOME", "/"),
        ("TRELLIS_ROUTER__VERSIONING__DEFAULT_VERSION", "2.0")]) := by
    rw [hsettings]
    exact fun e he => .inl (List.mem_singleton.mp he)
  obtain ⟨-, -, hvariable, -, hsame⟩ := text_arrives .defaultVersion "2.0" hs
  exact ⟨hs, _, hset, hundisturbed, hvariable "TRELLIS" _ rfl hset hundisturbed,
    hsame.mpr fun h => absurd h.1 (by decide)⟩

/-- The zero of `01` is lost on the way. -/
theorem zero_lost :
    readOptionalText (.ofScalar "01") = .ok (some "1") ∧
    readTexts (.ofScalar "01") = .ok ["1"] ∧
    (((Store.withLead "TRELLIS").loadEnvironment
      [("TRELLIS_ROUTER__VERSIONING__DEFAULT_VERSION", "01")]).getSection Rules.ofTree
        "router.versioning").toOption =
          some { Rules.standard with defaultVersion := some "1" } := by
  have hprinted : reprinted "01" = "1" := by decide +kernel
  refine ⟨?_, ?_, by decide +kernel⟩
  · rw [readOptionalText_ofScalar, hprinted]
  · rw [readTexts_ofScalar, hprinted]

end Switchboard.Proofs.Scalars
