import Switchboard.Proofs.Conventions
import Switchboard.Proofs.Pairs
import Switchboard.Proofs.Variables

/-!
Properties named in the kebab convention, and the variables that override them. A name between dots
holds single hyphens only, so its variable holds double underscores where the dots were and nowhere
else.
-/

namespace Switchboard.Proofs.Overrides
open Text Config Conventions LowerCase Pairs Histories

/-- Small letters and digits, one or more. -/
def IsWord (word : String) : Prop :=
  word ≠ "" ∧ ∀ c ∈ word.toList, IsSmall c

-- Given by hand, since the search may find an instance that goes through all characters there are.
instance : DecidablePred IsWord := fun word =>
  have : Decidable (∀ c ∈ word.toList, IsSmall c) := List.decidableBAll IsSmall word.toList
  inferInstanceAs (Decidable (_ ∧ _))

/-- Words with single hyphens between them, and dots between the names made of them. -/
def IsKebab (property : String) : Prop :=
  ∀ name ∈ split '.' property, ∀ word ∈ split '-' name, IsWord word

instance : DecidablePred IsKebab := fun property =>
  inferInstanceAs (Decidable (∀ name ∈ split '.' property, ∀ word ∈ split '-' name, IsWord word))

/-- A character of a name as the variable has it. -/
def capital (c : Char) : Char :=
  if c = '-' then '_' else c.toUpper

/-- A character of a property as the variable has it. -/
def variableChars (c : Char) : List Char :=
  if c = '.' then ['_', '_'] else [capital c]

/-- The name of a property as the variable has it. -/
def variableOf (property : String) : String :=
  String.ofList (property.toList.flatMap variableChars)

theorem piecesOfPairs_of_sparse {sep : Char} {cs : List Char} (h : Sparse sep cs) :
    piecesOfPairs sep cs = [cs] := by
  fun_induction piecesOfPairs sep cs with
  | case1 => rfl
  | case2 c => rfl
  | case3 c d cs hpair => exact absurd hpair (List.isChain_cons_cons.mp h).1
  | case4 c d cs _ hnone ih =>
    rw [ih (List.isChain_cons_cons.mp h).2] at hnone
    cases hnone
  | case5 c d cs _ p ps hsome ih =>
    rw [ih (List.isChain_cons_cons.mp h).2] at hsome
    obtain ⟨rfl, rfl⟩ := List.cons.inj hsome
    rfl

theorem piecesOfPairs_append {sep : Char} {cs : List Char} (h : Sparse sep (cs ++ [sep]))
    (ds : List Char) : piecesOfPairs sep (cs ++ sep :: sep :: ds) = cs :: piecesOfPairs sep ds := by
  induction cs with
  | nil => simp [piecesOfPairs]
  | cons c cs ih =>
    obtain ⟨hc, hcs⟩ := List.isChain_cons.mp h
    cases cs with
    | nil =>
      have hne : c ≠ sep := fun he => hc sep rfl ⟨he, rfl⟩
      simp [piecesOfPairs, hne]
    | cons d cs =>
      have hne : ¬(c = sep ∧ d = sep) := hc d rfl
      rw [List.cons_append, List.cons_append, piecesOfPairs, if_neg hne, ← List.cons_append, ih hcs]

theorem piecesOfPairs_intercalate {sep : Char} {parts : List (List Char)} (hne : parts ≠ [])
    (h : ∀ p ∈ parts, Firm sep p) : piecesOfPairs sep ([sep, sep].intercalate parts) = parts := by
  induction parts with
  | nil => exact absurd rfl hne
  | cons p rest ih =>
    obtain ⟨hp, hrest⟩ := List.forall_mem_cons.mp h
    cases rest with
    | nil => simpa using piecesOfPairs_of_sparse hp.sparse
    | cons q rest =>
      rw [List.intercalate_cons_cons, List.append_assoc, List.cons_append, List.singleton_append,
        piecesOfPairs_append hp.snoc, ih (List.cons_ne_nil q rest) hrest]

/-- What a character of a name is in the variable and behind it. -/
structure Spelled (c : Char) : Prop where
  notSigma : capital c ≠ 'Σ'
  readBack : (lower (capital c)).map Property.dashed = [c]
  notDot : c ≠ '.'

theorem spelled_of_isSmall {c : Char} (h : IsSmall c) : Spelled c := by
  have hall : capital c ≠ 'Σ' ∧ (lower (capital c)).map Property.dashed = [c] ∧ c ≠ '.' :=
    ascii_forall (P := fun c => IsSmall c → capital c ≠ 'Σ' ∧
      (lower (capital c)).map Property.dashed = [c] ∧ c ≠ '.') (by decide +kernel)
      (ascii_of_isSmall h) h
  exact ⟨hall.1, hall.2.1, hall.2.2⟩

theorem capital_of_isSmall {c : Char} (h : IsSmall c) : capital c ≠ '_' :=
  ascii_forall (P := fun c => IsSmall c → capital c ≠ '_') (by decide +kernel)
    (ascii_of_isSmall h) h

theorem spelled_hyphen : Spelled '-' := by
  constructor <;> decide

theorem lowerFrom_capitals {cs before : List Char} (h : ∀ c ∈ cs, Spelled c) :
    (lowerFrom before (cs.map capital)).map Property.dashed = cs := by
  induction cs generalizing before with
  | nil => rfl
  | cons c cs ih =>
    obtain ⟨hc, hcs⟩ := List.forall_mem_cons.mp h
    rw [List.map_cons, lowerFrom, if_neg hc.notSigma, List.map_append, hc.readBack, ih hcs]
    rfl

theorem partOfVariable_capitals {cs : List Char} (h : ∀ c ∈ cs, Spelled c) :
    Property.partOfVariable (cs.map capital) = String.ofList cs := by
  rw [Property.partOfVariable, toList_lowerText, String.toList_ofList, lowerFrom_capitals h]

/-- What the names of a property are made of. -/
structure IsName (cs : List Char) : Prop where
  spelled : ∀ c ∈ cs, Spelled c
  firm : Firm '_' (cs.map capital)
  nonempty : cs ≠ []

theorem isName_of_words {cs : List Char}
    (h : ∀ word ∈ cs.splitOn '-', word ≠ [] ∧ ∀ c ∈ word, IsSmall c) : IsName cs := by
  have hspelled : ∀ c ∈ cs, Spelled c := by
    intro c hc
    rcases eq_or_mem_splitOn '-' hc with rfl | ⟨word, hword, hmem⟩
    · exact spelled_hyphen
    · exact spelled_of_isSmall ((h word hword).2 c hmem)
  have hcapitals : cs.map capital = ['_'].intercalate ((cs.splitOn '-').map (·.map capital)) := by
    have hjoined : ['-'].intercalate (cs.splitOn '-') = cs := List.intercalate_splitOn '-'
    conv => lhs; rw [← hjoined]
    induction cs.splitOn '-' with
    | nil => rfl
    | cons p rest ih =>
      simp [intercalate_cons, List.map_flatMap, List.flatMap_map, capital]
  refine ⟨hspelled, ?_, ?_⟩
  · rw [hcapitals]
    refine firm_intercalate fun p hp => ?_
    obtain ⟨word, hword, rfl⟩ := List.mem_map.mp hp
    obtain ⟨hne, hsmall⟩ := h word hword
    refine ⟨by simpa using hne, fun hm => ?_⟩
    obtain ⟨c, hc, he⟩ := List.mem_map.mp hm
    exact capital_of_isSmall (hsmall c hc) he
  · rintro rfl
    exact (h [] (by simp)).1 rfl

theorem IsKebab.isName {property : String} (h : IsKebab property) :
    ∀ name ∈ property.toList.splitOn '.', IsName name := by
  intro name hname
  have hwords := h (String.ofList name) (List.mem_map_of_mem hname)
  refine isName_of_words fun word hword => ?_
  obtain ⟨hne, hsmall⟩ := hwords (String.ofList word) (by
    rw [split, String.toList_ofList]
    exact List.mem_map_of_mem hword)
  rw [String.toList_ofList] at hsmall
  refine ⟨?_, hsmall⟩
  rintro rfl
  exact hne rfl

theorem flatMap_variableChars {names : List (List Char)} (h : ∀ name ∈ names, IsName name) :
    (['.'].intercalate names).flatMap variableChars =
      ['_', '_'].intercalate (names.map (·.map capital)) := by
  have hname : ∀ name ∈ names, name.flatMap variableChars = name.map capital := by
    intro name hm
    rw [List.map_eq_flatMap]
    refine List.flatMap_congr fun c hc => ?_
    rw [variableChars, if_neg ((h name hm).spelled c hc).notDot]
  induction names with
  | nil => rfl
  | cons p rest ih =>
    obtain ⟨hp, hrest⟩ := List.forall_mem_cons.mp h
    obtain ⟨hhead, htail⟩ := List.forall_mem_cons.mp hname
    cases rest with
    | nil => simpa using hhead
    | cons q rest =>
      rw [List.intercalate_cons_cons, List.flatMap_append, List.flatMap_append, ih hrest htail,
        hhead, List.map_cons, List.map_cons, List.map_cons, List.intercalate_cons_cons]
      rfl

/-- The property of the variable is the one that it is named after. -/
theorem ofVariable_variableOf {property : String} (h : IsKebab property) :
    Property.ofVariable (variableOf property) = property := by
  have hnames := h.isName
  have hjoined : ['.'].intercalate (property.toList.splitOn '.') = property.toList :=
    List.intercalate_splitOn '.'
  have hpieces : piecesOfPairs '_' (property.toList.flatMap variableChars) =
      (property.toList.splitOn '.').map (·.map capital) := by
    conv => lhs; rw [← hjoined, flatMap_variableChars hnames]
    refine piecesOfPairs_intercalate (by simp) ?_
    intro p hp
    obtain ⟨name, hname, rfl⟩ := List.mem_map.mp hp
    exact (hnames name hname).firm
  have hparts : ((property.toList.splitOn '.').map (·.map capital)).map Property.partOfVariable =
      (property.toList.splitOn '.').map String.ofList := by
    rw [List.map_map]
    exact List.map_congr_left fun name hname => partOfVariable_capitals (hnames name hname).spelled
  rw [Property.ofVariable, variableOf, String.toList_ofList, hpieces, hparts, ← String.toList_inj,
    toList_join, List.map_map]
  simp

/-- Settings that are all of one value at one key set just that. -/
theorem isSet_applySettings (s : Store) {key : String} (hk : Property.parts key ≠ []) {value : Tree}
    {settings : List (String × Tree)} (hne : settings ≠ [])
    (hall : ∀ e ∈ settings, e = (key, value)) :
    IsSet s { s with root := applySettings settings s.root } key value := by
  induction settings generalizing s with
  | nil => exact absurd rfl hne
  | cons e rest ih =>
    obtain ⟨rfl, hrest⟩ := List.forall_mem_cons.mp hall
    have hfirst := set_isSet s hk value
    by_cases hlast : rest = []
    · subst hlast
      exact hfirst
    · have hlater := ih (s.set key value) hlast hrest
      exact { hlater with
        elsewhere := fun other ha hb =>
          (hlater.elsewhere other ha hb).trans (hfirst.elsewhere other ha hb) }

theorem mem_settingsOf {lead : Option String} {environment : Environment}
    {setting : String × Tree} :
    setting ∈ settingsOf lead environment ↔
      ∃ e ∈ environment, settingOf? lead e = some setting := by
  rw [settingsOf, List.mem_mergeSort, List.mem_filterMap]

/-- With `lead` a variable sets something just if it starts with `lead` and an underscore and goes
on after them. -/
theorem variableRest?_eq_some_iff {lead name rest : String} :
    variableRest? (some lead) name = some rest ↔ name = lead ++ "_" ++ rest ∧ rest ≠ "" := by
  simp only [variableRest?, Option.filter_eq_some_iff, Option.bind_eq_some_iff,
    after?_eq_some_iff, decide_eq_true_eq]
  refine and_congr_left' ?_
  constructor
  · rintro ⟨behind, rfl, rfl⟩
    exact String.append_assoc.symm
  · rintro rfl
    exact ⟨"_" ++ rest, String.append_assoc, rfl⟩

theorem IsKebab.parts_ne_nil {property : String} (h : IsKebab property) :
    Property.parts property ≠ [] := by
  refine Variables.parts_ne_nil fun hm => ?_
  obtain ⟨name, hname, he⟩ := List.mem_map.mp hm
  exact (h.isName name hname).nonempty (String.ofList_inj.mp (he.trans String.ofList_nil.symm))

/-- What a variable sets that is named after a property. -/
theorem settingOf?_variableOf {property : String} (h : IsKebab property) (lead raw : String) :
    settingOf? (some lead) (lead ++ "_" ++ variableOf property, raw) =
      some (property, Tree.ofScalar raw) := by
  have hne : variableOf property ≠ "" := by
    intro he
    have hparts := h.parts_ne_nil
    rw [← ofVariable_variableOf h, he] at hparts
    exact hparts (by decide)
  have hrest : variableRest? (some lead) (lead ++ "_" ++ variableOf property) =
      some (variableOf property) :=
    variableRest?_eq_some_iff.mpr ⟨rfl, hne⟩
  simp only [settingOf?, hrest, Option.map_some, ofVariable_variableOf h]

/-- A variable named after a property in the kebab convention sets this property and disturbs
nothing else, if no other variable starts as it does. -/
theorem kebab_overridden {s : Store} {lead property raw : String} {environment : Environment}
    (hlead : s.lead = some lead) (hproperty : IsKebab property)
    (hset : (lead ++ "_" ++ variableOf property, raw) ∈ environment)
    (honly : ∀ e ∈ environment, (lead ++ "_").toList <+: e.1.toList →
      e = (lead ++ "_" ++ variableOf property, raw)) :
    IsSet s (s.loadEnvironment environment) property (Tree.ofScalar raw) := by
  have hsetting := settingOf?_variableOf hproperty lead raw
  have hall : ∀ setting ∈ settingsOf s.lead environment,
      setting = (property, Tree.ofScalar raw) := by
    intro setting hm
    rw [hlead, mem_settingsOf] at hm
    obtain ⟨e, he, hsome⟩ := hm
    obtain ⟨rest, hread, -⟩ := Option.map_eq_some_iff.mp hsome
    have hprefix : (lead ++ "_").toList <+: e.1.toList := by
      rw [(variableRest?_eq_some_iff.mp hread).1]
      exact ⟨rest.toList, String.toList_append.symm⟩
    rw [honly e he hprefix] at hsome
    exact Option.some.inj (hsome.symm.trans hsetting)
  have hne : settingsOf s.lead environment ≠ [] := by
    refine List.ne_nil_of_mem (a := (property, Tree.ofScalar raw)) ?_
    rw [hlead, mem_settingsOf]
    exact ⟨_, hset, hsetting⟩
  exact isSet_applySettings s hproperty.parts_ne_nil hne hall

/-- A store where a number stands in the place of a section. -/
def prior : Store :=
  (Store.withLead "TRELLIS").set "router.versioning" (.whole 1)

def overriding : Environment :=
  [("HOME", "/"), ("TRELLIS_ROUTER__VERSIONING__DEFAULT_VERSION", "2"), ("USER", "edge")]

theorem default_version_overridden :
    prior.lead = some "TRELLIS" ∧ IsKebab "router.versioning.default-version" ∧
    ("TRELLIS" ++ "_" ++ variableOf "router.versioning.default-version", "2") ∈ overriding ∧
    (∀ e ∈ overriding, ("TRELLIS" ++ "_").toList <+: e.1.toList →
      e = ("TRELLIS" ++ "_" ++ variableOf "router.versioning.default-version", "2")) ∧
    IsSet prior (prior.loadEnvironment overriding) "router.versioning.default-version"
      (.whole 2) := by
  have hproperty : IsKebab "router.versioning.default-version" := by decide +kernel
  have hname : "TRELLIS" ++ "_" ++ variableOf "router.versioning.default-version" =
      "TRELLIS_ROUTER__VERSIONING__DEFAULT_VERSION" := by decide +kernel
  have hset : ("TRELLIS" ++ "_" ++ variableOf "router.versioning.default-version", "2") ∈
      overriding := by
    rw [hname]
    exact List.mem_cons_of_mem _ List.mem_cons_self
  have honly : ∀ e ∈ overriding, ("TRELLIS" ++ "_").toList <+: e.1.toList →
      e = ("TRELLIS" ++ "_" ++ variableOf "router.versioning.default-version", "2") := by
    rw [hname]
    decide +kernel
  have hscalar : Tree.ofScalar "2" = .whole 2 := by decide +kernel
  exact ⟨rfl, hproperty, hset, honly, hscalar ▸ kebab_overridden rfl hproperty hset honly⟩

end Switchboard.Proofs.Overrides
