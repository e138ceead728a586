import Mathlib.Data.List.Nodup
import Switchboard.Proofs.Scalars

/-!
An environment may list its variables in any order. They are applied by ascending property, so the
variable of a section comes before those of the properties in it, and these stay.
-/

namespace Switchboard.Proofs.Enumerations
open Switchboard.Tree Config Text Histories Variables Overrides Scalars

/-- The property that a variable sets, if it sets one. -/
def propertyOf? (lead : Option String) (name : String) : Option String :=
  (variableRest? lead name).map Property.ofVariable

/-- The properties that an environment sets, in its own order. -/
def propertiesOf (lead : Option String) (environment : Environment) : List String :=
  environment.filterMap fun v => propertyOf? lead v.1

/-- A property with all its names. -/
def Named (property : String) : Prop :=
  "" ∉ split '.' property

instance : DecidablePred Named := fun property =>
  inferInstanceAs (Decidable ("" ∉ split '.' property))

/-- A property in the section that another one names. -/
def Within (inner outer : String) : Prop :=
  Property.parts outer <+: Property.parts inner ∧ Property.parts outer ≠ Property.parts inner

theorem settingOf?_eq_some_iff {lead : Option String} {v : String × String}
    {setting : String × Tree} : settingOf? lead v = some setting ↔
      setting.1 ∈ propertyOf? lead v.1 ∧ setting.2 = .ofScalar v.2 := by
  obtain ⟨property, value⟩ := setting
  simp only [settingOf?, propertyOf?, Option.map_eq_some_iff, Option.mem_def, Prod.mk.injEq]
  constructor
  · rintro ⟨rest, hrest, rfl, rfl⟩
    exact ⟨⟨rest, hrest, rfl⟩, rfl⟩
  · rintro ⟨⟨rest, hrest, rfl⟩, rfl⟩
    exact ⟨rest, hrest, rfl, rfl⟩

theorem map_fst_settings (lead : Option String) (environment : Environment) :
    (environment.filterMap (settingOf? lead)).map (·.1) = propertiesOf lead environment := by
  rw [List.map_filterMap]
  refine List.filterMap_congr fun v _ => ?_
  simp [settingOf?, propertyOf?, Function.comp_def]

theorem settingsOf_perm_settings (lead : Option String) (environment : Environment) :
    (settingsOf lead environment).Perm (environment.filterMap (settingOf? lead)) :=
  List.mergeSort_perm _ _

theorem mem_propertiesOf {lead : Option String} {environment : Environment} {property : String} :
    property ∈ propertiesOf lead environment ↔
      ∃ s ∈ settingsOf lead environment, s.1 = property := by
  rw [← map_fst_settings, List.mem_map]
  simp only [(settingsOf_perm_settings lead environment).mem_iff]

/-- A path through a property begins as the property does, character by character. -/
theorem le_of_leads {property other : String} (hproperty : Named property)
    (hother : Named other) (h : Property.parts property <+: Property.parts other) :
    property ≤ other := by
  rw [parts_eq_split hproperty, parts_eq_split hother] at h
  have hjoined : ∀ s : String, ['.'].intercalate (s.toList.splitOn '.') = s.toList :=
    fun _ => List.intercalate_splitOn '.'
  have hpieces : property.toList.splitOn '.' <+: other.toList.splitOn '.' := by
    simpa [split, Function.comp_def] using h.map String.toList
  obtain ⟨rest, hrest⟩ := hpieces
  obtain ⟨p, ps, hps⟩ := List.exists_cons_of_ne_nil (List.splitOn_ne_nil '.' property.toList)
  rw [← String.not_lt, String.lt_iff, List.not_lt]
  refine List.IsPrefix.le ⟨rest.flatMap ('.' :: ·), ?_⟩
  rw [← hjoined property, ← hjoined other, ← hrest, hps, List.cons_append,
    intercalate_cons, intercalate_cons, List.flatMap_append,
    List.append_assoc]

section
variable {lead : Option String} {environment : Environment}

theorem settingsOf_ascending : (settingsOf lead environment).Pairwise fun r s => r.1 ≤ s.1 := by
  have hsorted : (settingsOf lead environment).Pairwise fun r s => decide (r.1 ≤ s.1) = true := by
    refine List.pairwise_mergeSort (fun a b c hab hbc => ?_) (fun a b => ?_) _
    · exact decide_eq_true (String.le_trans (of_decide_eq_true hab) (of_decide_eq_true hbc))
    · simpa using String.le_total a.1 b.1
  exact hsorted.imp of_decide_eq_true

variable (hdistinct : (propertiesOf lead environment).Nodup)
include hdistinct

theorem settingsOf_distinct : ((settingsOf lead environment).map (·.1)).Nodup := by
  rw [((settingsOf_perm_settings lead environment).map _).nodup_iff, map_fst_settings]
  exact hdistinct

/-- However the variables are listed, the settings come in one order. -/
theorem settingsOf_eq_of_perm {enumerated : Environment} (h : enumerated.Perm environment) :
    settingsOf lead enumerated = settingsOf lead environment := by
  have hperm : (settingsOf lead enumerated).Perm (settingsOf lead environment) :=
    (settingsOf_perm_settings lead enumerated).trans
      ((h.filterMap (settingOf? lead)).trans (settingsOf_perm_settings lead environment).symm)
  -- equal properties would leave the order to the listing, since the sort is stable
  refine hperm.eq_of_pairwise ?_ settingsOf_ascending settingsOf_ascending
  intro r s hr hs hrs hsr
  exact List.inj_on_of_nodup_map (settingsOf_distinct hdistinct) (hperm.mem_iff.mp hr) hs
    (String.le_antisymm hrs hsr)

variable (hnamed : ∀ property ∈ propertiesOf lead environment, Named property)
include hnamed

/-- No property leads to one that comes before it. -/
theorem settingsOf_forward : (settingsOf lead environment).Pairwise fun r s =>
    ¬Property.parts s.1 <+: Property.parts r.1 := by
  have hall : ∀ s ∈ settingsOf lead environment, Named s.1 := fun s hs =>
    hnamed s.1 (mem_propertiesOf.mpr ⟨s, hs, rfl⟩)
  have hne := List.pairwise_map.mp (settingsOf_distinct hdistinct)
  refine (settingsOf_ascending.and hne).imp_of_mem fun {r s} hr hs h hleads => ?_
  exact h.2 (String.le_antisymm h.1 (le_of_leads (hall s hs) (hall r hr) hleads))

end

section
variable {settings : List (String × Tree)}
  (hforward : settings.Pairwise fun r s => ¬Property.parts s.1 <+: Property.parts r.1)
include hforward

/-- A property that holds no other one keeps its value. -/
theorem at?_applySettings_innermost {key : String} {value : Tree} (hk : Property.parts key ≠ [])
    (hm : (key, value) ∈ settings) (h : ∀ s ∈ settings, ¬Within s.1 key) (t : Tree) :
    (applySettings settings t).at? (Property.parts key) = some value := by
  obtain ⟨before, after, rfl⟩ := List.append_of_mem hm
  obtain ⟨-, hrest, -⟩ := List.pairwise_append.mp hforward
  -- what is set later neither leads to the property nor lies in it
  have hquiet : Undisturbed key value ((key, value) :: after) := by
    intro s hs
    rcases List.mem_cons.mp hs with rfl | hlater
    · exact .inl rfl
    · have hnot := (List.pairwise_cons.mp hrest).1 s hlater
      refine .inr ⟨hnot, fun hleads => h s (List.mem_append_right before hs) ⟨hleads, ?_⟩⟩
      exact fun he => hnot (he ▸ List.prefix_rfl)
  unfold applySettings
  rw [List.foldl_append]
  exact at?_applySettings hk List.mem_cons_self hquiet _

/-- Above what is set stand records. -/
theorem at?_applySettings_above {s : String × Tree} (hs : s ∈ settings) {path : List String}
    (hpath : path <+: Property.parts s.1) (hne : path ≠ Property.parts s.1) (t : Tree) :
    ∃ u, (applySettings settings t).at? path = some u ∧ u.isRecord = true := by
  unfold applySettings
  induction settings using List.reverseRecOn with
  | nil => cases hs
  | append_singleton before last ih =>
    rw [List.foldl_append, List.foldl_cons, List.foldl_nil]
    obtain ⟨hbefore, -, hlast⟩ := List.pairwise_append.mp hforward
    rcases List.mem_append.mp hs with hs | hs
    · have hnot := hlast s hs last (List.mem_singleton_self last)
      by_cases hp : path <+: Property.parts last.1
      · refine at?_insertAt_above _ _ hp ?_
        rintro rfl
        exact hnot hpath
      · rw [at?_insertAt_elsewhere _ _ hp fun hl => hnot (hl.trans hpath)]
        exact ih hbefore hs
    · obtain rfl := List.mem_singleton.mp hs
      exact at?_insertAt_above _ _ hpath hne

end

/-- The order in which an environment lists its variables does not matter, and the value of a
variable is found again unless the variable is for a section that holds the property of another. -/
theorem enumeration_irrelevant {s : Store} {environment : Environment}
    (hnamed : ∀ property ∈ propertiesOf s.lead environment, Named property)
    (hdistinct : (propertiesOf s.lead environment).Nodup) :
    (∀ enumerated : Environment, enumerated.Perm environment →
      s.loadEnvironment enumerated = s.loadEnvironment environment) ∧
    ∀ v ∈ environment, ∀ property ∈ propertyOf? s.lead v.1,
      ((s.loadEnvironment environment).lookup? property = some (.ofScalar v.2) ↔
        ∀ other ∈ propertiesOf s.lead environment, ¬Within other property) := by
  have hforward := settingsOf_forward hdistinct hnamed
  refine ⟨fun enumerated h => ?_, fun v hv property hproperty => ?_⟩
  · rw [Store.loadEnvironment, settingsOf_eq_of_perm hdistinct h, Store.loadEnvironment]
  have hm : (property, Tree.ofScalar v.2) ∈ settingsOf s.lead environment :=
    mem_settingsOf.mpr ⟨v, hv, settingOf?_eq_some_iff.mpr ⟨hproperty, rfl⟩⟩
  constructor
  · intro hvalue other hother hwithin
    obtain ⟨r, hr, rfl⟩ := mem_propertiesOf.mp hother
    obtain ⟨u, hu, hrecord⟩ :=
      at?_applySettings_above hforward hr hwithin.1 hwithin.2 s.root
    obtain rfl := Option.some.inj (hu.symm.trans hvalue)
    rw [isRecord_ofScalar] at hrecord
    cases hrecord
  · intro h
    have hname := hnamed property (mem_propertiesOf.mpr ⟨_, hm, rfl⟩)
    refine at?_applySettings_innermost hforward (parts_ne_nil hname) hm (fun r hr => ?_) s.root
    exact h r.1 (mem_propertiesOf.mpr ⟨r, hr, rfl⟩)

/-- Variables for a section, for a property in it and for one whose name goes on with a dash, which
stands before the dot in the order of characters. -/
def sections : Environment :=
  [("TRELLIS_ROUTER__ENABLED", "true"), ("HOME", "/"), ("TRELLIS_ROUTER_HOST", "edge"),
    ("TRELLIS_ROUTER", "1")]

theorem section_gives_way :
    (∀ property ∈ propertiesOf prior.lead sections, Named property) ∧
    (propertiesOf prior.lead sections).Nodup ∧
    prior.loadEnvironment sections.reverse = prior.loadEnvironment sections ∧
    (prior.loadEnvironment sections).lookup? "router.enabled" = some (.bool true) ∧
    (prior.loadEnvironment sections).lookup? "router" ≠ some (.whole 1) := by
  have hproperties : propertiesOf prior.lead sections =
      ["router.enabled", "router-host", "router"] := by decide +kernel
  have hnamed : ∀ property ∈ propertiesOf prior.lead sections, Named property := by
    rw [hproperties]
    decide +kernel
  have hdistinct : (propertiesOf prior.lead sections).Nodup := by
    rw [hproperties]
    decide
  obtain ⟨horder, hvalue⟩ := enumeration_irrelevant hnamed hdistinct
  refine ⟨hnamed, hdistinct, horder _ (List.reverse_perm _), ?_, ?_⟩
  · have hread := hvalue ("TRELLIS_ROUTER__ENABLED", "true") (by decide) "router.enabled"
      (by decide +kernel)
    exact hread.mpr (by rw [hproperties]; unfold Within; decide +kernel)
  · have hread := hvalue ("TRELLIS_ROUTER", "1") (by decide) "router" (by decide +kernel)
    have hscalar : Tree.ofScalar "1" = .whole 1 := by decide +kernel
    rw [← hscalar, ne_eq, hread, hproperties]
    unfold Within
    decide +kernel

end Switchboard.Proofs.Enumerations
