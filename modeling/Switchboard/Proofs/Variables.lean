import Mathlib.Data.List.Basic
import Mathlib.Data.List.Induction
import Switchboard.Proofs.Histories

namespace Switchboard.Proofs.Variables
open Switchboard.Tree Config Histories

/-- Neither path leads through the other or to it. -/
def Apart (path other : List String) : Prop :=
  ¬path <+: other ∧ ¬other <+: path

instance (path other : List String) : Decidable (Apart path other) :=
  inferInstanceAs (Decidable (¬path <+: other ∧ ¬other <+: path))

/-- A tree that holds settings, records above them, and nothing else. -/
structure Holds (settings : List (String × Tree)) (t : Tree) : Prop where
  value : ∀ s ∈ settings, t.at? (Property.parts s.1) = some s.2
  above : ∀ s ∈ settings, ∀ path, path <+: Property.parts s.1 → path ≠ Property.parts s.1 →
    ∃ u, t.at? path = some u ∧ u.isRecord = true
  nothingElse : ∀ path u, path ≠ [] → t.at? path = some u →
    ∃ s ∈ settings, path <+: Property.parts s.1

/-- One more setting, whose value is no record and whose path is apart from all before. -/
theorem Holds.insertAt {settings : List (String × Tree)} {t : Tree} (h : Holds settings t)
    {s : String × Tree} (hs : Property.parts s.1 ≠ []) (hv : s.2.isRecord = false)
    (hapart : ∀ r ∈ settings, Apart (Property.parts r.1) (Property.parts s.1)) :
    Holds (settings ++ [s]) (Tree.insertAt s.2 (Property.parts s.1) t) := by
  have hother : ∀ r ∈ settings, ∀ path, path <+: Property.parts r.1 →
      ¬Property.parts s.1 <+: path := by
    intro r hr path hp hsp
    exact (hapart r hr).2 (hsp.trans hp)
  refine ⟨?_, ?_, ?_⟩
  · intro r hr
    rcases List.mem_append.mp hr with hr | hr
    · rw [at?_insertAt_elsewhere _ _ (hapart r hr).1 (hapart r hr).2, h.value r hr]
    · obtain rfl := List.mem_singleton.mp hr
      have hhere := at?_insertAt_append r.2 t hs []
      rwa [List.append_nil] at hhere
  · intro r hr path hp hne
    by_cases hps : path <+: Property.parts s.1
    · by_cases heq : path = Property.parts s.1
      · subst heq
        rcases List.mem_append.mp hr with hr | hr
        · exact absurd hp (hapart r hr).2
        · obtain rfl := List.mem_singleton.mp hr
          exact absurd rfl hne
      · exact at?_insertAt_above s.2 t hps heq
    · rcases List.mem_append.mp hr with hr | hr
      · rw [at?_insertAt_elsewhere _ _ hps (hother r hr path hp)]
        exact h.above r hr path hp hne
      · obtain rfl := List.mem_singleton.mp hr
        exact absurd hp hps
  · intro path u hpath hu
    by_cases hps : path <+: Property.parts s.1
    · exact ⟨s, by simp, hps⟩
    · by_cases hsp : Property.parts s.1 <+: path
      · obtain ⟨rest, rfl⟩ := hsp
        rw [at?_insertAt_append _ _ hs] at hu
        cases rest with
        | nil => exact absurd (by simp) hps
        | cons name rest =>
          rw [at?_cons, fields_of_not_record hv] at hu
          cases hu
      · rw [at?_insertAt_elsewhere _ _ hps hsp] at hu
        obtain ⟨r, hr, hp⟩ := h.nothingElse path u hpath hu
        exact ⟨r, List.mem_append_left _ hr, hp⟩

theorem holds_nil : Holds [] .empty := by
  refine ⟨by simp, by simp, ?_⟩
  intro path u hpath hu
  cases path with
  | nil => exact absurd rfl hpath
  | cons name path => cases hu

theorem holds_applySettings {settings : List (String × Tree)}
    (hne : ∀ s ∈ settings, Property.parts s.1 ≠ []) (hv : ∀ s ∈ settings, s.2.isRecord = false)
    (hapart : settings.Pairwise fun r s => Apart (Property.parts r.1) (Property.parts s.1)) :
    Holds settings (applySettings settings .empty) := by
  induction settings using List.reverseRecOn with
  | nil => exact holds_nil
  | append_singleton settings s ih =>
    rw [List.forall_mem_append] at hne hv
    obtain ⟨hbefore, -, hlast⟩ := List.pairwise_append.mp hapart
    have hbase := ih hne.1 hv.1 hbefore
    unfold applySettings at hbase ⊢
    rw [List.foldl_append]
    exact hbase.insertAt (hne.2 s (by simp)) (hv.2 s (by simp)) fun r hr => hlast r hr s (by simp)

/-- What stands at a path of one tree stands there in the other, apart from what records hold. -/
theorem Holds.at?_some {settings others : List (String × Tree)} {t u : Tree}
    (h : Holds settings t) (h' : Holds others u) (hsub : ∀ s ∈ settings, s ∈ others)
    {path : List String} (hp : path ≠ []) {x : Tree} (hx : t.at? path = some x) :
    ∃ y, u.at? path = some y ∧ y.outline = x.outline := by
  obtain ⟨s, hs, hpath⟩ := h.nothingElse path x hp hx
  by_cases heq : path = Property.parts s.1
  · subst heq
    obtain rfl := Option.some.inj (hx.symm.trans (h.value s hs))
    exact ⟨s.2, h'.value s (hsub s hs), rfl⟩
  · obtain ⟨x', hx', hr⟩ := h.above s hs path hpath heq
    obtain ⟨y, hy, hr'⟩ := h'.above s (hsub s hs) path hpath heq
    obtain rfl := Option.some.inj (hx.symm.trans hx')
    exact ⟨y, hy, by rw [outline_of_record hr, outline_of_record hr']⟩

/-- A record in order is known by the settings that it holds. -/
theorem Holds.unique {settings others : List (String × Tree)} {t u : Tree}
    (h : Holds settings t) (h' : Holds others u) (ht : TidyRecord t) (hu : TidyRecord u)
    (hsame : ∀ s, s ∈ settings ↔ s ∈ others) : t = u := by
  apply ht.tidy.ext hu.tidy
  intro path
  by_cases hp : path = []
  · subst hp
    rw [at?_nil, at?_nil, Option.map_some, Option.map_some, outline_of_record ht.isRecord,
      outline_of_record hu.isRecord]
  · cases hx : t.at? path with
    | some x =>
      obtain ⟨y, hy, ho⟩ := h.at?_some h' (fun s => (hsame s).mp) hp hx
      rw [hy, Option.map_some, Option.map_some, ho]
    | none =>
      cases hy : u.at? path with
      | none => rfl
      | some y =>
        obtain ⟨x, hx', -⟩ := h'.at?_some h (fun s => (hsame s).mpr) hp hy
        rw [hx] at hx'
        cases hx'

/-- What a variable sets, and to which value. -/
def setting (v : String × String) : String × Tree :=
  (Property.ofVariable v.1, .ofScalar v.2)

theorem isRecord_ofScalar (raw : String) : (Tree.ofScalar raw).isRecord = false := by
  unfold Tree.ofScalar
  repeat' split
  all_goals rfl

theorem parts_eq_split {property : String} (h : "" ∉ Text.split '.' property) :
    Property.parts property = Text.split '.' property := by
  apply List.filter_eq_self.mpr
  intro name hname
  rw [decide_eq_true_iff]
  rintro rfl
  exact h hname

/-- A property whose names are all there has a path. -/
theorem parts_ne_nil {property : String} (h : "" ∉ Text.split '.' property) :
    Property.parts property ≠ [] := by
  rw [parts_eq_split h]
  exact Text.split_ne_nil '.' property

/-- The settings of an environment are those of its variables, in the order of properties. -/
theorem settingsOf_perm {environment : Environment}
    (h : ∀ v ∈ environment, "" ∉ Text.split '.' (Property.ofVariable v.1)) :
    (settingsOf none environment).Perm (environment.map setting) := by
  have hall : environment.filterMap (settingOf? none) = environment.map setting := by
    rw [← List.filterMap_eq_map]
    apply List.filterMap_congr
    intro v hv
    have hname : v.1 ≠ "" := by
      intro he
      have hparts := h v hv
      rw [he] at hparts
      exact hparts (by decide)
    simp [settingOf?, variableRest?, hname, setting]
  rw [settingsOf, hall]
  exact List.mergeSort_perm _ _

section
variable {vars : List (String × String)}
  (hparts : ∀ v ∈ vars, "" ∉ Text.split '.' (Property.ofVariable v.1))
  (hapart : vars.Pairwise fun v w =>
    Apart (Property.parts (Property.ofVariable v.1)) (Property.parts (Property.ofVariable w.1)))
include hparts hapart

/-- Settings of variables that are apart make a tree in order, in whatever order they come. -/
theorem holds_settings {settings : List (String × Tree)}
    (hs : settings.Perm (vars.map setting)) :
    TidyRecord (applySettings settings .empty) ∧ Holds settings (applySettings settings .empty) := by
  have hof : ∀ s ∈ settings, ∃ v ∈ vars, setting v = s := by
    intro s hm
    exact List.mem_map.mp (hs.mem_iff.mp hm)
  constructor
  · apply Sources.applySettings_tidyRecord ?_ .empty
    intro s hm
    obtain ⟨v, -, rfl⟩ := hof s hm
    exact Sources.scalar_tidy v.2
  · apply holds_applySettings
    · intro s hm
      obtain ⟨v, hv, rfl⟩ := hof s hm
      exact parts_ne_nil (hparts v hv)
    · intro s hm
      obtain ⟨v, -, rfl⟩ := hof s hm
      exact isRecord_ofScalar v.2
    · refine (hs.pairwise_iff ?_).mpr (List.pairwise_map.mpr hapart)
      exact fun h => ⟨h.2, h.1⟩

end

/-- Variables whose paths are apart set the same properties whether a file assigns them, in any
order, or the environment has them, and nothing else comes to be set. -/
theorem file_and_environment_agree {vars assigned enumerated : List (String × String)}
    (hparts : ∀ v ∈ vars, "" ∉ Text.split '.' (Property.ofVariable v.1))
    (hapart : vars.Pairwise fun v w =>
      Apart (Property.parts (Property.ofVariable v.1)) (Property.parts (Property.ofVariable w.1)))
    (hassigned : assigned.Perm vars) (henumerated : enumerated.Perm vars) {served : Environment}
    {content : String} (hread : Dotenv.read? served content = some assigned) :
    ∃ t, parseText served .env content = .ok t ∧
      Store.empty.loadEnvironment enumerated = ⟨t, none⟩ ∧ Holds (vars.map setting) t := by
  have hfile : (assigned.map setting).Perm (vars.map setting) := hassigned.map setting
  have henv : (settingsOf none enumerated).Perm (vars.map setting) := by
    refine (settingsOf_perm fun v hv => hparts v (henumerated.mem_iff.mp hv)).trans ?_
    exact henumerated.map setting
  obtain ⟨htidy, hholds⟩ := holds_settings hparts hapart (List.Perm.refl _)
  obtain ⟨hfileTidy, hfileHolds⟩ := holds_settings hparts hapart hfile
  obtain ⟨henvTidy, henvHolds⟩ := holds_settings hparts hapart henv
  have hfileTree : ofAssignments assigned = applySettings (vars.map setting) .empty :=
    hfileHolds.unique hholds hfileTidy htidy fun s => hfile.mem_iff
  have henvTree : applySettings (settingsOf none enumerated) .empty =
      applySettings (vars.map setting) .empty :=
    henvHolds.unique hholds henvTidy htidy fun s => henv.mem_iff
  refine ⟨applySettings (vars.map setting) .empty, ?_, ?_, hholds⟩
  · simp only [parseText, hread, hfileTree]
  · exact congrArg (Store.mk · none) henvTree

/-- Variables of an application, two of them for the same section. -/
def application : List (String × String) :=
  [("ROUTER__VERSIONING__ENABLED", "true"), ("NAME", "edge"),
    ("ROUTER__VERSIONING__DEFAULT_VERSION", "2")]

def applicationFile : String :=
  "NAME='edge'\n# Comment\nexport ROUTER__VERSIONING__ENABLED=true\n" ++
    "ROUTER__VERSIONING__DEFAULT_VERSION=\"2\"\n"

theorem application_agrees :
    (∀ v ∈ application, "" ∉ Text.split '.' (Property.ofVariable v.1)) ∧
    (application.Pairwise fun v w =>
      Apart (Property.parts (Property.ofVariable v.1))
        (Property.parts (Property.ofVariable w.1))) ∧
    ∃ assigned, assigned.Perm application ∧ assigned ≠ application ∧
      Dotenv.read? [] applicationFile = some assigned ∧
      ∃ t, parseText [] .env applicationFile = .ok t ∧
        Store.empty.loadEnvironment application.reverse = ⟨t, none⟩ ∧
        Holds (application.map setting) t := by
  have hparts : ∀ v ∈ application, "" ∉ Text.split '.' (Property.ofVariable v.1) := by
    decide +kernel
  have hapart : application.Pairwise fun v w =>
      Apart (Property.parts (Property.ofVariable v.1))
        (Property.parts (Property.ofVariable w.1)) := by
    decide +kernel
  have hread : Dotenv.read? [] applicationFile = some [("NAME", "edge"),
      ("ROUTER__VERSIONING__ENABLED", "true"), ("ROUTER__VERSIONING__DEFAULT_VERSION", "2")] := by
    decide +kernel
  have hperm : List.Perm [("NAME", "edge"), ("ROUTER__VERSIONING__ENABLED", "true"),
      ("ROUTER__VERSIONING__DEFAULT_VERSION", "2")] application := by
    decide +kernel
  exact ⟨hparts, hapart, _, hperm, by decide +kernel, hread,
    file_and_environment_agree hparts hapart hperm (List.reverse_perm _) hread⟩

end Switchboard.Proofs.Variables
