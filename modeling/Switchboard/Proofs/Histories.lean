import Switchboard.Config.Call
import Switchboard.Proofs.Overlay
import Switchboard.Proofs.Sources
import Switchboard.Text.Cutting

namespace Switchboard.Proofs.Histories
open Switchboard.Tree Config

theorem at?_insertAt_cons (value t : Tree) (name : String) (path other : List String) :
    (insertAt value (name :: path) t).at? (name :: other) =
      (inserted value path (Fields.find? name t.fields)).at? other := by
  rw [insertAt_cons]
  exact at?_of_find? (Fields.find?_put_self name _ t.fields) other

theorem at?_insertAt_append (value t : Tree) {path : List String} (hp : path ≠ [])
    (rest : List String) : (insertAt value path t).at? (path ++ rest) = value.at? rest := by
  induction path generalizing t with
  | nil => exact absurd rfl hp
  | cons name path ih =>
    rw [List.cons_append, at?_insertAt_cons, inserted]
    split
    · next he => rw [he, List.nil_append]
    · next hne => exact ih _ hne

theorem at?_insertAt_above (value t : Tree) {path other : List String} (hp : other <+: path)
    (hne : other ≠ path) :
    ∃ u, (insertAt value path t).at? other = some u ∧ u.isRecord = true := by
  induction path generalizing t other with
  | nil => exact absurd (List.prefix_nil.mp hp) hne
  | cons name path ih =>
    cases other with
    | nil =>
      rw [insertAt_cons]
      exact ⟨_, rfl, rfl⟩
    | cons first other =>
      obtain ⟨rfl, hrest⟩ := List.cons_prefix_cons.mp hp
      have hne : other ≠ path := fun he => hne (by rw [he])
      have hpath : path ≠ [] := by
        rintro rfl
        exact hne (List.prefix_nil.mp hrest)
      rw [at?_insertAt_cons, inserted, if_neg hpath]
      exact ih _ hrest hne

theorem at?_insertAt_elsewhere (value t : Tree) {path other : List String}
    (ha : ¬other <+: path) (hb : ¬path <+: other) :
    (insertAt value path t).at? other = t.at? other := by
  induction path generalizing t other with
  | nil => exact absurd List.nil_prefix hb
  | cons name path ih =>
    cases other with
    | nil => exact absurd List.nil_prefix ha
    | cons first other =>
      by_cases hn : first = name
      · subst hn
        simp only [List.cons_prefix_cons, true_and] at ha hb
        have hpath : path ≠ [] := by
          rintro rfl
          exact hb List.nil_prefix
        rw [at?_insertAt_cons, inserted, if_neg hpath, ih _ ha hb, at?_cons]
        cases Fields.find? first t.fields with
        | some u => rfl
        | none =>
          -- the record that is put there for the path to go on starts out empty
          cases other with
          | nil => exact absurd List.nil_prefix ha
          | cons next other => rfl
      · rw [insertAt_cons, at?_cons, at?_cons, fields_record, Fields.find?_put_of_ne hn]

/-- The store that a call comes to, or its error. -/
def outcome (s : Store) : Call → Except Error Store
  | .loadText environment format content => s.loadText environment format content
  | .loadFile environment folder path => s.loadFile environment folder path
  | .loadEnvironment environment => .ok (s.loadEnvironment environment)
  | .set key value => value.map fun t => s.set key t.1
  | .merge lead calls => .ok (s.merge (Call.runAll calls ⟨.empty, lead⟩))

theorem forM_set (settings : List (String × Tree)) (s : Store) :
    ((settings.forM fun (property, value) => modify (·.set property value) :
      Action Unit).run.run s) = (.ok (), { s with root := applySettings settings s.root }) := by
  induction settings generalizing s with
  | nil => rfl
  | cons first settings ih => exact ih (s.set first.1 first.2)

/-- A change that waits for something that may fail is not begun if that fails. -/
theorem run_change {α : Type} (given : Except Error α) (change : α → Store → Store) (s : Store) :
    ((do let a ← given; modify (change a) : Action Unit).run.run s) =
      match given.map (change · s) with
      | .ok t => (.ok (), t)
      | .error e => (.error e, s) := by
  cases given <;> rfl

/-- A call either comes to its store or leaves the one it was made on. -/
theorem run_action (call : Call) (s : Store) :
    call.action.run.run s = match outcome s call with
      | .ok t => (.ok (), t)
      | .error e => (.error e, s) := by
  cases call with
  | loadText environment format content => exact run_change _ (fun t s => s.overlay t) s
  | loadFile environment folder path => exact run_change _ (fun t s => s.overlay t) s
  | loadEnvironment environment => exact forM_set _ s
  | set key value => exact run_change value (fun t s => s.set key t.1) s
  | merge lead calls => rfl

theorem overlay_tidyRecord {s : Store} {t : Tree} (hs : TidyRecord s.root) (ht : TidyRecord t) :
    TidyRecord (s.overlay t).root :=
  Overlay.merge_tidyRecord hs.tidy ht

mutual

/-- One call keeps the root a record in order, whether it fails or not. -/
theorem action_tidyRecord (call : Call) {s : Store} (hs : TidyRecord s.root) :
    TidyRecord (call.action.run.run s).2.root := by
  rw [run_action]
  match call with
  | .loadText environment format content =>
    simp only [outcome, Store.loadText]
    cases h : parseText environment format content with
    | error e => exact hs
    | ok t => exact overlay_tidyRecord hs (Sources.parseText_tidyRecord h)
  | .loadFile environment folder path =>
    simp only [outcome, Store.loadFile]
    cases h : parseFile environment folder path with
    | error e => exact hs
    | ok t => exact overlay_tidyRecord hs (Sources.parseFile_tidyRecord h)
  | .loadEnvironment environment =>
    exact Sources.applySettings_tidyRecord (Sources.settingsOf_tidy s.lead environment) hs
  | .set key (.error e) => exact hs
  | .set key (.ok value) => exact hs.insertAt value.2 _
  | .merge lead calls => exact overlay_tidyRecord hs (runAll_tidyRecord calls .empty)

theorem runAll_tidyRecord (calls : List Call) {s : Store} (hs : TidyRecord s.root) :
    TidyRecord (Call.runAll calls s).root := by
  match calls with
  | [] => exact hs
  | call :: calls => exact runAll_tidyRecord calls (action_tidyRecord call hs)

end

theorem parts_append (key more : String) :
    Property.parts (key ++ "." ++ more) = Property.parts key ++ Property.parts more :=
  Text.words_append '.' key more

/-- A store that calls made. -/
def Reached (s : Store) : Prop :=
  ∃ lead calls, s = Call.runAll calls ⟨.empty, lead⟩

theorem Reached.tidyRecord {s : Store} (h : Reached s) : TidyRecord s.root := by
  obtain ⟨lead, calls, rfl⟩ := h
  exact runAll_tidyRecord calls .empty

/-- How a store answers once the value of a key is set. -/
structure IsSet (before after : Store) (key : String) (value : Tree) : Prop where
  here : after.lookup? key = some value
  below : ∀ other rest, Property.parts other = Property.parts key ++ rest →
    after.lookup? other = value.at? rest
  dotted : ∀ more, after.lookup? (key ++ "." ++ more) = value.at? (Property.parts more)
  above : ∀ other, Property.parts other <+: Property.parts key →
    Property.parts other ≠ Property.parts key →
    ∃ t, after.lookup? other = some t ∧ t.isRecord = true
  elsewhere : ∀ other, ¬Property.parts other <+: Property.parts key →
    ¬Property.parts key <+: Property.parts other → after.lookup? other = before.lookup? other

theorem set_isSet (s : Store) {key : String} (hk : Property.parts key ≠ []) (value : Tree) :
    IsSet s (s.set key value) key value := by
  have hbelow : ∀ other rest, Property.parts other = Property.parts key ++ rest →
      (s.set key value).lookup? other = value.at? rest := by
    intro other rest ho
    rw [Store.lookup?, ho]
    exact at?_insertAt_append value s.root hk rest
  refine ⟨hbelow key [] (List.append_nil _).symm, hbelow, ?_, ?_, ?_⟩
  · exact fun more => hbelow _ _ (parts_append key more)
  · exact fun other hp hne => at?_insertAt_above value s.root hp hne
  · exact fun other ha hb => at?_insertAt_elsewhere value s.root ha hb

/-- The root of a store that calls made is a record, a call that fails on it changes nothing, and a
value set on it is found at its key and below, under records, with nothing else disturbed. -/
theorem reached_store_sound {s : Store} (hs : Reached s) :
    s.root.isRecord = true ∧
    (∀ (call : Call) (e : Error) (t : Store), call.action.run.run s = (.error e, t) → t = s) ∧
    ∀ (key : String) (value : Value), Property.parts key ≠ [] →
      ∃ t, (Call.set key (.ok value)).action.run.run s = (.ok (), t) ∧
        IsSet s t key value.1 := by
  refine ⟨hs.tidyRecord.isRecord, ?_, ?_⟩
  · intro call e t h
    rw [run_action] at h
    split at h
    · cases h
    · cases h
      rfl
  · intro key value hk
    exact ⟨s.set key value.1, rfl, set_isSet s hk value.1⟩

/-- A store where `a` is a number. -/
def numbered : Store :=
  Call.runAll [.loadText [] .json "\x7b\"a\":1\x7d"] ⟨.empty, none⟩

/-- The number gives way to the record that a deeper key needs. -/
theorem number_gives_way :
    Reached numbered ∧ numbered.lookup? "a" = some (.whole 1) ∧ Property.parts "a..b" ≠ [] ∧
    ∃ t, (Call.set "a..b" (.ok ⟨.bool true, .bool true⟩)).action.run.run numbered = (.ok (), t) ∧
      IsSet numbered t "a..b" (.bool true) := by
  have hs : Reached numbered := ⟨none, _, rfl⟩
  have ha : numbered.lookup? "a" = some (.whole 1) := by decide +kernel
  have hk : Property.parts "a..b" ≠ [] := by decide
  exact ⟨hs, ha, hk, (reached_store_sound hs).2.2 "a..b" ⟨.bool true, .bool true⟩ hk⟩

end Switchboard.Proofs.Histories
