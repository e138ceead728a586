import Mathlib.Tactic.ByContra
import Switchboard.Proofs.Chains
import Switchboard.Proofs.Histories

namespace Switchboard.Proofs.Layers
open Switchboard.Tree Config Overlay

section
variable {path : List String}

/-- What a layer has to say about a path: what stands there, or that nothing can. -/
def word (path : List String) (t : Tree) : Option (Option Tree) :=
  match explore path t with
  | .value u => some (some u.outline)
  | .barred => some none
  | .missing => none

theorem word_eq_none_iff {t : Tree} :
    word path t = none ↔ t.at? path = none ∧ ¬Bars t path := by
  rw [at?_of_explore, bars_iff, word]
  cases explore path t <;> simp

theorem word_eq_barred_iff {t : Tree} : word path t = some none ↔ Bars t path := by
  rw [bars_iff, word]
  cases explore path t <;> simp

theorem outline_merge_at? {o : Tree} (ho : o.Tidy) (b : Tree) :
    ((b.merge o).at? path).map outline = (word path o).getD ((b.at? path).map outline) := by
  rw [outline_at?_merge ho, word]
  cases explore path o <;> rfl

/-- What is heard of a word once layers are merged: a bar may have been forgotten. -/
def Forgets (said heard : Option (Option Tree)) : Prop :=
  heard = said ∨ said = some none ∧ heard = none

theorem Forgets.trans {a b c : Option (Option Tree)} (hab : Forgets a b) (hbc : Forgets b c) :
    Forgets a c := by
  rcases hab with rfl | ⟨ha, hb⟩
  · exact hbc
  · rcases hbc with rfl | ⟨hb', -⟩
    · exact .inr ⟨ha, hb⟩
    · simp [hb] at hb'

theorem Forgets.or {a b : Option (Option Tree)} (h : Forgets a b) (later : Option (Option Tree)) :
    Forgets (later.or a) (later.or b) := by
  cases later with
  | none => exact h
  | some w => exact .inl rfl

/-- What is heard means the same unless there is something behind a bar that was forgotten. -/
theorem Forgets.getD_eq_iff {said heard : Option (Option Tree)} (h : Forgets said heard)
    (behind : Option Tree) : heard.getD behind = said.getD behind ↔
      ¬(behind ≠ none ∧ said = some none ∧ heard = none) := by
  rcases h with rfl | ⟨rfl, rfl⟩
  · simp +contextual
  · simp

theorem word_merge {o : Tree} (ho : o.Tidy) (b : Tree) :
    Forgets ((word path o).or (word path b)) (word path (b.merge o)) := by
  unfold word
  rcases explore_merge ho path b with h | ⟨hmissing, hbarred, h⟩
  · rw [h]
    left
    cases explore path o <;> cases explore path b <;>
      simp [Finding.laidOver, outline_merge]
  · rw [hmissing, hbarred, h]
    exact .inr ⟨rfl, rfl⟩

/-- The last that any of the layers has to say. -/
def lastWord (path : List String) : List Tree → Option (Option Tree)
  | [] => none
  | t :: layers => (lastWord path layers).or (word path t)

theorem exists_of_lastWord {layers : List Tree} {w : Option Tree}
    (h : lastWord path layers = some w) : ∃ t ∈ layers, word path t = some w := by
  induction layers with
  | nil => cases h
  | cons t layers ih =>
    rcases Option.or_eq_some_iff.mp h with h | ⟨-, h⟩
    · obtain ⟨u, hu, hw⟩ := ih h
      exact ⟨u, List.mem_cons_of_mem _ hu, hw⟩
    · exact ⟨t, List.mem_cons_self, h⟩

theorem word_of_lastWord {layers : List Tree} (h : lastWord path layers = none) :
    ∀ t ∈ layers, word path t = none := by
  induction layers with
  | nil => simp
  | cons t layers ih =>
    obtain ⟨hrest, ht⟩ := Option.or_eq_none_iff.mp h
    exact List.forall_mem_cons.mpr ⟨ht, ih hrest⟩

/-- Layer upon layer, the last word counts. -/
theorem outline_stack_at? {layers : List Tree} (hl : ∀ t ∈ layers, t.Tidy) (base : Tree) :
    ((layers.foldl merge base).at? path).map outline =
      (lastWord path layers).getD ((base.at? path).map outline) := by
  induction layers generalizing base with
  | nil => rfl
  | cons t layers ih =>
    obtain ⟨ht, hrest⟩ := List.forall_mem_cons.mp hl
    rw [List.foldl_cons, ih hrest, outline_merge_at? ht, lastWord]
    cases lastWord path layers <;> rfl

theorem word_stack {layers : List Tree} (hl : ∀ t ∈ layers, t.Tidy) (base : Tree) :
    Forgets ((lastWord path layers).or (word path base))
      (word path (layers.foldl merge base)) := by
  induction layers generalizing base with
  | nil => exact .inl rfl
  | cons t layers ih =>
    obtain ⟨ht, hrest⟩ := List.forall_mem_cons.mp hl
    rw [List.foldl_cons, lastWord, Option.or_assoc]
    exact ((word_merge ht base).or _).trans (ih hrest _)

theorem word_empty (hp : path ≠ []) : word path .empty = none := by
  cases path with
  | nil => exact absurd rfl hp
  | cons name path => rfl

end

theorem stack_tidyRecord {layers : List Tree} (hl : ∀ t ∈ layers, TidyRecord t) {base : Tree}
    (hb : TidyRecord base) : TidyRecord (layers.foldl merge base) := by
  induction layers generalizing base with
  | nil => exact hb
  | cons t layers ih =>
    obtain ⟨ht, hrest⟩ := List.forall_mem_cons.mp hl
    exact ih hrest (merge_tidyRecord hb.tidy ht)

/-- What a layer bars in the base stays out of sight under the stack of all layers. -/
def StaysHidden (base : Tree) (layers : List Tree) (stack : Tree) : Prop :=
  ∀ path, base.at? path ≠ none → (∃ t ∈ layers, Bars t path) →
    stack.at? path ≠ none ∨ Bars stack path

theorem forgets_stack {layers : List Tree} (hl : ∀ t ∈ layers, t.Tidy) {path : List String}
    (hp : path ≠ []) :
    Forgets (lastWord path layers) (word path (layers.foldl merge .empty)) := by
  have h : Forgets ((lastWord path layers).or (word path .empty)) _ := word_stack hl .empty
  rwa [word_empty hp, Option.or_none] at h

/-- A layer bars a path that the stack leaves open just where the stack has forgotten a bar. -/
theorem forgotten_iff {layers : List Tree} (hl : ∀ t ∈ layers, t.Tidy) {path : List String}
    (hp : path ≠ []) :
    lastWord path layers = some none ∧ word path (layers.foldl merge .empty) = none ↔
      (∃ t ∈ layers, Bars t path) ∧ word path (layers.foldl merge .empty) = none := by
  constructor
  · intro ⟨hlast, hnone⟩
    obtain ⟨t, ht, hw⟩ := exists_of_lastWord hlast
    exact ⟨⟨t, ht, word_eq_barred_iff.mp hw⟩, hnone⟩
  · intro ⟨⟨t, ht, hbar⟩, hnone⟩
    refine ⟨?_, hnone⟩
    rcases forgets_stack hl hp with h | ⟨h, -⟩
    · rw [hnone] at h
      have hw := word_of_lastWord h.symm t ht
      rw [word_eq_barred_iff.mpr hbar] at hw
      cases hw
    · exact h

/-- Layers may be stacked first unless that brings back what one of them has barred. -/
theorem merge_stack_eq_iff {base : Tree} {layers : List Tree} (hb : TidyRecord base)
    (hl : ∀ t ∈ layers, TidyRecord t) :
    base.merge (layers.foldl merge .empty) = layers.foldl merge base ↔
      StaysHidden base layers (layers.foldl merge .empty) := by
  have htidy : ∀ t ∈ layers, t.Tidy := fun t ht => (hl t ht).tidy
  have hstack := stack_tidyRecord hl .empty
  have hdirect := stack_tidyRecord hl hb
  have hmerged := merge_tidyRecord hb.tidy hstack
  have hat : ∀ path, path ≠ [] →
      (((base.merge (layers.foldl merge .empty)).at? path).map outline =
          ((layers.foldl merge base).at? path).map outline ↔
        ¬(base.at? path ≠ none ∧ (∃ t ∈ layers, Bars t path) ∧
          word path (layers.foldl merge .empty) = none)) := by
    intro path hp
    rw [outline_merge_at? hstack.tidy, outline_stack_at? htidy,
      (forgets_stack htidy hp).getD_eq_iff, forgotten_iff htidy hp]
    simp only [ne_eq, Option.map_eq_none_iff]
  constructor
  · intro heq path hbase hbar
    have hp : path ≠ [] := by
      rintro rfl
      obtain ⟨t, -, front, u, hfront, hne, -⟩ := hbar
      exact hne (List.prefix_nil.mp hfront)
    have hword := (hat path hp).mp (by rw [heq])
    by_contra hnot
    rw [not_or, not_not] at hnot
    exact hword ⟨hbase, hbar, word_eq_none_iff.mpr hnot⟩
  · intro hidden
    apply hmerged.tidy.ext hdirect.tidy
    intro path
    by_cases hp : path = []
    · subst hp
      simp only [at?_nil, Option.map_some, outline_of_record hmerged.isRecord,
        outline_of_record hdirect.isRecord]
    · apply (hat path hp).mpr
      intro ⟨hbase, hbar, hnone⟩
      obtain ⟨hat, hopen⟩ := word_eq_none_iff.mp hnone
      rcases hidden path hbase hbar with h | h
      · exact h hat
      · exact hopen h

theorem loadAll_eq {sources : List Source} {trees : List Tree}
    (h : sources.mapM Source.parse = .ok trees) (s : Store) :
    s.loadAll sources = .ok ⟨trees.foldl merge s.root, s.lead⟩ := by
  induction sources generalizing trees s with
  | nil =>
    cases h
    rfl
  | cons source sources ih =>
    rw [List.mapM_cons] at h
    obtain ⟨t, ht, h⟩ := Chains.bind_ok_iff.mp h
    obtain ⟨rest, hrest, h⟩ := Chains.bind_ok_iff.mp h
    cases h
    have hload : s.loadText source.environment source.format source.content =
        .ok (s.overlay t) := by
      rw [Store.loadText, show parseText _ _ _ = .ok t from ht]
      rfl
    unfold Store.loadAll
    rw [List.foldlM_cons, hload]
    exact ih hrest (s.overlay t)

theorem parsed_tidyRecord {sources : List Source} {trees : List Tree}
    (h : sources.mapM Source.parse = .ok trees) : ∀ t ∈ trees, TidyRecord t := by
  induction sources generalizing trees with
  | nil =>
    cases h
    simp
  | cons source sources ih =>
    rw [List.mapM_cons] at h
    obtain ⟨t, ht, h⟩ := Chains.bind_ok_iff.mp h
    obtain ⟨rest, hrest, h⟩ := Chains.bind_ok_iff.mp h
    cases h
    exact List.forall_mem_cons.mpr ⟨Sources.parseText_tidyRecord ht, ih hrest⟩

/-- Texts may be loaded into a store of their own that is then laid over another, and this comes to
the same as loading them there, just if no value that one of them barred comes back. -/
theorem layers_compose_iff {base : Store} (hb : Histories.Reached base) (lead : Option String)
    {sources : List Source} {trees : List Tree} (ht : sources.mapM Source.parse = .ok trees) :
    ∃ stack direct, Store.loadAll ⟨.empty, lead⟩ sources = .ok stack ∧
      base.loadAll sources = .ok direct ∧
      (base.merge stack = direct ↔ StaysHidden base.root trees stack.root) := by
  refine ⟨_, _, loadAll_eq ht _, loadAll_eq ht base, ?_⟩
  rw [← merge_stack_eq_iff hb.tidyRecord (parsed_tidyRecord ht)]
  simp [Store.merge, Store.overlay]

/-- Texts that are read without an environment. -/
def plain (contents : List String) : List Source :=
  contents.map fun content => ⟨[], .json, content⟩

/-- A store with a record at `k`. -/
def nested : Store :=
  Call.runAll [.loadText [] .json "\x7b\"k\":\x7b\"x\":1\x7d\x7d"] ⟨.empty, none⟩

/-- A number where the store has a record, and then one beside it. -/
def overwrite : List Source :=
  plain ["\x7b\"k\":2\x7d", "\x7b\"m\":3\x7d"]

/-- The first text bars what the store holds below `k`. The second says nothing about `k`, so the
stack of both bars it too. -/
theorem overwrite_composed :
    Histories.Reached nested ∧
    overwrite.mapM Source.parse = .ok [.record [("k", .whole 2)], .record [("m", .whole 3)]] ∧
    nested.root.at? ["k", "x"] = some (.whole 1) ∧ Bars (.record [("k", .whole 2)]) ["k", "x"] ∧
    ∃ stack direct, Store.loadAll ⟨.empty, none⟩ overwrite = .ok stack ∧
      nested.loadAll overwrite = .ok direct ∧ nested.merge stack = direct := by
  have hb : Histories.Reached nested := ⟨none, _, rfl⟩
  have ht : overwrite.mapM Source.parse =
      .ok [.record [("k", .whole 2)], .record [("m", .whole 3)]] :=
    Chains.ok_of_toOption (by decide +kernel)
  obtain ⟨stack, direct, hstack, hdirect, hiff⟩ := layers_compose_iff hb none ht
  have hroot : stack.root = .record [("k", .whole 2), ("m", .whole 3)] := by
    rw [loadAll_eq ht] at hstack
    cases hstack
    decide +kernel
  refine ⟨hb, ht, by decide +kernel, (bars_iff _ _).mpr rfl, stack, direct, hstack, hdirect,
    hiff.mpr fun path _ hbar => ?_⟩
  obtain ⟨t, hmem, hbar⟩ := hbar
  rw [hroot]
  refine .inr ((bars_iff path _).mpr ?_)
  rw [bars_iff] at hbar
  cases path with
  | nil => cases hbar
  | cons name path =>
    -- only under its own name does a text bar anything, and there the stack is the same
    rcases List.mem_pair.mp hmem with rfl | rfl
    · by_cases hname : name = "k"
      · simpa [explore, Fields.find?, hname] using hbar
      · simp [explore, Fields.find?, hname] at hbar
    · by_cases hname : name = "m"
      · simpa [explore, Fields.find?, hname] using hbar
      · simp [explore, Fields.find?, hname] at hbar

/-- More for the record at `k`. -/
def more : Tree :=
  .record [("k", .record [("y", .whole 3)])]

/-- A number at `k`, and then a record there again. -/
def relapse : List Source :=
  plain ["\x7b\"k\":2\x7d", "\x7b\"k\":\x7b\"y\":3\x7d\x7d"]

/-- Loaded one by one, the number takes away what was below `k`. In the stack the second record has
taken the place of the number, and what was below comes back. -/
theorem relapse_not_composed :
    Histories.Reached nested ∧
    ∃ stack direct, Store.loadAll ⟨.empty, none⟩ relapse = .ok stack ∧
      nested.loadAll relapse = .ok direct ∧
      (nested.merge stack).lookup? "k.x" = some (.whole 1) ∧ direct.lookup? "k.x" = none ∧
      nested.merge stack ≠ direct := by
  refine ⟨⟨none, _, rfl⟩, ⟨more, none⟩, ⟨more, none⟩, ?_, ?_, ?_, ?_, ?_⟩
  · exact Chains.ok_of_toOption (by decide +kernel)
  · exact Chains.ok_of_toOption (by decide +kernel)
  · decide +kernel
  · decide +kernel
  · decide +kernel

end Switchboard.Proofs.Layers
