import Switchboard.Config.Source
import Switchboard.Tree.Tidy

namespace Switchboard.Proofs.Sources
open Switchboard.Tree

theorem ofList_tidy {fields : List (String × Tree)} (h : ∀ f ∈ fields, f.2.Tidy) :
    Tidy (.record (Fields.ofList fields)) :=
  .record (Fields.ofList_ascending fields) fun f hf => h f (Fields.mem_ofList hf)

theorem numeral_tidy {n : Json.Numeral} {t : Tree} (h : n.toTree? = some t) : t.Tidy := by
  simp only [Json.Numeral.toTree?] at h
  split at h
  · obtain ⟨x, -, rfl⟩ := Option.map_eq_some_iff.mp h
    exact .real x
  · repeat' split at h
    all_goals
      cases h
      constructor

mutual

theorem document_tidy (room : Nat) (d : Json.Document) {t : Tree}
    (h : Json.toTree? room d = some t) : t.Tidy := by
  match d, room with
  | .null, _ => cases h; exact .null
  | .bool b, _ => cases h; exact .bool b
  | .number n, _ => exact numeral_tidy h
  | .text s, _ =>
    obtain ⟨w, -, rfl⟩ := Option.map_eq_some_iff.mp h
    exact .text w
  | .list items, 0 => cases h
  | .list items, room + 1 =>
    obtain ⟨ts, hts, rfl⟩ := Option.map_eq_some_iff.mp h
    exact .list (documents_tidy room items hts)
  | .object members, 0 => cases h
  | .object members, room + 1 =>
    obtain ⟨fields, hf, rfl⟩ := Option.map_eq_some_iff.mp h
    exact ofList_tidy (members_tidy room members hf)

theorem documents_tidy (room : Nat) (ds : List Json.Document) {ts : List Tree}
    (h : Json.toTrees? room ds = some ts) : ∀ t ∈ ts, t.Tidy := by
  match ds with
  | [] => cases h; simp
  | d :: ds =>
    simp only [Json.toTrees?] at h
    split at h
    · next t ht =>
      obtain ⟨rest, hrest, rfl⟩ := Option.map_eq_some_iff.mp h
      exact List.forall_mem_cons.mpr ⟨document_tidy room d ht, documents_tidy room ds hrest⟩
    · cases h

theorem members_tidy (room : Nat) (members : List (Option String × Json.Document))
    {fields : List (String × Tree)} (h : Json.toFields? room members = some fields) :
    ∀ f ∈ fields, f.2.Tidy := by
  match members with
  | [] => cases h; simp
  | (name, d) :: members =>
    simp only [Json.toFields?] at h
    split at h
    · next n t _ ht =>
      obtain ⟨rest, hrest, rfl⟩ := Option.map_eq_some_iff.mp h
      exact List.forall_mem_cons.mpr ⟨document_tidy room d ht, members_tidy room members hrest⟩
    · cases h

end

theorem json_tidy {s : String} {t : Tree} (h : Json.parse? s = some t) : t.Tidy := by
  obtain ⟨d, -, hd⟩ := Option.bind_eq_some_iff.mp h
  exact document_tidy _ d hd

section
open Toml (Node Entries)

/-- Names ascend in every table under construction, and finished values are in order. -/
inductive Orderly : Node → Prop where
  | value {t : Tree} (tidy : t.Tidy) : Orderly (.value t)
  | table {origin : Toml.Origin} {entries : Entries} (ascending : Fields.Ascending entries)
      (each : ∀ e ∈ entries, Orderly e.2) : Orderly (.table origin entries)
  | tables {elements : List Node} (each : ∀ n ∈ elements, Orderly n) : Orderly (.tables elements)

structure OrderlyEntries (es : Entries) : Prop where
  ascending : Fields.Ascending es
  each : ∀ e ∈ es, Orderly e.2

theorem OrderlyEntries.nil : OrderlyEntries [] :=
  ⟨.nil, by simp⟩

theorem OrderlyEntries.put {es : Entries} {n : Node} (hes : OrderlyEntries es) (hn : Orderly n)
    (name : String) : OrderlyEntries (Fields.put name n es) := by
  refine ⟨hes.ascending.put name n, ?_⟩
  intro e he
  rcases Fields.mem_put he with rfl | he
  · exact hn
  · exact hes.each e he

theorem OrderlyEntries.find? {es : Entries} {n : Node} (hes : OrderlyEntries es) {name : String}
    (h : Fields.find? name es = some n) : Orderly n :=
  hes.each _ (Fields.mem_of_find? h)

theorem OrderlyEntries.table {es : Entries} (hes : OrderlyEntries es) (origin : Toml.Origin) :
    Orderly (.table origin es) :=
  .table hes.ascending hes.each

theorem Orderly.entries {origin : Toml.Origin} {es : Entries} (h : Orderly (.table origin es)) :
    OrderlyEntries es := by
  cases h with
  | table ascending each => exact ⟨ascending, each⟩

theorem Orderly.elements {ns : List Node} (h : Orderly (.tables ns)) : ∀ n ∈ ns, Orderly n := by
  cases h with
  | tables each => exact each

theorem toFields_eq_map (es : Entries) :
    Node.toFields es = es.map fun (name, n) => (name, n.toTree) := by
  induction es with
  | nil => rfl
  | cons e es ih => rw [Node.toFields, ih, List.map_cons]

theorem toTrees_eq_map (ns : List Node) : Node.toTrees ns = ns.map Node.toTree := by
  induction ns with
  | nil => rfl
  | cons n ns ih => rw [Node.toTrees, ih, List.map_cons]

theorem Orderly.tidy {n : Node} (h : Orderly n) : n.toTree.Tidy := by
  induction h with
  | value tidy => exact tidy
  | table ascending _ ih =>
    rw [Node.toTree, toFields_eq_map]
    refine .record (ascending.map Node.toTree) ?_
    intro f hf
    obtain ⟨e, he, rfl⟩ := List.mem_map.mp hf
    exact ih e he
  | tables _ ih =>
    rw [Node.toTree, toTrees_eq_map]
    apply Tidy.list
    intro t ht
    obtain ⟨n, hn, rfl⟩ := List.mem_map.mp ht
    exact ih n hn

theorem OrderlyEntries.tidy {es : Entries} (h : OrderlyEntries es) :
    Tidy (.record (Node.toFields es)) :=
  (h.table .header).tidy

/-- A change to the entries of a table that leaves them in order. -/
def Keeps (change : Entries → Option Entries) : Prop :=
  ∀ es es', OrderlyEntries es → change es = some es' → OrderlyEntries es'

theorem changeLast_orderly {change : Entries → Option Entries} (hc : Keeps change)
    {ns ms : List Node} (hns : ∀ n ∈ ns, Orderly n)
    (h : Entries.changeLast change ns = some ms) : ∀ m ∈ ms, Orderly m := by
  induction ns generalizing ms with
  | nil => cases h
  | cons n ns ih =>
    obtain ⟨hn, hrest⟩ := List.forall_mem_cons.mp hns
    cases ns with
    | nil =>
      cases n with
      | table origin es =>
        obtain ⟨es', hes, rfl⟩ := Option.map_eq_some_iff.mp h
        simpa using (hc es es' hn.entries hes).table origin
      | value t => cases h
      | tables elements => cases h
    | cons next ns =>
      have htail : (Entries.changeLast change (next :: ns)).map (n :: ·) = some ms := by
        cases n <;> exact h
      obtain ⟨ms', hms, rfl⟩ := Option.map_eq_some_iff.mp htail
      exact List.forall_mem_cons.mpr ⟨hn, ih hrest hms⟩

theorem changeAt_orderly {change : Entries → Option Entries} (hc : Keeps change)
    (path : List String) : Keeps (Entries.changeAt change path) := by
  induction path with
  | nil => exact hc
  | cons name path ih =>
    intro es es' hes h
    obtain ⟨n, hn, rfl⟩ := Option.map_eq_some_iff.mp h
    refine hes.put ?_ name
    split at hn
    · obtain ⟨inner, hinner, rfl⟩ := Option.map_eq_some_iff.mp hn
      exact (ih [] inner .nil hinner).table _
    · next origin inner hf =>
      obtain ⟨inner', hinner, rfl⟩ := Option.map_eq_some_iff.mp hn
      exact (ih inner inner' (hes.find? hf).entries hinner).table _
    · next elements hf =>
      obtain ⟨ms, hms, rfl⟩ := Option.map_eq_some_iff.mp hn
      exact .tables (changeLast_orderly ih (hes.find? hf).elements hms)
    · cases hn

theorem define_keeps (name : String) : Keeps (Entries.define name) := by
  intro es es' hes h
  unfold Entries.define at h
  split at h
  · cases h
    exact hes.put (OrderlyEntries.nil.table _) name
  · next inner hf =>
    cases h
    exact hes.put ((hes.find? hf).entries.table _) name
  · cases h

theorem extend_keeps (name : String) : Keeps (Entries.extend name) := by
  intro es es' hes h
  have hnew : ∀ n ∈ [Node.table .header []], Orderly n := by
    simpa using OrderlyEntries.nil.table _
  unfold Entries.extend at h
  split at h
  · cases h
    exact hes.put (.tables hnew) name
  · next elements hf =>
    cases h
    refine hes.put (.tables ?_) name
    exact List.forall_mem_append.mpr ⟨(hes.find? hf).elements, hnew⟩
  · cases h

theorem add_keeps (name : String) {t : Tree} (ht : t.Tidy) : Keeps (Entries.add name t) := by
  intro es es' hes h
  unfold Entries.add at h
  split at h
  · cases h
    exact hes.put (.value ht) name
  · cases h

theorem assign_keeps {t : Tree} (ht : t.Tidy) (name : String) (path : List String) :
    Keeps (Entries.assign t name path) := by
  induction path generalizing name with
  | nil => exact add_keeps name ht
  | cons next path ih =>
    intro es es' hes h
    obtain ⟨n, hn, rfl⟩ := Option.map_eq_some_iff.mp h
    refine hes.put ?_ name
    split at hn
    · obtain ⟨inner, hinner, rfl⟩ := Option.map_eq_some_iff.mp hn
      exact (ih next [] inner .nil hinner).table _
    · next inner hf =>
      obtain ⟨inner', hinner, rfl⟩ := Option.map_eq_some_iff.mp hn
      exact (ih next inner inner' (hes.find? hf).entries hinner).table _
    · next inner hf =>
      split at hn
      · cases hn
      · obtain ⟨inner', hinner, rfl⟩ := Option.map_eq_some_iff.mp hn
        exact (ih next inner inner' (hes.find? hf).entries hinner).table _
    · next elements hf =>
      split at hn
      · cases hn
      · obtain ⟨ms, hms, rfl⟩ := Option.map_eq_some_iff.mp hn
        exact .tables (changeLast_orderly (ih next) (hes.find? hf).elements hms)
    · cases hn

theorem bounded_tidy {n : Int} {t : Tree} (h : Toml.Word.bounded n = some t) : t.Tidy := by
  unfold Toml.Word.bounded at h
  split at h
  · cases h
    exact .whole n
  · cases h

theorem radix_tidy {base : Nat} {cs : List Char} {t : Tree}
    (h : Toml.Word.radix? base cs = some t) : t.Tidy := by
  obtain ⟨digits, -, hd⟩ := Option.bind_eq_some_iff.mp h
  exact bounded_tidy hd

theorem decimal_tidy {negative : Bool} {cs : List Char} {t : Tree}
    (h : Toml.Word.decimal? negative cs = some t) : t.Tidy := by
  obtain ⟨whole, -, h⟩ := Option.bind_eq_some_iff.mp h
  split at h
  · obtain ⟨n, -, hn⟩ := Option.bind_eq_some_iff.mp h
    exact bounded_tidy hn
  · split at h
    · cases h
    · split at h
      · obtain ⟨x, -, rfl⟩ := Option.map_eq_some_iff.mp h
        exact .real _
      · cases h

theorem moment_tidy (m : Toml.Moment) : (Toml.Word.ofMoment m).Tidy :=
  Tidy.empty.put (.text m.text) Toml.Word.momentName

theorem number_tidy {cs : List Char} {t : Tree} (h : Toml.Word.number? cs = some t) : t.Tidy := by
  simp only [Toml.Word.number?] at h
  split at h
  all_goals
    split at h
    · cases h
      exact .null
    · exact decimal_tidy h

theorem word_tidy {cs : List Char} {t : Tree} (h : Toml.Word.read? cs = some t) : t.Tidy := by
  unfold Toml.Word.read? at h
  split at h
  · exact radix_tidy h
  · exact radix_tidy h
  · exact radix_tidy h
  · split at h
    · cases h
      exact .bool true
    · split at h
      · cases h
        exact .bool false
      · split at h
        · obtain ⟨m, -, rfl⟩ := Option.map_eq_some_iff.mp h
          exact moment_tidy m
        · exact number_tidy h

mutual

theorem readValue_tidy (fuel room : Nat) (cs : List Char) {t : Tree} {rest : List Char}
    (h : Toml.readValue fuel room cs = some (t, rest)) : t.Tidy := by
  match fuel with
  | 0 => simp [Toml.readValue] at h
  | fuel + 1 =>
    unfold Toml.readValue at h
    split at h
    · split at h
      · cases h
      · obtain ⟨⟨items, rest'⟩, hitems, heq⟩ := Option.map_eq_some_iff.mp h
        cases heq
        exact .list (readItems_tidy fuel _ _ hitems)
    · split at h
      · cases h
      · obtain ⟨⟨es, rest'⟩, hes, heq⟩ := Option.map_eq_some_iff.mp h
        cases heq
        exact (readInline_orderly fuel _ _ .nil hes).tidy
    · split at h
      · obtain ⟨⟨s, rest'⟩, -, heq⟩ := Option.map_eq_some_iff.mp h
        cases heq
        exact .text s
      · obtain ⟨u, hu, heq⟩ := Option.map_eq_some_iff.mp h
        cases heq
        exact word_tidy hu

theorem readItems_tidy (fuel room : Nat) (cs : List Char) {ts : List Tree} {rest : List Char}
    (h : Toml.readItems fuel room cs = some (ts, rest)) : ∀ t ∈ ts, t.Tidy := by
  match fuel with
  | 0 => simp [Toml.readItems] at h
  | fuel + 1 =>
    unfold Toml.readItems at h
    split at h
    · cases h
    · cases h
      simp
    · split at h
      · cases h
      · next item rest' hitem =>
        have ht := readValue_tidy fuel room _ hitem
        split at h
        · obtain ⟨⟨items, rest'⟩, hitems, heq⟩ := Option.map_eq_some_iff.mp h
          cases heq
          exact List.forall_mem_cons.mpr ⟨ht, readItems_tidy fuel room _ hitems⟩
        · cases h
          simpa using ht
        · cases h

theorem readInline_orderly (fuel room : Nat) (cs : List Char) {es es' : Entries}
    {rest : List Char} (hes : OrderlyEntries es)
    (h : Toml.readInline fuel room es cs = some (es', rest)) : OrderlyEntries es' := by
  match fuel with
  | 0 => simp [Toml.readInline] at h
  | fuel + 1 =>
    unfold Toml.readInline at h
    split at h
    · cases h
    · cases h
      exact hes
    · split at h
      · cases h
      · next es₁ rest' hentry =>
        have hes₁ := readInlineEntry_orderly fuel room _ hes hentry
        split at h
        · exact readInline_orderly fuel room _ hes₁ h
        · cases h
          exact hes₁
        · cases h

theorem readInlineEntry_orderly (fuel room : Nat) (cs : List Char) {es es' : Entries}
    {rest : List Char} (hes : OrderlyEntries es)
    (h : Toml.readInlineEntry fuel room es cs = some (es', rest)) : OrderlyEntries es' := by
  match fuel with
  | 0 => simp [Toml.readInlineEntry] at h
  | fuel + 1 =>
    unfold Toml.readInlineEntry at h
    split at h
    · cases h
    · split at h
      · split at h
        · next value rest' hvalue =>
          obtain ⟨cs', -, hread⟩ := Option.bind_eq_some_iff.mp hvalue
          obtain ⟨es₁, hassign, heq⟩ := Option.map_eq_some_iff.mp h
          cases heq
          exact assign_keeps (readValue_tidy fuel room cs' hread) _ _ _ _ hes hassign
        · cases h
      · cases h

end

/-- The value that a statement assigns is in order. -/
def Assigns : Toml.Statement → Prop
  | .entry _ _ content => content.Tidy
  | _ => True

theorem readStatement_assigns {cs rest : List Char} {s : Toml.Statement}
    (h : Toml.readStatement cs = some (s, rest)) : Assigns s := by
  unfold Toml.readStatement at h
  split at h
  · split at h
    · cases h
      trivial
    · cases h
  · obtain ⟨⟨⟨path, name⟩, rest'⟩, -, heq⟩ := Option.map_eq_some_iff.mp h
    cases heq
    trivial
  · split at h
    · obtain ⟨⟨value, rest'⟩, hvalue, heq⟩ := Option.map_eq_some_iff.mp h
      cases heq
      exact readValue_tidy _ _ _ hvalue
    · cases h

theorem readStatements_assign (fuel : Nat) (cs : List Char) {ss : List Toml.Statement}
    (h : Toml.readStatements fuel cs = some ss) : ∀ s ∈ ss, Assigns s := by
  induction fuel generalizing cs ss with
  | zero => cases h
  | succ fuel ih =>
    unfold Toml.readStatements at h
    split at h
    · cases h
    · cases h
      simp
    · split at h
      · cases h
      · next s rest hs =>
        obtain ⟨rest', hrest, rfl⟩ := Option.map_eq_some_iff.mp h
        obtain ⟨cs', -, hread⟩ := Option.bind_eq_some_iff.mp hrest
        exact List.forall_mem_cons.mpr ⟨readStatement_assigns hs, ih cs' hread⟩

theorem apply_orderly {d d' : Toml.Draft} {s : Toml.Statement} (hd : OrderlyEntries d.entries)
    (hs : Assigns s) (h : d.apply s = some d') : OrderlyEntries d'.entries := by
  cases s with
  | table path name =>
    obtain ⟨es, hes, rfl⟩ := Option.map_eq_some_iff.mp h
    exact changeAt_orderly (define_keeps name) path _ _ hd hes
  | element path name =>
    obtain ⟨es, hes, rfl⟩ := Option.map_eq_some_iff.mp h
    exact changeAt_orderly (extend_keeps name) path _ _ hd hes
  | entry name path content =>
    obtain ⟨es, hes, rfl⟩ := Option.map_eq_some_iff.mp h
    exact changeAt_orderly (assign_keeps hs name path) _ _ _ hd hes

theorem statements_orderly {ss : List Toml.Statement} {d d' : Toml.Draft}
    (hd : OrderlyEntries d.entries) (hs : ∀ s ∈ ss, Assigns s)
    (h : ss.foldlM Toml.Draft.apply d = some d') : OrderlyEntries d'.entries := by
  induction ss generalizing d with
  | nil =>
    cases h
    exact hd
  | cons s ss ih =>
    obtain ⟨hfirst, hrest⟩ := List.forall_mem_cons.mp hs
    rw [List.foldlM_cons] at h
    obtain ⟨d₁, hd₁, h⟩ := Option.bind_eq_some_iff.mp h
    exact ih (apply_orderly hd hfirst hd₁) hrest h

theorem toml_tidyRecord {s : String} {t : Tree} (h : Toml.parse? s = some t) :
    TidyRecord t := by
  obtain ⟨ss, hss, h⟩ := Option.bind_eq_some_iff.mp h
  obtain ⟨d, hd, rfl⟩ := Option.map_eq_some_iff.mp h
  exact ⟨(statements_orderly .nil (readStatements_assign _ _ hss) hd).tidy, rfl⟩

end

theorem scalar_tidy (raw : String) : (Tree.ofScalar raw).Tidy := by
  unfold Tree.ofScalar
  repeat' split
  all_goals constructor

theorem applySettings_tidyRecord {settings : List (String × Tree)}
    (hs : ∀ s ∈ settings, s.2.Tidy) {t : Tree} (ht : TidyRecord t) :
    TidyRecord (Config.applySettings settings t) := by
  unfold Config.applySettings
  induction settings generalizing t with
  | nil => exact ht
  | cons s settings ih =>
    obtain ⟨hfirst, hrest⟩ := List.forall_mem_cons.mp hs
    exact ih hrest (ht.insertAt hfirst _)

theorem settingsOf_tidy (lead : Option String) (environment : Environment) :
    ∀ s ∈ Config.settingsOf lead environment, s.2.Tidy := by
  intro s hs
  obtain ⟨entry, -, he⟩ := List.mem_filterMap.mp (List.mem_mergeSort.mp hs)
  obtain ⟨rest, -, rfl⟩ := Option.map_eq_some_iff.mp he
  exact scalar_tidy entry.2

theorem ofAssignments_tidyRecord (assignments : List (String × String)) :
    TidyRecord (Config.ofAssignments assignments) := by
  refine applySettings_tidyRecord ?_ .empty
  intro s hs
  obtain ⟨a, -, rfl⟩ := List.mem_map.mp hs
  exact scalar_tidy a.2

/-- Whatever the format, an accepted text makes a record in order. -/
theorem parseText_tidyRecord {environment : Environment} {format : Config.Format}
    {content : String} {t : Tree} (h : Config.parseText environment format content = .ok t) :
    TidyRecord t := by
  unfold Config.parseText at h
  cases format with
  | json =>
    dsimp only at h
    split at h
    · cases h
    · next u hu =>
      split at h
      · next hr =>
        cases h
        exact ⟨json_tidy hu, hr⟩
      · cases h
  | toml =>
    dsimp only at h
    split at h
    · cases h
    · next u hu =>
      cases h
      exact toml_tidyRecord hu
  | env =>
    dsimp only at h
    split at h
    · cases h
    · cases h
      exact ofAssignments_tidyRecord _

theorem parseFile_tidyRecord {environment : Environment} {folder : Config.Folder} {path : String}
    {t : Tree} (h : Config.parseFile environment folder path = .ok t) : TidyRecord t := by
  unfold Config.parseFile at h
  split at h
  · cases h
  · split at h
    · cases h
    · exact parseText_tidyRecord h

end Switchboard.Proofs.Sources
