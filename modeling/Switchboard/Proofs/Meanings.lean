import Mathlib.Data.List.Forall2
import Mathlib.Data.List.Nodup
import Switchboard.Json.Pick
import Switchboard.Proofs.Chains

namespace Switchboard.Proofs.Meanings
open Json Switchboard.Tree

/-- No object names a member twice, at any depth. -/
inductive Unambiguous : Document → Prop
  | null : Unambiguous .null
  | bool (value : Bool) : Unambiguous (.bool value)
  | number (numeral : Numeral) : Unambiguous (.number numeral)
  | text (value : Option String) : Unambiguous (.text value)
  | list {items : List Document} : (∀ d ∈ items, Unambiguous d) → Unambiguous (.list items)
  | object {members : List (Option String × Document)} : (members.map (·.1)).Nodup →
      (∀ m ∈ members, Unambiguous m.2) → Unambiguous (.object members)

/-- A document without ambiguity, and its value. -/
structure Says (d : Document) (t : Tree) : Prop where
  unambiguous : Unambiguous d
  value : ∃ room, toTree? room d = some t

section
variable {room : Nat}

theorem toTrees?_some_iff {ds : List Document} {ts : List Tree} :
    toTrees? room ds = some ts ↔ ds.map (toTree? room) = ts.map some := by
  induction ds generalizing ts with
  | nil => cases ts <;> simp [toTrees?]
  | cons d ds ih =>
    rw [toTrees?, List.map_cons]
    cases hd : toTree? room d with
    | none => cases ts <;> simp
    | some t =>
      cases ts with
      | nil => simp
      | cons u us => simp [← ih, and_comm]

theorem toFields?_some_iff {members : List (Option String × Document)}
    {entries : List (String × Tree)} : toFields? room members = some entries ↔
      members.map (fun m => (m.1, toTree? room m.2)) =
        entries.map fun e => (some e.1, some e.2) := by
  induction members generalizing entries with
  | nil => cases entries <;> simp [toFields?]
  | cons m members ih =>
    obtain ⟨name, d⟩ := m
    cases name with
    | none => cases entries <;> simp [toFields?]
    | some n =>
      cases hd : toTree? room d with
      | none => cases entries <;> simp [toFields?, hd]
      | some t =>
        cases entries with
        | nil => simp [toFields?, hd]
        | cons e entries =>
          obtain ⟨m, u⟩ := e
          simp [toFields?, hd, ← ih, and_comm]

theorem number_value {n : Numeral} {t : Tree} (h : n.toTree? = some t) :
    (∃ k, t = .whole k) ∨ ∃ x, t = .real x := by
  unfold Numeral.toTree? at h
  simp only at h
  split at h
  · obtain ⟨x, -, rfl⟩ := Option.map_eq_some_iff.mp h
    exact .inr ⟨x, rfl⟩
  · split at h
    · split at h
      · exact .inr ⟨_, (Option.some.inj h).symm⟩
      · split at h
        · exact .inr ⟨_, (Option.some.inj h).symm⟩
        · exact .inl ⟨_, (Option.some.inj h).symm⟩
    · exact .inl ⟨_, (Option.some.inj h).symm⟩

end

/-- The outermost layer of a document and of its value. -/
inductive Layer : Document → Tree → Prop
  | null : Layer .null .null
  | bool (b : Bool) : Layer (.bool b) (.bool b)
  | whole {n : Numeral} {k : Int} : n.toTree? = some (.whole k) → Layer (.number n) (.whole k)
  | real {n : Numeral} {x : Number.Binary64} : n.toTree? = some (.real x) →
      Layer (.number n) (.real x)
  | text (s : String) : Layer (.text (some s)) (.text s)
  | list {items : List Document} {ts : List Tree} : List.Forall₂ Says items ts →
      Layer (.list items) (.list ts)
  | record {members : List (Option String × Document)} {entries : List (String × Tree)} :
      (entries.map (·.1)).Nodup →
      List.Forall₂ (fun m e => m.1 = some e.1 ∧ Says m.2 e.2) members entries →
      Layer (.object members) (.record (Fields.ofList entries))

section
variable {d : Document} {t : Tree} {room : Nat}

theorem forall₂_of_toTrees? {items : List Document} {ts : List Tree}
    (hu : ∀ d ∈ items, Unambiguous d) (h : toTrees? room items = some ts) :
    List.Forall₂ Says items ts := by
  rw [toTrees?_some_iff] at h
  induction items generalizing ts with
  | nil =>
    cases ts with
    | nil => exact .nil
    | cons t ts => cases h
  | cons d ds ih =>
    obtain ⟨hd, hds⟩ := List.forall_mem_cons.mp hu
    cases ts with
    | nil => cases h
    | cons t ts =>
      obtain ⟨hhead, htail⟩ := List.cons.inj h
      exact .cons ⟨hd, room, hhead⟩ (ih hds htail)

theorem forall₂_of_toFields? {members : List (Option String × Document)}
    {entries : List (String × Tree)} (hu : ∀ m ∈ members, Unambiguous m.2)
    (h : toFields? room members = some entries) :
    List.Forall₂ (fun m e => m.1 = some e.1 ∧ Says m.2 e.2) members entries := by
  rw [toFields?_some_iff] at h
  induction members generalizing entries with
  | nil =>
    cases entries with
    | nil => exact .nil
    | cons e entries => cases h
  | cons m members ih =>
    obtain ⟨hm, hms⟩ := List.forall_mem_cons.mp hu
    cases entries with
    | nil => cases h
    | cons e entries =>
      obtain ⟨hhead, htail⟩ := List.cons.inj h
      obtain ⟨hname, hvalue⟩ := Prod.mk.inj hhead
      exact .cons ⟨hname, hm, room, hvalue⟩ (ih hms htail)

theorem names_of_forall₂ {members : List (Option String × Document)}
    {entries : List (String × Tree)}
    (h : List.Forall₂ (fun m e => m.1 = some e.1 ∧ Says m.2 e.2) members entries) :
    members.map (·.1) = (entries.map (·.1)).map some := by
  induction h with
  | nil => rfl
  | cons hhead _ ih => rw [List.map_cons, List.map_cons, List.map_cons, ih, hhead.1]

theorem Says.layer (h : Says d t) : Layer d t := by
  obtain ⟨hu, room, hvalue⟩ := h
  cases hu with
  | null =>
    cases hvalue
    exact .null
  | bool b =>
    cases hvalue
    exact .bool b
  | number n =>
    have hn : n.toTree? = some t := hvalue
    rcases number_value hn with ⟨k, rfl⟩ | ⟨x, rfl⟩
    · exact .whole hn
    · exact .real hn
  | text s =>
    obtain ⟨s, rfl, rfl⟩ := Option.map_eq_some_iff.mp hvalue
    exact .text s
  -- A container that has a value had room for one more layer.
  | list hitems =>
    cases room with
    | zero => cases hvalue
    | succ room =>
      obtain ⟨ts, hts, rfl⟩ := Option.map_eq_some_iff.mp hvalue
      exact .list (forall₂_of_toTrees? hitems hts)
  | object hnames hmembers =>
    cases room with
    | zero => cases hvalue
    | succ room =>
      obtain ⟨entries, hentries, rfl⟩ := Option.map_eq_some_iff.mp hvalue
      have hall := forall₂_of_toFields? hmembers hentries
      rw [names_of_forall₂ hall] at hnames
      exact .record (List.Nodup.of_map _ hnames) hall

theorem Says.text? {s : String} (h : Says d (.text s)) : d.text? = some s := by
  cases h.layer
  rfl

theorem Says.natural? {n most : Nat} (h : Says d (.whole n)) (hn : n ≤ most) :
    d.natural? most = some n := by
  cases h.layer with
  | whole hvalue => simp [Document.natural?, hvalue, hn]

theorem Says.items {ts : List Tree} (h : Says d (.list ts)) :
    ∃ items, d = .list items ∧ List.Forall₂ Says items ts := by
  cases h.layer with
  | list hitems => exact ⟨_, rfl, hitems⟩

end

section
variable {members : List (Option String × Document)} {entries : List (String × Tree)}

theorem rel_find? (h : List.Forall₂ (fun m e => m.1 = some e.1 ∧ Says m.2 e.2) members entries)
    (name : String) : Option.Rel Says (Document.members?.find? members name)
      ((entries.find? (·.1 = name)).map (·.2)) := by
  unfold Document.members?.find?
  induction h with
  | nil => exact .none
  | @cons m e members entries hhead _ ih =>
    rw [List.find?_cons, List.find?_cons, hhead.1]
    by_cases hn : e.1 = name
    · simpa [hn] using Option.Rel.some hhead.2
    · simpa [hn] using ih

theorem count_le_one (hnames : (entries.map (·.1)).Nodup)
    (h : members.map (·.1) = (entries.map (·.1)).map some) (name : String) :
    Document.members?.count members name ≤ 1 := by
  have hnodup : (members.map (·.1)).Nodup := h ▸ hnames.map fun _ _ => Option.some.inj
  have hcount := List.nodup_iff_count_le_one.mp hnodup (some name)
  rw [List.count, List.countP_map] at hcount
  refine Nat.le_trans (Nat.le_of_eq (List.countP_congr ?_)) hcount
  simp

end

section
variable {d : Document}

/-- Members are picked as they stand in the value, and one that is missing there is missing. -/
theorem Says.members? {fields : List (String × Tree)} (h : Says d (.record fields)) :
    ∃ found : String → Option Document,
      (∀ names, d.members? names = some (names.map found)) ∧
      (∀ name t, Fields.find? name fields = some t → ∃ m, found name = some m ∧ Says m t) ∧
      ∀ name, Fields.find? name fields = none → found name = none := by
  cases h.layer with
  | @record members entries hnames hall =>
    have hrel : ∀ name, Option.Rel Says (Document.members?.find? members name)
        (Fields.find? name (Fields.ofList entries)) := by
      intro name
      rw [Fields.find?_ofList hnames]
      exact rel_find? hall name
    refine ⟨Document.members?.find? members, ?_, ?_, ?_⟩
    · intro names
      have hnamed := names_of_forall₂ hall
      have hreadable : members.all (·.1.isSome) = true := by
        have hsome : ((members.map (·.1)).all Option.isSome) = true := by
          rw [hnamed, List.all_map]
          exact List.all_eq_true.mpr fun _ _ => rfl
        rwa [List.all_map] at hsome
      have hcounts : names.all (Document.members?.count members · ≤ 1) = true := by
        rw [List.all_eq_true]
        exact fun name _ => decide_eq_true (count_le_one hnames hnamed name)
      rw [Document.members?, hreadable, hcounts]
      rfl
    · intro name t ht
      have hname := hrel name
      rw [ht] at hname
      generalize Document.members?.find? members name = m at hname
      cases hname with
      | some hmeans => exact ⟨_, rfl, hmeans⟩
    · intro name hnone
      have hname := hrel name
      rw [hnone] at hname
      generalize Document.members?.find? members name = m at hname
      cases hname
      rfl

/-- Values that are all texts come from texts. -/
theorem exists_texts {entries : List (String × Tree)} (h : ∀ e ∈ entries, ∃ s, e.2 = .text s) :
    ∃ texts : List (String × String), entries = texts.map fun e => (e.1, .text e.2) := by
  induction entries with
  | nil => exact ⟨[], rfl⟩
  | cons e entries ih =>
    obtain ⟨⟨s, hs⟩, hrest⟩ := List.forall_mem_cons.mp h
    obtain ⟨texts, rfl⟩ := ih hrest
    exact ⟨(e.1, s) :: texts, by rw [List.map_cons, ← hs]⟩

theorem mapM_readEntry {members : List (Option String × Document)} {texts : List (String × String)}
    (h : List.Forall₂ (fun m e => m.1 = some e.1 ∧ Says m.2 e.2) members
      (texts.map fun e => (e.1, .text e.2))) :
    members.mapM (Document.entries?.readEntry Document.text?) = some texts := by
  rw [Chains.mapM_some_iff]
  induction texts generalizing members with
  | nil =>
    cases h
    rfl
  | cons e texts ih =>
    cases h with
    | @cons m _ members _ hhead htail =>
      obtain ⟨name, d⟩ := m
      obtain ⟨rfl, hmeans⟩ := hhead
      rw [List.map_cons, List.map_cons, ih htail, Document.entries?.readEntry, hmeans.text?]
      rfl

theorem mem_ofList_of_mem {entries : List (String × Tree)} (hnames : (entries.map (·.1)).Nodup)
    {e : String × Tree} (he : e ∈ entries) : e ∈ Fields.ofList entries := by
  have hfound : (entries.find? (·.1 = e.1)).isSome = true :=
    List.find?_isSome.mpr ⟨e, he, decide_eq_true rfl⟩
  obtain ⟨other, hother⟩ := Option.isSome_iff_exists.mp hfound
  have hname : other.1 = e.1 := by simpa using List.find?_some hother
  have hsame : other = e :=
    List.inj_on_of_nodup_map hnames (List.mem_of_find?_eq_some hother) he hname
  apply Fields.mem_of_find?
  rw [Fields.find?_ofList hnames, hother, hsame]
  rfl

/-- A map from texts to texts is picked whole. -/
theorem Says.texts {pairs : List (String × String)}
    (h : Says d (.record (pairs.map fun e => (e.1, .text e.2)))) :
    d.entries? Document.text? = some pairs := by
  generalize hpairs : pairs.map (fun e => (e.1, Tree.text e.2)) = fields at h
  cases h.layer with
  | @record members entries hnames hall =>
    have htexts : ∀ e ∈ entries, ∃ s, e.2 = .text s := by
      intro e he
      have hmem := mem_ofList_of_mem hnames he
      rw [← hpairs] at hmem
      obtain ⟨pair, -, rfl⟩ := List.mem_map.mp hmem
      exact ⟨pair.2, rfl⟩
    obtain ⟨texts, rfl⟩ := exists_texts htexts
    rw [Fields.ofList_map] at hpairs
    have hinj : Function.Injective fun e : String × String => (e.1, Tree.text e.2) := by
      intro a b hab
      obtain ⟨hname, htext⟩ := Prod.mk.inj hab
      exact Prod.ext hname (Tree.text.inj htext)
    rw [Document.entries?, mapM_readEntry hall, Option.map_some,
      List.map_injective_iff.mpr hinj hpairs]

/-- A reader that has nothing for null is not kept from anything else. -/
theorem nullable?_eq_some {α : Type} {read : Document → Option α} {a : α}
    (hnull : read .null = none) (h : read d = some a) :
    Document.nullable? read d = some (some a) := by
  cases d with
  | null =>
    rw [hnull] at h
    cases h
  | _ => simp [Document.nullable?, h]

end

end Switchboard.Proofs.Meanings
