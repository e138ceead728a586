import Switchboard.Tree.Basic

namespace Switchboard.Tree

inductive Tidy : Tree → Prop where
  | null : Tidy .null
  | bool (value : Bool) : Tidy (.bool value)
  | whole (value : Int) : Tidy (.whole value)
  | real (value : Number.Binary64) : Tidy (.real value)
  | text (value : String) : Tidy (.text value)
  | list {items : List Tree} (each : ∀ t ∈ items, Tidy t) : Tidy (.list items)
  | record {fields : List (String × Tree)} (ascending : Fields.Ascending fields)
      (each : ∀ f ∈ fields, Tidy f.2) : Tidy (.record fields)

/-- A tree in order. -/
abbrev Value := { t : Tree // t.Tidy }

/-- A record in order. -/
structure TidyRecord (t : Tree) : Prop where
  tidy : t.Tidy
  isRecord : t.isRecord = true

theorem Tidy.empty : Tidy .empty :=
  .record .nil (by simp)

theorem Tidy.fields {t : Tree} (h : t.Tidy) :
    Fields.Ascending t.fields ∧ ∀ f ∈ t.fields, f.2.Tidy := by
  cases h with
  | record ascending each => exact ⟨ascending, each⟩
  | _ => exact ⟨.nil, by simp [Tree.fields]⟩

theorem Tidy.find? {t u : Tree} (h : t.Tidy) {name : String}
    (hu : Fields.find? name t.fields = some u) : u.Tidy :=
  h.fields.2 _ (Fields.mem_of_find? hu)

theorem Tidy.put {t u : Tree} (ht : t.Tidy) (hu : u.Tidy) (name : String) :
    Tidy (.record (Fields.put name u t.fields)) := by
  refine .record (ht.fields.1.put name u) ?_
  intro f hf
  rcases Fields.mem_put hf with rfl | hf
  · exact hu
  · exact ht.fields.2 f hf

/-- The tree itself, apart from what a record holds. -/
def outline : Tree → Tree
  | .record _ => .empty
  | t => t

theorem eq_of_outline {t u : Tree} (h : t.outline = u.outline) (ht : t.isRecord = false) :
    t = u := by
  cases t <;> cases u <;> simp_all [outline, isRecord, empty]

theorem isRecord_of_outline {t u : Tree} (h : t.outline = u.outline) (ht : t.isRecord = true) :
    u.isRecord = true := by
  cases t <;> cases u <;> simp_all [outline, isRecord, empty]

theorem eq_record {t : Tree} (h : t.isRecord = true) : t = .record t.fields := by
  cases t <;> simp_all [isRecord, Tree.fields]

theorem outline_of_record {t : Tree} (h : t.isRecord = true) : t.outline = .empty := by
  rw [eq_record h]
  rfl

@[simp] theorem fields_record (fields : List (String × Tree)) :
    (Tree.record fields).fields = fields := rfl

theorem fields_of_not_record {t : Tree} (h : t.isRecord = false) : t.fields = [] := by
  cases t <;> simp_all [isRecord, Tree.fields]

@[simp] theorem at?_nil (t : Tree) : t.at? [] = some t := rfl

theorem at?_cons (t : Tree) (name : String) (path : List String) :
    t.at? (name :: path) = (Fields.find? name t.fields).bind (at? path) := rfl

theorem at?_of_find? {t u : Tree} {name : String} (h : Fields.find? name t.fields = some u)
    (path : List String) : t.at? (name :: path) = u.at? path := by
  rw [at?_cons, h, Option.bind_some]

theorem at?_singleton (t : Tree) (name : String) : t.at? [name] = Fields.find? name t.fields := by
  rw [at?_cons]
  cases Fields.find? name t.fields <;> rfl

theorem Tidy.at? {path : List String} {t u : Tree} (ht : t.Tidy) (h : t.at? path = some u) :
    u.Tidy := by
  induction path generalizing t with
  | nil => exact Option.some.inj h ▸ ht
  | cons name path ih =>
    obtain ⟨v, hv, hu⟩ := Option.bind_eq_some_iff.mp h
    exact ih (ht.find? hv) hu

/-- Trees in order with the same outline at every path are the same. -/
theorem Tidy.ext {t u : Tree} (ht : t.Tidy) (hu : u.Tidy)
    (h : ∀ path, (t.at? path).map outline = (u.at? path).map outline) : t = u := by
  induction ht generalizing u with
  | record ascending each ih =>
    rw [eq_record (isRecord_of_outline (Option.some.inj (h [])) rfl)]
    congr 1
    apply ascending.ext hu.fields.1
    intro name
    have hname := h [name]
    rw [at?_singleton, at?_singleton, fields_record] at hname
    cases hv : Fields.find? name _ with
    | none =>
      rw [hv] at hname
      exact (Option.map_eq_none_iff.mp hname.symm).symm
    | some v =>
      cases hw : Fields.find? name u.fields with
      | none => simp [hv, hw] at hname
      | some w =>
        have hpath : ∀ path, (v.at? path).map outline = (w.at? path).map outline := by
          intro path
          rw [← at?_of_find? hw, ← h (name :: path), at?_of_find? (t := .record _) hv]
        exact congrArg some (ih (name, v) (Fields.mem_of_find? hv) (hu.find? hw) hpath)
  | _ => exact eq_of_outline (Option.some.inj (h [])) rfl

/-- What stands under the first name of a path once a value is written at the path. -/
def inserted (value : Tree) (path : List String) (inner : Option Tree) : Tree :=
  if path = [] then value else insertAt value path (inner.getD empty)

theorem insertAt_cons (value : Tree) (name : String) (path : List String) (t : Tree) :
    insertAt value (name :: path) t =
      .record (Fields.put name (inserted value path (Fields.find? name t.fields)) t.fields) := by
  cases path <;> simp [insertAt, inserted]

theorem Tidy.insertAt {value t : Tree} (hv : value.Tidy) (ht : t.Tidy) (path : List String) :
    (insertAt value path t).Tidy := by
  induction path generalizing t with
  | nil => exact ht
  | cons name path ih =>
    rw [insertAt_cons]
    refine ht.put ?_ name
    unfold inserted
    split
    · exact hv
    · apply ih
      cases hf : Fields.find? name t.fields with
      | none => exact .empty
      | some u => exact ht.find? hf

theorem TidyRecord.empty : TidyRecord .empty :=
  ⟨.empty, rfl⟩

theorem TidyRecord.insertAt {value t : Tree} (ht : TidyRecord t) (hv : value.Tidy)
    (path : List String) : TidyRecord (insertAt value path t) := by
  refine ⟨hv.insertAt ht.tidy path, ?_⟩
  cases path with
  | nil => exact ht.isRecord
  | cons name path =>
    rw [insertAt_cons]
    rfl

end Switchboard.Tree
