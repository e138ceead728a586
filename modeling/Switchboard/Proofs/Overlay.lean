import Switchboard.Tree.Tidy

namespace Switchboard.Proofs.Overlay
open Switchboard.Tree

/-- What the way down a path comes to: a value, something that is no record before the path ends, or
a record without the next name. -/
inductive Finding where
  | value (t : Tree)
  | barred
  | missing

/-- Follows a path from a tree. -/
def explore : List String → Tree → Finding
  | [], t => .value t
  | name :: path, .record fields =>
    match Fields.find? name fields with
    | some t => explore path t
    | none => .missing
  | _ :: _, _ => .barred

/-- Something other than a record stands above the end of the path. -/
def Bars (t : Tree) (path : List String) : Prop :=
  ∃ front u, front <+: path ∧ front ≠ path ∧ t.at? front = some u ∧ u.isRecord = false

theorem explore_of_find? {t u : Tree} {name : String} (h : Fields.find? name t.fields = some u)
    (path : List String) : explore (name :: path) t = explore path u := by
  cases t <;> simp_all [explore, Tree.fields, Fields.find?]

theorem explore_of_missing {t : Tree} {name : String} (ht : t.isRecord = true)
    (h : Fields.find? name t.fields = none) (path : List String) :
    explore (name :: path) t = .missing := by
  cases t <;> simp_all [explore, Tree.fields, isRecord]

theorem explore_of_not_record {t : Tree} (ht : t.isRecord = false) (name : String)
    (path : List String) : explore (name :: path) t = .barred := by
  cases t <;> simp_all [explore, isRecord]

theorem at?_of_explore (path : List String) (t : Tree) :
    t.at? path = match explore path t with
      | .value u => some u
      | _ => none := by
  induction path generalizing t with
  | nil => rfl
  | cons name path ih =>
    rw [at?_cons]
    cases hf : Fields.find? name t.fields with
    | some u => rw [explore_of_find? hf, Option.bind_some, ih]
    | none =>
      cases ht : t.isRecord with
      | true => rw [explore_of_missing ht hf, Option.bind_none]
      | false => rw [explore_of_not_record ht, Option.bind_none]

theorem bars_cons_of_find? {t u : Tree} {name : String} (h : Fields.find? name t.fields = some u)
    (path : List String) : Bars t (name :: path) ↔ Bars u path := by
  have ht : t.isRecord = true := by
    cases t <;> simp_all [Tree.fields, Fields.find?, isRecord]
  constructor
  · rintro ⟨front, v, hp, hne, hv, hr⟩
    cases front with
    | nil =>
      obtain rfl := Option.some.inj hv
      simp [ht] at hr
    | cons first front =>
      obtain ⟨rfl, hfront⟩ := List.cons_prefix_cons.mp hp
      rw [at?_of_find? h] at hv
      exact ⟨front, v, hfront, by simpa using hne, hv, hr⟩
  · rintro ⟨front, v, hp, hne, hv, hr⟩
    refine ⟨name :: front, v, List.cons_prefix_cons.mpr ⟨rfl, hp⟩, by simpa using hne, ?_, hr⟩
    rw [at?_of_find? h, hv]

theorem bars_iff (path : List String) (t : Tree) : Bars t path ↔ explore path t = .barred := by
  induction path generalizing t with
  | nil =>
    constructor
    · rintro ⟨front, u, hp, hne, -⟩
      exact absurd (List.prefix_nil.mp hp) hne
    · intro h
      cases h
  | cons name path ih =>
    cases hf : Fields.find? name t.fields with
    | some u => rw [bars_cons_of_find? hf, explore_of_find? hf, ih]
    | none =>
      cases ht : t.isRecord with
      | false =>
        rw [explore_of_not_record ht]
        exact ⟨fun _ => rfl, fun _ => ⟨[], t, List.nil_prefix, by simp, rfl, ht⟩⟩
      | true =>
        rw [explore_of_missing ht hf]
        constructor
        · rintro ⟨front, u, hp, hne, hu, hr⟩
          cases front with
          | nil =>
            obtain rfl := Option.some.inj hu
            simp [ht] at hr
          | cons first front =>
            obtain ⟨rfl, -⟩ := List.cons_prefix_cons.mp hp
            simp [at?_cons, hf] at hu
        · intro h
          cases h

theorem explore_eq_value {path : List String} {t u : Tree} (h : t.at? path = some u) :
    explore path t = .value u := by
  rw [at?_of_explore] at h
  cases hf : explore path t <;> simp_all

theorem explore_eq_missing {path : List String} {t : Tree} (h : t.at? path = none)
    (hb : ¬Bars t path) : explore path t = .missing := by
  rw [at?_of_explore] at h
  rw [bars_iff] at hb
  cases hf : explore path t <;> simp_all

/-- A value over what stands where it goes. -/
def laid (o : Tree) : Option Tree → Tree
  | some b => b.merge o
  | none => o

theorem merge_of_not_record {o : Tree} (ho : o.isRecord = false) (b : Tree) : b.merge o = o := by
  cases o <;> simp_all [merge, isRecord]

theorem merge_into_other {b : Tree} (hb : b.isRecord = false) (overlay : List (String × Tree)) :
    b.merge (.record overlay) = .record overlay := by
  cases b <;> simp_all [merge, isRecord]

theorem merge_records (base overlay : List (String × Tree)) :
    (Tree.record base).merge (.record overlay) = .record (mergeFields base overlay) := by
  rw [merge]

theorem outline_merge (b o : Tree) : (b.merge o).outline = o.outline := by
  cases o <;> cases b <;> simp [merge, outline]

theorem isRecord_merge (b o : Tree) : (b.merge o).isRecord = o.isRecord := by
  cases o <;> cases b <;> simp [merge, isRecord]

theorem find?_mergeFields {overlay : List (String × Tree)} (h : Fields.Ascending overlay)
    (name : String) (base : List (String × Tree)) :
    Fields.find? name (mergeFields base overlay) = match Fields.find? name overlay with
      | some o => some (laid o (Fields.find? name base))
      | none => Fields.find? name base := by
  induction overlay generalizing base with
  | nil => simp [mergeFields, Fields.find?]
  | cons entry overlay ih =>
    obtain ⟨n, o⟩ := entry
    obtain ⟨hlt, hrest⟩ := List.pairwise_cons.mp h
    rw [mergeFields, ih hrest]
    by_cases hn : name = n
    · subst hn
      have hnone : Fields.find? name overlay = none := by
        cases hf : Fields.find? name overlay with
        | none => rfl
        | some o' => exact absurd (hlt _ (Fields.mem_of_find? hf)) (String.lt_irrefl _)
      rw [hnone, Fields.find?_put_self]
      simp only [Fields.find?, if_pos]
      cases Fields.find? name base <;> rfl
    · rw [Fields.find?_put_of_ne hn]
      simp [Fields.find?, hn]

/-- Under a name of a record laid over anything. -/
theorem find?_merge {overlay : List (String × Tree)} (h : Fields.Ascending overlay)
    (name : String) (b : Tree) :
    Fields.find? name (b.merge (.record overlay)).fields = match Fields.find? name overlay with
      | some o => some (laid o (Fields.find? name b.fields))
      | none => Fields.find? name b.fields := by
  cases hb : b.isRecord with
  | true =>
    rw [eq_record hb, merge_records]
    exact find?_mergeFields h name b.fields
  | false =>
    rw [merge_into_other hb, fields_record, fields_of_not_record hb]
    cases Fields.find? name overlay <;> rfl

theorem mergeFields_tidy {base overlay : List (String × Tree)} (hb : Tidy (.record base))
    (ho : ∀ f ∈ overlay, f.2.Tidy ∧ ∀ b : Tree, b.Tidy → (b.merge f.2).Tidy) :
    Tidy (.record (mergeFields base overlay)) := by
  induction overlay generalizing base with
  | nil => exact hb
  | cons entry overlay ih =>
    obtain ⟨⟨htidy, hmerge⟩, hrest⟩ := List.forall_mem_cons.mp ho
    rw [mergeFields]
    refine ih (hb.put ?_ entry.1) hrest
    cases hf : Fields.find? entry.1 base with
    | none => exact htidy
    | some b => exact hmerge b (hb.find? hf)

theorem merge_tidy {b o : Tree} (hb : b.Tidy) (ho : o.Tidy) : (b.merge o).Tidy := by
  induction ho generalizing b with
  | record ascending each ih =>
    cases hr : b.isRecord with
    | false =>
      rw [merge_into_other hr]
      exact .record ascending each
    | true =>
      rw [eq_record hr] at hb ⊢
      rw [merge_records]
      exact mergeFields_tidy hb fun f hf => ⟨each f hf, fun _ => ih f hf⟩
  | list each =>
    rw [merge_of_not_record rfl]
    exact .list each
  | _ =>
    rw [merge_of_not_record rfl]
    constructor

theorem merge_tidyRecord {b o : Tree} (hb : b.Tidy) (ho : TidyRecord o) :
    TidyRecord (b.merge o) :=
  ⟨merge_tidy hb ho.tidy, by rw [isRecord_merge, ho.isRecord]⟩

/-- What the way down a path comes to in an overlay and in its base, put together. -/
def Finding.laidOver : Finding → Finding → Finding
  | .value o, .value b => .value (b.merge o)
  | .missing, f => f
  | f, _ => f

/-- The way down a path through an overlay on its base. A record that takes the place of a bar in
the base leaves nothing behind below. -/
theorem explore_merge {o : Tree} (ho : o.Tidy) (path : List String) (b : Tree) :
    explore path (b.merge o) = (explore path o).laidOver (explore path b) ∨
    explore path o = .missing ∧ explore path b = .barred ∧
      explore path (b.merge o) = .missing := by
  induction path generalizing b o with
  | nil => exact .inl rfl
  | cons name path ih =>
    cases hr : o.isRecord with
    | false =>
      rw [merge_of_not_record hr, explore_of_not_record hr]
      exact .inl rfl
    | true =>
      have hm : (b.merge o).isRecord = true := by rw [isRecord_merge, hr]
      have hfind := find?_merge ho.fields.1 name b
      rw [← eq_record hr] at hfind
      cases hu : Fields.find? name o.fields <;> rw [hu] at hfind <;>
        cases hv : Fields.find? name b.fields <;> rw [hv] at hfind
      case none.none =>
        rw [explore_of_missing hm hfind, explore_of_missing hr hu]
        cases hb : b.isRecord with
        | true => exact .inl (explore_of_missing hb hv path).symm
        | false => exact .inr ⟨rfl, explore_of_not_record hb name path, rfl⟩
      case none.some v =>
        rw [explore_of_find? hfind, explore_of_missing hr hu, explore_of_find? hv]
        exact .inl rfl
      case some.none u =>
        rw [explore_of_find? hfind, explore_of_find? hu]
        cases hb : b.isRecord with
        | true =>
          rw [explore_of_missing hb hv]
          cases hw : explore path u <;> simp [laid, Finding.laidOver, hw]
        | false =>
          rw [explore_of_not_record hb]
          cases hw : explore path u <;> simp [laid, Finding.laidOver, hw]
      case some.some u v =>
        rw [explore_of_find? hfind, explore_of_find? hu, explore_of_find? hv]
        exact ih (ho.find? hu) v

/-- What stands at a path of an overlay on its base. -/
theorem at?_merge {o : Tree} (ho : o.Tidy) (path : List String) (b : Tree) :
    (b.merge o).at? path = match explore path o with
      | .value u => some (laid u (b.at? path))
      | .barred => none
      | .missing => b.at? path := by
  rw [at?_of_explore path (b.merge o), at?_of_explore path b]
  rcases explore_merge ho path b with h | ⟨hmissing, hbarred, h⟩
  · rw [h]
    cases explore path o <;> cases explore path b <;> rfl
  · rw [h, hmissing, hbarred]

theorem outline_laid (o : Tree) (b : Option Tree) : (laid o b).outline = o.outline := by
  cases b with
  | none => rfl
  | some b => exact outline_merge b o

theorem outline_at?_merge {o : Tree} (ho : o.Tidy) (path : List String) (b : Tree) :
    ((b.merge o).at? path).map outline = match explore path o with
      | .value u => some u.outline
      | .barred => none
      | .missing => (b.at? path).map outline := by
  rw [at?_merge ho]
  cases explore path o with
  | value u => exact congrArg some (outline_laid u _)
  | _ => rfl

theorem merge_merge_self {b o : Tree} (hb : b.Tidy) (ho : o.Tidy) :
    (b.merge o).merge o = b.merge o := by
  apply (merge_tidy (merge_tidy hb ho) ho).ext (merge_tidy hb ho)
  intro path
  rw [outline_at?_merge ho, outline_at?_merge ho]
  cases explore path o <;> rfl

/-- How what stands at a path of a merged tree comes from the two trees. -/
structure LaterWins (base overlay merged : Tree) (path : List String) : Prop where
  joined : ∀ b o, base.at? path = some b → overlay.at? path = some o →
    b.isRecord = true → o.isRecord = true →
    ∃ m, merged.at? path = some m ∧ m.isRecord = true ∧
      ∀ name, name ∈ m.fields.map (·.1) ↔ name ∈ b.fields.map (·.1) ∨ name ∈ o.fields.map (·.1)
  replaced : ∀ o, overlay.at? path = some o →
    (∀ b, base.at? path = some b → ¬(b.isRecord = true ∧ o.isRecord = true)) →
    merged.at? path = some o
  cleared : overlay.at? path = none → Bars overlay path → merged.at? path = none
  kept : overlay.at? path = none → ¬Bars overlay path → merged.at? path = base.at? path

theorem names_merge {b o : Tree} (ho : o.Tidy) (hr : o.isRecord = true) (name : String) :
    name ∈ (b.merge o).fields.map (·.1) ↔
      name ∈ b.fields.map (·.1) ∨ name ∈ o.fields.map (·.1) := by
  have hfind := find?_merge ho.fields.1 name b
  rw [← eq_record hr] at hfind
  simp only [← Fields.find?_isSome_iff, hfind]
  cases Fields.find? name o.fields <;> simp

theorem laid_eq_self {o : Tree} {b : Option Tree}
    (h : ∀ c, b = some c → ¬(c.isRecord = true ∧ o.isRecord = true)) : laid o b = o := by
  cases b with
  | none => rfl
  | some c =>
    cases ho : o.isRecord with
    | false => exact merge_of_not_record ho c
    | true =>
      have hc : c.isRecord = false := by simpa [ho] using h c rfl
      rw [eq_record ho]
      exact merge_into_other hc o.fields

theorem merge_laterWins (base : Tree) {overlay : Tree} (ho : overlay.Tidy) (path : List String) :
    LaterWins base overlay (base.merge overlay) path where
  joined := by
    intro b o hb hov hbr hor
    refine ⟨b.merge o, ?_, by rw [isRecord_merge, hor], names_merge (ho.at? hov) hor⟩
    rw [at?_merge ho, explore_eq_value hov, hb]
    rfl
  replaced := by
    intro o hov hno
    rw [at?_merge ho, explore_eq_value hov]
    exact congrArg some (laid_eq_self hno)
  cleared := by
    intro _ hbar
    rw [at?_merge ho, (bars_iff path overlay).mp hbar]
  kept := by
    intro hnone hbar
    rw [at?_merge ho, explore_eq_missing hnone hbar]

/-- Merging keeps exactly what the overlay neither holds nor bars, at every path, and merging the
same overlay again changes nothing. -/
theorem later_wins (base overlay : Value) :
    (∀ path, LaterWins base.1 overlay.1 (base.1.merge overlay.1) path) ∧
    (base.1.merge overlay.1).merge overlay.1 = base.1.merge overlay.1 :=
  ⟨merge_laterWins base.1 overlay.2, merge_merge_self base.2 overlay.2⟩

end Switchboard.Proofs.Overlay
