namespace Switchboard.Tree.Fields

variable {α : Type}

def find? (name : String) : List (String × α) → Option α
  | [] => none
  | (n, v) :: rest => if name = n then some v else find? name rest

def put (name : String) (value : α) : List (String × α) → List (String × α)
  | [] => [(name, value)]
  | (n, v) :: rest =>
    if name = n then (name, value) :: rest
    else if name < n then (name, value) :: (n, v) :: rest
    else (n, v) :: put name value rest

/-- Later entries replace earlier ones of the same name. -/
def ofList (entries : List (String × α)) : List (String × α) :=
  entries.foldl (fun acc (n, v) => put n v acc) []

theorem find?_put_self (name : String) (value : α) (fields : List (String × α)) :
    find? name (put name value fields) = some value := by
  induction fields with
  | nil => simp [put, find?]
  | cons entry rest ih =>
    obtain ⟨n, v⟩ := entry
    simp only [put]
    split
    · simp [find?]
    · split
      · simp [find?]
      · simp [find?, *]

theorem find?_put_of_ne {name other : String} (h : other ≠ name) (value : α)
    (fields : List (String × α)) : find? other (put name value fields) = find? other fields := by
  induction fields with
  | nil => simp [put, find?, h]
  | cons entry rest ih =>
    obtain ⟨n, v⟩ := entry
    simp only [put]
    split
    · next hn => subst hn; simp [find?, h]
    · split
      · simp [find?, h]
      · simp [find?, ih]

/-- What is put under a new name can be taken out again. -/
theorem filter_put {name : String} {fields : List (String × α)} (h : ∀ f ∈ fields, f.1 ≠ name)
    (value : α) : (put name value fields).filter (·.1 ≠ name) = fields := by
  have hkeep : fields.filter (·.1 ≠ name) = fields :=
    List.filter_eq_self.mpr fun f hf => decide_eq_true (h f hf)
  induction fields with
  | nil => simp [put]
  | cons entry rest ih =>
    obtain ⟨n, v⟩ := entry
    obtain ⟨hn, hrest⟩ := List.forall_mem_cons.mp h
    rw [put, if_neg hn.symm]
    split
    · rw [List.filter_cons_of_neg (by simp), hkeep]
    · have hkept := List.filter_eq_self.mpr fun f hf => decide_eq_true (hrest f hf)
      rw [List.filter_cons_of_pos (by simpa using hn), ih hrest hkept]

/-- The names ascend, so none stands twice. -/
def Ascending (fields : List (String × α)) : Prop :=
  fields.Pairwise (·.1 < ·.1)

theorem mem_of_find? {name : String} {value : α} {fields : List (String × α)}
    (h : find? name fields = some value) : (name, value) ∈ fields := by
  induction fields with
  | nil => simp [find?] at h
  | cons entry rest ih =>
    obtain ⟨n, v⟩ := entry
    simp only [find?] at h
    split at h
    · next hn =>
      obtain rfl := Option.some.inj h
      simp [hn]
    · exact List.mem_cons_of_mem _ (ih h)

theorem find?_isSome_iff {name : String} {fields : List (String × α)} :
    (find? name fields).isSome ↔ name ∈ fields.map (·.1) := by
  induction fields with
  | nil => simp [find?]
  | cons entry rest ih =>
    by_cases hn : name = entry.1 <;> simp_all [find?]

theorem mem_put {entry : String × α} {name : String} {value : α} {fields : List (String × α)}
    (h : entry ∈ put name value fields) : entry = (name, value) ∨ entry ∈ fields := by
  induction fields with
  | nil => simpa [put] using h
  | cons first rest ih =>
    obtain ⟨n, v⟩ := first
    simp only [put] at h
    split at h
    · rcases List.mem_cons.mp h with he | hm
      · exact .inl he
      · exact .inr (List.mem_cons_of_mem _ hm)
    · split at h
      · exact List.mem_cons.mp h
      · rcases List.mem_cons.mp h with rfl | hm
        · exact .inr List.mem_cons_self
        · exact (ih hm).imp_right (List.mem_cons_of_mem _)

theorem Ascending.nil : Ascending ([] : List (String × α)) :=
  List.Pairwise.nil

theorem Ascending.put {fields : List (String × α)} (h : Ascending fields) (name : String)
    (value : α) : Ascending (put name value fields) := by
  induction fields with
  | nil => simp [Fields.put, Ascending]
  | cons entry rest ih =>
    obtain ⟨n, v⟩ := entry
    obtain ⟨hlt, hrest⟩ := List.pairwise_cons.mp h
    simp only [Fields.put]
    split
    · next hn =>
      subst hn
      exact List.pairwise_cons.mpr ⟨hlt, hrest⟩
    · next hne =>
      split
      · next hlow =>
        refine List.pairwise_cons.mpr ⟨?_, h⟩
        intro entry he
        rcases List.mem_cons.mp he with rfl | he
        · exact hlow
        · exact String.lt_trans hlow (hlt entry he)
      · next hlow =>
        refine List.pairwise_cons.mpr ⟨?_, ih hrest⟩
        intro entry he
        rcases mem_put he with rfl | he
        · exact Decidable.byContradiction fun hn =>
            hne (String.le_antisymm (String.not_lt.mp hn) (String.not_lt.mp hlow))
        · exact hlt entry he

theorem Ascending.find?_eq_some {fields : List (String × α)} (h : Ascending fields) {name : String}
    {value : α} (hm : (name, value) ∈ fields) : find? name fields = some value := by
  induction fields with
  | nil => simp at hm
  | cons entry rest ih =>
    obtain ⟨n, v⟩ := entry
    obtain ⟨hlt, hrest⟩ := List.pairwise_cons.mp h
    rcases List.mem_cons.mp hm with he | hr
    · cases he
      simp [find?]
    · have hnext : n < name := hlt _ hr
      have hne : name ≠ n := by
        rintro rfl
        exact String.lt_irrefl _ hnext
      simp [find?, hne, ih hrest hr]

theorem Ascending.map {β : Type} {fields : List (String × α)} (h : Ascending fields) (f : α → β) :
    Ascending (fields.map fun (name, value) => (name, f value)) :=
  List.pairwise_map.mpr h

theorem Ascending.nodup {fields : List (String × α)} (h : Ascending fields) : fields.Nodup := by
  apply h.imp
  rintro a b hlt rfl
  exact String.lt_irrefl _ hlt

/-- Ascending entries are known by what is found under each name. -/
theorem Ascending.ext {fields others : List (String × α)} (hf : Ascending fields)
    (ho : Ascending others) (h : ∀ name, find? name fields = find? name others) :
    fields = others := by
  have hmem : ∀ entry, entry ∈ fields ↔ entry ∈ others := by
    intro entry
    constructor
    · intro he
      exact mem_of_find? ((h entry.1).symm.trans (hf.find?_eq_some he))
    · intro he
      exact mem_of_find? ((h entry.1).trans (ho.find?_eq_some he))
  apply ((List.perm_ext_iff_of_nodup hf.nodup ho.nodup).mpr hmem).eq_of_pairwise ?_ hf ho
  intro a b _ _ hab hba
  exact absurd hba (String.lt_asymm hab)

theorem ofList_ascending (entries : List (String × α)) : Ascending (ofList entries) := by
  have hfrom : ∀ acc : List (String × α), Ascending acc →
      Ascending (entries.foldl (fun acc (n, v) => put n v acc) acc) := by
    induction entries with
    | nil => exact fun acc h => h
    | cons entry entries ih => exact fun acc h => ih _ (h.put entry.1 entry.2)
  exact hfrom [] .nil

theorem mem_ofList {entry : String × α} {entries : List (String × α)}
    (h : entry ∈ ofList entries) : entry ∈ entries := by
  have hfrom : ∀ acc : List (String × α),
      entry ∈ entries.foldl (fun acc (n, v) => put n v acc) acc →
      entry ∈ acc ∨ entry ∈ entries := by
    clear h
    induction entries with
    | nil => exact fun acc h => .inl h
    | cons first entries ih =>
      intro acc h
      rcases ih _ h with hm | hm
      · rcases mem_put hm with rfl | hm
        · exact .inr List.mem_cons_self
        · exact .inl hm
      · exact .inr (List.mem_cons_of_mem _ hm)
  exact (hfrom [] h).resolve_left List.not_mem_nil

theorem mem_names_put {name other : String} {value : α} {fields : List (String × α)} :
    other ∈ (put name value fields).map (·.1) ↔ other = name ∨ other ∈ fields.map (·.1) := by
  rw [← find?_isSome_iff, ← find?_isSome_iff]
  by_cases h : other = name
  · subst h
    simp [find?_put_self]
  · simp [find?_put_of_ne h, h]

/-- No name is lost. -/
theorem mem_names_ofList {name : String} {entries : List (String × α)} :
    name ∈ (ofList entries).map (·.1) ↔ name ∈ entries.map (·.1) := by
  have hfrom : ∀ acc : List (String × α),
      name ∈ (entries.foldl (fun acc (n, v) => put n v acc) acc).map (·.1) ↔
        name ∈ acc.map (·.1) ∨ name ∈ entries.map (·.1) := by
    induction entries with
    | nil => simp
    | cons entry entries ih =>
      intro acc
      rw [List.foldl_cons, ih, mem_names_put, List.map_cons, List.mem_cons, or_assoc,
        or_left_comm]
  simpa [ofList] using hfrom []

/-- Among names that differ, each entry is found. -/
theorem find?_ofList {entries : List (String × α)} (h : (entries.map (·.1)).Nodup)
    (name : String) : find? name (ofList entries) =
      (entries.find? (·.1 = name)).map (·.2) := by
  -- Over what was put before: an entry still to come replaces it.
  have hfrom : ∀ acc : List (String × α),
      find? name (entries.foldl (fun acc (n, v) => put n v acc) acc) =
        ((entries.find? (·.1 = name)).map (·.2)).or (find? name acc) := by
    induction entries with
    | nil => simp
    | cons entry entries ih =>
      obtain ⟨hnew, hrest⟩ := List.nodup_cons.mp h
      intro acc
      rw [List.foldl_cons, ih hrest, List.find?_cons]
      by_cases hn : entry.1 = name
      · have hnone : entries.find? (·.1 = name) = none := by
          rw [List.find?_eq_none]
          intro e he hname
          exact hnew (List.mem_map.mpr ⟨e, he, (of_decide_eq_true hname).trans hn.symm⟩)
        simp [hnone, hn, find?_put_self]
      · simp [hn, find?_put_of_ne (Ne.symm hn)]
  simpa [ofList, find?] using hfrom []

theorem put_map {β : Type} (f : α → β) (name : String) (value : α) (fields : List (String × α)) :
    put name (f value) (fields.map fun e => (e.1, f e.2)) =
      (put name value fields).map fun e => (e.1, f e.2) := by
  induction fields with
  | nil => rfl
  | cons entry rest ih =>
    simp only [List.map_cons, put]
    split
    · rfl
    · split
      · rfl
      · rw [ih]
        rfl

theorem ofList_map {β : Type} (f : α → β) (entries : List (String × α)) :
    ofList (entries.map fun e => (e.1, f e.2)) = (ofList entries).map fun e => (e.1, f e.2) := by
  have hfrom : ∀ acc : List (String × α),
      (entries.map fun e => (e.1, f e.2)).foldl (fun acc (n, v) => put n v acc)
          (acc.map fun e => (e.1, f e.2)) =
        (entries.foldl (fun acc (n, v) => put n v acc) acc).map fun e => (e.1, f e.2) := by
    induction entries with
    | nil => exact fun acc => rfl
    | cons entry entries ih =>
      intro acc
      simp only [List.map_cons, List.foldl_cons, put_map]
      exact ih _
  exact hfrom []

theorem find?_eq_map (name : String) (fields : List (String × α)) :
    find? name fields = (fields.find? (·.1 = name)).map (·.2) := by
  induction fields with
  | nil => rfl
  | cons entry rest ih =>
    by_cases hn : entry.1 = name
    · simp [find?, hn]
    · simp [find?, hn, Ne.symm hn, ih]

/-- Ascending entries are kept in their order. -/
theorem Ascending.ofList_eq {fields : List (String × α)} (h : Ascending fields) :
    ofList fields = fields := by
  have hnames : (fields.map (·.1)).Nodup := by
    apply List.pairwise_map.mpr
    apply h.imp
    intro entry other hlt heq
    rw [heq] at hlt
    exact String.lt_irrefl _ hlt
  apply (ofList_ascending fields).ext h
  intro name
  rw [find?_ofList hnames, find?_eq_map]

end Switchboard.Tree.Fields
