import Mathlib.Data.List.Forall2

namespace Switchboard.Proofs.Chains

variable {α β ε : Type}

theorem ok_bind (a : α) (f : α → Except ε β) : (Except.ok a >>= f) = f a := rfl

theorem error_bind (e : ε) (f : α → Except ε β) :
    ((Except.error e : Except ε α) >>= f) = .error e := rfl

theorem pure_eq_ok (a : α) : (pure a : Except ε α) = .ok a := rfl

theorem bind_ok_iff {x : Except ε α} {f : α → Except ε β} {b : β} :
    x >>= f = .ok b ↔ ∃ a, x = .ok a ∧ f a = .ok b := by
  cases x with
  | error e => simp [bind, Except.bind]
  | ok a => simp [bind, Except.bind]

/-- What is made of a value by an injective step tells which value it was. -/
theorem bind_pure_ok_iff {f : α → β} (hf : ∀ a b, f a = f b → a = b) {x : Except ε α} {a : α} :
    (do return f (← x)) = Except.ok (f a) ↔ x = .ok a := by
  rw [bind_ok_iff]
  constructor
  · rintro ⟨b, hb, hpure⟩
    rwa [hf b a (Except.ok.inj hpure)] at hb
  · intro h
    exact ⟨a, h, rfl⟩

theorem then_ok_iff {x y : Except ε Unit} :
    (do x; y) = .ok () ↔ x = .ok () ∧ y = .ok () := by
  rw [bind_ok_iff]
  constructor
  · intro h
    obtain ⟨⟨⟩, hx, hy⟩ := h
    exact ⟨hx, hy⟩
  · intro h
    obtain ⟨hx, hy⟩ := h
    exact ⟨(), hx, hy⟩

theorem ok_of_toOption {x : Except ε α} {a : α} (h : x.toOption = some a) : x = .ok a := by
  cases x with
  | error e => cases h
  | ok b => exact congrArg Except.ok (Option.some.inj h)

theorem map_ok_iff {x : Except ε α} {f : α → β} :
    (∃ b, x.map f = .ok b) ↔ ∃ a, x = .ok a := by
  cases x <;> simp [Except.map]

theorem map_error_iff {x : Except ε α} {f : α → β} {e : ε} :
    x.map f = .error e ↔ x = .error e := by
  cases x <;> simp [Except.map]

theorem mapM_ok_iff {f : α → Except ε β} {xs : List α} :
    (∃ ys, xs.mapM f = .ok ys) ↔ ∀ x ∈ xs, ∃ y, f x = .ok y := by
  induction xs with
  | nil => simp [pure, Except.pure]
  | cons x xs ih =>
    rw [List.mapM_cons, List.forall_mem_cons, ← ih]
    simp only [bind_ok_iff, pure, Except.pure]
    constructor
    · intro h
      obtain ⟨ys, y, hy, zs, hzs, -⟩ := h
      exact ⟨⟨y, hy⟩, ⟨zs, hzs⟩⟩
    · intro h
      obtain ⟨⟨y, hy⟩, ⟨zs, hzs⟩⟩ := h
      exact ⟨y :: zs, y, hy, zs, hzs, rfl⟩

theorem mapM_forall₂_iff {f : α → Except ε β} {R : α → β → Prop} {xs : List α} :
    (∃ ys, xs.mapM f = .ok ys ∧ List.Forall₂ R xs ys) ↔ ∀ x ∈ xs, ∃ y, f x = .ok y ∧ R x y := by
  induction xs with
  | nil => simp [pure, Except.pure]
  | cons x xs ih =>
    rw [List.forall_mem_cons, ← ih]
    simp only [List.mapM_cons, bind_ok_iff, pure, Except.pure]
    constructor
    · rintro ⟨ys, ⟨y, hy, zs, hzs, hys⟩, hR⟩
      obtain rfl := Except.ok.inj hys
      obtain ⟨hhead, htail⟩ := List.forall₂_cons.mp hR
      exact ⟨⟨y, hy, hhead⟩, zs, hzs, htail⟩
    · rintro ⟨⟨y, hy, hhead⟩, zs, hzs, htail⟩
      exact ⟨y :: zs, ⟨y, hy, zs, hzs, rfl⟩, .cons hhead htail⟩

/-- A traversal ends with the error of the first item that has one. -/
theorem mapM_error_iff {f : α → Except ε β} {xs : List α} {e : ε} :
    xs.mapM f = .error e ↔ ∃ before x after, xs = before ++ x :: after ∧
      (∀ y ∈ before, ∃ z, f y = .ok z) ∧ f x = .error e := by
  induction xs with
  | nil => simp [pure, Except.pure]
  | cons x xs ih =>
    rw [List.mapM_cons]
    cases hx : f x with
    | error d =>
      constructor
      · intro h
        obtain rfl := Except.error.inj h
        exact ⟨[], x, xs, rfl, by simp, hx⟩
      · intro h
        obtain ⟨before, y, after, happ, hb, hy⟩ := h
        cases before with
        | nil =>
          obtain ⟨rfl, -⟩ := List.cons.inj happ
          obtain rfl := Except.error.inj (hx.symm.trans hy)
          rfl
        | cons b before =>
          obtain ⟨rfl, -⟩ := List.cons.inj happ
          obtain ⟨z, hz⟩ := hb x (by simp)
          rw [hx] at hz
          cases hz
    | ok z =>
      have hrest : (do return z :: (← xs.mapM f) : Except ε (List β)) = .error e ↔
          xs.mapM f = .error e := by
        cases xs.mapM f <;> simp [bind, Except.bind, pure, Except.pure]
      refine hrest.trans (ih.trans ?_)
      constructor
      · intro h
        obtain ⟨before, y, after, happ, hb, hy⟩ := h
        refine ⟨x :: before, y, after, by rw [happ, List.cons_append], ?_, hy⟩
        exact List.forall_mem_cons.mpr ⟨⟨z, hx⟩, hb⟩
      · intro h
        obtain ⟨before, y, after, happ, hb, hy⟩ := h
        cases before with
        | nil =>
          obtain ⟨rfl, -⟩ := List.cons.inj happ
          rw [hx] at hy
          cases hy
        | cons b before =>
          obtain ⟨rfl, rfl⟩ := List.cons.inj happ
          exact ⟨before, y, after, rfl, (List.forall_mem_cons.mp hb).2, hy⟩

/-- A traversal gives something where every step does. -/
theorem mapM_some_iff {f : α → Option β} {xs : List α} {ys : List β} :
    xs.mapM f = some ys ↔ xs.map f = ys.map some := by
  induction xs generalizing ys with
  | nil => cases ys <;> simp
  | cons x xs ih =>
    rw [List.mapM_cons, List.map_cons]
    cases hx : f x with
    | none => cases ys <;> simp
    | some y =>
      cases ys with
      | nil => cases xs.mapM f <;> simp
      | cons z zs =>
        simp only [List.map_cons, List.cons.injEq, Option.some.injEq, ← ih]
        cases xs.mapM f <;> simp

theorem exists_of_mem_right {R : α → β → Prop} {xs : List α} {ys : List β}
    (h : List.Forall₂ R xs ys) (hy : y ∈ ys) : ∃ x ∈ xs, R x y := by
  induction h with
  | nil => cases hy
  | cons hxy _ ih =>
    rcases List.mem_cons.mp hy with rfl | hy
    · exact ⟨_, List.mem_cons_self, hxy⟩
    · obtain ⟨x, hx, hr⟩ := ih hy
      exact ⟨x, List.mem_cons_of_mem _ hx, hr⟩

end Switchboard.Proofs.Chains
