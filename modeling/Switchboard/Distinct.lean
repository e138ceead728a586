namespace Switchboard

/-- The items that are not in `seen`, without repetitions, each where it first stands. -/
def distinct {α : Type} [DecidableEq α] (seen : List α) : List α → List α
  | [] => []
  | x :: xs => if x ∈ seen then distinct seen xs else x :: distinct (x :: seen) xs

theorem distinct_eq_eraseDups {α : Type} [DecidableEq α] (seen items : List α) :
    distinct seen items = (items.filter (· ∉ seen)).eraseDups := by
  induction items generalizing seen with
  | nil => rfl
  | cons x xs ih =>
    rw [distinct]
    split
    · next hx => rw [ih, List.filter_cons_of_neg (by simpa using hx)]
    · next hx =>
      rw [ih, List.filter_cons_of_pos (by simpa using hx), List.eraseDups_cons, List.filter_filter]
      refine congrArg (x :: List.eraseDups ·) (List.filter_congr fun y _ => ?_)
      by_cases hy : y = x <;> simp [hy]

end Switchboard
