import Switchboard.Proofs.Routing

/-!
The same request under another method. Which methods a path knows is read off the table a second
time, apart from the candidates, and both readings agree.
-/

namespace Switchboard.Proofs.OtherMethods
open Http Route Routing

theorem mem_methodsAt {table : Table} {path : String} {m : Method} :
    m ∈ methodsAt table path ↔
      ∃ e ∈ table, e.method = m ∧ (e.template.matchPath path).isSome := by
  rw [methodsAt, List.mem_eraseDups, List.mem_map]
  constructor
  · rintro ⟨e, he, rfl⟩
    obtain ⟨hmem, hfits⟩ := List.mem_filter.mp he
    exact ⟨e, hmem, rfl, hfits⟩
  · rintro ⟨e, hmem, rfl, hfits⟩
    exact ⟨e, List.mem_filter.mpr ⟨hmem, hfits⟩, rfl⟩

/-- A request reaches nothing just when its method is not among those of its path. -/
theorem reached_eq_nil_iff {table : Table} {request : Request} :
    reached table request = [] ↔ request.method ∉ methodsAt table request.path := by
  rw [reached, List.filter_eq_nil_iff, mem_methodsAt]
  simp

theorem methodsAt_nodup (table : Table) (path : String) : (methodsAt table path).Nodup :=
  nodup_eraseDups _

/-- The path is known, but not under the method of the request. -/
theorem route_methodNotAllowed_iff {router : Router} {request : Request} {method : Method}
    {path : String} {allowed : List Method} :
    router.route request = .error (.methodNotAllowed method path allowed) ↔
      method = request.method ∧ path = request.path ∧
      allowed = methodsAt router.table request.path ∧ allowed ≠ [] ∧ method ∉ allowed := by
  have hd := decides_route router request
  constructor
  · intro h
    rw [h] at hd
    cases hd with
    | otherMethods hr hm => exact ⟨rfl, rfl, rfl, hm, reached_eq_nil_iff.mp hr⟩
  · rintro ⟨rfl, rfl, rfl, hm, hnot⟩
    exact hd.unique (.otherMethods (reached_eq_nil_iff.mpr hnot) hm)

/-- The path is not known at all. -/
theorem route_notFound_iff {router : Router} {request : Request} {path : String} :
    router.route request = .error (.notFound path) ↔
      path = request.path ∧ methodsAt router.table request.path = [] := by
  have hd := decides_route router request
  constructor
  · intro h
    rw [h] at hd
    cases hd with
    | unknownPath _ hm => exact ⟨rfl, hm⟩
  · rintro ⟨rfl, hm⟩
    exact hd.unique (.unknownPath (reached_eq_nil_iff.mpr (by simp [hm])) hm)

/-- A method that is not allowed is answered with those that are, whichever of the others is tried
next, and a path unknown under one method is unknown under all. -/
theorem route_other_method (router : Router) (request : Request) :
    (∀ method path allowed,
      router.route request = .error (.methodNotAllowed method path allowed) →
      allowed ≠ [] ∧ allowed.Nodup ∧ request.method ∉ allowed ∧
      (∀ m ∈ allowed, ∀ method' path' allowed', router.route { request with method := m } ≠
        .error (.methodNotAllowed method' path' allowed')) ∧
      ∀ m ∉ allowed, router.route { request with method := m } =
        .error (.methodNotAllowed m path allowed)) ∧
    (∀ failure, router.route request = .error failure → failure.status = 404 →
      (∀ e ∈ router.table, e.method = request.method →
        e.template.matchPath request.path = none) →
      ∀ m, router.route { request with method := m } = .error (.notFound request.path)) := by
  constructor
  · intro method path allowed h
    obtain ⟨rfl, rfl, rfl, hm, hnot⟩ := route_methodNotAllowed_iff.mp h
    refine ⟨hm, methodsAt_nodup _ _, hnot, ?_, ?_⟩
    · intro m hin method' path' allowed' h'
      obtain ⟨rfl, -, rfl, -, hnot'⟩ := route_methodNotAllowed_iff.mp h'
      exact hnot' hin
    · intro m hnot'
      exact route_methodNotAllowed_iff.mpr ⟨rfl, rfl, rfl, hm, hnot'⟩
  · intro failure h hstatus hnone m
    have hr : reached router.table request = [] := by
      rw [reached, List.filter_eq_nil_iff]
      intro e he
      simp only [decide_eq_true_eq, not_and]
      intro hmethod
      simp [hnone e he hmethod]
    have hunknown : methodsAt router.table request.path = [] := by
      have hd := decides_route router request
      rw [h] at hd
      cases hd with
      | unknownPath _ hm => exact hm
      | otherMethods _ _ => cases hstatus
      | otherVersions hr' _ => exact absurd hr hr'
      | tied _ => cases hstatus
    exact route_notFound_iff.mpr ⟨rfl, hunknown⟩

/-- A route for all users under a method. -/
def users (method : Method) : Entry :=
  ⟨method, ⟨"/users", [.literal "users"]⟩, [], [], none, method.name⟩

/-- Users can be listed and created, and neither `DELETE` nor `PUT` is for them. Orders are not
known. -/
theorem users_methods :
    Router.route ⟨[users .get, users .post], .standard⟩ (.of .delete "/users") =
      .error (.methodNotAllowed .delete "/users" [.get, .post]) ∧
    Router.route ⟨[users .get, users .post], .standard⟩
        { Request.of .delete "/users" with method := .put } =
      .error (.methodNotAllowed .put "/users" [.get, .post]) ∧
    Router.route ⟨[users .get, users .post], .standard⟩ (.of .get "/orders") =
      .error (.notFound "/orders") ∧
    Router.route ⟨[users .get, users .post], .standard⟩
        { Request.of .get "/orders" with method := .patch } =
      .error (.notFound "/orders") := by
  have hdelete : Router.route ⟨[users .get, users .post], .standard⟩ (.of .delete "/users") =
      .error (.methodNotAllowed .delete "/users" [.get, .post]) := by rfl
  have horders : Router.route ⟨[users .get, users .post], .standard⟩ (.of .get "/orders") =
      .error (.notFound "/orders") := by rfl
  obtain ⟨-, -, -, -, hother⟩ := (route_other_method _ _).1 _ _ _ hdelete
  exact ⟨hdelete, hother .put (by decide), horders,
    (route_other_method _ _).2 _ horders rfl (by decide) .patch⟩

end Switchboard.Proofs.OtherMethods
