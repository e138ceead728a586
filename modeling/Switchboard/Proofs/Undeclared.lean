import Switchboard.Proofs.Contenders

/-!
Declaring `*/*` in place of nothing. For consumption both are the same. For production both are the
same unless a request refuses everything: then a declared range ranks below no declaration, which
still has the specificity of `*/*`.
-/

namespace Switchboard.Proofs.Undeclared
open Http Route Leaders Routing Contenders

/-- Declares `*/*` at some places where nothing is declared for consumption, and at some where
nothing is declared for production. -/
def spellOut (consumes produces : Nat → Bool) (i : Nat) (e : Entry) : Entry :=
  { e with
    consumes := if consumes i ∧ e.consumes = [] then [MediaType.any] else e.consumes
    produces := if produces i ∧ e.produces = [] then [MediaType.any] else e.produces }

/-- What a route definition with `*/*` declares. -/
example : readTypes [] ["*/*"] = .ok [MediaType.any] := by decide

/-- The entries that the rules on literals and on consumption leave. -/
def frontrunners (router : Router) (request : Request) : List Entry :=
  (keepConsuming request (keepLiteral (pool router request))).map (·.entry)

/-- A request that refuses everything its frontrunners produce, and among these some of which `*/*`
is newly declared and some of which it is not. -/
structure Refusal (produces : Nat → Bool) (router : Router) (request : Request) : Prop where
  refused : request.accept.quality MediaType.any = 0
  unwanted : ∀ e ∈ frontrunners router request, ∀ m ∈ e.produces, request.accept.quality m = 0
  spelled : ∃ i e, router.table[i]? = some e ∧ e ∈ frontrunners router request ∧
    produces i = true ∧ e.produces = []
  unspelled : ∃ i e, router.table[i]? = some e ∧ e ∈ frontrunners router request ∧
    ¬(produces i = true ∧ e.produces = [])

@[simp] theorem specificity_any : MediaType.any.specificity = 1 := by
  decide

@[simp] theorem matchRank_any (type : MediaType) : MediaType.any.matchRank type = 1 := by
  have htype : MediaType.any.type = "*" := by decide
  have hsubtype : MediaType.any.subtype = "*" := by decide
  simp [MediaType.matchRank, MediaType.covers, htype, hsubtype]

section
variable (consumes produces : Nat → Bool) (request : Request) (i : Nat) (e : Entry)

/-- `*/*` takes anything at the lowest rank, as no declaration does. -/
theorem consumed_spellOut :
    consumed request (spellOut consumes produces i e) = consumed request e := by
  unfold consumed
  cases request.contentType? with
  | none => rfl
  | some type => by_cases h : consumes i ∧ e.consumes = [] <;> simp [spellOut, h]

theorem produced_undeclared (h : e.produces = []) :
    produced request e = toLex (request.accept.quality MediaType.any, 1) := by
  simp [produced, h]

theorem produced_spelled (h : produces i ∧ e.produces = []) :
    produced request (spellOut consumes produces i e) = toLex (request.accept.quality MediaType.any,
      if 0 < request.accept.quality MediaType.any then 1 else 0) := by
  simp [produced, spellOut, h]

theorem produced_unspelled (h : ¬(produces i ∧ e.produces = [])) :
    produced request (spellOut consumes produces i e) = produced request e := by
  simp [produced, spellOut, h]

theorem produced_spellOut_le :
    produced request (spellOut consumes produces i e) ≤ produced request e := by
  by_cases h : produces i ∧ e.produces = []
  · rw [produced_spelled _ _ _ _ _ h, produced_undeclared _ _ h.2, Prod.Lex.toLex_le_toLex]
    right
    split <;> simp
  · rw [produced_unspelled _ _ _ _ _ h]

theorem produced_of_wanted (hwanted : 0 < request.accept.quality MediaType.any) :
    produced request (spellOut consumes produces i e) = produced request e := by
  by_cases h : produces i ∧ e.produces = []
  · rw [produced_spelled _ _ _ _ _ h, produced_undeclared _ _ h.2, if_pos hwanted]
  · exact produced_unspelled _ _ _ _ _ h

/-- A type that is wanted ranks above no declaration where everything else is refused. -/
theorem quality_of_produced_le (hle : produced request e ≤ toLex (0, 1)) :
    ∀ m ∈ e.produces, request.accept.quality m = 0 := by
  intro m hm
  have hne : e.produces ≠ [] := List.ne_nil_of_mem hm
  simp only [produced, hne, if_false] at hle
  have hpart := (Finset.sup_le_iff.mp hle) m (List.mem_toFinset.mpr hm)
  rw [Prod.Lex.toLex_le_toLex] at hpart
  omega

/-- Of types that are all refused nothing counts, not even their specificity. -/
theorem produced_of_unwanted (hne : e.produces ≠ [])
    (h : ∀ m ∈ e.produces, request.accept.quality m = 0) : produced request e ≤ toLex (0, 0) := by
  simp only [produced, hne, if_false]
  apply Finset.sup_le
  intro m hm
  simp [h m (List.mem_toFinset.mp hm)]

/-- Where everything is refused, no declaration ranks highest. -/
theorem produced_le_of_unwanted (hzero : request.accept.quality MediaType.any = 0)
    (h : ∀ m ∈ e.produces, request.accept.quality m = 0) : produced request e ≤ toLex (0, 1) := by
  by_cases hundeclared : e.produces = []
  · rw [produced_undeclared request e hundeclared, hzero]
  · calc produced request e ≤ toLex (0, 0) := produced_of_unwanted request e hundeclared h
      _ ≤ toLex (0, 1) := by decide

end

theorem frontrunners_eq (router : Router) (request : Request) :
    frontrunners router request =
      leaders (consumed request) (leaders Entry.specificity (eligible router request)) := by
  unfold frontrunners keepLiteral pool
  rw [keepConsuming_eq, keepBest_single, map_leaders (consumed request),
    map_leaders Entry.specificity, map_admitted]

/-- The frontrunners, each with its place. -/
def ahead (router : Router) (request : Request) : List (Entry × Nat) :=
  leaders (fun p => consumed request p.1)
    (leaders (fun p => p.1.specificity) (standing router request))

theorem mem_of_frontrunner {router : Router} {request : Request} {e : Entry}
    (h : e ∈ frontrunners router request) :
    e ∈ leaders Entry.specificity (eligible router request) := by
  rw [frontrunners_eq] at h
  exact (mem_leaders.mp h).1

theorem mem_ahead {router : Router} {request : Request} {e : Entry} {i : Nat} :
    (e, i) ∈ ahead router request ↔
      router.table[i]? = some e ∧ e ∈ frontrunners router request := by
  rw [ahead, mem_leaders_comp, mem_leaders_comp, map_leaders Entry.specificity, map_standing,
    ← frontrunners_eq, mem_standing]
  constructor
  · rintro ⟨⟨⟨he, -⟩, -⟩, hfront⟩
    exact ⟨he, hfront⟩
  · rintro ⟨he, hfront⟩
    have hlead := mem_of_frontrunner hfront
    exact ⟨⟨⟨he, (mem_eligible.mp (mem_leaders.mp hlead).1).2⟩, hlead⟩, hfront⟩

theorem exists_ahead {router : Router} {request : Request} {e : Entry}
    (h : e ∈ frontrunners router request) : ∃ i, (e, i) ∈ ahead router request := by
  have hin : e ∈ router.table :=
    (mem_eligible.mp (mem_leaders.mp (mem_of_frontrunner h)).1).1
  obtain ⟨i, hi⟩ := List.mem_iff_getElem?.mp hin
  exact ⟨i, mem_ahead.mpr ⟨hi, h⟩⟩

/-- Where the first two rules are not touched, the third decides alone, among the frontrunners. -/
theorem leaders_ahead {router : Router} {request : Request} {f : Nat → Entry → Entry}
    (hspecificity : ∀ i e, (f i e).specificity = e.specificity)
    (hconsumed : ∀ i e, consumed request (f i e) = consumed request e) :
    leaders (fun p => rank request (f p.2 p.1)) (standing router request) =
      leaders (fun p => produced request (f p.2 p.1)) (ahead router request) := by
  unfold ahead
  rw [leaders_leaders, leaders_leaders]
  congr 1
  funext p
  rw [← hconsumed p.2, ← hspecificity p.2]
  rfl

section
variable (consumes produces : Nat → Bool) {router : Router} {request : Request}

/-- Without a refusal the same frontrunners produce best. -/
theorem leaders_of_not_refusal (hno : ¬Refusal produces router request) :
    leaders (fun p => produced request (spellOut consumes produces p.2 p.1))
        (ahead router request) =
      leaders (fun p => produced request p.1) (ahead router request) := by
  by_cases hmoved : ∃ p ∈ leaders (fun p => produced request p.1) (ahead router request),
      request.accept.quality MediaType.any = 0 ∧ produces p.2 ∧ p.1.produces = []
  · -- one that is refused and spelled out leads, so nothing is wanted and all are spelled out
    obtain ⟨⟨e, i⟩, hlead, hzero, hspelled⟩ := hmoved
    obtain ⟨hin, hbest⟩ := mem_leaders.mp hlead
    obtain ⟨he, hfront⟩ := mem_ahead.mp hin
    have hunwanted : ∀ d ∈ frontrunners router request, ∀ m ∈ d.produces,
        request.accept.quality m = 0 := by
      intro d hd
      obtain ⟨j, hj⟩ := exists_ahead hd
      have hle : produced request d ≤ produced request e := hbest _ hj
      rw [produced_undeclared request e hspelled.2, hzero] at hle
      exact quality_of_produced_le request d hle
    have hall : ∀ p ∈ ahead router request, produces p.2 ∧ p.1.produces = [] := by
      rintro ⟨d, j⟩ hp
      by_contra hunspelled
      obtain ⟨hd, hfront'⟩ := mem_ahead.mp hp
      exact hno ⟨hzero, hunwanted, ⟨i, e, he, hfront, hspelled⟩, ⟨j, d, hd, hfront', hunspelled⟩⟩
    rw [leaders_const, leaders_const]
    · intro p hp q hq
      rw [produced_undeclared request _ (hall p hp).2, produced_undeclared request _ (hall q hq).2]
    · intro p hp q hq
      rw [produced_spelled consumes produces request _ _ (hall p hp),
        produced_spelled consumes produces request _ _ (hall q hq)]
  · apply leaders_lower
    · intro p _
      exact produced_spellOut_le consumes produces request p.2 p.1
    · intro p hp
      by_cases hspelled : produces p.2 ∧ p.1.produces = []
      · apply produced_of_wanted
        by_contra hzero
        exact hmoved ⟨p, hp, by omega, hspelled⟩
      · exact produced_unspelled consumes produces request p.2 p.1 hspelled

/-- A refusal takes the lead from an entry that is spelled out, or makes it share it. -/
theorem leaders_of_refusal (h : Refusal produces router request) :
    leaders (fun p => produced request (spellOut consumes produces p.2 p.1))
        (ahead router request) ≠
      leaders (fun p => produced request p.1) (ahead router request) := by
  obtain ⟨hzero, hunwanted, ⟨i, e, he, hfront, hspelled⟩, ⟨j, d, hd, hfront', hunspelled⟩⟩ := h
  have hbefore : produced request e = toLex (0, 1) := by
    rw [produced_undeclared request e hspelled.2, hzero]
  have hafter : produced request (spellOut consumes produces i e) = ⊥ := by
    rw [produced_spelled consumes produces request i e hspelled, hzero]
    rfl
  have hlead : (e, i) ∈ leaders (fun p => produced request p.1) (ahead router request) := by
    refine mem_leaders.mpr ⟨mem_ahead.mpr ⟨he, hfront⟩, fun p hp => ?_⟩
    rw [hbefore]
    exact produced_le_of_unwanted request p.1 hzero (hunwanted p.1 (mem_ahead.mp hp).2)
  refine leaders_ne_of_lowered hlead (mem_ahead.mpr ⟨hd, hfront'⟩) ?_ ?_ ?_
  · rw [hbefore, hafter]
    decide
  · rw [hafter]
    exact bot_le
  · exact produced_unspelled consumes produces request j d hunspelled

end

theorem keeps_spellOut (consumes produces : Nat → Bool) (resolver : Version.Resolver)
    (request : Request) : Keeps resolver resolver request (spellOut consumes produces) where
  method _ _ := rfl
  template _ _ := rfl
  version _ _ := Iff.rfl

/-- Declaring `*/*` for consumption is the same as declaring nothing. For production it is so as
well, but for a request that refuses everything its frontrunners produce: an entry that declares
nothing is still ahead of those that do, and with `*/*` it is not. -/
theorem verdict_spellOut_iff (consumes produces : Nat → Bool) (table : Table)
    (resolver : Version.Resolver) (request : Request) :
    verdict ⟨table.mapIdx (spellOut consumes produces), resolver⟩ request =
      verdict ⟨table, resolver⟩ request ↔ ¬Refusal produces ⟨table, resolver⟩ request := by
  rw [(keeps_spellOut consumes produces resolver request).verdict_eq_iff,
    leaders_ahead (f := spellOut consumes produces) (fun _ _ => rfl)
      (consumed_spellOut consumes produces request),
    leaders_ahead (f := fun _ e => e) (fun _ _ => rfl) (fun _ _ => rfl)]
  constructor
  · intro hsame hrefusal
    exact leaders_of_refusal consumes produces hrefusal hsame
  · exact leaders_of_not_refusal consumes produces

/-- A report in some media types. -/
def report (types : List MediaType) : Entry :=
  ⟨.get, ⟨"/report", [.literal "report"]⟩, types, [], none, "report"⟩

/-- A request for the report that refuses HTML and asks for nothing else. -/
def refusing : Request :=
  (Request.of .get "/report").withHeader "Accept" "text/html;q=0"

/-- A report in any type is chosen over one in JSON, and no longer so once it says that it is. -/
theorem report_loses_lead :
    Router.route ⟨[report [], report [.json]], .standard⟩ refusing =
      .ok ⟨report [], [], [], none⟩ ∧
    Router.route ⟨[report [.any], report [.json]], .standard⟩ refusing =
      .error (.ambiguous "/report" ["GET /report", "GET /report"]) ∧
    [report [.any], report [.json]] =
      [report [], report [.json]].mapIdx (spellOut (fun _ => false) (· == 0)) ∧
    verdict ⟨[report [.any], report [.json]], .standard⟩ refusing ≠
      verdict ⟨[report [], report [.json]], .standard⟩ refusing := by
  refine ⟨?_, ?_, ?_, ?_⟩
  · decide +kernel
  · decide +kernel
  · decide +kernel
  · decide +kernel

end Switchboard.Proofs.Undeclared
