import Switchboard.Proofs.FanOut

namespace Switchboard.Proofs.Spelling
open Service Directory

/-- A backend that answers names of one canonical form alike, whatever lies outside. -/
def IgnoresSpelling (b : Backend) : Prop :=
  ∀ (σ : Type) (net : Network σ) (s : σ) (x y : String), hyphenate x = hyphenate y →
    b.instancesOf net x s = b.instancesOf net y s

theorem instancesOf_dns {σ : Type} (net : Network σ) (d : Dns) (x : String) (s : σ) :
    (Backend.instancesOf net x (.leaf (.dns d)) s).1.result = d.instancesOf net.lookup x := by
  rw [Backend.instancesOf, Backend.query, Leaf.instancesOf]
  exact FanOut.ofResult_result _

theorem ignoresSpelling_roster (r : Roster) : IgnoresSpelling (.leaf (.roster r)) := by
  intro σ net s x y h
  simp only [Backend.instancesOf, Backend.query, Leaf.instancesOf, Roster.instancesOf, h]

theorem ignoresSpelling_fixed (f : Fixed) : IgnoresSpelling (.leaf (.fixed f)) := by
  intro σ net s x y h
  simp only [Backend.instancesOf, Backend.query, Leaf.instancesOf, Fixed.instancesOf, h]

theorem ignoresSpelling_metadata (m : Metadata) : IgnoresSpelling (.leaf (.metadata m)) := by
  intro σ net s x y h
  simp only [Backend.instancesOf, Backend.query, Leaf.instancesOf, Metadata.instancesOf,
    Metadata.asksNetwork, h]

theorem ignoresSpelling_consul (c : Consul) : IgnoresSpelling (.leaf (.consul c)) := by
  intro σ net s x y h
  simp only [Backend.instancesOf, Backend.query, Leaf.instancesOf, Consul.instancesOf, h]

/-- A composite passes on the canonical form alone, whatever its parts make of a name. -/
theorem ignoresSpelling_composite (policy : Policy) (parts : List Backend) :
    IgnoresSpelling (.composite policy parts) := by
  intro σ net s x y h
  simp only [Backend.instancesOf, Backend.query, h]

theorem hostFor_injective (d : Dns) {x y : String} (h : d.hostFor x = d.hostFor y) : x = y := by
  unfold Dns.hostFor at h
  split at h
  · simpa [String.append_assoc] using h
  · exact h

/-- Host names are asked for as they are spelled, and one spelling may exist without the other. -/
theorem not_ignoresSpelling_dns (d : Dns) : ¬IgnoresSpelling (.leaf (.dns d)) := by
  intro h
  let net : Network Unit :=
    { lookup := fun host => if host = d.hostFor "a" then .unknown else .failed "no answer"
      wire := fun _ s => (.dropped, s) }
  have hother : d.hostFor "A" ≠ d.hostFor "a" := by
    intro he
    exact absurd (hostFor_injective d he) (by decide)
  have hspelled := congrArg (·.1.result) (h Unit net () "a" "A" (by decide +kernel))
  simp only [instancesOf_dns] at hspelled
  simp [Dns.instancesOf, net, hother] at hspelled

/-- Every backend ignores how a name is spelled, but for a directory of host names that is asked by
itself. -/
theorem ignoresSpelling_iff (b : Backend) (hb : ∀ d, b ≠ .leaf (.scripted d)) :
    IgnoresSpelling b ↔ ∀ d, b ≠ .leaf (.dns d) := by
  constructor
  · rintro h d rfl
    exact not_ignoresSpelling_dns d h
  · intro hdns
    cases b with
    | composite policy parts => exact ignoresSpelling_composite policy parts
    | leaf l =>
      cases l with
      | roster r => exact ignoresSpelling_roster r
      | fixed f => exact ignoresSpelling_fixed f
      | dns d => exact absurd rfl (hdns d)
      | metadata m => exact ignoresSpelling_metadata m
      | consul c => exact ignoresSpelling_consul c
      | scripted d => exact absurd rfl (hb d)

/-- Only addresses can be looked up. -/
def offline : Network Unit where
  lookup := .of fun _ => .unknown
  wire _ s := (.dropped, s)

/-- Behind a composite host names are asked for in their canonical form. -/
theorem composite_ignoresSpelling :
    IgnoresSpelling (.composite .strict [.leaf (.dns (.onPort 80))]) ∧
    Backend.instancesOf offline "::A" (.composite .strict [.leaf (.dns (.onPort 80))]) () =
      Backend.instancesOf offline "::a" (.composite .strict [.leaf (.dns (.onPort 80))]) () := by
  have h : IgnoresSpelling (.composite .strict [.leaf (.dns (.onPort 80))]) :=
    (ignoresSpelling_iff _ (by simp)).mpr (by simp)
  exact ⟨h, h Unit offline () "::A" "::a" (by decide +kernel)⟩

/-- A directory of host names that is asked by itself names its instances as the name is spelled. -/
theorem dns_keeps_spelling :
    hyphenate "::A" = hyphenate "::a" ∧
    ((Dns.onPort 80).instancesOf offline.lookup "::A").toOption.map (·.map (·.id)) =
      some ["::A-::a"] ∧
    ((Dns.onPort 80).instancesOf offline.lookup "::a").toOption.map (·.map (·.id)) =
      some ["::a-::a"] ∧
    ¬IgnoresSpelling (.leaf (.dns (.onPort 80))) := by
  have hupper : ((Dns.onPort 80).instancesOf offline.lookup "::A").toOption.map (·.map (·.id)) =
      some ["::A-::a"] := by decide +kernel
  have hlower : ((Dns.onPort 80).instancesOf offline.lookup "::a").toOption.map (·.map (·.id)) =
      some ["::a-::a"] := by decide +kernel
  have hnames : hyphenate "::A" = hyphenate "::a" := by decide +kernel
  refine ⟨hnames, hupper, hlower, fun h => ?_⟩
  have hsame := congrArg (·.1.result) (h Unit offline () "::A" "::a" hnames)
  simp only [instancesOf_dns] at hsame
  rw [hsame, hlower] at hupper
  exact absurd hupper (by decide)

end Switchboard.Proofs.Spelling
