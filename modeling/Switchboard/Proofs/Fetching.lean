import Mathlib.Data.List.Basic
import Switchboard.Directory.Visits
import Switchboard.Proofs.Chains

namespace Switchboard.Proofs.Fetching
open Service Directory Http
open Metadata (Exchange Visit noting)

/-- What a request for the description comes to, stage by stage. -/
inductive Fetch (m : Metadata) (e : Exchange) : Except Error Instance → Prop where
  | lost (hr : e.reply = .dropped) :
      Fetch m e (.error (.exchange (.noReply e.call.url.text)))
  | refused (status : Nat) (body : String) (hr : e.reply = .answer status body)
      (hs : Status.isClientError status ∨ Status.isServerError status) :
      Fetch m e (.error (.exchange (.badStatus status e.call.url.text)))
  | malformed (status : Nat) (body : String) (cause : Error) (hr : e.reply = .answer status body)
      (hs : ¬(Status.isClientError status ∨ Status.isServerError status))
      (hp : Droplet.parse body = .error cause) : Fetch m e (.error cause)
  | described (status : Nat) (body : String) (d : Droplet) (hr : e.reply = .answer status body)
      (hs : ¬(Status.isClientError status ∨ Status.isServerError status))
      (hp : Droplet.parse body = .ok d) : Fetch m e (d.toInstance m.service m.scheme m.port)

theorem describedBy_received (m : Metadata) (call : Call) (status : Nat) (body : String) :
    m.describedBy (Exchange.mk call (.answer status body)).received =
      if Status.isClientError status || Status.isServerError status then
        .error (.exchange (.badStatus status call.url.text))
      else (Droplet.parse body).bind fun d => d.toInstance m.service m.scheme m.port := by
  unfold Metadata.describedBy Exchange.received Except.bind Answer.checked
  dsimp only
  split <;> rfl

theorem fetch_describedBy (m : Metadata) (e : Exchange) : Fetch m e (m.describedBy e.received) := by
  obtain ⟨call, reply⟩ := e
  cases reply with
  | dropped => exact .lost rfl
  | answer status body =>
    rw [describedBy_received]
    split
    · next hs => exact .refused status body rfl (by simpa using hs)
    · next hs =>
      cases hp : Droplet.parse body with
      | error cause => exact .malformed status body cause rfl (by simpa using hs) hp
      | ok d => exact .described status body d rfl (by simpa using hs) hp

theorem Fetch.unique {m : Metadata} {e : Exchange} {r r' : Except Error Instance}
    (h : Fetch m e r) (h' : Fetch m e r') : r = r' := by
  cases h <;> cases h' <;> simp_all

theorem fetch_iff {m : Metadata} {e : Exchange} {r : Except Error Instance} :
    Fetch m e r ↔ m.describedBy e.received = r :=
  ⟨(fetch_describedBy m e).unique, fun h => h ▸ fetch_describedBy m e⟩

/-- An instance that a query fetched. -/
def Brought (m : Metadata) (v : Visit) (i : Instance) : Prop :=
  ∃ e ∈ v.exchanges, Fetch m e (.ok i)

/-- A query that fetches the description. Its request is the only one, and what that comes to is the
result. Where the address cannot be called, the query fails without a request. -/
inductive Fetches (m : Metadata) (v : Visit) : Prop where
  | sent (e : Exchange) (r : Except Error Instance) (hcall : callOf .get m.url none = .ok e.call)
      (he : v.exchanges = [e]) (hf : Fetch m e r) (hr : v.result = r.map ([·]))
  | unsendable (cause : ExchangeError) (hcall : callOf .get m.url none = .error cause)
      (he : v.exchanges = []) (hr : v.result = .error (.exchange cause))

/-- What a query does after earlier ones. -/
structure Follows (m : Metadata) (earlier : List Visit) (v : Visit) : Prop where
  other : hyphenate v.service ≠ m.service → v.exchanges = [] ∧ v.result = .ok []
  kept : hyphenate v.service = m.service → ∀ w ∈ earlier, ∀ i, Brought m w i →
    v.exchanges = [] ∧ v.result = .ok [i]
  fetched : hyphenate v.service = m.service → (∀ w ∈ earlier, ∀ i, ¬Brought m w i) → Fetches m v

section
variable {σ : Type} (wire : Wire σ)

/-- What goes over a wire for a request. -/
def exchanged (method : Method) (address : String) (body : Option Tree) (s : σ) : List Exchange :=
  match callOf method address body with
  | .ok call => [⟨call, (wire call s).1⟩]
  | .error _ => []

theorem send_noting (method : Method) (address : String) (body : Option Tree) (s : σ) :
    send (noting wire) method address body (s, []) =
      ((send wire method address body s).1,
        (send wire method address body s).2, exchanged wire method address body s) := by
  unfold send exchanged noting
  cases callOf method address body with
  | error cause => rfl
  | ok call =>
    dsimp only
    cases hw : wire call s with
    | mk reply t => cases reply <;> rfl

theorem send_eq (method : Method) (address : String) (body : Option Tree) (s : σ) :
    (send wire method address body s).1 = match callOf method address body with
      | .ok call => (Exchange.mk call (wire call s).1).received
      | .error cause => .error cause := by
  unfold send
  cases callOf method address body with
  | error cause => rfl
  | ok call =>
    dsimp only
    cases hw : wire call s with
    | mk reply t => cases reply <;> rfl

variable {m : Metadata} {service : String} (s : σ)

theorem visit_other (h : hyphenate service ≠ m.service) :
    m.visit wire service s = (⟨service, [], .ok []⟩, m, s) := by
  unfold Metadata.visit Metadata.instancesOf
  rw [if_neg h]

theorem visit_known (h : hyphenate service = m.service) {i : Instance} (hk : m.known = some i) :
    m.visit wire service s = (⟨service, [], .ok [i]⟩, m, s) := by
  unfold Metadata.visit Metadata.instancesOf Metadata.localInstance
  rw [if_pos h, hk]
  rfl

theorem visit_unknown (h : hyphenate service = m.service) (hk : m.known = none) :
    m.visit wire service s =
      (⟨service, exchanged wire .get m.url none s,
          (m.describedBy (send wire .get m.url none s).1).map ([·])⟩,
        { m with known := (m.describedBy (send wire .get m.url none s).1).toOption },
        (send wire .get m.url none s).2) := by
  unfold Metadata.visit Metadata.instancesOf Metadata.localInstance
  rw [if_pos h, hk]
  dsimp only
  rw [send_noting]
  dsimp only
  cases m.describedBy (send wire .get m.url none s).1 with
  | ok i => rfl
  | error cause =>
    simp only [Except.toOption, ← hk]

end

section
variable {σ : Type} (wire : Wire σ) {m : Metadata} {earlier : List Visit} {known : Option Instance}

/-- What a directory knows is what earlier queries fetched. -/
def Remembers (m : Metadata) (earlier : List Visit) (known : Option Instance) : Prop :=
  ∀ i, known = some i ↔ ∃ w ∈ earlier, Brought m w i

theorem not_brought {v : Visit} (he : v.exchanges = []) (i : Instance) : ¬Brought m v i := by
  rintro ⟨e, hm, -⟩
  rw [he] at hm
  cases hm

/-- A query that sends nothing changes nothing. -/
theorem Remembers.quiet (h : Remembers m earlier known) {v : Visit} (he : v.exchanges = []) :
    Remembers m (earlier ++ [v]) known := by
  intro i
  rw [h i]
  constructor
  · rintro ⟨w, hw, hb⟩
    exact ⟨w, List.mem_append_left _ hw, hb⟩
  · rintro ⟨w, hw, hb⟩
    rcases List.mem_append.mp hw with hw | hw
    · exact ⟨w, hw, hb⟩
    · obtain rfl := List.mem_singleton.mp hw
      exact absurd hb (not_brought he i)

theorem fetches_unknown (service : String) (s : σ) :
    Fetches m ⟨service, exchanged wire .get m.url none s,
      (m.describedBy (send wire .get m.url none s).1).map ([·])⟩ := by
  cases hcall : callOf .get m.url none with
  | error cause =>
    refine .unsendable cause hcall ?_ ?_
    · simp only [exchanged, hcall]
    · simp only [send_eq, hcall]
      rfl
  | ok call =>
    refine .sent ⟨call, (wire call s).1⟩ _ hcall ?_ (fetch_describedBy m _) ?_
    · simp only [exchanged, hcall]
    · simp only [send_eq, hcall]

theorem brought_unknown (service : String) (s : σ) (i : Instance) :
    Brought m ⟨service, exchanged wire .get m.url none s,
        (m.describedBy (send wire .get m.url none s).1).map ([·])⟩ i ↔
      m.describedBy (send wire .get m.url none s).1 = .ok i := by
  unfold Brought
  rw [send_eq]
  cases hcall : callOf .get m.url none with
  | error cause =>
    simp only [exchanged, hcall]
    constructor
    · rintro ⟨e, hm, -⟩
      cases hm
    · intro h
      cases h
  | ok call => simp [exchanged, hcall, fetch_iff]

/-- What one query does, and what the directory knows after it. -/
theorem visit_follows (h : Remembers m earlier known) (service : String) (s : σ) :
    ∃ v known' t,
      Metadata.visit wire { m with known } service s = (v, { m with known := known' }, t) ∧
      v.service = service ∧ Follows m earlier v ∧ Remembers m (earlier ++ [v]) known' := by
  by_cases hs : hyphenate service = m.service
  · cases known with
    | some i =>
      have hkept : ∀ w ∈ earlier, ∀ j, Brought m w j → j = i := by
        intro w hw j hb
        exact (Option.some.inj ((h j).mpr ⟨w, hw, hb⟩)).symm
      have hfollows : Follows m earlier ⟨service, [], .ok [i]⟩ := by
        refine ⟨fun hne => absurd hs hne, ?_, ?_⟩
        · intro _ w hw j hb
          rw [hkept w hw j hb]
          exact ⟨rfl, rfl⟩
        · intro _ hnone
          obtain ⟨w, hw, hb⟩ := (h i).mp rfl
          exact absurd hb (hnone w hw i)
      have hvisit := visit_known (m := { m with known := some i }) wire s hs rfl
      exact ⟨_, some i, s, hvisit, rfl, hfollows, h.quiet rfl⟩
    | none =>
      have hnone : ∀ w ∈ earlier, ∀ i, ¬Brought m w i := by
        intro w hw i hb
        cases (h i).mpr ⟨w, hw, hb⟩
      have hvisit := visit_unknown (m := { m with known := none }) wire s hs rfl
      refine ⟨_, _, _, hvisit, rfl, ?_, ?_⟩
      · refine ⟨fun hne => absurd hs hne, ?_, fun _ _ => fetches_unknown wire service s⟩
        intro _ w hw i hb
        exact absurd hb (hnone w hw i)
      · intro i
        have hbrought := brought_unknown (m := m) wire service s i
        constructor
        · intro hi
          exact ⟨_, List.mem_append_right _ (List.mem_singleton_self _),
            hbrought.mpr (Chains.ok_of_toOption hi)⟩
        · rintro ⟨w, hw, hb⟩
          rcases List.mem_append.mp hw with hw | hw
          · exact absurd hb (hnone w hw i)
          · obtain rfl := List.mem_singleton.mp hw
            exact congrArg Except.toOption (hbrought.mp hb)
  · have hfollows : Follows m earlier ⟨service, [], .ok []⟩ :=
      ⟨fun _ => ⟨rfl, rfl⟩, fun he => absurd he hs, fun he => absurd he hs⟩
    have hvisit := visit_other (m := { m with known }) wire s hs
    exact ⟨_, known, s, hvisit, rfl, hfollows, h.quiet rfl⟩

theorem visitAll_follows (h : Remembers m earlier known) (services : List String) (s : σ) :
    let visits := (Metadata.visitAll wire { m with known } services s).1
    visits.map (·.service) = services ∧
    ∀ (place : Nat) v, visits[place]? = some v → Follows m (earlier ++ visits.take place) v := by
  induction services generalizing earlier known s with
  | nil => exact ⟨rfl, by simp [Metadata.visitAll]⟩
  | cons service services ih =>
    obtain ⟨v, known', t, hvisit, hservice, hfollows, hnext⟩ := visit_follows wire h service s
    obtain ⟨hservices, hrest⟩ := ih hnext t
    simp only [Metadata.visitAll, hvisit]
    refine ⟨by rw [List.map_cons, hservice, hservices], ?_⟩
    intro place w hw
    cases place with
    | zero =>
      obtain rfl := Option.some.inj hw
      simpa using hfollows
    | succ place =>
      have := hrest place w hw
      simpa using this

end

/-- For the own service of a directory the description of the machine is fetched until a fetch
succeeds: a query that fails tells why, the next one fetches again, and from the first that succeeds
on all have its instance without another request. For other services nothing is ever sent. -/
theorem fetched_until_usable {σ : Type} (wire : Wire σ) {m : Metadata} (hm : m.known = none)
    (services : List String) (s : σ) :
    let visits := (m.visitAll wire services s).1
    visits.map (·.service) = services ∧
    ∀ (place : Nat) v, visits[place]? = some v → Follows m (visits.take place) v := by
  have hfresh : Remembers m [] m.known := by
    intro i
    simp [hm]
  exact visitAll_follows wire hfresh services s

/-- Replies in a row, and none behind the last of them. -/
def replying : Wire (List Reply) := fun _ replies =>
  (replies.headD .dropped, replies.tail)

/-- A machine that serves web applications. -/
def webApp : Metadata :=
  .forService "webApp" "http://metadata.test/v1.json" 8080

/-- One failure of each kind, and then a description to be kept. -/
def replies : List Reply :=
  [.dropped, .answer 503 "", .answer 200 "[]", .answer 200 "\x7b\x7d",
    .answer 200 ("\x7b\"droplet_id\":7,\"interfaces\":\x7b\"public\":[" ++
      "\x7b\"ipv4\":\x7b\"ip_address\":\"10.0.0.1\"\x7d\x7d]\x7d\x7d"),
    .answer 500 ""]

def asked : List String :=
  ["webApp", "billing", "web-app", "WebApp", "web_app", "web app", "billing", "webApp"]

theorem webApp_fetched :
    webApp.known = none ∧
    ((webApp.visitAll replying asked replies).1.map fun v =>
        (v.exchanges.length, v.result.toOption.map (·.map (·.id)))) =
      [(1, none), (0, some []), (1, none), (1, none), (1, none), (1, some ["7"]), (0, some []),
        (0, some ["7"])] ∧
    (webApp.visitAll replying asked replies).1.map (·.service) = asked ∧
    ∀ (place : Nat) v, (webApp.visitAll replying asked replies).1[place]? = some v →
      Follows webApp ((webApp.visitAll replying asked replies).1.take place) v :=
  ⟨rfl, by decide +kernel, fetched_until_usable replying rfl asked replies⟩

end Switchboard.Proofs.Fetching
