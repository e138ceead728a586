import Switchboard.Directory.Consul
import Switchboard.Json.Equality
import Switchboard.Json.Printer
import Switchboard.Proofs.Addresses
import Switchboard.Proofs.Meanings

namespace Switchboard.Proofs.Echoes
open Service Directory Http Json Url Consul
open Hosts Addresses Meanings Chains

/-- What an agent lists of a registration: the values it was sent, the name being that of a service
now, and neither tags nor checks. -/
def listing (sent : Tree) : Tree :=
  .list [.record [("Service", .record ([("Address", "Address"), ("ID", "ID"), ("Meta", "Meta"),
    ("Port", "Port"), ("Service", "Name")].map fun (shown, name) =>
      (shown, (sent.at? [name]).getD .null)))]]

/-- An answer that succeeds, its body a JSON text of a value without ambiguity. -/
structure Gives (answer : Answer) (t : Tree) : Prop where
  success : Status.isSuccess answer.status = true
  body : ∃ d, read? answer.body = some d ∧ Says d t

/-- An instance as an agent without tags and checks for it describes it. -/
def echo (i : Instance) (address : String) (port : Nat) : Entry :=
  ⟨none, i.id, i.service, address, port, [], i.metadata, []⟩

/-- The same as the value of a JSON text. -/
def detail (i : Instance) (address : String) (port : Nat) : Tree :=
  .record [("Address", .text address), ("ID", .text i.id),
    ("Meta", .record (i.metadata.map fun e => (e.1, .text e.2))), ("Port", .whole port),
    ("Service", .text i.service)]

section
variable {i : Instance} {address : String} {port : Nat} {d : Document}

theorem listing_payload (hhost : i.host = some address) (hport : i.port = some port) :
    listing (payload i) = .list [.record [("Service", detail i address port)]] := by
  simp [listing, payload, detail, hhost, hport, Tree.at?, Tree.fields, Tree.Fields.find?]

theorem detail?_echo (h : Says d (detail i address port)) (hport : port ≤ 65535) :
    detail? none [] d = some (echo i address port) := by
  obtain ⟨found, hmembers, hthere, hmissing⟩ := h.members?
  obtain ⟨id, hid, hidMeans⟩ := hthere "ID" _ rfl
  obtain ⟨service, hservice, hserviceMeans⟩ := hthere "Service" _ rfl
  obtain ⟨shown, haddress, haddressMeans⟩ := hthere "Address" _ rfl
  obtain ⟨number, hnumber, hportMeans⟩ := hthere "Port" _ rfl
  obtain ⟨metadata, hmetadata, hmetaMeans⟩ := hthere "Meta" _ rfl
  have htags := hmissing "Tags" rfl
  have hnullable : Document.nullable? (Document.entries? Document.text?) metadata =
      some (some i.metadata) := nullable?_eq_some rfl hmetaMeans.texts
  unfold detail?
  rw [hmembers]
  simp [hid, hservice, haddress, hnumber, hmetadata, htags, orElse?, hidMeans.text?,
    hserviceMeans.text?, haddressMeans.text?, hportMeans.natural? hport, hnullable, echo]

theorem entry?_echo (h : Says d (.record [("Service", detail i address port)]))
    (hport : port ≤ 65535) : entry? d = some (echo i address port) := by
  obtain ⟨found, hmembers, hthere, hmissing⟩ := h.members?
  obtain ⟨service, hservice, hmeans⟩ := hthere "Service" _ rfl
  unfold entry?
  rw [hmembers]
  simp [hservice, hmissing "Node" rfl, hmissing "Checks" rfl, orElse?, detail?_echo hmeans hport]

theorem entries?_listing {body : String} (hread : read? body = some d)
    (hmeans : Says d (listing (payload i))) (hhost : i.host = some address)
    (hport : i.port = some port) (hle : port ≤ 65535) :
    entries? body = some [echo i address port] := by
  rw [listing_payload hhost hport] at hmeans
  obtain ⟨items, rfl, hitems⟩ := hmeans.items
  cases hitems with
  | @cons item _ _ _ hitem hnone =>
    cases hnone
    simp [entries?, hread, Document.items?, entry?_echo hitem hle]

end

section
variable {c : Consul} {i : Instance} {host : Host} {port : Nat}

theorem host_echo (h : Settled host) : (echo i host.text port).host =
    if ':' ∈ host.text.toList then "[" ++ host.text ++ "]" else host.text := by
  simp [Entry.host, echo, text_ne_empty h]

theorem uri_echo (h : Settled host) (hv6 : ¬ IsV6 host) :
    (echo i host.text port).uri "http" = "http" ++ "://" ++ host.text ++ ":" ++ toString port := by
  have hcolon : ':' ∉ host.text.toList := mt (colon_mem_text_iff h).mp hv6
  rw [Entry.uri, host_echo h, if_neg hcolon]
  rfl

/-- The brackets that the text of an IPv6 address has already are written again. -/
theorem uri_echo_v6 (h : Settled host) (hv6 : IsV6 host) : (echo i host.text port).uri "http" =
    "http" ++ "://" ++ ("[" ++ host.text ++ "]") ++ ":" ++ toString port := by
  rw [Entry.uri, host_echo h, if_pos ((colon_mem_text_iff h).mpr hv6)]
  rfl

theorem toInstance_echo (hscheme : c.scheme = "http") (h : Settled host) (hv6 : ¬ IsV6 host)
    (hle : port ≤ 65535) : c.toInstance (echo i host.text port) =
      .ok ⟨i.id, hyphenate i.service, webUrl host port, i.metadata, some .unknown⟩ := by
  unfold toInstance
  rw [hscheme, uri_echo h hv6, parse_host_port h hv6 hle]
  simp [Instance.ofUrl, echo, Entry.details, healthOf]

theorem toInstance_echo_v6 {gs : List Nat} (hscheme : c.scheme = "http")
    (h : Settled (.address (.v6 gs))) (hle : port ≤ 65535) :
    c.toInstance (echo i (Host.address (.v6 gs)).text port) =
      .error (.unusableAddress ("http://[[" ++ Address.v6Text gs ++ "]]:" ++ toString port)) := by
  have huri : (echo i (Host.address (.v6 gs)).text port).uri "http" = _ :=
    uri_echo_v6 h ⟨gs, rfl⟩
  have hwritten : "http" ++ "://" ++ ("[" ++ (Host.address (.v6 gs)).text ++ "]") ++ ":" ++
      toString port = "http://[[" ++ Address.v6Text gs ++ "]]:" ++ toString port := by
    apply String.toList_inj.mp
    simp [Host.text]
  unfold toInstance
  rw [hscheme, huri, parse_bracketed_port ⟨gs, rfl⟩ hle, hwritten]

end

section
variable {c : Consul} {i : Instance} {answer : Answer} {address : String} {port : Nat}

/-- A success is neither a refusal nor the answer to an unknown service. -/
theorem usable_of_isSuccess (h : Status.isSuccess answer.status = true) :
    answer.status ≠ 404 ∧ answer.checked = .ok answer := by
  simp only [Status.isSuccess, Bool.and_eq_true, decide_eq_true_eq] at h
  have hclient : Status.isClientError answer.status = false := by
    simp [Status.isClientError]
    omega
  have hserver : Status.isServerError answer.status = false := by
    simp [Status.isServerError]
    omega
  refine ⟨by omega, ?_⟩
  rw [Answer.checked, hclient, hserver]
  rfl

theorem instancesIn_echo (hgives : Gives answer (listing (payload i)))
    (hhost : i.host = some address) (hport : i.port = some port) (hle : port ≤ 65535) :
    c.instancesIn (.ok answer) = (c.toInstance (echo i address port)).map ([·]) := by
  obtain ⟨hsuccess, d, hread, hmeans⟩ := hgives
  obtain ⟨hstatus, hchecked⟩ := usable_of_isSuccess hsuccess
  have hentries := entries?_listing hread hmeans hhost hport hle
  unfold instancesIn
  simp only [Except.mapError, bind, Except.bind, if_neg hstatus, hchecked, hentries]
  rw [List.mapM_cons]
  cases c.toInstance (echo i address port) <;> rfl

end

/-- An agent takes the registration of an instance and then lists it, asked for a service. -/
structure Exchange {σ : Type} (wire : Wire σ) (c : Consul) (i : Instance) (name : String)
    (s taken listed : σ) : Prop where
  takes : ∃ answer,
    send wire .put c.registerUrl (some (payload i)) s = (.ok answer, taken) ∧
      Status.isSuccess answer.status = true
  lists : ∃ answer,
    send wire .get (c.healthUrl (hyphenate name)) none taken = (.ok answer, listed) ∧
      Gives answer (listing (payload i))

section
variable {σ : Type} {wire : Wire σ} {c : Consul} {i : Instance} {name text : String}
variable {s taken listed : σ}

theorem Exchange.register (h : Exchange wire c i name s taken listed) :
    c.register wire i s = (.ok (), taken) := by
  obtain ⟨answer, hsend, hsuccess⟩ := h.takes
  unfold Consul.register
  rw [hsend]
  simp [accepted, Except.mapError, bind, Except.bind, hsuccess, pure, Except.pure]

theorem Exchange.instancesOf {address : String} {port : Nat}
    (h : Exchange wire c i name s taken listed) (hhost : i.host = some address)
    (hport : i.port = some port) (hle : port ≤ 65535) : c.instancesOf wire name taken =
      ((c.toInstance (echo i address port)).map ([·]), listed) := by
  obtain ⟨answer, hsend, hgives⟩ := h.lists
  unfold Consul.instancesOf
  rw [hsend, ← instancesIn_echo hgives hhost hport hle]

/-- What an agent gives back of a registration is the instance that was registered, unless its host
is an IPv6 address; then there is no instance in it. The URL of an instance is one that was read. -/
theorem found_again_iff (h : Exchange wire c i name s taken listed) (hscheme : c.scheme = "http")
    (hparsed : Url.parse text = .ok i.uri) (hweb : i.uri.scheme = "http") :
    c.register wire i s = (.ok (), taken) ∧
    ((∃ j, c.instancesOf wire name taken = (.ok [j], listed) ∧
        j.id = i.id ∧ j.host = i.host ∧ j.port = i.port ∧ j.metadata = i.metadata) ↔
      ∀ gs, i.uri.host ≠ some (.address (.v6 gs))) ∧
    ∀ gs, i.uri.host = some (.address (.v6 gs)) → ∃ port, i.port = some port ∧
      c.instancesOf wire name taken = (.error (.unusableAddress
        ("http://[[" ++ Address.v6Text gs ++ "]]:" ++ toString port)), listed) := by
  obtain ⟨host, port, hhost, hsettled, hport, hle⟩ := host_port_of_parse hparsed hweb
  have haddress : i.host = some host.text := by rw [Instance.host, hhost, Option.map_some]
  have hfound := h.instancesOf haddress hport hle
  refine ⟨h.register, ?_, ?_⟩
  · constructor
    · rintro ⟨j, hj, -⟩ gs hgs
      obtain rfl := Option.some.inj (hhost.symm.trans hgs)
      rw [hfound, toInstance_echo_v6 hscheme hsettled hle] at hj
      cases hj
    · intro hnot
      have hv6 : ¬ IsV6 host := by
        rintro ⟨gs, rfl⟩
        exact hnot gs hhost
      rw [toInstance_echo hscheme hsettled hv6 hle] at hfound
      refine ⟨_, hfound, rfl, haddress.symm, ?_, rfl⟩
      exact (port_webUrl host port).trans hport.symm
  · intro gs hgs
    obtain rfl := Option.some.inj (hhost.symm.trans hgs)
    refine ⟨port, hport, ?_⟩
    rw [hfound, toInstance_echo_v6 hscheme hsettled hle]
    rfl

end

/-- An agent that keeps the last registration and lists it, whatever service it is asked for. -/
def keeper : Wire (Option Tree) := fun call kept =>
  match call.method, kept with
  | .put, _ => (.answer 200 "", call.body)
  | _, some sent => (.answer 200 (print (listing sent)), kept)
  | _, none => (.answer 200 "[]", kept)

def localAgent : Consul :=
  ⟨"http://localhost:8500", "http", false⟩

def billing (host : Host) : Instance :=
  ⟨"billing-1", "billing", webUrl host 8080, [("zone", "a")], none⟩

/-- What `keeper` lists of `billing`, as a document. -/
def billingListed (host : Host) : Document :=
  .list [.object [(some "Service", .object [
    (some "Address", .text (some host.text)),
    (some "ID", .text (some "billing-1")),
    (some "Meta", .object [(some "zone", .text (some "a"))]),
    (some "Port", .number ⟨false, [8, 0, 8, 0], none, none⟩),
    (some "Service", .text (some "billing"))])]]

theorem says_billingListed (host : Host) :
    Says (billingListed host) (listing (payload (billing host))) := by
  refine ⟨?_, depthLimit, rfl⟩
  have hmeta : Unambiguous (.object [(some "zone", .text (some "a"))]) :=
    .object (by simp) (by simp [Unambiguous.text])
  have hdetail : ∀ m ∈ [(some "Address", Document.text (some host.text)),
      (some "ID", .text (some "billing-1")),
      (some "Meta", .object [(some "zone", .text (some "a"))]),
      (some "Port", .number ⟨false, [8, 0, 8, 0], none, none⟩),
      (some "Service", .text (some "billing"))], Unambiguous m.2 := by
    simp [Unambiguous.text, Unambiguous.number, hmeta]
  refine .list (List.forall_mem_singleton.mpr (.object (by simp) ?_))
  exact List.forall_mem_singleton.mpr (.object (by simp) hdetail)

theorem send_put (sent : Tree) (kept : Option Tree) : ∃ url,
    send keeper .put localAgent.registerUrl (some sent) kept = (.ok ⟨200, "", url⟩, some sent) := by
  have hparse : Url.parse localAgent.registerUrl = .ok ⟨"http", some ⟨"", "",
      some (.domain "localhost"), some 8500⟩, .segments ["v1", "agent", "service", "register"],
      none, none⟩ := ok_of_toOption (by decide +kernel)
  unfold send callOf
  rw [hparse]
  exact ⟨_, rfl⟩

theorem send_get (sent : Tree) : ∃ url,
    send keeper .get (localAgent.healthUrl (hyphenate "billing")) none (some sent) =
      (.ok ⟨200, print (listing sent), url⟩, some sent) := by
  have hparse : Url.parse (localAgent.healthUrl (hyphenate "billing")) = .ok ⟨"http", some ⟨"", "",
      some (.domain "localhost"), some 8500⟩, .segments ["v1", "health", "service", "billing"],
      none, none⟩ := ok_of_toOption (by decide +kernel)
  unfold send callOf
  rw [hparse]
  exact ⟨_, rfl⟩

/-- What `keeper` keeps of `billing`. -/
def kept (host : Host) : Option Tree :=
  some (payload (billing host))

theorem exchange_keeper {host : Host}
    (hread : read? (print (listing (payload (billing host)))) = some (billingListed host)) :
    Exchange keeper localAgent (billing host) "billing" none (kept host) (kept host) := by
  obtain ⟨putUrl, hput⟩ := send_put (payload (billing host)) none
  obtain ⟨getUrl, hget⟩ := send_get (payload (billing host))
  exact ⟨⟨_, hput, rfl⟩, ⟨_, hget, rfl, _, hread, says_billingListed host⟩⟩

/-- A name comes back. -/
theorem name_found_again :
    Exchange keeper localAgent (billing (.domain "billing.internal")) "billing" none
      (kept (.domain "billing.internal")) (kept (.domain "billing.internal")) ∧
    Url.parse "http://billing.internal:8080" = .ok (billing (.domain "billing.internal")).uri ∧
    ∃ j, localAgent.instancesOf keeper "billing" (kept (.domain "billing.internal")) =
        (.ok [j], kept (.domain "billing.internal")) ∧
      j.id = "billing-1" ∧ j.host = some "billing.internal" ∧ j.port = some 8080 ∧
      j.metadata = [("zone", "a")] := by
  have hread : read? (print (listing (payload (billing (.domain "billing.internal"))))) =
      some (billingListed (.domain "billing.internal")) := by decide +kernel
  have hparsed : Url.parse "http://billing.internal:8080" =
      .ok (billing (.domain "billing.internal")).uri := ok_of_toOption (by decide +kernel)
  have hagain := (found_again_iff (exchange_keeper hread) rfl hparsed rfl).2.1
  refine ⟨exchange_keeper hread, hparsed, hagain.mpr ?_⟩
  intro gs h
  cases h

def loopback : Host :=
  .address (.v6 [0, 0, 0, 0, 0, 0, 0, 1])

/-- The loopback address of IPv6 comes back as it was sent, and makes no instance. -/
theorem loopback_not_found_again :
    Exchange keeper localAgent (billing loopback) "billing" none (kept loopback) (kept loopback) ∧
    Url.parse "http://[::1]:8080" = .ok (billing loopback).uri ∧
    localAgent.instancesOf keeper "billing" (kept loopback) =
      (.error (.unusableAddress "http://[[::1]]:8080"), kept loopback) := by
  have hread : read? (print (listing (payload (billing loopback)))) =
      some (billingListed loopback) := by decide +kernel
  have hsettled : Settled loopback := (rfl : [0, 0, 0, 0, 0, 0, 0, 1].length = 8)
  refine ⟨exchange_keeper hread, ok_of_toOption (by decide +kernel), ?_⟩
  rw [(exchange_keeper hread).instancesOf rfl rfl (by decide)]
  have hnone := toInstance_echo_v6 (c := localAgent) (i := billing loopback) rfl hsettled
    (by decide : 8080 ≤ 65535)
  have hwritten : "http://[[" ++ Address.v6Text [0, 0, 0, 0, 0, 0, 0, 1] ++ "]]:" ++
      toString 8080 = "http://[[::1]]:8080" := by decide +kernel
  rw [hwritten] at hnone
  exact congrArg (fun found => (found.map ([·]), kept loopback)) hnone

end Switchboard.Proofs.Echoes
