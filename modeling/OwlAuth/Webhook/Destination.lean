import Mathlib.Data.List.Sort
import OwlAuth.Mail.Destinations

/-!
# Where a webhook is delivered

`SafeWebhookTransport` resolves the host of an endpoint before every attempt and connects to an
address of the answer.  The resolver may answer as it likes, and differently every time.

* `followCnames`  the chain of names, at most eight links long;
* `resolveDestination`  the address to connect to;
* `webhook_destinations_admitted`
    what holds of the answer and of the address, whatever the resolver did.
-/

namespace OwlAuth

open Fallible

/-! ## what the transport rests on -/

structure Url where
  scheme : String
  port : Option UInt16
  username : String
  (password fragment hostStr : Option String)

/-- the parsers of URLs and of address literals -/
structure HookUrlLibrary where
  parse : String → Option Url
  parsesAsIp : String → Bool

def Url.portOrKnownDefault (url : Url) : Option UInt16 :=
  url.port.orElse fun _ =>
    if url.scheme = "https" then some 443 else if url.scheme = "http" then some 80 else none

/-- an answer may depend on how often the resolver was asked before -/
structure WebhookDnsResolver where
  lookupCname : Nat → String → Except ApplicationError (Option String)
  lookupIps : String → Except ApplicationError (List IpAddr)

structure SafeWebhookTransport where
  resolver : WebhookDnsResolver
  forbiddenListenerAddresses : List SocketAddr
  explicitlyAllowedPrivateIps : List IpAddr

/-! ## the chain of names -/

def normalizedName (name : String) : String :=
  String.ofList (((name.toList.reverse.dropWhile (· = '.')).reverse).map Char.toLower)

/-- the name at the end of the chain with the links before it, and how often the resolver was asked
for a link; `remaining` links may follow -/
def followCnames (r : WebhookDnsResolver) (remaining depth : Nat) (current : String)
    (visited : List String) : Except ApplicationError (Nat × String) × Nat :=
  match r.lookupCname depth current with
  | .error e => (.error e, depth + 1)
  | .ok none => (.ok (depth, current), depth + 1)
  | .ok (some target) =>
    match remaining with
    | 0 => (.error .disabled, depth + 1)
    | remaining + 1 =>
      let target := normalizedName target
      if target = "" ∨ target ∈ visited then (.error .disabled, depth + 1)
      else followCnames r remaining (depth + 1) target (target :: visited)

/-! ## the answer -/

/-- the order of addresses: version 4 first -/
def IpAddr.le : IpAddr → IpAddr → Bool
  | .v4 a, .v4 b => decide (a.toNat ≤ b.toNat)
  | .v4 _, .v6 _ => true
  | .v6 _, .v4 _ => false
  | .v6 a, .v6 b => decide (a.toNat ≤ b.toNat)

structure Lookups where
  cnames : Nat
  answer : List IpAddr

def resolveCompleteChain (r : WebhookDnsResolver) (hostname : String) :
    Except ApplicationError (Nat × List IpAddr) × Lookups :=
  let current := normalizedName hostname
  match followCnames r maxCnameDepth 0 current [current] with
  | (.error e, cnames) => (.error e, ⟨cnames, []⟩)
  | (.ok (depth, current), cnames) =>
    match r.lookupIps current with
    | .error e => (.error e, ⟨cnames, []⟩)
    | .ok addresses =>
      (.ok (depth, dedupAdjacent (addresses.insertionSort fun a b => a.le b)),
        ⟨cnames, addresses⟩)

/-! ## the destination -/

variable (lib : HookUrlLibrary)

/-- the URL is one to deliver to, with the host and the port it names -/
def endpointHost (endpointUrl : String) : Tx (Url × String × UInt16) := do
  let url ← require (lib.parse endpointUrl) .invalidInput
  ensure (url.scheme = "https" ∧ url.port ≠ some 0 ∧ url.username = "" ∧ url.password = none
    ∧ url.fragment = none) .invalidInput
  let hostname ← require (url.hostStr.filter fun host => !lib.parsesAsIp host) .invalidInput
  let port ← require url.portOrKnownDefault .invalidInput
  pure (url, hostname, port)

/-- a listener of the server takes connections to the address -/
def Listens (port : UInt16) (address : IpAddr) (listener : SocketAddr) : Prop :=
  listener.port = port ∧ (listener.ip.isUnspecified ∨ listener.ip = address)
  deriving Decidable

variable (t : SafeWebhookTransport)

/-- the first address of an answer that passed -/
def admitAnswer (hostname : String) (port : UInt16)
    (depth : Nat) (addresses : List IpAddr) : Tx SocketAddr := do
  SmtpEndpoint.validateResolution lib.parsesAsIp
    ⟨hostname, port, .implicitTls, t.explicitlyAllowedPrivateIps, false⟩ depth addresses
  ensure (∀ address ∈ addresses, ∀ listener ∈ t.forbiddenListenerAddresses,
    ¬ Listens port address listener) .disabled
  let address ← require addresses.head? .disabled
  pure ⟨address, port⟩

def resolveDestination (endpointUrl : String) :
    Except ApplicationError (Url × String × SocketAddr) × Lookups :=
  match endpointHost lib endpointUrl with
  | .error e => (.error e, ⟨0, []⟩)
  | .ok (url, hostname, port) =>
    match resolveCompleteChain t.resolver hostname with
    | (.error e, lookups) => (.error e, lookups)
    | (.ok (depth, addresses), lookups) =>
      match admitAnswer lib t hostname port depth addresses with
      | .error e => (.error e, lookups)
      | .ok destination => (.ok (url, hostname, destination), lookups)

/-! ## whatever the resolver answers -/

theorem followCnames_lookups (r : WebhookDnsResolver) (remaining : Nat) :
    ∀ (depth : Nat) (current : String) (visited : List String),
      (followCnames r remaining depth current visited).2 ≤ depth + remaining + 1 := by
  induction remaining with
  | zero =>
    intro depth current visited
    unfold followCnames
    split
    · exact Nat.le_refl _
    · exact Nat.le_refl _
    · exact Nat.le_refl _
  | succ remaining ih =>
    intro depth current visited
    unfold followCnames
    split
    · dsimp only; omega
    · dsimp only; omega
    · dsimp only
      split
      · dsimp only; omega
      · exact (ih _ _ _).trans (by omega)

theorem resolveCompleteChain_lookups (r : WebhookDnsResolver) (hostname : String) :
    (resolveCompleteChain r hostname).2.cnames ≤ 9 := by
  have hbound := followCnames_lookups r maxCnameDepth 0 (normalizedName hostname)
    [normalizedName hostname]
  unfold resolveCompleteChain
  dsimp only
  split
  · rename_i h
    rw [h] at hbound
    exact hbound
  · rename_i h
    rw [h] at hbound
    split
    · exact hbound
    · exact hbound

theorem resolveCompleteChain_answer {r hostname depth addresses lookups}
    (h : resolveCompleteChain r hostname = (.ok (depth, addresses), lookups)) {a} :
    a ∈ lookups.answer ↔ a ∈ addresses := by
  unfold resolveCompleteChain at h
  dsimp only at h
  split at h
  · cases h
  · split at h
    · cases h
    · cases h
      rw [mem_dedupAdjacent, List.mem_insertionSort]

theorem admitAnswer_ok {lib t hostname port depth addresses destination}
    (h : admitAnswer lib t hostname port depth addresses = .ok destination) :
    (∀ a ∈ addresses, Admitted t.explicitlyAllowedPrivateIps a)
      ∧ destination.ip ∈ addresses
      ∧ ∀ listener ∈ t.forbiddenListenerAddresses,
        ¬ Listens destination.port destination.ip listener := by
  obtain ⟨_, hvalid, _, hlisteners, address, hfirst, h⟩ := peel₃ h
  cases h
  obtain ⟨_, _, hvalid⟩ := later₂ hvalid
  have hmem := List.mem_of_mem_head? (require_ok.mp hfirst)
  have hmode : SmtpTlsMode.implicitTls ≠ .developmentLoopbackPlaintext := nofun
  exact ⟨fun a ha => validateAddress_admits hmode (forM_ok hvalid a ha), hmem,
    ensure_ok.mp hlisteners address hmem⟩

/-- **Destinations of webhooks.**  Whatever the resolver answers, a resolution asks it for at most
nine links; and if it ends in an address, that address is one of the answer, no listener of the
server takes connections to it, and every address of the answer is ordinary global unicast or an
overridable address that was allowed explicitly, and none is forbidden. -/
theorem webhook_destinations_admitted (endpointUrl : String) :
    (resolveDestination lib t endpointUrl).2.cnames ≤ 9
      ∧ ∀ url hostname destination,
        (resolveDestination lib t endpointUrl).1 = .ok (url, hostname, destination) →
          destination.ip ∈ (resolveDestination lib t endpointUrl).2.answer
          ∧ (∀ a ∈ (resolveDestination lib t endpointUrl).2.answer,
            Admitted t.explicitlyAllowedPrivateIps a)
          ∧ ∀ listener ∈ t.forbiddenListenerAddresses, listener ≠ destination
            ∧ ¬ Listens destination.port destination.ip listener := by
  unfold resolveDestination
  split
  · exact ⟨Nat.zero_le 9, nofun⟩
  · rename_i url hostname port _
    have hlookups := resolveCompleteChain_lookups t.resolver hostname
    split
    · rename_i h
      rw [h] at hlookups
      exact ⟨hlookups, nofun⟩
    · rename_i h
      rw [h] at hlookups
      have hanswer := @resolveCompleteChain_answer _ _ _ _ _ h
      split
      · exact ⟨hlookups, nofun⟩
      · rename_i hadmit
        obtain ⟨hall, hmem, hlisteners⟩ := admitAnswer_ok hadmit
        refine ⟨hlookups, ?_⟩
        rintro _ _ _ ⟨⟩
        refine ⟨hanswer.mpr hmem, fun a ha => hall a (hanswer.mp ha), fun l hl => ⟨?_, hlisteners l hl⟩⟩
        rintro rfl
        exact hlisteners l hl ⟨rfl, .inr rfl⟩

namespace Demo

def hookLibrary : HookUrlLibrary where
  parse := fun _ => some ⟨"https", none, "", none, none, some "hooks.example.test"⟩
  parsesAsIp := fun _ => false

def answering (answer : List IpAddr) : WebhookDnsResolver where
  lookupCname := fun n _ => .ok (if n = 0 then some "Edge.Example.Test." else none)
  lookupIps := fun host => if host = "edge.example.test" then .ok answer else .error .externalStore

def hookTransport (answer allowed : List IpAddr) : SafeWebhookTransport :=
  ⟨answering answer, [⟨.v4 (ipv4 1 1 1 1), 8443⟩], allowed⟩

end Demo

open Demo

theorem webhook_destinations_admitted_demo :
    let t := hookTransport [.v4 (ipv4 10 0 0 8), .v4 (ipv4 1 1 1 1)] [.v4 (ipv4 10 0 0 8)]
    Admitted t.explicitlyAllowedPrivateIps (.v4 (ipv4 1 1 1 1))
      ∧ Admitted t.explicitlyAllowedPrivateIps (.v4 (ipv4 10 0 0 8)) := by
  intro t
  have h := webhook_destinations_admitted hookLibrary t "https://hooks.example.test/"
  have hanswer : (resolveDestination hookLibrary t "https://hooks.example.test/").2.answer
      = [.v4 (ipv4 10 0 0 8), .v4 (ipv4 1 1 1 1)] := by decide +kernel
  have hok : (resolveDestination hookLibrary t "https://hooks.example.test/").1
      = .ok (⟨"https", none, "", none, none, some "hooks.example.test"⟩, "hooks.example.test",
        ⟨.v4 (ipv4 1 1 1 1), 443⟩) := by rfl
  have hall := (h.2 _ _ _ hok).2.1
  rw [hanswer] at hall
  exact ⟨hall _ (List.mem_cons_of_mem _ List.mem_cons_self), hall _ List.mem_cons_self⟩

/-- a valid allowlist may name a relay of 6to4, and then a webhook is delivered to it -/
theorem relay_is_admitted : let relay := IpAddr.v4 (ipv4 192 88 99 1)
    let t := hookTransport [relay] [relay]
    validatePrivateRelayAllowlist t.explicitlyAllowedPrivateIps = .ok ()
      ∧ (∃ url hostname, (resolveDestination hookLibrary t "https://hooks.example.test/").1
        = .ok (url, hostname, ⟨relay, 443⟩))
      ∧ relay.RelayV4 ∧ ¬ relay.Routable
      ∧ ¬ (relay.PrivateUse ∨ relay.Shared ∨ relay.UniqueLocal ∨ relay.Loopback) := by
  intro relay t
  have hrelay : relay.RelayV4 := by
    show inside4 _ _ _
    decide
  refine ⟨by decide +kernel, ⟨_, _, rfl⟩, hrelay, fun h => h.2.2.2.2.2.2.2 hrelay, ?_⟩
  rintro (h | h | h | h)
  · revert h
    show ¬ (inside4 _ _ _ ∨ inside4 _ _ _ ∨ inside4 _ _ _)
    decide
  · revert h
    show ¬ inside4 _ _ _
    decide
  · exact h
  · revert h
    show ¬ inside4 _ _ _
    decide

end OwlAuth
