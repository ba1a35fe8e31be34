import OwlAuth.Identity.Authority
import OwlAuth.Mail.Destinations

/-!
# Redirect URIs

An Application registers the URIs a login may return to, and a client of the Rust SDK names one of
them.  Both sides parse the URI and admit plain `http` to the machine itself only.  They decide that
from the text of the host, in which an address of version six stands in brackets.

* `RedirectUri.parse`, `validateRedirect`  the check of the server and the one of the SDK;
* `RedirectLibrary`, `Faithful`  the parsers of URLs and of addresses, and what is assumed of them;
* `loopback_redirects_accepted_iff`  when the two accept exactly the loopback hosts.
-/

namespace OwlAuth

open Fallible

/-! ## parsed URLs -/

inductive Host
  | domain (name : String)
  | ip (address : IpAddr)

/-- the parts of a parsed URL that the checks read; `queryNames` are the names of `query_pairs` -/
structure RedirectUrl where
  (asStr scheme username : String)
  (password fragment : Option String)
  host : Option Host
  hostStr : Option String
  queryNames : List String

/-- `Url::parse` and `str::parse::<IpAddr>` -/
structure RedirectLibrary where
  parse : String → Option RedirectUrl
  parseIp : String → Option IpAddr

variable (lib : RedirectLibrary)

/-- the text of the host of an `http` URL: a name is never the text of an address, and an address
of version six opens with a bracket -/
def HostPrinted : Option Host → Option String → Prop
  | none, text => text = none
  | some (.domain name), text => text = some name ∧ lib.parseIp name = none
  | some (.ip (.v4 a)), text => ∃ s, text = some s ∧ lib.parseIp s = some (.v4 a)
  | some (.ip (.v6 _)), text => ∃ s, text = some ("[" ++ s)

structure RedirectLibrary.Faithful : Prop where
  printed : ∀ {value url}, lib.parse value = some url → url.scheme = "http" →
    HostPrinted lib url.host url.hostStr
  bracketed : ∀ s, lib.parseIp ("[" ++ s) = none
  named : lib.parseIp "localhost" = none
  starless : ∀ {s a}, lib.parseIp s = some a → '*' ∉ s.toList

/-! ## the check of the server -/

inductive ApplicationType
  | web | native
  deriving DecidableEq

inductive RedirectType
  | web | loopback | customScheme
  deriving DecidableEq

structure RedirectUri where
  exact : String
  kind : RedirectType
  deriving DecidableEq

/-- `str::contains` -/
def containsText (text : String) (value : List Char) : Bool :=
  value.tails.any text.toList.isPrefixOf

variable (value : String)

/-- a backslash, white space, or a slash or backslash that is percent-encoded -/
def HasAmbiguousUrlBytes : Prop :=
  '\\' ∈ value.toList ∨ value.toList.any isAsciiWhitespace = true
    ∨ containsText "%2f" (value.toList.map Char.toLower) = true
    ∨ containsText "%5c" (value.toList.map Char.toLower) = true
  deriving Decidable

def IsLoopbackHost (host : String) : Prop :=
  host = "localhost" ∨ ∃ a ∈ lib.parseIp host, IpAddr.isLoopback a

instance : DecidablePred (IsLoopbackHost lib) := fun _ => inferInstanceAs (Decidable (_ ∨ _))

def publicSchemes : List String :=
  ["about", "blob", "data", "file", "ftp", "http", "https", "javascript", "mailto", "vbscript",
    "ws", "wss"]

def IsPrivateApplicationScheme (scheme : String) : Prop :=
  '.' ∈ scheme.toList ∧ scheme ∉ publicSchemes
  deriving Decidable

def RedirectUri.parse (t : ApplicationType) : Checked RedirectUri := do
  ensure (8 ≤ value.utf8ByteSize ∧ value.utf8ByteSize ≤ 2048 ∧ ¬ HasAmbiguousUrlBytes value)
    .invalidUrl
  let url ← require (lib.parse value) .invalidUrl
  ensure (url.asStr = value ∧ url.username = "" ∧ url.password = none ∧ url.fragment = none
    ∧ ∀ host ∈ url.hostStr, '*' ∉ host.toList) .invalidUrl
  let loopback := ∃ host ∈ url.hostStr, IsLoopbackHost lib host
  if t = .web ∧ url.scheme = "https" then pure ⟨value, .web⟩
  else if url.scheme = "http" ∧ loopback then pure ⟨value, .loopback⟩
  else if t = .native ∧ ¬ loopback ∧ IsPrivateApplicationScheme url.scheme ∧ url.hostStr = none then
    pure ⟨value, .customScheme⟩
  else .error .invalidUrl

/-! ## the check of the SDK -/

structure ConfigurationError where
  (code message : String)
  deriving DecidableEq

def reservedNames : List String := ["handoff", "error", "state"]

/-- the schemes refused without a host; the two of the web have their own cases -/
def refusedSchemes : List String :=
  ["about", "blob", "data", "file", "ftp", "javascript", "mailto", "vbscript", "ws", "wss"]

def AdmittedRedirect (url : RedirectUrl) : Prop :=
  if url.scheme = "https" then url.hostStr ≠ none
  else if url.scheme = "http" then ∃ host ∈ url.hostStr, IsLoopbackHost lib host
  else '.' ∈ url.scheme.toList ∧ url.hostStr = none ∧ url.scheme ∉ refusedSchemes

instance : DecidablePred (AdmittedRedirect lib) := fun _ => by
  unfold AdmittedRedirect
  infer_instance

def validateRedirect : Except ConfigurationError Unit := do
  let invalid := ⟨"invalid_redirect_uri", "The redirect URI is invalid."⟩
  ensure (8 ≤ value.utf8ByteSize ∧ value.utf8ByteSize ≤ 2048 ∧ ¬ HasAmbiguousUrlBytes value) invalid
  let url ← require (lib.parse value) invalid
  ensure (url.asStr = value ∧ url.fragment = none ∧ url.username = "" ∧ url.password = none
    ∧ (∀ host ∈ url.hostStr, '*' ∉ host.toList) ∧ ∀ name ∈ url.queryNames, name ∉ reservedNames)
    invalid
  ensure (AdmittedRedirect lib url) invalid

/-! ## loopback hosts -/

def LoopbackHost : Option Host → Prop
  | some (.domain name) => name = "localhost"
  | some (.ip a) => a.isLoopback
  | none => False

/-- a canonically spelled `http` URL in which nothing but its host could be refused -/
structure PlainHttp (url : RedirectUrl) : Prop where
  parsed : lib.parse value = some url
  scheme : url.scheme = "http"
  canonical : url.asStr = value
  admissible : 8 ≤ value.utf8ByteSize ∧ value.utf8ByteSize ≤ 2048 ∧ ¬ HasAmbiguousUrlBytes value
  anonymous : url.username = "" ∧ url.password = none
  fragment : url.fragment = none

section
variable {lib} {value : String} {url : RedirectUrl} (hlib : lib.Faithful)
  (h : PlainHttp lib value url)
include hlib h

/-- both checks see the hosts that are loopback and not of version six -/
theorem loopback_seen_iff : (∃ host ∈ url.hostStr, IsLoopbackHost lib host)
    ↔ LoopbackHost url.host ∧ ¬ ∃ a, url.host = some (.ip (.v6 a)) := by
  have hprinted := hlib.printed h.parsed h.scheme
  generalize url.host = host at hprinted
  match host, hprinted with
  | none, (htext : _ = none) =>
    rw [htext]
    exact ⟨fun ⟨_, hl, _⟩ => (nomatch hl), fun hl => hl.1.elim⟩
  | some (.domain name), ⟨htext, hname⟩ =>
    rw [htext]
    refine ⟨?_, fun hl => ⟨name, rfl, .inl hl.1⟩⟩
    rintro ⟨_, ⟨⟩, hl | ⟨a, ha, _⟩⟩
    · exact ⟨hl, fun ha => nomatch ha⟩
    · rw [hname] at ha
      cases ha
  | some (.ip (.v4 a)), ⟨s, htext, ha⟩ =>
    rw [htext]
    refine ⟨?_, fun hl => ⟨s, rfl, .inr ⟨_, ha, hl.1⟩⟩⟩
    rintro ⟨_, ⟨⟩, rfl | ⟨b, hb, hl⟩⟩
    · cases hlib.named.symm.trans ha
    · cases ha.symm.trans hb
      exact ⟨hl, fun ha => nomatch ha⟩
  | some (.ip (.v6 a)), ⟨s, htext⟩ =>
    -- the bracket is no letter of a name and is refused by the parser of addresses
    rw [htext]
    refine ⟨?_, fun hl => absurd ⟨a, rfl⟩ hl.2⟩
    rintro ⟨_, ⟨⟩, hl | ⟨b, hb, _⟩⟩
    · have hfirst := congrArg (fun s => s.toList.head?) hl
      simp at hfirst
    · cases (hlib.bracketed s).symm.trans hb

omit h in
theorem starless_of_loopback (hl : ∃ host ∈ url.hostStr, IsLoopbackHost lib host) :
    ∀ host ∈ url.hostStr, '*' ∉ host.toList := by
  obtain ⟨host, hhost, hl⟩ := hl
  rintro _ hother
  cases hhost.symm.trans hother
  rcases hl with rfl | ⟨a, ha, _⟩
  · decide
  · exact hlib.starless ha

theorem parse_accepts_iff (t : ApplicationType) : (∃ r, RedirectUri.parse lib value t = .ok r)
    ↔ ∃ host ∈ url.hostStr, IsLoopbackHost lib host := by
  have hweb : ¬ (t = .web ∧ url.scheme = "https") := by
    rw [h.scheme]
    exact fun hw => absurd hw.2 (by decide)
  constructor
  · rintro ⟨r, hr⟩
    obtain ⟨_, _, u, hu, _, _, hr⟩ := peel₃ hr
    cases h.parsed.symm.trans (require_ok.mp hu)
    by_contra hl
    rw [if_neg hweb, if_neg (not_and_of_not_right _ hl), if_neg] at hr
    · cases hr
    · rw [h.scheme]
      exact fun hp => absurd hp.2.2.1 (by decide)
  · intro hl
    refine ⟨⟨value, .loopback⟩, unit_bind.mpr ⟨ensure_of _ h.admissible,
      bind_ok.mpr ⟨url, require_ok.mpr h.parsed, unit_bind.mpr ⟨ensure_of _ ⟨h.canonical,
        h.anonymous.1, h.anonymous.2, h.fragment, starless_of_loopback hlib hl⟩, ?_⟩⟩⟩⟩
    rw [if_neg hweb, if_pos ⟨h.scheme, hl⟩]
    rfl

theorem validateRedirect_accepts_iff (hnames : ∀ name ∈ url.queryNames, name ∉ reservedNames) :
    validateRedirect lib value = .ok () ↔ ∃ host ∈ url.hostStr, IsLoopbackHost lib host := by
  have hadmitted : AdmittedRedirect lib url ↔ ∃ host ∈ url.hostStr, IsLoopbackHost lib host := by
    unfold AdmittedRedirect
    rw [h.scheme, if_neg (by decide), if_pos rfl]
  constructor
  · intro hr
    obtain ⟨_, _, u, hu, _, _, hr⟩ := peel₃ hr
    cases h.parsed.symm.trans (require_ok.mp hu)
    exact hadmitted.mp (ensure_ok.mp hr)
  · intro hl
    exact unit_bind.mpr ⟨ensure_of _ h.admissible, bind_ok.mpr ⟨url, require_ok.mpr h.parsed,
      unit_bind.mpr ⟨ensure_of _ ⟨h.canonical, h.fragment, h.anonymous.1, h.anonymous.2,
        starless_of_loopback hlib hl, hnames⟩, ensure_of _ (hadmitted.mpr hl)⟩⟩⟩

/-- The server, for every type of Application, and the SDK accept exactly the loopback hosts, unless
the host is the loopback address of version six: that one they refuse. -/
theorem loopback_redirects_accepted_iff :
    ((∀ t, (∃ r, RedirectUri.parse lib value t = .ok r) ↔ LoopbackHost url.host)
        ∧ ((∀ name ∈ url.queryNames, name ∉ reservedNames) →
          (validateRedirect lib value = .ok () ↔ LoopbackHost url.host)))
      ↔ ¬ ∃ a, url.host = some (.ip (.v6 a)) ∧ IpAddr.isLoopback (.v6 a) := by
  have hseen := loopback_seen_iff hlib h
  constructor
  · rintro ⟨haccepts, _⟩ ⟨a, ha, hl⟩
    have hloop : LoopbackHost url.host := by
      rw [ha]
      exact hl
    exact (hseen.mp ((parse_accepts_iff hlib h .web).mp ((haccepts .web).mpr hloop))).2 ⟨a, ha⟩
  · intro hnot
    have hall : (∃ host ∈ url.hostStr, IsLoopbackHost lib host) ↔ LoopbackHost url.host := by
      refine hseen.trans ⟨And.left, fun hl => ⟨hl, ?_⟩⟩
      rintro ⟨a, ha⟩
      rw [ha] at hl
      exact hnot ⟨a, ha, hl⟩
    exact ⟨fun t => (parse_accepts_iff hlib h t).trans hall,
      fun hnames => (validateRedirect_accepts_iff hlib h hnames).trans hall⟩

end

/-! ## a URL of each family -/

namespace Demo

def loopbackUrl (asStr hostStr : String) (a : IpAddr) : RedirectUrl :=
  ⟨asStr, "http", "", none, none, some (.ip a), some hostStr, []⟩

def loopbackLibrary : RedirectLibrary where
  parse value :=
    if value = "http://127.0.0.1:8080/callback" then
      some (loopbackUrl value "127.0.0.1" (.v4 (ipv4 127 0 0 1)))
    else if value = "http://[::1]:8080/callback" then some (loopbackUrl value "[::1]" (.v6 1))
    else none
  parseIp s :=
    if s = "127.0.0.1" then some (.v4 (ipv4 127 0 0 1)) else if s = "::1" then some (.v6 1) else none

theorem loopbackLibrary_faithful : loopbackLibrary.Faithful where
  printed {value url} h hs := by
    simp only [loopbackLibrary] at h
    split at h
    · cases h
      exact ⟨_, rfl, rfl⟩
    · split at h
      · cases h
        exact ⟨"::1]", rfl⟩
      · cases h
  bracketed s := by
    have hne : ∀ t : String, t.toList.head? ≠ some '[' → "[" ++ s ≠ t := by
      rintro _ ht rfl
      exact ht (by simp)
    simp only [loopbackLibrary]
    rw [if_neg (hne _ (by decide)), if_neg (hne _ (by decide))]
  named := rfl
  starless {s a} h := by
    simp only [loopbackLibrary] at h
    split at h
    · subst s
      decide
    · split at h
      · subst s
        decide
      · cases h

theorem ipv4_callback : PlainHttp loopbackLibrary "http://127.0.0.1:8080/callback"
    (loopbackUrl "http://127.0.0.1:8080/callback" "127.0.0.1" (.v4 (ipv4 127 0 0 1))) where
  parsed := rfl
  scheme := rfl
  canonical := rfl
  admissible := by decide +kernel
  anonymous := ⟨rfl, rfl⟩
  fragment := rfl

end Demo

open Demo

theorem ipv4_loopback_accepted :
    (∃ r, RedirectUri.parse loopbackLibrary "http://127.0.0.1:8080/callback" .native = .ok r)
      ∧ validateRedirect loopbackLibrary "http://127.0.0.1:8080/callback" = .ok () := by
  obtain ⟨haccepts, hvalid⟩ :=
    (loopback_redirects_accepted_iff loopbackLibrary_faithful ipv4_callback).mpr
      fun ⟨_, ha, _⟩ => nomatch ha
  have hl : IpAddr.isLoopback (.v4 (ipv4 127 0 0 1)) := by decide
  exact ⟨(haccepts .native).mpr hl, (hvalid fun _ hn => nomatch hn).mpr hl⟩

/-- the loopback address of version six is refused by both -/
theorem ipv6_loopback_refused :
    LoopbackHost (some (.ip (.v6 1)))
      ∧ loopbackLibrary.parse "http://[::1]:8080/callback"
        = some (loopbackUrl "http://[::1]:8080/callback" "[::1]" (.v6 1))
      ∧ (∀ t, RedirectUri.parse loopbackLibrary "http://[::1]:8080/callback" t
        = .error .invalidUrl)
      ∧ validateRedirect loopbackLibrary "http://[::1]:8080/callback"
        = .error ⟨"invalid_redirect_uri", "The redirect URI is invalid."⟩ := by
  refine ⟨rfl, rfl, ?_, by decide +kernel⟩
  rintro (_ | _) <;> decide +kernel

end OwlAuth
