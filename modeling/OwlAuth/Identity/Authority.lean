import OwlAuth.Data.Values

/-!
# Proof methods of an identity mutation

What a slot of an identity-mutation intent may be proved with: a provider whose reviewed adapter
and trusted callback were captured, or the email method.

* `UrlLibrary`  the functions of the URL parser that the callback uses;
* `PublicId`, `ProviderKey`  the two parsed names inside a callback;
* `TrustedRuntimeProviderCallback`, `ProviderProofCapabilitySnapshot`, `ProofMethodAuthority`,
  each with its `validate`.
-/

namespace OwlAuth

open Fallible (ensure require)

inductive DomainError
  | empty
  | tooLong
  | invalidCharacters
  | invalidUrl
  | invalidTransition
  | invalidValue
  deriving DecidableEq

abbrev Checked := Except DomainError

def rejectNil (value : Uuid) : Checked Unit := ensure (value ≠ 0) .invalidValue

/-! ## parsed names -/

structure PublicId where
  value : String
  length : 8 ≤ value.utf8ByteSize ∧ value.utf8ByteSize ≤ 96
  characters : value.toList.all (fun c => c.isAlphanum || c == '_' || c == '-') = true

def PublicId.parse (value : String) : Checked PublicId :=
  if hl : 8 ≤ value.utf8ByteSize ∧ value.utf8ByteSize ≤ 96 then
    if hc : value.toList.all (fun c => c.isAlphanum || c == '_' || c == '-') = true then
      .ok ⟨value, hl, hc⟩
    else .error .invalidCharacters
  else if value.isEmpty then .error .empty
  else .error .tooLong

def providerKeyCharacters : List Char → Bool
  | [] => false
  | first :: rest =>
    first.isLower && rest.all (fun c => c.isLower || c.isDigit || c == '_' || c == '-')

structure ProviderKey where
  value : String
  length : 1 ≤ value.utf8ByteSize ∧ value.utf8ByteSize ≤ 64
  characters : providerKeyCharacters value.toList = true

def ProviderKey.parse (value : String) : Checked ProviderKey :=
  if hl : 1 ≤ value.utf8ByteSize ∧ value.utf8ByteSize ≤ 64 then
    if hc : providerKeyCharacters value.toList = true then .ok ⟨value, hl, hc⟩
    else .error .invalidCharacters
  else if value.isEmpty then .error .empty
  else .error .tooLong

/-! ## the callback -/

/-- the URL parser: a third-party library, left abstract -/
structure UrlLibrary where
  Url : Type
  parse : String → Option Url
  scheme : Url → String
  hostStr : Url → Option String
  username : Url → String
  password : Url → Option String
  query : Url → Option String
  fragment : Url → Option String
  cannotBeABase : Url → Bool
  toString : Url → String
  /-- `path_segments_mut().pop_if_empty()` and then one `push` for each segment -/
  pushSegments : Url → List String → Option Url

structure TrustedRuntimeProviderCallback where
  (runtimeBase projectPublicId providerKey value : String)
  deriving DecidableEq

namespace TrustedRuntimeProviderCallback

variable (urls : UrlLibrary)

def derive (runtimeBase : String) (projectPublicId : PublicId) (providerKey : ProviderKey) :
    Checked TrustedRuntimeProviderCallback := do
  let base ← require (urls.parse runtimeBase) .invalidValue
  ensure ((urls.scheme base = "http" ∨ urls.scheme base = "https")
    ∧ urls.hostStr base ≠ none ∧ urls.username base = "" ∧ urls.password base = none
    ∧ urls.query base = none ∧ urls.fragment base = none
    ∧ urls.cannotBeABase base = false) .invalidValue
  let callback ← require (urls.pushSegments base
    ["projects", projectPublicId.value, "auth", "callback", providerKey.value]) .invalidValue
  pure
    { runtimeBase := urls.toString base
      projectPublicId := projectPublicId.value
      providerKey := providerKey.value
      value := urls.toString callback }

def validate (c : TrustedRuntimeProviderCallback) : Checked Unit := do
  let projectPublicId ← PublicId.parse c.projectPublicId
  let providerKey ← ProviderKey.parse c.providerKey
  let derived ← derive urls c.runtimeBase projectPublicId providerKey
  ensure (derived.value = c.value) .invalidValue

end TrustedRuntimeProviderCallback

/-! ## scopes -/

def maxProviderProofScopes : Nat := 16

def validScope (scope : String) : Bool :=
  !scope.isEmpty && scope.utf8ByteSize ≤ 128 && scope != "offline_access"
    && scope.toList.all (fun c => c == '!' || ('#' ≤ c && c ≤ '[') || (']' ≤ c && c ≤ '~'))

def validExactScopeSet (scopes : List String) : Bool :=
  !scopes.isEmpty && scopes.length ≤ maxProviderProofScopes
    && scopes.all validScope && decide scopes.Nodup

def exactScopeSetsMatch (requested declared : List String) : Bool :=
  validExactScopeSet requested && validExactScopeSet declared
    && requested.length == declared.length && requested.all (fun scope => declared.contains scope)

/-! ## authorities -/

structure ProviderProofCapabilitySnapshot where
  adapterKey : String
  adapterCapabilityRevision : Int
  exactNonRenewableProofScopes : List String
  callback : TrustedRuntimeProviderCallback
  (providerPkceRequired oidcNonceRequired : Bool)
  deriving DecidableEq

def ProviderProofCapabilitySnapshot.validate (urls : UrlLibrary)
    (c : ProviderProofCapabilitySnapshot) : Checked Unit := do
  ensure (c.adapterKey ≠ "" ∧ c.adapterKey.utf8ByteSize ≤ 64 ∧ 0 < c.adapterCapabilityRevision
    ∧ c.oidcNonceRequired = true
    ∧ validExactScopeSet c.exactNonRenewableProofScopes = true) .invalidValue
  c.callback.validate urls

inductive IdentityKind
  | provider | email
  deriving DecidableEq

structure ProviderAuthority where
  (projectId applicationId : Uuid)
  applicationSecurityRevision : Int
  providerConfigurationId : Uuid
  (providerRevision assignmentSecurityRevision : Int)
  proofScopes : List String
  capability : ProviderProofCapabilitySnapshot
  deriving DecidableEq

structure EmailAuthority where
  (projectId applicationId : Uuid)
  (applicationSecurityRevision methodPolicyRevision methodSecurityRevision : Int)
  assignmentSecurityRevision : Int
  deriving DecidableEq

inductive ProofMethodAuthority
  | provider (a : ProviderAuthority)
  | email (a : EmailAuthority)
  deriving DecidableEq

namespace ProofMethodAuthority

def projectId : ProofMethodAuthority → Uuid
  | provider a => a.projectId
  | email a => a.projectId

def identityKind : ProofMethodAuthority → IdentityKind
  | provider _ => .provider
  | email _ => .email

def validate (urls : UrlLibrary) (authority : ProofMethodAuthority) (projectId : Uuid)
    (targetKind : IdentityKind) : Checked Unit := do
  ensure (authority.projectId = projectId ∧ authority.identityKind = targetKind) .invalidValue
  match authority with
  | provider a =>
    rejectNil a.applicationId
    rejectNil a.providerConfigurationId
    a.capability.validate urls
    ensure ((∀ revision ∈ [a.applicationSecurityRevision, a.providerRevision,
        a.assignmentSecurityRevision], 0 < revision)
      ∧ exactScopeSetsMatch a.proofScopes a.capability.exactNonRenewableProofScopes = true)
      .invalidValue
  | email a =>
    rejectNil a.applicationId
    ensure (∀ revision ∈ [a.applicationSecurityRevision, a.methodPolicyRevision,
      a.methodSecurityRevision, a.assignmentSecurityRevision], 0 < revision) .invalidValue

end ProofMethodAuthority

end OwlAuth
