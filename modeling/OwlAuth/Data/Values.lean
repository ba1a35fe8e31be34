import Mathlib.Data.List.Destutter
import OwlAuth.Base.Table

/-!
# Values and statuses

The scalar types of the repositories and the closed status sets of their tables.

* `Uuid`, `Instant`, `Digest`  identifiers, microseconds since the epoch, SHA-256 values;
* `VersionedDigest`, `ProtectedValue`  a keyed digest and a ciphertext with its key version;
* `ApplicationError`, `Tx`  the errors of the application layer and fallible code over them;
* `Jwk`  a JSON Web Key;
* one status type for each table with a lifecycle.
-/

namespace OwlAuth

abbrev Uuid := Nat

/-- microseconds since the epoch -/
abbrev Instant := Int

abbrev Digest := Nat

def seconds (n : Int) : Int := n * 1000000
def minutes (n : Int) : Int := seconds (60 * n)
def hours (n : Int) : Int := minutes (60 * n)
def days (n : Int) : Int := hours (24 * n)

/-- the largest value of a PostgreSQL `bigint` -/
def maxI64 : Int := 9223372036854775807
def maxI32 : Int := 2147483647

/-- `char::is_ascii_whitespace` -/
def isAsciiWhitespace (c : Char) : Bool := [' ', '\t', '\n', '\x0c', '\r'].contains c

/-- `Vec::dedup`, which looks at neighbours only -/
def dedupAdjacent {α : Type} [DecidableEq α] (l : List α) : List α := l.destutter (· ≠ ·)

theorem mem_dedupAdjacent {α : Type} [DecidableEq α] {x : α} {l : List α} :
    x ∈ dedupAdjacent l ↔ x ∈ l := by
  have hfrom (l : List α) : ∀ a, x ∈ l.destutter' (· ≠ ·) a ↔ x = a ∨ x ∈ l := by
    induction l with
    | nil => simp
    | cons b l ih =>
      intro a
      rw [List.destutter'_cons]
      grind
  cases l with
  | nil => rfl
  | cons a l => exact (hfrom l a).trans List.mem_cons.symm

inductive IpAddr
  | v4 (a : BitVec 32)
  | v6 (a : BitVec 128)
  deriving DecidableEq

inductive SmtpTlsMode
  | implicitTls | startTlsRequired | developmentLoopbackPlaintext
  deriving DecidableEq

inductive ApplicationError
  | invalidInput
  | notFound
  | disabled
  | revisionConflict
  | idempotencyConflict
  | operationInProgress
  | invalidTransition
  | capacityExceeded
  | integrity
  | persistence
  | externalStore
  deriving DecidableEq

abbrev Tx := Except ApplicationError

/-! ## credentials -/

structure VersionedDigest where
  value : Digest
  keyVersion : Int
  deriving DecidableEq

structure ProtectedValue where
  ciphertext : List UInt8
  keyVersion : Int
  deriving DecidableEq

abbrev Jwk := List (String × String)

def validateDigest (d : VersionedDigest) : Tx Unit :=
  Fallible.ensure (0 < d.keyVersion) .invalidInput

def validateProtected (v : ProtectedValue) : Tx Unit :=
  Fallible.ensure (0 < v.keyVersion ∧ 17 ≤ v.ciphertext.length ∧ v.ciphertext.length ≤ 4096)
    .invalidInput

def isPkceS256Challenge (value : String) : Bool :=
  value.utf8ByteSize == 43 && value.toList.all (fun c => c.isAlphanum || c == '-' || c == '_')

/-! ## statuses -/

inductive ProjectStatus
  | active | disabled | deleting
  deriving DecidableEq

/-- `active` or `disabled`: applications, identities, provider assignments -/
inductive OwnerStatus
  | active | disabled
  deriving DecidableEq

inductive ProviderStatus
  | provisioning | active | disabled
  deriving DecidableEq

/-- project users and application bindings; `merged` is terminal -/
inductive MemberStatus
  | active | disabled | merged
  deriving DecidableEq

inductive LoginTransactionStatus
  | awaitingBrowserBinding
  | awaitingMethodSelection
  | emailAddressEntry
  | emailChallengePending
  | providerAuthorizationStarted
  | providerExchangeInProgress
  | providerExchangeFailed
  | authenticated
  | handoffIssued
  | completed
  | expired
  | cancelled
  deriving DecidableEq

inductive TicketStatus
  | issued | consumed | expired
  deriving DecidableEq

inductive AuthenticationMethod
  | provider | email | sessionReuse
  deriving DecidableEq

inductive BrowserSessionStatus
  | active | terminated | expired
  deriving DecidableEq

inductive SessionStatus
  | active | revoked | expired
  deriving DecidableEq

inductive GenerationStatus
  | current | consumed
  deriving DecidableEq

inductive RevocationReason
  | logout | replay | control | ownerInvalidated
  deriving DecidableEq

inductive LogoutStatus
  | prepared | csrfBound | consumed | expired
  deriving DecidableEq

inductive SourceKind
  | provider | email
  deriving DecidableEq

inductive ApplicationUserEventType
  | created | updated | disabled
  deriving DecidableEq

inductive EndpointStatus
  | pending | active | disabled
  deriving DecidableEq

inductive DeliveryState
  | pending | leased | delivered | terminal | cancelled
  deriving DecidableEq

inductive KeyState
  | provisioning | published | active | retiring | retired | revoked | abandoned
  deriving DecidableEq

/-- the provisioning of a signing key at the custody provider -/
inductive ProvisioningOperationState
  | prepared
  | submitted
  | stored
  | completed
  | cleanupPending
  | cleanupLeased
  | cleanupBlocked
  | failed
  | abandoned
  deriving DecidableEq

inductive ProviderErrorClass
  | invalidRequest
  | unsupportedAlgorithm
  | notFound
  | conflict
  | permissionDenied
  | unavailable
  | integrity
  deriving DecidableEq

inductive RetryClassification
  | never | exactInputSafe | reconcile
  deriving DecidableEq

structure ProviderError where
  errorClass : ProviderErrorClass
  retry : RetryClassification
  code : Option String
  deriving DecidableEq

inductive ProtectedMaterialState
  | pending | live | erased
  deriving DecidableEq

inductive MaterialKind
  | signingKey | configurationSecret
  deriving DecidableEq

inductive MaterialOwnerKind
  | signingKey | providerSecret | projectSmtp | deploymentSmtp | smtpTestRecipient | webhookSecret
  deriving DecidableEq

namespace KeyState

def transition : KeyState → KeyState → Bool
  | provisioning, published => true
  | provisioning, abandoned => true
  | provisioning, revoked => true
  | published, active => true
  | published, abandoned => true
  | published, revoked => true
  | active, retiring => true
  | active, revoked => true
  | retiring, retired => true
  | retiring, revoked => true
  | _, _ => false

def candidate : KeyState → Bool
  | provisioning => true
  | published => true
  | _ => false

variable {s : KeyState}

theorem candidate_of_transition {s'} (ht : s.transition s' = true)
    (hc : s'.candidate = true) : s.candidate = true := by
  revert ht hc
  cases s <;> cases s' <;> decide

theorem of_transition_active (ht : active.transition s = true) : s = retiring ∨ s = revoked := by
  revert ht
  cases s <;> decide

theorem of_transition_retiring (ht : retiring.transition s = true) : s = retired ∨ s = revoked := by
  revert ht
  cases s <;> decide

theorem not_transition_retired (s : KeyState) : ¬ retired.transition s = true := by
  cases s <;> decide

theorem not_transition_revoked (s : KeyState) : ¬ revoked.transition s = true := by
  cases s <;> decide

end KeyState

namespace LoginTransactionStatus

def transition : LoginTransactionStatus → LoginTransactionStatus → Bool
  | awaitingBrowserBinding, awaitingMethodSelection => true
  | awaitingBrowserBinding, expired => true
  | awaitingBrowserBinding, cancelled => true
  | awaitingMethodSelection, providerAuthorizationStarted => true
  | awaitingMethodSelection, emailAddressEntry => true
  | awaitingMethodSelection, handoffIssued => true
  | awaitingMethodSelection, expired => true
  | awaitingMethodSelection, cancelled => true
  | emailAddressEntry, emailChallengePending => true
  | emailAddressEntry, expired => true
  | emailAddressEntry, cancelled => true
  | emailChallengePending, authenticated => true
  | emailChallengePending, expired => true
  | emailChallengePending, cancelled => true
  | providerAuthorizationStarted, providerExchangeInProgress => true
  | providerAuthorizationStarted, expired => true
  | providerAuthorizationStarted, cancelled => true
  | providerExchangeInProgress, authenticated => true
  | providerExchangeInProgress, providerExchangeFailed => true
  | authenticated, handoffIssued => true
  | authenticated, expired => true
  | handoffIssued, completed => true
  | handoffIssued, expired => true
  | _, _ => false

/-- the statuses `expire_login` leaves alone -/
def terminal : LoginTransactionStatus → Bool
  | completed => true
  | providerExchangeFailed => true
  | expired => true
  | cancelled => true
  | _ => false

end LoginTransactionStatus

end OwlAuth
