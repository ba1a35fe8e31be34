import OwlAuth.Data.Rows

/-!
# Rows of managed provider connections

A managed connection keeps a renewable credential of a provider for one linked identity.

* `ManagedConnection`  the connection, with its two generations, its lease and the
    revocation that was asked for;
* `ManagedCredential`  one generation of its credential; a destroyed one holds nothing;
* `RenewalOperation`  one attempt to exchange a credential for its successor;
* `ReauthorizationInteraction`  one attempt of the user to connect again, with everything it froze.

Encryption is ideal: a `SealedCredential` records the context and the key version it was sealed
under, and `unprotectCredential` opens it under exactly these.
-/

namespace OwlAuth

open Fallible (ensure)

/-! ## credentials -/

/-- what a credential is bound to when it is sealed -/
structure ManagedCredentialContext where
  (projectId providerConfigurationId linkedIdentityId connectionId : Uuid)
  (connectionGeneration credentialGeneration : Int)
  deriving DecidableEq

abbrev RenewableCredential := Nat

structure SealedCredential where
  context : ManagedCredentialContext
  sealedUnder : Int
  credential : RenewableCredential
  deriving DecidableEq

structure ProtectedCredential where
  keyVersion : Int
  ciphertext : SealedCredential
  deriving DecidableEq

def protectCredential (keyVersion : Int) (context : ManagedCredentialContext)
    (credential : RenewableCredential) : ProtectedCredential :=
  ⟨keyVersion, ⟨context, keyVersion, credential⟩⟩

/-- `readable` are the key versions the replica retains -/
def unprotectCredential (readable : List Int) (context : ManagedCredentialContext)
    (value : ProtectedCredential) : Tx RenewableCredential := do
  ensure (value.keyVersion ∈ readable ∧ value.ciphertext.sealedUnder = value.keyVersion
    ∧ value.ciphertext.context = context) .integrity
  pure value.ciphertext.credential

structure ManagedCredential where
  (projectId connectionId : Uuid)
  (connectionGeneration credentialGeneration keyVersion : Int)
  ciphertext : Option SealedCredential
  (supersededAt destroyedAt : Option Instant)

instance : Keyed ManagedCredential (Uuid × Uuid × Int) :=
  ⟨fun c => (c.projectId, c.connectionId, c.credentialGeneration)⟩

/-! ## connections -/

inductive ConnectionState
  | active | reauthRequired | revoked | disconnected
  deriving DecidableEq

inductive ConnectionLeaseKind
  | renewal | revocation | rewrap
  deriving DecidableEq

structure ConnectionLease where
  owner : Uuid
  kind : ConnectionLeaseKind
  expiresAt : Instant
  deriving DecidableEq

inductive RevocationDisposition
  | revoke | disconnect
  deriving DecidableEq

structure RevocationRequest where
  requestedAt : Instant
  disposition : RevocationDisposition
  deriving DecidableEq

structure RevocationDispatch where
  startedAt : Instant
  attemptId : Uuid
  deriving DecidableEq

/-- what the adapter of a provider promises for managed credentials -/
structure ManagedCredentialCapability where
  adapterKey : String
  adapterRevision : Int
  exactScopes : List String
  supportsRevocation : Bool
  deriving DecidableEq

structure ManagedConnection where
  (id projectId providerConfigurationId linkedIdentityId userId : Uuid)
  state : ConnectionState
  (revision generation credentialGeneration projectSecurityRevision providerRevision : Int)
  (userSecurityRevision identityRevision managedProfileRevision : Int)
  capability : ManagedCredentialCapability
  lastSafeOutcome : String
  (lastSynchronizedAt nextSynchronizeAt nextRenewalAt : Option Instant)
  revocationRequest : Option RevocationRequest
  revocationDispatch : Option RevocationDispatch
  consecutiveFailures : Int
  lease : Option ConnectionLease
  disconnectedAt : Option Instant

instance : Keyed ManagedConnection Uuid := ⟨ManagedConnection.id⟩

def ManagedConnection.context (c : ManagedConnection) : ManagedCredentialContext :=
  ⟨c.projectId, c.providerConfigurationId, c.linkedIdentityId, c.id, c.generation,
    c.credentialGeneration⟩

def ManagedConnection.Unleased (c : ManagedConnection) (now : Instant) : Prop :=
  ∀ lease ∈ c.lease, lease.expiresAt ≤ now
  deriving Decidable

/-! ## renewals -/

inductive RenewalOperationState
  | prepared | submitted | successorCommitted | reauthRequired | abandoned | supersededByLogin
  deriving DecidableEq

structure RenewalOperation where
  (id projectId connectionId : Uuid)
  (expectedConnectionGeneration expectedCredentialGeneration : Int)
  attemptId : Uuid
  state : RenewalOperationState
  adapterIdempotentReplay : Bool
  /-- a released operation keeps the instant from which it may be claimed again -/
  leaseOwner : Option Uuid
  leaseExpiresAt : Option Instant
  safeOutcome : String
  preparedAt : Instant
  (submittedAt terminalAt : Option Instant)
  providerEgressPolicyRevision : Option Int

instance : Keyed RenewalOperation Uuid := ⟨RenewalOperation.id⟩

def RenewalOperation.Open (o : RenewalOperation) : Prop :=
  o.state = .prepared ∨ o.state = .submitted
  deriving Decidable

/-! ## reauthorizations -/

inductive ReauthorizationStatus
  | awaitingBrowserBinding | awaitingProviderStart | providerAuthorizationStarted
  | providerExchangeInProgress | completed | providerExchangeFailed | expired | cancelled
  deriving DecidableEq

def ReauthorizationStatus.terminal : ReauthorizationStatus → Bool
  | completed | providerExchangeFailed | expired | cancelled => true
  | _ => false

/-- what an interaction found when it was created -/
structure FrozenAuthority where
  projectId : Uuid
  projectPublicId : String
  (connectionId linkedIdentityId userId providerConfigurationId : Uuid)
  providerKey : String
  providerKind : ProviderKind
  (issuer subject : String)
  (secretMaterialId applicationId : Uuid)
  (expectedConnectionGeneration expectedCredentialGeneration expectedConnectionRevision : Int)
  (projectSecurityRevision userSecurityRevision identityRevision providerRevision : Int)
  providerEgressPolicyRevision : Option Int
  (managedProfileRevision applicationRevision assignmentSecurityRevision : Int)
  adapterKey : String
  adapterRevision : Int
  requiredScopes : List String
  (providerPkceRequired oidcNonceRequired : Bool)

structure ReauthorizationInteraction where
  id : Uuid
  frozen : FrozenAuthority
  /-- learned from the provider when the authorization starts -/
  supportsRevocation : Bool
  (interaction browserBinding csrf upstreamState oidcNonce : Option VersionedDigest)
  providerPkce : Option ProtectedValue
  revision : Int
  status : ReauthorizationStatus
  expiresAt : Instant
  (providerStartedAt exchangeClaimedAt terminalAt : Option Instant)

instance : Keyed ReauthorizationInteraction Uuid := ⟨ReauthorizationInteraction.id⟩

end OwlAuth
