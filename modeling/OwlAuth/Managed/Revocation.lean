import OwlAuth.Managed.Renewal

/-!
# Revocations and re-encryptions of managed credentials

A worker that revokes destroys the stored credential before it calls the provider: afterwards only
its own copy is left, and a worker that vanishes leaves a revocation whose result nobody knows.

* `terminalizeOneAmbiguousRevocation`, `terminalizeOneStaleRevocation`  end one revocation whose
    worker vanished and one whose owners changed;
* `claimForRevocation`  a worker claims a connection the operator names;
* `markRevocationDispatched`, `finishRevocation`, `releaseRevocationClaim`;
* `finishRewrap`  a credential is sealed again under another key.
-/

namespace OwlAuth

open Fallible

/-! ## revocations that are ended without the provider -/

/-- how a request ends if nothing is known of the provider -/
def RevocationDisposition.endState : RevocationDisposition → ConnectionState
  | disconnect => .disconnected
  | revoke => .reauthRequired

variable (disposition : RevocationDisposition)

def RevocationDisposition.disconnectedAt
    (before : Option Instant) (now : Instant) : Option Instant :=
  match disposition with
  | disconnect => some now
  | revoke => before

def unknownOutcome : RevocationDisposition → String
  | .disconnect => "disconnect_provider_result_unknown"
  | .revoke => "provider_revocation_result_unknown"

def requestEnded (outcome : String) (now : Instant) (m : ManagedConnection) : ManagedConnection :=
  endedConnection disposition.endState outcome (disposition.disconnectedAt m.disconnectedAt now) m

def CredentialDestroyed (t : Table ManagedCredential) (m : ManagedConnection) : Prop :=
  ∃ k ∈ t.rows, k.projectId = m.projectId ∧ k.connectionId = m.id
    ∧ k.credentialGeneration = m.credentialGeneration ∧ k.ciphertext = none
    ∧ k.destroyedAt.isSome = true
  deriving Decidable

/-- a revocation was dispatched, and nobody waits for its result any more -/
def AmbiguousRevocation (now : Instant) (m : ManagedConnection) : Prop :=
  m.state = .active ∧ m.revocationDispatch.isSome = true ∧ m.revocationRequest.isSome = true
    ∧ m.Unleased now
  deriving Decidable

def terminalizeOneAmbiguousRevocation (connectionId : Uuid) (now : Instant) (db : Database) :
    Tx (Committed Bool) :=
  match db.managedConnections.find? fun m => m.id = connectionId ∧ AmbiguousRevocation now m with
  | none => pure (.done db false)
  | some m => do
    let request ← require m.revocationRequest .integrity
    ensure (CredentialDestroyed db.managedCredentials m) .integrity
    pure (.done { db with
      managedConnections := db.managedConnections.set
        (requestEnded request.disposition (unknownOutcome request.disposition) now m) } true)

def OwnersStand (db : Database) (m : ManagedConnection) : Prop :=
  (∃ p ∈ db.projects.rows, p.id = m.projectId ∧ p.status = .active
      ∧ p.securityRevision = m.projectSecurityRevision)
    ∧ (∃ p ∈ db.providers.rows, p.projectId = m.projectId ∧ p.id = m.providerConfigurationId
      ∧ p.status = .active ∧ p.managedProfileEnabled = true ∧ p.revision = m.providerRevision
      ∧ p.managedProfileRevision = m.managedProfileRevision)
    ∧ (∃ u ∈ db.users.rows, u.projectId = m.projectId ∧ u.id = m.userId ∧ u.status = .active
      ∧ u.securityRevision = m.userSecurityRevision)
    ∧ (∃ i ∈ db.identities.rows, i.projectId = m.projectId ∧ i.id = m.linkedIdentityId
      ∧ i.userId = m.userId ∧ i.status = .active ∧ i.identityRevision = m.identityRevision)
  deriving Decidable

/-- a revocation was asked for, and the owners of the connection have changed since -/
def StaleRevocation (db : Database) (m : ManagedConnection) : Prop :=
  m.state = .active ∧ m.revocationRequest.isSome = true ∧ ¬ OwnersStand db m
  deriving Decidable

/-- whether somebody holds the connection is not looked at -/
def terminalizeOneStaleRevocation (connectionId : Uuid) (now : Instant) (db : Database) :
    Tx (Committed Bool) :=
  match db.managedConnections.find? fun m => m.id = connectionId ∧ StaleRevocation db m with
  | none => pure (.done db false)
  | some m => do
    let request ← require m.revocationRequest .integrity
    pure (.done { db with
      managedCredentials := destroyGeneration db.managedCredentials m.projectId m.id
        m.credentialGeneration now
      managedConnections := db.managedConnections.set
        (requestEnded request.disposition "revocation_authority_stale" now m) } true)

/-! ## claims -/

def claimConnection (c : ClaimConnection) (kind : ClaimKind) (db : Database) :
    Tx (Committed (Option ClaimedManagedCredential)) := do
  let (db, claim) ← claimConnectionOn c kind db
  pure (.done db claim)

structure ClaimForRevocation where
  change : ChangeManagedConnection
  workerId : Uuid
  leaseUntil : Instant

/-- the security revision of the project is not compared, nor whether a revocation was asked for -/
def claimForRevocation (c : ClaimForRevocation) (db : Database) :
    Tx (Committed ClaimedManagedCredential) := do
  let now := c.change.now
  ensure (now < c.leaseUntil) .invalidInput
  let m ← require
    (db.managedConnections.find? fun m => NamedConnection c.change m ∧ m.state = .active
      ∧ m.revocationDispatch = none ∧ m.Unleased now) .revisionConflict
  let owners ← (findConnectionOwners db m).mapError fun _ => .revisionConflict
  ensure (OwnersCurrent owners m ∧ owners.identity.userId = m.userId) .revisionConflict
  let leased := leasedConnection .revocation c.workerId c.leaseUntil m
  let value ← require (currentCredential db m) .revisionConflict
  let claim ← claimFromRow
    ⟨leased, owners, freshEgressRevision db owners.provider, egressRevision db m.projectId, value⟩
    c.workerId c.leaseUntil false
  pure (.done { db with managedConnections := db.managedConnections.set leased } claim)

/-! ## dispatch and result -/

def dispatchedConnection (owner : Uuid) (now : Instant) (m : ManagedConnection) :
    ManagedConnection :=
  { m with
    revocationDispatch := some ⟨now, owner⟩
    lastSafeOutcome := "revocation_dispatch_started" }

variable (c : ClaimedManagedCredential)

/-- the stored credential is destroyed before the provider hears of it -/
def markRevocationDispatched (now : Instant) (db : Database) : Tx (Committed Bool) := do
  let g := c.guard
  let ok ← lockGuardAuthority db g
  let found : Option ManagedConnection := do
    guard (ok = true)
    let m ← db.managedConnections.find? fun m =>
      AtGuard g m ∧ m.revocationRequest.isSome = true ∧ m.revocationDispatch = none
        ∧ HeldUntil .revocation c.leaseOwner c.leaseExpiresAt now m
    let _ ← db.managedCredentials.find?
      (ReadableGeneration g.projectId g.connectionId g.credentialGeneration)
    pure m
  match found with
  | none => pure (.done db false)
  | some m =>
    pure (.done { db with
      managedCredentials := destroyGeneration db.managedCredentials g.projectId g.connectionId
        g.credentialGeneration now
      managedConnections := db.managedConnections.set
        (dispatchedConnection c.leaseOwner now m) } true)

inductive ProviderRevocationResult
  | confirmed | unsupported | ambiguous
  deriving DecidableEq

def finishedOutcome : RevocationDisposition → ProviderRevocationResult → ConnectionState × String
  | .disconnect, .confirmed => (.disconnected, "disconnect_provider_revocation_confirmed")
  | .disconnect, .unsupported => (.disconnected, "disconnect_provider_revocation_unsupported")
  | .disconnect, .ambiguous => (.disconnected, "disconnect_provider_revocation_ambiguous")
  | .revoke, .confirmed => (.revoked, "provider_revocation_confirmed")
  | .revoke, .ambiguous => (.reauthRequired, "provider_revocation_ambiguous")
  | .revoke, .unsupported =>
    (.reauthRequired, "provider_revocation_unsupported_after_dispatch")

def revocationFinished (result : ProviderRevocationResult)
    (now : Instant) (m : ManagedConnection) : ManagedConnection :=
  let (state, outcome) := finishedOutcome disposition result
  { endedConnection state outcome (disposition.disconnectedAt m.disconnectedAt now) m with
    capability :=
      if result = .unsupported then { m.capability with supportsRevocation := false }
      else m.capability }

def finishRevocation (result : ProviderRevocationResult)
    (now : Instant) (db : Database) : Tx (Committed ManagedConnection) := do
  let m ← require
    (db.managedConnections.find? fun m => AtGuard c.guard m
      ∧ HeldBy .revocation c.leaseOwner now m
      ∧ ∃ dispatch ∈ m.revocationDispatch, dispatch.attemptId = c.leaseOwner) .revisionConflict
  let request ← require m.revocationRequest .integrity
  ensure (CredentialDestroyed db.managedCredentials m) .integrity
  let updated := revocationFinished request.disposition result now m
  pure (.done { db with managedConnections := db.managedConnections.set updated } updated)

def unleasedConnection (m : ManagedConnection) : ManagedConnection :=
  { m with lease := none }

def releaseRevocationClaim (db : Database) : Tx (Committed Bool) :=
  match db.managedConnections.find? fun m => AtGuard c.guard m ∧ m.revocationDispatch = none
      ∧ ∃ lease ∈ m.lease, lease.owner = c.leaseOwner ∧ lease.kind = .revocation with
  | none => pure (.done db false)
  | some m =>
    pure (.done { db with
      managedConnections := db.managedConnections.set (unleasedConnection m) } true)

/-! ## re-encryption -/

def rewrappedCredential (value : ProtectedCredential) (k : ManagedCredential) : ManagedCredential :=
  { k with keyVersion := value.keyVersion, ciphertext := some value.ciphertext }

def finishRewrap (expectedKeyVersion : Int)
    (value : ProtectedCredential) (now : Instant) (db : Database) : Tx (Committed Bool) := do
  ensure (0 < expectedKeyVersion ∧ 0 < value.keyVersion) .invalidInput
  let g := c.guard
  let found : Option (ManagedConnection × ManagedCredential) := do
    let m ← db.managedConnections.find? fun m =>
      AtGuard g m ∧ HeldBy .rewrap c.leaseOwner now m
    let k ← db.managedCredentials.find? fun k =>
      ReadableGeneration g.projectId g.connectionId g.credentialGeneration k
        ∧ k.keyVersion = expectedKeyVersion
    pure (m, k)
  match found with
  | none => pure (.done db false)
  | some (m, k) =>
    pure (.done { db with
      managedCredentials := db.managedCredentials.set (rewrappedCredential value k)
      managedConnections := db.managedConnections.set (unleasedConnection m) } true)

end OwlAuth
