import OwlAuth.Login.Authentication
import OwlAuth.Managed.Connections

/-!
# Renewals of managed credentials

A worker takes a connection, exchanges its credential at the provider and stores the successor.  The
exchange sits between transactions: the operation is prepared, then submitted, then the provider is
called, then the result is written.  Whatever a worker carries from one transaction to the next is
checked again in the next one.

* `ConnectionGuard`, `contextFor`  what a worker remembers of a connection;
* `lockGuardAuthority`  the owners of the connection are still those of the guard;
* `claimConnectionOn`  a worker leases a connection;
* `prepareNextRenewal`  a renewal is started, or one whose lease ran out is taken over;
* `markRenewalSubmitted`, `commitRenewalSuccessor`, `terminalizeRenewal`, `releasePreparedFailure`
    the further transactions of a renewal;
* `finishSuccessorProfileFailure`, `finishSuccessorWithoutProfile`, `fenceSuccessorReadEvidence`
    its last one, where the profile was not read.
-/

namespace OwlAuth

open Fallible

/-! ## what a worker remembers -/

structure ConnectionGuard where
  (connectionId projectId providerConfigurationId linkedIdentityId userId : Uuid)
  (connectionRevision connectionGeneration credentialGeneration projectSecurityRevision : Int)
  providerRevision : Int
  providerEgressPolicyRevision : Option Int
  /-- the egress policy came along, because it was the one of the guard -/
  egressPolicy : Bool
  managedProfileRevision : Int
  providerKind : ProviderKind
  adapterKey : String
  adapterCapabilityRevision : Int
  requiredScopes : List String
  (userSecurityRevision identityRevision consecutiveFailures : Int)
  deriving DecidableEq

def contextFor (guard : ConnectionGuard) : ManagedCredentialContext :=
  ⟨guard.projectId, guard.providerConfigurationId, guard.linkedIdentityId, guard.connectionId,
    guard.connectionGeneration, guard.credentialGeneration⟩

structure ClaimedManagedCredential where
  guard : ConnectionGuard
  value : ProtectedCredential
  leaseOwner : Uuid
  leaseExpiresAt : Instant
  deriving DecidableEq

structure SuccessorProfileClaim where
  guard : ConnectionGuard
  leaseOwner : Uuid
  leaseExpiresAt : Instant
  deriving DecidableEq

structure PreparedRenewal where
  (operationId attemptId : Uuid)
  claim : ClaimedManagedCredential
  (adapterIdempotentReplay authorityValid : Bool)
  operationState : RenewalOperationState
  deriving DecidableEq

/-! ## owners -/

structure ConnectionOwners where
  project : Project
  provider : ProviderConfiguration
  user : ProjectUser
  identity : LinkedIdentity

variable (env : Environment) (db : Database)

def findConnectionOwners (c : ManagedConnection) : Tx ConnectionOwners := do
  let project ← require (db.projects.find? fun p => p.id = c.projectId) .notFound
  let provider ← require
    (db.providers.find? fun p => p.id = c.providerConfigurationId ∧ p.projectId = c.projectId)
    .notFound
  let user ← require
    (db.users.find? fun u => u.id = c.userId ∧ u.projectId = c.projectId) .notFound
  let identity ← require
    (db.identities.find? fun i => i.id = c.linkedIdentityId ∧ i.projectId = c.projectId) .notFound
  pure ⟨project, provider, user, identity⟩

variable (o : ConnectionOwners)

/-- the owners of the connection are active, and all but the project as they were when its
credential was stored -/
def OwnersCurrent (c : ManagedConnection) : Prop :=
  o.project.status = .active
    ∧ o.provider.status = .active ∧ o.provider.managedProfileEnabled = true
    ∧ o.provider.revision = c.providerRevision
    ∧ o.provider.managedProfileRevision = c.managedProfileRevision
    ∧ o.user.status = .active ∧ o.user.securityRevision = c.userSecurityRevision
    ∧ o.identity.status = .active ∧ o.identity.identityRevision = c.identityRevision
  deriving Decidable

/-- and so is the project -/
def AuthorityCurrent (c : ManagedConnection) : Prop :=
  OwnersCurrent o c ∧ o.project.securityRevision = c.projectSecurityRevision
  deriving Decidable

def egressRevision (projectId : Uuid) : Option Int :=
  (db.egressPolicies.find? fun e => e.projectId = projectId).map ProviderEgressPolicy.revision

/-- a custom provider was reached under the current policy, a named one under none -/
def EgressCurrent (kind : ProviderKind) (frozen current : Option Int) : Prop :=
  (kind = .oidc ∧ frozen.isSome = true ∧ frozen = current) ∨ (kind ≠ .oidc ∧ frozen = none)
  deriving Decidable

variable (g : ConnectionGuard)

def lockGuardEgressPolicy : Tx Bool :=
  if g.providerKind = .oidc then do
    let revision ← require g.providerEgressPolicyRevision .integrity
    pure (decide (egressRevision db g.projectId = some revision))
  else do
    ensure (g.providerEgressPolicyRevision = none ∧ g.egressPolicy = false) .integrity
    pure true

/-- the owners of the connection are those of the guard, with the guard's revisions -/
def GuardOwners : Prop :=
  (∃ p ∈ db.projects.rows, p.id = g.projectId ∧ p.status = .active
      ∧ p.securityRevision = g.projectSecurityRevision)
    ∧ (∃ p ∈ db.providers.rows, p.projectId = g.projectId ∧ p.id = g.providerConfigurationId
      ∧ p.status = .active ∧ p.revision = g.providerRevision ∧ p.managedProfileEnabled = true
      ∧ p.managedProfileRevision = g.managedProfileRevision)
    ∧ (∃ u ∈ db.users.rows, u.projectId = g.projectId ∧ u.id = g.userId ∧ u.status = .active
      ∧ u.securityRevision = g.userSecurityRevision)
    ∧ (∃ i ∈ db.identities.rows, i.projectId = g.projectId ∧ i.id = g.linkedIdentityId
      ∧ i.userId = g.userId ∧ i.status = .active ∧ i.identityRevision = g.identityRevision)
  deriving Decidable

def GuardKind : Prop :=
  ∃ p ∈ db.providers.rows, p.projectId = g.projectId ∧ p.id = g.providerConfigurationId
    ∧ p.kind = g.providerKind
  deriving Decidable

def lockGuardAuthority : Tx Bool := do
  let policyOk ← lockGuardEgressPolicy db g
  pure (policyOk && decide (GuardOwners db g ∧ GuardKind db g))

/-! ## claims -/

/-- the policy of a claim; a stale one is passed over only to end what was submitted under it -/
def claimEgressPolicy (kind : ProviderKind) (frozen current : Option Int) (allowStale : Bool) :
    Tx Bool :=
  if kind = .oidc then do
    let revision ← require current .integrity
    if frozen = some revision then pure true
    else do
      ensure (allowStale = true ∧ frozen.isSome = true) .revisionConflict
      pure false
  else do
    ensure (frozen = none) .integrity
    pure false

def freshEgressRevision (provider : ProviderConfiguration) : Option Int :=
  if provider.kind = .oidc then egressRevision db provider.projectId else none

structure ClaimRow where
  connection : ManagedConnection
  owners : ConnectionOwners
  (frozenEgress currentEgress : Option Int)
  value : ProtectedCredential

def guardOf (row : ClaimRow) (kind : ProviderKind) (policy : Bool) : ConnectionGuard :=
  { connectionId := row.connection.id
    projectId := row.connection.projectId
    providerConfigurationId := row.connection.providerConfigurationId
    linkedIdentityId := row.connection.linkedIdentityId
    userId := row.connection.userId
    connectionRevision := row.connection.revision
    connectionGeneration := row.connection.generation
    credentialGeneration := row.connection.credentialGeneration
    projectSecurityRevision := row.owners.project.securityRevision
    providerRevision := row.connection.providerRevision
    providerEgressPolicyRevision := row.frozenEgress
    egressPolicy := policy
    managedProfileRevision := row.connection.managedProfileRevision
    providerKind := kind
    adapterKey := row.connection.capability.adapterKey
    adapterCapabilityRevision := row.connection.capability.adapterRevision
    requiredScopes := row.connection.capability.exactScopes
    userSecurityRevision := row.connection.userSecurityRevision
    identityRevision := row.connection.identityRevision
    consecutiveFailures := row.connection.consecutiveFailures }

def claimFromRow (row : ClaimRow) (workerId : Uuid) (leaseUntil : Instant) (allowStale : Bool) :
    Tx ClaimedManagedCredential := do
  let kind ← effectiveProviderKind row.owners.provider
  let policy ← claimEgressPolicy kind row.frozenEgress row.currentEgress allowStale
  pure ⟨guardOf row kind policy, row.value, workerId, leaseUntil⟩

/-- what a connection is claimed for; a re-encryption names its key version -/
inductive ClaimKind
  | renewal | revocation | rewrap (targetKeyVersion : Int)

def ClaimKind.Valid : ClaimKind → Prop
  | rewrap target => 0 < target
  | _ => True

instance (kind : ClaimKind) : Decidable kind.Valid :=
  match kind with
  | .rewrap target => inferInstanceAs (Decidable (0 < target))
  | .renewal => inferInstanceAs (Decidable True)
  | .revocation => inferInstanceAs (Decidable True)

def ClaimKind.lease : ClaimKind → ConnectionLeaseKind
  | renewal => .renewal
  | revocation => .revocation
  | rewrap _ => .rewrap

def ClaimDue (c : ManagedConnection) (now : Instant) : ClaimKind → Prop
  | .renewal => c.revocationRequest = none
      ∧ ((∃ due ∈ c.nextSynchronizeAt, due ≤ now) ∨ ∃ due ∈ c.nextRenewalAt, due ≤ now)
  | .revocation => c.revocationRequest ≠ none ∧ c.revocationDispatch = none
  | .rewrap target => c.revocationRequest = none
      ∧ ∃ k ∈ db.managedCredentials.rows,
        ReadableGeneration c.projectId c.id c.credentialGeneration k ∧ k.keyVersion ≠ target

instance (db : Database) (c : ManagedConnection) (now : Instant) (kind : ClaimKind) :
    Decidable (ClaimDue db c now kind) :=
  match kind with
  | .renewal => inferInstanceAs (Decidable (_ ∧
      ((∃ due ∈ c.nextSynchronizeAt, due ≤ now) ∨ ∃ due ∈ c.nextRenewalAt, due ≤ now)))
  | .revocation => inferInstanceAs (Decidable (_ ∧ _))
  | .rewrap _ => inferInstanceAs (Decidable (_ ∧ ∃ k ∈ db.managedCredentials.rows, _))

/-- a re-encryption does not look at the owners -/
def ClaimKind.AdmitsOwners (c : ManagedConnection) : ClaimKind → Prop
  | .rewrap _ => True
  | _ => AuthorityCurrent o c

instance (o : ConnectionOwners) (c : ManagedConnection) (kind : ClaimKind) :
    Decidable (kind.AdmitsOwners o c) :=
  match kind with
  | .rewrap _ => inferInstanceAs (Decidable True)
  | .renewal => inferInstanceAs (Decidable (AuthorityCurrent o c))
  | .revocation => inferInstanceAs (Decidable (AuthorityCurrent o c))

structure ClaimConnection where
  (connectionId workerId : Uuid)
  (now leaseUntil : Instant)

variable (kind : ConnectionLeaseKind)

def leasedConnection (workerId : Uuid) (leaseUntil : Instant) (c : ManagedConnection) :
    ManagedConnection :=
  { c with lease := some ⟨workerId, kind, leaseUntil⟩ }

def storedCredential (k : ManagedCredential) : Option ProtectedCredential :=
  k.ciphertext.map fun ciphertext => ⟨k.keyVersion, ciphertext⟩

def currentCredential (c : ManagedConnection) : Option ProtectedCredential :=
  (db.managedCredentials.find? (ReadableGeneration c.projectId c.id c.credentialGeneration)).bind
    storedCredential

/-- the lease is taken even where there is no credential left to return -/
def claimConnectionOn (c : ClaimConnection) (kind : ClaimKind) (db : Database) :
    Tx (Database × Option ClaimedManagedCredential) := do
  ensure (c.now < c.leaseUntil ∧ kind.Valid) .invalidInput
  let connection ← require (db.managedConnections.find? fun m => m.id = c.connectionId) .notFound
  let owners ← findConnectionOwners db connection
  ensure (connection.state = .active ∧ ClaimDue db connection c.now kind
    ∧ connection.Unleased c.now ∧ kind.AdmitsOwners owners connection) .notFound
  let leased := leasedConnection kind.lease c.workerId c.leaseUntil connection
  let db' := { db with managedConnections := db.managedConnections.set leased }
  match currentCredential db connection with
  | none => pure (db', none)
  | some value => do
    let egress := freshEgressRevision db owners.provider
    let claim ← claimFromRow
      ⟨leased, owners, egress, egressRevision db connection.projectId, value⟩ c.workerId
      c.leaseUntil false
    pure (db', some claim)

/-! ## preparing -/

/-- which renewal a worker found: an open one whose leases ran out, or none, and a connection that
is due -/
inductive RenewalPick
  | operation (operationId : Uuid)
  | connection (connectionId : Uuid)

structure PrepareNextRenewal where
  pick : RenewalPick
  workerId : Uuid
  (now leaseUntil : Instant)
  adapterIdempotentReplay : Bool

def RenewalOperation.Unleased (o : RenewalOperation) (now : Instant) : Prop :=
  ∀ expiry ∈ o.leaseExpiresAt, expiry ≤ now
  deriving Decidable

/-- the owners, and the egress policy under which the operation was prepared, are current -/
def RenewalAuthority (c : ManagedConnection) (operation : RenewalOperation) : Prop :=
  AuthorityCurrent o c
    ∧ EgressCurrent o.provider.kind operation.providerEgressPolicyRevision
        (egressRevision db c.projectId)
  deriving Decidable

/-- an open operation may be taken over; whether a revocation was asked for is not looked at -/
def Recoverable (c : ManagedConnection) (operation : RenewalOperation) (now : Instant) : Prop :=
  operation.Open ∧ operation.Unleased now ∧ c.Unleased now ∧ c.state = .active
    ∧ c.generation = operation.expectedConnectionGeneration
    ∧ c.credentialGeneration = operation.expectedCredentialGeneration
    ∧ (operation.state = .submitted ∨ RenewalAuthority db o c operation)
  deriving Decidable

def leasedRenewal (workerId : Uuid) (leaseUntil : Instant) (o : RenewalOperation) :
    RenewalOperation :=
  { o with leaseOwner := some workerId, leaseExpiresAt := some leaseUntil }

variable (c : PrepareNextRenewal)

/-- the lease is committed before the claim is decoded -/
def recoverRenewal (operationId : Uuid) (db : Database) :
    Tx (Committed (Option PreparedRenewal)) := do
  let operation ← require (db.renewalOperations.find? fun o => o.id = operationId) .notFound
  let connection ← require
    (db.managedConnections.find? fun m =>
      m.id = operation.connectionId ∧ m.projectId = operation.projectId) .notFound
  let owners ← findConnectionOwners db connection
  ensure (Recoverable db owners connection operation c.now) .notFound
  let value ← require (currentCredential db connection) .notFound
  let authorityValid := decide (RenewalAuthority db owners connection operation)
  let allowStale := decide (operation.state = .submitted) && !authorityValid
  let claim := claimFromRow
    ⟨connection, owners, operation.providerEgressPolicyRevision,
      egressRevision db connection.projectId, value⟩ c.workerId c.leaseUntil allowStale
  pure ⟨{ db with
      renewalOperations := db.renewalOperations.set
        (leasedRenewal c.workerId c.leaseUntil operation)
      managedConnections := db.managedConnections.set
        (leasedConnection .renewal c.workerId c.leaseUntil connection) },
    claim.map fun claim =>
      some ⟨operation.id, operation.attemptId, claim, operation.adapterIdempotentReplay,
        authorityValid, operation.state⟩⟩

def newRenewal (guard : ConnectionGuard) : RenewalOperation :=
  { id := env.newUuid 0
    projectId := guard.projectId
    connectionId := guard.connectionId
    expectedConnectionGeneration := guard.connectionGeneration
    expectedCredentialGeneration := guard.credentialGeneration
    attemptId := env.newUuid 1
    state := .prepared
    adapterIdempotentReplay := c.adapterIdempotentReplay
    leaseOwner := some c.workerId
    leaseExpiresAt := some c.leaseUntil
    safeOutcome := "prepared"
    preparedAt := c.now
    submittedAt := none
    terminalAt := none
    providerEgressPolicyRevision := guard.providerEgressPolicyRevision }

/-- a generation is renewed once; a second renewal of it is not scheduled again -/
def generationTerminal (c : ManagedConnection) : ManagedConnection :=
  { c with nextRenewalAt := none, lastSafeOutcome := "renewal_generation_terminal", lease := none }

def RenewedBefore (guard : ConnectionGuard) (o : RenewalOperation) : Prop :=
  o.projectId = guard.projectId ∧ o.connectionId = guard.connectionId
    ∧ o.expectedConnectionGeneration = guard.connectionGeneration
  deriving Decidable

def startRenewal (connectionId : Uuid) (db : Database) :
    Tx (Committed (Option PreparedRenewal)) := do
  let (db, claimed) ← claimConnectionOn ⟨connectionId, c.workerId, c.now, c.leaseUntil⟩ .renewal db
  match claimed with
  | none => pure (.done db none)
  | some claim =>
    if ∃ o ∈ db.renewalOperations.rows, RenewedBefore claim.guard o then
      pure (.done { db with
        managedConnections := db.managedConnections.update
          (fun m => m.projectId = claim.guard.projectId ∧ m.id = claim.guard.connectionId
            ∧ ∃ lease ∈ m.lease, lease.owner = c.workerId)
          generationTerminal (fun _ => rfl) } none)
    else do
      let operation := newRenewal env c claim.guard
      let operations ← insertRow db.renewalOperations operation fun o =>
        ¬ (o.projectId = operation.projectId ∧ o.connectionId = operation.connectionId
          ∧ o.attemptId = operation.attemptId)
      pure (.done { db with renewalOperations := operations }
        (some ⟨operation.id, operation.attemptId, claim, c.adapterIdempotentReplay, true,
          .prepared⟩))

def prepareNextRenewal (db : Database) : Tx (Committed (Option PreparedRenewal)) := do
  ensure (c.now < c.leaseUntil) .invalidInput
  match c.pick with
  | .operation operationId => recoverRenewal c operationId db
  | .connection connectionId => startRenewal env c connectionId db

/-! ## the further transactions -/

def AtGuard (m : ManagedConnection) : Prop :=
  m.projectId = g.projectId ∧ m.id = g.connectionId ∧ m.state = .active
    ∧ m.revision = g.connectionRevision ∧ m.generation = g.connectionGeneration
    ∧ m.credentialGeneration = g.credentialGeneration
  deriving Decidable

def AtGuardRevisions (m : ManagedConnection) : Prop :=
  AtGuard g m ∧ m.providerRevision = g.providerRevision
    ∧ m.managedProfileRevision = g.managedProfileRevision
    ∧ m.userSecurityRevision = g.userSecurityRevision ∧ m.identityRevision = g.identityRevision
  deriving Decidable

def HeldBy (owner : Uuid) (now : Instant) (m : ManagedConnection) : Prop :=
  ∃ lease ∈ m.lease, lease.owner = owner ∧ lease.kind = kind ∧ now < lease.expiresAt
  deriving Decidable

/-- with exactly the lease it was given -/
def HeldUntil (owner : Uuid) (expiresAt now : Instant) (m : ManagedConnection) : Prop :=
  m.lease = some ⟨owner, kind, expiresAt⟩ ∧ now < expiresAt
  deriving Decidable

variable (r : PreparedRenewal)

def OperationHeld (state : RenewalOperationState) (now : Instant) (o : RenewalOperation) : Prop :=
  o.projectId = r.claim.guard.projectId ∧ o.connectionId = r.claim.guard.connectionId
    ∧ o.id = r.operationId ∧ o.attemptId = r.attemptId ∧ o.state = state
    ∧ o.leaseOwner = some r.claim.leaseOwner ∧ ∃ expiry ∈ o.leaseExpiresAt, now < expiry
  deriving Decidable

def OfGenerations (o : RenewalOperation) : Prop :=
  o.expectedConnectionGeneration = g.connectionGeneration
    ∧ o.expectedCredentialGeneration = g.credentialGeneration
  deriving Decidable

def submittedRenewal (now : Instant) (o : RenewalOperation) : RenewalOperation :=
  { o with state := .submitted, submittedAt := some now, safeOutcome := "submitted" }

def lockSubmission (now : Instant) (db : Database) : Option RenewalOperation := do
  let g := r.claim.guard
  let _ ← db.managedConnections.find? fun m =>
    AtGuardRevisions g m ∧ HeldBy .renewal r.claim.leaseOwner now m
  let _ ← db.managedCredentials.find?
    (ReadableGeneration g.projectId g.connectionId g.credentialGeneration)
  db.renewalOperations.find? fun o =>
    OperationHeld r .prepared now o ∧ OfGenerations g o
      ∧ o.providerEgressPolicyRevision = g.providerEgressPolicyRevision

def markRenewalSubmitted (now : Instant) (db : Database) : Tx (Committed Bool) := do
  let policyOk ← lockGuardEgressPolicy db r.claim.guard
  if policyOk = true ∧ GuardOwners db r.claim.guard then
    match lockSubmission r now db with
    | none => pure (.done db false)
    | some operation =>
      pure (.done { db with
        renewalOperations := db.renewalOperations.set (submittedRenewal now operation) } true)
  else pure (.done db false)

def successorContext : ManagedCredentialContext :=
  { contextFor g with
    connectionGeneration := g.connectionGeneration + 1
    credentialGeneration := g.credentialGeneration + 1 }

def successorConnection (now : Instant) (m : ManagedConnection) : ManagedConnection :=
  { m with
    revision := m.revision + 1
    generation := m.generation + 1
    credentialGeneration := m.credentialGeneration + 1
    state := .active
    lastSafeOutcome := "successor_profile_pending"
    consecutiveFailures := 0
    nextRenewalAt := some (now + days 30)
    nextSynchronizeAt := some (match m.lease with
      | none => now + minutes 1
      | some lease => max (now + minutes 1) (lease.expiresAt + minutes 1))
    lease := m.lease.map fun lease => { lease with kind := .renewal } }

def committedRenewal (now : Instant) (o : RenewalOperation) : RenewalOperation :=
  { o with
    state := .successorCommitted
    safeOutcome := "successor_committed"
    terminalAt := some now
    leaseOwner := none
    leaseExpiresAt := none }

structure GuardedRenewal where
  connection : ManagedConnection
  operation : RenewalOperation

def lockSuccessor (now : Instant) (db : Database) : Option GuardedRenewal := do
  let g := r.claim.guard
  let connection ← db.managedConnections.find? (AtGuard g)
  let owners ← (findConnectionOwners db connection).toOption
  let operation ← db.renewalOperations.find? (OperationHeld r .submitted now)
  guard (OwnersCurrent owners connection
    ∧ owners.project.securityRevision = g.projectSecurityRevision
    ∧ owners.identity.userId = connection.userId
    ∧ EgressCurrent owners.provider.kind operation.providerEgressPolicyRevision
        (egressRevision db connection.projectId)
    ∧ operation.providerEgressPolicyRevision = g.providerEgressPolicyRevision)
  let _ ← db.managedCredentials.find?
    (ReadableGeneration g.projectId g.connectionId g.credentialGeneration)
  pure ⟨connection, operation⟩

def commitRenewalSuccessor (value : ProtectedCredential) (now : Instant)
    (db : Database) : Tx (Committed (Option SuccessorProfileClaim)) := do
  ensure (0 < value.keyVersion) .invalidInput
  let g := r.claim.guard
  let policyOk ← lockGuardEgressPolicy db g
  match if policyOk then lockSuccessor r now db else none with
  | none => pure (.done db none)
  | some found => do
    let credentials ← insertRow
      (db.managedCredentials.update
        (ReadableGeneration g.projectId g.connectionId g.credentialGeneration)
        (supersededCredential now) (fun _ => rfl))
      (sealedCredentialRow (successorContext g) value) fun _ => True
    pure (.done { db with
        managedCredentials := credentials
        managedConnections := db.managedConnections.set (successorConnection now found.connection)
        renewalOperations := db.renewalOperations.set (committedRenewal now found.operation) }
      (some ⟨{ g with
          connectionRevision := g.connectionRevision + 1
          connectionGeneration := g.connectionGeneration + 1
          credentialGeneration := g.credentialGeneration + 1 },
        r.claim.leaseOwner, r.claim.leaseExpiresAt⟩))

def releasedRenewal (outcome : String) (retryAt : Instant) (o : RenewalOperation) :
    RenewalOperation :=
  { o with safeOutcome := outcome, leaseOwner := none, leaseExpiresAt := some retryAt }

def releasedConnection (outcome : String) (retryAt : Instant) (m : ManagedConnection) :
    ManagedConnection :=
  { m with lease := none, lastSafeOutcome := outcome, nextRenewalAt := some retryAt }

/-- a renewal that did not get to the provider is put back -/
def releasePreparedFailure (outcome : String) (retryAt : Instant) (db : Database) :
    Tx (Committed Bool) := do
  ensure (r.operationState = .prepared ∧ outcome ≠ "") .invalidInput
  match db.renewalOperations.find? fun o =>
      o.projectId = r.claim.guard.projectId ∧ o.id = r.operationId ∧ o.state = .prepared
        ∧ o.attemptId = r.attemptId ∧ o.leaseOwner = some r.claim.leaseOwner with
  | none => pure (.done db false)
  | some operation =>
    pure (.done { db with
      renewalOperations := db.renewalOperations.set (releasedRenewal outcome retryAt operation)
      managedConnections := db.managedConnections.update
        (fun m => m.projectId = r.claim.guard.projectId ∧ m.id = r.claim.guard.connectionId
          ∧ ∃ lease ∈ m.lease, lease.owner = r.claim.leaseOwner ∧ lease.kind = .renewal)
        (releasedConnection outcome retryAt) (fun _ => rfl) } true)

inductive RenewalTermination
  | reauthRequired | abandoned
  deriving DecidableEq

def RenewalTermination.operationState : RenewalTermination → RenewalOperationState
  | reauthRequired => .reauthRequired
  | abandoned => .abandoned

variable (t : RenewalTermination)

/-- the provider's own revocation is told apart by its outcome -/
def terminatedState (outcome : String) : ConnectionState :=
  if outcome = "provider_confirmed_revocation" then .revoked
  else match t with
    | .reauthRequired => .reauthRequired
    | .abandoned => .active

def terminatedRenewal (outcome : String) (now : Instant)
    (o : RenewalOperation) : RenewalOperation :=
  { o with
    state := t.operationState
    safeOutcome := outcome
    terminalAt := some now
    leaseOwner := none
    leaseExpiresAt := none }

/-- what was asked of the connection is not touched -/
def terminatedConnection (outcome : String) (m : ManagedConnection) : ManagedConnection :=
  { m with
    state := terminatedState t outcome
    revision := m.revision + 1
    generation := if t = .reauthRequired then m.generation + 1 else m.generation
    lastSafeOutcome := outcome
    nextSynchronizeAt := if t = .reauthRequired then none else m.nextSynchronizeAt
    nextRenewalAt := if t = .reauthRequired then none else m.nextRenewalAt
    lease := none }

def OperationHeldUntil (now : Instant) (o : RenewalOperation) : Prop :=
  o.projectId = r.claim.guard.projectId ∧ o.id = r.operationId
    ∧ o.connectionId = r.claim.guard.connectionId ∧ o.attemptId = r.attemptId ∧ o.Open
    ∧ OfGenerations r.claim.guard o ∧ o.leaseOwner = some r.claim.leaseOwner
    ∧ o.leaseExpiresAt = some r.claim.leaseExpiresAt ∧ now < r.claim.leaseExpiresAt
  deriving Decidable

def terminalizeRenewal (outcome : String)
    (now : Instant) (db : Database) : Tx (Committed Bool) := do
  ensure (outcome ≠ "" ∧ outcome.utf8ByteSize ≤ 64) .invalidInput
  let g := r.claim.guard
  match db.managedConnections.find? fun m =>
      m.projectId = g.projectId ∧ m.id = g.connectionId ∧ m.revision = g.connectionRevision
        ∧ m.generation = g.connectionGeneration with
  | none => pure (.done db false)
  | some connection => do
    let _ ← require
      (db.managedCredentials.find? fun k => k.projectId = g.projectId
        ∧ k.connectionId = g.connectionId ∧ k.credentialGeneration = g.credentialGeneration)
      .integrity
    match db.renewalOperations.find? (OperationHeldUntil r now) with
    | none => pure (.done db false)
    | some operation =>
      pure (.done { db with
        renewalOperations := db.renewalOperations.set (terminatedRenewal t outcome now operation)
        managedCredentials :=
          if t = .reauthRequired then
            destroyGeneration db.managedCredentials g.projectId g.connectionId
              g.credentialGeneration now
          else db.managedCredentials
        managedConnections := db.managedConnections.set
          (terminatedConnection t outcome connection) } true)

/-! ## after the successor was stored -/

variable (c : SuccessorProfileClaim)

def SuccessorHeld (now : Instant) (m : ManagedConnection) : Prop :=
  AtGuardRevisions c.guard m ∧ HeldUntil .renewal c.leaseOwner c.leaseExpiresAt now m
  deriving Decidable

/-- a write of the connection under a guard, or none if the guard has been passed -/
def underGuard (held : ManagedConnection → Prop) [DecidablePred held]
    (f : ManagedConnection → ManagedConnection) : Tx (Committed Bool) := do
  let ok ← lockGuardAuthority db g
  match if ok then db.managedConnections.find? held else none with
  | none => pure (.done db false)
  | some connection =>
    pure (.done { db with managedConnections := db.managedConnections.set (f connection) } true)

def finishSuccessorProfileFailure (outcome : String)
    (retryAt now : Instant) (db : Database) : Tx (Committed Bool) := do
  ensure (outcome ≠ "" ∧ outcome.utf8ByteSize ≤ 64) .invalidInput
  underGuard db c.guard (SuccessorHeld c now) fun m =>
    { m with
      lastSafeOutcome := outcome
      nextSynchronizeAt := some retryAt
      consecutiveFailures := min (m.consecutiveFailures + 1) 32
      lease := none }

def finishSuccessorWithoutProfile (now : Instant) (db : Database) : Tx (Committed Bool) :=
  underGuard db c.guard (SuccessorHeld c now) fun m =>
    { m with nextSynchronizeAt := none, lease := none }

/-- the provider no longer accepts what was just renewed -/
def evidencedConnection (revoked : Bool) (outcome : String) (m : ManagedConnection) :
    ManagedConnection :=
  { m with
    state := if revoked then .revoked else .reauthRequired
    revision := m.revision + 1
    generation := m.generation + 1
    lastSafeOutcome := outcome
    nextSynchronizeAt := none
    nextRenewalAt := none
    lease := none }

def fenceSuccessorReadEvidence (revoked : Bool) (outcome : String)
    (now : Instant) (db : Database) : Tx (Committed Bool) := do
  let ok ← lockGuardAuthority db c.guard
  let g := c.guard
  let found : Option ManagedConnection := do
    guard (ok = true)
    let connection ← db.managedConnections.find? fun m =>
      SuccessorHeld c now m ∧ m.projectSecurityRevision = g.projectSecurityRevision
        ∧ m.revocationRequest = none ∧ m.revocationDispatch = none
    let _ ← db.managedCredentials.find? fun k =>
      ReadableGeneration g.projectId g.connectionId g.credentialGeneration k
        ∧ k.connectionGeneration = g.connectionGeneration
    pure connection
  match found with
  | none => pure (.done db false)
  | some connection =>
    pure (.done { db with
      managedCredentials := destroyGeneration db.managedCredentials g.projectId g.connectionId
        g.credentialGeneration now
      managedConnections := db.managedConnections.set
        (evidencedConnection revoked outcome connection) } true)

end OwlAuth
