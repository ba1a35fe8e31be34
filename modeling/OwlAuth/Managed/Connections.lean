import OwlAuth.Data.Database

/-!
# Managed connections: what replaces, moves and ends them

A connection is written by logins, by the operator and by changes of its identity.

* `upsertManagedConnection`  a login brings a credential: the first one of its identity, or one
    that replaces the old one.  A connection that is being revoked is left alone;
* `disconnectManagedIdentity`  the identity of the connection is unlinked;
* `moveManagedConnections`  the user of the connection is merged into another;
* `eraseManagedConnections`  the project of the connection is deleted;
* `requestSynchronize`, `disconnect`, `requestRevocation`  what the operator asks for.
-/

namespace OwlAuth

open Fallible

structure Vault where
  connections : Table ManagedConnection
  credentials : Table ManagedCredential
  operations : Table RenewalOperation

def Database.vault (db : Database) : Vault :=
  ⟨db.managedConnections, db.managedCredentials, db.renewalOperations⟩

/-! ## credentials -/

/-- the credential rows of a connection that still hold something -/
def ReadableCredential (projectId connectionId : Uuid) (k : ManagedCredential) : Prop :=
  k.projectId = projectId ∧ k.connectionId = connectionId ∧ k.ciphertext.isSome = true
  deriving Decidable

variable (now : Instant)

def destroyedCredential (k : ManagedCredential) : ManagedCredential :=
  { k with ciphertext := none, destroyedAt := some now }

def supersededCredential (k : ManagedCredential) : ManagedCredential :=
  { k with ciphertext := none, supersededAt := some now, destroyedAt := some now }

def ReadableGeneration (projectId connectionId : Uuid) (credentialGeneration : Int)
    (k : ManagedCredential) : Prop :=
  ReadableCredential projectId connectionId k ∧ k.credentialGeneration = credentialGeneration
  deriving Decidable

/-- `UPDATE … SET ciphertext = NULL` for one generation -/
def destroyGeneration (t : Table ManagedCredential) (projectId connectionId : Uuid)
    (credentialGeneration : Int) (now : Instant) : Table ManagedCredential :=
  t.update (ReadableGeneration projectId connectionId credentialGeneration)
    (destroyedCredential now) (fun _ => rfl)

def sealedCredentialRow (context : ManagedCredentialContext) (value : ProtectedCredential) :
    ManagedCredential :=
  { projectId := context.projectId
    connectionId := context.connectionId
    connectionGeneration := context.connectionGeneration
    credentialGeneration := context.credentialGeneration
    keyVersion := value.keyVersion
    ciphertext := some value.ciphertext
    supersededAt := none
    destroyedAt := none }

/-! ## logins -/

structure RenewableGrant where
  credential : RenewableCredential
  credentialBytes : Nat
  grantedScopes : List String
  capability : ManagedCredentialCapability

structure UpsertManagedConnection where
  provider : ProviderConfiguration
  identityId : Uuid
  user : ProjectUser
  projectSecurityRevision : Int
  grant : RenewableGrant
  keyVersion : Int
  now : Instant

variable (u : UpsertManagedConnection)

def newConnection (id : Uuid) (identity : LinkedIdentity) : ManagedConnection :=
  { id := id
    projectId := u.provider.projectId
    providerConfigurationId := u.provider.id
    linkedIdentityId := u.identityId
    userId := u.user.id
    state := .active
    revision := 1
    generation := 1
    credentialGeneration := 1
    projectSecurityRevision := u.projectSecurityRevision
    providerRevision := u.provider.revision
    userSecurityRevision := u.user.securityRevision
    identityRevision := identity.identityRevision
    managedProfileRevision := u.provider.managedProfileRevision
    capability := u.grant.capability
    lastSafeOutcome := "callback_credential_committed"
    lastSynchronizedAt := none
    nextSynchronizeAt := some u.now
    nextRenewalAt := some (u.now + days 30)
    revocationRequest := none
    revocationDispatch := none
    consecutiveFailures := 0
    lease := none
    disconnectedAt := none }

def reconnected (identity : LinkedIdentity) (c : ManagedConnection) : ManagedConnection :=
  { c with
    providerConfigurationId := u.provider.id
    userId := u.user.id
    state := .active
    revision := c.revision + 1
    generation := c.generation + 1
    credentialGeneration := c.credentialGeneration + 1
    projectSecurityRevision := u.projectSecurityRevision
    providerRevision := u.provider.revision
    userSecurityRevision := u.user.securityRevision
    identityRevision := identity.identityRevision
    managedProfileRevision := u.provider.managedProfileRevision
    capability := u.grant.capability
    lastSafeOutcome := "callback_credential_committed"
    nextSynchronizeAt := some u.now
    nextRenewalAt := some (u.now + days 30)
    consecutiveFailures := 0
    lease := none
    disconnectedAt := none }

/-- the renewals of the current generation of a connection that have no outcome yet -/
def OpenRenewal (c : ManagedConnection) (o : RenewalOperation) : Prop :=
  o.projectId = c.projectId ∧ o.connectionId = c.id
    ∧ o.expectedConnectionGeneration = c.generation
    ∧ o.expectedCredentialGeneration = c.credentialGeneration ∧ o.Open
  deriving Decidable

def supersededRenewal (o : RenewalOperation) : RenewalOperation :=
  { o with
    state := .supersededByLogin
    safeOutcome := "superseded_by_login"
    terminalAt := some now
    leaseOwner := none
    leaseExpiresAt := none }

/-- a dispatch follows its request -/
def IntentShapeValid (c : ManagedConnection) : Prop :=
  ∀ dispatch ∈ c.revocationDispatch, ∃ request ∈ c.revocationRequest,
    request.requestedAt ≤ dispatch.startedAt
  deriving Decidable

/-- a revocation of the connection was asked for, or a worker is about to dispatch one -/
def BeingRevoked (c : ManagedConnection) : Prop :=
  c.revocationRequest.isSome = true ∨ c.revocationDispatch.isSome = true
    ∨ ∃ lease ∈ c.lease, lease.kind = .revocation
  deriving Decidable

def connectIdentity (env : Environment) (u : UpsertManagedConnection) (identity : LinkedIdentity)
    (db : Database) : Tx Database := do
  let connection := newConnection u (env.newUuid 0) identity
  let connections ← insertRow db.managedConnections connection fun o =>
    ¬ (o.projectId = connection.projectId ∧ o.linkedIdentityId = connection.linkedIdentityId)
  let credentials ← insertRow db.managedCredentials
    (sealedCredentialRow connection.context
      (protectCredential u.keyVersion connection.context u.grant.credential)) fun _ => True
  pure { db with managedConnections := connections, managedCredentials := credentials }

def reconnectIdentity (identity : LinkedIdentity)
    (existing : ManagedConnection) (db : Database) : Tx Database := do
  ensure (existing.generation < maxI64 ∧ existing.credentialGeneration < maxI64) .integrity
  let connection := reconnected u identity existing
  let credentials ← insertRow
    (db.managedCredentials.update (ReadableCredential existing.projectId existing.id)
      (supersededCredential u.now) (fun _ => rfl))
    (sealedCredentialRow connection.context
      (protectCredential u.keyVersion connection.context u.grant.credential)) fun _ => True
  pure { db with
    managedConnections := db.managedConnections.set connection
    managedCredentials := credentials
    renewalOperations := db.renewalOperations.update (OpenRenewal existing)
      (supersededRenewal u.now) (fun _ => rfl) }

def upsertManagedConnection (env : Environment) (u : UpsertManagedConnection) (db : Database) :
    Tx Database := do
  ensure (0 < u.grant.credentialBytes ∧ u.grant.credentialBytes ≤ 8192) .invalidInput
  let identity ← require
    (db.identities.find? fun i =>
      i.id = u.identityId ∧ i.projectId = u.provider.projectId ∧ i.userId = u.user.id) .integrity
  match db.managedConnections.find? fun c =>
      c.projectId = u.provider.projectId ∧ c.linkedIdentityId = u.identityId with
  | none => connectIdentity env u identity db
  | some existing => do
    ensure (IntentShapeValid existing) .integrity
    if BeingRevoked existing then pure db
    else reconnectIdentity u identity existing db

abbrev OnlyManaged (db db' : Database) : Prop :=
  db' = { db with
    managedConnections := db'.managedConnections
    managedCredentials := db'.managedCredentials
    renewalOperations := db'.renewalOperations }

/-! ## changes of the identity -/

/-- a connection that ends: its lease and whatever was asked of it end with it -/
def endedConnection (state : ConnectionState) (outcome : String) (disconnectedAt : Option Instant)
    (c : ManagedConnection) : ManagedConnection :=
  { c with
    state := state
    revision := c.revision + 1
    generation := c.generation + 1
    lastSafeOutcome := outcome
    nextSynchronizeAt := none
    nextRenewalAt := none
    revocationRequest := none
    revocationDispatch := none
    lease := none
    disconnectedAt := disconnectedAt }

/-- a credential left over from another generation stops the unlinking -/
def disconnectManagedIdentity (projectId identityId : Uuid) (now : Instant) (db : Database) :
    Tx Database :=
  match db.managedConnections.find? fun c =>
      c.projectId = projectId ∧ c.linkedIdentityId = identityId with
  | none => pure db
  | some c =>
    if c.state = .disconnected then pure db
    else do
      ensure (∀ k ∈ db.managedCredentials.rows, k.projectId = projectId → k.connectionId = c.id →
        k.credentialGeneration = c.credentialGeneration → k.connectionGeneration = c.generation)
        .revisionConflict
      pure { db with
        managedCredentials := destroyGeneration db.managedCredentials projectId c.id
          c.credentialGeneration now
        managedConnections := db.managedConnections.set
          (endedConnection .disconnected "identity_unlinked" (some now) c) }

structure MoveManagedConnections where
  (projectId loserId winnerId : Uuid)
  winnerSecurityRevision : Int

variable (m : MoveManagedConnections)

variable (identities : Table LinkedIdentity)

def movedIdentityOf (c : ManagedConnection) : Option LinkedIdentity :=
  if c.projectId = m.projectId ∧ c.userId = m.loserId then
    identities.find? fun i =>
      i.id = c.linkedIdentityId ∧ i.projectId = c.projectId ∧ i.userId = m.winnerId
  else none

def ownerMerged (c : ManagedConnection) : ManagedConnection :=
  match movedIdentityOf m identities c with
  | none => c
  | some identity =>
    { c with
      userId := m.winnerId
      identityRevision := identity.identityRevision
      userSecurityRevision := m.winnerSecurityRevision
      revision := c.revision + 1
      lastSafeOutcome := "owner_merged" }

theorem ownerMerged_id (c : ManagedConnection) : (ownerMerged m identities c).id = c.id := by
  unfold ownerMerged
  split <;> rfl

def moveManagedConnections (db : Database) : Database :=
  { db with
    managedConnections := db.managedConnections.update (fun _ => True)
      (ownerMerged m db.identities) (ownerMerged_id m db.identities) }

/-! ## deletion of the project -/

def abandonedRenewal (now : Instant) (o : RenewalOperation) : RenewalOperation :=
  { o with
    state := .abandoned
    safeOutcome := "project_deleting"
    leaseOwner := none
    leaseExpiresAt := none
    terminalAt := some now }

def idledConnection (c : ManagedConnection) : ManagedConnection :=
  { c with
    lease := none
    nextSynchronizeAt := none
    nextRenewalAt := none
    lastSafeOutcome := "project_deleting" }

/-- every credential of the project destroyed, every renewal abandoned -/
def eraseManagedConnections (projectId : Uuid) (now : Instant) (db : Database) : Database :=
  { db with
    managedCredentials := db.managedCredentials.update
      (fun k => k.projectId = projectId ∧ k.ciphertext.isSome = true)
      (destroyedCredential now) (fun _ => rfl)
    renewalOperations := db.renewalOperations.update
      (fun o => o.projectId = projectId ∧ o.Open) (abandonedRenewal now) (fun _ => rfl)
    managedConnections := db.managedConnections.update (fun c => c.projectId = projectId)
      idledConnection (fun _ => rfl) }

/-! ## the operator -/

structure ChangeManagedConnection where
  (projectId userId connectionId : Uuid)
  (expectedRevision expectedGeneration : Int)
  now : Instant

variable (c : ChangeManagedConnection)

def NamedConnection (m : ManagedConnection) : Prop :=
  m.projectId = c.projectId ∧ m.userId = c.userId ∧ m.id = c.connectionId
    ∧ m.revision = c.expectedRevision ∧ m.generation = c.expectedGeneration
  deriving Decidable

def requestSynchronize (db : Database) : Tx (Committed ManagedConnection) := do
  let connection ← require
    (db.managedConnections.find? fun m => NamedConnection c m ∧ m.state = .active
      ∧ m.revocationRequest = none ∧ m.Unleased c.now) .revisionConflict
  let updated : ManagedConnection :=
    { connection with nextRenewalAt := some c.now, lastSafeOutcome := "synchronize_requested" }
  pure (.done { db with managedConnections := db.managedConnections.set updated } updated)

/-- a revocation or a disconnection is left to a worker -/
def revocationRequested (disposition : RevocationDisposition) (outcome : String) (now : Instant)
    (m : ManagedConnection) : ManagedConnection :=
  { m with
    revision := m.revision + 1
    lastSafeOutcome := outcome
    revocationRequest := some ⟨now, disposition⟩ }

def Revocable (t : Table ManagedCredential) (m : ManagedConnection) : Prop :=
  m.state = .active ∧ m.capability.supportsRevocation = true
    ∧ ∃ k ∈ t.rows, ReadableGeneration m.projectId m.id m.credentialGeneration k
  deriving Decidable

def locallyDisconnected (now : Instant) (m : ManagedConnection) : ManagedConnection :=
  { endedConnection .disconnected "locally_disconnected" (some now) m with
    revocationDispatch := m.revocationDispatch }

/-- the provider is asked to revoke what it can still revoke; anything else ends here -/
def disconnect (db : Database) : Tx (Committed ManagedConnection) := do
  let m ← require
    (db.managedConnections.find? fun m => NamedConnection c m ∧ m.state ≠ .disconnected)
    .revisionConflict
  ensure (m.revocationRequest = none ∧ m.Unleased c.now) .revisionConflict
  if Revocable db.managedCredentials m then
    let updated := revocationRequested .disconnect "disconnect_revocation_requested" c.now m
    pure (.done { db with managedConnections := db.managedConnections.set updated } updated)
  else
    let updated := locallyDisconnected c.now m
    pure (.done { db with
      managedConnections := db.managedConnections.set updated
      managedCredentials := destroyGeneration db.managedCredentials m.projectId m.id
        m.credentialGeneration c.now } updated)

def AdmitsRevocation (m : ManagedConnection) : Prop :=
  NamedConnection c m ∧ m.state = .active ∧ m.capability.supportsRevocation = true
    ∧ m.revocationRequest = none ∧ m.Unleased c.now
  deriving Decidable

def requestRevocation (db : Database) : Tx (Committed ManagedConnection) := do
  let m ← require (db.managedConnections.find? (AdmitsRevocation c)) .revisionConflict
  let updated := revocationRequested .revoke "revocation_requested" c.now m
  pure (.done { db with managedConnections := db.managedConnections.set updated } updated)

end OwlAuth
