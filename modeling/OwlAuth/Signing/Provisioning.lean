import Mathlib.Algebra.Group.Int.Defs
import OwlAuth.Signing.Keys

/-!
# Provisioning a signing key at its custody provider

A key is prepared in the database, made by the provider, recorded and published; the provider is
called outside any transaction, under a lease on the key's operation.

* `prepareSigningKey`  the candidate, its reserved material and its operation;
* `claimSigningProviderAction`  a lease on the next call of the provider;
* `recordSigningProviderFailure`, `recordSigningProviderAbsence`, `queueSigningProviderCleanup`
    what the provider answered when it did not make the key;
* `recordProtectedSigningKeyMaterial` the key the provider made;
* `publishSigningKey`  the recorded key, announced to verifiers;
* `completeSigningProviderCleanup`  the provider destroyed what it held.
-/

namespace OwlAuth

open Fallible

structure PreparedSigningKey where
  (operationId ringId keyId : Uuid)
  kid : String
  signerMaterialId : Uuid
  requestDigest : List UInt8
  state : ProvisioningOperationState

def preparedSigningKey (key : SigningKey) (operation : KeyProvisioningOperation) :
    Tx PreparedSigningKey := do
  ensure (operation.keyId = key.id ∧ operation.ringId = key.ringId) .integrity
  pure {
    operationId := operation.id
    ringId := operation.ringId
    keyId := operation.keyId
    kid := key.kid
    signerMaterialId := operation.materialId
    requestDigest := operation.requestDigest
    state := operation.state }

variable (env : Environment) (db : Database)

variable (projectId : Uuid)

variable (prepared : PreparedSigningKey)

def findOperation : Tx KeyProvisioningOperation :=
  require (db.operations.find? fun o => o.id = prepared.operationId ∧ o.projectId = projectId)
    .notFound

def validateSigningOperation (operation : KeyProvisioningOperation) : Tx Unit :=
  ensure (operation.keyId = prepared.keyId ∧ operation.ringId = prepared.ringId
    ∧ operation.requestDigest = prepared.requestDigest) .integrity

def namedOperation : Tx KeyProvisioningOperation := do
  let operation ← findOperation db projectId prepared
  validateSigningOperation prepared operation
  pure operation

/-! ## preparation -/

structure PrepareSigningKey where
  projectId : Uuid
  operationAlias : String
  expectedProjectRevision : Int
  requestDigest : List UInt8

def generatedId (pre : String) (id : Uuid) : String := pre ++ "_" ++ toString id

def newRing (project : Project) (issuer : String) : KeyRing where
  id := env.newUuid 0
  projectId := project.id
  issuer := issuer
  purpose := tokenPurpose
  algorithm := tokenAlgorithm
  revision := 1
  signingEpoch := 1

def RingFor (project : Project) (issuer : String) (r : KeyRing) : Prop :=
  r.projectId = project.id ∧ r.issuer = issuer ∧ r.purpose = tokenPurpose
    ∧ r.algorithm = tokenAlgorithm
  deriving Decidable

def findOrCreateSigningRing (project : Project) : Tx (KeyRing × Table KeyRing) := do
  let issuer ← env.projectIssuer project.publicId
  match db.rings.find? (RingFor project issuer) with
  | some ring => pure (ring, db.rings)
  | none => do
    let rings ← insertProvisioned db.rings (newRing env project issuer) fun r =>
      ¬ RingFor project issuer r
    pure (newRing env project issuer, rings)

variable (c : PrepareSigningKey)

def newSigningKey (ring : KeyRing) : SigningKey where
  id := env.newUuid 1
  projectId := c.projectId
  ringId := ring.id
  kid := generatedId "kid" (env.newUuid 3)
  publicJwk := []
  signerMaterialId := env.newUuid 2
  signerMaterialGeneration := 1
  state := .provisioning
  ringRevision := ring.revision
  provisionedAt := none
  publishedAt := none
  activatedAt := none
  signNotBefore := none
  retiringAt := none
  verifyNotAfter := none
  maintenanceClaimedAt := none
  retiredAt := none
  revokedAt := none

def newSigningMaterial (key : SigningKey) : ProtectedMaterial where
  id := key.signerMaterialId
  projectId := some key.projectId
  ownerKind := .signingKey
  ownerId := key.id
  generation := 1
  materialKind := .signingKey
  providerId := env.signingProviderId
  providerFormatVersion := env.signingProviderFormatVersion
  opaqueValue := none
  safeFingerprint := none
  state := .pending
  erasedAt := none

def newKeyOperation (ring : KeyRing) (key : SigningKey) : KeyProvisioningOperation where
  id := env.newUuid 4
  projectId := c.projectId
  ringId := ring.id
  keyId := key.id
  operationAlias := c.operationAlias
  requestDigest := c.requestDigest
  state := .prepared
  attemptCount := 0
  expectedProjectRevision := c.expectedProjectRevision
  expectedRingRevision := ring.revision
  maintenanceClaimedAt := none
  materialId := key.signerMaterialId
  providerLeaseToken := none
  providerLeaseExpiresAt := none
  providerLeaseGeneration := 0
  destroyAttemptCount := 0
  nextAttemptAt := none
  lastProviderErrorClass := none
  lastRetryClassification := none
  lastProviderErrorCode := none
  abandonedAt := none
  destroyedAt := none
  lastAttemptAt := none
  completedAt := none

/-- a key of the project that is on its way to becoming the active one -/
def CandidateOf (k : SigningKey) : Prop :=
  k.projectId = projectId ∧ k.state.candidate
  deriving Decidable

def reserveSigningKey (project : Project) (db : Database) :
    Tx (Database × SigningKey × KeyProvisioningOperation) := do
  ensure (project.status = .active) .disabled
  ensure (project.metadataRevision = c.expectedProjectRevision) .revisionConflict
  ensure ((db.keys.find? (CandidateOf c.projectId)).isNone) .invalidTransition
  ensureCapacity (db.keys.filter fun k => k.projectId = c.projectId).length listLimit
    .capacityExceeded
  let (ring, rings) ← findOrCreateSigningRing env db project
  let key := newSigningKey env c ring
  let keys ← insertProvisioned db.keys key fun k =>
    ¬ (k.projectId = key.projectId ∧ k.kid = key.kid)
  let materials ← reserveMaterial db.materials (newSigningMaterial env key)
  let operation := newKeyOperation env c ring key
  let operations ← insertProvisioned db.operations operation fun o =>
    ¬ (o.projectId = operation.projectId
      ∧ (o.keyId = operation.keyId ∨ o.operationAlias = operation.operationAlias))
  pure ({ db with rings := rings, keys := keys, materials := materials, operations := operations },
    key, operation)

/-- a preparation under an alias that is in use is answered from its operation -/
def prepareSigningKeyModels (db : Database) :
    Tx (Database × SigningKey × KeyProvisioningOperation) := do
  let project ← findProject db c.projectId
  match db.operations.find? fun o =>
      o.projectId = c.projectId ∧ o.operationAlias = c.operationAlias with
  | some operation => do
    ensure (operation.requestDigest = c.requestDigest) .idempotencyConflict
    let _ ← findRing db c.projectId operation.ringId
    let key ← findSigningKey db c.projectId operation.keyId
    pure (db, key, operation)
  | none => reserveSigningKey env c project db

def prepareSigningKey (db : Database) : Tx (Committed PreparedSigningKey) := do
  let (db, key, operation) ← prepareSigningKeyModels env c db
  pure ⟨db, preparedSigningKey key operation⟩

/-! ## the calls of the provider -/

structure SigningProviderLease where
  token : Uuid

inductive SigningProviderCall
  | provision | inspect | cleanup
  deriving DecidableEq

structure SigningProviderAction where
  call : SigningProviderCall
  lease : SigningProviderLease

/-- what to ask the provider next, and the state to ask it in -/
def claimedState : ProvisioningOperationState → Tx (ProvisioningOperationState × SigningProviderCall)
  | .prepared => .ok (.submitted, .provision)
  | .submitted => .ok (.submitted, .inspect)
  | .cleanupPending => .ok (.cleanupLeased, .cleanup)
  | .cleanupLeased => .ok (.cleanupLeased, .cleanup)
  | .cleanupBlocked => .error .invalidTransition
  | .failed => .error .invalidTransition
  | .abandoned => .error .invalidTransition
  | .stored => .error .integrity
  | .completed => .error .integrity

variable (o : KeyProvisioningOperation)

def leasedOperation (state : ProvisioningOperationState)
    (call : SigningProviderCall) (token : Uuid) (now leaseUntil : Instant) :
    KeyProvisioningOperation :=
  { o with
    state := state
    providerLeaseToken := some token
    providerLeaseExpiresAt := some leaseUntil
    providerLeaseGeneration := o.providerLeaseGeneration + 1
    attemptCount := o.attemptCount + 1
    destroyAttemptCount :=
      if call = .cleanup then o.destroyAttemptCount + 1 else o.destroyAttemptCount
    lastAttemptAt := some now
    nextAttemptAt := none }

/-- the key of an inactive project is revoked in a transaction of its own; the caller learns that
the project is disabled -/
def containPreparedKey (projectId keyId : Uuid) (ringRevision : Int) (db : Database) :
    Committed SigningProviderAction :=
  let body := transitionSigningKey env ⟨projectId, keyId, ringRevision⟩ .revoked db
  match answer body with
  | .ok _ => .fail (execute db body) .disabled
  | .error .invalidTransition => .fail (execute db body) .disabled
  | .error .revisionConflict => .fail (execute db body) .disabled
  | .error e => .fail (execute db body) e

structure ClaimSigningProviderAction where
  projectId : Uuid
  prepared : PreparedSigningKey
  (now leaseUntil : Instant)

/-- the duration is the caller's, the clock is the database's -/
def claimSigningProviderAction (c : ClaimSigningProviderAction) (db : Database) :
    Tx (Committed SigningProviderAction) := do
  ensure (0 < c.leaseUntil - c.now ∧ c.leaseUntil - c.now ≤ minutes 5) .invalidInput
  let project ← findProject db c.projectId
  let operation ← namedOperation db c.projectId c.prepared
  if operation.state = .prepared ∧ project.status ≠ .active then do
    let ring ← findRing db c.projectId operation.ringId
    pure (containPreparedKey env c.projectId operation.keyId ring.revision db)
  else do
    ensure (∀ expiresAt ∈ operation.providerLeaseExpiresAt, expiresAt ≤ env.databaseClock)
      .operationInProgress
    ensure (∀ due ∈ operation.nextAttemptAt, due ≤ env.databaseClock) .operationInProgress
    let (state, call) ← claimedState operation.state
    let token := env.newUuid 0
    let leased := leasedOperation operation state call token env.databaseClock
      (env.databaseClock + (c.leaseUntil - c.now))
    pure (.done { db with operations := db.operations.set leased } ⟨call, ⟨token⟩⟩)

def ensureSigningProviderLease (operation : KeyProvisioningOperation)
    (lease : SigningProviderLease) : Tx Unit :=
  ensure (operation.providerLeaseToken = some lease.token
    ∧ ∃ expiresAt ∈ operation.providerLeaseExpiresAt, env.databaseClock < expiresAt)
    .operationInProgress

def leaseReleased : KeyProvisioningOperation :=
  { o with providerLeaseToken := none, providerLeaseExpiresAt := none }

structure RecordSigningProviderFailure where
  projectId : Uuid
  prepared : PreparedSigningKey
  lease : SigningProviderLease
  providerCall : SigningProviderCall
  errorClass : ProviderErrorClass
  retry : RetryClassification
  errorCode : Option String
  recordedAt : Instant

def failedState (call : SigningProviderCall) (retry : RetryClassification) :
    ProvisioningOperationState :=
  match call with
  | .provision => if retry = .exactInputSafe then .prepared else .submitted
  | .inspect => if retry = .never then .cleanupBlocked else .submitted
  | .cleanup => if retry = .never then .cleanupBlocked else .cleanupPending

/-- `2^n` seconds, `n` the number of attempts between 1 and 6 -/
def retryDelay (attemptCount : Int) : Int :=
  seconds (2 ^ (max 1 (min attemptCount 6)).toNat)

def failedOperation (c : RecordSigningProviderFailure) (o : KeyProvisioningOperation) :
    KeyProvisioningOperation :=
  { leaseReleased o with
    state := failedState c.providerCall c.retry
    nextAttemptAt :=
      if c.retry = .never then none else some (c.recordedAt + retryDelay o.attemptCount)
    lastProviderErrorClass := some c.errorClass
    lastRetryClassification := some c.retry
    lastProviderErrorCode := c.errorCode
    lastAttemptAt := some c.recordedAt }

def recordSigningProviderFailure (c : RecordSigningProviderFailure) (db : Database) :
    Tx (Committed Unit) := do
  let operation ← namedOperation db c.projectId c.prepared
  ensureSigningProviderLease env operation c.lease
  pure (.done { db with operations := db.operations.set (failedOperation c operation) } ())

structure LeasedSigningCall where
  projectId : Uuid
  prepared : PreparedSigningKey
  lease : SigningProviderLease
  recordedAt : Instant

variable (c : LeasedSigningCall)

/-- the provider holds nothing: tried again, unless the project or the last error forbids it -/
def absentOperation (project : Project) (o : KeyProvisioningOperation) : KeyProvisioningOperation :=
  if project.status ≠ .active ∨ o.lastRetryClassification = some .never then
    { leaseReleased o with state := .failed, lastAttemptAt := some c.recordedAt }
  else
    { leaseReleased o with
      state := .prepared
      lastAttemptAt := some c.recordedAt
      lastProviderErrorClass := none
      lastRetryClassification := none
      lastProviderErrorCode := none }

def recordSigningProviderAbsence (db : Database) : Tx (Committed Unit) := do
  let operation ← namedOperation db c.projectId c.prepared
  ensure (operation.state = .submitted) .operationInProgress
  ensureSigningProviderLease env operation c.lease
  let project ← findProject db c.projectId
  pure (.done { db with operations := db.operations.set (absentOperation c project operation) } ())

def queueSigningProviderCleanup (db : Database) : Tx (Committed Unit) := do
  let operation ← namedOperation db c.projectId c.prepared
  if operation.state = .cleanupPending ∧ operation.providerLeaseToken = none then
    pure (.done db ())
  else do
    ensure (operation.state = .submitted) .operationInProgress
    ensureSigningProviderLease env operation c.lease
    let queued := { leaseReleased operation with state := .cleanupPending, nextAttemptAt := none }
    pure (.done { db with operations := db.operations.set queued } ())

/-! ## the key the provider made -/

structure ProvisionedSigningMaterial where
  materialId : Uuid
  handle : List UInt8
  publicKey : List UInt8

def validateProtectedSigningJwk (kid : String) (publicKey : List UInt8) (jwk : Jwk) : Tx Unit :=
  ensure (publicKey.length = 32
    ∧ jwk.lookup "kty" = some "OKP"
    ∧ jwk.lookup "crv" = some "Ed25519"
    ∧ jwk.lookup "alg" = some tokenAlgorithm
    ∧ jwk.lookup "use" = some "sig"
    ∧ jwk.lookup "kid" = some kid
    ∧ jwk.lookup "x" = some (env.base64Url publicKey)) .integrity

structure RecordSigningKeyMaterial where
  projectId : Uuid
  prepared : PreparedSigningKey
  lease : SigningProviderLease
  material : ProvisionedSigningMaterial
  publicJwk : Jwk
  recordedAt : Instant

variable (c : RecordSigningKeyMaterial)

/-- a late answer of the provider is compared with what another lease owner committed -/
def authenticateCommittedSigningProviderReplay (db : Database) : Tx Unit := do
  let key ← findSigningKey db c.projectId c.prepared.keyId
  let committed ← require
    (db.materials.find? fun m =>
      m.id = c.material.materialId ∧ m.projectId = some c.projectId) .integrity
  let handle ← require committed.opaqueValue .integrity
  validateProtectedSigningJwk env c.prepared.kid c.material.publicKey c.publicJwk
  ensure (key.signerMaterialId = c.material.materialId ∧ key.publicJwk = c.publicJwk
    ∧ committed.state = .live ∧ handle = c.material.handle) .integrity

def recordedKey (key : SigningKey) : SigningKey :=
  { key with
    publicJwk := c.publicJwk
    signerMaterialId := c.material.materialId
    provisionedAt := some c.recordedAt }

def recordedOperation (project : Project)
    (o : KeyProvisioningOperation) : KeyProvisioningOperation :=
  { leaseReleased o with
    state := if project.status = .active then .stored else .cleanupPending
    nextAttemptAt := none
    lastAttemptAt := some c.recordedAt }

/-- the material of an inactive project is stored only to be cleaned up -/
def recordProtectedSigningKeyMaterial (db : Database) : Tx (Committed Unit) := do
  let project ← findProject db c.projectId
  let operation ← namedOperation db c.projectId c.prepared
  ensure (operation.materialId = c.material.materialId) .integrity
  if operation.state = .stored ∨ operation.state = .completed then do
    authenticateCommittedSigningProviderReplay env c db
    pure (.done db ())
  else do
    ensure (operation.state = .submitted) .operationInProgress
    ensureSigningProviderLease env operation c.lease
    let key ← findRingKey db c.projectId c.prepared.ringId c.prepared.keyId
    ensure (key.state = .provisioning ∧ key.signerMaterialId = c.material.materialId
      ∧ key.signerMaterialId = c.prepared.signerMaterialId ∧ key.kid = c.prepared.kid
      ∧ key.signerMaterialGeneration = 1) .invalidTransition
    validateProtectedSigningJwk env c.prepared.kid c.material.publicKey c.publicJwk
    let materials ← finalizePendingMaterial db.materials c.material.materialId
      (some c.projectId) c.material.handle none
    let db' :=
      { db with
        keys := db.keys.set (recordedKey c key)
        materials := materials
        operations := db.operations.set (recordedOperation c project operation) }
    pure ⟨db', ensure (project.status = .active) .disabled⟩

/-! ## publication -/

structure PublishSigningKey where
  projectId : Uuid
  prepared : PreparedSigningKey
  publishedAt : Instant

/-- keys verifiers may still have to know -/
def PublishableOf (k : SigningKey) : Prop :=
  k.projectId = projectId ∧ (k.state = .published ∨ k.state = .active ∨ k.state = .retiring)
  deriving Decidable

def publishedKey (publishedAt : Instant) (key : SigningKey) (ringRevision : Int) : SigningKey :=
  { key with state := .published, ringRevision := ringRevision, publishedAt := some publishedAt }

/-- a stored key that can no longer be published is left to its cleanup -/
def containStoredKey : Database :=
  { db with
    operations := db.operations.set { o with state := .cleanupPending, nextAttemptAt := none } }

def publishStoredKey (c : PublishSigningKey) (operation : KeyProvisioningOperation)
    (db : Database) : Tx (Committed SigningKeyRecord) := do
  let ring ← findRing db c.projectId c.prepared.ringId
  let key ← findRingKey db c.projectId c.prepared.ringId c.prepared.keyId
  ensure (operation.state = .stored ∧ key.state = .provisioning
    ∧ key.signerMaterialId = c.prepared.signerMaterialId ∧ key.kid = c.prepared.kid)
    .invalidTransition
  if ring.revision ≠ operation.expectedRingRevision then
    pure (.fail (containStoredKey db operation) .revisionConflict)
  else do
    ensureCapacity (db.keys.filter (PublishableOf c.projectId)).length listLimit .capacityExceeded
    let published := publishedKey c.publishedAt key (ring.revision + 1)
    let db' :=
      { db with
        keys := db.keys.set published
        rings := db.rings.set { ring with revision := ring.revision + 1 }
        operations := db.operations.set
          { operation with state := .completed, completedAt := some c.publishedAt } }
    pure ⟨db', signingKeyRecord db' published⟩

def publishSigningKey (c : PublishSigningKey) (db : Database) :
    Tx (Committed SigningKeyRecord) := do
  let project ← findProject db c.projectId
  let operation ← namedOperation db c.projectId c.prepared
  if operation.state = .completed then
    pure ⟨db, getSigningKey db c.projectId c.prepared.keyId⟩
  else if project.status ≠ .active then
    if operation.state = .stored then pure (.fail (containStoredKey db operation) .disabled)
    else .error .disabled
  else publishStoredKey c operation db

/-! ## cleanup -/

structure CompleteSigningProviderCleanup where
  projectId : Uuid
  prepared : PreparedSigningKey
  lease : SigningProviderLease
  destroyed : Bool
  completedAt : Instant

def cleanedOperation (now : Instant) (o : KeyProvisioningOperation) : KeyProvisioningOperation :=
  { leaseReleased o with
    state := .abandoned
    abandonedAt := some now
    destroyedAt := some now
    lastAttemptAt := some now }

def abandonedKey (key : SigningKey) (materialId : Uuid) (ringRevision : Int) : SigningKey :=
  { key with state := .abandoned, signerMaterialId := materialId, ringRevision := ringRevision }

/-- the key goes with its material, unless it already went -/
def abandonCleanedKey (c : CompleteSigningProviderCleanup) (ring : KeyRing) (key : SigningKey)
    (operation : KeyProvisioningOperation) (db : Database) : Tx (Committed Unit) := do
  ensure (key.state = .provisioning ∨ key.state = .abandoned) .invalidTransition
  let materials ← eraseById db.materials operation.materialId c.completedAt
  let operations := db.operations.set (cleanedOperation c.completedAt operation)
  if key.state = .provisioning then
    pure (.done
      { db with
        keys := db.keys.set (abandonedKey key operation.materialId (ring.revision + 1))
        rings := db.rings.set (advancedRing ring)
        materials := materials
        operations := operations } ())
  else
    pure (.done
      { db with
        keys := db.keys.set (abandonedKey key operation.materialId ring.revision)
        materials := materials
        operations := operations } ())

def completeSigningProviderCleanup (c : CompleteSigningProviderCleanup) (db : Database) :
    Tx (Committed Unit) := do
  let project ← findProject db c.projectId
  let ring ← findRing db c.projectId c.prepared.ringId
  let key ← findRingKey db c.projectId c.prepared.ringId c.prepared.keyId
  let operation ← namedOperation db c.projectId c.prepared
  ensure (operation.state = .cleanupLeased) .operationInProgress
  ensureSigningProviderLease env operation c.lease
  if c.destroyed = false then
    let blocked :=
      { leaseReleased operation with state := .cleanupBlocked, lastAttemptAt := some c.completedAt }
    pure (.done { db with operations := db.operations.set blocked } ())
  else if project.status = .deleting then do
    let materials ← eraseById db.materials operation.materialId c.completedAt
    let cleaned := { cleanedOperation c.completedAt operation with nextAttemptAt := none }
    pure (.done { db with materials := materials, operations := db.operations.set cleaned } ())
  else abandonCleanedKey c ring key operation db

end OwlAuth
