import OwlAuth.Control.Lifecycle

/-!
# Signing keys and their rings

A ring holds the signing keys of a project for one issuer.  Its `revision` counts the changes of
its keys' states, its `signingEpoch` the changes that can matter to a token under way.

* `activateSigningKeyIfReady`  the published candidate becomes the active key, the old one retires
    and stays usable for verification for a while;
* `transitionSigningKey`  a key moved to a later state (`retireSigningKey`,
    `revokeSigningKey`); a key that never reached the provider's store
    is abandoned instead of revoked.

The audit rows and the key-state events are written only, and left out.
-/

namespace OwlAuth

open Fallible

def listLimit : Nat := 100

def ensureCapacity (count limit : Nat) (e : ApplicationError) : Tx Unit := do
  ensure (count ≤ limit) .integrity
  ensure (count ≠ limit) e

/-! ## reads -/

variable (env : Environment) (db : Database)

variable (projectId keyId : Uuid)

def findSigningKey : Tx SigningKey :=
  require (db.keys.find? fun k => k.id = keyId ∧ k.projectId = projectId) .notFound

def findRing (projectId ringId : Uuid) : Tx KeyRing :=
  require (db.rings.find? fun r => r.id = ringId ∧ r.projectId = projectId) .notFound

def findRingKey (projectId ringId keyId : Uuid) : Tx SigningKey :=
  require (db.keys.find? fun k => k.id = keyId ∧ k.projectId = projectId ∧ k.ringId = ringId)
    .notFound

structure SigningKeyRecord where
  (id projectId : Uuid)
  (kid algorithm : String)
  state : KeyState
  (ringRevision signingEpoch : Int)
  (signNotBefore verifyNotAfter : Option Instant)
  publicJwk : Jwk

variable (key : SigningKey)

def signingKeyRecord : Tx SigningKeyRecord := do
  let ring ← findRing db key.projectId key.ringId
  pure {
    id := key.id
    projectId := key.projectId
    kid := key.kid
    algorithm := ring.algorithm
    state := key.state
    ringRevision := ring.revision
    signingEpoch := ring.signingEpoch
    signNotBefore := key.signNotBefore
    verifyNotAfter := key.verifyNotAfter
    publicJwk := key.publicJwk }

def getSigningKey : Tx SigningKeyRecord := do
  let key ← findSigningKey db projectId keyId
  signingKeyRecord db key

/-! ## activation -/

structure ChangeSigningKey where
  (projectId keyId : Uuid)
  expectedRingRevision : Int

def maxAccessTokenLifetimeSeconds : Int := 3600

def verificationOverlap : Int :=
  seconds maxAccessTokenLifetimeSeconds + env.verificationRetention + env.propagationDelay

def retiringKey (ringRevision : Int) : SigningKey :=
  { key with
    state := .retiring
    ringRevision := ringRevision
    retiringAt := some env.databaseClock
    verifyNotAfter := some (env.databaseClock + verificationOverlap env) }

def activatedKey (now : Instant) (key : SigningKey) (ringRevision : Int) : SigningKey :=
  { key with
    state := .active
    ringRevision := ringRevision
    activatedAt := some now
    signNotBefore := some now }

/-- the ring after its keys changed in a way that tokens under way must notice -/
def advancedRing (ring : KeyRing) : KeyRing :=
  { ring with revision := ring.revision + 1, signingEpoch := ring.signingEpoch + 1 }

def activeKey (projectId ringId : Uuid) : Option SigningKey :=
  db.keys.find? fun k => k.projectId = projectId ∧ k.ringId = ringId ∧ k.state = .active

def demotedKeys (ring : KeyRing) : Table SigningKey :=
  match activeKey db ring.projectId ring.id with
  | some old => db.keys.set (retiringKey env old (ring.revision + 1))
  | none => db.keys

variable (c : ChangeSigningKey)

def activateSigningKeyIfReady (db : Database) : Tx (Committed SigningKeyRecord) := do
  let candidate ← findSigningKey db c.projectId c.keyId
  let _ ← activeProject db c.projectId
  let ring ← findRing db c.projectId candidate.ringId
  ensure (ring.revision = c.expectedRingRevision) .revisionConflict
  let candidate ← findRingKey db c.projectId ring.id c.keyId
  ensure (candidate.state = .published ∧ candidate.publishedAt.isSome) .invalidTransition
  let updated := activatedKey env.databaseClock candidate (ring.revision + 1)
  let db' :=
    { db with
      keys := (demotedKeys env db ring).set updated
      rings := db.rings.set (advancedRing ring) }
  pure ⟨db', signingKeyRecord db' updated⟩

/-! ## retirement, revocation, abandonment -/

variable (target : KeyState)

/-- the state of the operation behind a key that is revoked while it is provisioned -/
def protectedOperationState : Option ProvisioningOperationState :=
  if target = .revoked ∧ key.state = .provisioning then
    (db.operations.find? fun o => o.projectId = key.projectId ∧ o.keyId = key.id).map
      KeyProvisioningOperation.state
  else none

/-- a key that was never published is abandoned, not revoked -/
def effectiveTarget (operation : Option ProvisioningOperationState)
    (target : KeyState) : KeyState :=
  if target = .revoked ∧ key.state = .provisioning ∧ (key.publicJwk = [] ∨ operation.isSome)
  then .abandoned else target

/-- a key retires when its verification window is over; the rest follows the transition table -/
def checkKeyTransition (now : Instant) : Tx Unit :=
  if target = .retired then
    ensure (key.state = .retiring ∧ ∃ cutoff ∈ key.verifyNotAfter, cutoff ≤ now) .invalidTransition
  else ensure (key.state.transition target) .invalidTransition

/-- the provider may hold something that has to be destroyed -/
def cleanupRequired : ProvisioningOperationState → Bool
  | .submitted => true
  | .stored => true
  | .cleanupPending => true
  | _ => false

def abandonedOperation (now : Instant) (o : KeyProvisioningOperation) : KeyProvisioningOperation :=
  { o with
    state := if cleanupRequired o.state then .cleanupPending else .abandoned
    providerLeaseToken := none
    providerLeaseExpiresAt := none
    nextAttemptAt := if cleanupRequired o.state then some now else none
    abandonedAt := if cleanupRequired o.state then none else some now }

/-- the operation given up; answers the material to erase when nothing is left to clean up -/
def abandonSigningKeyOperation (operations : Table KeyProvisioningOperation)
    (projectId keyId : Uuid) (now : Instant) : Tx (Table KeyProvisioningOperation × Option Uuid) := do
  let o ← require (operations.find? fun o => o.projectId = projectId ∧ o.keyId = keyId) .integrity
  ensure (o.state = .prepared ∨ o.state = .failed ∨ cleanupRequired o.state) .invalidTransition
  pure (operations.set (abandonedOperation now o),
    if cleanupRequired o.state then none else some o.materialId)

def movedKey (ringRevision : Int) (material : Option Uuid) (now : Instant) : SigningKey :=
  { key with
    signerMaterialId := material.getD key.signerMaterialId
    state := target
    ringRevision := ringRevision
    activatedAt := if target = .active then some now else key.activatedAt
    retiringAt := if target = .retiring then some now else key.retiringAt
    retiredAt := if target = .retired then some now else key.retiredAt
    revokedAt := if target = .revoked then some now else key.revokedAt }

def endOperation (target : KeyState) (now : Instant) :
    Tx (Table KeyProvisioningOperation × Option Uuid) :=
  if target = .abandoned then abandonSigningKeyOperation db.operations projectId keyId now
  else .ok (db.operations, none)

def eraseAbandoned (materials : Table ProtectedMaterial) (material : Option Uuid) (now : Instant) :
    Tx (Table ProtectedMaterial) :=
  match material with
  | some id => eraseById materials id now
  | none => .ok materials

def transitionSigningKey (db : Database) : Tx (Committed SigningKeyRecord) := do
  let project ← findProject db c.projectId
  ensure (project.status = .active ∨ target = .revoked) .disabled
  let key ← findSigningKey db c.projectId c.keyId
  let ring ← findRing db c.projectId key.ringId
  ensure (ring.revision = c.expectedRingRevision) .revisionConflict
  let key ← findRingKey db c.projectId ring.id c.keyId
  let operation := protectedOperationState db key target
  ensure (operation ≠ some .cleanupLeased) .operationInProgress
  let target := effectiveTarget key operation target
  checkKeyTransition key target env.databaseClock
  let (operations, material) ← endOperation db c.projectId c.keyId target env.databaseClock
  let updated := movedKey key target (ring.revision + 1) material env.databaseClock
  let materials ← eraseAbandoned db.materials material env.databaseClock
  let db' :=
    { db with
      keys := db.keys.set updated
      rings := db.rings.set (advancedRing ring)
      operations := operations
      materials := materials }
  pure ⟨db', signingKeyRecord db' updated⟩

def retireSigningKey (db : Database) : Tx (Committed SigningKeyRecord) := do
  let current ← findSigningKey db c.projectId c.keyId
  ensure (current.state = .retiring) .invalidTransition
  transitionSigningKey env c .retired db

def revokeSigningKey (db : Database) : Tx (Committed SigningKeyRecord) :=
  transitionSigningKey env c .revoked db

end OwlAuth
