import OwlAuth.Custody.Material
import OwlAuth.Projection.FanOut

/-!
# Webhook endpoints and their secrets

An endpoint signs its deliveries with its current secret and, while the overlap lasts, with the one
before it.  A secret is prepared (its material reserved), finalized (the material stored), activated
and retired; a retired one is queued for erasure.

* `prepareEndpoint`, `recordEndpointTestSuccess`, `activatePreparedEndpoint`, `updateEndpoint`;
* `disableEndpoint`, `retireOneDisabledOwnerEndpoint`  every secret of the endpoint retired;
* `prepareSecretRotation`, `finalizeProtectedSecret`, `activateSecretRotation`;
* `retireOneExpiredOverlap`  the overlap is over;
* `enqueueSecretCleanup`, `claimSecretCleanup`, `finishSecretCleanup`  the erasure.

Maintenance reads a hint outside its transaction and checks again inside; the hint is an argument
here.
-/

namespace OwlAuth

open Fallible

/-! ## owners -/

variable (env : Environment) (db : Database)

variable (projectId applicationId : Uuid)

def lockApplicationOwners : Tx (Project × Application) := do
  let project ← findProject db projectId
  let application ← findApplication db projectId applicationId
  pure (project, application)

def lockActiveApplication : Tx Application := do
  let (project, application) ← lockApplicationOwners db projectId applicationId
  ensure (project.status = .active) .disabled
  ensure (application.status = .active) .disabled
  pure application

structure EndpointScope where
  (projectId applicationId endpointId : Uuid)

variable (scope : EndpointScope)

def lockEndpoint : Tx WebhookEndpoint :=
  require (db.endpoints.find? fun e =>
    e.id = scope.endpointId ∧ e.projectId = scope.projectId
      ∧ e.applicationId = scope.applicationId) .notFound

def lockActiveEndpoint : Tx WebhookEndpoint := do
  let _ ← lockActiveApplication db scope.projectId scope.applicationId
  lockEndpoint db scope

variable (endpointId : Uuid)

variable (generation : Int)

def findSecret? : Option WebhookSecretGeneration :=
  db.secrets.find? fun s => s.endpointId = endpointId ∧ s.generation = generation

/-! ## the material of a secret -/

inductive WebhookSecretPreparationState
  | pending | provisioned | terminal
  deriving DecidableEq

def secretPreparationState (secret : WebhookSecretGeneration) (canProvision : Bool) :
    WebhookSecretPreparationState :=
  if secret.provisionedAt.isSome then .provisioned
  else if canProvision = true ∧ secret.state = .pending then .pending
  else .terminal

def ReservedFor (m : ProtectedMaterial) : Prop :=
  m.ownerKind = .webhookSecret ∧ m.ownerId = endpointId ∧ m.generation = generation
    ∧ m.materialKind = .configurationSecret
  deriving Decidable

def loadProjectReservation (projectId materialId : Uuid) : Tx ProtectedMaterial :=
  require (db.materials.find? fun m => m.id = materialId ∧ m.projectId = some projectId) .notFound

def preparedSecretMaterial (projectId : Uuid) (secret : WebhookSecretGeneration) : Tx Uuid := do
  let m ← loadProjectReservation db projectId secret.materialId
  ensure (ReservedFor secret.endpointId secret.generation m) .integrity
  pure m.id

def newSecretMaterial (generation : Int) (materialId : Uuid)
    (provider : String × Int) : ProtectedMaterial where
  id := materialId
  projectId := some scope.projectId
  ownerKind := .webhookSecret
  ownerId := scope.endpointId
  generation := generation
  materialKind := .configurationSecret
  providerId := provider.1
  providerFormatVersion := provider.2
  opaqueValue := none
  safeFingerprint := none
  state := .pending
  erasedAt := none

def newSecret (idempotencyKey : String) (requestFingerprint : List UInt8) (materialId : Uuid) :
    WebhookSecretGeneration where
  endpointId := endpointId
  generation := generation
  idempotencyKey := idempotencyKey
  requestFingerprint := requestFingerprint
  safeFingerprint := none
  materialId := materialId
  state := .pending
  provisionedAt := none
  activatedAt := none
  retiredAt := none

def insertSecret (secrets : Table WebhookSecretGeneration) (s : WebhookSecretGeneration) :
    Tx (Table WebhookSecretGeneration) :=
  insertRow secrets s fun o =>
    o.materialId ≠ s.materialId
      ∧ ¬ (o.endpointId = s.endpointId
        ∧ (o.idempotencyKey = s.idempotencyKey ∨ o.state = .pending))

def reserveSecret (generation : Int) (idempotencyKey : String) (requestFingerprint : List UInt8)
    (db : Database) : Tx (Database × WebhookSecretGeneration) := do
  let provider ← require env.secretProvider .integrity
  let materials ← reserveMaterial db.materials
    (newSecretMaterial scope generation (env.newUuid 1) provider)
  let secret := newSecret scope.endpointId generation idempotencyKey requestFingerprint
    (env.newUuid 1)
  let secrets ← insertSecret db.secrets secret
  pure ({ db with materials := materials, secrets := secrets }, secret)

/-! ## erasure -/

variable (s : WebhookSecretGeneration)

/-- the cleanup of a secret that is retired now; it waits for `notBefore` if that is not past -/
def newCleanup (now notBefore : Instant) : WebhookSecretCleanup where
  id := env.newUuid s.generation.toNat
  endpointId := s.endpointId
  generation := s.generation
  materialId := s.materialId
  state := .pending
  leaseOwner := none
  leaseIncarnation := none
  leaseGeneration := 0
  leaseExpiresAt := none
  notBefore := if notBefore ≤ now then env.databaseClock else notBefore
  createdAt := env.databaseClock
  erasedAt := none

def CleanupOf (c : WebhookSecretCleanup) : Prop :=
  c.endpointId = s.endpointId ∧ c.generation = s.generation
  deriving Decidable

/-- a generation that is queued already stays queued as it is -/
def enqueueSecretCleanup (now notBefore : Instant) (cleanups : Table WebhookSecretCleanup)
    (s : WebhookSecretGeneration) : Tx (Table WebhookSecretCleanup) :=
  match cleanups.find? (CleanupOf s) with
  | some _ => pure cleanups
  | none => insertRow cleanups (newCleanup env s now notBefore) fun c => c.materialId ≠ s.materialId

def retiredSecret (now : Instant) (s : WebhookSecretGeneration) : WebhookSecretGeneration :=
  { s with state := .retired, retiredAt := some now }

/-- the secret is in use or on its way into use -/
def OpenSecret : Prop :=
  s.endpointId = endpointId ∧ (s.state = .pending ∨ s.state = .active ∨ s.state = .overlap)
  deriving Decidable

variable (endpoint : WebhookEndpoint)

def overlapNotBefore : Tx (Option Instant) :=
  match endpoint.overlapSecretGeneration with
  | none => pure none
  | some _ => do
    let expiry ← require endpoint.overlapExpiresAt .integrity
    pure (some expiry)

/-- a secret that overlaps is kept until the overlap ends, the others may go at once -/
def cleanupNotBefore (expiry : Option Instant) (now : Instant)
    (s : WebhookSecretGeneration) : Instant :=
  if endpoint.overlapSecretGeneration = some s.generation then expiry.getD now else now

def retireSecrets (now : Instant) (db : Database) : Tx Database := do
  let generations := db.secrets.filter (OpenSecret endpoint.id)
  ensure (generations.length ≤ 3) .integrity
  let expiry ← overlapNotBefore endpoint
  let cleanups ← foldOk (fun t s =>
    enqueueSecretCleanup env now (cleanupNotBefore endpoint expiry now s) t s) db.cleanups
    generations
  pure { db with
    secrets := db.secrets.update (OpenSecret endpoint.id) (retiredSecret now) (fun _ => rfl)
    cleanups := cleanups }

/-! ## endpoints -/

structure PrepareWebhookEndpoint where
  (projectId applicationId : Uuid)
  url : String
  subscribedEventTypes : List ApplicationUserEventType
  idempotencyKey : String
  requestFingerprint : List UInt8

structure PreparedWebhookEndpoint where
  endpoint : WebhookEndpoint
  materialId : Uuid
  preparationState : WebhookSecretPreparationState

def newEndpoint (c : PrepareWebhookEndpoint) : WebhookEndpoint where
  id := env.newUuid 0
  projectId := c.projectId
  applicationId := c.applicationId
  idempotencyKey := c.idempotencyKey
  secretRequestFingerprint := c.requestFingerprint
  url := c.url
  subscribedEventTypes := c.subscribedEventTypes
  status := .pending
  revision := 1
  currentSecretGeneration := none
  overlapSecretGeneration := none
  overlapExpiresAt := none
  consecutiveFailureCount := 0
  lastDeliveryAt := none
  lastSuccessAt := none
  lastFailureClass := none
  lastTestedAt := none
  lastTestSucceededAt := none
  disabledAt := none

def EndpointOf (e : WebhookEndpoint) : Prop :=
  e.projectId = projectId ∧ e.applicationId = applicationId
  deriving Decidable

def repeatedEndpoint (projectId : Uuid) (existing : WebhookEndpoint) :
    Tx (Committed PreparedWebhookEndpoint) := do
  let secret ← require (findSecret? db existing.id 1) .integrity
  let materialId ← preparedSecretMaterial db projectId secret
  pure (.done db
    { endpoint := existing
      materialId := materialId
      preparationState := secretPreparationState secret (existing.status = .pending) })

def prepareEndpoint (c : PrepareWebhookEndpoint) (db : Database) :
    Tx (Committed PreparedWebhookEndpoint) := do
  ensure (c.requestFingerprint.length = 32) .invalidInput
  let _ ← lockActiveApplication db c.projectId c.applicationId
  match db.endpoints.find? fun e =>
      EndpointOf c.projectId c.applicationId e ∧ e.idempotencyKey = c.idempotencyKey with
  | some existing => do
    ensure (existing.url = c.url ∧ existing.subscribedEventTypes = c.subscribedEventTypes
      ∧ existing.secretRequestFingerprint = c.requestFingerprint) .idempotencyConflict
    repeatedEndpoint db c.projectId existing
  | none =>
    match db.endpoints.find? fun e =>
        EndpointOf c.projectId c.applicationId e ∧ e.url = c.url ∧ e.status ≠ .disabled with
    | some existing => do
      ensure (existing.status = .pending ∧ existing.subscribedEventTypes = c.subscribedEventTypes
        ∧ existing.secretRequestFingerprint = c.requestFingerprint) .idempotencyConflict
      repeatedEndpoint db c.projectId existing
    | none => do
      let live := db.endpoints.filter fun e =>
        EndpointOf c.projectId c.applicationId e ∧ (e.status = .pending ∨ e.status = .active)
      ensure (live.length < maxWebhookEndpointsPerApplication) .capacityExceeded
      let endpoint := newEndpoint env c
      let endpoints ← insertRow db.endpoints endpoint fun e =>
        ¬ (EndpointOf c.projectId c.applicationId e
          ∧ (e.idempotencyKey = c.idempotencyKey ∨ (e.url = c.url ∧ e.status ≠ .disabled)))
      let (db, secret) ← reserveSecret env ⟨c.projectId, c.applicationId, endpoint.id⟩ 1
        c.idempotencyKey c.requestFingerprint { db with endpoints := endpoints }
      pure (.done db
        { endpoint := endpoint, materialId := secret.materialId, preparationState := .pending })

/-- `expected_revision.checked_add(1)` -/
def checkedNext (revision : Int) : Tx Int := do
  ensure (revision < maxI64) .integrity
  pure (revision + 1)

/-- `expected_revision.saturating_add(1)` -/
def saturatingNext (revision : Int) : Int := if revision < maxI64 then revision + 1 else maxI64

structure ChangeWebhookEndpoint where
  scope : EndpointScope
  expectedRevision : Int
  now : Instant

variable (c : ChangeWebhookEndpoint)

def recordEndpointTestSuccess (db : Database) : Tx (Committed WebhookEndpoint) := do
  let endpoint ← lockActiveEndpoint db c.scope
  ensure (endpoint.status ≠ .disabled) .disabled
  ensure (endpoint.revision = c.expectedRevision) .revisionConflict
  let revision ← checkedNext c.expectedRevision
  let updated : WebhookEndpoint :=
    { endpoint with
      revision := revision
      lastTestedAt := some c.now
      lastTestSucceededAt := some c.now }
  pure (.done { db with endpoints := db.endpoints.set updated } updated)

def activatedSecret (now : Instant) (s : WebhookSecretGeneration) : WebhookSecretGeneration :=
  { s with state := .active, activatedAt := some now }

def activatePreparedEndpoint (db : Database) : Tx (Committed WebhookEndpoint) := do
  let endpoint ← lockActiveEndpoint db c.scope
  if endpoint.status = .active then do
    ensure (endpoint.revision = saturatingNext c.expectedRevision) .revisionConflict
    pure (.done db endpoint)
  else do
    ensure (endpoint.status = .pending) .invalidTransition
    ensure (endpoint.revision = c.expectedRevision) .revisionConflict
    ensure endpoint.lastTestSucceededAt.isSome .invalidTransition
    let secret ← require (findSecret? db c.scope.endpointId 1) .integrity
    ensure (secret.state = .pending ∧ secret.provisionedAt.isSome) .invalidTransition
    let revision ← checkedNext c.expectedRevision
    let updated : WebhookEndpoint :=
      { endpoint with status := .active, currentSecretGeneration := some 1, revision := revision }
    pure (.done
      { db with
        secrets := db.secrets.set (activatedSecret c.now secret)
        endpoints := db.endpoints.set updated } updated)

structure UpdateWebhookEndpoint where
  scope : EndpointScope
  subscribedEventTypes : List ApplicationUserEventType
  expectedRevision : Int

def updateEndpoint (c : UpdateWebhookEndpoint) (db : Database) :
    Tx (Committed WebhookEndpoint) := do
  let endpoint ← lockActiveEndpoint db c.scope
  ensure (endpoint.status ≠ .disabled) .disabled
  ensure (endpoint.revision = c.expectedRevision) .revisionConflict
  let updated : WebhookEndpoint :=
    { endpoint with
      subscribedEventTypes := c.subscribedEventTypes
      revision := c.expectedRevision + 1 }
  pure (.done { db with endpoints := db.endpoints.set updated } updated)

def bareEndpoint (e : WebhookEndpoint) : WebhookEndpoint :=
  { e with
    currentSecretGeneration := none
    overlapSecretGeneration := none
    overlapExpiresAt := none }

def disableEndpoint (db : Database) : Tx (Committed WebhookEndpoint) := do
  let _ ← lockActiveApplication db c.scope.projectId c.scope.applicationId
  let endpoint ← lockEndpoint db c.scope
  ensure (endpoint.status = .pending ∨ endpoint.status = .active) .invalidTransition
  ensure (endpoint.revision = c.expectedRevision) .revisionConflict
  let db' ← retireSecrets env endpoint c.now db
  let updated : WebhookEndpoint :=
    { bareEndpoint endpoint with
      status := .disabled
      revision := c.expectedRevision + 1
      disabledAt := some c.now }
  pure (.done { db' with endpoints := db'.endpoints.set updated } updated)

/-- a maintenance call on the endpoint its hint named -/
structure MaintainWebhookEndpoint where
  scope : EndpointScope
  now : Instant

/-- an endpoint whose application or project has ended is disabled with all its secrets -/
def retireOneDisabledOwnerEndpoint (c : MaintainWebhookEndpoint) (db : Database) :
    Tx (Committed Bool) := do
  let (project, application) ← lockApplicationOwners db c.scope.projectId c.scope.applicationId
  let endpoint ← lockEndpoint db c.scope
  if endpoint.status ≠ .disabled ∧ project.status = .active ∧ application.status = .active then
    pure (.done db false)
  else do
    let db' ← retireSecrets env endpoint c.now db
    ensure (endpoint.status = .disabled ∨ endpoint.revision < maxI64) .integrity
    let bare := bareEndpoint endpoint
    let updated : WebhookEndpoint :=
      if endpoint.status = .disabled then bare
      else
        { bare with
          status := .disabled
          revision := endpoint.revision + 1
          disabledAt := some c.now }
    pure (.done { db' with endpoints := db'.endpoints.set updated } true)

/-! ## rotation -/

structure PrepareWebhookRotation where
  scope : EndpointScope
  idempotencyKey : String
  requestFingerprint : List UInt8
  expectedRevision : Int
  now : Instant

structure PreparedWebhookSecret where
  endpoint : WebhookEndpoint
  generation : Int
  materialId : Uuid
  preparationState : WebhookSecretPreparationState
  alreadyActive : Bool

def repeatedRotation (projectId : Uuid) (endpoint : WebhookEndpoint)
    (existing : WebhookSecretGeneration) : Tx (Committed PreparedWebhookSecret) := do
  let materialId ← preparedSecretMaterial db projectId existing
  pure (.done db
    { endpoint := endpoint
      generation := existing.generation
      materialId := materialId
      preparationState := secretPreparationState existing true
      alreadyActive := existing.activatedAt.isSome })

def lastGeneration : Int :=
  ((db.secrets.filter fun s => s.endpointId = endpointId).map
    WebhookSecretGeneration.generation).foldl max 0

def rotateSecret (c : PrepareWebhookRotation) (endpoint : WebhookEndpoint) (db : Database) :
    Tx (Committed PreparedWebhookSecret) := do
  let (db, secret) ← reserveSecret env c.scope (lastGeneration db c.scope.endpointId + 1)
    c.idempotencyKey c.requestFingerprint db
  pure (.done db
    { endpoint := endpoint
      generation := secret.generation
      materialId := secret.materialId
      preparationState := .pending
      alreadyActive := false })

def prepareSecretRotation (c : PrepareWebhookRotation) (db : Database) :
    Tx (Committed PreparedWebhookSecret) := do
  ensure (c.requestFingerprint.length = 32) .invalidInput
  let endpoint ← lockActiveEndpoint db c.scope
  ensure (endpoint.status = .active) .disabled
  match db.secrets.find? fun s =>
      s.endpointId = c.scope.endpointId ∧ s.idempotencyKey = c.idempotencyKey with
  | some existing => do
    ensure (existing.requestFingerprint = c.requestFingerprint) .idempotencyConflict
    repeatedRotation db c.scope.projectId endpoint existing
  | none => do
    ensure (endpoint.revision = c.expectedRevision) .revisionConflict
    match db.secrets.find? fun s => s.endpointId = c.scope.endpointId ∧ s.state = .pending with
    | none => rotateSecret env c endpoint db
    | some pending =>
      if pending.requestFingerprint = c.requestFingerprint then
        repeatedRotation db c.scope.projectId endpoint pending
      else do
        -- another preparation was under way: it is given up
        let cleanups ← enqueueSecretCleanup env c.now c.now db.cleanups pending
        rotateSecret env c endpoint
          { db with secrets := db.secrets.set (retiredSecret c.now pending), cleanups := cleanups }

structure SealedProtectedMaterial where
  materialId : Uuid
  providerId : String
  providerFormatVersion : Int
  (envelope requestFingerprint : List UInt8)
  /-- the fingerprint as the material row stores it -/
  safeFingerprint : Digest

structure FinalizeProtectedSecret where
  scope : EndpointScope
  (generation expectedEndpointRevision : Int)
  requestFingerprint : List UInt8
  material : SealedProtectedMaterial
  now : Instant

/-- the safe fingerprint of a secret is written once, while the secret is pending -/
def SafeFingerprintKept (secret : WebhookSecretGeneration) (value : String) : Prop :=
  secret.safeFingerprint = some value ∨ (secret.safeFingerprint = none ∧ secret.state = .pending)
  deriving Decidable

def finalizeProtectedSecret (c : FinalizeProtectedSecret) (db : Database) :
    Tx (Committed Unit) := do
  ensure (1 ≤ c.generation ∧ c.requestFingerprint.length = 32) .invalidInput
  ensure (c.material.requestFingerprint.length = 32) .integrity
  let endpoint ← lockActiveEndpoint db c.scope
  ensure (endpoint.revision = c.expectedEndpointRevision) .revisionConflict
  let secret ← require (findSecret? db c.scope.endpointId c.generation) .notFound
  ensure (secret.materialId = c.material.materialId
    ∧ secret.requestFingerprint = c.requestFingerprint) .invalidTransition
  let reservation ← loadProjectReservation db c.scope.projectId c.material.materialId
  ensure (ReservedFor c.scope.endpointId c.generation reservation
    ∧ reservation.providerId = c.material.providerId
    ∧ reservation.providerFormatVersion = c.material.providerFormatVersion) .integrity
  let materials ← finalizePendingMaterial db.materials c.material.materialId
    (some c.scope.projectId) c.material.envelope (some c.material.safeFingerprint)
  if secret.state = .retired ∨ secret.state = .compromised then
    pure (.done { db with materials := materials } ())
  else do
    let safe := env.base64Url (c.material.requestFingerprint.take 16)
    ensure (SafeFingerprintKept secret safe) .persistence
    let updated : WebhookSecretGeneration :=
      { secret with
        safeFingerprint := some safe
        provisionedAt := some (secret.provisionedAt.getD c.now) }
    pure (.done { db with materials := materials, secrets := db.secrets.set updated } ())

structure ActivateSecretRotation where
  scope : EndpointScope
  (generation expectedRevision overlapSeconds : Int)

/-- the overlap before the last rotation must have ended; its secret goes -/
def retirePreviousOverlap (db : Database) : Tx Database :=
  match endpoint.overlapSecretGeneration with
  | none => pure db
  | some previous => do
    let expiry ← require endpoint.overlapExpiresAt .integrity
    ensure (expiry ≤ env.databaseClock) .invalidTransition
    let overlap ← require (findSecret? db endpoint.id previous) .integrity
    let cleanups ← enqueueSecretCleanup env env.databaseClock expiry db.cleanups overlap
    pure { db with
      secrets := db.secrets.set (retiredSecret env.databaseClock overlap)
      cleanups := cleanups }

def activateSecretRotation (c : ActivateSecretRotation) (db : Database) :
    Tx (Committed WebhookEndpoint) := do
  ensure (300 ≤ c.overlapSeconds ∧ c.overlapSeconds ≤ 86400) .invalidInput
  let endpoint ← lockActiveEndpoint db c.scope
  ensure (endpoint.status = .active) .disabled
  let currentGeneration ← require endpoint.currentSecretGeneration .integrity
  if c.generation = currentGeneration then do
    ensure (endpoint.revision = saturatingNext c.expectedRevision) .revisionConflict
    pure (.done db endpoint)
  else do
    ensure (endpoint.revision = c.expectedRevision) .revisionConflict
    let pending ← require (findSecret? db c.scope.endpointId c.generation) .notFound
    ensure (pending.state = .pending ∧ pending.provisionedAt.isSome) .invalidTransition
    let current ← require (findSecret? db c.scope.endpointId currentGeneration) .integrity
    ensure (current.state = .active) .integrity
    let db' ← retirePreviousOverlap env endpoint db
    let overlapping : WebhookSecretGeneration := { current with state := .overlap }
    let updated : WebhookEndpoint :=
      { endpoint with
        currentSecretGeneration := some c.generation
        overlapSecretGeneration := some currentGeneration
        overlapExpiresAt := some (env.databaseClock + seconds c.overlapSeconds)
        revision := c.expectedRevision + 1 }
    pure (.done
      { db' with
        secrets := (db'.secrets.set overlapping).set (activatedSecret env.databaseClock pending)
        endpoints := db'.endpoints.set updated } updated)

def OverlapExpired (now : Instant) : Prop :=
  ∃ expiry ∈ endpoint.overlapExpiresAt, expiry ≤ now
  deriving Decidable

def retireOverlap (secrets : Table WebhookSecretGeneration) (secret : WebhookSecretGeneration)
    (now : Instant) : Tx (Table WebhookSecretGeneration) :=
  if secret.state = .overlap then pure (secrets.set (retiredSecret now secret))
  else do
    ensure (secret.state = .retired) .integrity
    pure secrets

def retireOneExpiredOverlap (c : MaintainWebhookEndpoint) (db : Database) :
    Tx (Committed Bool) := do
  let _ ← lockApplicationOwners db c.scope.projectId c.scope.applicationId
  let endpoint ← lockEndpoint db c.scope
  if endpoint.status ≠ .active ∨ ¬ OverlapExpired endpoint env.databaseClock then
    pure (.done db false)
  else do
    let generation ← require endpoint.overlapSecretGeneration .integrity
    let secret ← require (findSecret? db endpoint.id generation) .integrity
    let secrets ← retireOverlap db.secrets secret c.now
    let expiry ← require endpoint.overlapExpiresAt .integrity
    let updated : WebhookEndpoint :=
      { endpoint with overlapSecretGeneration := none, overlapExpiresAt := none }
    let cleanups ← enqueueSecretCleanup env c.now expiry db.cleanups secret
    pure (.done
      { db with
        secrets := secrets
        endpoints := db.endpoints.set updated
        cleanups := cleanups } true)

/-! ## claiming and finishing an erasure -/

structure ClaimSecretCleanup where
  workerId : String
  workerIncarnation : Uuid
  leaseSeconds : Int

structure ClaimedWebhookSecretCleanup where
  (id materialId : Uuid)
  leaseOwner : String
  leaseIncarnation : Uuid
  leaseGeneration : Int

def CleanupFree (c : WebhookSecretCleanup) (now : Instant) : Prop :=
  c.state = .pending ∨ (c.state = .leased ∧ ∃ expiry ∈ c.leaseExpiresAt, expiry ≤ now)
  deriving Decidable

/-- a leased delivery signs with the generation -/
def ClaimsGeneration (d : WebhookDelivery) : Prop :=
  d.endpointId = endpointId ∧ d.state = .leased
    ∧ (d.claimedSecretGeneration = some generation ∨ d.claimedOverlapGeneration = some generation)
  deriving Decidable

def SignsWith (e : WebhookEndpoint) : Prop :=
  e.id = endpointId
    ∧ (e.currentSecretGeneration = some generation ∨ e.overlapSecretGeneration = some generation)
  deriving Decidable

def RetiredSecretOf (c : WebhookSecretCleanup) (s : WebhookSecretGeneration) : Prop :=
  s.endpointId = c.endpointId ∧ s.generation = c.generation ∧ s.materialId = c.materialId
    ∧ (s.state = .retired ∨ s.state = .compromised)
  deriving Decidable

/-- the cleanup is due and nothing needs its secret -/
def CleanupDue (now : Instant) (c : WebhookSecretCleanup) : Prop :=
  c.notBefore ≤ now ∧ CleanupFree c now
    ∧ (∃ s ∈ db.secrets.rows, RetiredSecretOf c s)
    ∧ (∀ e ∈ db.endpoints.rows, ¬ SignsWith c.endpointId c.generation e)
    ∧ ∀ d ∈ db.deliveries.rows, ¬ ClaimsGeneration c.endpointId c.generation d
  deriving Decidable

/-- `ORDER BY created_at, id` -/
def queuedBefore (a b : WebhookSecretCleanup) : Bool :=
  decide (a.createdAt < b.createdAt ∨ (a.createdAt = b.createdAt ∧ a.id < b.id))

def leasedCleanup (c : ClaimSecretCleanup) (cleanup : WebhookSecretCleanup) :
    WebhookSecretCleanup :=
  { cleanup with
    state := .leased
    leaseOwner := some c.workerId
    leaseIncarnation := some c.workerIncarnation
    leaseGeneration := cleanup.leaseGeneration + 1
    leaseExpiresAt := some (env.databaseClock + seconds c.leaseSeconds) }

def claimSecretCleanup (c : ClaimSecretCleanup) (db : Database) :
    Tx (Committed (Option ClaimedWebhookSecretCleanup)) := do
  ensure (c.workerId ≠ "" ∧ 1 ≤ c.leaseSeconds) .invalidInput
  match db.cleanups.first? (CleanupDue db env.databaseClock) queuedBefore with
  | none => pure (.done db none)
  | some cleanup =>
    let leased := leasedCleanup env c cleanup
    pure (.done { db with cleanups := db.cleanups.set leased }
      (some
        { id := cleanup.id
          materialId := cleanup.materialId
          leaseOwner := c.workerId
          leaseIncarnation := c.workerIncarnation
          leaseGeneration := leased.leaseGeneration }))

structure FinishSecretCleanup where
  claim : ClaimedWebhookSecretCleanup
  now : Instant

/-- the cleanup is leased to the holder of the claim, and the lease has not run out -/
def CleanupHeld (claim : ClaimedWebhookSecretCleanup) (now : Instant) (c : WebhookSecretCleanup) :
    Prop :=
  c.id = claim.id ∧ c.materialId = claim.materialId ∧ c.state = .leased
    ∧ c.leaseOwner = some claim.leaseOwner ∧ c.leaseIncarnation = some claim.leaseIncarnation
    ∧ c.leaseGeneration = claim.leaseGeneration ∧ ∃ expiry ∈ c.leaseExpiresAt, now < expiry
  deriving Decidable

def erasedCleanup (now : Instant) (c : WebhookSecretCleanup) : WebhookSecretCleanup :=
  { c with
    state := .erased
    leaseOwner := none
    leaseIncarnation := none
    leaseExpiresAt := none
    erasedAt := some now }

def finishSecretCleanup (c : FinishSecretCleanup) (db : Database) : Tx (Committed Unit) := do
  let cleanup ← require (db.cleanups.find? (CleanupHeld c.claim env.databaseClock))
    .revisionConflict
  let materials ← eraseById db.materials c.claim.materialId c.now
  let _ ← require (db.endpoints.find? fun e => e.id = cleanup.endpointId) .integrity
  pure (.done
    { db with
      cleanups := db.cleanups.set (erasedCleanup c.now cleanup)
      materials := materials } ())

end OwlAuth
