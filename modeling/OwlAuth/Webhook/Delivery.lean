import OwlAuth.Webhook.Endpoints
import OwlAuth.Session.AccessToken

/-!
# Webhook deliveries

A delivery is pending until a worker leases it; the lease ends with the outcome the worker reports,
or runs out and is recovered.  Every attempt is recorded once.

* `replayDelivery`  a new delivery of an event that was delivered before;
* `claimOne`  the lease of the delivery that is due first;
* `finish`  the outcome of an attempt;
* `recoverOneExpiredDelivery`  the outcome of an attempt that was never reported;
* `maintain`  what may never be delivered is cancelled, what was kept long enough is deleted.

`claim_one` and `maintain` run recovery and retirement as transactions of their own before their own
transaction; here these are calls of their own.
-/

namespace OwlAuth

open Fallible

def maxWebhookDeliveryAttempts : Int := 12

inductive WebhookDeliveryOutcome
  | accepted | transient | ambiguous | permanent
  deriving DecidableEq

namespace WebhookDeliveryOutcome

def asStr : WebhookDeliveryOutcome → String
  | accepted => "accepted"
  | transient => "transient"
  | ambiguous => "ambiguous"
  | permanent => "permanent"

def retryable : WebhookDeliveryOutcome → Bool
  | transient => true
  | ambiguous => true
  | _ => false

end WebhookDeliveryOutcome

/-! ## replay -/

structure ReplayDelivery where
  (projectId applicationId deliveryId : Uuid)
  now : Instant

variable (env : Environment) (db : Database)

def replayOf (original : WebhookDelivery) (replaySequence : Int) (now : Instant) :
    WebhookDelivery :=
  newDelivery (env.newUuid 0) original.projectId original.applicationId original.endpointId
    original.eventId replaySequence (some original.id) now

def replayedLater (a b : WebhookDelivery) : Bool := decide (b.replaySequence < a.replaySequence)

def replayDelivery (c : ReplayDelivery) (db : Database) : Tx (Committed WebhookDelivery) := do
  let original ← require (db.deliveries.find? fun d => d.id = c.deliveryId) .notFound
  ensure (original.projectId = c.projectId ∧ original.applicationId = c.applicationId) .notFound
  let _ ← lockActiveApplication db c.projectId c.applicationId
  let endpoint ← lockEndpoint db ⟨c.projectId, c.applicationId, original.endpointId⟩
  ensure (endpoint.status = .active) .disabled
  let _ ← require
    (db.events.find? fun e =>
      e.projectId = c.projectId ∧ e.applicationId = c.applicationId ∧ e.id = original.eventId
        ∧ env.databaseClock < e.replayUntil) .invalidTransition
  let latest ← require
    (db.deliveries.first?
      (fun d => d.eventId = original.eventId ∧ d.endpointId = original.endpointId) replayedLater)
    .integrity
  ensure (latest.replaySequence < maxI32) .integrity
  let replay := replayOf env original (latest.replaySequence + 1) c.now
  let deliveries ← insertDelivery db.deliveries replay
  pure (.done
    { db with
      deliveries := deliveries
      dispatchStates := ensureDispatchState db.dispatchStates c.projectId c.applicationId } replay)

/-! ## claim -/

def eventRawBody (event : ApplicationUserEvent) : Tx EventBody := do
  let email ←
    match event.verifiedEmailSourceIdentityId, event.verifiedEmailCiphertext,
        event.verifiedEmailKeyVersion with
    | none, none, none => pure event.safeBody.projection.verifiedEmail
    | some _, some ciphertext, some keyVersion => do
      ensure (0 < keyVersion) .integrity
      let plaintext ← env.unprotectProjectionEmail event.projectId event.applicationId
        event.userId event.projectionRevision ⟨ciphertext, keyVersion⟩
      pure (some plaintext)
    | _, _, _ => .error .integrity
  let body : EventBody :=
    { event.safeBody with
      projection := { event.safeBody.projection with verifiedEmail := email } }
  ensure (event.canonicalBodyDigest = env.bodyDigest body) .integrity
  pure body

def OwnersActive (d : WebhookDelivery) : Prop :=
  (∃ e ∈ db.endpoints.rows, e.id = d.endpointId ∧ e.status = .active)
    ∧ (∃ a ∈ db.applications.rows,
        a.id = d.applicationId ∧ a.projectId = d.projectId ∧ a.status = .active)
    ∧ ∃ p ∈ db.projects.rows, p.id = d.projectId ∧ p.status = .active
  deriving Decidable

def EndpointFree (endpointId : Uuid) : Prop :=
  ∀ d ∈ db.deliveries.rows, d.endpointId = endpointId → d.state ≠ .leased
  deriving Decidable

variable (now : Instant)

def DeliveryDue (d : WebhookDelivery) : Prop :=
  d.state = .pending ∧ d.nextAttemptAt ≤ now ∧ OwnersActive db d ∧ EndpointFree db d.endpointId
  deriving Decidable

/-- `ORDER BY next_attempt_at, created_at, id` -/
def dueBefore (a b : WebhookDelivery) : Bool :=
  decide (a.nextAttemptAt < b.nextAttemptAt
    ∨ (a.nextAttemptAt = b.nextAttemptAt
      ∧ (a.createdAt < b.createdAt ∨ (a.createdAt = b.createdAt ∧ a.id < b.id))))

/-- the candidate is read first, the claim then asks for exactly that one; the choice among the
applications is open -/
structure ClaimOne where
  candidateId : Uuid
  workerId : String
  workerIncarnation : Uuid
  leaseSeconds : Int
  now : Instant

structure ClaimedWebhookDelivery where
  deliveryId : Uuid
  leaseOwner : String
  leaseIncarnation : Uuid
  leaseGeneration : Int
  eventId : Uuid
  endpointUrl : String
  rawBody : EventBody
  primarySecretMaterialId : Uuid
  overlapSecretMaterialId : Option Uuid
  attemptNumber : Int

def liveOverlap (endpoint : WebhookEndpoint) (now : Instant) : Option Int :=
  if ∃ expiry ∈ endpoint.overlapExpiresAt, now < expiry then endpoint.overlapSecretGeneration
  else none

def secretMaterial (endpointId : Uuid) (generation : Option Int) : Option Uuid :=
  generation.bind fun g => (findSecret? db endpointId g).map WebhookSecretGeneration.materialId

variable (c : ClaimOne)

def leasedDelivery (db : Database) (endpoint : WebhookEndpoint)
    (d : WebhookDelivery) : WebhookDelivery :=
  { d with
    state := .leased
    attemptCount := d.attemptCount + 1
    leaseOwner := some c.workerId
    leaseIncarnation := some c.workerIncarnation
    leaseGeneration := d.leaseGeneration + 1
    leaseExpiresAt := some (env.databaseClock + seconds c.leaseSeconds)
    claimedSecretGeneration := endpoint.currentSecretGeneration
    claimedOverlapGeneration := liveOverlap endpoint env.databaseClock
    claimedSecretMaterialId := secretMaterial db endpoint.id endpoint.currentSecretGeneration
    claimedOverlapMaterialId :=
      secretMaterial db endpoint.id (liveOverlap endpoint env.databaseClock)
    updatedAt := env.databaseClock }

/-- the `CHECK` on a leased delivery: it names the materials of its generations -/
def LeaseComplete (d : WebhookDelivery) : Prop :=
  d.claimedSecretGeneration.isSome ∧ d.claimedSecretMaterialId.isSome
    ∧ d.claimedOverlapGeneration.isSome = d.claimedOverlapMaterialId.isSome
  deriving Decidable

/-- the turns after this one was taken -/
def taken (turn : DispatchState) : Table DispatchState :=
  db.dispatchStates.set { turn with lastClaimSequence := env.claimSequence }

def leaseDelivery (db : Database) (endpoint : WebhookEndpoint) (d : WebhookDelivery)
    (turn : DispatchState) : Tx (Committed (Option ClaimedWebhookDelivery)) := do
  let event ← require (db.events.find? fun e => e.id = d.eventId) .integrity
  let leased := leasedDelivery env c db endpoint d
  ensure (LeaseComplete leased) .persistence
  let primary ← require leased.claimedSecretMaterialId .persistence
  let rawBody ← eventRawBody env event
  pure (.done
    { db with deliveries := db.deliveries.set leased, dispatchStates := taken env db turn }
    (some
      { deliveryId := d.id
        leaseOwner := c.workerId
        leaseIncarnation := c.workerIncarnation
        leaseGeneration := leased.leaseGeneration
        eventId := event.id
        endpointUrl := endpoint.url
        rawBody := rawBody
        primarySecretMaterialId := primary
        overlapSecretMaterialId := leased.claimedOverlapMaterialId
        attemptNumber := leased.attemptCount }))

/-- the candidate is still the first that is due in its application -/
def StillFirst (d : WebhookDelivery) : Prop :=
  (db.deliveries.first? (fun o => o.applicationId = d.applicationId ∧ DeliveryDue db c.now o)
      dueBefore).map WebhookDelivery.id = some d.id
  deriving Decidable

def EventRetained (time : Instant) (d : WebhookDelivery) : Prop :=
  ∃ e ∈ db.events.rows, e.id = d.eventId ∧ time < e.retainUntil
  deriving Decidable

def StillChosen (d : WebhookDelivery) : Prop :=
  StillFirst db c d ∧ EventRetained db env.databaseClock d
  deriving Decidable

/-- the turn is taken whether or not the event of the candidate is still there -/
def claimOne (db : Database) : Tx (Committed (Option ClaimedWebhookDelivery)) := do
  ensure (1 ≤ c.leaseSeconds) .invalidInput
  match db.deliveries.find? fun d => d.id = c.candidateId with
  | none => pure (.done db none)
  | some d => do
    let _ ← lockActiveApplication db d.projectId d.applicationId
    let endpoint ← lockEndpoint db ⟨d.projectId, d.applicationId, d.endpointId⟩
    ensure (endpoint.status = .active) .disabled
    match db.dispatchStates.find? fun s =>
        s.projectId = d.projectId ∧ s.applicationId = d.applicationId with
    | none => pure (.done db none)
    | some turn =>
      if StillChosen env db c d then leaseDelivery env c db endpoint d turn
      else if StillFirst db c d then pure (.done { db with dispatchStates := taken env db turn } none)
      else pure (.done db none)

/-! ## the end of an attempt -/

structure WebhookTransportOutcome where
  outcome : WebhookDeliveryOutcome
  httpStatus : Option Int
  durationMillis : Int

structure FinishDelivery where
  claim : ClaimedWebhookDelivery
  attemptTimestamp : Int
  outcome : WebhookTransportOutcome
  nextAttemptAt : Option Instant
  now : Instant
  correlationId : Uuid

def releasedDelivery (d : WebhookDelivery) (state : DeliveryState) (nextAttemptAt : Instant)
    (outcomeClass : String) (httpStatus : Option Int) (now : Instant) : WebhookDelivery :=
  { d with
    state := state
    nextAttemptAt := nextAttemptAt
    leaseOwner := none
    leaseIncarnation := none
    leaseExpiresAt := none
    claimedSecretGeneration := none
    claimedOverlapGeneration := none
    claimedSecretMaterialId := none
    claimedOverlapMaterialId := none
    lastOutcomeClass := some outcomeClass
    lastHttpStatus := httpStatus
    updatedAt := now
    deliveredAt := if state = .delivered then some now else none
    terminalAt := if state = .terminal ∨ state = .cancelled then some now else none }

def finishedState (ownersActive : Bool) (d : WebhookDelivery) (outcome : WebhookDeliveryOutcome)
    (nextAttemptAt : Option Instant) : DeliveryState :=
  if outcome = .accepted then .delivered
  else if ownersActive = true ∧ outcome.retryable = true
      ∧ d.attemptCount < maxWebhookDeliveryAttempts ∧ nextAttemptAt.isSome then .pending
  else if outcome.retryable = true ∧ ownersActive = false then .cancelled
  else .terminal

/-- `checked_add(1).unwrap_or(i32::MAX)` -/
def failureCountAfter (count : Int) : Int := if count < maxI32 then count + 1 else maxI32

def endpointAfter (endpoint : WebhookEndpoint) (state : DeliveryState) (outcomeClass : String)
    (now : Instant) : WebhookEndpoint :=
  if state = .delivered then
    { endpoint with
      lastDeliveryAt := some now
      lastSuccessAt := some now
      consecutiveFailureCount := 0
      lastFailureClass := none }
  else
    { endpoint with
      lastDeliveryAt := some now
      consecutiveFailureCount := failureCountAfter endpoint.consecutiveFailureCount
      lastFailureClass := some outcomeClass }

def ClaimCurrent (claim : ClaimedWebhookDelivery) (d : WebhookDelivery) : Prop :=
  d.state = .leased ∧ d.leaseOwner = some claim.leaseOwner
    ∧ d.leaseIncarnation = some claim.leaseIncarnation
    ∧ d.leaseGeneration = claim.leaseGeneration ∧ d.attemptCount = claim.attemptNumber
  deriving Decidable

def insertAttempt (attempts : Table WebhookDeliveryAttempt) (a : WebhookDeliveryAttempt) :
    Tx (Table WebhookDeliveryAttempt) :=
  insertRow attempts a fun _ => True

def finish (c : FinishDelivery) (db : Database) : Tx (Committed Unit) := do
  let d ← require (db.deliveries.find? fun d => d.id = c.claim.deliveryId) .notFound
  let (project, application) ← lockApplicationOwners db d.projectId d.applicationId
  let endpoint ← lockEndpoint db ⟨d.projectId, d.applicationId, d.endpointId⟩
  ensure (ClaimCurrent c.claim d) .revisionConflict
  let attempts ← insertAttempt db.attempts
    { deliveryId := d.id
      attemptNumber := d.attemptCount
      leaseGeneration := d.leaseGeneration
      attemptedAt := c.now
      attemptTimestamp := c.attemptTimestamp
      outcomeClass := c.outcome.outcome.asStr
      httpStatus := c.outcome.httpStatus
      durationMillis := min c.outcome.durationMillis maxI32
      correlationId := c.correlationId }
  let ownersActive :=
    decide (project.status = .active ∧ application.status = .active ∧ endpoint.status = .active)
  let state := finishedState ownersActive d c.outcome.outcome c.nextAttemptAt
  pure (.done
    { db with
      attempts := attempts
      deliveries := db.deliveries.set
        (releasedDelivery d state (c.nextAttemptAt.getD c.now) c.outcome.outcome.asStr
          c.outcome.httpStatus c.now)
      endpoints := db.endpoints.set
        (endpointAfter endpoint state c.outcome.outcome.asStr c.now) } ())

/-! ## recovery -/

structure RecoverDelivery where
  scope : EndpointScope
  (deliveryId correlationId : Uuid)
  now : Instant

def recoveredState (ownersActive : Bool) (d : WebhookDelivery) : DeliveryState :=
  if ownersActive = false then .cancelled
  else if maxWebhookDeliveryAttempts ≤ d.attemptCount then .terminal
  else .pending

def LeaseExpired (d : WebhookDelivery) (now : Instant) : Prop :=
  d.state = .leased ∧ ∃ expiry ∈ d.leaseExpiresAt, expiry ≤ now
  deriving Decidable

def recoverOneExpiredDelivery (c : RecoverDelivery) (db : Database) : Tx (Committed Unit) := do
  let (project, application) ← lockApplicationOwners db c.scope.projectId c.scope.applicationId
  let endpoint ← lockEndpoint db c.scope
  let d ← require (db.deliveries.find? fun d => d.id = c.deliveryId) .integrity
  ensure (d.projectId = c.scope.projectId ∧ d.applicationId = c.scope.applicationId
    ∧ d.endpointId = endpoint.id) .integrity
  if ¬ LeaseExpired d env.databaseClock then pure (.done db ())
  else do
    let attempts ← insertAttempt db.attempts
      { deliveryId := d.id
        attemptNumber := d.attemptCount
        leaseGeneration := d.leaseGeneration
        attemptedAt := c.now
        attemptTimestamp := max (unixTimestamp d.updatedAt) 1
        outcomeClass := WebhookDeliveryOutcome.ambiguous.asStr
        httpStatus := none
        durationMillis := 0
        correlationId := c.correlationId }
    let ownersActive :=
      decide (project.status = .active ∧ application.status = .active ∧ endpoint.status = .active)
    let state := recoveredState ownersActive d
    pure (.done
      { db with
        attempts := attempts
        deliveries := db.deliveries.set
          (releasedDelivery d state (min d.nextAttemptAt c.now)
            WebhookDeliveryOutcome.ambiguous.asStr none c.now)
        endpoints := db.endpoints.set
          { endpoint with
            lastDeliveryAt := some c.now
            lastFailureClass := some WebhookDeliveryOutcome.ambiguous.asStr
            consecutiveFailureCount := failureCountAfter endpoint.consecutiveFailureCount } } ())

/-! ## maintenance -/

def DeliveryState.settled : DeliveryState → Bool
  | .delivered => true
  | .terminal => true
  | .cancelled => true
  | _ => false

def cancelledDelivery (d : WebhookDelivery) : WebhookDelivery :=
  { d with state := .cancelled, terminalAt := some now, updatedAt := now }

/-- the event of a delivery has been kept as long as it must -/
def EventOver (events : Table ApplicationUserEvent) (now : Instant) (eventId : Uuid) : Prop :=
  ∃ e ∈ events.rows, e.id = eventId ∧ e.retainUntil ≤ now
  deriving Decidable

/-- a pending delivery nobody waits for -/
def Undeliverable (d : WebhookDelivery) : Prop :=
  d.state = .pending
    ∧ (∃ e ∈ db.endpoints.rows, e.id = d.endpointId
        ∧ (e.status = .disabled ∨ EventOver db.events now d.eventId))
    ∧ ∃ e ∈ db.events.rows, e.id = d.eventId
  deriving Decidable

def AttemptOver (a : WebhookDeliveryAttempt) : Prop :=
  ∃ d ∈ db.deliveries.rows,
    d.id = a.deliveryId ∧ d.state.settled = true ∧ EventOver db.events now d.eventId
  deriving Decidable

def DeliveryOver (d : WebhookDelivery) : Prop :=
  d.state.settled = true ∧ EventOver db.events now d.eventId
    ∧ (∀ a ∈ db.attempts.rows, a.deliveryId ≠ d.id)
    ∧ ∀ r ∈ db.deliveries.rows, r.replayOfDeliveryId ≠ some d.id
  deriving Decidable

def EventDisposable (e : ApplicationUserEvent) : Prop :=
  e.retainUntil ≤ now ∧ ∀ d ∈ db.deliveries.rows, d.eventId ≠ e.id
  deriving Decidable

/-- the rows a bounded statement picked; its order and its limit are open -/
structure MaintainWebhooks where
  cancelled : List Uuid
  deletedAttempts : List (Uuid × Int)
  (deletedDeliveries deletedEvents : List Uuid)

instance : LawfulBEq (Uuid × Int) := inferInstance

/-- the four statements of the maintenance transaction, one after the other -/
def maintain (c : MaintainWebhooks) (db : Database) : Database :=
  let now := env.databaseClock
  let db₁ := { db with
    deliveries := db.deliveries.update (fun d => d.id ∈ c.cancelled ∧ Undeliverable db now d)
      (cancelledDelivery now) (fun _ => rfl) }
  let db₂ := { db₁ with
    attempts := db₁.attempts.delete fun a =>
      (a.deliveryId, a.attemptNumber) ∈ c.deletedAttempts ∧ AttemptOver db₁ now a }
  let db₃ := { db₂ with
    deliveries := db₂.deliveries.delete fun d =>
      d.id ∈ c.deletedDeliveries ∧ DeliveryOver db₂ now d }
  { db₃ with
    events := db₃.events.delete fun e => e.id ∈ c.deletedEvents ∧ EventDisposable db₃ now e }

end OwlAuth
