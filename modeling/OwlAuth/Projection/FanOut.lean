import OwlAuth.Projection.Material

/-!
# Projection events and the fan-out of a user change

* `appendProjectionEvent`  one event for a projection revision, and one pending delivery for each
    active endpoint that subscribes to its type;
* `fanOutUser`  every projection of a user repaired, with an event for each one whose
    public view changed.

Both touch the projections, the events, the deliveries and the dispatch states, and nothing else
(`appendProjectionEvent_frame`, `fanOutUser_frame`).
-/

namespace OwlAuth

open Fallible

def maxWebhookEndpointsPerApplication : Nat := 8
def maxApplicationBindingsPerUser : Nat := 64

/-! ## events -/

variable (env : Environment) (db : Database)

variable (projectPublicId applicationPublicId : String)

def eventBody (bindingId : Uuid)
    (projection : ApplicationUserProjection) (wire : ProjectionDocument)
    (eventType : ApplicationUserEventType) : EventBody :=
  { eventId := env.eventId bindingId projection.projectionRevision
    eventType := eventType
    projectId := projectPublicId
    applicationId := applicationPublicId
    userId := wire.userId
    userRevision := projection.sourceUserRevision
    projectionRevision := projection.projectionRevision
    occurredAt := env.databaseClock
    projection := wire }

def projectionEvent (bindingId : Uuid)
    (projection : ApplicationUserProjection) (wire : ProjectionDocument)
    (eventType : ApplicationUserEventType) : ApplicationUserEvent :=
  let body := eventBody env projectPublicId applicationPublicId bindingId projection wire eventType
  { id := env.eventId bindingId projection.projectionRevision
    projectId := projection.projectId
    applicationId := projection.applicationId
    bindingId := bindingId
    userId := projection.userId
    eventType := eventType
    userRevision := projection.sourceUserRevision
    projectionRevision := projection.projectionRevision
    safeBody := { body with projection := safeProjectionDocument body.projection }
    canonicalBodyDigest := env.bodyDigest body
    verifiedEmailSourceIdentityId := projection.verifiedEmailSourceIdentityId
    verifiedEmailCiphertext := projection.verifiedEmailCiphertext
    verifiedEmailKeyVersion := projection.verifiedEmailKeyVersion
    occurredAt := env.databaseClock
    replayUntil := env.databaseClock + days 29
    retainUntil := env.databaseClock + days 30 }

/-- a delivery before its first attempt -/
def newDelivery (id projectId applicationId endpointId eventId : Uuid) (replaySequence : Int)
    (replayOfDeliveryId : Option Uuid) (now : Instant) : WebhookDelivery where
  id := id
  projectId := projectId
  applicationId := applicationId
  endpointId := endpointId
  eventId := eventId
  replaySequence := replaySequence
  replayOfDeliveryId := replayOfDeliveryId
  state := .pending
  attemptCount := 0
  nextAttemptAt := now
  leaseOwner := none
  leaseIncarnation := none
  leaseGeneration := 0
  leaseExpiresAt := none
  claimedSecretGeneration := none
  claimedOverlapGeneration := none
  claimedSecretMaterialId := none
  claimedOverlapMaterialId := none
  lastOutcomeClass := none
  lastHttpStatus := none
  createdAt := now
  updatedAt := now
  deliveredAt := none
  terminalAt := none

def pendingDelivery (event : ApplicationUserEvent) (endpoint : WebhookEndpoint) : WebhookDelivery :=
  newDelivery (env.deliveryId event.id endpoint.id) event.projectId event.applicationId endpoint.id
    event.id 0 none event.occurredAt

def insertDelivery (deliveries : Table WebhookDelivery) (d : WebhookDelivery) :
    Tx (Table WebhookDelivery) :=
  insertRow deliveries d fun o =>
    ¬ (o.eventId = d.eventId ∧ o.endpointId = d.endpointId ∧ o.replaySequence = d.replaySequence)

def ensureDispatchState (states : Table DispatchState) (projectId applicationId : Uuid) :
    Table DispatchState :=
  (states.insert ⟨projectId, applicationId, 0⟩).getD states

def appendDeliveries (event : ApplicationUserEvent) (deliveries : Table WebhookDelivery)
    (endpoints : List WebhookEndpoint) : Tx (Table WebhookDelivery) :=
  foldOk (fun table endpoint =>
    if event.eventType ∈ endpoint.subscribedEventTypes then
      insertDelivery table (pendingDelivery env event endpoint)
    else pure table) deliveries endpoints

def appendProjectionEvent (bindingId : Uuid)
    (projection : ApplicationUserProjection) (wire : ProjectionDocument)
    (eventType : ApplicationUserEventType) : Tx Database := do
  let event :=
    projectionEvent env projectPublicId applicationPublicId bindingId projection wire eventType
  let events ← insertRow db.events event fun e =>
    ¬ (e.bindingId = event.bindingId ∧ e.projectionRevision = event.projectionRevision)
  let endpoints := db.endpoints.filter fun e =>
    e.projectId = projection.projectId ∧ e.applicationId = projection.applicationId
      ∧ e.status = .active
  ensure (endpoints.length ≤ maxWebhookEndpointsPerApplication) .integrity
  let deliveries ← appendDeliveries env event db.deliveries endpoints
  pure { db with
    events := events
    deliveries := deliveries
    dispatchStates :=
      ensureDispatchState db.dispatchStates projection.projectId projection.applicationId }

/-! ## fan-out -/

def changeEventType (user : ProjectUser) : ApplicationUserEventType :=
  if user.status = .disabled then .disabled else .updated

/-- one binding of `fan_out_projected_user` -/
def fanOutBinding (project : Project) (user : ProjectUser) (now : Instant) (db : Database)
    (binding : ApplicationUserBinding) : Tx Database := do
  let application ← require
    (db.applications.find? fun a => a.id = binding.applicationId ∧ a.projectId = user.projectId)
    .integrity
  if application.status = .active then do
    let projection ← require
      (db.projections.find? fun p => p.projectId = user.projectId ∧ p.bindingId = binding.id)
      .integrity
    let (db, repaired, material) ←
      repairRuntimeProjection env db projection application.id user now
    if material.semanticChange then
      appendProjectionEvent env db project.publicId application.publicId projection.bindingId
        repaired material.document (changeEventType user)
    else pure db
  else pure db

def fanOutProjectedUser (user : ProjectUser) (now : Instant) : Tx Database := do
  let project ← require (db.projects.find? fun p => p.id = user.projectId) .integrity
  if project.status = .active then do
    let bindings := db.bindings.filter fun b =>
      b.projectId = user.projectId ∧ b.userId = user.id ∧ b.status = .active
    ensure (bindings.length ≤ maxApplicationBindingsPerUser) .integrity
    foldOk (fanOutBinding env project user now) db bindings
  else pure db

/-- `fan_out_user`: the write key is checked before anything is touched -/
def fanOutUser (user : ProjectUser) (now : Instant) : Tx Database := do
  let _ ← projectionAuthorityWriteVersion env
  fanOutProjectedUser env db user now

/-! ## what they touch -/

def OnlyProjections (db db' : Database) : Prop :=
  ∃ projections events deliveries states,
    db' = { db with
      projections := projections
      events := events
      deliveries := deliveries
      dispatchStates := states }

theorem OnlyProjections.refl (db) : OnlyProjections db db :=
  ⟨db.projections, db.events, db.deliveries, db.dispatchStates, rfl⟩

theorem OnlyProjections.trans {db₁ db₂ db₃} (h : OnlyProjections db₁ db₂)
    (h' : OnlyProjections db₂ db₃) : OnlyProjections db₁ db₃ := by
  obtain ⟨_, _, _, _, rfl⟩ := h
  obtain ⟨p, e, d, s, rfl⟩ := h'
  exact ⟨p, e, d, s, rfl⟩

variable {env : Environment} {db db' : Database} {projection : ApplicationUserProjection}
  {applicationId : Uuid} {user : ProjectUser} {now : Instant}

theorem repairRuntimeProjection_ok {repaired material}
    (h : repairRuntimeProjection env db projection applicationId user now
      = .ok (db', repaired, material)) :
    authoritativeRuntimeProjectionMaterial env db (some projection) applicationId user
        = .ok material
      ∧ repaired = repairedProjection projection user material now
      ∧ db' = { db with projections := db.projections.set repaired } := by
  obtain ⟨_, hm, h⟩ := bind_ok.mp h
  cases h
  exact ⟨hm, rfl, rfl⟩

theorem repairRuntimeProjection_frame {r}
    (h : repairRuntimeProjection env db projection applicationId user now = .ok r) :
    OnlyProjections db r.1 := by
  obtain ⟨_, _, _⟩ := r
  obtain ⟨_, _, rfl⟩ := repairRuntimeProjection_ok h
  exact ⟨_, db.events, db.deliveries, db.dispatchStates, rfl⟩

theorem appendProjectionEvent_frame {projectPublicId applicationPublicId bindingId wire eventType}
    (h : appendProjectionEvent env db projectPublicId applicationPublicId bindingId projection wire
      eventType = .ok db') : OnlyProjections db db' := by
  obtain ⟨events, _, _, _, deliveries, _, h⟩ := peel₃ h
  cases h
  exact ⟨db.projections, events, deliveries, _, rfl⟩

theorem fanOutBinding_frame {project binding}
    (h : fanOutBinding env project user now db binding = .ok db') : OnlyProjections db db' := by
  obtain ⟨_, h⟩ := later h
  split at h
  · obtain ⟨_, _, ⟨db₁, _, _⟩, hr, h⟩ := peel₂ h
    have h₁ : OnlyProjections db db₁ := repairRuntimeProjection_frame hr
    dsimp only at h
    split at h
    · exact h₁.trans (appendProjectionEvent_frame h)
    · cases h; exact h₁
  · cases h; exact .refl db

theorem fanOutUser_frame (h : fanOutUser env db user now = .ok db') : OnlyProjections db db' := by
  obtain ⟨_, h⟩ := later h
  obtain ⟨_, h⟩ := later h
  split at h
  · obtain ⟨_, h⟩ := later h
    exact foldOk_inv (OnlyProjections db)
      (fun _ _ _ _ h₁ h₂ => h₁.trans (fanOutBinding_frame h₂)) (.refl db) h
  · cases h; exact .refl db

end OwlAuth
