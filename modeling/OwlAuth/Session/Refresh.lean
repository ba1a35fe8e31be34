import OwlAuth.Session.Admission

/-!
# Refresh rotation

A refresh family is a chain of token generations.  A rotation takes two transactions with a signing
call between them: `prepareRefreshRotation` reads what the new access token will say and
`rotateRefreshToken` consumes the presented generation and inserts its successor, if everything the
preparation saw is still so.  Either one that meets a consumed generation revokes the family
(`recordRefreshReplay`).

* `TokenPreparation`  what an access token will say, here and in a handoff;
* `Routed`  what the rows behind a presented token satisfy;
* `RefreshAccepted`, `RotationAccepted`  everything a successful call checked;
* `prepareRefreshRotation_ok`, `rotateRefreshToken_ok`  what a committed call did: it recorded a
  replay, or it was accepted.
-/

namespace OwlAuth

open Fallible Table

structure PrepareRefreshRotation where
  (projectId applicationId : Uuid)
  presentedToken : VersionedDigest
  now : Instant

/-- what an access token will say, and the key that will sign it -/
structure TokenPreparation where
  (projectPublicId projectIssuer applicationPublicId : String)
  userId : Uuid
  userPublicId : String
  (userRevision claimsRevision projectionRevision : Int)
  projectionDocument : ProjectionDocument
  (signingRingId signingKeyId : Uuid)
  signingKid : String
  signingPublicJwk : Jwk
  signingMaterialId : Uuid
  (signingEpoch accessTokenLifetimeSeconds : Int)
  authenticatedAt : Instant

structure RefreshPreparation extends TokenPreparation where
  (generationId familyId : Uuid)
  (familyRevision generation : Int)
  applicationSessionId : Uuid
  sessionRevision : Int
  bindingId : Uuid
  bindingRevision : Int
  absoluteExpiresAt : Instant

inductive RefreshPreparationResult
  | ready (preparation : RefreshPreparation)
  | replayRevoked (familyId : Uuid)

structure RotateRefreshToken where
  (projectId applicationId : Uuid)
  presentedToken : VersionedDigest
  preparation : RefreshPreparation
  successorGenerationId : Uuid
  successorToken : VersionedDigest
  now : Instant

inductive RefreshRotationResult
  | rotated (userId applicationSessionId familyId : Uuid) (generation : Int)
      (absoluteExpiresAt : Instant)
  | replayRevoked (familyId : Uuid)

structure RefreshRoute where
  session : ApplicationSession
  family : RefreshFamily
  generation : RefreshTokenGeneration

variable (env : Environment) (db : Database)

/-- the presented token names a generation, its family and its session, each read again by its id
under the owner's columns -/
def routeRefresh (projectId applicationId : Uuid) (presented : VersionedDigest) : Tx RefreshRoute := do
  let routedGeneration ← require
    (db.generations.find? fun g =>
      g.projectId = projectId ∧ g.applicationId = applicationId ∧ g.token = presented) .notFound
  let routedFamily ← require
    (db.families.find? fun f => f.id = routedGeneration.familyId ∧ f.projectId = projectId)
    .notFound
  let session ← require
    (db.sessions.find? fun s =>
      s.id = routedFamily.applicationSessionId ∧ s.projectId = projectId
        ∧ s.applicationId = applicationId) .notFound
  let family ← require
    (db.families.find? fun f =>
      f.id = routedFamily.id ∧ f.projectId = projectId ∧ f.applicationId = applicationId) .notFound
  let generation ← require
    (db.generations.find? fun g =>
      g.id = routedGeneration.id ∧ g.projectId = projectId ∧ g.familyId = family.id) .notFound
  ensure (generation.token = presented) .notFound
  pure ⟨session, family, generation⟩

def revokedFamily (family : RefreshFamily) (reason : RevocationReason) (now : Instant) :
    RefreshFamily :=
  { family with
    status := .revoked
    familyRevision := family.familyRevision + 1
    revokedAt := some now
    revocationReason := some reason }

/-- the replay is noted on the generation and the family is revoked -/
def recordRefreshReplay (generation : RefreshTokenGeneration) (family : RefreshFamily)
    (now : Instant) : Database :=
  { db with
    generations :=
      if generation.replayDetectedAt = none then
        db.generations.set { generation with replayDetectedAt := some now }
      else db.generations
    families :=
      if family.status = .active then db.families.set (revokedFamily family .replay now)
      else db.families }

/-- the presented generation is the family's current one and nothing has ended -/
def Refreshable (route : RefreshRoute) (now : Instant) : Prop :=
  route.generation.status = .current ∧ route.family.status = .active
    ∧ route.session.status = .active
    ∧ route.generation.generation = route.family.currentGeneration
    ∧ now < route.family.absoluteExpiresAt ∧ now < route.session.absoluteExpiresAt
    ∧ route.family.absoluteExpiresAt = route.session.absoluteExpiresAt
  deriving Decidable

def findSessionBinding (projectId applicationId userId : Uuid) (session : ApplicationSession) :
    Tx ApplicationUserBinding :=
  require (db.bindings.find? fun b =>
    b.id = session.bindingId ∧ b.projectId = projectId ∧ b.applicationId = applicationId
      ∧ b.userId = userId) .integrity

def findProjection (projectId bindingId : Uuid) : Tx ApplicationUserProjection :=
  require (db.projections.find? fun p => p.projectId = projectId ∧ p.bindingId = bindingId)
    .integrity

def tokenPreparation (project : Project) (application : Application) (user : ProjectUser)
    (policy : ProjectPolicy) (material : ProjectionMaterial) (signing : SigningSnapshot)
    (lifetime : Int) (authenticatedAt : Instant) : TokenPreparation where
  projectPublicId := project.publicId
  projectIssuer := signing.issuer
  applicationPublicId := application.publicId
  userId := user.id
  userPublicId := user.publicId
  userRevision := user.userRevision
  claimsRevision := policy.claimsRevision
  projectionRevision := material.revision
  projectionDocument := material.document
  signingRingId := signing.ringId
  signingKeyId := signing.keyId
  signingKid := signing.kid
  signingPublicJwk := signing.publicJwk
  signingMaterialId := signing.materialId
  signingEpoch := signing.epoch
  accessTokenLifetimeSeconds := lifetime
  authenticatedAt := authenticatedAt

/-- the preparation names the key that signs at `now` -/
def TokenPreparation.Captures (p : TokenPreparation) (projectId : Uuid) (now : Instant) : Prop :=
  ∃ signing, activeSigningSnapshot db projectId now = .ok signing
    ∧ p.signingRingId = signing.ringId ∧ p.signingKeyId = signing.keyId
    ∧ p.signingEpoch = signing.epoch

/-- `prepare_refresh_rotation` after the replay check -/
def prepareCurrentGeneration (c : PrepareRefreshRotation) (db : Database) (route : RefreshRoute) :
    Tx (Committed RefreshPreparationResult) := do
  ensure (Refreshable route c.now) .invalidTransition
  let project ← findProject db c.projectId
  let application ← findApplication db c.projectId c.applicationId
  let user ← findUser db c.projectId route.session.userId
  let policy ← findPolicy db c.projectId
  ensure (SessionCurrent project application user policy route.session) .revisionConflict
  checkBrowserSession db project user policy route.session c.now
  let binding ← findSessionBinding db c.projectId c.applicationId user.id route.session
  ensure (binding.status = .active) .disabled
  let projection ← findProjection db c.projectId binding.id
  let (db, _, material) ← repairRuntimeProjection env db projection application.id user c.now
  let signing ← activeSigningSnapshot db c.projectId c.now
  let lifetime ← accessTokenLifetime policy
  pure (.done db (.ready {
    toTokenPreparation := tokenPreparation project application user policy material signing lifetime
      route.session.authenticatedAt
    generationId := route.generation.id
    familyId := route.family.id
    familyRevision := route.family.familyRevision
    generation := route.generation.generation
    applicationSessionId := route.session.id
    sessionRevision := route.session.sessionRevision
    bindingId := binding.id
    bindingRevision := binding.bindingRevision
    absoluteExpiresAt := route.family.absoluteExpiresAt }))

def prepareRefreshRotation (c : PrepareRefreshRotation) (db : Database) :
    Tx (Committed RefreshPreparationResult) := do
  validateDigest c.presentedToken
  let route ← routeRefresh db c.projectId c.applicationId c.presentedToken
  if route.generation.status = .consumed then
    pure (.done (recordRefreshReplay db route.generation route.family c.now)
      (.replayRevoked route.family.id))
  else prepareCurrentGeneration env c db route

/-! ## rotation -/

variable (p : RefreshPreparation)

def PreparedChain (route : RefreshRoute) : Prop :=
  route.generation.id = p.generationId ∧ route.family.id = p.familyId
    ∧ route.family.familyRevision = p.familyRevision
    ∧ route.generation.generation = p.generation
    ∧ route.session.id = p.applicationSessionId
    ∧ route.session.sessionRevision = p.sessionRevision
    ∧ route.family.absoluteExpiresAt = p.absoluteExpiresAt
  deriving Decidable

def PreparedUser (user : ProjectUser) (policy : ProjectPolicy) : Prop :=
  user.id = p.userId ∧ user.publicId = p.userPublicId ∧ user.userRevision = p.userRevision
    ∧ policy.claimsRevision = p.claimsRevision
  deriving Decidable

/-- a stored address can only be read under a valid key ring -/
def assertStoredEmailAuthority (projection : ApplicationUserProjection) : Tx Unit :=
  if projection.verifiedEmailCiphertext.isSome = true then do
    let _ ← projectionAuthorityWriteVersion env
    pure ()
  else pure ()

/-- the stored projection is the one the access token describes -/
def checkPreparedProjection (user : ProjectUser)
    (projection : ApplicationUserProjection) : Tx Unit := do
  assertStoredEmailAuthority env projection
  let document ← wireProjectionDocument env projection
  ensure (projection.projectionRevision = p.projectionRevision
    ∧ projection.sourceUserRevision = user.userRevision
    ∧ projection.sourceBaseProfileDigest = user.baseProfileDigest
    ∧ projection.document = safeProjectionDocument document
    ∧ document = p.projectionDocument) .revisionConflict

def consumedGeneration (generation : RefreshTokenGeneration) (now : Instant) :
    RefreshTokenGeneration :=
  { generation with status := .consumed, consumedAt := some now }

variable (c : RotateRefreshToken)

def successorGeneration (family : RefreshFamily) (userId : Uuid)
    (generation : Int) : RefreshTokenGeneration :=
  { id := c.successorGenerationId
    projectId := c.projectId
    familyId := family.id
    applicationId := c.applicationId
    userId := userId
    generation := generation
    token := c.successorToken
    status := .current
    consumedAt := none
    replayDetectedAt := none
    retainUntil := family.absoluteExpiresAt + seconds family.allowedClockSkewSeconds }

def rotatedFamily (family : RefreshFamily) (generation : Int) : RefreshFamily :=
  { family with currentGeneration := generation, familyRevision := family.familyRevision + 1 }

/-- two generations never share a token digest -/
def insertGeneration (generations : Table RefreshTokenGeneration) (g : RefreshTokenGeneration) :
    Tx (Table RefreshTokenGeneration) :=
  insertRow generations g fun o => o.token ≠ g.token

/-- `rotate_refresh_token` after the replay check -/
def rotateCurrentGeneration (db : Database) (route : RefreshRoute) :
    Tx (Committed RefreshRotationResult) := do
  ensure (Refreshable route c.now ∧ PreparedChain c.preparation route) .invalidTransition
  let project ← findProject db c.projectId
  let application ← findApplication db c.projectId c.applicationId
  let user ← findUser db c.projectId route.session.userId
  let policy ← findPolicy db c.projectId
  ensure (SessionCurrent project application user policy route.session
    ∧ PreparedUser c.preparation user policy) .revisionConflict
  let lifetime ← accessTokenLifetime policy
  ensure (lifetime = c.preparation.accessTokenLifetimeSeconds) .revisionConflict
  let binding ← findSessionBinding db c.projectId c.applicationId user.id route.session
  ensure (binding.id = c.preparation.bindingId
    ∧ binding.bindingRevision = c.preparation.bindingRevision
    ∧ binding.status = .active) .revisionConflict
  let projection ← findProjection db c.projectId binding.id
  checkPreparedProjection env c.preparation user projection
  checkBrowserSession db project user policy route.session c.now
  lockSigningEpoch db c.projectId c.preparation.signingRingId c.preparation.signingKeyId
    c.preparation.signingEpoch c.now
  let successor := route.generation.generation + 1
  let generations ← insertGeneration
    (db.generations.set (consumedGeneration route.generation c.now))
    (successorGeneration c route.family user.id successor)
  pure (.done
    { db with
      generations := generations
      families := db.families.set (rotatedFamily route.family successor) }
    (.rotated user.id route.session.id route.family.id successor
      route.family.absoluteExpiresAt))

def rotateRefreshToken (db : Database) : Tx (Committed RefreshRotationResult) := do
  validateDigest c.presentedToken
  validateDigest c.successorToken
  ensure (0 < c.preparation.signingEpoch) .invalidInput
  let route ← routeRefresh db c.projectId c.applicationId c.presentedToken
  if route.generation.status = .consumed then
    pure (.done (recordRefreshReplay db route.generation route.family c.now)
      (.replayRevoked route.family.id))
  else rotateCurrentGeneration env c db route

/-! ## what a committed call did -/

structure Routed (db : Database) (projectId applicationId : Uuid) (presented : VersionedDigest)
    (route : RefreshRoute) : Prop where
  session : route.session ∈ db.sessions
  family : route.family ∈ db.families
  generation : route.generation ∈ db.generations
  sessionId : route.session.id = route.family.applicationSessionId
  sessionProject : route.session.projectId = projectId
  sessionApplication : route.session.applicationId = applicationId
  familyProject : route.family.projectId = projectId
  familyApplication : route.family.applicationId = applicationId
  familyId : route.generation.familyId = route.family.id
  token : route.generation.token = presented

variable {db : Database} {route : RefreshRoute} {env : Environment} {c : PrepareRefreshRotation}
  {r : Committed RefreshPreparationResult}

theorem routeRefresh_ok {projectId applicationId presented}
    (h : routeRefresh db projectId applicationId presented = .ok route) :
    Routed db projectId applicationId presented route := by
  obtain ⟨g₀, hg₀, f₀, hf₀, s, hs, h⟩ := peel₃ h
  obtain ⟨f, hf, g, hg, _, ht, h⟩ := peel₃ h
  cases h
  obtain ⟨hf₀m, _, _⟩ := find_ok hf₀
  obtain ⟨hsm, hsid, hsp, hsa⟩ := find_ok hs
  obtain ⟨hfm, hfid, hfp, hfa⟩ := find_ok hf
  obtain ⟨hgm, _, _, hgf⟩ := find_ok hg
  have hff : f = f₀ := eq_of_key hfm hf₀m hfid
  subst hff
  exact ⟨hsm, hfm, hgm, hsid, hsp, hsa, hfp, hfa, hgf, ensure_ok.mp ht⟩

structure RefreshAccepted (db : Database) (projectId applicationId : Uuid) (now : Instant)
    (route : RefreshRoute) (project : Project) (application : Application) (user : ProjectUser)
    (policy : ProjectPolicy) : Prop where
  refreshable : Refreshable route now
  projectFound : findProject db projectId = .ok project
  applicationFound : findApplication db projectId applicationId = .ok application
  userFound : findUser db projectId route.session.userId = .ok user
  policyFound : findPolicy db projectId = .ok policy
  current : SessionCurrent project application user policy route.session
  browser : checkBrowserSession db project user policy route.session now = .ok ()

theorem prepareCurrentGeneration_ok (h : prepareCurrentGeneration env c db route = .ok r) :
    ∃ project application user policy binding projection material preparation,
      RefreshAccepted db c.projectId c.applicationId c.now route project application user policy
        ∧ findSessionBinding db c.projectId c.applicationId user.id route.session = .ok binding
        ∧ binding.status = .active
        ∧ findProjection db c.projectId binding.id = .ok projection
        ∧ authoritativeRuntimeProjectionMaterial env db (some projection) application.id user
            = .ok material
        ∧ preparation.Captures db c.projectId c.now
        ∧ preparation.applicationSessionId = route.session.id
        ∧ preparation.familyId = route.family.id
        ∧ r = .done
            { db with
              projections := db.projections.set (repairedProjection projection user material c.now) }
            (.ready preparation) := by
  obtain ⟨_, hr, project, hp, application, ha, h⟩ := peel₃ h
  obtain ⟨user, hu, policy, hpol, _, hc, h⟩ := peel₃ h
  obtain ⟨_, hb, binding, hbind, _, hact, h⟩ := peel₃ h
  obtain ⟨projection, hproj, ⟨_, _, material⟩, hrep, h⟩ := peel₂ h
  obtain ⟨hm, rfl, rfl⟩ := repairRuntimeProjection_ok hrep
  obtain ⟨signing, hsig, _, _, h⟩ := peel₂ h
  cases h
  exact ⟨project, application, user, policy, binding, projection, material, _,
    ⟨ensure_ok.mp hr, hp, ha, hu, hpol, ensure_ok.mp hc, hb⟩, hbind, ensure_ok.mp hact, hproj, hm,
    ⟨signing, hsig, rfl, rfl, rfl⟩, rfl, rfl, rfl⟩

theorem prepareRefreshRotation_ok (h : prepareRefreshRotation env c db = .ok r) :
    ∃ route, Routed db c.projectId c.applicationId c.presentedToken route ∧
      ((route.generation.status = .consumed
          ∧ r = .done (recordRefreshReplay db route.generation route.family c.now)
              (.replayRevoked route.family.id))
        ∨ (route.generation.status ≠ .consumed
          ∧ prepareCurrentGeneration env c db route = .ok r)) := by
  obtain ⟨_, _, route, hr, h⟩ := peel₂ h
  refine ⟨route, routeRefresh_ok hr, ?_⟩
  split at h
  · rename_i hc; cases h; exact .inl ⟨hc, rfl⟩
  · rename_i hc; exact .inr ⟨hc, h⟩

structure RotationAccepted (db : Database) (c : RotateRefreshToken) (route : RefreshRoute)
    (project : Project) (application : Application) (user : ProjectUser) (policy : ProjectPolicy) :
    Prop extends
    RefreshAccepted db c.projectId c.applicationId c.now route project application user policy where
  chain : PreparedChain c.preparation route
  prepared : PreparedUser c.preparation user policy
  lifetime : accessTokenLifetime policy = .ok c.preparation.accessTokenLifetimeSeconds
  signing : lockSigningEpoch db c.projectId c.preparation.signingRingId
    c.preparation.signingKeyId c.preparation.signingEpoch c.now = .ok ()

variable {r : Committed RefreshRotationResult}

theorem rotateCurrentGeneration_ok {c} (h : rotateCurrentGeneration env c db route = .ok r) :
    ∃ project application user policy generations,
      RotationAccepted db c route project application user policy
        ∧ insertGeneration (db.generations.set (consumedGeneration route.generation c.now))
            (successorGeneration c route.family user.id (route.generation.generation + 1))
            = .ok generations
        ∧ r = .done
            { db with
              generations := generations
              families := db.families.set
                (rotatedFamily route.family (route.generation.generation + 1)) }
            (.rotated user.id route.session.id route.family.id (route.generation.generation + 1)
              route.family.absoluteExpiresAt) := by
  obtain ⟨_, hr, project, hp, application, ha, h⟩ := peel₃ h
  obtain ⟨user, hu, policy, hpol, _, hc, h⟩ := peel₃ h
  obtain ⟨lifetime, hl, _, hle, _, _, h⟩ := peel₃ h
  obtain ⟨_, _, _, h⟩ := later₃ h
  obtain ⟨_, hb, _, hsig, generations, hg, h⟩ := peel₃ h
  cases h
  obtain ⟨hr, hch⟩ := ensure_ok.mp hr
  obtain ⟨hc, hpu⟩ := ensure_ok.mp hc
  have hle := ensure_ok.mp hle
  subst hle
  exact ⟨project, application, user, policy, generations,
    ⟨⟨hr, hp, ha, hu, hpol, hc, hb⟩, hch, hpu, hl, hsig⟩, hg, rfl⟩

theorem rotateRefreshToken_ok {c} (h : rotateRefreshToken env c db = .ok r) :
    ∃ route, Routed db c.projectId c.applicationId c.presentedToken route ∧
      0 < c.successorToken.keyVersion ∧ 0 < c.preparation.signingEpoch ∧
      ((route.generation.status = .consumed
          ∧ r = .done (recordRefreshReplay db route.generation route.family c.now)
              (.replayRevoked route.family.id))
        ∨ (route.generation.status ≠ .consumed
          ∧ rotateCurrentGeneration env c db route = .ok r)) := by
  obtain ⟨_, _, _, hs, h⟩ := peel₂ h
  obtain ⟨_, he, route, hr, h⟩ := peel₂ h
  refine ⟨route, routeRefresh_ok hr, ensure_ok.mp hs, ensure_ok.mp he, ?_⟩
  split at h
  · rename_i hc; cases h; exact .inl ⟨hc, rfl⟩
  · rename_i hc; exact .inr ⟨hc, h⟩

end OwlAuth
