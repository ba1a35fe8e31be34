import OwlAuth.Session.Refresh

/-!
# Reading the session behind an access token

* `verificationKey`  the key an access token names, while it may still verify;
* `currentSession`  the session an access token names, if nothing it rests on has moved.  The read
    brings the projection up to date.  With `allowRevoked` (used to log out) a
    revoked session is still shown, but never one whose revisions were passed.
-/

namespace OwlAuth

open Fallible Table

structure VerificationKey where
  projectId : Uuid
  (projectPublicId issuer : String)
  publicJwk : Jwk
  deriving DecidableEq

def SigningKey.mayVerify (key : SigningKey) (now : Instant) : Prop :=
  key.state = .active ∨ (key.state = .retiring ∧ ∃ cutoff ∈ key.verifyNotAfter, now < cutoff)
  deriving Decidable

def verificationKey (db : Database) (projectPublicId kid : String) (now : Instant) :
    Tx VerificationKey := do
  let project ← require
    (db.projects.find? fun p => p.publicId = projectPublicId ∧ p.status = .active) .notFound
  let ring ← require
    (db.rings.find? fun r =>
      r.projectId = project.id ∧ r.purpose = tokenPurpose ∧ r.algorithm = tokenAlgorithm) .notFound
  let key ← require
    (db.keys.find? fun k => k.projectId = project.id ∧ k.ringId = ring.id ∧ k.kid = kid) .notFound
  ensure (key.mayVerify now) .disabled
  pure ⟨project.id, project.publicId, ring.issuer, key.publicJwk⟩

structure AccessTokenSessionLookup where
  projectId : Uuid
  (applicationPublicId userPublicId : String)
  applicationSessionId : Uuid
  claimsRevision : Int
  now : Instant

structure CurrentSession where
  projectId : Uuid
  projectPublicId : String
  applicationId : Uuid
  applicationPublicId : String
  userId : Uuid
  userPublicId : String
  (applicationSessionId browserSessionId : Uuid)
  (claimsRevision projectionRevision : Int)
  projectionDocument : ProjectionDocument
  (authenticatedAt absoluteExpiresAt : Instant)

structure SessionOwners where
  project : Project
  application : Application
  user : ProjectUser
  policy : ProjectPolicy
  session : ApplicationSession

/-- the active owners a token names, and its session -/
def findSessionOwners (db : Database) (c : AccessTokenSessionLookup) : Tx SessionOwners := do
  let project ← require
    (db.projects.find? fun p => p.id = c.projectId ∧ p.status = .active) .notFound
  let application ← require
    (db.applications.find? fun a =>
      a.projectId = c.projectId ∧ a.publicId = c.applicationPublicId ∧ a.status = .active) .notFound
  let user ← require
    (db.users.find? fun u =>
      u.projectId = c.projectId ∧ u.publicId = c.userPublicId ∧ u.status = .active) .notFound
  let policy ← findPolicy db c.projectId
  let session ← require
    (db.sessions.find? fun s =>
      s.id = c.applicationSessionId ∧ s.projectId = c.projectId
        ∧ s.applicationId = application.id ∧ s.userId = user.id) .notFound
  pure ⟨project, application, user, policy, session⟩

/-- the session has not ended and none of its revisions was passed -/
def SessionAdmitted (o : SessionOwners) (c : AccessTokenSessionLookup) (allowRevoked : Bool) :
    Prop :=
  (o.session.status = .active ∨ (allowRevoked = true ∧ o.session.status = .revoked))
    ∧ c.now < o.session.absoluteExpiresAt
    ∧ o.session.projectSecurityRevision = o.project.securityRevision
    ∧ o.session.applicationSecurityRevision = o.application.securityRevision
    ∧ o.session.userSecurityRevision = o.user.securityRevision
    ∧ o.session.claimsRevision = c.claimsRevision
    ∧ o.policy.claimsRevision = c.claimsRevision
    ∧ o.session.policySessionRevision = o.policy.sessionRevision
  deriving Decidable

def currentSession (env : Environment) (c : AccessTokenSessionLookup) (allowRevoked : Bool)
    (db : Database) : Tx (Committed CurrentSession) := do
  let o ← findSessionOwners db c
  ensure (SessionAdmitted o c allowRevoked) .disabled
  let browserSessionId ← require o.session.browserSessionId .integrity
  let browser ← findBrowserSession db c.projectId o.user.id browserSessionId
  ensure (allowRevoked = true
    ∨ (BrowserLive browser c.now ∧ BrowserCurrent o.project o.user o.policy browser)) .disabled
  let family ← require
    (db.families.find? fun f =>
      f.projectId = c.projectId ∧ f.applicationId = o.application.id
        ∧ f.applicationSessionId = c.applicationSessionId) .integrity
  ensure (allowRevoked = true ∨ (family.status = .active ∧ c.now < family.absoluteExpiresAt))
    .disabled
  let binding ← require
    (db.bindings.find? fun b =>
      b.id = o.session.bindingId ∧ b.projectId = c.projectId
        ∧ b.applicationId = o.application.id ∧ b.userId = o.user.id ∧ b.status = .active)
    .integrity
  let projection ← findProjection db c.projectId binding.id
  let (db, _, material) ←
    repairRuntimeProjection env db projection o.application.id o.user c.now
  pure (.done db
    { projectId := c.projectId
      projectPublicId := o.project.publicId
      applicationId := o.application.id
      applicationPublicId := o.application.publicId
      userId := o.user.id
      userPublicId := o.user.publicId
      applicationSessionId := c.applicationSessionId
      browserSessionId := browserSessionId
      claimsRevision := c.claimsRevision
      projectionRevision := material.revision
      projectionDocument := material.document
      authenticatedAt := o.session.authenticatedAt
      absoluteExpiresAt := o.session.absoluteExpiresAt })

/-! ## what a successful read did -/

theorem currentSession_ok {env c allowRevoked db r}
    (h : currentSession env c allowRevoked db = .ok r) :
    ∃ o binding projection material,
      findSessionOwners db c = .ok o ∧ SessionAdmitted o c allowRevoked
        ∧ binding ∈ db.bindings
        ∧ (binding.id = o.session.bindingId ∧ binding.projectId = c.projectId
            ∧ binding.applicationId = o.application.id ∧ binding.userId = o.user.id
            ∧ binding.status = .active)
        ∧ findProjection db c.projectId binding.id = .ok projection
        ∧ authoritativeRuntimeProjectionMaterial env db (some projection) o.application.id o.user
            = .ok material
        ∧ r.db = { db with
            projections :=
              db.projections.set (repairedProjection projection o.user material c.now) } := by
  obtain ⟨o, ho, _, ha, _, _, h⟩ := peel₃ h
  obtain ⟨_, _, _, h⟩ := later₃ h
  obtain ⟨_, _, binding, hb, h⟩ := peel₂ h
  obtain ⟨projection, hp, ⟨_, _, material⟩, hr, h⟩ := peel₂ h
  obtain ⟨hm, rfl, rfl⟩ := repairRuntimeProjection_ok hr
  cases h
  obtain ⟨hbm, hbc⟩ := find_ok hb
  exact ⟨o, binding, projection, material, ho, ensure_ok.mp ha, hbm, hbc, hp, hm, rfl⟩

theorem findSessionOwners_ok {db c o} (h : findSessionOwners db c = .ok o) :
    (o.project ∈ db.projects ∧ o.project.id = c.projectId ∧ o.project.status = .active)
      ∧ (o.application ∈ db.applications ∧ o.application.projectId = c.projectId
          ∧ o.application.status = .active)
      ∧ (o.user ∈ db.users ∧ o.user.projectId = c.projectId ∧ o.user.status = .active)
      ∧ (o.policy ∈ db.policies ∧ o.policy.projectId = c.projectId)
      ∧ (o.session ∈ db.sessions ∧ o.session.id = c.applicationSessionId
          ∧ o.session.projectId = c.projectId ∧ o.session.applicationId = o.application.id
          ∧ o.session.userId = o.user.id) := by
  obtain ⟨_, hp, _, ha, _, hu, h⟩ := peel₃ h
  obtain ⟨_, hpol, _, hs, h⟩ := peel₂ h
  cases h
  obtain ⟨ham, hap, _, has⟩ := find_ok ha
  obtain ⟨hum, hup, _, hus⟩ := find_ok hu
  exact ⟨find_ok hp, ⟨ham, hap, has⟩, ⟨hum, hup, hus⟩, findPolicy_ok hpol, find_ok hs⟩

end OwlAuth
