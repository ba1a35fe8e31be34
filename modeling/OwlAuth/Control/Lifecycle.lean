import OwlAuth.Custody.Material
import OwlAuth.Managed.Connections
import OwlAuth.Session.Logout

/-!
# Control: projects, applications, users and sessions

The operator's changes.  Each one names the revision it expects and advances it, so that whatever
captured the old revision is no longer accepted:

* projects  `updateProjectPolicy`, `updateProject`, `disableProject`, `enableProject`,
    `deleteProject`;
* applications  `updateApplication`, `replaceApplicationConfiguration`, `disableApplication` (there
    is no way back);
* users  `disableProjectUser`, `enableProjectUser`, announced to the user's applications;
* sessions  `revokeApplicationSession`, `revokeBrowserSession`.
-/

namespace OwlAuth

open Fallible Table

def nextRevision (revision : Int) : Tx Int := do
  ensure (0 < revision ∧ revision < maxI64) .integrity
  pure (revision + 1)

variable (env : Environment) (db : Database)

variable (projectId : Uuid)

def activeProject : Tx Project := do
  let project ← findProject db projectId
  ensure (project.status = .active) .disabled
  pure project

variable (projectId applicationId : Uuid)

def activeApplication : Tx Application := do
  let application ← findApplication db projectId applicationId
  ensure (application.status = .active) .disabled
  pure application

/-! ## projects -/

structure UpdateProjectPolicy where
  accessTokenLifetimeSeconds : Int
  browserSessionReuse : Bool
  (expectedClaimsRevision expectedSessionRevision : Int)

def updatedPolicy (c : UpdateProjectPolicy) (policy : ProjectPolicy) : ProjectPolicy :=
  { policy with
    claimsRevision := c.expectedClaimsRevision + 1
    sessionRevision := c.expectedSessionRevision + 1
    accessTokenLifetimeSeconds := some c.accessTokenLifetimeSeconds
    browserSessionReuse := some c.browserSessionReuse }

/-- the schema bounds the lifetime of an access token -/
def updateProjectPolicy (c : UpdateProjectPolicy) (db : Database) :
    Tx (Committed ProjectPolicy) := do
  let _ ← activeProject db projectId
  let policy ← require (db.policies.find? fun p => p.projectId = projectId) .notFound
  ensure (policy.claimsRevision = c.expectedClaimsRevision
    ∧ policy.sessionRevision = c.expectedSessionRevision) .revisionConflict
  let maxAge ← require policy.browserSessionReuseMaxAgeSeconds .integrity
  ensure (0 ≤ maxAge ∧ maxAge ≤ 86400) .integrity
  ensure (60 ≤ c.accessTokenLifetimeSeconds ∧ c.accessTokenLifetimeSeconds ≤ 3600) .invalidInput
  let updated := updatedPolicy c policy
  pure (.done { db with policies := db.policies.set updated } updated)

/-- the display name and the owner reference are not part of the model -/
def updateProject (expectedMetadataRevision : Int) (db : Database) : Tx (Committed Project) := do
  let project ← activeProject db projectId
  ensure (project.metadataRevision = expectedMetadataRevision) .revisionConflict
  let updated : Project := { project with metadataRevision := expectedMetadataRevision + 1 }
  pure (.done { db with projects := db.projects.set updated } updated)

def movedProject (project : Project) (status : ProjectStatus) : Project :=
  { project with status := status, securityRevision := project.securityRevision + 1 }

variable (expectedSecurityRevision : Int)

def disableProject (db : Database) : Tx (Committed Project) := do
  let project ← activeProject db projectId
  ensure (project.securityRevision = expectedSecurityRevision) .revisionConflict
  let updated := movedProject project .disabled
  pure (.done { db with projects := db.projects.set updated } updated)

def enableProject (db : Database) : Tx (Committed Project) := do
  let project ← findProject db projectId
  ensure (project.securityRevision = expectedSecurityRevision) .revisionConflict
  ensure (project.status = .disabled) .invalidTransition
  let updated := movedProject project .active
  pure (.done { db with projects := db.projects.set updated } updated)

def ErasableSecret (m : ProtectedMaterial) : Prop :=
  m.projectId = some projectId ∧ m.materialKind = .configurationSecret ∧ m.state ≠ .erased
  deriving Decidable

def CleanableOperation (materials : Table ProtectedMaterial)
    (o : KeyProvisioningOperation) : Prop :=
  o.projectId = projectId ∧ (∃ m ∈ materials.rows, m.id = o.materialId ∧ m.state ≠ .erased)
    ∧ o.state ≠ .cleanupBlocked ∧ o.state ≠ .abandoned
  deriving Decidable

def cleanupQueued (o : KeyProvisioningOperation) : KeyProvisioningOperation :=
  { o with
    state := .cleanupPending
    providerLeaseToken := none
    providerLeaseExpiresAt := none
    nextAttemptAt := none
    maintenanceClaimedAt := none }

/-- a deletion that was already requested is answered again; a new one erases the configuration
secrets and the credentials of managed connections and leaves the signing keys to their cleanup -/
def deleteProject (now : Instant) (db : Database) : Tx (Committed Project) := do
  let project ← findProject db projectId
  if project.status = .deleting then pure (.done db project)
  else do
    ensure (project.securityRevision = expectedSecurityRevision) .revisionConflict
    let updated : Project :=
      { movedProject project .deleting with deletionRequestedAt := some now }
    let materials := db.materials.update (ErasableSecret projectId) (erasedMaterial now)
      (fun _ => rfl)
    let operations := db.operations.update (CleanableOperation projectId materials) cleanupQueued
      (fun _ => rfl)
    pure (.done
      { eraseManagedConnections projectId now db with
        projects := db.projects.set updated
        materials := materials
        operations := operations } updated)

/-! ## applications -/

structure UpdateApplication where
  displayName : String
  expectedMetadataRevision : Int

def updateApplication (c : UpdateApplication) (db : Database) : Tx (Committed Application) := do
  let _ ← activeProject db projectId
  let application ← activeApplication db projectId applicationId
  ensure (application.metadataRevision = c.expectedMetadataRevision) .revisionConflict
  let updated : Application :=
    { application with
      displayName := c.displayName
      metadataRevision := c.expectedMetadataRevision + 1
      revision := application.revision + 1 }
  pure (.done { db with applications := db.applications.set updated } updated)

def configurationValueLimit : Nat := 50

structure ReplaceApplicationConfiguration where
  /-- the redirect URIs as they were parsed -/
  redirectUris : List String
  expectedSecurityRevision : Int

def securedApplication (application : Application) (status : OwnerStatus) : Application :=
  { application with
    status := status
    securityRevision := application.securityRevision + 1
    revision := application.revision + 1 }

def replaceRedirects (t : Table ApplicationRedirect) (projectId applicationId : Uuid)
    (uris : List String) : Tx (Table ApplicationRedirect) :=
  foldOk (fun t uri => insertProvisioned t ⟨projectId, applicationId, uri⟩ fun _ => True)
    (t.delete fun r => r.projectId = projectId ∧ r.applicationId = applicationId) uris

def replaceApplicationConfiguration (c : ReplaceApplicationConfiguration)
    (db : Database) : Tx (Committed Application) := do
  ensure (c.redirectUris.length ≤ configurationValueLimit) .invalidInput
  ensure c.redirectUris.Nodup .invalidInput
  let _ ← activeProject db projectId
  let application ← activeApplication db projectId applicationId
  ensure (application.securityRevision = c.expectedSecurityRevision) .revisionConflict
  let redirects ← replaceRedirects db.redirects projectId applicationId c.redirectUris
  let updated := securedApplication application .active
  pure (.done
    { db with redirects := redirects, applications := db.applications.set updated } updated)

def checkAssignedProvider (a : ProviderAssignment) : Tx Unit := do
  let provider ← require
    (db.providers.find? fun p => p.id = a.providerId ∧ p.projectId = projectId) .notFound
  ensure (provider.status = .active) .disabled
  ensure (env.pendingSecretReplacement projectId a.providerId = false) .invalidTransition

def disabledEndpoint (now : Instant) (e : WebhookEndpoint) : WebhookEndpoint :=
  { e with status := .disabled, revision := e.revision + 1, disabledAt := some now }

def OpenEndpoint (e : WebhookEndpoint) : Prop :=
  e.projectId = projectId ∧ e.applicationId = applicationId
    ∧ (e.status = .pending ∨ e.status = .active)
  deriving Decidable

def AssignedTo (a : ProviderAssignment) : Prop :=
  a.projectId = projectId ∧ a.applicationId = applicationId ∧ a.status = .active
  deriving Decidable

def disableApplication (now : Instant) (db : Database) : Tx (Committed Application) := do
  let _ ← activeProject db projectId
  let assignments := db.assignments.filter (AssignedTo projectId applicationId)
  foldOk (fun _ a => checkAssignedProvider env db projectId a) () assignments
  let application ← activeApplication db projectId applicationId
  ensure (application.securityRevision = expectedSecurityRevision) .revisionConflict
  let endpoints := db.endpoints.filter (OpenEndpoint projectId applicationId)
  ensure (endpoints.length ≤ maxWebhookEndpointsPerApplication) .integrity
  ensure (∀ e ∈ endpoints, e.revision < maxI64) .integrity
  let updated := securedApplication application .disabled
  pure (.done
    { db with
      endpoints := db.endpoints.update (OpenEndpoint projectId applicationId)
        (disabledEndpoint now) (fun _ => rfl)
      providers := db.providers.update
        (fun p => p.id ∈ assignments.map ProviderAssignment.providerId)
        (fun p => { p with revision := p.revision + 1 }) (fun _ => rfl)
      assignments := db.assignments.update (AssignedTo projectId applicationId)
        (fun a => { a with status := .disabled, securityRevision := expectedSecurityRevision + 1 })
        (fun _ => rfl)
      applications := db.applications.set updated } updated)

/-! ## users -/

structure ChangeProjectUser where
  (projectId userId : Uuid)
  expectedSecurityRevision : Int
  now : Instant

/-- `project_user_record`: the answer, made after the commit -/
def projectUserRecord (user : ProjectUser) : Tx ProjectUser := do
  ensure (0 < user.userRevision ∧ 0 < user.securityRevision) .integrity
  pure user

def movedUser (user : ProjectUser) (status : MemberStatus) (now : Instant) : ProjectUser :=
  { user with
    status := status
    userRevision := user.userRevision + 1
    securityRevision := user.securityRevision + 1
    updatedAt := now }

def moveUser (user : ProjectUser) (status : MemberStatus) (now : Instant) :
    Tx (Committed ProjectUser) := do
  let _ ← nextRevision user.userRevision
  let _ ← nextRevision user.securityRevision
  let updated := movedUser user status now
  let db ← fanOutUser env { db with users := db.users.set updated } updated now
  pure ⟨db, projectUserRecord updated⟩

def disableProjectUser (c : ChangeProjectUser) (db : Database) : Tx (Committed ProjectUser) := do
  let _ ← activeProject db c.projectId
  let user ← findUser db c.projectId c.userId
  ensure (user.securityRevision = c.expectedSecurityRevision) .revisionConflict
  match user.status with
  | .active => moveUser env db user .disabled c.now
  | .disabled => pure ⟨db, projectUserRecord user⟩
  | .merged => .error .integrity

def enableProjectUser (c : ChangeProjectUser) (db : Database) : Tx (Committed ProjectUser) := do
  let _ ← activeProject db c.projectId
  let user ← findUser db c.projectId c.userId
  ensure (user.securityRevision = c.expectedSecurityRevision) .revisionConflict
  match user.status with
  | .disabled => moveUser env db user .active c.now
  | .active => pure ⟨db, projectUserRecord user⟩
  | .merged => .error .invalidTransition

/-! ## sessions -/

structure RevokeSession where
  (projectId userId sessionId : Uuid)
  expectedSessionRevision : Int
  now : Instant

/-- only the session row is revoked; its refresh family keeps its status -/
def revokeApplicationSession (c : RevokeSession) (db : Database) :
    Tx (Committed ApplicationSession) := do
  let _ ← findProject db c.projectId
  let _ ← findUser db c.projectId c.userId
  let session ← require
    (db.sessions.find? fun s =>
      s.id = c.sessionId ∧ s.projectId = c.projectId ∧ s.userId = c.userId) .notFound
  ensure (session.sessionRevision = c.expectedSessionRevision) .revisionConflict
  let _ ← require
    (db.applications.find? fun a => a.id = session.applicationId ∧ a.projectId = c.projectId)
    .integrity
  match session.status with
  | .active => do
    let _ ← nextRevision session.sessionRevision
    let updated := revokedSession session c.now
    pure (.done { db with sessions := db.sessions.set updated } updated)
  | .revoked => pure (.done db session)
  | .expired => .error .integrity

def revokeBrowserSession (c : RevokeSession) (db : Database) : Tx (Committed BrowserSession) := do
  let _ ← findProject db c.projectId
  let _ ← findUser db c.projectId c.userId
  let browser ← require
    (db.browserSessions.find? fun b =>
      b.id = c.sessionId ∧ b.projectId = c.projectId ∧ b.userId = c.userId) .notFound
  ensure (browser.sessionRevision = c.expectedSessionRevision) .revisionConflict
  match browser.status with
  | .active => do
    let _ ← nextRevision browser.sessionRevision
    let updated := terminatedBrowser browser c.now
    pure (.done { db with browserSessions := db.browserSessions.set updated } updated)
  | .terminated => pure (.done db browser)
  | .expired => .error .integrity

/-! ## what a committed call did -/

/-- how a project can change: its revisions never go back -/
structure ProjectMove (p p' : Project) : Prop where
  id : p'.id = p.id
  securityRevision : p.securityRevision ≤ p'.securityRevision

/-- how an application can change: its revision never goes back, and a disabled one stays so -/
structure ApplicationMove (a a' : Application) : Prop where
  id : a'.id = a.id
  projectId : a'.projectId = a.projectId
  securityRevision : a.securityRevision ≤ a'.securityRevision
  disabled : a.status = .disabled → a'.status = .disabled

structure PolicyMove (p p' : ProjectPolicy) : Prop where
  projectId : p'.projectId = p.projectId
  claimsRevision : p.claimsRevision ≤ p'.claimsRevision
  sessionRevision : p.sessionRevision ≤ p'.sessionRevision

theorem ProjectMove.refl (p : Project) : ProjectMove p p := ⟨rfl, Int.le_refl _⟩

theorem ApplicationMove.refl (a : Application) : ApplicationMove a a :=
  ⟨rfl, rfl, Int.le_refl _, fun h => h⟩

theorem PolicyMove.refl (p : ProjectPolicy) : PolicyMove p p :=
  ⟨rfl, Int.le_refl _, Int.le_refl _⟩

structure SameSecrets (e e' : WebhookEndpoint) : Prop where
  id : e'.id = e.id
  current : e'.currentSecretGeneration = e.currentSecretGeneration
  overlap : e'.overlapSecretGeneration = e.overlapSecretGeneration
  expiry : e'.overlapExpiresAt = e.overlapExpiresAt
  pending : e'.status = .pending → e.status = .pending

theorem SameSecrets.refl (e : WebhookEndpoint) : SameSecrets e e :=
  ⟨rfl, rfl, rfl, rfl, fun h => h⟩

abbrev OnlyOwners (db db' : Database) : Prop :=
  db' = { db with
    projects := db'.projects
    applications := db'.applications
    redirects := db'.redirects
    policies := db'.policies
    providers := db'.providers
    assignments := db'.assignments
    managedConnections := db'.managedConnections
    managedCredentials := db'.managedCredentials
    renewalOperations := db'.renewalOperations
    endpoints := db'.endpoints
    operations := db'.operations
    materials := db'.materials }

/-- a change of the configuration: no row that depends on it is touched, and no material and no
managed connection unless a project is deleted -/
structure OwnerStep (deletes : Bool) (db db' : Database) : Prop where
  frame : OnlyOwners db db'
  projects : Evolves ProjectMove (fun _ => False) db.projects db'.projects
  applications : Evolves ApplicationMove (fun _ => False) db.applications db'.applications
  policies : Evolves PolicyMove (fun _ => False) db.policies db'.policies
  endpoints : Evolves SameSecrets (fun _ => False) db.endpoints db'.endpoints
  materials : deletes = false → db'.materials = db.materials
  vault : db'.vault = db.vault
    ∨ deletes = true ∧ ∃ projectId now, db'.vault = (eraseManagedConnections projectId now db).vault
  operations : db'.operations = db.operations
    ∨ deletes = true ∧ ∃ projectId materials, db'.operations
      = db.operations.update (CleanableOperation projectId materials) cleanupQueued (fun _ => rfl)

theorem OwnerStep.refl (deletes : Bool) (db) : OwnerStep deletes db db :=
  ⟨rfl, .refl .refl _, .refl .refl _, .refl .refl _, .refl .refl _,
    fun _ => rfl, .inl rfl, .inl rfl⟩

variable {db : Database} {p : Project} {applicationId : Uuid} {a : Application}
  {c : ChangeProjectUser} {r : Committed Project} {revision : Int} {env : Environment}

theorem OwnerStep.setProject {p'} (hp : p ∈ db.projects) (h : ProjectMove p p') :
    OwnerStep false db { db with projects := db.projects.set p' } :=
  ⟨rfl, evolves_set .refl hp h.id h, .refl .refl _, .refl .refl _,
    .refl .refl _, fun _ => rfl, .inl rfl, .inl rfl⟩

theorem movedProject_move (p : Project) (status : ProjectStatus) :
    ProjectMove p (movedProject p status) :=
  ⟨rfl, by show _ ≤ p.securityRevision + 1; omega⟩

theorem activeProject_ok {projectId} (h : activeProject db projectId = .ok p) :
    p ∈ db.projects ∧ p.id = projectId ∧ p.status = .active := by
  obtain ⟨_, hp, _, hs, h⟩ := peel₂ h
  cases h
  exact ⟨(findProject_ok hp).1, (findProject_ok hp).2, ensure_ok.mp hs⟩

theorem activeApplication_ok {projectId}
    (h : activeApplication db projectId applicationId = .ok a) :
    a ∈ db.applications ∧ a.status = .active := by
  obtain ⟨_, ha, _, hs, h⟩ := peel₂ h
  cases h
  exact ⟨(findApplication_ok ha).1, ensure_ok.mp hs⟩

theorem updateProjectPolicy_step {projectId c r} (h : updateProjectPolicy projectId c db = .ok r) :
    OwnerStep false db r.db := by
  obtain ⟨_, _, policy, hp, _, hrev, h⟩ := peel₃ h
  obtain ⟨_, _, _, h⟩ := later₃ h
  cases h
  obtain ⟨hp, _⟩ := find_ok hp
  obtain ⟨hc, hs⟩ := ensure_ok.mp hrev
  have hm : PolicyMove policy (updatedPolicy c policy) :=
    ⟨rfl, by show _ ≤ c.expectedClaimsRevision + 1; omega,
      by show _ ≤ c.expectedSessionRevision + 1; omega⟩
  exact ⟨rfl, .refl .refl _, .refl .refl _,
    evolves_set .refl hp rfl hm, .refl .refl _, fun _ => rfl, .inl rfl, .inl rfl⟩

theorem updateProject_step {projectId} (h : updateProject projectId revision db = .ok r) :
    OwnerStep false db r.db := by
  obtain ⟨_, hp, _, _, h⟩ := peel₂ h
  cases h
  exact OwnerStep.setProject (activeProject_ok hp).1 ⟨rfl, Int.le_refl _⟩

theorem disableProject_step {projectId} (h : disableProject projectId revision db = .ok r) :
    OwnerStep false db r.db := by
  obtain ⟨project, hp, _, _, h⟩ := peel₂ h
  cases h
  exact OwnerStep.setProject (activeProject_ok hp).1 (movedProject_move project _)

theorem enableProject_step {projectId} (h : enableProject projectId revision db = .ok r) :
    OwnerStep false db r.db := by
  obtain ⟨project, hp, _, _, _, _, h⟩ := peel₃ h
  cases h
  exact OwnerStep.setProject (findProject_ok hp).1 (movedProject_move project _)

theorem deleteProject_step {projectId now}
    (h : deleteProject projectId revision now db = .ok r) : OwnerStep true db r.db := by
  obtain ⟨project, hp, h⟩ := bind_ok.mp h
  split at h
  · cases h; exact .refl true db
  · obtain ⟨_, h⟩ := later h
    cases h
    have hm := movedProject_move project .deleting
    exact ⟨rfl,
      evolves_set .refl (findProject_ok hp).1 hm.id ⟨hm.id, hm.securityRevision⟩,
      .refl .refl _, .refl .refl _, .refl .refl _, by rintro ⟨⟩,
      .inr ⟨rfl, projectId, now, rfl⟩, .inr ⟨rfl, projectId, _, rfl⟩⟩

variable {r : Committed Application}

theorem updateApplication_step {projectId c}
    (h : updateApplication projectId applicationId c db = .ok r) : OwnerStep false db r.db := by
  obtain ⟨_, _, _, ha, _, _, h⟩ := peel₃ h
  cases h
  obtain ⟨ha, _⟩ := activeApplication_ok ha
  exact ⟨rfl, .refl .refl _,
    evolves_set .refl ha rfl ⟨rfl, rfl, Int.le_refl _, id⟩, .refl .refl _, .refl .refl _,
    fun _ => rfl, .inl rfl, .inl rfl⟩

theorem securedApplication_move (ha : a.status = .active) (status : OwnerStatus) :
    ApplicationMove a (securedApplication a status) :=
  ⟨rfl, rfl, by show _ ≤ a.securityRevision + 1; omega, fun h => by rw [ha] at h; cases h⟩

theorem replaceApplicationConfiguration_step {projectId c}
    (h : replaceApplicationConfiguration projectId applicationId c db = .ok r) :
    OwnerStep false db r.db := by
  obtain ⟨_, _, _, h⟩ := later₃ h
  obtain ⟨_, ha, _, _, _, _, h⟩ := peel₃ h
  cases h
  obtain ⟨ha, hs⟩ := activeApplication_ok ha
  exact ⟨rfl, .refl .refl _,
    evolves_set .refl ha rfl (securedApplication_move hs _), .refl .refl _, .refl .refl _,
    fun _ => rfl, .inl rfl, .inl rfl⟩

theorem disableApplication_step {projectId now}
    (h : disableApplication env projectId applicationId revision now db = .ok r) :
    OwnerStep false db r.db := by
  obtain ⟨_, _, _, _, _, ha, h⟩ := peel₃ h
  obtain ⟨_, _, _, h⟩ := later₃ h
  cases h
  obtain ⟨ha, hs⟩ := activeApplication_ok ha
  have hendpoints : Evolves SameSecrets (fun _ => False) db.endpoints
      (db.endpoints.update (OpenEndpoint projectId applicationId) (disabledEndpoint now)
        (fun _ => rfl)) :=
    evolves_update SameSecrets.refl _ (fun _ _ _ => ⟨rfl, rfl, rfl, rfl, fun h => nomatch h⟩)
  exact ⟨rfl, .refl .refl _,
    evolves_set .refl ha rfl (securedApplication_move hs _), .refl .refl _,
    hendpoints, fun _ => rfl, .inl rfl, .inl rfl⟩

/-! ### users -/

/-- a user was left alone, or moved to another status with the change announced -/
def UserMoved (env : Environment) (now : Instant) (db db' : Database) : Prop :=
  db' = db ∨ ∃ user ∈ db.users, ∃ status, status ≠ .merged ∧ user.status ≠ .merged
    ∧ (∃ project ∈ db.projects, project.id = user.projectId ∧ project.status = .active)
    ∧ fanOutUser env { db with users := db.users.set (movedUser user status now) }
        (movedUser user status now) now = .ok db'

variable {r : Committed ProjectUser}

theorem moveUser_ok {project projectId userId user status now}
    (hp : activeProject db projectId = .ok project) (hu : findUser db projectId userId = .ok user)
    (h : moveUser env db user status now = .ok r)
    (hs : status ≠ .merged ∧ user.status ≠ .merged) : UserMoved env now db r.db := by
  obtain ⟨hu, _, hup⟩ := findUser_ok hu
  obtain ⟨hp, hpid, hps⟩ := activeProject_ok hp
  obtain ⟨_, _, _, _, _, hf, h⟩ := peel₃ h
  cases h
  exact .inr ⟨user, hu, status, hs.1, hs.2, ⟨project, hp, hpid.trans hup.symm, hps⟩, hf⟩

theorem disableProjectUser_ok (h : disableProjectUser env c db = .ok r) :
    UserMoved env c.now db r.db := by
  obtain ⟨_, hp, _, hu, _, _, h⟩ := peel₃ h
  split at h
  · rename_i hs
    exact moveUser_ok hp hu h ⟨nofun, by rw [hs]; nofun⟩
  · cases h; exact .inl rfl
  · cases h

theorem enableProjectUser_ok (h : enableProjectUser env c db = .ok r) :
    UserMoved env c.now db r.db := by
  obtain ⟨_, hp, _, hu, _, _, h⟩ := peel₃ h
  split at h
  · rename_i hs
    exact moveUser_ok hp hu h ⟨nofun, by rw [hs]; nofun⟩
  · cases h; exact .inl rfl
  · cases h

abbrev OnlyUsers (db db' : Database) : Prop :=
  db' = { db with
    users := db'.users
    projections := db'.projections
    events := db'.events
    deliveries := db'.deliveries
    dispatchStates := db'.dispatchStates }

theorem UserMoved.frame {now db'} (h : UserMoved env now db db') : OnlyUsers db db' := by
  rcases h with rfl | ⟨_, _, _, _, _, _, hf⟩
  · rfl
  · obtain ⟨_, _, _, _, hdb⟩ := fanOutUser_frame hf
    rw [hdb]

end OwlAuth
