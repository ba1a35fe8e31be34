import OwlAuth.Session.Refresh

/-!
# Handoff exchange

A login ends in a handoff ticket.  The application redeems the ticket in two transactions:
`prepareHandoffExchange` reads what the first access token will say, `commitHandoffExchange`
consumes the ticket, completes the login and opens the application session with its refresh family.

* `ExchangeAccepted`  everything a successful exchange checked;
* `commitHandoffExchange_ok`  what a committed exchange did: it expired the ticket, or it was
  accepted and opened one session.
-/

namespace OwlAuth

open Fallible Table

structure PrepareHandoffExchange where
  (projectId applicationId : Uuid)
  handoffTicket : VersionedDigest
  applicationPkceChallenge : String
  now : Instant

structure HandoffPreparation extends TokenPreparation where
  ticketId : Uuid
  (userSecurityRevision projectSecurityRevision applicationSecurityRevision : Int)
  sessionRevision : Int

structure CommitHandoffExchange where
  (projectId applicationId : Uuid)
  handoffTicket : VersionedDigest
  applicationPkceChallenge : String
  preparation : HandoffPreparation
  (bindingId projectionId applicationSessionId refreshFamilyId refreshGenerationId : Uuid)
  refreshToken : VersionedDigest
  allowedClockSkewSeconds : Int
  now : Instant

structure HandoffSessionRecord where
  (projectId applicationId userId : Uuid)
  userPublicId : String
  bindingId : Uuid
  projectionRevision : Int
  (applicationSessionId refreshFamilyId : Uuid)
  refreshGeneration : Int
  absoluteExpiresAt : Instant

/-! ## checks both phases make -/

variable (env : Environment) (db : Database)

def findTicket (projectId applicationId : Uuid) (ticket : VersionedDigest) : Tx HandoffTicket :=
  require (db.tickets.find? fun t =>
    t.projectId = projectId ∧ t.applicationId = applicationId ∧ t.ticket = ticket) .notFound

/-- the owners, and the revisions a ticket captured are the current ones -/
def TicketCurrent (project : Project) (application : Application) (user : ProjectUser)
    (policy : ProjectPolicy) (ticket : HandoffTicket) : Prop :=
  project.status = .active ∧ application.status = .active ∧ user.status = .active
    ∧ project.securityRevision = ticket.projectSecurityRevision
    ∧ application.securityRevision = ticket.applicationSecurityRevision
    ∧ user.securityRevision = ticket.userSecurityRevision
    ∧ policy.claimsRevision = ticket.claimsRevision
    ∧ policy.sessionRevision = ticket.policySessionRevision
  deriving Decidable

/-- the provider a ticket was earned through, and its assignment, are as they were -/
def checkTicketProvider (projectId applicationId : Uuid) (ticket : HandoffTicket) : Tx Unit :=
  if ticket.authenticationMethod = .provider then do
    let providerId ← require ticket.providerConfigurationId .integrity
    let provider ← require
      (db.providers.find? fun p => p.id = providerId ∧ p.projectId = projectId) .notFound
    let assignment ← require
      (db.assignments.find? fun a =>
        a.projectId = projectId ∧ a.applicationId = applicationId ∧ a.providerId = providerId)
      .notFound
    ensure (provider.status = .active ∧ some provider.revision = ticket.providerRevision
      ∧ assignment.status = .active
      ∧ some assignment.securityRevision = ticket.assignmentSecurityRevision) .revisionConflict
  else pure ()

def findBinding? (projectId applicationId userId : Uuid) : Option ApplicationUserBinding :=
  db.bindings.find? fun b =>
    b.projectId = projectId ∧ b.applicationId = applicationId ∧ b.userId = userId

def findProjection? (projectId bindingId : Uuid) : Option ApplicationUserProjection :=
  db.projections.find? fun p => p.projectId = projectId ∧ p.bindingId = bindingId

/-! ## preparation -/

def findExchangeProjection (projectId : Uuid) (binding : Option ApplicationUserBinding) :
    Tx (Option ApplicationUserProjection) :=
  match binding with
  | none => pure none
  | some binding => do
    ensure (binding.status = .active) .disabled
    let projection ← require (findProjection? db projectId binding.id) .integrity
    pure (some projection)

/-- the body of `prepare_handoff_exchange`, which only reads -/
def readHandoffPreparation (c : PrepareHandoffExchange) (db : Database) : Tx HandoffPreparation := do
  validateDigest c.handoffTicket
  ensure (isPkceS256Challenge c.applicationPkceChallenge = true) .invalidInput
  let ticket ← findTicket db c.projectId c.applicationId c.handoffTicket
  ensure (ticket.applicationPkceChallenge = c.applicationPkceChallenge) .notFound
  ensure (ticket.status = .issued ∧ c.now < ticket.expiresAt) .invalidTransition
  let login ← require
    (db.logins.find? fun l => l.id = ticket.loginTransactionId ∧ l.projectId = c.projectId)
    .integrity
  let project ← findProject db c.projectId
  let application ← findApplication db c.projectId c.applicationId
  let user ← findUser db c.projectId ticket.userId
  let policy ← findPolicy db c.projectId
  let browser ← findBrowserSession db c.projectId ticket.userId ticket.browserSessionId
  ensure (login.status = .handoffIssued ∧ login.userId = some ticket.userId
    ∧ login.applicationId = ticket.applicationId
    ∧ TicketCurrent project application user policy ticket
    ∧ BrowserLive browser c.now ∧ BrowserCurrent project user policy browser) .revisionConflict
  checkTicketProvider db c.projectId c.applicationId ticket
  let projection ← findExchangeProjection db c.projectId
    (findBinding? db c.projectId c.applicationId user.id)
  let material ← authoritativeRuntimeProjectionMaterial env db projection application.id user
  let signing ← activeSigningSnapshot db c.projectId c.now
  let lifetime ← accessTokenLifetime policy
  pure {
    toTokenPreparation := tokenPreparation project application user policy material signing lifetime
      ticket.authenticatedAt
    ticketId := ticket.id
    userSecurityRevision := user.securityRevision
    projectSecurityRevision := project.securityRevision
    applicationSecurityRevision := application.securityRevision
    sessionRevision := policy.sessionRevision }

def prepareHandoffExchange (c : PrepareHandoffExchange) (db : Database) :
    Tx (Committed HandoffPreparation) := do
  let preparation ← readHandoffPreparation env c db
  pure (.done db preparation)

/-! ## commit -/

structure ExchangeOwners where
  project : Project
  application : Application
  user : ProjectUser
  policy : ProjectPolicy
  browser : BrowserSession

def PreparedOwners (p : HandoffPreparation) (o : ExchangeOwners) (ticket : HandoffTicket) : Prop :=
  o.user.id = p.userId ∧ o.user.publicId = p.userPublicId
    ∧ o.project.securityRevision = p.projectSecurityRevision
    ∧ o.application.securityRevision = p.applicationSecurityRevision
    ∧ o.user.securityRevision = p.userSecurityRevision
    ∧ o.user.userRevision = p.userRevision
    ∧ o.policy.claimsRevision = p.claimsRevision
    ∧ o.policy.sessionRevision = p.sessionRevision
    ∧ ticket.authenticatedAt = p.authenticatedAt
  deriving Decidable

variable (c : CommitHandoffExchange)

variable (ticket : HandoffTicket)

def checkExchangeOwners : Tx ExchangeOwners := do
  let project ← findProject db c.projectId
  let application ← findApplication db c.projectId c.applicationId
  let user ← findUser db c.projectId ticket.userId
  let policy ← findPolicy db c.projectId
  let browser ← findBrowserSession db c.projectId ticket.userId ticket.browserSessionId
  let owners : ExchangeOwners := ⟨project, application, user, policy, browser⟩
  ensure (TicketCurrent project application user policy ticket ∧ BrowserLive browser c.now
    ∧ PreparedOwners c.preparation owners ticket) .revisionConflict
  let lifetime ← accessTokenLifetime policy
  ensure (lifetime = c.preparation.accessTokenLifetimeSeconds
    ∧ BrowserCurrent project user policy browser) .revisionConflict
  pure owners

def TicketOfLogin (login : LoginTransaction) : Prop :=
  login.status = .handoffIssued ∧ login.userId = some ticket.userId
    ∧ login.applicationId = ticket.applicationId ∧ login.redirectUri = ticket.redirectUri
    ∧ login.applicationPkceChallenge = ticket.applicationPkceChallenge
    ∧ ticket.expiresAt = min (ticket.issuedAt + seconds 60) login.expiresAt
  deriving Decidable

/-- the user's binding to the application, created at the first exchange -/
def exchangeBinding (db : Database) (user : ProjectUser) : Tx (Database × ApplicationUserBinding) :=
  match findBinding? db c.projectId c.applicationId user.id with
  | some binding => do
    ensure (binding.status = .active) .disabled
    pure (db, binding)
  | none => do
    let existing := db.bindings.filter fun b => b.projectId = c.projectId ∧ b.userId = user.id
    ensure (existing.length < maxApplicationBindingsPerUser) .invalidTransition
    let binding : ApplicationUserBinding :=
      { id := c.bindingId
        projectId := c.projectId
        applicationId := c.applicationId
        userId := user.id
        status := .active
        bindingRevision := 1
        mergedIntoBindingId := none
        mergedAt := none }
    let bindings ← insertRow db.bindings binding fun b =>
      ¬ (b.projectId = c.projectId ∧ b.applicationId = c.applicationId ∧ b.userId = user.id)
    pure ({ db with bindings := bindings }, binding)

def initialProjection (user : ProjectUser) (binding : ApplicationUserBinding)
    (material : ProjectionMaterial) : ApplicationUserProjection :=
  { id := c.projectionId
    projectId := c.projectId
    bindingId := binding.id
    applicationId := c.applicationId
    userId := user.id
    projectionRevision := material.revision
    sourceUserRevision := user.userRevision
    canonicalDigest := material.digest
    sourceBaseProfileDigest := user.baseProfileDigest
    verifiedEmailSourceIdentityId := material.verifiedEmailSourceIdentityId
    verifiedEmailCiphertext := material.verifiedEmailCiphertext
    verifiedEmailKeyVersion := material.verifiedEmailKeyVersion
    document := material.storageDocument
    createdAt := c.now
    updatedAt := c.now }

/-- the projection the access token describes, stored, and announced if it is new or changed -/
def exchangeProjection (db : Database) (owners : ExchangeOwners)
    (binding : ApplicationUserBinding) : Tx (Database × ApplicationUserProjection) := do
  let existing := findProjection? db c.projectId binding.id
  let material ← authoritativeRuntimeProjectionMaterial env db existing owners.application.id
    owners.user
  ensure (material.revision = c.preparation.projectionRevision
    ∧ material.document = c.preparation.projectionDocument) .revisionConflict
  match existing with
  | none => do
    let projection := initialProjection c owners.user binding material
    let projections ← insertRow db.projections projection fun p =>
      ¬ (p.projectId = c.projectId ∧ p.bindingId = binding.id)
    let db ← appendProjectionEvent env { db with projections := projections }
      owners.project.publicId owners.application.publicId binding.id projection material.document
      .created
    pure (db, projection)
  | some projection => do
    let (db, repaired, _) ← repairRuntimeProjection env db projection owners.application.id
      owners.user c.now
    if material.semanticChange then do
      let db ← appendProjectionEvent env db owners.project.publicId owners.application.publicId
        binding.id repaired material.document (changeEventType owners.user)
      pure (db, repaired)
    else pure (db, repaired)

variable (owners : ExchangeOwners)

def openedSession (binding : ApplicationUserBinding) : ApplicationSession :=
  { id := c.applicationSessionId
    projectId := c.projectId
    applicationId := c.applicationId
    userId := owners.user.id
    bindingId := binding.id
    browserSessionId := some owners.browser.id
    status := .active
    sessionRevision := 1
    projectSecurityRevision := owners.project.securityRevision
    applicationSecurityRevision := owners.application.securityRevision
    userSecurityRevision := owners.user.securityRevision
    claimsRevision := owners.policy.claimsRevision
    policySessionRevision := owners.policy.sessionRevision
    authenticatedAt := ticket.authenticatedAt
    absoluteExpiresAt := c.now + days 30
    revokedAt := none }

def openedFamily : RefreshFamily :=
  { id := c.refreshFamilyId
    projectId := c.projectId
    applicationId := c.applicationId
    userId := owners.user.id
    applicationSessionId := c.applicationSessionId
    status := .active
    familyRevision := 1
    currentGeneration := 1
    allowedClockSkewSeconds := c.allowedClockSkewSeconds
    absoluteExpiresAt := c.now + days 30
    revokedAt := none
    revocationReason := none }

def firstGeneration : RefreshTokenGeneration :=
  { id := c.refreshGenerationId
    projectId := c.projectId
    familyId := c.refreshFamilyId
    applicationId := c.applicationId
    userId := owners.user.id
    generation := 1
    token := c.refreshToken
    status := .current
    consumedAt := none
    replayDetectedAt := none
    retainUntil := c.now + days 30 + seconds c.allowedClockSkewSeconds }

def openSession (db : Database) (ticket : HandoffTicket) (owners : ExchangeOwners)
    (binding : ApplicationUserBinding) : Tx Database := do
  let sessions ← insertRow db.sessions (openedSession c ticket owners binding) fun _ => True
  let families ← insertRow db.families (openedFamily c owners) fun f =>
    ¬ (f.projectId = c.projectId ∧ f.applicationSessionId = c.applicationSessionId)
  let generations ← insertGeneration db.generations (firstGeneration c owners)
  pure { db with sessions := sessions, families := families, generations := generations }

def consumedTicket (now : Instant) : HandoffTicket :=
  { ticket with status := .consumed, consumedAt := some now }

def completedLogin (login : LoginTransaction) (now : Instant) : LoginTransaction :=
  { login with
    status := .completed
    transactionRevision := login.transactionRevision + 1
    terminalAt := some now
    updatedAt := now }

/-- `commit_handoff_exchange` for an issued ticket that has not expired -/
def exchangeTicket (db : Database)
    (ticket : HandoffTicket) : Tx (Committed HandoffSessionRecord) := do
  ensure (ticket.applicationPkceChallenge = c.applicationPkceChallenge) .notFound
  let login ← require
    (db.logins.find? fun l => l.id = ticket.loginTransactionId ∧ l.projectId = c.projectId)
    .integrity
  ensure (TicketOfLogin ticket login) .integrity
  let owners ← checkExchangeOwners db c ticket
  checkTicketProvider db c.projectId c.applicationId ticket
  lockSigningEpoch db c.projectId c.preparation.signingRingId c.preparation.signingKeyId
    c.preparation.signingEpoch c.now
  let (db, binding) ← exchangeBinding c db owners.user
  let (db, projection) ← exchangeProjection env c db owners binding
  let db ← openSession c db ticket owners binding
  pure (.done
    { db with
      tickets := db.tickets.set (consumedTicket ticket c.now)
      logins := db.logins.set (completedLogin login c.now) }
    { projectId := c.projectId
      applicationId := c.applicationId
      userId := owners.user.id
      userPublicId := owners.user.publicId
      bindingId := binding.id
      projectionRevision := projection.projectionRevision
      applicationSessionId := c.applicationSessionId
      refreshFamilyId := c.refreshFamilyId
      refreshGeneration := 1
      absoluteExpiresAt := c.now + days 30 })

def commitHandoffExchange (db : Database) : Tx (Committed HandoffSessionRecord) := do
  validateDigest c.handoffTicket
  validateDigest c.refreshToken
  ensure (isPkceS256Challenge c.applicationPkceChallenge = true ∧ 0 < c.preparation.userRevision
    ∧ 0 < c.preparation.signingEpoch
    ∧ 0 ≤ c.allowedClockSkewSeconds ∧ c.allowedClockSkewSeconds ≤ 300) .invalidInput
  let ticket ← findTicket db c.projectId c.applicationId c.handoffTicket
  if ticket.id = c.preparation.ticketId ∧ ticket.status = .issued ∧ c.now < ticket.expiresAt then
    exchangeTicket env c db ticket
  else if ticket.status = .issued ∧ ticket.expiresAt ≤ c.now then
    pure (.fail { db with tickets := db.tickets.set { ticket with status := .expired } }
      .invalidTransition)
  else .error .invalidTransition

variable {env : Environment} {c : CommitHandoffExchange} {db : Database}
  {r : Committed HandoffPreparation} {binding : ApplicationUserBinding}
  {ticket : HandoffTicket}

/-! ## what a committed call did -/

theorem prepareHandoffExchange_db {c} (h : prepareHandoffExchange env c db = .ok r) : r.db = db:= by
  obtain ⟨_, h⟩ := later h
  cases h
  rfl

theorem prepareHandoffExchange_ok {c} (h : prepareHandoffExchange env c db = .ok r) :
    ∃ ticket ∈ db.tickets, ∃ project application user policy preparation,
      r.reply = .ok preparation ∧ preparation.ticketId = ticket.id
        ∧ ticket.projectId = c.projectId ∧ ticket.applicationId = c.applicationId
        ∧ findProject db c.projectId = .ok project
        ∧ findApplication db c.projectId c.applicationId = .ok application
        ∧ findUser db c.projectId ticket.userId = .ok user
        ∧ findPolicy db c.projectId = .ok policy
        ∧ TicketCurrent project application user policy ticket
        ∧ preparation.Captures db c.projectId c.now := by
  obtain ⟨preparation, hread, h⟩ := bind_ok.mp h
  cases h
  obtain ⟨_, h⟩ := later hread
  obtain ⟨_, _, ticket, ht, _, _, h⟩ := peel₃ h
  obtain ⟨_, _, _, _, project, hp, h⟩ := peel₃ h
  obtain ⟨application, ha, user, hu, policy, hpol, h⟩ := peel₃ h
  obtain ⟨_, _, _, hc, _, _, h⟩ := peel₃ h
  obtain ⟨_, _, h⟩ := later₂ h
  obtain ⟨signing, hsig, _, _, h⟩ := peel₂ h
  cases h
  obtain ⟨htm, htp, hta, _⟩ := find_ok ht
  obtain ⟨_, _, _, hcurrent, _⟩ := ensure_ok.mp hc
  exact ⟨ticket, htm, project, application, user, policy, _, rfl, rfl, htp, hta, hp, ha, hu, hpol,
    hcurrent, signing, hsig, rfl, rfl, rfl⟩

def OnlyViews (db db' : Database) : Prop :=
  ∃ bindings projections events deliveries states,
    db' = { db with
      bindings := bindings
      projections := projections
      events := events
      deliveries := deliveries
      dispatchStates := states }

theorem exchangeProjection_frame {owners r}
    (h : exchangeProjection env c db owners binding = .ok r) : OnlyProjections db r.1 := by
  obtain ⟨_, _, h⟩ := later₂ h
  split at h
  · obtain ⟨projections, _, db₁, ha, h⟩ := peel₂ h
    cases h
    have h₀ : OnlyProjections db { db with projections := projections } :=
      ⟨projections, db.events, db.deliveries, db.dispatchStates, rfl⟩
    exact h₀.trans (appendProjectionEvent_frame ha)
  · obtain ⟨⟨db₁, _, _⟩, hr, h⟩ := bind_ok.mp h
    have h₁ : OnlyProjections db db₁ := repairRuntimeProjection_frame hr
    dsimp only at h
    split at h
    · obtain ⟨_, ha, h⟩ := bind_ok.mp h
      cases h
      exact h₁.trans (appendProjectionEvent_frame ha)
    · cases h; exact h₁

structure ExchangeAccepted (db : Database) (c : CommitHandoffExchange) (ticket : HandoffTicket)
    (login : LoginTransaction) (owners : ExchangeOwners) : Prop where
  ticketMem : ticket ∈ db.tickets
  ticketProject : ticket.projectId = c.projectId
  ticketApplication : ticket.applicationId = c.applicationId
  ticketDigest : ticket.ticket = c.handoffTicket
  ticketId : ticket.id = c.preparation.ticketId
  issued : ticket.status = .issued
  unexpired : c.now < ticket.expiresAt
  pkce : ticket.applicationPkceChallenge = c.applicationPkceChallenge
  loginMem : login ∈ db.logins
  loginId : login.id = ticket.loginTransactionId
  loginProject : login.projectId = c.projectId
  ofLogin : TicketOfLogin ticket login
  owners : checkExchangeOwners db c ticket = .ok owners
  signing : lockSigningEpoch db c.projectId c.preparation.signingRingId
    c.preparation.signingKeyId c.preparation.signingEpoch c.now = .ok ()

structure SessionOpened (db : Database) (c : CommitHandoffExchange) (ticket : HandoffTicket)
    (owners : ExchangeOwners) (binding : ApplicationUserBinding)
    (sessions : Table ApplicationSession) (families : Table RefreshFamily)
    (generations : Table RefreshTokenGeneration) : Prop where
  sessions : insertRow db.sessions (openedSession c ticket owners binding) (fun _ => True)
    = .ok sessions
  families : insertRow db.families (openedFamily c owners)
    (fun f => ¬ (f.projectId = c.projectId ∧ f.applicationSessionId = c.applicationSessionId))
    = .ok families
  generations : insertGeneration db.generations (firstGeneration c owners) = .ok generations

def ExchangeViews (env : Environment) (c : CommitHandoffExchange) (db : Database)
    (owners : ExchangeOwners) (binding : ApplicationUserBinding)
    (projection : ApplicationUserProjection) (db₁ : Database) : Prop :=
  ∃ db₀, exchangeBinding c db owners.user = .ok (db₀, binding)
    ∧ exchangeProjection env c db₀ owners binding = .ok (db₁, projection)

variable {r : Committed HandoffSessionRecord}

theorem ExchangeViews.only {owners projection db₁}
    (h : ExchangeViews env c db owners binding projection db₁) :
    OnlyViews db db₁ := by
  obtain ⟨db₀, hb, hp⟩ := h
  obtain ⟨bindings, hb⟩ : ∃ bindings, db₀ = { db with bindings := bindings } := by
    unfold exchangeBinding at hb
    split at hb
    · obtain ⟨_, h⟩ := later hb
      cases h
      exact ⟨db.bindings, rfl⟩
    · obtain ⟨_, _, bindings, _, h⟩ := peel₂ hb
      cases h
      exact ⟨bindings, rfl⟩
  obtain ⟨p, e, d, s, hp⟩ := exchangeProjection_frame hp
  subst hb
  exact ⟨bindings, p, e, d, s, hp⟩

theorem commitHandoffExchange_ok (h : commitHandoffExchange env c db = .ok r) :
    (∃ ticket ∈ db.tickets, ticket.status = .issued
        ∧ r = .fail { db with tickets := db.tickets.set { ticket with status := .expired } }
            .invalidTransition)
      ∨ ∃ ticket login owners binding projection db₁ sessions families generations record,
          ExchangeAccepted db c ticket login owners ∧ 0 < c.refreshToken.keyVersion
            ∧ ExchangeViews env c db owners binding projection db₁
            ∧ SessionOpened db c ticket owners binding sessions families generations
            ∧ r = .done
                { db₁ with
                  sessions := sessions
                  families := families
                  generations := generations
                  tickets := db.tickets.set (consumedTicket ticket c.now)
                  logins := db.logins.set (completedLogin login c.now) } record := by
  obtain ⟨_, _, _, hv, h⟩ := peel₂ h
  obtain ⟨_, _, ticket, ht, h⟩ := peel₂ h
  obtain ⟨hmem, htp, hta, htd⟩ := find_ok ht
  split at h
  · rename_i hc
    obtain ⟨hid, hst, hnow⟩ := hc
    obtain ⟨_, hpk, login, hl, _, hof, h⟩ := peel₃ h
    obtain ⟨owners, ho, _, _, _, hs, h⟩ := peel₃ h
    obtain ⟨⟨db₁, binding⟩, hb, ⟨db₂, projection⟩, hp, _, hopen, h⟩ := peel₃ h
    obtain ⟨sessions, hss, families, hfs, generations, hgs, hopen⟩ := peel₃ hopen
    cases hopen
    obtain ⟨hlm, hlid, hlp⟩ := find_ok hl
    have hviews : ExchangeViews env c db owners binding projection db₂ := ⟨db₁, hb, hp⟩
    obtain ⟨_, _, _, _, _, hframe⟩ := hviews.only
    have hsessions : db₂.sessions = db.sessions := by rw [hframe]
    have hfamilies : db₂.families = db.families := by rw [hframe]
    have hgenerations : db₂.generations = db.generations := by rw [hframe]
    have htickets : db₂.tickets = db.tickets := by rw [hframe]
    have hlogins : db₂.logins = db.logins := by rw [hframe]
    dsimp only at h
    rw [htickets, hlogins] at h
    cases h
    refine .inr ⟨ticket, login, owners, binding, projection, db₂, sessions, families, generations,
      _, ⟨hmem, htp, hta, htd, hid, hst, hnow, ensure_ok.mp hpk, hlm, hlid, hlp, ensure_ok.mp hof, ho,
        hs⟩, ensure_ok.mp hv, hviews, ⟨?_, ?_, ?_⟩, rfl⟩
    · rw [← hsessions]; exact hss
    · rw [← hfamilies]; exact hfs
    · rw [← hgenerations]; exact hgs
  · split at h
    · rename_i hc; cases h; exact .inl ⟨ticket, hmem, hc.1, rfl⟩
    · cases h

theorem checkExchangeOwners_ok {o} (h : checkExchangeOwners db c ticket = .ok o) :
    findProject db c.projectId = .ok o.project
      ∧ findApplication db c.projectId c.applicationId = .ok o.application
      ∧ findUser db c.projectId ticket.userId = .ok o.user
      ∧ findPolicy db c.projectId = .ok o.policy
      ∧ findBrowserSession db c.projectId ticket.userId ticket.browserSessionId = .ok o.browser
      ∧ TicketCurrent o.project o.application o.user o.policy ticket
      ∧ BrowserLive o.browser c.now ∧ BrowserCurrent o.project o.user o.policy o.browser
      ∧ PreparedOwners c.preparation o ticket
      ∧ accessTokenLifetime o.policy = .ok c.preparation.accessTokenLifetimeSeconds := by
  obtain ⟨_, hp, _, ha, _, hu, h⟩ := peel₃ h
  obtain ⟨_, hpol, _, hb, _, hc, h⟩ := peel₃ h
  obtain ⟨_, hl, _, hlb, h⟩ := peel₂ h
  cases h
  obtain ⟨htc, hlive, hprep⟩ := ensure_ok.mp hc
  obtain ⟨rfl, hcur⟩ := ensure_ok.mp hlb
  exact ⟨hp, ha, hu, hpol, hb, htc, hlive, hcur, hprep, hl⟩

end OwlAuth
