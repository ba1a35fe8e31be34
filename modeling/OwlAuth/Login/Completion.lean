import OwlAuth.Login.Authentication
import OwlAuth.Login.Browser
import OwlAuth.Managed.Connections

/-!
# The end of a login through a provider, or through the browser's own session

* `completeAuthenticatedIdentity`  the provider has named an identity: its user is found or created,
    a browser session and a handoff ticket are issued;
* `confirmBrowserSessionReuse`  the user confirms to go on with the browser's session.

A check that fails after the callback was claimed ends the login (`failProviderCompletion`); an
error of the store rolls back.

* `LoginIssued`  what every way of ending a login with a ticket does to the logins and tickets.
-/

namespace OwlAuth

open Fallible Table

structure CompleteAuthenticatedIdentity where
  (projectId transactionId : Uuid)
  expectedTransactionRevision : Int
  (issuer subject : String)
  profile : Profile
  /-- a renewable credential came along, and the adapter manages such credentials -/
  renewable : Option RenewableGrant
  newUserId : Uuid
  newUserPublicId : String
  (newIdentityId browserSessionId : Uuid)
  existingBrowserCredential : Option VersionedDigest
  browserCredential : VersionedDigest
  handoffId : Uuid
  handoffTicket : VersionedDigest
  now : Instant

structure ConfirmBrowserSessionReuse where
  (projectId transactionId : Uuid)
  expectedTransactionRevision : Int
  (browserBinding csrf browserCredential : VersionedDigest)
  handoffId : Uuid
  handoffTicket : VersionedDigest
  now : Instant

structure IssuedHandoff where
  (projectId applicationId userId : Uuid)
  userPublicId : String
  (browserSessionId handoffId : Uuid)
  redirectUri : String
  applicationState : ProtectedValue
  expiresAt : Instant

/-! ## the identity the provider named -/

def validateOptionalDigest : Option VersionedDigest → Tx Unit
  | none => pure ()
  | some d => validateDigest d

variable (env : Environment) (db : Database)

variable (c : CompleteAuthenticatedIdentity)

variable (login : LoginTransaction)

def checkCompletion : Tx ProviderConfiguration := do
  ensure (login.transactionRevision = c.expectedTransactionRevision) .revisionConflict
  validateDigest c.browserCredential
  validateDigest c.handoffTicket
  validateOptionalDigest c.existingBrowserCredential
  let providerId ← require login.providerConfigurationId .integrity
  let method ← require
    (db.loginMethods.find? fun m =>
      m.projectId = login.projectId ∧ m.transactionId = login.id
        ∧ m.providerConfigurationId = some providerId) .integrity
  revalidateLoginOwners db login providerId method
  let provider ← require
    (db.providers.find? fun p => p.id = providerId ∧ p.projectId = c.projectId) .integrity
  ensure (provider.issuer = c.issuer) .invalidInput
  pure provider

/-- the identity and its user, both active, or nothing for a subject seen for the first time -/
def resolveIdentity : Tx (Option (LinkedIdentity × ProjectUser)) :=
  match db.identities.find? fun i =>
      i.projectId = c.projectId ∧ i.issuer = c.issuer ∧ i.subject = c.subject with
  | some identity => do
    let user ← require
      (db.users.find? fun u => u.id = identity.userId ∧ u.projectId = c.projectId) .integrity
    ensure (identity.status = .active) .disabled
    ensure (user.status = .active) .disabled
    pure (some (identity, user))
  | none => do
    ensure (validPublicId c.newUserPublicId = true) .invalidInput
    pure none

def admitCompletion : Tx (ProviderConfiguration × Option (LinkedIdentity × ProjectUser)) := do
  let provider ← checkCompletion db c login
  let owner ← resolveIdentity db c
  pure (provider, owner)

def observedIdentity (identity : LinkedIdentity) : LinkedIdentity :=
  if identity.profile = c.profile then
    { identity with sourceProfileDigest := env.profileDigest c.profile, observedAt := c.now }
  else
    { identity with
      identityRevision := identity.identityRevision + 1
      profile := c.profile
      sourceProfileDigest := env.profileDigest c.profile
      observedAt := c.now }

/-- a field set locally, or else the one beneath it -/
def LocalProfileField.over (field : LocalProfileField) (beneath : Option String) : Option String :=
  if field.isSet then field.value else beneath

def effectiveProfile (user : ProjectUser) (beneath : Profile) : Profile :=
  { displayName := user.localDisplayName.over beneath.displayName
    pictureUrl := user.localPictureUrl.over beneath.pictureUrl
    locale := user.localLocale.over beneath.locale }

/-- the user with the profile of its primary identity, and whether the profile changed -/
def observedUser (identity : LinkedIdentity) (user : ProjectUser) : ProjectUser × Bool :=
  let profile := effectiveProfile user c.profile
  if user.primarySourceKind = .provider ∧ user.primaryProfileIdentityId = some identity.id then
    if user.profile = profile then
      ({ user with baseProfileDigest := env.profileDigest profile }, false)
    else
      ({ user with
        userRevision := user.userRevision + 1
        baseProfileDigest := env.profileDigest profile
        profile := profile
        updatedAt := c.now }, true)
  else (user, false)

def unsetField : LocalProfileField := ⟨false, none⟩

def newProviderUser : ProjectUser :=
  { id := c.newUserId
    projectId := c.projectId
    publicId := c.newUserPublicId
    status := .active
    mergedIntoUserId := none
    userRevision := 1
    securityRevision := 1
    primaryProfileIdentityId := some c.newIdentityId
    primaryEmailIdentityId := none
    primarySourceKind := .provider
    baseProfileDigest := env.profileDigest c.profile
    localDisplayName := unsetField
    localPictureUrl := unsetField
    localLocale := unsetField
    profile := c.profile
    createdAt := c.now
    updatedAt := c.now }

def newProviderIdentity (provider : ProviderConfiguration) : LinkedIdentity :=
  { id := c.newIdentityId
    projectId := c.projectId
    userId := c.newUserId
    createdViaProviderConfigurationId := provider.id
    issuer := c.issuer
    subject := c.subject
    status := .active
    identityRevision := 1
    sourceProfileDigest := env.profileDigest c.profile
    profile := c.profile
    observedAt := c.now }

/-- two users of a project never share a public id -/
def insertUser (users : Table ProjectUser) (u : ProjectUser) : Tx (Table ProjectUser) :=
  insertRow users u fun o => ¬ (o.projectId = u.projectId ∧ o.publicId = u.publicId)

structure ResolvedUser where
  user : ProjectUser
  identityId : Uuid
  profileChanged : Bool

def storeIdentity (db : Database) (provider : ProviderConfiguration)
    (owner : Option (LinkedIdentity × ProjectUser)) : Tx (Database × ResolvedUser) :=
  match owner with
  | some (identity, user) =>
    let observed := observedUser env c identity user
    pure ({ db with
      identities := db.identities.set (observedIdentity env c identity)
      users := db.users.set observed.1 }, ⟨observed.1, identity.id, observed.2⟩)
  | none => do
    let users ← insertUser db.users (newProviderUser env c)
    let identities ← insertRow db.identities (newProviderIdentity env c provider) fun i =>
      ¬ (i.projectId = c.projectId ∧ i.issuer = c.issuer ∧ i.subject = c.subject)
    pure ({ db with users := users, identities := identities },
      ⟨newProviderUser env c, c.newIdentityId, false⟩)

def announceProfile (resolved : ResolvedUser) (now : Instant) : Tx Database :=
  if resolved.profileChanged then fanOutUser env db resolved.user now else pure db

/-- a renewable credential is kept only for a provider that manages profiles, and only with exactly
the scopes of its capability -/
def keepCredential (provider : ProviderConfiguration)
    (resolved : ResolvedUser) (db : Database) : Tx Database :=
  match c.renewable with
  | none => pure db
  | some grant =>
    if provider.managedProfileEnabled = true ∧ grant.grantedScopes = grant.capability.exactScopes
    then do
      let keyVersion ← require env.managedKeyVersion .integrity
      upsertManagedConnection env
        { provider := provider
          identityId := resolved.identityId
          user := resolved.user
          projectSecurityRevision := login.projectSecurityRevision
          grant := grant
          keyVersion := keyVersion
          now := c.now } db
    else pure db

/-- a claimed exchange that fails a check ends the login -/
def failProviderCompletion (now : Instant) (e : ApplicationError) : Committed IssuedHandoff :=
  .fail { db with logins := db.logins.set (failedExchange login now) } e

def issuedHandoff (user : ProjectUser) (ticket : HandoffTicket) : IssuedHandoff :=
  { projectId := login.projectId
    applicationId := ticket.applicationId
    userId := user.id
    userPublicId := user.publicId
    browserSessionId := ticket.browserSessionId
    handoffId := ticket.id
    redirectUri := login.redirectUri
    applicationState := login.applicationState
    expiresAt := ticket.expiresAt }

def providerBrowserCompletion (user : ProjectUser) : BrowserSessionCompletion :=
  { projectId := c.projectId
    userId := user.id
    userSecurityRevision := user.securityRevision
    browserSessionId := c.browserSessionId
    existingBrowserCredential := c.existingBrowserCredential
    browserCredential := c.browserCredential
    projectSecurityRevision := login.projectSecurityRevision
    policySessionRevision := login.sessionRevision
    now := c.now }

/-- `complete_authenticated_identity` once every check has passed -/
def issueProviderHandoff (db : Database) (login : LoginTransaction)
    (provider : ProviderConfiguration)
    (owner : Option (LinkedIdentity × ProjectUser)) : Tx (Committed IssuedHandoff) := do
  let (db, resolved) ← storeIdentity env c db provider owner
  let db ← announceProfile env db resolved c.now
  let db ← keepCredential env c login provider resolved db
  let (browserSessions, browser) ← rotateOrCreateBrowserSession db.browserSessions
    (providerBrowserCompletion c login resolved.user)
  let expiresAt := min (c.now + seconds 60) login.expiresAt
  ensure (c.now < expiresAt) .invalidTransition
  let (tickets, ticket) ← insertHandoff db.tickets
    { id := c.handoffId
      digest := c.handoffTicket
      userId := resolved.user.id
      browserSessionId := browser.id
      authenticationMethod := .provider
      authenticatedAt := c.now
      issuedAt := c.now
      expiresAt := expiresAt
      userSecurityRevision := resolved.user.securityRevision } login
  pure (.done
    { db with
      browserSessions := browserSessions
      tickets := tickets
      logins := db.logins.set (issuedLogin login resolved.user.id c.now c.now) }
    (issuedHandoff login resolved.user ticket))

def completeAuthenticatedIdentity (db : Database) : Tx (Committed IssuedHandoff) := do
  let login ← findLogin db c.projectId c.transactionId
  if login.expiresAt ≤ c.now then
    pure (.fail (expireLogin db login c.now) .invalidTransition)
  else do
    ensure (login.status = .providerExchangeInProgress) .invalidTransition
    match admitCompletion db c login with
    | .error e => pure (failProviderCompletion db login c.now e)
    | .ok (provider, owner) => issueProviderHandoff env c db login provider owner

/-! ## the browser's own session -/

structure LoginOwners where
  project : Project
  application : Application
  policy : ProjectPolicy

def lockLoginApplicationOwners : Tx LoginOwners := do
  let project ← findProject db login.projectId
  let application ← findApplication db login.projectId login.applicationId
  let policy ← findPolicy db login.projectId
  ensure (project.status = .active ∧ application.status = .active
    ∧ project.metadataRevision = login.projectMetadataRevision
    ∧ project.securityRevision = login.projectSecurityRevision
    ∧ application.securityRevision = login.applicationSecurityRevision
    ∧ policy.claimsRevision = login.claimsRevision
    ∧ policy.sessionRevision = login.sessionRevision) .revisionConflict
  pure ⟨project, application, policy⟩

/-- the policy allows to go on with a session authenticated at `authenticatedAt` -/
def checkReusePolicy (policy : ProjectPolicy) (authenticatedAt now : Instant) : Tx Unit := do
  let maxAge ← require policy.browserSessionReuseMaxAgeSeconds .integrity
  ensure (policy.browserSessionReuse = some true ∧ 0 ≤ maxAge ∧ authenticatedAt ≤ now
    ∧ now - authenticatedAt ≤ seconds maxAge) .disabled

def reusedBrowser (browser : BrowserSession) (now : Instant) : BrowserSession :=
  let activityAt := max browser.lastActivityAt now
  { browser with
    sessionRevision := browser.sessionRevision + 1
    lastActivityAt := activityAt
    idleExpiresAt := min (activityAt + hours 8) browser.absoluteExpiresAt }

/-- `confirm_browser_session_reuse` for a login that has not expired -/
def reuseBrowserSession (c : ConfirmBrowserSessionReuse) (db : Database)
    (routed : BrowserSession) (login : LoginTransaction) : Tx (Committed IssuedHandoff) := do
  ensure (login.transactionRevision = c.expectedTransactionRevision) .revisionConflict
  ensure (login.browserBinding = some c.browserBinding ∧ login.csrf = some c.csrf) .notFound
  ensure (login.status.transition .handoffIssued = true) .invalidInput
  let owners ← lockLoginApplicationOwners db login
  let user ← findUser db c.projectId routed.userId
  let browser ← require
    (db.browserSessions.find? fun b => b.id = routed.id ∧ b.projectId = c.projectId) .notFound
  ensure (browser.credential = c.browserCredential ∧ BrowserLive browser c.now
    ∧ user.status = .active ∧ BrowserCurrent owners.project user owners.policy browser) .disabled
  checkReusePolicy owners.policy browser.authenticatedAt c.now
  let expiresAt := min (c.now + seconds 60) login.expiresAt
  ensure (c.now < expiresAt) .invalidTransition
  let (tickets, ticket) ← insertHandoff db.tickets
    { id := c.handoffId
      digest := c.handoffTicket
      userId := user.id
      browserSessionId := browser.id
      authenticationMethod := .sessionReuse
      authenticatedAt := browser.authenticatedAt
      issuedAt := c.now
      expiresAt := expiresAt
      userSecurityRevision := user.securityRevision } login
  pure (.done
    { db with
      browserSessions := db.browserSessions.set (reusedBrowser browser c.now)
      tickets := tickets
      logins := db.logins.set (issuedLogin login user.id browser.authenticatedAt c.now) }
    (issuedHandoff login user ticket))

def confirmBrowserSessionReuse (c : ConfirmBrowserSessionReuse) (db : Database) :
    Tx (Committed IssuedHandoff) := do
  validateDigest c.browserBinding
  validateDigest c.csrf
  validateDigest c.browserCredential
  validateDigest c.handoffTicket
  let routed ← require
    (db.browserSessions.find? fun b => b.credential = c.browserCredential) .notFound
  let login ← findLogin db c.projectId c.transactionId
  if login.expiresAt ≤ c.now then
    pure (.fail (expireLogin db login c.now) .invalidTransition)
  else reuseBrowserSession c db routed login

/-! ## what a committed call did -/

structure LoginIssued (db db' : Database) (login : LoginTransaction) (ticket : HandoffTicket)
    (authenticatedAt now : Instant) : Prop where
  loginMem : login ∈ db.logins
  path : Relation.TransGen LoginTransactionStatus.Allowed login.status .handoffIssued
  logins : db'.logins = db.logins.set (issuedLogin login ticket.userId authenticatedAt now)
  inserted : db.tickets.insert ticket = some db'.tickets
  row : ∃ issue provider, ticket = handoffTicketRow issue login provider
  expiry : ticket.expiresAt = min (ticket.issuedAt + seconds 60) login.expiresAt
  fresh : ∀ o ∈ db.tickets, o.ticket ≠ ticket.ticket
    ∧ ¬ (o.projectId = ticket.projectId ∧ o.loginTransactionId = ticket.loginTransactionId)

variable {db db' db₁ db₂ : Database} {login : LoginTransaction} {ticket : HandoffTicket}
  {authenticatedAt : Instant} {b browser : BrowserSession} {env : Environment}
  {c : CompleteAuthenticatedIdentity} {provider : ProviderConfiguration}
  {owner : Option (LinkedIdentity × ProjectUser)} {r : Committed IssuedHandoff}
  {resolved : ResolvedUser}

theorem LoginIssued.of_insert {issue tickets now} (hl : login ∈ db.logins)
    (hs : Relation.TransGen LoginTransactionStatus.Allowed login.status .handoffIssued)
    (hi : insertHandoff db.tickets issue login = .ok (tickets, ticket))
    (htickets : db'.tickets = tickets)
    (hlogins : db'.logins = db.logins.set (issuedLogin login issue.userId authenticatedAt now)) :
    LoginIssued db db' login ticket authenticatedAt now := by
  obtain ⟨_, hc, provider, _, _, hins, h⟩ := peel₃ hi
  cases h
  obtain ⟨hfresh, hins⟩ := insertRow_ok hins
  rw [← htickets] at hins
  exact ⟨hl, hs, hlogins, hins, ⟨issue, provider, rfl⟩, (ensure_ok.mp hc).2, hfresh⟩

theorem LoginTransactionStatus.path_of_authenticated {s}
    (h : s.transition .authenticated = true) : Relation.TransGen Allowed s .handoffIssued :=
  .tail (.single h) rfl

structure LoginCurrent (db : Database) (login : LoginTransaction) : Prop where
  project : ∃ p ∈ db.projects, p.id = login.projectId
    ∧ p.securityRevision = login.projectSecurityRevision
  policy : ∃ p ∈ db.policies, p.projectId = login.projectId
    ∧ p.sessionRevision = login.sessionRevision

theorem lockLoginApplicationOwners_current {owners}
    (h : lockLoginApplicationOwners db login = .ok owners) : LoginCurrent db login := by
  obtain ⟨project, hp, _, _, h⟩ := peel₂ h
  obtain ⟨policy, hpol, _, hc, h⟩ := peel₂ h
  obtain ⟨hpm, hpid⟩ := findProject_ok hp
  obtain ⟨hpolm, hpolid⟩ := findPolicy_ok hpol
  obtain ⟨_, _, _, hrev, _, _, hses⟩ := ensure_ok.mp hc
  exact ⟨⟨project, hpm, hpid, hrev⟩, ⟨policy, hpolm, hpolid, hses⟩⟩

/-- what is captured at a completion is current once the login has been -/
theorem browsers_now {user k r} (h : rotateOrCreateBrowserSession db.browserSessions k = .ok r)
    (hl : LoginCurrent db login) (hu : user ∈ db'.users) (hprojects : db'.projects = db.projects)
    (hpolicies : db'.policies = db.policies) (hkp : k.projectId = login.projectId)
    (hku : k.userId = user.id) (hkr : k.projectSecurityRevision = login.projectSecurityRevision)
    (hks : k.userSecurityRevision = user.securityRevision)
    (hkq : k.policySessionRevision = login.sessionRevision) :
    Evolves (BrowserMove (CapturesNow db')) (CapturesNow db') db.browserSessions r.1 := by
  obtain ⟨p, hp, hpid, hprev⟩ := hl.project
  obtain ⟨q, hq, hqid, hqrev⟩ := hl.policy
  have hnow : ∀ b, CapturedBy k b → CapturesNow db' b := by
    intro b hb
    constructor
    · exact ⟨p, by rw [hprojects]; exact hp, hpid.trans (hb.projectId.trans hkp).symm,
        hprev.trans (hb.project.trans hkr).symm⟩
    · exact ⟨user, hu, (hb.userId.trans hku).symm, (hb.user.trans hks).symm⟩
    · exact ⟨q, by rw [hpolicies]; exact hq, hqid.trans (hb.projectId.trans hkp).symm,
        hqrev.trans (hb.policy.trans hkq).symm⟩
  exact (rotateOrCreateBrowserSession_evolves h).mono (fun _ b h => ⟨h.id, h.projectId, h.userId,
    h.ended, h.revision, h.captured.imp_right (hnow b)⟩) hnow

/-- `db'` differs from `db` at most in what a login touches that is completed, `email` if by a proof
of an address -/
abbrev OnlyCompletion (email : Bool) (db db' : Database) : Prop :=
  db' = { db with
    users := db'.users
    identities := db'.identities
    emailIdentities := if email = true then db'.emailIdentities else db.emailIdentities
    emailAliases := if email = true then db'.emailAliases else db.emailAliases
    managedConnections :=
      if email = true then db.managedConnections else db'.managedConnections
    managedCredentials :=
      if email = true then db.managedCredentials else db'.managedCredentials
    renewalOperations := if email = true then db.renewalOperations else db'.renewalOperations
    logins := db'.logins
    emailChallenges := if email = true then db'.emailChallenges else db.emailChallenges
    transferContexts := if email = true then db'.transferContexts else db.transferContexts
    browserSessions := db'.browserSessions
    tickets := db'.tickets
    projections := db'.projections
    events := db'.events
    deliveries := db'.deliveries
    dispatchStates := db'.dispatchStates }

structure UserMove (u u' : ProjectUser) : Prop where
  id : u'.id = u.id
  projectId : u'.projectId = u.projectId
  createdAt : u'.createdAt = u.createdAt
  securityRevision : u.securityRevision ≤ u'.securityRevision
  merged : u.status = .merged → u'.status = .merged

theorem UserMove.refl (u : ProjectUser) : UserMove u u := ⟨rfl, rfl, rfl, Int.le_refl _, fun h => h⟩

theorem storeIdentity_frame {r} (h : storeIdentity env c db provider owner = .ok r) :
    ∃ users identities, r.1 = { db with users := users, identities := identities } := by
  unfold storeIdentity at h
  split at h
  · cases h; exact ⟨_, _, rfl⟩
  · obtain ⟨users, _, identities, _, h⟩ := peel₂ h
    cases h
    exact ⟨users, identities, rfl⟩

theorem storeIdentity_users {r} (ho : resolveIdentity db c = .ok owner)
    (h : storeIdentity env c db provider owner = .ok r) :
    Evolves UserMove (fun _ => True) db.users r.1.users ∧ r.2.user ∈ r.1.users := by
  unfold storeIdentity at h
  split at h
  · rename_i identity user
    have hu : user ∈ db.users := by
      unfold resolveIdentity at ho
      split at ho
      · obtain ⟨_, hu, _, _, _, _, ho⟩ := peel₃ ho
        cases ho
        exact (find_ok hu).1
      · obtain ⟨_, ho⟩ := later ho
        cases ho
    have hm : UserMove user (observedUser env c identity user).1 := by
      unfold observedUser
      dsimp only
      split
      · split
        · exact ⟨rfl, rfl, rfl, Int.le_refl _, fun h => h⟩
        · exact ⟨rfl, rfl, rfl, Int.le_refl _, fun h => h⟩
      · exact .refl user
    cases h
    exact ⟨evolves_set .refl hu hm.id hm, mem_set_self _ hu hm.id⟩
  · obtain ⟨users, hu, identities, _, h⟩ := peel₂ h
    cases h
    have hi := (insertRow_ok hu).2
    exact ⟨evolves_insert .refl hi trivial, (mem_insert hi).mpr (.inr rfl)⟩

theorem announceProfile_frame {now} (h : announceProfile env db resolved now = .ok db') :
    OnlyProjections db db' := by
  unfold announceProfile at h
  split at h
  · exact fanOutUser_frame h
  · cases h; exact .refl db

theorem admitCompletion_ok (h : admitCompletion db c login = .ok (provider, owner)) :
    LoginCurrent db login ∧ resolveIdentity db c = .ok owner := by
  obtain ⟨_, hcheck, _, ho, h⟩ := peel₂ h
  cases h
  refine ⟨?_, ho⟩
  obtain ⟨_, _, _, hcheck⟩ := later₃ hcheck
  obtain ⟨_, _, hcheck⟩ := later₂ hcheck
  obtain ⟨_, _, _, h, _⟩ := peel₂ hcheck
  obtain ⟨project, hp, _, hpr, _, _, h⟩ := peel₃ h
  obtain ⟨_, _, _, h⟩ := later₃ h
  obtain ⟨_, _, _, h⟩ := later₃ h
  obtain ⟨_, _, h⟩ := later₂ h
  obtain ⟨_, _, policy, hpol, h⟩ := peel₂ h
  obtain ⟨hpm, hpid⟩ := findProject_ok hp
  obtain ⟨hpolm, hpolid⟩ := findPolicy_ok hpol
  exact ⟨⟨project, hpm, hpid, (ensure_ok.mp hpr).2.2⟩, ⟨policy, hpolm, hpolid, (ensure_ok.mp h).2⟩⟩

structure ProviderIssued (env : Environment) (c : CompleteAuthenticatedIdentity) (db : Database)
    (login : LoginTransaction) (provider : ProviderConfiguration)
    (owner : Option (LinkedIdentity × ProjectUser)) (db₁ : Database) (resolved : ResolvedUser)
    (db₂ db' : Database) (ticket : HandoffTicket) : Prop where
  admitted : admitCompletion db c login = .ok (provider, owner)
  stored : storeIdentity env c db provider owner = .ok (db₁, resolved)
  announced : announceProfile env db₁ resolved c.now = .ok db₂
  project : login.projectId = c.projectId
  issued : LoginIssued db db' login ticket c.now c.now
  rotated : ∃ browser, rotateOrCreateBrowserSession db.browserSessions
    (providerBrowserCompletion c login resolved.user) = .ok (db'.browserSessions, browser)
  kept : keepCredential env c login provider resolved db₂ = .ok { db₂ with
    managedConnections := db'.managedConnections
    managedCredentials := db'.managedCredentials
    renewalOperations := db'.renewalOperations }
  frame : db' = { db₂ with
    managedConnections := db'.managedConnections
    managedCredentials := db'.managedCredentials
    renewalOperations := db'.renewalOperations
    browserSessions := db'.browserSessions
    tickets := db'.tickets
    logins := db'.logins }

theorem keepCredential_frame (h : keepCredential env c login provider resolved db = .ok db') :
    OnlyManaged db db' := by
  unfold keepCredential at h
  split at h
  · cases h; rfl
  · split at h
    · obtain ⟨_, h⟩ := later h
      obtain ⟨_, _, h⟩ := later₂ h
      split at h
      · obtain ⟨_, _, h⟩ := later₂ h
        cases h; rfl
      · obtain ⟨_, h⟩ := later h
        split at h
        · cases h; rfl
        · obtain ⟨_, _, h⟩ := later₂ h
          cases h; rfl
    · cases h; rfl

theorem issueProviderHandoff_ok (hl : login ∈ db.logins) (hp : login.projectId = c.projectId)
    (hs : login.status = .providerExchangeInProgress)
    (ha : admitCompletion db c login = .ok (provider, owner))
    (h : issueProviderHandoff env c db login provider owner = .ok r) :
    ∃ db₁ resolved db₂ ticket,
      ProviderIssued env c db login provider owner db₁ resolved db₂ r.db ticket := by
  obtain ⟨⟨db₁, resolved⟩, hst, db₂, han, db₃, hk, h⟩ := peel₃ h
  obtain ⟨⟨_, browser⟩, hb, _, _, ⟨_, ticket⟩, ht, h⟩ := peel₃ h
  cases h
  obtain ⟨_, _, hf₁⟩ := storeIdentity_frame hst
  obtain ⟨_, _, _, s, hf₂⟩ := announceProfile_frame han
  obtain ⟨connections, credentials, operations, rfl⟩ : ∃ connections credentials operations,
      db₃ = { db₂ with
        managedConnections := connections
        managedCredentials := credentials
        renewalOperations := operations } := ⟨_, _, _, keepCredential_frame hk⟩
  have hbr : db₂.browserSessions = db.browserSessions := by rw [hf₂, hf₁]
  have hti : db₂.tickets = db.tickets := by rw [hf₂, hf₁]
  have hlo : db₂.logins = db.logins := by rw [hf₂, hf₁]
  rw [hbr] at hb
  rw [hti] at ht
  refine ⟨db₁, resolved, db₂, ticket, ha, hst, han, hp, ?_, ⟨browser, hb⟩, hk, rfl⟩
  have hpath := LoginTransactionStatus.path_of_authenticated (s := login.status) (by rw [hs]; rfl)
  exact LoginIssued.of_insert hl hpath ht rfl (by rw [← hlo]; rfl)

theorem completeAuthenticatedIdentity_ok (h : completeAuthenticatedIdentity env c db = .ok r) :
    LoginStep false false [] db r.db ∨ ∃ login provider owner db₁ resolved db₂ ticket,
      ProviderIssued env c db login provider owner db₁ resolved db₂ r.db ticket := by
  obtain ⟨login, hl, h⟩ := bind_ok.mp h
  obtain ⟨hl, _, hp⟩ := find_ok hl
  split at h
  · cases h; exact .inl (expireLogin_step hl c.now)
  · obtain ⟨_, hs, h⟩ := bind_ok.mp h
    have hs := ensure_ok.mp hs
    split at h
    · cases h
      exact .inl (.set hl (.along ⟨rfl, rfl, rfl, rfl, rfl, rfl⟩ (by rw [hs]; rfl)
        (by rintro ⟨⟩) rfl rfl))
    · rename_i provider owner ha
      obtain ⟨db₁, resolved, db₂, ticket, hi⟩ := issueProviderHandoff_ok hl hp hs ha h
      exact .inr ⟨login, provider, owner, db₁, resolved, db₂, ticket, hi⟩

section
variable (h : ProviderIssued env c db login provider owner db₁ resolved db₂ db' ticket)
include h

theorem ProviderIssued.onlyCompletion : OnlyCompletion false db db' := by
  obtain ⟨_, _, hf₁⟩ := storeIdentity_frame h.stored
  obtain ⟨_, _, _, _, hf₂⟩ := announceProfile_frame h.announced
  dsimp only at hf₁
  rw [h.frame, hf₂, hf₁]
  rfl

theorem ProviderIssued.users : Evolves UserMove (fun _ => True) db.users db'.users := by
  obtain ⟨_, ho⟩ := admitCompletion_ok h.admitted
  obtain ⟨_, _, _, _, hf⟩ := announceProfile_frame h.announced
  rw [h.frame, hf]
  exact (storeIdentity_users ho h.stored).1

theorem ProviderIssued.browsersNow :
    Evolves (BrowserMove (CapturesNow db')) (CapturesNow db') db.browserSessions
      db'.browserSessions := by
  obtain ⟨hcurrent, ho⟩ := admitCompletion_ok h.admitted
  obtain ⟨_, _, _, _, hf⟩ := announceProfile_frame h.announced
  have huser : resolved.user ∈ db'.users := by
    rw [h.frame, hf]; exact (storeIdentity_users ho h.stored).2
  have hframe := h.onlyCompletion
  obtain ⟨_, hb⟩ := h.rotated
  exact browsers_now hb hcurrent huser (by rw [hframe]) (by rw [hframe]) h.project.symm rfl rfl rfl rfl

end

/-! ## the reuse of a browser session -/

structure ReuseIssued (c : ConfirmBrowserSessionReuse) (db : Database) (login : LoginTransaction)
    (browser : BrowserSession) (db' : Database) (ticket : HandoffTicket) : Prop where
  issued : LoginIssued db db' login ticket browser.authenticatedAt c.now
  browserMem : browser ∈ db.browserSessions
  live : BrowserLive browser c.now
  frame : db' = { db with
    browserSessions := db.browserSessions.set (reusedBrowser browser c.now)
    tickets := db'.tickets
    logins := db'.logins }

variable {c : ConfirmBrowserSessionReuse}

theorem ReuseIssued.browsersNow (h : ReuseIssued c db login browser db' ticket) {P} :
    Evolves (BrowserMove P) P db.browserSessions db'.browserSessions := by
  rw [h.frame]
  exact evolves_set .refl h.browserMem rfl ⟨rfl, rfl, rfl, fun hs => absurd h.live.1 hs,
    Int.le_of_lt (Int.lt_succ _), .inl ⟨rfl, rfl, rfl⟩⟩

theorem confirmBrowserSessionReuse_ok (h : confirmBrowserSessionReuse c db = .ok r) :
    LoginStep false false [] db r.db
      ∨ ∃ login browser ticket, ReuseIssued c db login browser r.db ticket := by
  obtain ⟨_, _, _, h⟩ := later₃ h
  obtain ⟨_, _, _, _, login, hl, h⟩ := peel₃ h
  obtain ⟨hl, _⟩ := find_ok hl
  split at h
  · cases h; exact .inl (expireLogin_step hl c.now)
  · obtain ⟨_, _, _, _, _, hs, h⟩ := peel₃ h
    obtain ⟨_, _, _, _, browser, hb, h⟩ := peel₃ h
    obtain ⟨_, hc, _, _, h⟩ := peel₂ h
    obtain ⟨_, _, ⟨_, ticket⟩, ht, h⟩ := peel₂ h
    cases h
    have hs : login.status.transition .handoffIssued = true := ensure_ok.mp hs
    refine .inr ⟨login, browser, ticket, ?_, (find_ok hb).1, (ensure_ok.mp hc).2.1, rfl⟩
    exact LoginIssued.of_insert hl (.single hs) ht rfl rfl

end OwlAuth
