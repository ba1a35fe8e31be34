import OwlAuth.Base.Evolve
import OwlAuth.Mail.Delivery
import OwlAuth.Session.Admission
import Mathlib.Data.List.Sort
import Mathlib.Logic.Relation

/-!
# Login transactions up to the provider callback

The steps of a login before an identity is known: it is created with the methods the application
admits, bound to a browser, a provider is selected, and the provider's callback is claimed, denied
or fails.  None of them touches anything but the login rows (`LoginStep`): each login keeps what it
captured when it was created (`LoginKept`) and none of them completes one (`LoginMove`); its status
moves along the table of `LoginTransactionStatus`, but for a denial and for the deadline of an
exchange in progress (`StatusTurn`).
-/

namespace OwlAuth

open Fallible Table

structure LoginRevisionSnapshot where
  (projectMetadataRevision projectSecurityRevision applicationSecurityRevision claimsRevision : Int)
  sessionRevision : Int

structure AdmittedProviderMethod where
  kind : ProviderKind
  methodKey : String
  providerId : Uuid
  (displayName issuer : String)
  providerRevision : Int
  providerEgressPolicyRevision : Option Int
  assignmentSecurityRevision : Int

structure CreateLoginTransaction where
  (id projectId applicationId : Uuid)
  interaction : VersionedDigest
  (redirectUri applicationPkceChallenge : String)
  applicationState : ProtectedValue
  presentationHint : Option String
  revisions : LoginRevisionSnapshot
  (createdAt expiresAt : Instant)
  admittedProviders : List AdmittedProviderMethod
  admittedEmail : Option AdmittedEmailMethod

structure BindHostedBrowser where
  (interaction browserBinding csrf : VersionedDigest)
  expectedTransactionRevision : Int
  now : Instant

structure SelectProviderMethod where
  (projectId transactionId : Uuid)
  expectedTransactionRevision : Int
  (browserBinding csrf : VersionedDigest)
  methodKey : String
  providerId : Uuid
  callbackUrl : String
  (upstreamState oidcNonce : VersionedDigest)
  providerPkce : ProtectedValue
  now : Instant

structure ClaimProviderCallback where
  (projectPublicId providerKey : String)
  transactionId : Uuid
  (upstreamState browserBinding : VersionedDigest)
  readableKeyVersions : List Int
  now : Instant

structure DenyProviderCallback where
  (projectPublicId providerKey : String)
  transactionId : Uuid
  (upstreamState browserBinding : VersionedDigest)
  safeOutcome : String
  now : Instant

structure FailProviderExchange where
  (projectId transactionId : Uuid)
  expectedTransactionRevision : Int
  now : Instant

structure RecoverProviderExchanges where
  abandonedBefore : Instant
  limit : Nat
  now : Instant

structure LoginTransactionRecord where
  (id projectId applicationId : Uuid)
  status : LoginTransactionStatus
  transactionRevision : Int
  expiresAt : Instant

structure ClaimedProviderExchange where
  transaction : LoginTransactionRecord
  providerId : Uuid
  callbackUrl : String
  oidcNonce : VersionedDigest
  providerPkce : ProtectedValue

def loginRecord (l : LoginTransaction) : LoginTransactionRecord :=
  ⟨l.id, l.projectId, l.applicationId, l.status, l.transactionRevision, l.expiresAt⟩

/-! ## providers -/

def googleIssuer : String := "https://accounts.google.com"
def githubIssuer : String := "https://github.com"

/-- `issuer` without one final slash -/
def canonicalRoot (issuer : String) : List Char :=
  match issuer.toList.reverse with
  | '/' :: rest => rest.reverse
  | _ => issuer.toList

def ProviderKind.issuerMatches (kind : ProviderKind) (issuer : String) : Bool :=
  match kind with
  | .google => issuer == googleIssuer
  | .github => issuer == githubIssuer
  | .oidc => decide (canonicalRoot issuer ≠ googleIssuer.toList
      ∧ canonicalRoot issuer ≠ githubIssuer.toList)

def effectiveProviderKind (provider : ProviderConfiguration) : Tx ProviderKind := do
  ensure (provider.kind.issuerMatches provider.issuer = true) .integrity
  pure provider.kind

/-! ## creation -/

def validateRevisions (r : LoginRevisionSnapshot) : Tx Unit :=
  ensure (0 < r.projectMetadataRevision ∧ 0 < r.projectSecurityRevision
    ∧ 0 < r.applicationSecurityRevision ∧ 0 < r.claimsRevision ∧ 0 < r.sessionRevision)
    .invalidInput

variable (c : CreateLoginTransaction)

def validateLoginCommand : Tx Unit := do
  validateDigest c.interaction
  validateProtected c.applicationState
  validateRevisions c.revisions
  ensure (isPkceS256Challenge c.applicationPkceChallenge = true ∧ 8 ≤ c.redirectUri.utf8ByteSize
    ∧ ¬ (c.admittedProviders = [] ∧ c.admittedEmail.isNone = true)
    ∧ c.expiresAt = c.createdAt + minutes 10) .invalidInput

def validateAdmittedProvider (m : AdmittedProviderMethod) : Tx Unit :=
  ensure (m.methodKey ≠ "" ∧ m.displayName ≠ "" ∧ m.issuer ≠ ""
    ∧ m.issuer.utf8ByteSize ≤ 2048 ∧ m.kind.issuerMatches m.issuer = true
    ∧ 0 < m.providerRevision ∧ 0 < m.assignmentSecurityRevision) .invalidInput

variable (db : Database)

def admitProvider (projectId applicationId : Uuid) (m : AdmittedProviderMethod) : Tx Unit := do
  validateAdmittedProvider m
  let assignment ← require
    (db.assignments.find? fun a =>
      a.projectId = projectId ∧ a.applicationId = applicationId ∧ a.status = .active
        ∧ a.providerId = m.providerId) .revisionConflict
  ensure (assignment.securityRevision = m.assignmentSecurityRevision) .revisionConflict
  let provider ← require
    (db.providers.find? fun p => p.id = m.providerId ∧ p.projectId = projectId) .revisionConflict
  let kind ← effectiveProviderKind provider
  ensure (provider.status = .active ∧ provider.revision = m.providerRevision
    ∧ provider.providerKey = m.methodKey ∧ provider.displayName = m.displayName
    ∧ provider.issuer = m.issuer ∧ kind = m.kind) .revisionConflict

def validateAdmittedEmail (m : AdmittedEmailMethod) : Tx Unit :=
  ensure (0 < m.authority.policyRevision ∧ 0 < m.authority.securityRevision
    ∧ 0 < m.authority.assignmentSecurityRevision
    ∧ (m.otpEnabled = true ∨ m.magicLinkEnabled = true)
    ∧ (6 ≤ m.otpDigits ∧ m.otpDigits ≤ 10)
    ∧ (30 ≤ m.otpValiditySeconds ∧ m.otpValiditySeconds ≤ 600)
    ∧ (1 ≤ m.otpMaxAttempts ∧ m.otpMaxAttempts ≤ 5)
    ∧ (30 ≤ m.resendAfterSeconds ∧ m.resendAfterSeconds ≤ 600)
    ∧ (1 ≤ m.maxGenerations ∧ m.maxGenerations ≤ 5)
    ∧ (30 ≤ m.magicValiditySeconds ∧ m.magicValiditySeconds ≤ 600)
    ∧ (m.authority.smtpSelectionKind = .project ↔ m.authority.smtpConfigurationId.isSome = true)
    ∧ 0 < m.authority.smtpGeneration
    ∧ 0 < m.authority.smtpSecurityEligibilityRevision) .invalidInput

def admitEmail : Tx Unit :=
  match c.admittedEmail with
  | none => pure ()
  | some m => do
    validateAdmittedEmail m
    emailMethodAdmitted db c.projectId c.applicationId m.authority c.createdAt

def newLogin : LoginTransaction :=
  { id := c.id
    projectId := c.projectId
    applicationId := c.applicationId
    interaction := c.interaction
    status := .awaitingBrowserBinding
    transactionRevision := 1
    redirectUri := c.redirectUri
    applicationPkceChallenge := c.applicationPkceChallenge
    applicationState := c.applicationState
    presentationHint := c.presentationHint
    browserBinding := none
    csrf := none
    selectedMethod := none
    providerConfigurationId := none
    userId := none
    callbackUrl := none
    upstreamState := none
    oidcNonce := none
    providerPkce := none
    projectMetadataRevision := c.revisions.projectMetadataRevision
    projectSecurityRevision := c.revisions.projectSecurityRevision
    applicationSecurityRevision := c.revisions.applicationSecurityRevision
    providerRevision := none
    assignmentSecurityRevision := none
    claimsRevision := c.revisions.claimsRevision
    sessionRevision := c.revisions.sessionRevision
    authenticatedAt := none
    expiresAt := c.expiresAt
    terminalAt := none
    updatedAt := c.createdAt }

def providerMethodRow (m : AdmittedProviderMethod) : LoginTransactionMethod :=
  { projectId := c.projectId
    transactionId := c.id
    methodKey := m.methodKey
    methodKind := .provider
    providerConfigurationId := some m.providerId
    displayName := m.displayName
    providerRevision := some m.providerRevision
    assignmentSecurityRevision := some m.assignmentSecurityRevision
    providerKind := some m.kind
    providerEgressPolicyRevision := m.providerEgressPolicyRevision }

def emailMethodRow : LoginTransactionMethod :=
  { projectId := c.projectId
    transactionId := c.id
    methodKey := "email"
    methodKind := .email
    providerConfigurationId := none
    displayName := "Email"
    providerRevision := none
    assignmentSecurityRevision := none
    providerKind := none
    providerEgressPolicyRevision := none }

def methodRows : List LoginTransactionMethod :=
  c.admittedProviders.map (providerMethodRow c)
    ++ (if c.admittedEmail.isSome then [emailMethodRow c] else [])

def insertEmailSnapshot (t : Table LoginEmailMethodSnapshot) (c : CreateLoginTransaction) :
    Tx (Table LoginEmailMethodSnapshot) :=
  match c.admittedEmail with
  | none => pure t
  | some m => insertRow t ⟨c.projectId, c.id, c.applicationId, m⟩ fun _ => True

def createLoginTransaction : Tx (Committed LoginTransactionRecord) := do
  validateLoginCommand c
  let project ← findProject db c.projectId
  ensure (project.status = .active) .disabled
  ensure (project.metadataRevision = c.revisions.projectMetadataRevision
    ∧ project.securityRevision = c.revisions.projectSecurityRevision) .revisionConflict
  let application ← findApplication db c.projectId c.applicationId
  ensure (application.status = .active) .disabled
  ensure (application.securityRevision = c.revisions.applicationSecurityRevision)
    .revisionConflict
  let _ ← require
    (db.redirects.find? fun r =>
      r.projectId = c.projectId ∧ r.applicationId = c.applicationId
        ∧ r.redirectUri = c.redirectUri) .invalidInput
  let policy ← findPolicy db c.projectId
  ensure (policy.claimsRevision = c.revisions.claimsRevision
    ∧ policy.sessionRevision = c.revisions.sessionRevision) .revisionConflict
  let assignments := db.assignments.filter fun a =>
    a.projectId = c.projectId ∧ a.applicationId = c.applicationId ∧ a.status = .active
  ensure (c.admittedProviders.length ≤ assignments.length) .revisionConflict
  foldOk (fun _ m => admitProvider db c.projectId c.applicationId m) () c.admittedProviders
  admitEmail c db
  let login := newLogin c
  let logins ← insertRow db.logins login fun l => l.interaction ≠ c.interaction
  let methods ← foldOk (fun t m => insertRow t m fun _ => True) db.loginMethods (methodRows c)
  let snapshots ← insertEmailSnapshot db.emailSnapshots c
  pure (.done
    { db with logins := logins, loginMethods := methods, emailSnapshots := snapshots }
    (loginRecord login))

/-! ## transitions -/

variable (login : LoginTransaction)

def expiredLogin (now : Instant) : LoginTransaction :=
  { login with
    status := .expired
    transactionRevision := login.transactionRevision + 1
    terminalAt := some now
    updatedAt := now }

/-- `expire_login`: a login past its deadline ends, unless it already has -/
def expireLogin (now : Instant) : Database :=
  { db with
    logins :=
      if login.status.terminal then db.logins else db.logins.set (expiredLogin login now) }

def movedLogin (status : LoginTransactionStatus) (now : Instant) : LoginTransaction :=
  { login with
    status := status
    transactionRevision := login.transactionRevision + 1
    updatedAt := now }

def bindHostedBrowser (c : BindHostedBrowser) (db : Database) :
    Tx (Committed LoginTransactionRecord) := do
  validateDigest c.interaction
  validateDigest c.browserBinding
  validateDigest c.csrf
  let login ← require (db.logins.find? fun l => l.interaction = c.interaction) .notFound
  if login.expiresAt ≤ c.now then
    pure (.fail (expireLogin db login c.now) .invalidTransition)
  else do
    ensure (login.transactionRevision = c.expectedTransactionRevision) .revisionConflict
    ensure (login.status.transition .awaitingMethodSelection = true) .invalidTransition
    let updated : LoginTransaction :=
      { movedLogin login .awaitingMethodSelection c.now with
        browserBinding := some c.browserBinding
        csrf := some c.csrf }
    pure (.done { db with logins := db.logins.set updated } (loginRecord updated))

/-- the egress policy revision a method captured fits the kind of its provider -/
def checkEgressPolicy (projectId : Uuid) (kind : ProviderKind)
    (method : LoginTransactionMethod) : Tx Unit :=
  if kind = .oidc then do
    let policy ← require (db.egressPolicies.find? fun p => p.projectId = projectId) .integrity
    ensure (method.providerEgressPolicyRevision = some policy.revision) .revisionConflict
  else ensure (method.providerEgressPolicyRevision = none) .integrity

def revalidateLoginOwners (providerId : Uuid) (method : LoginTransactionMethod) : Tx Unit := do
  let project ← findProject db login.projectId
  ensure (project.status = .active ∧ project.metadataRevision = login.projectMetadataRevision
    ∧ project.securityRevision = login.projectSecurityRevision) .revisionConflict
  let application ← findApplication db login.projectId login.applicationId
  ensure (application.status = .active
    ∧ application.securityRevision = login.applicationSecurityRevision) .revisionConflict
  let provider ← require
    (db.providers.find? fun p => p.id = providerId ∧ p.projectId = login.projectId) .notFound
  ensure (provider.status = .active ∧ some provider.revision = method.providerRevision)
    .revisionConflict
  let kind ← effectiveProviderKind provider
  let snapshotKind ← require method.providerKind .integrity
  ensure (snapshotKind = kind) .revisionConflict
  checkEgressPolicy db login.projectId kind method
  let assignment ← require
    (db.assignments.find? fun a =>
      a.projectId = login.projectId ∧ a.applicationId = login.applicationId
        ∧ a.providerId = providerId) .revisionConflict
  ensure (assignment.status = .active
    ∧ some assignment.securityRevision = method.assignmentSecurityRevision) .revisionConflict
  let policy ← findPolicy db login.projectId
  ensure (policy.claimsRevision = login.claimsRevision
    ∧ policy.sessionRevision = login.sessionRevision) .revisionConflict

def findLogin (projectId transactionId : Uuid) : Tx LoginTransaction :=
  require (db.logins.find? fun l => l.id = transactionId ∧ l.projectId = projectId) .notFound

def findMethod (projectId transactionId : Uuid) (methodKey : String)
    (e : ApplicationError) : Tx LoginTransactionMethod :=
  require (db.loginMethods.find? fun m =>
    m.projectId = projectId ∧ m.transactionId = transactionId ∧ m.methodKey = methodKey) e

def selectProviderMethod (c : SelectProviderMethod) (db : Database) :
    Tx (Committed LoginTransactionRecord) := do
  validateDigest c.browserBinding
  validateDigest c.csrf
  validateDigest c.upstreamState
  validateDigest c.oidcNonce
  validateProtected c.providerPkce
  let login ← findLogin db c.projectId c.transactionId
  if login.expiresAt ≤ c.now then
    pure (.fail (expireLogin db login c.now) .invalidTransition)
  else do
    ensure (login.transactionRevision = c.expectedTransactionRevision) .revisionConflict
    ensure (login.browserBinding = some c.browserBinding ∧ login.csrf = some c.csrf) .notFound
    ensure (login.status.transition .providerAuthorizationStarted = true) .invalidTransition
    let method ← findMethod db c.projectId c.transactionId c.methodKey .invalidTransition
    ensure (method.methodKind = .provider
      ∧ method.providerConfigurationId = some c.providerId) .invalidTransition
    revalidateLoginOwners db login c.providerId method
    let provider ← require
      (db.providers.find? fun p => p.id = c.providerId ∧ p.projectId = c.projectId)
      .revisionConflict
    ensure (provider.callbackUrl = c.callbackUrl) .invalidInput
    ensure (∀ l ∈ db.logins.rows, l.upstreamState ≠ some c.upstreamState) .persistence
    let updated : LoginTransaction :=
      { movedLogin login .providerAuthorizationStarted c.now with
        selectedMethod := some .provider
        providerConfigurationId := some c.providerId
        callbackUrl := some provider.callbackUrl
        upstreamState := some c.upstreamState
        oidcNonce := some c.oidcNonce
        providerPkce := some c.providerPkce
        providerRevision := method.providerRevision
        assignmentSecurityRevision := method.assignmentSecurityRevision }
    pure (.done { db with logins := db.logins.set updated } (loginRecord updated))

def routeCallback (projectPublicId providerKey : String) (transactionId : Uuid)
    (upstreamState : VersionedDigest) : Tx (ProviderConfiguration × LoginTransaction) := do
  let project ← require (db.projects.find? fun p => p.publicId = projectPublicId) .notFound
  let provider ← require
    (db.providers.find? fun p => p.projectId = project.id ∧ p.providerKey = providerKey) .notFound
  let login ← require
    (db.logins.find? fun l =>
      l.id = transactionId ∧ l.projectId = project.id
        ∧ l.providerConfigurationId = some provider.id
        ∧ l.upstreamState = some upstreamState) .notFound
  pure (provider, login)

def claimProviderCallback (c : ClaimProviderCallback) (db : Database) :
    Tx (Committed ClaimedProviderExchange) := do
  validateDigest c.upstreamState
  validateDigest c.browserBinding
  let (provider, login) ←
    routeCallback db c.projectPublicId c.providerKey c.transactionId c.upstreamState
  if login.expiresAt ≤ c.now then
    pure (.fail (expireLogin db login c.now) .invalidTransition)
  else do
    ensure (login.browserBinding = some c.browserBinding) .notFound
    let oidcNonce ← require login.oidcNonce .integrity
    let providerPkce ← require login.providerPkce .integrity
    ensure (oidcNonce.keyVersion ∈ c.readableKeyVersions
      ∧ providerPkce.keyVersion ∈ c.readableKeyVersions) .integrity
    ensure (login.status.transition .providerExchangeInProgress = true) .invalidTransition
    let method ← findMethod db login.projectId login.id provider.providerKey .integrity
    revalidateLoginOwners db login provider.id method
    let callbackUrl ← require login.callbackUrl .integrity
    let updated := movedLogin login .providerExchangeInProgress c.now
    pure (.done { db with logins := db.logins.set updated }
      ⟨loginRecord updated, provider.id, callbackUrl, oidcNonce, providerPkce⟩)

def denyProviderCallback (c : DenyProviderCallback) (db : Database) :
    Tx (Committed LoginTransactionRecord) := do
  validateDigest c.upstreamState
  validateDigest c.browserBinding
  ensure (c.safeOutcome ≠ "" ∧ c.safeOutcome.utf8ByteSize ≤ 64) .invalidInput
  let (provider, login) ←
    routeCallback db c.projectPublicId c.providerKey c.transactionId c.upstreamState
  if login.expiresAt ≤ c.now then
    pure (.fail (expireLogin db login c.now) .invalidTransition)
  else do
    ensure (login.browserBinding = some c.browserBinding) .notFound
    ensure (login.status = .providerAuthorizationStarted) .invalidTransition
    let method ← findMethod db login.projectId login.id provider.providerKey .integrity
    revalidateLoginOwners db login provider.id method
    let updated : LoginTransaction :=
      { movedLogin login .providerExchangeFailed c.now with
        browserBinding := none
        csrf := none
        upstreamState := none
        oidcNonce := none
        providerPkce := none
        terminalAt := some c.now }
    pure (.done { db with logins := db.logins.set updated } (loginRecord updated))

def failedExchange (now : Instant) : LoginTransaction :=
  { movedLogin login .providerExchangeFailed now with terminalAt := some now }

def failProviderExchange (c : FailProviderExchange) (db : Database) :
    Tx (Committed LoginTransactionRecord) := do
  let login ← findLogin db c.projectId c.transactionId
  ensure (login.transactionRevision = c.expectedTransactionRevision) .revisionConflict
  ensure (login.status.transition .providerExchangeFailed = true) .invalidInput
  let updated := failedExchange login c.now
  pure (.done { db with logins := db.logins.set updated } (loginRecord updated))

/-- the exchanges claimed before the cut-off and never finished, oldest first -/
def abandonedExchanges (c : RecoverProviderExchanges) : List LoginTransaction :=
  ((db.logins.filter fun l =>
      l.status = .providerExchangeInProgress ∧ l.updatedAt < c.abandonedBefore).insertionSort
    fun a b => a.updatedAt < b.updatedAt ∨ (a.updatedAt = b.updatedAt ∧ a.id ≤ b.id)).take c.limit

def recoverAbandonedProviderExchanges (c : RecoverProviderExchanges) (db : Database) :
    Tx (Committed Nat) := do
  ensure (c.limit ≠ 0 ∧ c.limit ≤ 1000 ∧ c.abandonedBefore ≤ c.now) .invalidInput
  let abandoned := abandonedExchanges db c
  pure (.done
    { db with
      logins := db.logins.update (fun l => l.id ∈ abandoned.map LoginTransaction.id)
        (fun l => failedExchange l c.now) (fun _ => rfl) }
    abandoned.length)

/-! ## what a committed step did -/

structure LoginKept (l l' : LoginTransaction) : Prop where
  id : l'.id = l.id
  projectId : l'.projectId = l.projectId
  applicationId : l'.applicationId = l.applicationId
  redirectUri : l'.redirectUri = l.redirectUri
  applicationPkceChallenge : l'.applicationPkceChallenge = l.applicationPkceChallenge
  expiresAt : l'.expiresAt = l.expiresAt

theorem LoginKept.refl (l : LoginTransaction) : LoginKept l l := ⟨rfl, rfl, rfl, rfl, rfl, rfl⟩

theorem LoginKept.trans {a b c} (h : LoginKept a b) (h' : LoginKept b c) : LoginKept a c :=
  ⟨h'.id.trans h.id, h'.projectId.trans h.projectId, h'.applicationId.trans h.applicationId,
    h'.redirectUri.trans h.redirectUri,
    h'.applicationPkceChallenge.trans h.applicationPkceChallenge, h'.expiresAt.trans h.expiresAt⟩

def LoginTransactionStatus.Allowed (s s' : LoginTransactionStatus) : Prop := s.transition s' = true

inductive StatusTurn (denial : Bool) : LoginTransactionStatus → LoginTransactionStatus → Prop
  | kept (s : LoginTransactionStatus) : StatusTurn denial s s
  | along {s s' : LoginTransactionStatus} (h : s.transition s' = true) : StatusTurn denial s s'
  /-- a denial writes the end of an exchange that was never claimed -/
  | denied (h : denial = true) :
      StatusTurn denial .providerAuthorizationStarted .providerExchangeFailed
  /-- `expire_login` does not ask the table: the deadline ends an exchange in progress -/
  | overtaken : StatusTurn denial .providerExchangeInProgress .expired

structure LoginTurn (denial : Bool) (l l' : LoginTransaction) : Prop where
  status : StatusTurn denial l.status l'.status
  revision : l'.status = l.status ∨ l'.transactionRevision = l.transactionRevision + 1
  binding : l'.browserBinding = l.browserBinding
    ∨ (l.status = .awaitingBrowserBinding ∧ l'.status = .awaitingMethodSelection)
    ∨ l'.browserBinding = none

variable {c : CreateLoginTransaction} {denial : Bool} {l l' : LoginTransaction}
  {s : LoginTransactionStatus} {db : Database} {env : Environment}
  {r : Committed LoginTransactionRecord}

/-- a login moved without being completed -/
structure LoginMove (denial : Bool) (l l' : LoginTransaction) : Prop where
  kept : LoginKept l l'
  completed : l'.status = .completed ↔ l.status = .completed
  turn : LoginTurn denial l l'

theorem LoginMove.refl (l : LoginTransaction) : LoginMove denial l l :=
  ⟨.refl l, Iff.rfl, .kept _, .inl rfl, .inl rfl⟩

theorem LoginMove.of_open (hk : LoginKept l l') (h : l.status ≠ .completed)
    (h' : l'.status ≠ .completed) (ht : LoginTurn denial l l') : LoginMove denial l l' :=
  ⟨hk, ⟨fun e => absurd e h', fun e => absurd e h⟩, ht⟩

theorem LoginTransactionStatus.ne_completed_of_transition {s'}
    (h : s.transition s' = true) : s ≠ .completed := by
  rintro rfl
  cases s' <;> cases h

theorem LoginMove.along (hk : LoginKept l l') (h : l.status.transition l'.status = true)
    (h' : l'.status ≠ .completed) (hr : l'.transactionRevision = l.transactionRevision + 1)
    (hb : l'.browserBinding = l.browserBinding) : LoginMove denial l l' :=
  .of_open hk (LoginTransactionStatus.ne_completed_of_transition h) h' ⟨.along h, .inr hr, .inl hb⟩

/-- `db'` differs from `db` at most in what a step of a login touches: methods and snapshots only if
it creates logins, challenges and messages only if it is about an email -/
abbrev OnlyLogin (email : Bool) (cs : List CreateLoginTransaction) (db db' : Database) : Prop :=
  db' = { db with
    logins := db'.logins
    loginMethods := if cs.isEmpty = true then db.loginMethods else db'.loginMethods
    emailSnapshots := if cs.isEmpty = true then db.emailSnapshots else db'.emailSnapshots
    emailChallenges := if email = true then db'.emailChallenges else db.emailChallenges
    transferContexts := if email = true then db'.transferContexts else db.transferContexts
    mailOutbox := if email = true then db'.mailOutbox else db.mailOutbox }

/-- a step of the login area: only login rows changed, none was completed, and the new ones are
those of the creations `cs` -/
structure LoginStep (denial email : Bool) (cs : List CreateLoginTransaction) (db db' : Database) :
    Prop where
  frame : OnlyLogin email cs db db'
  moved : Evolves (LoginMove denial) (fun l => ∃ c ∈ cs, l = newLogin c) db.logins db'.logins

theorem LoginStep.set (hl : l ∈ db.logins) (h : LoginMove denial l l') :
    LoginStep denial false [] db { db with logins := db.logins.set l' } :=
  ⟨rfl, evolves_set .refl hl h.kept.id h⟩

theorem StatusTurn.expire (h : s.terminal = false) : StatusTurn denial s .expired := by
  cases s with
  | providerExchangeInProgress => exact .overtaken
  | completed => cases h
  | providerExchangeFailed => cases h
  | expired => cases h
  | cancelled => cases h
  | _ => exact .along rfl

theorem expireLogin_step {login} (hl : login ∈ db.logins) (now) :
    LoginStep denial false [] db (expireLogin db login now) := by
  unfold expireLogin
  cases hs : login.status.terminal with
  | true => exact ⟨rfl, .refl .refl _⟩
  | false =>
    have hturn : LoginTurn denial login (expiredLogin login now) := ⟨.expire hs, .inr rfl, .inl rfl⟩
    refine LoginStep.set hl (.of_open ⟨rfl, rfl, rfl, rfl, rfl, rfl⟩ ?_ nofun hturn)
    intro hc
    rw [hc] at hs
    cases hs

theorem createLoginTransaction_ok (h : createLoginTransaction c db = .ok r) :
    ∃ logins methods snapshots, db.logins.insert (newLogin c) = some logins
      ∧ r.db = { db with logins := logins, loginMethods := methods, emailSnapshots := snapshots }
      ∧ r.reply = .ok (loginRecord (newLogin c)) := by
  obtain ⟨_, _, _, h⟩ := later₃ h
  obtain ⟨_, _, _, h⟩ := later₃ h
  obtain ⟨_, _, _, h⟩ := later₃ h
  obtain ⟨_, _, _, h⟩ := later₃ h
  obtain ⟨_, _, logins, hl, h⟩ := peel₂ h
  obtain ⟨methods, _, snapshots, _, h⟩ := peel₂ h
  cases h
  exact ⟨logins, methods, snapshots, (insertRow_ok hl).2, rfl, rfl⟩

theorem createLoginTransaction_snapshots (h : createLoginTransaction c db = .ok r) :
    r.db.emailSnapshots = db.emailSnapshots
      ∨ ∃ m, 1 ≤ m.otpMaxAttempts ∧ 1 ≤ m.maxGenerations
        ∧ db.emailSnapshots.insert ⟨c.projectId, c.id, c.applicationId, m⟩
          = some r.db.emailSnapshots := by
  obtain ⟨_, _, project, _, _, _, h⟩ := peel₃ h
  obtain ⟨_, _, application, _, _, _, h⟩ := peel₃ h
  obtain ⟨_, _, redirect, _, policy, _, h⟩ := peel₃ h
  obtain ⟨_, _, _, h⟩ := later₃ h
  obtain ⟨_, hadmit, logins, _, h⟩ := peel₂ h
  obtain ⟨methods, _, snapshots, hs, h⟩ := peel₂ h
  cases h
  unfold insertEmailSnapshot at hs
  unfold admitEmail at hadmit
  split at hs
  · cases hs; exact .inl rfl
  · rename_i m hm
    rw [hm] at hadmit
    obtain ⟨_, hvalid, _⟩ := bind_ok.mp hadmit
    obtain ⟨_, _, _, _, _, _, ⟨hattempts, _⟩, _, ⟨hgens, _⟩, _⟩ := ensure_ok.mp hvalid
    exact .inr ⟨m, hattempts, hgens, (insertRow_ok hs).2⟩

theorem createLoginTransaction_step (h : createLoginTransaction c db = .ok r) :
    LoginStep false false [c] db r.db := by
  obtain ⟨_, _, _, hi, hr, _⟩ := createLoginTransaction_ok h
  rw [hr]
  exact ⟨rfl, evolves_insert .refl hi ⟨c, List.mem_singleton_self c, rfl⟩⟩

theorem bindHostedBrowser_step {c} (h : bindHostedBrowser c db = .ok r) :
    LoginStep false false [] db r.db := by
  obtain ⟨_, _, h⟩ := later₂ h
  obtain ⟨_, _, login, hl, h⟩ := peel₂ h
  obtain ⟨hl, _⟩ := find_ok hl
  split at h
  · cases h; exact expireLogin_step hl c.now
  · obtain ⟨_, _, _, ht, h⟩ := peel₂ h
    cases h
    have ht := ensure_ok.mp ht
    have hs : login.status = .awaitingBrowserBinding := by
      revert ht; cases login.status <;> decide
    have hne := LoginTransactionStatus.ne_completed_of_transition ht
    exact LoginStep.set hl (.of_open ⟨rfl, rfl, rfl, rfl, rfl, rfl⟩ hne (by rintro ⟨⟩)
      ⟨.along ht, .inr rfl, .inr (.inl ⟨hs, rfl⟩)⟩)

theorem selectProviderMethod_step {c} (h : selectProviderMethod c db = .ok r) :
    LoginStep false false [] db r.db := by
  obtain ⟨_, _, _, h⟩ := later₃ h
  obtain ⟨_, _, _, _, _, hl, h⟩ := peel₃ h
  obtain ⟨hl, _⟩ := find_ok hl
  split at h
  · cases h; exact expireLogin_step hl c.now
  · obtain ⟨_, _, _, _, _, ht, h⟩ := peel₃ h
    obtain ⟨_, _, _, h⟩ := later₃ h
    obtain ⟨_, _, _, h⟩ := later₃ h
    cases h
    exact LoginStep.set hl
      (.along ⟨rfl, rfl, rfl, rfl, rfl, rfl⟩ (ensure_ok.mp ht) (by rintro ⟨⟩) rfl rfl)

theorem routeCallback_mem {projectPublicId providerKey transactionId upstreamState pl}
    (h : routeCallback db projectPublicId providerKey transactionId upstreamState = .ok pl) :
    pl.2 ∈ db.logins := by
  obtain ⟨_, _, _, _, _, hl, h⟩ := peel₃ h
  cases h
  exact (find_ok hl).1

variable {c : ClaimProviderCallback}

theorem claimProviderCallback_ok {r} (h : claimProviderCallback c db = .ok r) :
    ∃ login ∈ db.logins, r = .fail (expireLogin db login c.now) .invalidTransition
      ∨ ∃ exchange : ClaimedProviderExchange,
        login.status.transition .providerExchangeInProgress = true
          ∧ exchange.transaction.id = login.id
          ∧ r = .done { db with
              logins := db.logins.set (movedLogin login .providerExchangeInProgress c.now) }
              exchange := by
  obtain ⟨_, _, _, _, ⟨_, login⟩, hl, h⟩ := peel₃ h
  have hl : login ∈ db.logins := routeCallback_mem hl
  dsimp only at h
  split at h
  · cases h; exact ⟨login, hl, .inl rfl⟩
  · obtain ⟨_, _, _, h⟩ := later₃ h
    obtain ⟨_, _, _, ht, _, _, h⟩ := peel₃ h
    obtain ⟨_, _, h⟩ := later₂ h
    cases h
    exact ⟨login, hl, .inr ⟨_, ensure_ok.mp ht, rfl, rfl⟩⟩

theorem claimProviderCallback_step {r}
    (h : claimProviderCallback c db = .ok r) : LoginStep false false [] db r.db := by
  obtain ⟨_, hl, rfl | ⟨_, ht, _, rfl⟩⟩ := claimProviderCallback_ok h
  · exact expireLogin_step hl c.now
  · exact LoginStep.set hl (.along ⟨rfl, rfl, rfl, rfl, rfl, rfl⟩ ht nofun rfl rfl)

theorem denyProviderCallback_step {c} (h : denyProviderCallback c db = .ok r) :
    LoginStep true false [] db r.db := by
  obtain ⟨_, _, h⟩ := later₂ h
  obtain ⟨_, _, ⟨_, login⟩, hl, h⟩ := peel₂ h
  have hl : login ∈ db.logins := routeCallback_mem hl
  dsimp only at h
  split at h
  · cases h; exact expireLogin_step hl c.now
  · obtain ⟨_, h⟩ := later h
    obtain ⟨_, hs, _, _, _, _, h⟩ := peel₃ h
    cases h
    have hs := ensure_ok.mp hs
    have hturn : StatusTurn true login.status .providerExchangeFailed := by
      rw [hs]; exact .denied rfl
    exact LoginStep.set hl (.of_open ⟨rfl, rfl, rfl, rfl, rfl, rfl⟩ (by rw [hs]; rintro ⟨⟩)
      (by rintro ⟨⟩) ⟨hturn, .inr rfl, .inr (.inr rfl)⟩)

theorem failProviderExchange_step {c} (h : failProviderExchange c db = .ok r) :
    LoginStep false false [] db r.db := by
  obtain ⟨_, hl, h⟩ := bind_ok.mp h
  obtain ⟨hl, _⟩ := find_ok hl
  obtain ⟨_, _, _, ht, h⟩ := peel₂ h
  cases h
  exact LoginStep.set hl (.along ⟨rfl, rfl, rfl, rfl, rfl, rfl⟩ (ensure_ok.mp ht) nofun rfl rfl)

variable {c : RecoverProviderExchanges}

theorem recoverAbandonedProviderExchanges_step {r}
    (h : recoverAbandonedProviderExchanges c db = .ok r) : LoginStep false false [] db r.db := by
  obtain ⟨_, h⟩ := later h
  cases h
  refine ⟨rfl, evolves_update (f := fun l => failedExchange l c.now)
    LoginMove.refl (fun _ => rfl) ?_⟩
  intro l hl hid
  obtain ⟨a, ha, hia⟩ := List.mem_map.mp hid
  have ha := (List.perm_insertionSort _ _).mem_iff.mp (List.mem_of_mem_take ha)
  obtain ⟨ham, has, _⟩ := mem_filter.mp ha
  have hla : a = l := eq_of_key ham hl hia
  subst hla
  exact .along ⟨rfl, rfl, rfl, rfl, rfl, rfl⟩ (by rw [has]; rfl) nofun rfl rfl

end OwlAuth
