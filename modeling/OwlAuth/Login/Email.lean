import OwlAuth.Login.Completion

/-!
# Login by email

* `selectEmailMethod`, `prepareEmailGeneration`, `commitEmailGeneration`
    the email method is chosen and a challenge is sent;
    a new generation supersedes the one before it;
* `establishMagicTransferContext`  a magic link is carried to another browser;
* `verifyEmailProof`  a code or a link is compared, and a wrong code counted;
* `completeEmailProof`  the proof is checked once more and consumed: the user is
    found or created and a ticket is issued.
-/

namespace OwlAuth

open Fallible Table

inductive EmailProofKind
  | otp | magicLink
  deriving DecidableEq

structure SelectEmailMethod where
  (projectId transactionId : Uuid)
  expectedTransactionRevision : Int
  (browserBinding csrf : VersionedDigest)
  now : Instant

structure PrepareEmailGeneration where
  (projectId transactionId : Uuid)
  expectedTransactionRevision : Int
  (browserBinding csrf : VersionedDigest)
  now : Instant

/-- what every commit of an email generation carries -/
structure EmailGeneration where
  (projectId applicationId : Uuid)
  expectedGeneration : Int
  (challengeId outboxId : Uuid)
  canonicalizationVersion : Int
  lookupDigest : VersionedDigest
  recipientDigests : List VersionedDigest
  address : ProtectedValue
  (otpDigest magicDigest : Option VersionedDigest)
  (envelope body : ProtectedValue)
  messageId : String

structure CommitEmailGeneration extends EmailGeneration where
  transactionId : Uuid
  expectedTransactionRevision : Int
  issuedAt : Instant
  (otpExpiresAt magicExpiresAt : Option Instant)
  expiresAt : Instant

structure EstablishMagicTransferContext where
  (id challengeId : Uuid)
  (context csrf : VersionedDigest)
  now : Instant

structure VerifyEmailProof where
  (projectId transactionId challengeId : Uuid)
  proofKind : EmailProofKind
  proofDigest : VersionedDigest
  browserBinding : Option VersionedDigest
  csrf : VersionedDigest
  transferContext : Option VersionedDigest
  expectedTransactionRevision : Int
  now : Instant
  deriving DecidableEq

structure CompleteEmailProof where
  verification : VerifyEmailProof
  newUserId : Uuid
  newUserPublicId : String
  newIdentityId : Uuid
  durableAddress : ProtectedValue
  verifiedChallengeLookup : VersionedDigest
  lookupAliases : List VersionedDigest
  activeAlias : VersionedDigest
  aliasAuthorityRevision : Int
  browserSessionId : Uuid
  existingBrowserCredential : Option VersionedDigest
  browserCredential : VersionedDigest
  handoffId : Uuid
  handoffTicket : VersionedDigest

structure EmailMethodSelection where
  status : LoginTransactionStatus
  transactionRevision : Int

structure EmailGenerationPreparation where
  (projectId applicationId transactionId : Uuid)
  nextGeneration : Int
  transactionExpiresAt : Instant
  policy : AdmittedEmailMethod

structure VerifiedEmailChallenge where
  (projectId applicationId transactionId challengeId : Uuid)
  address : ProtectedValue
  canonicalizationVersion : Int
  lookupDigest : VersionedDigest

inductive EmailProofDecision
  | invalid
  | accepted (challenge : VerifiedEmailChallenge)

/-! ## shared checks -/

variable (env : Environment) (db : Database)

variable (projectId transactionId : Uuid)

def findEmailSnapshot : Tx LoginEmailMethodSnapshot :=
  require (db.emailSnapshots.find? fun s =>
    s.projectId = projectId ∧ s.transactionId = transactionId) .notFound

/-- the owners are as the login captured them, and the email method is still admitted -/
def revalidatePolicyAndSmtp (login : LoginTransaction) (applicationId : Uuid)
    (authority : EmailMethodAuthority) (now : Instant) : Tx Unit := do
  let project ← require (db.projects.find? fun p => p.id = login.projectId) .revisionConflict
  let application ← require
    (db.applications.find? fun a => a.id = applicationId ∧ a.projectId = login.projectId)
    .revisionConflict
  ensure (project.status = .active ∧ project.metadataRevision = login.projectMetadataRevision
    ∧ project.securityRevision = login.projectSecurityRevision ∧ application.status = .active
    ∧ application.securityRevision = login.applicationSecurityRevision) .revisionConflict
  emailMethodAdmitted db login.projectId applicationId authority now

def challengesOf : List EmailChallenge :=
  db.emailChallenges.filter fun ch =>
    ch.projectId = projectId ∧ ch.owner = .login transactionId

/-- `COALESCE(MAX(generation), 0)` -/
def newestGeneration (challenges : List EmailChallenge) : Int :=
  (challenges.map EmailChallenge.generation).foldr max 0

/-! ## method and challenge -/

def selectEmailMethod (c : SelectEmailMethod) (db : Database) :
    Tx (Committed EmailMethodSelection) := do
  validateDigest c.browserBinding
  validateDigest c.csrf
  let login ← findLogin db c.projectId c.transactionId
  let snapshot ← findEmailSnapshot db c.projectId c.transactionId
  ensure (c.now < login.expiresAt ∧ login.status = .awaitingMethodSelection) .invalidTransition
  ensure (login.transactionRevision = c.expectedTransactionRevision) .revisionConflict
  ensure (login.browserBinding = some c.browserBinding) .notFound
  ensure (login.csrf = some c.csrf) .notFound
  revalidatePolicyAndSmtp db login login.applicationId snapshot.method.authority c.now
  let updated : LoginTransaction :=
    { movedLogin login .emailAddressEntry c.now with selectedMethod := some .email }
  pure (.done { db with logins := db.logins.set updated }
    ⟨updated.status, updated.transactionRevision⟩)

def prepareEmailGeneration (c : PrepareEmailGeneration) (db : Database) :
    Tx EmailGenerationPreparation := do
  validateDigest c.browserBinding
  validateDigest c.csrf
  let login ← findLogin db c.projectId c.transactionId
  let snapshot ← findEmailSnapshot db c.projectId c.transactionId
  ensure (c.now < login.expiresAt
    ∧ (login.status = .emailAddressEntry ∨ login.status = .emailChallengePending))
    .invalidTransition
  ensure (login.transactionRevision = c.expectedTransactionRevision) .revisionConflict
  ensure (login.browserBinding = some c.browserBinding) .notFound
  ensure (login.csrf = some c.csrf) .notFound
  let challenges := challengesOf db c.projectId c.transactionId
  ensure (newestGeneration challenges < snapshot.method.maxGenerations
    ∧ newestGeneration challenges < 5) .invalidTransition
  ensure (∀ ch ∈ challenges, ch.issuedAt + seconds snapshot.method.resendAfterSeconds ≤ c.now)
    .invalidTransition
  pure
    { projectId := c.projectId
      applicationId := login.applicationId
      transactionId := c.transactionId
      nextGeneration := newestGeneration challenges + 1
      transactionExpiresAt := login.expiresAt
      policy := snapshot.method }

/-- a proof and its deadline come together, the deadline within the challenge's -/
def ProofWindow (digest : Option VersionedDigest) (proofExpiresAt : Option Instant)
    (issuedAt expiresAt : Instant) : Prop :=
  digest.isSome = proofExpiresAt.isSome ∧ ∀ t ∈ proofExpiresAt, issuedAt < t ∧ t ≤ expiresAt
  deriving Decidable

def EmailGeneration.validateRecipients (g : EmailGeneration) : Tx Unit := do
  validateDigest g.lookupDigest
  ensure (g.recipientDigests ≠ [] ∧ g.recipientDigests.length ≤ 16
    ∧ g.lookupDigest ∈ g.recipientDigests) .invalidInput
  foldOk (fun _ d => validateDigest d) () g.recipientDigests

variable (c : CommitEmailGeneration)

def validateGeneration : Tx Unit := do
  c.validateRecipients
  ensure (1 ≤ c.expectedGeneration ∧ c.expectedGeneration ≤ 5 ∧ c.issuedAt < c.expiresAt
    ∧ c.expiresAt ≤ c.issuedAt + minutes 10
    ∧ ¬ (c.otpDigest.isNone = true ∧ c.magicDigest.isNone = true)
    ∧ ProofWindow c.otpDigest c.otpExpiresAt c.issuedAt c.expiresAt
    ∧ ProofWindow c.magicDigest c.magicExpiresAt c.issuedAt c.expiresAt
    ∧ 16 ≤ c.messageId.utf8ByteSize ∧ c.messageId.utf8ByteSize ≤ 255) .invalidInput
  validateOptionalDigest c.otpDigest
  validateOptionalDigest c.magicDigest

def supersededChallenge (now : Instant) (ch : EmailChallenge) : EmailChallenge :=
  { ch with status := .superseded, terminalAt := some now }

/-- the challenge; without a message it is born `delivery_unavailable` -/
def challengeRow (g : EmailGeneration) (owner : ChallengeOwner) (method : AdmittedEmailMethod)
    (dispatch : Bool) (issuedAt : Instant) (otpExpiresAt magicExpiresAt : Option Instant)
    (expiresAt databaseNow : Instant) : EmailChallenge :=
  { id := g.challengeId
    projectId := g.projectId
    applicationId := g.applicationId
    owner := owner
    generation := g.expectedGeneration
    status := if dispatch then .pending else .deliveryUnavailable
    canonicalizationVersion := g.canonicalizationVersion
    lookupDigest := g.lookupDigest
    address := g.address
    otp := g.otpDigest
    otpAttempts := 0
    otpMaxAttempts := method.otpMaxAttempts
    magic := g.magicDigest
    authority := method.authority
    browserBindingRequired := !method.transferredMagicLinkEnabled
    issuedAt := issuedAt
    otpExpiresAt := otpExpiresAt
    magicExpiresAt := magicExpiresAt
    expiresAt := expiresAt
    consumedAt := none
    terminalAt := if dispatch then none else some databaseNow }

def newChallenge (method : AdmittedEmailMethod) (dispatch : Bool) (databaseNow : Instant) :
    EmailChallenge :=
  challengeRow c.toEmailGeneration (.login c.transactionId) method dispatch c.issuedAt
    c.otpExpiresAt c.magicExpiresAt c.expiresAt databaseNow

/-- every challenge of the owner that can still be answered, or was never sent, superseded -/
def supersedeChallenges (projectId : Uuid) (owner : ChallengeOwner) (now : Instant) :
    Table EmailChallenge :=
  db.emailChallenges.update
    (fun ch => ch.projectId = projectId ∧ ch.owner = owner
      ∧ (ch.status = .pending ∨ ch.status = .deliveryUnavailable))
    (supersededChallenge now) (fun _ => rfl)

/-- an owner has one challenge for each generation -/
def insertChallenge (challenges : Table EmailChallenge) (ch : EmailChallenge) :
    Tx (Table EmailChallenge) :=
  insertRow challenges ch fun o =>
    ¬ (o.projectId = ch.projectId ∧ o.owner = ch.owner ∧ o.generation = ch.generation)

def commitEmailGeneration (db : Database) : Tx (Committed Unit) := do
  validateGeneration c
  let login ← findLogin db c.projectId c.transactionId
  let snapshot ← findEmailSnapshot db c.projectId c.transactionId
  let challenges := challengesOf db c.projectId c.transactionId
  ensure (login.transactionRevision = c.expectedTransactionRevision
    ∧ newestGeneration challenges + 1 = c.expectedGeneration
    ∧ c.expectedGeneration ≤ snapshot.method.maxGenerations
    ∧ c.expectedGeneration ≤ 5) .revisionConflict
  ensure (∀ ch ∈ challenges,
    ch.issuedAt + seconds snapshot.method.resendAfterSeconds ≤ env.databaseClock)
    .invalidTransition
  ensure (c.issuedAt < login.expiresAt
    ∧ (login.status = .emailAddressEntry ∨ login.status = .emailChallengePending))
    .invalidTransition
  revalidatePolicyAndSmtp db login login.applicationId snapshot.method.authority c.issuedAt
  let db := { db with
    mailOutbox := cancelMail env db c.projectId (· = ChallengeOwner.login c.transactionId) }
  let db := { db with
    emailChallenges :=
      supersedeChallenges db c.projectId (.login c.transactionId) env.databaseClock }
  let authorization ← authorizeMailDelivery env db c.projectId c.canonicalizationVersion
    c.recipientDigests snapshot.method.resendAfterSeconds
  let challenge := newChallenge c snapshot.method (authorization = .dispatch) env.databaseClock
  let challenges ← insertChallenge db.emailChallenges challenge
  let mail ← enqueueMail authorization db.mailOutbox
    (newMail c.outboxId challenge c.messageId c.envelope c.body env.databaseClock)
  pure (.done
    { db with
      emailChallenges := challenges
      mailOutbox := mail
      logins := db.logins.set (movedLogin login .emailChallengePending env.databaseClock) } ())

/-! ## magic links in another browser -/

def maxMagicTransferContextsPerChallenge : Nat := 8

def expireTransferContexts (challengeId : Uuid) (now : Instant) : Table MagicTransferContext :=
  db.transferContexts.update
    (fun x => x.challengeId = challengeId ∧ x.status = .pending ∧ x.expiresAt ≤ now)
    (fun x => { x with status := .expired }) (fun _ => rfl)

def establishMagicTransferContext (c : EstablishMagicTransferContext) (db : Database) :
    Tx (Committed Unit) := do
  validateDigest c.context
  validateDigest c.csrf
  let challenge ← require
    (db.emailChallenges.find? fun ch =>
      ch.id = c.challengeId ∧ ch.status = .pending ∧ ch.magic.isSome = true
        ∧ c.now < ch.expiresAt) .notFound
  let login ← require
    (db.logins.find? fun l =>
      l.projectId = challenge.projectId ∧ challenge.owner = .login l.id
        ∧ c.now < l.expiresAt ∧ l.status = .emailChallengePending) .notFound
  ensure (∀ newer ∈ challengesOf db challenge.projectId login.id,
    newer.generation ≤ challenge.generation) .notFound
  let contexts := expireTransferContexts db c.challengeId c.now
  let live := contexts.filter fun x =>
    x.challengeId = c.challengeId ∧ x.status = .pending ∧ c.now < x.expiresAt
  ensure (live.length < maxMagicTransferContextsPerChallenge) .notFound
  let contexts ← insertRow contexts
    { id := c.id
      challengeId := c.challengeId
      context := c.context
      csrf := c.csrf
      browserBindingRequired := challenge.browserBindingRequired
      status := .pending
      expiresAt := min (min (c.now + minutes 5) challenge.expiresAt) login.expiresAt
      consumedAt := none } fun x => x.context ≠ c.context
  pure (.done { db with transferContexts := contexts } ())

/-! ## the proof -/

def checkBinding (login : LoginTransaction) : Option VersionedDigest → Tx Unit
  | none => pure ()
  | some binding => ensure (login.browserBinding = some binding) .notFound

/-- the browser may confirm: it holds the login's own credentials, or a live transfer context -/
def validateEmailConfirmationAuthority (login : LoginTransaction) (challenge : EmailChallenge)
    (v : VerifyEmailProof) : Tx Unit :=
  match v.transferContext with
  | some context => do
    ensure (v.proofKind = .magicLink) .notFound
    let transfer ← require
      (db.transferContexts.find? fun x =>
        x.challengeId = v.challengeId ∧ x.context = context ∧ x.csrf = v.csrf
          ∧ x.status = .pending ∧ v.now < x.expiresAt) .notFound
    ensure (transfer.browserBindingRequired = challenge.browserBindingRequired) .integrity
    ensure (¬ (transfer.browserBindingRequired = true ∧ v.browserBinding = none)) .notFound
    checkBinding login v.browserBinding
  | none => do
    ensure (login.csrf = some v.csrf) .notFound
    let binding ← require v.browserBinding .notFound
    ensure (login.browserBinding = some binding) .notFound

/-- the challenge is the newest one and can still be answered -/
def ChallengeLive (login : LoginTransaction) (challenge : EmailChallenge) (v : VerifyEmailProof) :
    Prop :=
  challenge.status = .pending ∧ login.status = .emailChallengePending
    ∧ challenge.generation = newestGeneration (challengesOf db v.projectId v.transactionId)
    ∧ v.now < challenge.expiresAt ∧ v.now < login.expiresAt
  deriving Decidable

def proofDigest (challenge : EmailChallenge) : EmailProofKind → Option VersionedDigest
  | .otp => challenge.otp
  | .magicLink => challenge.magic

def proofExpiresAt (challenge : EmailChallenge) : EmailProofKind → Option Instant
  | .otp => challenge.otpExpiresAt
  | .magicLink => challenge.magicExpiresAt

def ProofUnexpired (challenge : EmailChallenge) (v : VerifyEmailProof) : Prop :=
  ∃ t ∈ proofExpiresAt challenge v.proofKind, v.now < t
  deriving Decidable

variable (v : VerifyEmailProof)

def findProofTarget (login : LoginTransaction) : Tx EmailChallenge := do
  let challenge ← require
    (db.emailChallenges.find? fun ch =>
      ch.id = v.challengeId ∧ ch.projectId = v.projectId ∧ ch.owner = .login v.transactionId)
    .notFound
  ensure (login.transactionRevision = v.expectedTransactionRevision) .revisionConflict
  validateEmailConfirmationAuthority db login challenge v
  pure challenge

/-- one more wrong code; the last one allowed ends the challenge -/
def rejectedOtp (now : Instant) (ch : EmailChallenge) : EmailChallenge :=
  if ch.otpMaxAttempts ≤ ch.otpAttempts + 1 then
    { ch with otpAttempts := ch.otpAttempts + 1, status := .exhausted, terminalAt := some now }
  else { ch with otpAttempts := ch.otpAttempts + 1 }

def rejectProof (challenge : EmailChallenge) (v : VerifyEmailProof) : Database :=
  if v.proofKind = .otp then
    { db with emailChallenges := db.emailChallenges.set (rejectedOtp v.now challenge) }
  else db

/-- the challenge against which a proof check compares, if it gets that far -/
def comparedProof (db : Database) : Tx (Option EmailChallenge) := do
  validateDigest v.proofDigest
  validateDigest v.csrf
  validateOptionalDigest v.transferContext
  let login ← findLogin db v.projectId v.transactionId
  let _ ← lockLoginApplicationOwners db login
  ensure ((findEmailMethod db login.projectId login.applicationId).isSome = true) .revisionConflict
  let challenge ← findProofTarget db v login
  if ChallengeLive db login challenge v then do
    revalidatePolicyAndSmtp db login challenge.applicationId challenge.authority v.now
    pure (if ProofUnexpired challenge v then some challenge else none)
  else pure none

/-- what a check does once it has the challenge -/
def decideProof (db : Database) :
    Option EmailChallenge → Committed EmailProofDecision
  | none => .done db .invalid
  | some challenge =>
    if proofDigest challenge v.proofKind = some v.proofDigest then
      .done db (.accepted
        { projectId := v.projectId
          applicationId := challenge.applicationId
          transactionId := v.transactionId
          challengeId := v.challengeId
          address := challenge.address
          canonicalizationVersion := challenge.canonicalizationVersion
          lookupDigest := challenge.lookupDigest })
    else .done (rejectProof db challenge v) .invalid

def verifyEmailProof (db : Database) : Tx (Committed EmailProofDecision) := do
  let challenge ← comparedProof v db
  pure (decideProof v db challenge)

/-! ## completion -/

variable (c : CompleteEmailProof)

def validateEmailCompletion : Tx Unit := do
  validateDigest c.verification.proofDigest
  validateDigest c.verification.csrf
  validateOptionalDigest c.verification.transferContext
  validateDigest c.browserCredential
  validateDigest c.handoffTicket
  validateDigest c.verifiedChallengeLookup
  foldOk (fun _ d => validateDigest d) () c.lookupAliases
  validateDigest c.activeAlias
  ensure (c.aliasAuthorityRevision = 1
    ∧ (c.lookupAliases.map VersionedDigest.keyVersion).Nodup
    ∧ c.activeAlias ∈ c.lookupAliases) .invalidInput
  ensure (0 < c.durableAddress.keyVersion ∧ 41 ≤ c.durableAddress.ciphertext.length) .invalidInput

def proveChallenge (db : Database) (login : LoginTransaction) : Tx EmailChallenge := do
  let v := c.verification
  let challenge ← findProofTarget db v login
  ensure (ChallengeLive db login challenge v) .invalidTransition
  revalidatePolicyAndSmtp db login challenge.applicationId challenge.authority v.now
  ensure (ProofUnexpired challenge v) .invalidTransition
  ensure (proofDigest challenge v.proofKind = some v.proofDigest) .invalidTransition
  ensure (c.lookupAliases.length ≤ 16) .invalidInput
  ensure (challenge.lookupDigest = c.verifiedChallengeLookup) .integrity
  pure challenge

def findAliasOwner (projectId : Uuid) (canonicalizationVersion : Int) (lookup : VersionedDigest) :
    Option (EmailIdentity × ProjectUser) := do
  let row ← db.emailAliases.find? fun a =>
    a.projectId = projectId ∧ a.canonicalizationVersion = canonicalizationVersion
      ∧ a.lookupDigest = lookup
  let identity ← db.emailIdentities.find? fun i => i.projectId = projectId ∧ i.id = row.identityId
  let user ← db.users.find? fun u => u.projectId = projectId ∧ u.id = identity.userId
  pure (identity, user)

/-- all aliases of one address must lead to one identity -/
def resolveEmailOwner (projectId : Uuid) (canonicalizationVersion : Int)
    (aliases : List VersionedDigest) : Tx (Option (EmailIdentity × ProjectUser)) :=
  foldOk (fun found lookup =>
    match findAliasOwner db projectId canonicalizationVersion lookup with
    | none => pure found
    | some owner => do
      ensure (∀ o ∈ found, o.1.id = owner.1.id) .integrity
      pure (some owner)) none aliases

/-- an identity has one alias for each key version -/
def SameAlias (a o : EmailIdentityAlias) : Prop :=
  o.projectId = a.projectId ∧ o.identityId = a.identityId
    ∧ o.canonicalizationVersion = a.canonicalizationVersion
    ∧ o.lookupDigest.keyVersion = a.lookupDigest.keyVersion
  deriving Decidable

def insertAlias (aliases : Table EmailIdentityAlias) (a : EmailIdentityAlias) :
    Tx (Table EmailIdentityAlias) :=
  insertRow aliases a (¬ SameAlias a ·)

/-- `INSERT … ON CONFLICT DO NOTHING`, then the alias must lead to the identity -/
def ensureAlias (aliases : Table EmailIdentityAlias) (a : EmailIdentityAlias) :
    Tx (Table EmailIdentityAlias) := do
  let aliases := match insertAlias aliases a with
    | .ok t => t
    | .error _ => aliases
  let row ← require
    (aliases.find? fun o =>
      o.projectId = a.projectId ∧ o.canonicalizationVersion = a.canonicalizationVersion
        ∧ o.lookupDigest = a.lookupDigest) .integrity
  ensure (row.identityId = a.identityId) .integrity
  pure aliases

def emptyProfile : Profile := ⟨none, none, none⟩

def newEmailUser : ProjectUser :=
  { id := c.newUserId
    projectId := c.verification.projectId
    publicId := c.newUserPublicId
    status := .active
    mergedIntoUserId := none
    userRevision := 1
    securityRevision := 1
    primaryProfileIdentityId := none
    primaryEmailIdentityId := some c.newIdentityId
    primarySourceKind := .email
    baseProfileDigest := env.profileDigest emptyProfile
    localDisplayName := unsetField
    localPictureUrl := unsetField
    localLocale := unsetField
    profile := emptyProfile
    createdAt := c.verification.now
    updatedAt := c.verification.now }

def newEmailIdentity (challenge : EmailChallenge) : EmailIdentity :=
  { id := c.newIdentityId
    projectId := c.verification.projectId
    userId := c.newUserId
    status := .active
    identityRevision := 1
    canonicalizationVersion := challenge.canonicalizationVersion
    address := c.durableAddress
    verifiedAt := some c.verification.now }

def activeAliasOf (challenge : EmailChallenge) (identityId : Uuid) : EmailIdentityAlias :=
  ⟨c.verification.projectId, identityId, challenge.canonicalizationVersion, c.activeAlias⟩

def storeEmailIdentity (db : Database) (challenge : EmailChallenge)
    (owner : Option (EmailIdentity × ProjectUser)) : Tx (Database × ProjectUser) :=
  match owner with
  | some (identity, user) => do
    ensure (identity.status = .active ∧ user.status = .active) .disabled
    let aliases ← ensureAlias db.emailAliases (activeAliasOf c challenge identity.id)
    pure ({ db with emailAliases := aliases }, user)
  | none => do
    let policy ← require
      (db.emailPolicies.find? fun p => p.projectId = c.verification.projectId) .integrity
    ensure (policy.signupEnabled = true) .disabled
    let users ← insertUser db.users (newEmailUser env c)
    let identities ← insertRow db.emailIdentities (newEmailIdentity c challenge) fun _ => True
    let aliases ← insertAlias db.emailAliases (activeAliasOf c challenge c.newIdentityId)
    pure ({ db with users := users, emailIdentities := identities, emailAliases := aliases },
      newEmailUser env c)

/-- the pending context that a proof carries; the key version of its token is not compared -/
def CarriedContext (context : VersionedDigest) (x : MagicTransferContext) : Prop :=
  x.challengeId = v.challengeId ∧ x.context = context ∧ x.csrf.value = v.csrf.value
    ∧ x.status = .pending ∧ v.now < x.expiresAt
  deriving Decidable

/-- the transfer context a proof came with is consumed; it must be exactly one -/
def consumeTransferContext (contexts : Table MagicTransferContext) (v : VerifyEmailProof) :
    Tx (Table MagicTransferContext) :=
  match v.transferContext with
  | none => pure contexts
  | some context => do
    ensure ((contexts.filter (CarriedContext v context)).length = 1) .invalidTransition
    pure (contexts.update (CarriedContext v context)
      (fun x => { x with status := .consumed, consumedAt := some v.now }) (fun _ => rfl))

def consumedChallenge (ch : EmailChallenge) (now : Instant) : EmailChallenge :=
  { ch with status := .consumed, consumedAt := some now, terminalAt := some now }

def emailBrowserCompletion (login : LoginTransaction)
    (user : ProjectUser) : BrowserSessionCompletion :=
  { projectId := c.verification.projectId
    userId := user.id
    userSecurityRevision := user.securityRevision
    browserSessionId := c.browserSessionId
    existingBrowserCredential := c.existingBrowserCredential
    browserCredential := c.browserCredential
    projectSecurityRevision := login.projectSecurityRevision
    policySessionRevision := login.sessionRevision
    now := c.verification.now }

/-- `complete_email_proof` once the proof has passed -/
def issueEmailHandoff (db : Database) (login : LoginTransaction)
    (challenge : EmailChallenge) : Tx (Committed IssuedHandoff) := do
  let v := c.verification
  let owner ←
    resolveEmailOwner db v.projectId challenge.canonicalizationVersion c.lookupAliases
  let (db, user) ← storeEmailIdentity env c db challenge owner
  let (browserSessions, browser) ← rotateOrCreateBrowserSession db.browserSessions
    (emailBrowserCompletion c login user)
  let (tickets, ticket) ← insertHandoff db.tickets
    { id := c.handoffId
      digest := c.handoffTicket
      userId := user.id
      browserSessionId := browser.id
      authenticationMethod := .email
      authenticatedAt := v.now
      issuedAt := v.now
      expiresAt := min (v.now + seconds 60) login.expiresAt
      userSecurityRevision := user.securityRevision } login
  let contexts ← consumeTransferContext db.transferContexts v
  pure (.done
    { db with
      browserSessions := browserSessions
      tickets := tickets
      transferContexts := contexts
      emailChallenges := db.emailChallenges.set (consumedChallenge challenge v.now)
      logins := db.logins.set (issuedLogin login user.id v.now v.now) }
    (issuedHandoff login user ticket))

def completeEmailProof (db : Database) : Tx (Committed IssuedHandoff) := do
  validateEmailCompletion c
  let login ← findLogin db c.verification.projectId c.verification.transactionId
  let _ ← lockLoginApplicationOwners db login
  let challenge ← proveChallenge c db login
  issueEmailHandoff env c db login challenge

variable {db db₁ db' : Database} {c : CompleteEmailProof} {r : Committed Unit}
  {env : Environment} {v : VerifyEmailProof} {challenge : EmailChallenge}
  {owner : Option (EmailIdentity × ProjectUser)} {aliases : List VersionedDigest}
  {login : LoginTransaction} {user : ProjectUser} {ticket : HandoffTicket}

/-! ## what a committed call did -/

theorem findLogin_ok {projectId transactionId l}
    (h : findLogin db projectId transactionId = .ok l) :
    l ∈ db.logins ∧ l.id = transactionId ∧ l.projectId = projectId :=
  find_ok h

theorem selectEmailMethod_step {c r}
    (h : selectEmailMethod c db = .ok r) : LoginStep false false [] db r.db := by
  obtain ⟨_, _, _, _, _, hl, h⟩ := peel₃ h
  obtain ⟨_, _, _, hs, _, _, h⟩ := peel₃ h
  obtain ⟨_, _, _, h⟩ := later₃ h
  cases h
  have hs := (ensure_ok.mp hs).2
  exact LoginStep.set (findLogin_ok hl).1
    (.along ⟨rfl, rfl, rfl, rfl, rfl, rfl⟩ (by rw [hs]; rfl) nofun rfl rfl)

theorem commitEmailGeneration_step {c}
    (h : commitEmailGeneration env c db = .ok r) : LoginStep false true [] db r.db := by
  obtain ⟨_, _, login, hl, _, _, h⟩ := peel₃ h
  obtain ⟨_, _, _, _, _, hs, h⟩ := peel₃ h
  obtain ⟨_, _, h⟩ := later₂ h
  obtain ⟨_, _, h⟩ := later₂ h
  cases h
  have hm : LoginMove false login (movedLogin login .emailChallengePending env.databaseClock) := by
    rcases (ensure_ok.mp hs).2 with hs | hs
    · exact .along ⟨rfl, rfl, rfl, rfl, rfl, rfl⟩ (by rw [hs]; rfl) nofun rfl rfl
    · -- a further generation leaves the status as it is
      have hturn : StatusTurn false login.status .emailChallengePending := by
        rw [hs]; exact .kept _
      exact .of_open ⟨rfl, rfl, rfl, rfl, rfl, rfl⟩ (by rw [hs]; nofun) nofun
        ⟨hturn, .inr rfl, .inl rfl⟩
  exact ⟨rfl, evolves_set .refl (findLogin_ok hl).1 rfl hm⟩

theorem establishMagicTransferContext_frame {c} (h : establishMagicTransferContext c db = .ok r) :
    ∃ contexts, r.db = { db with transferContexts := contexts } := by
  obtain ⟨_, _, _, h⟩ := later₃ h
  obtain ⟨_, _, h⟩ := later₂ h
  obtain ⟨_, _, contexts, _, h⟩ := peel₂ h
  cases h
  exact ⟨contexts, rfl⟩

theorem establishMagicTransferContext_step {c}
    (h : establishMagicTransferContext c db = .ok r) : LoginStep false true [] db r.db := by
  obtain ⟨_, hr⟩ := establishMagicTransferContext_frame h
  rw [hr]
  exact ⟨rfl, .refl .refl _⟩

variable {r : Committed EmailProofDecision}

theorem verifyEmailProof_frame (h : verifyEmailProof v db = .ok r) :
    ∃ challenges, r.db = { db with emailChallenges := challenges } := by
  obtain ⟨compared, _, h⟩ := bind_ok.mp h
  cases h
  cases compared with
  | none => exact ⟨db.emailChallenges, rfl⟩
  | some challenge =>
    unfold decideProof rejectProof
    dsimp only
    split
    · exact ⟨db.emailChallenges, rfl⟩
    · split
      · exact ⟨_, rfl⟩
      · exact ⟨db.emailChallenges, rfl⟩

variable {r : Database × ProjectUser}

theorem storeEmailIdentity_frame (h : storeEmailIdentity env c db challenge owner = .ok r) :
    ∃ users identities aliases,
      r.1 = { db with users := users, emailIdentities := identities, emailAliases := aliases } := by
  unfold storeEmailIdentity at h
  split at h
  · obtain ⟨_, _, aliases, _, h⟩ := peel₂ h
    cases h
    exact ⟨db.users, db.emailIdentities, aliases, rfl⟩
  · obtain ⟨_, _, _, _, users, _, h⟩ := peel₃ h
    obtain ⟨identities, _, aliases, _, h⟩ := peel₂ h
    cases h
    exact ⟨users, identities, aliases, rfl⟩

theorem resolveEmailOwner_some {projectId canonicalizationVersion}
    (h : resolveEmailOwner db projectId canonicalizationVersion aliases = .ok owner) :
    ∀ o ∈ owner, o.2 ∈ db.users := by
  refine foldOk_inv (fun found => ∀ o ∈ found, o.2 ∈ db.users) ?_
    (fun o ho => absurd ho (Option.not_mem_none o)) h
  intro found lookup found' _ hfound hstep
  split at hstep
  · cases hstep; exact hfound
  · rename_i o ho
    obtain ⟨_, hstep⟩ := later hstep
    cases hstep
    obtain ⟨_, _, _, _, user, hu, ho⟩ := bind_some₃.mp ho
    cases ho
    intro o ho
    rw [← Option.mem_some.mp ho]
    exact (find?_some hu).1

structure EmailIssued (env : Environment) (c : CompleteEmailProof) (db : Database)
    (login : LoginTransaction) (challenge : EmailChallenge)
    (owner : Option (EmailIdentity × ProjectUser)) (db₁ : Database) (user : ProjectUser)
    (db' : Database) (ticket : HandoffTicket) : Prop where
  resolved : resolveEmailOwner db c.verification.projectId challenge.canonicalizationVersion
    c.lookupAliases = .ok owner
  stored : storeEmailIdentity env c db challenge owner = .ok (db₁, user)
  current : LoginCurrent db login
  project : login.projectId = c.verification.projectId
  issued : LoginIssued db db' login ticket c.verification.now c.verification.now
  rotated : ∃ browser, rotateOrCreateBrowserSession db.browserSessions
    (emailBrowserCompletion c login user) = .ok (db'.browserSessions, browser)
  frame : db' = { db₁ with
    browserSessions := db'.browserSessions
    tickets := db'.tickets
    transferContexts := db'.transferContexts
    emailChallenges := db'.emailChallenges
    logins := db'.logins }

variable {r : Committed IssuedHandoff}

theorem completeEmailProof_ok (h : completeEmailProof env c db = .ok r) :
    ∃ login challenge owner db₁ user ticket,
      EmailIssued env c db login challenge owner db₁ user r.db ticket := by
  obtain ⟨_, _, login, hl, h⟩ := peel₂ h
  obtain ⟨_, ho, challenge, hch, h⟩ := peel₂ h
  obtain ⟨_, _, _, hlive, hch⟩ := peel₂ hch
  have hs := (ensure_ok.mp hlive).2.1
  obtain ⟨hlm, _, hlp⟩ := findLogin_ok hl
  obtain ⟨owner, howner, ⟨db₁, user⟩, hst, ⟨_, browser⟩, hb, h⟩ := peel₃ h
  obtain ⟨⟨_, ticket⟩, ht, _, _, h⟩ := peel₂ h
  cases h
  obtain ⟨_, _, _, hf⟩ := storeEmailIdentity_frame hst
  dsimp only at hf
  have hbr : db₁.browserSessions = db.browserSessions := by rw [hf]
  have hti : db₁.tickets = db.tickets := by rw [hf]
  have hlo : db₁.logins = db.logins := by rw [hf]
  rw [hbr] at hb
  rw [hti] at ht
  refine ⟨login, challenge, owner, db₁, user, ticket, howner, hst,
    lockLoginApplicationOwners_current ho, hlp, ?_, ⟨browser, hb⟩, rfl⟩
  have hpath := LoginTransactionStatus.path_of_authenticated (s := login.status) (by rw [hs]; rfl)
  exact LoginIssued.of_insert hlm hpath ht rfl (by rw [← hlo]; rfl)

variable (h : EmailIssued env c db login challenge owner db₁ user db' ticket)
include h

theorem EmailIssued.onlyCompletion : OnlyCompletion true db db' := by
  obtain ⟨_, _, _, hf⟩ := storeEmailIdentity_frame h.stored
  dsimp only at hf
  rw [h.frame, hf]
  rfl

theorem EmailIssued.users : Evolves UserMove (fun _ => True) db.users db'.users := by
  rw [h.frame]
  have hst := h.stored
  unfold storeEmailIdentity at hst
  split at hst
  · obtain ⟨_, _, _, _, hst⟩ := peel₂ hst
    cases hst
    exact .refl .refl _
  · obtain ⟨_, _, _, _, _, hu, hst⟩ := peel₃ hst
    obtain ⟨_, _, _, _, hst⟩ := peel₂ hst
    cases hst
    exact evolves_insert .refl (insertRow_ok hu).2 trivial

theorem EmailIssued.browsersNow :
    Evolves (BrowserMove (CapturesNow db')) (CapturesNow db') db.browserSessions
      db'.browserSessions := by
  have huser : user ∈ db'.users := by
    rw [h.frame]
    have hstored := h.stored
    unfold storeEmailIdentity at hstored
    split at hstored
    · rename_i identity user
      obtain ⟨_, _, hstored⟩ := later₂ hstored
      cases hstored
      exact resolveEmailOwner_some h.resolved (identity, user) rfl
    · obtain ⟨_, _, _, _, users, hu, hstored⟩ := peel₃ hstored
      obtain ⟨_, _, hstored⟩ := later₂ hstored
      cases hstored
      exact (mem_insert (insertRow_ok hu).2).mpr (.inr rfl)
  have hframe := h.onlyCompletion
  obtain ⟨_, hb⟩ := h.rotated
  exact browsers_now hb h.current huser (by rw [hframe]) (by rw [hframe]) h.project.symm rfl rfl rfl
    rfl

end OwlAuth
