import OwlAuth.Login.Email

/-!
# The ceremony of an identity mutation

An operator opens an intent to link, unlink or merge; its slots are proved in a browser, by a
provider or by email, and the operator confirms it.

* `terminalize`  an intent ends without effect: its mail is withdrawn, its
    challenges, receipts and slots expire;
* `expireLockedIfNeeded`, `terminalizeDueIdentityMutations`, `cancelIdentityMutation`
    the three ways there;
* `revalidateSlotAuthority`  the owners and the method of a slot are as the intent froze them;
* `commitIdentityMutationEmailGeneration`  a challenge for an email slot is sent;
* `prepareMutationEmailGeneration`  the next one may be.
-/

namespace OwlAuth

open Fallible

def ChallengeOwner.OfIntent (intentId : Uuid) : ChallengeOwner → Prop
  | login _ => False
  | identityMutation i _ => i = intentId

instance (intentId : Uuid) : DecidablePred (ChallengeOwner.OfIntent intentId)
  | .login _ => inferInstanceAs (Decidable False)
  | .identityMutation i _ => inferInstanceAs (Decidable (i = intentId))

def ChallengeOwner.OfMutation : ChallengeOwner → Prop
  | login _ => False
  | identityMutation _ _ => True

instance : DecidablePred ChallengeOwner.OfMutation
  | .login _ => inferInstanceAs (Decidable False)
  | .identityMutation _ _ => inferInstanceAs (Decidable True)

/-! ## the end of an intent -/

def MutationIntent.Open (i : MutationIntent) : Prop := i.status = .pendingProof ∨ i.status = .ready
  deriving Decidable

variable (env : Environment) (db : Database)

def lockIntent (intentId : Uuid) : Tx MutationIntent :=
  require (db.intents.find? fun i => i.id = intentId) .notFound

variable (intent : MutationIntent)

def receiptsOf : List ProofReceipt :=
  db.receipts.filter fun r => r.projectId = intent.projectId ∧ r.intentId = intent.id

/-- `lock_receipts_effective_deadline`: the receipts of an intent shorten its life -/
def effectiveDeadline : Instant :=
  ((receiptsOf db intent).map ProofReceipt.expiresAt).foldl min intent.expiresAt

variable (now : Instant)

def expiredChallenge (ch : EmailChallenge) : EmailChallenge :=
  { ch with status := .expired, consumedAt := none, terminalAt := some (ch.terminalAt.getD now) }

def expiredSlot (s : MutationSlot) : MutationSlot :=
  { s with
    state := .expired
    slotRevision := s.slotRevision + 1
    terminalAt := some (s.terminalAt.getD now)
    provedAt := none }

def endedIntent (status : MutationStatus) (now : Instant) (i : MutationIntent) : MutationIntent :=
  { i with status := status, intentRevision := i.intentRevision + 1, terminalAt := some now }

def bumpedIntent (i : MutationIntent) : MutationIntent :=
  { i with intentRevision := i.intentRevision + 1 }

def movedSlot (state : MutationSlotState) (s : MutationSlot) : MutationSlot :=
  { s with state := state, slotRevision := s.slotRevision + 1 }

/-- the challenges of an intent that were not answered, or whose proof it took, expired -/
def expireChallengesOf : Table EmailChallenge :=
  db.emailChallenges.update
    (fun ch => ch.projectId = intent.projectId ∧ ch.owner.OfIntent intent.id
      ∧ (ch.status = .pending ∨ ch.status = .deliveryUnavailable ∨ ch.status = .consumed))
    (expiredChallenge now) (fun _ => rfl)

def expireReceiptsOf : Table ProofReceipt :=
  db.receipts.update
    (fun r => r.projectId = intent.projectId ∧ r.intentId = intent.id ∧ r.status = .issued)
    (fun r => { r with status := .expired }) (fun _ => rfl)

def expireSlotsOf : Table MutationSlot :=
  db.slots.update
    (fun s => s.projectId = intent.projectId ∧ s.intentId = intent.id ∧ s.state ≠ .expired)
    (expiredSlot now) (fun _ => rfl)

def deleteEvidenceOf : Table CandidateEvidence :=
  db.evidence.delete fun e => e.projectId = intent.projectId ∧ e.intentId = intent.id

def terminalize (status : MutationStatus) : Tx Database := do
  ensure (status = .expired ∨ status = .cancelled) .integrity
  let now := env.databaseClock
  let row ← require
    (db.intents.find? fun i => i.projectId = intent.projectId ∧ i.id = intent.id ∧ i.Open)
    .invalidTransition
  pure
    { db with
      mailOutbox := cancelMail env db intent.projectId (ChallengeOwner.OfIntent intent.id)
      emailChallenges := expireChallengesOf db intent now
      receipts := expireReceiptsOf db intent
      slots := expireSlotsOf db intent now
      intents := db.intents.set (endedIntent status now row)
      evidence := deleteEvidenceOf db intent }

def IntentExpired : Prop :=
  intent.Open ∧ effectiveDeadline db intent ≤ env.databaseClock
  deriving Decidable

/-- an intent that has outlived its deadline is ended, and the caller told so -/
def expireLockedIfNeeded : Tx (Option Database) :=
  if IntentExpired env db intent then do
    let db ← terminalize env db intent .expired
    pure (some db)
  else pure none

/-- the intent, a receipt, a challenge or a message of it has run out -/
def IntentDue (i : MutationIntent) : Prop :=
  i.Open ∧ (i.expiresAt ≤ env.databaseClock
    ∨ (∃ r ∈ db.receipts.rows, r.projectId = i.projectId ∧ r.intentId = i.id
        ∧ r.expiresAt ≤ env.databaseClock)
    ∨ (∃ ch ∈ db.emailChallenges.rows, ch.projectId = i.projectId ∧ ch.owner.OfIntent i.id
        ∧ ch.status = .pending ∧ ch.expiresAt ≤ env.databaseClock)
    ∨ (∃ ch ∈ db.emailChallenges.rows, ch.projectId = i.projectId ∧ ch.owner.OfIntent i.id
        ∧ ∃ m ∈ db.mailOutbox.rows, MessageOf ch m
          ∧ (m.maxAttempts ≤ m.attempts ∨ m.usefulUntil ≤ env.databaseClock)
          ∧ (m.status ≠ .leased ∨ ∃ t ∈ m.leaseExpiresAt, t ≤ env.databaseClock)))
  deriving Decidable

/-- the intents in `due` that are due end; rows that others hold locked are skipped, so which ones
a call reaches is for the call to say -/
def terminalizeDueIdentityMutations (limit : Nat) (due : List Uuid) (db : Database) : Tx Database :=
  foldOk (fun db id =>
    match db.intents.find? fun i => i.id = id ∧ IntentDue env db i with
    | none => pure db
    | some intent => terminalize env db intent .expired) db (due.take limit)

/-- an intent that has run out is ended, and the call answers `late` -/
def unlessExpired {α : Type} (late : Except ApplicationError α) (body : Tx (Committed α)) :
    Tx (Committed α) := do
  match ← expireLockedIfNeeded env db intent with
  | some db => pure ⟨db, late⟩
  | none => body

def cancelIntent {α : Type} (a : α) : Tx (Committed α) := do
  let db ← terminalize env db intent .cancelled
  pure (.done db a)

structure CancelIdentityMutation where
  (projectId intentId : Uuid)
  expectedRevision : Int

def cancelIdentityMutation (c : CancelIdentityMutation) (db : Database) : Tx (Committed Unit) := do
  let intent ← lockIntent db c.intentId
  ensure (intent.projectId = c.projectId) .notFound
  unlessExpired env db intent (.ok ()) do
    ensure (intent.intentRevision = c.expectedRevision) .revisionConflict
    ensure intent.Open .invalidTransition
    cancelIntent env db intent ()

/-! ## authority -/

variable (slot : MutationSlot)

def revalidateSlotProvider (frozen : SlotProvider) : Tx Unit := do
  let provider ← require
    (db.providers.find? fun p => p.projectId = slot.projectId ∧ p.id = frozen.configurationId)
    .revisionConflict
  let assignment ← require
    (db.assignments.find? fun a =>
      a.projectId = slot.projectId ∧ a.providerId = provider.id
        ∧ a.applicationId = slot.applicationId) .revisionConflict
  let kind ← effectiveProviderKind provider
  if kind = .oidc then do
    let policy ← require
      (db.egressPolicies.find? fun p => p.projectId = slot.projectId) .revisionConflict
    ensure (frozen.egressPolicyRevision = some policy.revision) .revisionConflict
  else ensure (frozen.egressPolicyRevision = none) .revisionConflict
  ensure (provider.status = .active ∧ assignment.status = .active
    ∧ provider.secretMaterialId = frozen.secretMaterialId ∧ provider.revision = frozen.revision
    ∧ assignment.securityRevision = frozen.assignmentSecurityRevision) .revisionConflict

/-- the email method of a slot is as the intent froze it, and the challenge's SMTP usable -/
def revalidateSlotEmail (frozen : SlotEmail) : Tx Unit := do
  let (policy, assignment) ←
    require (findEmailMethod db slot.projectId slot.applicationId) .revisionConflict
  ensure (EmailMethodCurrent policy assignment frozen.policyRevision frozen.securityRevision
    frozen.assignmentSecurityRevision) .revisionConflict
  if slot.state = .emailChallengePending ∨ slot.state = .proved then do
    let challenge ← require
      (db.emailChallenges.find? fun ch =>
        ch.projectId = slot.projectId ∧ ch.owner = .identityMutation slot.intentId slot.id
          ∧ (ch.status = .pending ∨ ch.status = .consumed)) .revisionConflict
    ensure (SmtpUsableExactly db slot.projectId challenge.authority.smtp env.databaseClock) .disabled
  else pure ()

def revalidateSlotAuthority : Tx Unit := do
  let project ← require (db.projects.find? fun p => p.id = intent.projectId) .revisionConflict
  let application ← require
    (db.applications.find? fun a => a.id = slot.applicationId ∧ a.projectId = intent.projectId)
    .revisionConflict
  let user ← require
    (db.users.find? fun u => u.id = slot.proofUserId ∧ u.projectId = intent.projectId)
    .revisionConflict
  ensure (project.status = .active ∧ project.metadataRevision = intent.projectMetadataRevision
    ∧ project.securityRevision = intent.projectSecurityRevision ∧ application.status = .active
    ∧ application.securityRevision = slot.applicationSecurityRevision ∧ user.status = .active
    ∧ user.userRevision = slot.expectedUserRevision
    ∧ user.securityRevision = slot.expectedUserSecurityRevision) .revisionConflict
  match slot.method with
  | .provider frozen => revalidateSlotProvider db slot frozen
  | .email frozen => revalidateSlotEmail env db slot frozen

/-- the SMTP generation new mail of a project goes to: its own, or the deployment's -/
def selectSmtp (policy : ProjectEmailPolicy) : Tx SmtpReference :=
  match db.smtpConfigurations.first? (fun s => s.projectId = policy.projectId ∧ s.status = .active)
      (fun s s' => decide (s'.generation < s.generation)) with
  | some s => pure ⟨.project, some s.id, s.generation, s.securityEligibilityRevision⟩
  | none => do
    ensure (policy.allowDeploymentDefault = true) .disabled
    let s ← require
      (db.deploymentSmtp.first? (fun s => s.status = .active)
        (fun s s' => decide (s'.generation < s.generation))) .persistence
    pure ⟨.deploymentDefault, none, s.generation, s.securityEligibilityRevision⟩

/-- `admitted_email_method`: the policy of the project as it is now -/
def currentEmailMethod (frozen : SlotEmail) : Tx AdmittedEmailMethod := do
  let (policy, assignment) ←
    require (findEmailMethod db slot.projectId slot.applicationId) .revisionConflict
  ensure (EmailMethodCurrent policy assignment frozen.policyRevision frozen.securityRevision
    frozen.assignmentSecurityRevision) .revisionConflict
  let smtp ← selectSmtp db policy
  ensure (SmtpUsableExactly db slot.projectId smtp env.databaseClock) .disabled
  pure
    { authority :=
        { policyRevision := policy.policyRevision
          securityRevision := policy.securityRevision
          assignmentSecurityRevision := assignment.securityRevision
          smtpSelectionKind := smtp.selectionKind
          smtpConfigurationId := smtp.configurationId
          smtpGeneration := smtp.generation
          smtpSecurityEligibilityRevision := smtp.securityEligibilityRevision }
      otpEnabled := policy.otpEnabled
      magicLinkEnabled := policy.magicLinkEnabled
      otpDigits := policy.otpDigits
      otpValiditySeconds := policy.otpValiditySeconds
      otpMaxAttempts := policy.otpMaxAttempts
      resendAfterSeconds := policy.resendAfterSeconds
      maxGenerations := policy.maxGenerations
      magicValiditySeconds := policy.magicValiditySeconds
      signupEnabled := policy.signupEnabled
      transferredMagicLinkEnabled := policy.transferredMagicLinkEnabled }

/-! ## a challenge for an email slot -/

structure CommitIdentityMutationEmailGeneration extends EmailGeneration where
  (intentId proofSlotId : Uuid)
  expectedIntentRevision : Int
  admittedMethod : AdmittedEmailMethod

variable (c : CommitIdentityMutationEmailGeneration)

def CommitIdentityMutationEmailGeneration.owner : ChallengeOwner :=
  .identityMutation c.intentId c.proofSlotId

def validateProtectedRange (v : ProtectedValue) (minimum maximum : Nat) : Tx Unit :=
  ensure (0 < v.keyVersion ∧ minimum ≤ v.ciphertext.length ∧ v.ciphertext.length ≤ maximum)
    .invalidInput

def validateMutationGeneration : Tx Unit := do
  c.validateRecipients
  validateProtectedRange c.address 41 2048
  validateProtectedRange c.envelope 41 8192
  validateProtectedRange c.body 41 65536
  validateOptionalDigest c.otpDigest
  validateOptionalDigest c.magicDigest
  ensure (0 < c.expectedGeneration ∧ 0 < c.canonicalizationVersion ∧ c.messageId ≠ ""
    ∧ ¬ (c.otpDigest.isNone = true ∧ c.magicDigest.isNone = true)
    ∧ ¬ (c.otpDigest.isSome ≠ c.admittedMethod.otpEnabled ∧ c.magicDigest.isNone = true))
    .invalidInput

def lockSlot (intentId slotId : Uuid) : Tx MutationSlot :=
  require (db.slots.find? fun s => s.intentId = intentId ∧ s.id = slotId) .notFound

def requirePendingRevision (expectedRevision : Int) : Tx Unit := do
  ensure (intent.intentRevision = expectedRevision) .revisionConflict
  ensure (intent.status = .pendingProof
    ∧ ¬ effectiveDeadline db intent ≤ env.databaseClock) .invalidTransition

def proofDeadline (digest : Option VersionedDigest) (now : Instant) (validity : Int)
    (intentExpiresAt : Instant) : Option Instant :=
  digest.map fun _ => min (now + seconds validity) intentExpiresAt

def laterDeadline : Option Instant → Option Instant → Option Instant
  | some a, some b => some (max a b)
  | some a, none => some a
  | none, b => b

def newMutationChallenge (method : AdmittedEmailMethod) (dispatch : Bool)
    (otpExpiresAt magicExpiresAt : Option Instant) (expiresAt now : Instant) : EmailChallenge :=
  challengeRow c.toEmailGeneration c.owner method dispatch now otpExpiresAt magicExpiresAt expiresAt
    now

def emailSlotMethod (applicationId : Uuid) : Tx SlotEmail := do
  ensure ((slot.state = .emailAddressEntry ∨ slot.state = .emailChallengePending)
    ∧ slot.applicationId = applicationId) .invalidTransition
  match slot.method with
  | .email frozen => pure frozen
  | .provider _ => .error .invalidTransition

def checkNextGeneration (method : AdmittedEmailMethod)
    (challenges : List EmailChallenge) : Tx Unit := do
  ensure (newestGeneration challenges + 1 = c.expectedGeneration
    ∧ c.expectedGeneration ≤ method.maxGenerations) .revisionConflict
  ensure (∀ ch ∈ challenges, ch.issuedAt + seconds method.resendAfterSeconds ≤ env.databaseClock)
    .invalidTransition

def sendMutationChallenge (db : Database) (intent : MutationIntent) (slot : MutationSlot)
    (method : AdmittedEmailMethod) : Tx (Committed Unit) := do
  let now := env.databaseClock
  let otpExpiresAt := proofDeadline c.otpDigest now method.otpValiditySeconds intent.expiresAt
  let magicExpiresAt := proofDeadline c.magicDigest now method.magicValiditySeconds intent.expiresAt
  let expiresAt ← require (laterDeadline otpExpiresAt magicExpiresAt) .invalidInput
  let db := { db with mailOutbox := cancelMail env db c.projectId (· = c.owner) }
  let db := { db with emailChallenges := supersedeChallenges db c.projectId c.owner now }
  let authorization ← authorizeMailDelivery env db c.projectId c.canonicalizationVersion
    c.recipientDigests method.resendAfterSeconds
  let challenge := newMutationChallenge c method (authorization = .dispatch) otpExpiresAt
    magicExpiresAt expiresAt now
  let challenges ← insertChallenge db.emailChallenges challenge
  let mail ← enqueueMail authorization db.mailOutbox
    (newMail c.outboxId challenge c.messageId c.envelope c.body now)
  ensure (now < intent.expiresAt) .revisionConflict
  pure (.done
    { db with
      emailChallenges := challenges
      mailOutbox := mail
      slots := db.slots.set (movedSlot .emailChallengePending slot)
      intents := db.intents.set (bumpedIntent intent) } ())

def commitIdentityMutationEmailGeneration (db : Database) : Tx (Committed Unit) := do
  validateMutationGeneration c
  let intent ← lockIntent db c.intentId
  ensure (intent.projectId = c.projectId) .notFound
  unlessExpired env db intent (.error .invalidTransition) do
    requirePendingRevision env db intent c.expectedIntentRevision
    let slot ← lockSlot db c.intentId c.proofSlotId
    let frozen ← emailSlotMethod slot c.applicationId
    revalidateSlotAuthority env db intent slot
    let method ← currentEmailMethod env db slot frozen
    ensure (method = c.admittedMethod) .revisionConflict
    checkNextGeneration env c method
      (db.emailChallenges.filter fun ch => ch.projectId = c.projectId ∧ ch.owner = c.owner)
    sendMutationChallenge env c db intent slot method

/-! ## the next challenge -/

structure HostedCredentials where
  (handle browserBinding csrf : VersionedDigest)
  deriving DecidableEq

structure PrepareMutationEmailGeneration where
  (intentId proofSlotId : Uuid)
  presented : HostedCredentials
  expectedRevision : Int

structure MutationEmailGenerationPreparation where
  (projectId applicationId intentId proofSlotId : Uuid)
  nextGeneration : Int
  intentExpiresAt : Instant
  policy : AdmittedEmailMethod

/-- `stored` are the digest columns of the intents -/
def lockAuthenticatedIntent (stored : Uuid → Option HostedCredentials) (db : Database)
    (intentId : Uuid) (presented : HostedCredentials) : Tx MutationIntent := do
  validateDigest presented.handle
  validateDigest presented.browserBinding
  validateDigest presented.csrf
  ensure (stored intentId = some presented) .notFound
  lockIntent db intentId

def challengesOfSlot (projectId intentId slotId : Uuid) : List EmailChallenge :=
  db.emailChallenges.filter fun ch =>
    ch.projectId = projectId ∧ ch.owner = .identityMutation intentId slotId

def prepareMutationEmailGeneration (stored : Uuid → Option HostedCredentials)
    (c : PrepareMutationEmailGeneration) (db : Database) :
    Tx (Committed MutationEmailGenerationPreparation) := do
  let intent ← lockAuthenticatedIntent stored db c.intentId c.presented
  let slot ← lockSlot db c.intentId c.proofSlotId
  unlessExpired env db intent (.error .invalidTransition) do
    requirePendingRevision env db intent c.expectedRevision
    let frozen ← emailSlotMethod slot slot.applicationId
    revalidateSlotAuthority env db intent slot
    let challenges := challengesOfSlot db intent.projectId c.intentId c.proofSlotId
    let policy ← currentEmailMethod env db slot frozen
    let generation := newestGeneration challenges
    ensure (generation < policy.maxGenerations ∧ generation < 5) .invalidTransition
    ensure (∀ ch ∈ challenges, ch.issuedAt + seconds policy.resendAfterSeconds ≤ env.databaseClock)
      .invalidTransition
    pure (.done db
      { projectId := intent.projectId
        applicationId := slot.applicationId
        intentId := c.intentId
        proofSlotId := c.proofSlotId
        nextGeneration := generation + 1
        intentExpiresAt := effectiveDeadline db intent
        policy := policy })

end OwlAuth
