import OwlAuth.Mail.Destinations
import OwlAuth.Mutation.Ceremony

/-!
# Sending mail

Workers lease the message that is due first, hand it to an SMTP server and report the outcome.

* `DueFor`, `identityMutationIsEarliestDue`  which message is due first, and for whom;
* `claimDueLoginMail`, `claimDueIdentityMutationMail`, `claimDueMail`
    the two lanes of a claim, and the claim;
* `HoldsLease`, `finishMailAttempt`  the report of an attempt under its lease;
* `maintainShortTermData`  what can no longer be sent or answered is ended;
* `changeMailAuthority`  the Control calls on email policies, assignments and SMTP
    generations: they may leave any of these behind.

A claim compares the queue again after every lock it waited for; its transaction is one step here,
so all comparisons of one claim see one clock and one queue.
-/

namespace OwlAuth

open Fallible

/-! ## the message that is due first -/

variable (env : Environment) (db : Database)

def OutboxDue (m : MailOutbox) : Prop :=
  Claimable env.databaseClock m ∧ m.attempts < m.maxAttempts
    ∧ m.nextAttemptAt ≤ env.databaseClock ∧ env.databaseClock < m.usefulUntil
  deriving Decidable

def NewestOfOwner (ch : EmailChallenge) : Prop :=
  ∀ o ∈ db.emailChallenges.rows,
    o.projectId = ch.projectId ∧ o.owner = ch.owner → o.generation ≤ ch.generation
  deriving Decidable

def ChallengeOpen (ch : EmailChallenge) : Prop :=
  ch.status = .pending ∧ env.databaseClock < ch.expiresAt
  deriving Decidable

def MethodCurrent (projectId applicationId : Uuid) (a : EmailMethodAuthority) : Prop :=
  ∃ p ∈ db.emailPolicies.rows, ∃ s ∈ db.emailAssignments.rows, p.projectId = projectId
    ∧ s.projectId = projectId ∧ s.applicationId = applicationId
    ∧ EmailMethodCurrent p s a.policyRevision a.securityRevision a.assignmentSecurityRevision
  deriving Decidable

def OwnersAt (projectId applicationId : Uuid)
    (metadataRevision securityRevision applicationRevision : Int) : Prop :=
  ∃ p ∈ db.projects.rows, ∃ a ∈ db.applications.rows, p.id = projectId ∧ a.projectId = projectId
    ∧ a.id = applicationId ∧ p.status = .active ∧ p.metadataRevision = metadataRevision
    ∧ p.securityRevision = securityRevision ∧ a.status = .active
    ∧ a.securityRevision = applicationRevision
  deriving Decidable

/-- the login of a message waits for it, under the owners it captured -/
def LoginWaits (m : MailOutbox) (ch : EmailChallenge) : Prop :=
  ∃ l ∈ db.logins.rows, l.projectId = m.projectId ∧ m.transactionId = some l.id
    ∧ l.status = .emailChallengePending ∧ env.databaseClock < l.expiresAt
    ∧ OwnersAt db l.projectId l.applicationId l.projectMetadataRevision l.projectSecurityRevision
      l.applicationSecurityRevision
    ∧ MethodCurrent db l.projectId l.applicationId ch.authority
  deriving Decidable

/-- the slot of a message waits for it, under the owners its intent captured -/
def SlotWaits (ch : EmailChallenge) : Prop :=
  ∃ i ∈ db.intents.rows, ∃ s ∈ db.slots.rows, i.projectId = ch.projectId
    ∧ s.projectId = i.projectId ∧ s.intentId = i.id ∧ ch.owner = .identityMutation i.id s.id
    ∧ i.status = .pendingProof ∧ env.databaseClock < i.expiresAt
    ∧ (∀ r ∈ db.receipts.rows, r.projectId = i.projectId ∧ r.intentId = i.id →
      env.databaseClock < r.expiresAt)
    ∧ s.state = .emailChallengePending
    ∧ OwnersAt db i.projectId ch.applicationId i.projectMetadataRevision i.projectSecurityRevision
      s.applicationSecurityRevision
    ∧ MethodCurrent db i.projectId ch.applicationId ch.authority
  deriving Decidable

def OwnerWaits (m : MailOutbox) (ch : EmailChallenge) : Prop :=
  (ch.owner.transactionId.isSome = true ∧ LoginWaits env db m ch)
    ∨ (ch.owner.transactionId = none ∧ m.transactionId = none ∧ SlotWaits env db ch)
  deriving Decidable

/-- the message of the challenge may be sent now, under everybody's current authority -/
def DueFor (m : MailOutbox) (ch : EmailChallenge) : Prop :=
  MessageOf ch m ∧ OutboxDue env m ∧ ChallengeOpen env ch ∧ OwnerWaits env db m ch
    ∧ NewestOfOwner db ch ∧ SmtpUsableExactly db m.projectId m.smtp env.databaseClock
  deriving Decidable

/-- `ORDER BY next_attempt_at, id` -/
def mailBefore (m m' : MailOutbox) : Bool :=
  decide (m.nextAttemptAt < m'.nextAttemptAt ∨ (m.nextAttemptAt = m'.nextAttemptAt ∧ m.id < m'.id))

/-- the message that is due first, and whether it belongs to an identity mutation -/
def identityMutationIsEarliestDue : Option (Uuid × Bool) := do
  let m ← db.mailOutbox.first? (fun m => ∃ ch ∈ db.emailChallenges.rows, DueFor env db m ch)
    mailBefore
  let ch ← db.emailChallenges.find? (DueFor env db m)
  pure (m.id, ch.owner.transactionId.isNone)

/-! ## claims -/

structure ClaimDueMail where
  worker : String
  (now leaseUntil : Instant)
  /-- the intents that `terminalize_due_identity_mutations` finds due and unlocked -/
  due : List Uuid

structure ClaimedMailJob where
  (id projectId : Uuid)
  owner : ChallengeOwner
  challengeId : Uuid
  challengeGeneration : Int
  messageId : String
  (envelope body : ProtectedValue)
  smtp : SmtpReference
  endpoint : SmtpEndpoint
  envelopeFrom : String
  (senderName replyTo : Option String)
  credentialMaterialId : Uuid
  safeFingerprint : Digest
  leaseOwner : String
  leaseExpiresAt : Instant
  (attempts maxAttempts : Int)
  usefulUntil : Instant

variable (worker : String)

def leasedMail (leaseExpiresAt : Instant) (m : MailOutbox) : MailOutbox :=
  { m with
    status := .leased
    leaseOwner := some worker
    leaseExpiresAt := some leaseExpiresAt
    attempts := m.attempts + 1 }

def parseIpAllowlist (values : List (Option String)) : Tx (List IpAddr) := do
  ensure (values.length ≤ 16) .integrity
  values.mapM fun value => require (value.bind env.parseIp) .integrity

def claimedMailJob (m : MailOutbox) (owner : ChallengeOwner) (server : SmtpServer)
    (worker : String) (leaseExpiresAt : Instant) (safeFingerprint : Digest) :
    Tx ClaimedMailJob := do
  let allowed ← parseIpAllowlist env server.allowedPrivateIps
  let endpoint : SmtpEndpoint := ⟨server.host, server.port, server.tlsMode, allowed,
    decide (server.tlsMode = .developmentLoopbackPlaintext)⟩
  endpoint.validate fun host => (env.parseIp host).isSome
  pure
    { id := m.id
      projectId := m.projectId
      owner := owner
      challengeId := m.challengeId
      challengeGeneration := m.challengeGeneration
      messageId := m.messageId
      envelope := m.envelope
      body := m.body
      smtp := m.smtp
      endpoint := endpoint
      envelopeFrom := server.senderAddress
      senderName := server.senderName
      replyTo := server.replyTo
      credentialMaterialId := server.credentialMaterialId
      safeFingerprint := safeFingerprint
      leaseOwner := worker
      leaseExpiresAt := leaseExpiresAt
      attempts := m.attempts + 1
      maxAttempts := m.maxAttempts
      usefulUntil := m.usefulUntil }

/-- the lease of `m`, and the job made of `row`; an error after the lease takes it back -/
def leasedJob (row m : MailOutbox) (owner : ChallengeOwner) (server : SmtpServer)
    (worker : String) (lease : Int) : Tx (Database × ClaimedMailJob) := do
  let leaseExpiresAt := env.databaseClock + lease
  let leased := leasedMail worker leaseExpiresAt m
  let safeFingerprint ← require server.safeFingerprint .persistence
  let job ← claimedMailJob env row owner server worker leaseExpiresAt safeFingerprint
  pure ({ db with mailOutbox := db.mailOutbox.set leased }, job)

/-- the last comparison of a claim, and the lease -/
def leaseMail (row : MailOutbox) (owner : ChallengeOwner) (server : SmtpServer) (worker : String)
    (lease : Int) : Option (Tx (Database × ClaimedMailJob)) := do
  guard (identityMutationIsEarliestDue env db = some (row.id, owner.transactionId.isNone))
  let m ← db.mailOutbox.find? fun m => m.id = row.id ∧ OutboxDue env m
  pure (leasedJob env db row m owner server worker lease)

/-- the claim of a message of a login: every owner is read again before the lease -/
def claimDueLoginMail (lease : Int) (selectedId : Uuid) :
    Option (Tx (Database × ClaimedMailJob)) := do
  let now := env.databaseClock
  let candidate ← db.mailOutbox.find? fun m => m.id = selectedId
  let transactionId ← candidate.transactionId
  let login ← db.logins.find? fun l => l.projectId = candidate.projectId ∧ l.id = transactionId
  guard (login.status = .emailChallengePending ∧ now < login.expiresAt)
  guard (OwnersAt db candidate.projectId login.applicationId login.projectMetadataRevision
    login.projectSecurityRevision login.applicationSecurityRevision)
  let (policy, assignment) ← findEmailMethod db candidate.projectId login.applicationId
  let challenge ← db.emailChallenges.find? fun ch =>
    ch.projectId = candidate.projectId ∧ ch.owner = .login transactionId
      ∧ ch.id = candidate.challengeId
  guard (EmailMethodCurrent policy assignment challenge.authority.policyRevision
    challenge.authority.securityRevision challenge.authority.assignmentSecurityRevision)
  guard (ChallengeOpen env challenge ∧ NewestOfOwner db challenge)
  guard (SmtpUsableExactly db candidate.projectId challenge.authority.smtp now)
  let server ← findSmtpServer db candidate.projectId challenge.authority.smtp
  let row ← db.mailOutbox.find? fun m =>
    m.id = candidate.id ∧ m.projectId = candidate.projectId ∧ m.transactionId = some transactionId
      ∧ MessageOf challenge m ∧ m.smtp = challenge.authority.smtp ∧ OutboxDue env m
  leaseMail env db row challenge.owner server worker lease

def findMutationCandidate (selectedId : Uuid) :
    Option (MailOutbox × EmailChallenge × MutationIntent) := do
  let candidate ← db.mailOutbox.find? fun m => m.id = selectedId ∧ m.transactionId = none
  let challenge ← db.emailChallenges.find? fun ch =>
    ch.projectId = candidate.projectId ∧ ch.id = candidate.challengeId
  let intent ← db.intents.find? fun i =>
    i.projectId = challenge.projectId ∧ challenge.owner.OfIntent i.id
  pure (candidate, challenge, intent)

/-- the checks of `claim_due_identity_mutation_mail` once the intent has proved alive -/
def leaseMutationMail (candidate : MailOutbox) (challenge : EmailChallenge)
    (intent : MutationIntent) (worker : String) (lease : Int) :
    Option (Tx (Database × ClaimedMailJob)) := do
  let now := env.databaseClock
  guard (intent.status = .pendingProof)
  let slot ← db.slots.find? fun s =>
    s.projectId = challenge.projectId ∧ s.intentId = intent.id
      ∧ challenge.owner = .identityMutation intent.id s.id
  guard (OwnersAt db candidate.projectId challenge.applicationId intent.projectMetadataRevision
    intent.projectSecurityRevision slot.applicationSecurityRevision)
  let (policy, assignment) ← findEmailMethod db candidate.projectId challenge.applicationId
  guard (slot.state = .emailChallengePending)
  guard (EmailMethodCurrent policy assignment challenge.authority.policyRevision
    challenge.authority.securityRevision challenge.authority.assignmentSecurityRevision)
  guard (ChallengeOpen env challenge ∧ NewestOfOwner db challenge)
  guard (SmtpUsableExactly db candidate.projectId challenge.authority.smtp now)
  let server ← findSmtpServer db candidate.projectId challenge.authority.smtp
  let row ← db.mailOutbox.find? fun m =>
    m.id = candidate.id ∧ m.projectId = candidate.projectId ∧ m.transactionId = none
      ∧ MessageOf challenge m ∧ OutboxDue env m
  leaseMail env db row challenge.owner server worker lease

/-- a claim that found nothing to lease leaves the database to the next comparison -/
def orElseKept :
    Option (Tx (Database × ClaimedMailJob)) → Tx (Database × Option ClaimedMailJob)
  | none => pure (db, none)
  | some claim => do
    let (db', job) ← claim
    pure (db', some job)

/-- the claim of a message of an identity mutation; an intent past its deadline is ended instead -/
def claimDueIdentityMutationMail (lease : Int) (selectedId : Uuid) :
    Tx (Database × Option ClaimedMailJob) :=
  match findMutationCandidate db selectedId with
  | none => pure (db, none)
  | some (candidate, challenge, intent) => do
    match ← expireLockedIfNeeded env db intent with
    | some db' => pure (db', none)
    | none =>
      orElseKept db (leaseMutationMail env db candidate challenge intent worker lease)

def claimLane (lease : Int) (selectedId : Uuid) (mutation : Bool) :
    Tx (Database × Option ClaimedMailJob) :=
  if mutation = true then claimDueIdentityMutationMail env db worker lease selectedId
  else orElseKept db (claimDueLoginMail env db worker lease selectedId)

def maxGlobalMailRecomparisons : Nat := 8

def compareAndClaim (env : Environment) (worker : String) (lease : Int) :
    Nat → Database → Tx (Database × Option ClaimedMailJob)
  | 0, db => pure (db, none)
  | n + 1, db =>
    match identityMutationIsEarliestDue env db with
    | none => pure (db, none)
    | some (selectedId, mutation) => do
      match ← claimLane env db worker lease selectedId mutation with
      | (db', some job) => pure (db', some job)
      | (db', none) => compareAndClaim env worker lease n db'

/-- `lease_millis`: the lease in whole milliseconds -/
def leaseDuration (c : ClaimDueMail) : Int := (c.leaseUntil - c.now) / 1000 * 1000

def claimDueMail (c : ClaimDueMail) (db : Database) : Tx (Committed (Option ClaimedMailJob)) := do
  ensure (c.worker ≠ "" ∧ c.worker.utf8ByteSize ≤ 128 ∧ c.now < c.leaseUntil
    ∧ c.leaseUntil ≤ c.now + minutes 1) .invalidInput
  let db ← terminalizeDueIdentityMutations env 100 c.due db
  let (db, job) ← compareAndClaim env c.worker (leaseDuration c) maxGlobalMailRecomparisons db
  pure (.done db job)

/-! ## reports -/

inductive MailTransportOutcome
  | delivered | permanent | policyDenied | transient | ambiguous
  deriving DecidableEq

def MailTransportOutcome.settle : MailTransportOutcome → Option Instant →
    MailStatus × SafeMailOutcome × Bool
  | delivered, _ => (.delivered, .delivered, true)
  | permanent, _ => (.permanentFailure, .permanent, true)
  | policyDenied, _ => (.permanentFailure, .policyDenied, true)
  | transient, some _ => (.retry, .transient, false)
  | ambiguous, some _ => (.ambiguous, .ambiguous, false)
  | transient, none => (.permanentFailure, .transient, true)
  | ambiguous, none => (.permanentFailure, .ambiguous, true)

structure FinishMailAttempt where
  job : ClaimedMailJob
  outcome : MailTransportOutcome
  nextAttemptAt : Option Instant
  now : Instant

/-- the row still carries the lease the job was granted, and the lease has not run out -/
def HoldsLease (clock : Instant) (job : ClaimedMailJob) (m : MailOutbox) : Prop :=
  m.id = job.id ∧ m.status = .leased ∧ m.leaseOwner = some job.leaseOwner
    ∧ m.attempts = job.attempts ∧ m.leaseExpiresAt = some job.leaseExpiresAt
    ∧ clock < job.leaseExpiresAt
  deriving Decidable

def finishedMail (c : FinishMailAttempt) (m : MailOutbox) : MailOutbox :=
  let settled := c.outcome.settle c.nextAttemptAt
  { m with
    status := settled.1
    safeOutcome := some settled.2.1
    nextAttemptAt := c.nextAttemptAt.getD c.job.usefulUntil
    leaseOwner := none
    leaseExpiresAt := none
    deliveredAt := if settled.1 = .delivered then some c.now else m.deliveredAt
    terminalAt := if settled.2.2 = true then some c.now else m.terminalAt }

/-- the schema keeps the next attempt within the useful life of the message -/
def finishMailAttempt (c : FinishMailAttempt) (db : Database) : Tx (Committed Unit) := do
  let row ← require (db.mailOutbox.find? (HoldsLease env.databaseClock c.job)) .revisionConflict
  ensure ((finishedMail c row).nextAttemptAt ≤ row.usefulUntil) .persistence
  pure (.done { db with mailOutbox := db.mailOutbox.set (finishedMail c row) } ())

/-! ## maintenance -/

/-- the statements of `maintain_short_term_data`, each a transaction of its own -/
inductive ShortTermCleanup
  | failExhaustedMail | expireUselessMail | expireChallenges | deleteTransferContexts

structure MaintainShortTermData where
  cleanup : ShortTermCleanup
  /-- the rows the statement finds unlocked, within its budget -/
  rows : List Uuid
  now : Instant

def shortTermDataRetention : Int := minutes 10

def MailHeld (clock : Instant) (m : MailOutbox) : Prop :=
  m.status = .leased ∧ ¬ ∃ t ∈ m.leaseExpiresAt, t ≤ clock
  deriving Decidable

variable (c : MaintainShortTermData)

/-- the message waits, nobody holds it, and it is not an identity mutation's -/
def MailAbandoned (m : MailOutbox) : Prop :=
  m.id ∈ c.rows ∧ ActiveMail m ∧ ¬ MailHeld env.databaseClock m
    ∧ ¬ ∃ ch ∈ db.emailChallenges.rows, ch.projectId = m.projectId ∧ ch.id = m.challengeId
      ∧ ch.owner.OfMutation
  deriving Decidable

def endedMail (status : MailStatus) (outcome : SafeMailOutcome) (now : Instant) (m : MailOutbox) :
    MailOutbox :=
  { m with
    status := status
    safeOutcome := some outcome
    leaseOwner := none
    leaseExpiresAt := none
    terminalAt := some now }

variable (db : Database)

def failExhaustedMail : Table MailOutbox :=
  db.mailOutbox.update (fun m => MailAbandoned env db c m ∧ m.maxAttempts ≤ m.attempts)
    (fun m => endedMail .permanentFailure (m.safeOutcome.getD .transient) c.now m) (fun _ => rfl)

def expireUselessMail : Table MailOutbox :=
  db.mailOutbox.update (fun m => MailAbandoned env db c m ∧ m.usefulUntil ≤ c.now)
    (endedMail .expired .expired c.now) (fun _ => rfl)

def expireLoginChallenges : Table EmailChallenge :=
  db.emailChallenges.update
    (fun ch => ch.id ∈ c.rows ∧ ¬ ch.owner.OfMutation ∧ ch.status = .pending ∧ ch.expiresAt ≤ c.now)
    (fun ch => { ch with status := .expired, terminalAt := some c.now })
    (fun _ => rfl)

def deleteTransferContexts : Table MagicTransferContext :=
  let cutoff := c.now - shortTermDataRetention
  db.transferContexts.delete fun x =>
    x.id ∈ c.rows ∧ (x.expiresAt ≤ cutoff ∨ (∃ t ∈ x.consumedAt, t ≤ cutoff)
      ∨ ∃ ch ∈ db.emailChallenges.rows, ch.id = x.challengeId ∧ ∃ t ∈ ch.terminalAt, t ≤ cutoff)

def maintainShortTermData : Database :=
  match c.cleanup with
  | .failExhaustedMail => { db with mailOutbox := failExhaustedMail env c db }
  | .expireUselessMail => { db with mailOutbox := expireUselessMail env c db }
  | .expireChallenges => { db with emailChallenges := expireLoginChallenges c db }
  | .deleteTransferContexts => { db with transferContexts := deleteTransferContexts c db }

/-! ## authority -/

structure ChangeMailAuthority where
  emailPolicies : Table ProjectEmailPolicy
  emailAssignments : Table ApplicationEmailAssignment
  smtpConfigurations : Table ProjectSmtpConfiguration
  deploymentSmtp : Table DeploymentSmtpGeneration

def changeMailAuthority (c : ChangeMailAuthority) (db : Database) : Database :=
  { db with
    emailPolicies := c.emailPolicies
    emailAssignments := c.emailAssignments
    smtpConfigurations := c.smtpConfigurations
    deploymentSmtp := c.deploymentSmtp }

end OwlAuth
