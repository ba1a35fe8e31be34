import OwlAuth.Data.Database

/-!
# Who may send mail

* `SmtpUsable`, `SmtpEligible`, `SmtpUsableExactly`
    an SMTP generation still carries what was addressed to it;
* `emailMethodAdmitted`  policy, assignment and SMTP are the ones a method was admitted under;
* `Claimable`, `cancelMail`  the messages that wait, and their withdrawal;
* `authorizeMailDelivery`  the project has room, and the recipient was not written to just now;
* `newMail`, `enqueueMail`  the message of a challenge.
-/

namespace OwlAuth

open Fallible

/-! ## authority -/

/-- the generation is active, or retained for the messages that already name it -/
def SmtpUsable (status : SmtpStatus) (retainedUntil : Option Instant) (now : Instant) : Prop :=
  status = .active ∨ (status = .retained ∧ ∃ t ∈ retainedUntil, now < t)
  deriving Decidable

variable (db : Database)

/-- exactly the SMTP generation referred to is there and usable -/
def SmtpEligible (projectId : Uuid) (r : SmtpReference) (now : Instant) : Prop :=
  (r.selectionKind = .project ∧ ∃ s ∈ db.smtpConfigurations.rows,
      s.projectId = projectId ∧ some s.id = r.configurationId ∧ s.generation = r.generation
        ∧ s.securityEligibilityRevision = r.securityEligibilityRevision
        ∧ SmtpUsable s.status s.retainedUntil now)
    ∨ (r.selectionKind = .deploymentDefault ∧ ∃ s ∈ db.deploymentSmtp.rows,
      s.generation = r.generation
        ∧ s.securityEligibilityRevision = r.securityEligibilityRevision
        ∧ SmtpUsable s.status s.retainedUntil now)
  deriving Decidable

/-- `SmtpEligible`, where a reference to the deployment's SMTP names no configuration -/
def SmtpUsableExactly (projectId : Uuid) (r : SmtpReference) (now : Instant) : Prop :=
  SmtpEligible db projectId r now ∧ (r.selectionKind = .deploymentDefault → r.configurationId = none)
  deriving Decidable

/-- the server of the generation; a project has no allowlist, the deployment no names of a sender -/
def findSmtpServer (projectId : Uuid) (r : SmtpReference) : Option SmtpServer :=
  match r.selectionKind with
  | .project =>
    (db.smtpConfigurations.find? fun s => s.projectId = projectId ∧ some s.id = r.configurationId
      ∧ s.generation = r.generation).map fun s => { s.server with allowedPrivateIps := [] }
  | .deploymentDefault =>
    (db.deploymentSmtp.find? fun s => s.generation = r.generation).map fun s =>
      { s.server with senderName := none, replyTo := none }

def findEmailMethod (projectId applicationId : Uuid) :
    Option (ProjectEmailPolicy × ApplicationEmailAssignment) := do
  let policy ← db.emailPolicies.find? fun p => p.projectId = projectId
  let assignment ← db.emailAssignments.find? fun a =>
    a.projectId = projectId ∧ a.applicationId = applicationId
  pure (policy, assignment)

def EmailMethodCurrent (policy : ProjectEmailPolicy) (assignment : ApplicationEmailAssignment)
    (policyRevision securityRevision assignmentSecurityRevision : Int) : Prop :=
  policy.status = .enabled ∧ assignment.status = .active ∧ policy.policyRevision = policyRevision
    ∧ policy.securityRevision = securityRevision
    ∧ assignment.securityRevision = assignmentSecurityRevision
  deriving Decidable

def emailMethodAdmitted (projectId applicationId : Uuid) (authority : EmailMethodAuthority)
    (now : Instant) : Tx Unit := do
  let (policy, assignment) ← require (findEmailMethod db projectId applicationId) .revisionConflict
  ensure (EmailMethodCurrent policy assignment authority.policyRevision authority.securityRevision
    authority.assignmentSecurityRevision) .revisionConflict
  ensure (SmtpEligible db projectId authority.smtp now) .disabled

/-! ## messages -/

/-- the message waits, or the worker that had it let the lease run out -/
def Claimable (clock : Instant) (m : MailOutbox) : Prop :=
  m.status = .pending ∨ m.status = .retry ∨ m.status = .ambiguous
    ∨ (m.status = .leased ∧ ∃ t ∈ m.leaseExpiresAt, t ≤ clock)
  deriving Decidable

def MessageOf (ch : EmailChallenge) (m : MailOutbox) : Prop :=
  m.projectId = ch.projectId ∧ m.challengeId = ch.id ∧ m.challengeGeneration = ch.generation
  deriving Decidable

def cancelledMail (now : Instant) (m : MailOutbox) : MailOutbox :=
  { m with
    status := .cancelled
    safeOutcome := some .expired
    leaseOwner := none
    leaseExpiresAt := none
    terminalAt := some now }

/-- the waiting messages of the owners in `owns` withdrawn; one that a worker holds is not -/
def cancelMail (env : Environment) (db : Database) (projectId : Uuid) (owns : ChallengeOwner → Prop)
    [DecidablePred owns] : Table MailOutbox :=
  db.mailOutbox.update
    (fun m => Claimable env.databaseClock m ∧ ∃ ch ∈ db.emailChallenges.rows,
      ch.projectId = projectId ∧ owns ch.owner ∧ MessageOf ch m)
    (cancelledMail env.databaseClock) (fun _ => rfl)

def newMail (id : Uuid) (ch : EmailChallenge) (messageId : String) (envelope body : ProtectedValue)
    (now : Instant) : MailOutbox :=
  { id := id
    projectId := ch.projectId
    transactionId := ch.owner.transactionId
    challengeId := ch.id
    challengeGeneration := ch.generation
    status := .pending
    smtp := ch.authority.smtp
    messageId := messageId
    envelope := envelope
    body := body
    attempts := 0
    maxAttempts := 5
    nextAttemptAt := now
    leaseOwner := none
    leaseExpiresAt := none
    safeOutcome := none
    usefulUntil := ch.expiresAt
    deliveredAt := none
    terminalAt := none
    createdAt := now }

/-- a challenge has one message, and a message that comes too late is refused by the schema -/
def insertMail (mail : Table MailOutbox) (m : MailOutbox) : Tx (Table MailOutbox) := do
  ensure (m.createdAt < m.usefulUntil) .persistence
  insertRow mail m fun o =>
    o.messageId ≠ m.messageId ∧ ¬ (o.projectId = m.projectId ∧ o.challengeId = m.challengeId)

/-! ## delivery -/

inductive MailDeliveryAuthorization
  | dispatch | recipientSuppressed | projectBacklogFull
  deriving DecidableEq

def maxActiveMailOutboxPerProject : Nat := 1000

def validateDelivery (canonicalizationVersion : Int) (recipientDigests : List VersionedDigest)
    (suppressionSeconds : Int) : Tx Unit := do
  ensure (0 < canonicalizationVersion ∧ recipientDigests ≠ [] ∧ recipientDigests.length ≤ 16
    ∧ 30 ≤ suppressionSeconds ∧ suppressionSeconds ≤ 600) .invalidInput
  ensure ((∀ d ∈ recipientDigests, 0 < d.keyVersion)
    ∧ (recipientDigests.map VersionedDigest.keyVersion).Nodup) .invalidInput

def ActiveMail (m : MailOutbox) : Prop :=
  m.status = .pending ∨ m.status = .leased ∨ m.status = .retry ∨ m.status = .ambiguous
  deriving Decidable

/-- a message to the recipient, under any of the digests, was put out within the window -/
def RecentlyEnqueued (env : Environment) (db : Database) (projectId : Uuid)
    (canonicalizationVersion : Int) (recipientDigests : List VersionedDigest)
    (suppressionSeconds : Int) : Prop :=
  ∃ ch ∈ db.emailChallenges.rows, ch.projectId = projectId
    ∧ ch.canonicalizationVersion = canonicalizationVersion ∧ ch.lookupDigest ∈ recipientDigests
    ∧ ∃ m ∈ db.mailOutbox.rows, MessageOf ch m
      ∧ env.databaseClock - seconds suppressionSeconds < m.createdAt
  deriving Decidable

def authorizeMailDelivery (env : Environment) (db : Database) (projectId : Uuid)
    (canonicalizationVersion : Int) (recipientDigests : List VersionedDigest)
    (suppressionSeconds : Int) : Tx MailDeliveryAuthorization := do
  validateDelivery canonicalizationVersion recipientDigests suppressionSeconds
  if maxActiveMailOutboxPerProject
      ≤ (db.mailOutbox.filter fun m => m.projectId = projectId ∧ ActiveMail m).length then
    pure .projectBacklogFull
  else if RecentlyEnqueued env db projectId canonicalizationVersion recipientDigests
      suppressionSeconds then
    pure .recipientSuppressed
  else pure .dispatch

/-- the message goes out only if its delivery was authorized -/
def enqueueMail (authorization : MailDeliveryAuthorization) (mail : Table MailOutbox)
    (m : MailOutbox) : Tx (Table MailOutbox) :=
  if authorization = .dispatch then insertMail mail m else pure mail

end OwlAuth
