import OwlAuth.Data.Managed

/-!
# The database and its environment

* `Database`  one table for each relation the repositories read or write;
* `Committed`  what a committed transaction leaves behind: a body is a `Tx (Committed α)`, an outer
    `.error` is a rollback, and `Committed.fail` commits and answers with an error;
* `Environment`  what a transaction takes from outside: the clock of the database server, the
    random identifiers it draws, the projection cryptography and the digests, and
    what it reads from the managed-connection tables and from the configuration;
* `insertRowOr`  an `INSERT` under its unique constraints;
* `findProject`, `findApplication`, `findUser`, `findPolicy`  the reads all repositories share.
-/

namespace OwlAuth

open Table
open Fallible (ensure require)

structure Database where
  projects : Table Project
  applications : Table Application
  redirects : Table ApplicationRedirect
  policies : Table ProjectPolicy
  providers : Table ProviderConfiguration
  egressPolicies : Table ProviderEgressPolicy
  assignments : Table ProviderAssignment
  users : Table ProjectUser
  identities : Table LinkedIdentity
  emailIdentities : Table EmailIdentity
  emailAliases : Table EmailIdentityAlias
  managedConnections : Table ManagedConnection
  managedCredentials : Table ManagedCredential
  renewalOperations : Table RenewalOperation
  reauthorizations : Table ReauthorizationInteraction
  logins : Table LoginTransaction
  loginMethods : Table LoginTransactionMethod
  emailSnapshots : Table LoginEmailMethodSnapshot
  emailChallenges : Table EmailChallenge
  transferContexts : Table MagicTransferContext
  emailPolicies : Table ProjectEmailPolicy
  emailAssignments : Table ApplicationEmailAssignment
  smtpConfigurations : Table ProjectSmtpConfiguration
  deploymentSmtp : Table DeploymentSmtpGeneration
  mailOutbox : Table MailOutbox
  intents : Table MutationIntent
  slots : Table MutationSlot
  receipts : Table ProofReceipt
  evidence : Table CandidateEvidence
  browserSessions : Table BrowserSession
  tickets : Table HandoffTicket
  logouts : Table BrowserLogoutInteraction
  sessions : Table ApplicationSession
  families : Table RefreshFamily
  generations : Table RefreshTokenGeneration
  bindings : Table ApplicationUserBinding
  projections : Table ApplicationUserProjection
  rings : Table KeyRing
  keys : Table SigningKey
  operations : Table KeyProvisioningOperation
  materials : Table ProtectedMaterial
  events : Table ApplicationUserEvent
  endpoints : Table WebhookEndpoint
  secrets : Table WebhookSecretGeneration
  cleanups : Table WebhookSecretCleanup
  dispatchStates : Table DispatchState
  deliveries : Table WebhookDelivery
  attempts : Table WebhookDeliveryAttempt

def Database.empty : Database where
  projects := .empty
  applications := .empty
  redirects := .empty
  policies := .empty
  providers := .empty
  egressPolicies := .empty
  assignments := .empty
  users := .empty
  identities := .empty
  emailIdentities := .empty
  emailAliases := .empty
  managedConnections := .empty
  managedCredentials := .empty
  renewalOperations := .empty
  reauthorizations := .empty
  logins := .empty
  loginMethods := .empty
  emailSnapshots := .empty
  emailChallenges := .empty
  transferContexts := .empty
  emailPolicies := .empty
  emailAssignments := .empty
  smtpConfigurations := .empty
  deploymentSmtp := .empty
  mailOutbox := .empty
  intents := .empty
  slots := .empty
  receipts := .empty
  evidence := .empty
  browserSessions := .empty
  tickets := .empty
  logouts := .empty
  sessions := .empty
  families := .empty
  generations := .empty
  bindings := .empty
  projections := .empty
  rings := .empty
  keys := .empty
  operations := .empty
  materials := .empty
  events := .empty
  endpoints := .empty
  secrets := .empty
  cleanups := .empty
  dispatchStates := .empty
  deliveries := .empty
  attempts := .empty

/-! ## transactions -/

structure Committed (α : Type) where
  db : Database
  reply : Except ApplicationError α

namespace Committed

variable {α : Type}

def done (db : Database) (a : α) : Committed α := ⟨db, .ok a⟩

def fail (db : Database) (e : ApplicationError) : Committed α := ⟨db, .error e⟩

end Committed

/-- the state a transaction leaves: a rollback leaves the old one -/
def execute {α : Type} (db : Database) (body : Tx (Committed α)) : Database :=
  match body with
  | .ok r => r.db
  | .error _ => db

def answer {α : Type} (body : Tx (Committed α)) : Except ApplicationError α :=
  match body with
  | .ok r => r.reply
  | .error e => .error e

section

variable {α : Type} {body : Tx (Committed α)}

theorem execute_ok {db r} (h : body = .ok r) : execute db body = r.db := by
  rw [h]; rfl

theorem execute_cases (db : Database) (body : Tx (Committed α)) :
    execute db body = db ∨ ∃ r, body = .ok r ∧ execute db body = r.db := by
  cases body with
  | error e => exact .inl rfl
  | ok r => exact .inr ⟨r, rfl, rfl⟩

theorem execute_of {P : Database → Prop} {db : Database} (hdb : P db)
    (h : ∀ r, body = .ok r → P r.db) : P (execute db body) := by
  cases body with
  | error e => exact hdb
  | ok r => exact h r rfl

theorem execute_on {β : Type} (f : Database → β) {P : β → Prop} {db : Database} (hdb : P (f db))
    (h : ∀ r, body = .ok r → P (f r.db)) : P (f (execute db body)) :=
  execute_of (P := fun d => P (f d)) hdb h

theorem answer_ok {a} (h : answer body = .ok a) : ∃ db', body = .ok (Committed.done db' a) := by
  cases body with
  | error e => cases h
  | ok r =>
    obtain ⟨db', reply⟩ := r
    exact ⟨db', by rw [show reply = .ok a from h]; rfl⟩

end

structure Environment where
  /-- `transaction_timestamp()` of the database server -/
  databaseClock : Instant
  /-- the random id drawn for the event of a binding at a projection revision -/
  eventId : Uuid → Int → Uuid
  /-- the random id drawn for the delivery of an event to an endpoint -/
  deliveryId : Uuid → Uuid → Uuid
  /-- the random ids a transaction draws, in the order of the source -/
  newUuid : Nat → Uuid
  projectionWriteVersion : Int
  projectionReadableVersions : List Int
  readDurableEmail : (projectId identityId : Uuid) → ProtectedValue → Tx String
  protectProjectionEmail :
    (projectId applicationId userId : Uuid) → (revision : Int) → String → Tx ProtectedValue
  unprotectProjectionEmail :
    (projectId applicationId userId : Uuid) → (revision : Int) → ProtectedValue → Tx String
  /-- SHA-256 of the canonical JSON of a profile, a document, an event body -/
  profileDigest : Profile → Digest
  documentDigest : ProjectionDocument → Digest
  bodyDigest : EventBody → Digest
  /-- `ProfileDisplayName::parse`, `ProfilePictureUrl::parse`, `ProfileLocale::parse` accept -/
  displayNameParses : String → Bool
  pictureUrlParses : String → Bool
  localeParses : String → Bool
  emailParses : String → Bool
  /-- the parser of address literals -/
  parseIp : String → Option IpAddr
  /-- a replacement of the provider's secret is under way -/
  pendingSecretReplacement : (projectId providerId : Uuid) → Bool
  /-- the key new credentials of managed connections are sealed under, where one is configured -/
  managedKeyVersion : Option Int
  /-- `runtime_base` joined with the path of a project -/
  projectIssuer : (projectPublicId : String) → Tx String
  /-- the configured custody provider of signing keys -/
  signingProviderId : String
  signingProviderFormatVersion : Int
  /-- the custody provider of configuration secrets and its format, where one is configured -/
  secretProvider : Option (String × Int)
  /-- `nextval('webhook_dispatch_claim_sequence')` -/
  claimSequence : Int
  /-- the configured overlap of two signing keys -/
  (verificationRetention propagationDelay : Int)
  /-- `URL_SAFE_NO_PAD.encode` -/
  base64Url : List UInt8 → String

/-- `INSERT`: the row, or the error `e` if its key or a unique constraint is violated -/
def insertRowOr {ρ κ : Type} [Keyed ρ κ] [DecidableEq κ] (e : ApplicationError) (t : Table ρ) (r : ρ)
    (unique : ρ → Prop) [DecidablePred unique] : Tx (Table ρ) := do
  ensure (∀ s ∈ t.rows, unique s) e
  require (t.insert r) e

/-- `INSERT` in a repository that answers every database error alike -/
def insertRow {ρ κ : Type} [Keyed ρ κ] [DecidableEq κ] (t : Table ρ) (r : ρ)
    (unique : ρ → Prop) [DecidablePred unique] : Tx (Table ρ) :=
  insertRowOr .persistence t r unique

/-- `INSERT` in the provisioning repositories, which tell a unique violation apart -/
def insertProvisioned {ρ κ : Type} [Keyed ρ κ] [DecidableEq κ] (t : Table ρ) (r : ρ)
    (unique : ρ → Prop) [DecidablePred unique] : Tx (Table ρ) :=
  insertRowOr .revisionConflict t r unique

theorem insertRowOr_ok {ρ κ : Type} [Keyed ρ κ] [DecidableEq κ] {e : ApplicationError}
    {t t' : Table ρ} {r : ρ} {unique : ρ → Prop} [DecidablePred unique]
    (h : insertRowOr e t r unique = .ok t') : (∀ s ∈ t, unique s) ∧ t.insert r = some t' := by
  obtain ⟨_, hu, hi⟩ := Fallible.bind_ok.mp h
  exact ⟨Fallible.ensure_ok.mp hu, Fallible.require_ok.mp hi⟩

theorem insertRow_ok {ρ κ : Type} [Keyed ρ κ] [DecidableEq κ] {t t'} {r : ρ}
    {unique : ρ → Prop} [DecidablePred unique] (h : insertRow t r unique = .ok t') :
    (∀ s ∈ t, unique s) ∧ t.insert r = some t' :=
  insertRowOr_ok h

/-! ## shared reads -/

def findProject (db : Database) (projectId : Uuid) : Tx Project :=
  require (db.projects.find? fun p => p.id = projectId) .notFound

def findApplication (db : Database) (projectId applicationId : Uuid) : Tx Application :=
  require (db.applications.find? fun a => a.id = applicationId ∧ a.projectId = projectId) .notFound

def findUser (db : Database) (projectId userId : Uuid) : Tx ProjectUser :=
  require (db.users.find? fun u => u.id = userId ∧ u.projectId = projectId) .notFound

def findPolicy (db : Database) (projectId : Uuid) : Tx ProjectPolicy :=
  require (db.policies.find? fun p => p.projectId = projectId) .integrity

variable {db : Database} {projectId : Uuid}

theorem findProject_ok {p} (h : findProject db projectId = .ok p) :
    p ∈ db.projects ∧ p.id = projectId :=
  find?_some (Fallible.require_ok.mp h)

theorem findApplication_ok {applicationId a}
    (h : findApplication db projectId applicationId = .ok a) :
    a ∈ db.applications ∧ a.id = applicationId ∧ a.projectId = projectId :=
  find?_some (Fallible.require_ok.mp h)

theorem findUser_ok {userId u} (h : findUser db projectId userId = .ok u) :
    u ∈ db.users ∧ u.id = userId ∧ u.projectId = projectId :=
  find?_some (Fallible.require_ok.mp h)

theorem findPolicy_ok {p} (h : findPolicy db projectId = .ok p) :
    p ∈ db.policies ∧ p.projectId = projectId :=
  find?_some (Fallible.require_ok.mp h)

end OwlAuth
