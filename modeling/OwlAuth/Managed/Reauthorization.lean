import Mathlib.Tactic.MkIffOfInductiveProp
import OwlAuth.Managed.Renewal

/-!
# Reauthorization of managed connections

The operator lets the user of a connection sign in at the provider once more.  An interaction
freezes what it found when it was created; it is bound to a browser, sent to the provider, and its
callback is claimed for one exchange.  The frozen authority is compared with the current one when
the provider is started, when the callback is claimed and when the credential is stored.

* `createReauthorization`, `cancelReauthorization`, `bindReauthorizationBrowser`,
  `startReauthorizationProvider`, `claimReauthorizationCallback`, `denyReauthorizationCallback`,
  `completeReauthorizationCallback`, `failReauthorizationCallback`;
* `readReauthorization`, `hostedReadReauthorization`  reads, which expire what they find expired;
* `terminalizeUnreadableInteractions`, `terminalizeExpiredInteractions`  maintenance.

Whatever ends an interaction scrubs it (`scrubbed`): what is left of a completed or failed one until
its deadline is what recognizes a repeated callback.
-/

namespace OwlAuth

open Fallible

/-! ## records -/

structure ReauthorizationRecord where
  interaction : ReauthorizationInteraction
  /-- the egress policy came along, because it is the frozen one -/
  egressPolicy : Bool

def ProviderKind.managedProfile : ProviderKind → Bool
  | google => true
  | oidc => true
  | github => false

variable (db : Database)

variable (i : ReauthorizationInteraction)

def recordEgress : Tx Bool :=
  if i.frozen.providerKind = .oidc then
    match i.frozen.providerEgressPolicyRevision with
    | some revision => do
      let current ← require (egressRevision db i.frozen.projectId) .integrity
      pure (decide (revision = current))
    | none => do
      ensure (i.status.terminal = true) .integrity
      pure false
  else do
    ensure (i.frozen.providerEgressPolicyRevision = none) .integrity
    pure false

def recordFromRow : Tx ReauthorizationRecord := do
  ensure (i.frozen.providerKind.managedProfile = true
    ∧ i.frozen.providerKind.issuerMatches i.frozen.issuer = true) .integrity
  let policy ← recordEgress db i
  pure ⟨i, policy⟩

def readRecordById (id : Uuid) : Tx ReauthorizationRecord := do
  let i ← require (db.reauthorizations.find? fun i => i.id = id) .notFound
  recordFromRow db i

/-! ## ends -/

/-- what the reader of a repeated callback needs stays until the deadline -/
def keepsRouting (now : Instant) : Bool :=
  decide ((i.status = .completed ∨ i.status = .providerExchangeFailed) ∧ now < i.expiresAt)

variable (now : Instant) (i : ReauthorizationInteraction)

def scrubbed : ReauthorizationInteraction :=
  { i with
    interaction := none
    browserBinding := if keepsRouting i now then i.upstreamState else none
    csrf := if keepsRouting i now then i.browserBinding else none
    upstreamState := none
    oidcNonce := none
    providerPkce := none }

def endedInteraction (status : ReauthorizationStatus) (now : Instant)
    (i : ReauthorizationInteraction) : ReauthorizationInteraction :=
  scrubbed now
    { i with
      status := status
      revision := i.revision + 1
      terminalAt := some now
      providerPkce := none }

def expiredInteraction : ReauthorizationInteraction :=
  endedInteraction .expired now i

/-- the deadline has passed, and something is left to end or to erase -/
def ExpiryDue : Prop :=
  i.expiresAt ≤ now ∧ i.status.terminal = false
  deriving Decidable

def ErasureDue : Prop :=
  i.expiresAt ≤ now ∧ (i.status = .completed ∨ i.status = .providerExchangeFailed)
    ∧ (i.upstreamState.isSome = true ∨ i.browserBinding.isSome = true)
  deriving Decidable

/-- `expire_by_id` on the row it finds -/
def atDeadline : ReauthorizationInteraction :=
  if ExpiryDue now i then expiredInteraction now i
  else if ErasureDue now i then scrubbed now i
  else i

theorem atDeadline_id : (atDeadline now i).id = i.id := by
  unfold atDeadline
  split
  · rfl
  · split <;> rfl

variable (db : Database)

def expireById (id : Uuid) (now : Instant) : Database :=
  { db with
    reauthorizations := db.reauthorizations.update (fun i => i.id = id) (atDeadline now)
      (atDeadline_id now) }

/-! ## creation -/

structure CreateReauthorization where
  (interactionId projectId userId connectionId applicationId : Uuid)
  (expectedConnectionRevision expectedConnectionGeneration expectedCredentialGeneration : Int)
  capability : ManagedCredentialCapability
  (providerPkceRequired oidcNonceRequired : Bool)
  interaction : VersionedDigest
  (expiresAt now : Instant)

structure ReauthorizationOwners where
  project : Project
  provider : ProviderConfiguration
  application : Application
  assignment : ProviderAssignment
  user : ProjectUser
  identity : LinkedIdentity
  connection : ManagedConnection

variable (c : CreateReauthorization)

def lockReauthorizationOwners (db : Database) : Tx ReauthorizationOwners := do
  let project ← require
    (db.projects.find? fun p => p.id = c.projectId ∧ p.status = .active) .notFound
  let connection ← require
    (db.managedConnections.find? fun m =>
      m.id = c.connectionId ∧ m.projectId = c.projectId ∧ m.userId = c.userId) .notFound
  let provider ← require
    (db.providers.find? fun p => p.id = connection.providerConfigurationId
      ∧ p.projectId = c.projectId ∧ p.status = .active ∧ p.managedProfileEnabled = true) .notFound
  let application ← require
    (db.applications.find? fun a =>
      a.id = c.applicationId ∧ a.projectId = c.projectId ∧ a.status = .active) .notFound
  let assignment ← require
    (db.assignments.find? fun a => a.projectId = c.projectId ∧ a.applicationId = application.id
      ∧ a.providerId = provider.id ∧ a.status = .active) .notFound
  let user ← require
    (db.users.find? fun u => u.id = c.userId ∧ u.projectId = c.projectId ∧ u.status = .active)
    .notFound
  let identity ← require
    (db.identities.find? fun i => i.id = connection.linkedIdentityId ∧ i.projectId = c.projectId
      ∧ i.userId = c.userId ∧ i.status = .active) .notFound
  ensure (connection.revision = c.expectedConnectionRevision
    ∧ connection.generation = c.expectedConnectionGeneration
    ∧ connection.credentialGeneration = c.expectedCredentialGeneration
    ∧ connection.revocationRequest = none ∧ connection.Unleased c.now) .revisionConflict
  pure ⟨project, provider, application, assignment, user, identity, connection⟩

def frozenEgress (kind : ProviderKind) (projectId : Uuid) : Tx (Option Int) :=
  if kind = .oidc then do
    let revision ← require (egressRevision db projectId) .integrity
    pure (some revision)
  else pure none

def frozenAuthority (o : ReauthorizationOwners) (kind : ProviderKind)
    (egress : Option Int) : FrozenAuthority :=
  { projectId := c.projectId
    projectPublicId := o.project.publicId
    connectionId := c.connectionId
    linkedIdentityId := o.identity.id
    userId := c.userId
    providerConfigurationId := o.provider.id
    providerKey := o.provider.providerKey
    providerKind := kind
    issuer := o.provider.issuer
    subject := o.identity.subject
    secretMaterialId := o.provider.secretMaterialId
    applicationId := c.applicationId
    expectedConnectionGeneration := c.expectedConnectionGeneration
    expectedCredentialGeneration := c.expectedCredentialGeneration
    expectedConnectionRevision := c.expectedConnectionRevision
    projectSecurityRevision := o.project.securityRevision
    userSecurityRevision := o.user.securityRevision
    identityRevision := o.identity.identityRevision
    providerRevision := o.provider.revision
    providerEgressPolicyRevision := egress
    managedProfileRevision := o.provider.managedProfileRevision
    applicationRevision := o.application.revision
    assignmentSecurityRevision := o.assignment.securityRevision
    adapterKey := c.capability.adapterKey
    adapterRevision := c.capability.adapterRevision
    requiredScopes := c.capability.exactScopes
    providerPkceRequired := c.providerPkceRequired
    oidcNonceRequired := c.oidcNonceRequired }

def newInteraction (frozen : FrozenAuthority) : ReauthorizationInteraction :=
  { id := c.interactionId
    frozen := frozen
    supportsRevocation := c.capability.supportsRevocation
    interaction := some c.interaction
    browserBinding := none
    csrf := none
    upstreamState := none
    oidcNonce := none
    providerPkce := none
    revision := 1
    status := .awaitingBrowserBinding
    expiresAt := c.expiresAt
    providerStartedAt := none
    exchangeClaimedAt := none
    terminalAt := none }

def createReauthorization (db : Database) : Tx (Committed ReauthorizationRecord) := do
  let owners ← lockReauthorizationOwners c db
  let kind ← effectiveProviderKind owners.provider
  ensure (kind.managedProfile = true) .integrity
  let egress ← frozenEgress db kind c.projectId
  let i := newInteraction c (frozenAuthority c owners kind egress)
  ensure (c.now < c.expiresAt ∧ c.expiresAt ≤ c.now + minutes 10) .persistence
  let reauthorizations ← insertRow db.reauthorizations i fun o => o.interaction ≠ i.interaction
  let record ← recordFromRow db i
  pure (.done { db with reauthorizations := reauthorizations } record)

/-! ## reads and cancellation -/

structure NamedInteraction where
  (projectId userId connectionId interactionId : Uuid)

def NamedInteraction.Names (n : NamedInteraction) (i : ReauthorizationInteraction) : Prop :=
  i.id = n.interactionId ∧ i.frozen.projectId = n.projectId ∧ i.frozen.userId = n.userId
    ∧ i.frozen.connectionId = n.connectionId
  deriving Decidable

def readReauthorization (n : NamedInteraction) (now : Instant) (db : Database) :
    Tx (Committed ReauthorizationRecord) := do
  let db := expireById db n.interactionId now
  let record ← readRecordById db n.interactionId
  ensure (n.Names record.interaction) .notFound
  pure (.done db record)

def cancelReauthorization (n : NamedInteraction) (expectedRevision : Int) (now : Instant)
    (db : Database) : Tx (Committed ReauthorizationRecord) := do
  let i ← require
    (db.reauthorizations.find? fun i => n.Names i ∧ i.revision = expectedRevision
      ∧ (i.status = .awaitingBrowserBinding ∨ i.status = .awaitingProviderStart
        ∨ i.status = .providerAuthorizationStarted) ∧ now < i.expiresAt) .revisionConflict
  let cancelled := endedInteraction .cancelled now i
  let record ← recordFromRow db cancelled
  pure (.done { db with reauthorizations := db.reauthorizations.set cancelled } record)

/-- `digest_versions`: an interaction past its deadline is expired and not found -/
def digestVersions (interactionId : Uuid) (now : Instant) (db : Database) :
    Tx (Committed ReauthorizationInteraction) := do
  let i ← require (db.reauthorizations.find? fun i => i.id = interactionId) .notFound
  if i.expiresAt ≤ now then pure (.fail (expireById db interactionId now) .notFound)
  else pure (.done db i)

/-- `expire_by_digest`: the database after it, if it expired something -/
def expireByDigest (interaction : VersionedDigest) (now : Instant) : Option Database := do
  let i ← db.reauthorizations.find? fun i =>
    i.interaction = some interaction ∧ ExpiryDue now i
  pure { db with reauthorizations := db.reauthorizations.set (expiredInteraction now i) }

/-! ## the browser -/

structure BindReauthorizationBrowser where
  (interaction browserBinding csrf : VersionedDigest)
  now : Instant

def boundInteraction (c : BindReauthorizationBrowser) (i : ReauthorizationInteraction) :
    ReauthorizationInteraction :=
  { i with
    browserBinding := some c.browserBinding
    csrf := some c.csrf
    status := .awaitingProviderStart
    revision := i.revision + 1 }

def bindReauthorizationBrowser (c : BindReauthorizationBrowser) (db : Database) :
    Tx (Committed ReauthorizationRecord) :=
  match expireByDigest db c.interaction c.now with
  | some db => pure (.fail db .notFound)
  | none => do
    let i ← require
      (db.reauthorizations.find? fun i => i.interaction = some c.interaction
        ∧ i.status = .awaitingBrowserBinding ∧ c.now < i.expiresAt) .notFound
    let record ← recordFromRow db (boundInteraction c i)
    pure (.done { db with
      reauthorizations := db.reauthorizations.set (boundInteraction c i) } record)

def hostedReadReauthorization (interaction browserBinding : VersionedDigest) (now : Instant)
    (db : Database) : Tx (Committed ReauthorizationRecord) :=
  match expireByDigest db interaction now with
  | some db => pure (.fail db .notFound)
  | none => do
    let i ← require
      (db.reauthorizations.find? fun i => i.interaction = some interaction
        ∧ i.browserBinding = some browserBinding) .notFound
    let record ← recordFromRow db i
    pure (.done db record)

/-! ## the current authority -/

/-- everything an interaction froze, apart from the egress policy, is as it was -/
@[mk_iff]
structure FrozenCurrent (i : ReauthorizationInteraction) (now : Instant) : Prop where
  project : ∃ p ∈ db.projects.rows, p.id = i.frozen.projectId ∧ p.status = .active
    ∧ p.securityRevision = i.frozen.projectSecurityRevision
  provider : ∃ p ∈ db.providers.rows, p.projectId = i.frozen.projectId
    ∧ p.id = i.frozen.providerConfigurationId ∧ p.status = .active
    ∧ p.revision = i.frozen.providerRevision ∧ p.managedProfileEnabled = true
    ∧ p.managedProfileRevision = i.frozen.managedProfileRevision
  application : ∃ a ∈ db.applications.rows, a.projectId = i.frozen.projectId
    ∧ a.id = i.frozen.applicationId ∧ a.status = .active
    ∧ a.revision = i.frozen.applicationRevision
  assignment : ∃ a ∈ db.assignments.rows, a.projectId = i.frozen.projectId
    ∧ a.applicationId = i.frozen.applicationId
    ∧ a.providerId = i.frozen.providerConfigurationId ∧ a.status = .active
    ∧ a.securityRevision = i.frozen.assignmentSecurityRevision
  user : ∃ u ∈ db.users.rows, u.projectId = i.frozen.projectId ∧ u.id = i.frozen.userId
    ∧ u.status = .active ∧ u.securityRevision = i.frozen.userSecurityRevision
  identity : ∃ l ∈ db.identities.rows, l.projectId = i.frozen.projectId
    ∧ l.id = i.frozen.linkedIdentityId ∧ l.userId = i.frozen.userId ∧ l.status = .active
    ∧ l.identityRevision = i.frozen.identityRevision
  connection : ∃ m ∈ db.managedConnections.rows, m.projectId = i.frozen.projectId
    ∧ m.id = i.frozen.connectionId ∧ m.userId = i.frozen.userId
    ∧ m.providerConfigurationId = i.frozen.providerConfigurationId
    ∧ m.linkedIdentityId = i.frozen.linkedIdentityId
    ∧ m.revision = i.frozen.expectedConnectionRevision
    ∧ m.generation = i.frozen.expectedConnectionGeneration
    ∧ m.credentialGeneration = i.frozen.expectedCredentialGeneration
    ∧ m.revocationRequest = none
  interaction : ∃ o ∈ db.reauthorizations.rows, o.id = i.id
    ∧ o.frozen.projectId = i.frozen.projectId ∧ o.frozen.connectionId = i.frozen.connectionId
    ∧ now < o.expiresAt

instance (db : Database) (i : ReauthorizationInteraction) (now : Instant) :
    Decidable (FrozenCurrent db i now) :=
  decidable_of_iff' _ (frozenCurrent_iff db i now)

/-- the egress policy is the frozen one; a custom provider must have frozen one -/
def frozenPolicyCurrent (i : ReauthorizationInteraction) : Tx Bool :=
  if i.frozen.providerKind = .oidc then do
    let revision ← require i.frozen.providerEgressPolicyRevision .integrity
    pure (decide (egressRevision db i.frozen.projectId = some revision))
  else do
    ensure (i.frozen.providerEgressPolicyRevision = none) .integrity
    pure true

def lockAndClassifyCurrentAuthority (i : ReauthorizationInteraction) (now : Instant) : Tx Bool := do
  let policyOk ← frozenPolicyCurrent db i
  pure (policyOk && decide (FrozenCurrent db i now))

def lockCurrentAuthority (i : ReauthorizationInteraction) (now : Instant) : Tx Unit := do
  let current ← lockAndClassifyCurrentAuthority db i now
  ensure (current = true) .revisionConflict

/-! ## the provider -/

structure StartReauthorizationProvider where
  interactionId : Uuid
  (interaction browserBinding csrf : VersionedDigest)
  expectedRevision : Int
  (upstreamState oidcNonce : VersionedDigest)
  providerPkce : Option ProtectedValue
  supportsRevocation : Bool
  now : Instant

def startedInteraction (c : StartReauthorizationProvider) (i : ReauthorizationInteraction) :
    ReauthorizationInteraction :=
  { i with
    status := .providerAuthorizationStarted
    revision := i.revision + 1
    upstreamState := some c.upstreamState
    oidcNonce := some c.oidcNonce
    providerPkce := c.providerPkce
    providerStartedAt := some c.now
    supportsRevocation := c.supportsRevocation }

def startReauthorizationProvider (c : StartReauthorizationProvider) (db : Database) :
    Tx (Committed ReauthorizationRecord) := do
  let frozen ← readRecordById db c.interactionId
  lockCurrentAuthority db frozen.interaction c.now
  let i ← require
    (db.reauthorizations.find? fun i => i.id = c.interactionId
      ∧ i.interaction = some c.interaction ∧ i.browserBinding = some c.browserBinding
      ∧ i.csrf = some c.csrf ∧ i.revision = c.expectedRevision
      ∧ i.status = .awaitingProviderStart ∧ c.now < i.expiresAt) .revisionConflict
  let record ← recordFromRow db (startedInteraction c i)
  pure (.done { db with
    reauthorizations := db.reauthorizations.set (startedInteraction c i) } record)

structure ReauthorizationCallback where
  (projectPublicId providerKey : String)
  (upstreamState browserBinding : VersionedDigest)
  now : Instant

variable (c : ReauthorizationCallback)

/-- the callback belongs to the interaction, or repeats one that ended it -/
def ReauthorizationCallback.Routes (i : ReauthorizationInteraction) : Prop :=
  i.frozen.projectPublicId = c.projectPublicId ∧ i.frozen.providerKey = c.providerKey
    ∧ (((i.status = .providerAuthorizationStarted ∨ i.status = .providerExchangeInProgress)
        ∧ i.upstreamState = some c.upstreamState ∧ i.browserBinding = some c.browserBinding)
      ∨ ((i.status = .completed ∨ i.status = .providerExchangeFailed)
        ∧ i.browserBinding = some c.upstreamState ∧ i.csrf = some c.browserBinding))
  deriving Decidable

inductive ClaimManagedReauthorization
  | claimed (record : ReauthorizationRecord)
  | duplicate (record : ReauthorizationRecord)
  | terminalizedStaleAuthority

def claimedInteraction : ReauthorizationInteraction :=
  { i with
    status := .providerExchangeInProgress
    revision := i.revision + 1
    exchangeClaimedAt := some now }

/-- `claim_callback` for an interaction that has not expired -/
def claimStartedCallback (i : ReauthorizationInteraction)
    (db : Database) : Tx (Committed ClaimManagedReauthorization) := do
  let current ← lockAndClassifyCurrentAuthority db i c.now
  if current then
    let record ← recordFromRow db (claimedInteraction c.now i)
    pure (.done { db with
      reauthorizations := db.reauthorizations.set (claimedInteraction c.now i) } (.claimed record))
  else
    let failed := endedInteraction .providerExchangeFailed c.now i
    let _ ← recordFromRow db failed
    pure (.done { db with reauthorizations := db.reauthorizations.set failed }
      .terminalizedStaleAuthority)

def claimReauthorizationCallback (interactionId : Uuid) (c : ReauthorizationCallback)
    (db : Database) : Tx (Committed ClaimManagedReauthorization) := do
  let i ← require (db.reauthorizations.find? fun i => i.id = interactionId ∧ c.Routes i) .notFound
  let current ← recordFromRow db i
  if i.expiresAt ≤ c.now then pure (.fail (expireById db interactionId c.now) .notFound)
  else if i.status = .providerAuthorizationStarted then claimStartedCallback c i db
  else pure (.done db (.duplicate current))

/-- `deny_callback` for an interaction the provider was started for -/
def denyStartedCallback (i : ReauthorizationInteraction)
    (db : Database) : Tx (Committed ReauthorizationRecord) := do
  let _ ← lockAndClassifyCurrentAuthority db i c.now
  if i.status = .providerAuthorizationStarted then
    let failed := endedInteraction .providerExchangeFailed c.now i
    let record ← recordFromRow db failed
    pure (.done { db with reauthorizations := db.reauthorizations.set failed } record)
  else pure (.fail db .invalidTransition)

def denyReauthorizationCallback (db : Database) : Tx (Committed ReauthorizationRecord) := do
  let i ← require (db.reauthorizations.find? c.Routes) .notFound
  let current ← recordFromRow db i
  if i.expiresAt ≤ c.now then pure (.fail (expireById db i.id c.now) .invalidTransition)
  else if i.status.terminal then pure (.done db current)
  else denyStartedCallback c i db

/-! ## the end of an exchange -/

def reauthorizedContext (f : FrozenAuthority) : ManagedCredentialContext :=
  ⟨f.projectId, f.providerConfigurationId, f.linkedIdentityId, f.connectionId,
    f.expectedConnectionGeneration + 1, f.expectedCredentialGeneration + 1⟩

/-- a credential that already has an end keeps it -/
def replacedCredential (now : Instant) (k : ManagedCredential) : ManagedCredential :=
  { k with
    ciphertext := none
    supersededAt := some (k.supersededAt.getD now)
    destroyedAt := some (k.destroyedAt.getD now) }

def reauthorizedConnection (now : Instant) (m : ManagedConnection) : ManagedConnection :=
  { m with
    state := .active
    revision := m.revision + 1
    generation := i.frozen.expectedConnectionGeneration + 1
    credentialGeneration := i.frozen.expectedCredentialGeneration + 1
    lastSafeOutcome := "reauthorization_succeeded"
    providerRevision := i.frozen.providerRevision
    managedProfileRevision := i.frozen.managedProfileRevision
    userSecurityRevision := i.frozen.userSecurityRevision
    identityRevision := i.frozen.identityRevision
    projectSecurityRevision := i.frozen.projectSecurityRevision
    capability := ⟨i.frozen.adapterKey, i.frozen.adapterRevision, i.frozen.requiredScopes,
      i.supportsRevocation⟩
    nextSynchronizeAt := some now
    nextRenewalAt := some (now + days 30)
    consecutiveFailures := 0
    lease := none
    disconnectedAt := none }

variable (record : ReauthorizationRecord)

def reauthorizedGuard : ConnectionGuard :=
  let f := record.interaction.frozen
  { connectionId := f.connectionId
    projectId := f.projectId
    providerConfigurationId := f.providerConfigurationId
    linkedIdentityId := f.linkedIdentityId
    userId := f.userId
    connectionRevision := f.expectedConnectionRevision + 1
    connectionGeneration := f.expectedConnectionGeneration + 1
    credentialGeneration := f.expectedCredentialGeneration + 1
    projectSecurityRevision := f.projectSecurityRevision
    providerRevision := f.providerRevision
    providerEgressPolicyRevision := f.providerEgressPolicyRevision
    egressPolicy := record.egressPolicy
    managedProfileRevision := f.managedProfileRevision
    providerKind := f.providerKind
    adapterKey := f.adapterKey
    adapterCapabilityRevision := f.adapterRevision
    requiredScopes := f.requiredScopes
    userSecurityRevision := f.userSecurityRevision
    identityRevision := f.identityRevision
    consecutiveFailures := 0 }

def StillClaimed (claimed i : ReauthorizationInteraction) : Prop :=
  i.id = claimed.id ∧ i.revision = claimed.revision ∧ i.status = .providerExchangeInProgress
  deriving Decidable

def completeReauthorizationCallback
    (successor : ProtectedCredential) (now : Instant) (db : Database) :
    Tx (Committed ConnectionGuard) := do
  ensure (0 < successor.keyVersion) .invalidInput
  let claimed := record.interaction
  let f := claimed.frozen
  lockCurrentAuthority db claimed now
  let i ← require
    (db.reauthorizations.find? fun i => StillClaimed claimed i ∧ now < i.expiresAt)
    .revisionConflict
  let credentials ← insertRow
    (db.managedCredentials.update (ReadableCredential f.projectId f.connectionId)
      (replacedCredential now) (fun _ => rfl))
    (sealedCredentialRow (reauthorizedContext f) successor) fun _ => True
  let m ← require
    (db.managedConnections.find? fun m => m.projectId = f.projectId ∧ m.id = f.connectionId
      ∧ m.revision = f.expectedConnectionRevision
      ∧ m.generation = f.expectedConnectionGeneration
      ∧ m.credentialGeneration = f.expectedCredentialGeneration) .revisionConflict
  let completed := endedInteraction .completed now i
  let _ ← recordFromRow db completed
  pure (.done { db with
      managedCredentials := credentials
      managedConnections := db.managedConnections.set (reauthorizedConnection claimed now m)
      reauthorizations := db.reauthorizations.set completed }
    (reauthorizedGuard record))

inductive FailManagedReauthorization
  | terminalized (record : ReauthorizationRecord)
  | terminalWinner (record : ReauthorizationRecord)

def failReauthorizationCallback (now : Instant)
    (db : Database) : Tx (Committed FailManagedReauthorization) :=
  match db.reauthorizations.find? (StillClaimed record.interaction) with
  | some i => do
    let failed := endedInteraction .providerExchangeFailed now i
    let ended ← recordFromRow db failed
    pure (.done { db with reauthorizations := db.reauthorizations.set failed }
      (.terminalized ended))
  | none => do
    let current ← readRecordById db record.interaction.id
    ensure (current.interaction.status.terminal = true) .revisionConflict
    pure (.done db (.terminalWinner current))

/-! ## maintenance -/

def Unreadable (readable : List Int) (digest : Option VersionedDigest) : Prop :=
  ∃ d ∈ digest, d.keyVersion ∉ readable
  deriving Decidable

/-- something a live interaction still needs was written with a key that is gone -/
def InteractionUnreadable (runtime target : List Int) (now : Instant)
    (i : ReauthorizationInteraction) : Prop :=
  i.status.terminal = false ∧ now < i.expiresAt
    ∧ (Unreadable target i.interaction ∨ Unreadable runtime i.browserBinding
      ∨ Unreadable runtime i.csrf ∨ Unreadable runtime i.upstreamState
      ∨ Unreadable runtime i.oidcNonce ∨ ∃ v ∈ i.providerPkce, v.keyVersion ∉ runtime)
  deriving Decidable

def erasedInteraction : ReauthorizationInteraction :=
  { i with
    interaction := none
    browserBinding := none
    csrf := none
    upstreamState := none
    oidcNonce := none
    providerPkce := none }

def unreadableInteraction : ReauthorizationInteraction :=
  { erasedInteraction i with
    status := .cancelled
    revision := i.revision + 1
    terminalAt := some now }

/-- `picked` are the rows the batch got hold of -/
def terminalizeUnreadableInteractions (runtime target : List Int) (picked : List Uuid)
    (now : Instant) (db : Database) : Database :=
  { db with
    reauthorizations := db.reauthorizations.update
      (fun i => i.id ∈ picked ∧ InteractionUnreadable runtime target now i)
      (unreadableInteraction now) (fun _ => rfl) }

/-- an ended interaction keeps its status; one that was cancelled keeps its revision too -/
def sweptInteraction : ReauthorizationInteraction :=
  { erasedInteraction i with
    status := if i.status.terminal then i.status else .expired
    revision := if i.status = .cancelled then i.revision else i.revision + 1
    terminalAt := some (i.terminalAt.getD now) }

/-- what the deadline sweep looks for; a cancelled interaction is swept for its stored result -/
def SweepDue : Prop :=
  ExpiryDue now i ∨ ErasureDue now i ∨ (i.expiresAt ≤ now ∧ i.status = .cancelled)
  deriving Decidable

def terminalizeExpiredInteractions (picked : List Uuid) (now : Instant) (db : Database) :
    Database :=
  { db with
    reauthorizations := db.reauthorizations.update
      (fun i => i.id ∈ picked ∧ SweepDue now i) (sweptInteraction now) (fun _ => rfl) }

end OwlAuth
