import OwlAuth.Identity.Intent
import OwlAuth.Mutation.Ceremony

/-!
# The confirmation of an identity mutation

Once every slot of an intent is proved the operator confirms it, and the identities change hands in
one transaction (`confirmControl`):

* `confirmLink`  a new identity for the destination user;
* `confirmUnlink`  an identity of a user who has another one is disabled;
* `confirmMerge`  everything of the loser becomes the winner's.

Before it changes anything the confirmation checks again what the intent froze
(`revalidateFinalAuthority`); afterwards the receipts are consumed and the intent is completed.
-/

namespace OwlAuth

open Fallible

/-! ## what is confirmed -/

structure IdentityMutationCandidateEvidenceContext where
  (projectId intentId proofSlotId evidenceId : Uuid)
  evidenceRevision : Int
  candidateKind : CandidateKind

structure IdentityMutationProviderRegistrationEvidence where
  providerConfigurationId : Uuid
  providerConfigurationRevision : Int
  adapterKey : String
  adapterCapabilityRevision : Int
  issuer : String

structure IdentityMutationProviderCandidate where
  (issuer subject : String)
  (displayName pictureUrl : Option String)
  registration : IdentityMutationProviderRegistrationEvidence

structure IdentityMutationEmailCandidate where
  identityId : Uuid
  canonicalizationVersion : Int
  normalizedAddress : String
  lookupAliases : List VersionedDigest
  activeAlias : VersionedDigest
  aliasAuthorityRevision : Int
  durableAddress : ProtectedValue

inductive IdentityMutationCandidate
  | provider (candidate : IdentityMutationProviderCandidate)
  | email (candidate : IdentityMutationEmailCandidate)

structure PreparedIdentityMutationCandidate where
  context : IdentityMutationCandidateEvidenceContext
  evidenceDigest : VersionedDigest
  candidate : IdentityMutationCandidate

structure PreparedIdentityMutationConfirmation where
  (projectId intentId : Uuid)
  expectedIntentRevision : Int
  expectedKind : IdentityMutationKind
  candidate : Option PreparedIdentityMutationCandidate

def MutationOperation.kind : MutationOperation → IdentityMutationKind
  | link _ => .link
  | unlink _ => .unlink
  | merge _ _ => .merge

def MutationOperation.users : MutationOperation → List FrozenUser
  | link destination => [destination]
  | unlink owner => [owner]
  | merge winner loser => [winner, loser]

/-! ## checks -/

variable (env : Environment) (db : Database)

def slotCount (intentId : Uuid) : Nat :=
  (db.slots.filter fun s => s.intentId = intentId).length

def ReceiptLive (intent : MutationIntent) (r : ProofReceipt) : Prop :=
  r.projectId = intent.projectId ∧ r.intentId = intent.id ∧ r.status = .issued
    ∧ env.databaseClock < r.expiresAt
  deriving Decidable

def requireLiveReady (intent : MutationIntent) (expectedRevision : Int)
    (expectedKind : IdentityMutationKind) : Tx Unit := do
  ensure (intent.intentRevision = expectedRevision) .revisionConflict
  ensure (intent.status = .ready ∧ intent.operation.kind = expectedKind
    ∧ env.databaseClock < intent.expiresAt) .invalidTransition
  ensure (env.databaseClock < effectiveDeadline db intent) .invalidTransition
  ensure ((db.receipts.filter (ReceiptLive env intent)).length = slotCount db intent.id)
    .invalidTransition

def requireFrozenUser (projectId : Uuid) (frozen : FrozenUser) : Tx Unit := do
  let user ← require
    (db.users.find? fun u => u.projectId = projectId ∧ u.id = frozen.userId) .revisionConflict
  ensure (user.status = .active ∧ user.userRevision = frozen.userRevision
    ∧ user.securityRevision = frozen.securityRevision) .revisionConflict

variable (projectId identityId userId : Uuid)

/-- `require_identity` on `linked_identities` -/
def requireProviderIdentity (revision : Int) : Tx Unit := do
  let identity ← require
    (db.identities.find? fun i => i.projectId = projectId ∧ i.id = identityId) .revisionConflict
  ensure (identity.userId = userId ∧ identity.identityRevision = revision
    ∧ identity.status = .active) .revisionConflict

/-- `require_identity` on `email_identities` -/
def requireEmailIdentity (revision : Int) : Tx Unit := do
  let identity ← require
    (db.emailIdentities.find? fun i => i.projectId = projectId ∧ i.id = identityId)
    .revisionConflict
  ensure (identity.userId = userId ∧ identity.identityRevision = revision
    ∧ identity.status = .active) .revisionConflict

/-- the users whose identities may become the primary source -/
def MutationOperation.mayOwnPrimary (owner : Uuid) : MutationOperation → Prop
  | link _ => False
  | unlink o => owner = o.userId
  | merge winner loser => owner = winner.userId ∨ owner = loser.userId

instance (owner : Uuid) (o : MutationOperation) : Decidable (o.mayOwnPrimary owner) :=
  match o with
  | .link _ => inferInstanceAs (Decidable False)
  | .unlink _ => inferInstanceAs (Decidable (_ = _))
  | .merge _ _ => inferInstanceAs (Decidable (_ ∨ _))

def revalidatePrimarySource (intent : MutationIntent) : Tx Unit :=
  match intent.primarySource with
  | .provider id revision => do
    let identity ← require
      (db.identities.find? fun i => i.projectId = intent.projectId ∧ i.id = id) .revisionConflict
    ensure (intent.operation.mayOwnPrimary identity.userId ∧ identity.status = .active
      ∧ identity.identityRevision = revision) .revisionConflict
  | .email id revision => do
    let identity ← require
      (db.emailIdentities.find? fun i => i.projectId = intent.projectId ∧ i.id = id)
      .revisionConflict
    ensure (intent.operation.mayOwnPrimary identity.userId ∧ identity.status = .active
      ∧ identity.identityRevision = revision) .revisionConflict
  | .preserve => pure ()
  | .clear => pure ()

def revalidateProvedSlot (intent : MutationIntent) (slot : MutationSlot) : Tx Unit := do
  ensure (slot.state = .proved) .invalidTransition
  revalidateSlotAuthority env db intent slot
  match slot.existing with
  | none => pure ()
  | some (.provider id revision) =>
    requireProviderIdentity db intent.projectId id slot.proofUserId revision
  | some (.email id revision) =>
    requireEmailIdentity db intent.projectId id slot.proofUserId revision

def revalidateFinalAuthority (intent : MutationIntent) : Tx Unit := do
  let project ← require (db.projects.find? fun p => p.id = intent.projectId) .revisionConflict
  ensure (project.status = .active ∧ project.metadataRevision = intent.projectMetadataRevision
    ∧ project.securityRevision = intent.projectSecurityRevision) .revisionConflict
  foldOk (fun _ u => requireFrozenUser db intent.projectId u) () intent.operation.users
  revalidatePrimarySource db intent
  foldOk (fun _ s => revalidateProvedSlot env db intent s) ()
    (db.slots.filter fun s => s.projectId = intent.projectId ∧ s.intentId = intent.id)

/-! ## link -/

variable (evidence : CandidateEvidence)

def findCandidateSlot : Tx MutationSlot :=
  require
    (db.slots.find? fun s => s.projectId = evidence.projectId ∧ s.intentId = evidence.intentId
      ∧ s.id = evidence.slotId) .revisionConflict

def requireCandidateContext (context : IdentityMutationCandidateEvidenceContext)
    (projectId intentId slotId : Uuid) (kind : CandidateKind) : Tx Unit :=
  ensure (context.projectId = projectId ∧ context.intentId = intentId
    ∧ context.proofSlotId = slotId ∧ 0 < context.evidenceRevision ∧ context.candidateKind = kind)
    .integrity

variable (c : PreparedIdentityMutationConfirmation)

/-- the evidence is the one that was stored for the slot, and of the destination user -/
def checkEvidence (prepared : PreparedIdentityMutationCandidate) (destination : FrozenUser) :
    Tx (CandidateEvidence × MutationSlot) := do
  let evidence ← require
    (db.evidence.find? fun e => e.projectId = c.projectId ∧ e.intentId = c.intentId
      ∧ e.id = prepared.context.evidenceId ∧ e.slotId = prepared.context.proofSlotId)
    .revisionConflict
  let slot ← findCandidateSlot db evidence
  requireCandidateContext prepared.context c.projectId c.intentId evidence.slotId
    evidence.identityKind
  ensure (slot.role = .candidateIdentity
    ∧ evidence.candidateRevision = prepared.context.evidenceRevision
    ∧ evidence.digest = prepared.evidenceDigest
    ∧ slot.proofUserId = destination.userId) .revisionConflict
  pure (evidence, slot)

/-- the provider the slot froze is the one the candidate was registered with -/
def SlotMethod.Registered (r : IdentityMutationProviderRegistrationEvidence) : SlotMethod → Prop
  | provider frozen => r.providerConfigurationId = frozen.configurationId
      ∧ r.providerConfigurationRevision = frozen.revision ∧ r.adapterKey = frozen.adapterKey
      ∧ r.adapterCapabilityRevision = frozen.adapterCapabilityRevision
  | email _ => False

instance (r : IdentityMutationProviderRegistrationEvidence) : DecidablePred (SlotMethod.Registered r)
  | .provider _ => inferInstanceAs (Decidable (_ ∧ _))
  | .email _ => inferInstanceAs (Decidable False)

def linkedProviderIdentity (c : IdentityMutationProviderCandidate) (projectId userId : Uuid) :
    LinkedIdentity :=
  { id := env.newUuid 0
    projectId := projectId
    userId := userId
    createdViaProviderConfigurationId := c.registration.providerConfigurationId
    issuer := c.issuer
    subject := c.subject
    status := .active
    identityRevision := 1
    sourceProfileDigest := env.profileDigest ⟨c.displayName, c.pictureUrl, none⟩
    profile := ⟨c.displayName, c.pictureUrl, none⟩
    observedAt := env.databaseClock }

def linkProvider (slot : MutationSlot)
    (c : IdentityMutationProviderCandidate) (projectId userId : Uuid) : Tx Database := do
  ensure (evidence.identityKind = .provider ∧ slot.method.Registered c.registration
    ∧ c.registration.issuer = c.issuer) .revisionConflict
  let provider ← require
    (db.providers.find? fun p =>
      p.projectId = projectId ∧ p.id = c.registration.providerConfigurationId) .revisionConflict
  ensure (provider.status = .active
    ∧ provider.revision = c.registration.providerConfigurationRevision
    ∧ provider.issuer = c.issuer) .revisionConflict
  let identities ← insertProvisioned db.identities
    (linkedProviderIdentity env c projectId userId) fun i =>
      ¬ (i.projectId = projectId ∧ i.issuer = c.issuer ∧ i.subject = c.subject)
  pure { db with identities := identities }

/-- `validate_email_candidate`; the address has the shape of an address -/
def validateEmailCandidate (c : IdentityMutationEmailCandidate) : Tx Unit := do
  ensure (0 < c.canonicalizationVersion ∧ 0 < c.aliasAuthorityRevision ∧ c.lookupAliases ≠ []
    ∧ c.lookupAliases.length ≤ 16) .invalidInput
  ensure (env.emailParses c.normalizedAddress = true) .invalidInput
  validateProtectedRange c.durableAddress 41 2048
  foldOk (fun _ d => validateDigest d) () c.lookupAliases
  validateDigest c.activeAlias
  ensure (c.aliasAuthorityRevision = 1
    ∧ (c.lookupAliases.map VersionedDigest.keyVersion).Nodup
    ∧ c.activeAlias ∈ c.lookupAliases) .invalidInput

def linkedEmailIdentity (c : IdentityMutationEmailCandidate) (projectId userId : Uuid) :
    EmailIdentity :=
  { id := c.identityId
    projectId := projectId
    userId := userId
    status := .active
    identityRevision := 1
    canonicalizationVersion := c.canonicalizationVersion
    address := c.durableAddress
    verifiedAt := some env.databaseClock }

def candidateAlias (c : IdentityMutationEmailCandidate) (projectId : Uuid)
    (digest : VersionedDigest) : EmailIdentityAlias :=
  ⟨projectId, c.identityId, c.canonicalizationVersion, digest⟩

def AliasTaken (c : IdentityMutationEmailCandidate) (projectId : Uuid) : Prop :=
  ∃ a ∈ db.emailAliases.rows, a.projectId = projectId
    ∧ a.canonicalizationVersion = c.canonicalizationVersion ∧ a.lookupDigest ∈ c.lookupAliases
  deriving Decidable

def insertLinkedAlias (aliases : Table EmailIdentityAlias) (a : EmailIdentityAlias) :
    Tx (Table EmailIdentityAlias) :=
  insertProvisioned aliases a (¬ SameAlias a ·)

/-- the aliases are those of the evidence: they are looked up and stored as they were captured -/
def linkEmail (c : IdentityMutationEmailCandidate) (projectId userId : Uuid) : Tx Database := do
  ensure (evidence.identityKind = .email) .integrity
  validateEmailCandidate env c
  ensure (¬ AliasTaken db c projectId) .revisionConflict
  let identities ← insertProvisioned db.emailIdentities
    (linkedEmailIdentity env c projectId userId) fun _ => True
  let aliases ← foldOk (fun t d => insertLinkedAlias t (candidateAlias c projectId d))
    db.emailAliases c.lookupAliases
  pure { db with emailIdentities := identities, emailAliases := aliases }

def confirmLink (destination : FrozenUser) (db : Database) : Tx Database := do
  let prepared ← require c.candidate .integrity
  let (evidence, slot) ← checkEvidence db c prepared destination
  match prepared.candidate with
  | .provider candidate =>
    linkProvider env db evidence slot candidate c.projectId destination.userId
  | .email candidate => linkEmail env db evidence candidate c.projectId destination.userId

/-! ## the primary source of a user -/

def noProfile : Profile := ⟨none, none, none⟩

variable (user : ProjectUser)

def providerProfile (identityId : Uuid) : Tx Profile := do
  let identity ← require
    (db.identities.find? fun i => i.projectId = user.projectId ∧ i.id = identityId) .integrity
  ensure (identity.status = .active ∧ identity.userId = user.id) .revisionConflict
  pure identity.profile

structure UserPrimary where
  kind : SourceKind
  (providerId emailId : Option Uuid)
  profile : Profile

def withPrimary (p : UserPrimary) : ProjectUser :=
  { user with
    primarySourceKind := p.kind
    primaryProfileIdentityId := p.providerId
    primaryEmailIdentityId := p.emailId
    profile := effectiveProfile user p.profile
    baseProfileDigest := env.profileDigest (effectiveProfile user p.profile)
    userRevision := user.userRevision + 1
    updatedAt := env.databaseClock }

/-- `update_user_primary`, and the change announced to every application of the user -/
def updateUserPrimary (p : UserPrimary) : Tx Database := do
  ensure (user.status = .active) .revisionConflict
  fanOutUser env { db with users := db.users.set (withPrimary env user p) }
    (withPrimary env user p) env.databaseClock

/-- a source that is cleared leaves its identity named, but nothing of it to show -/
def clearPrimary : UserPrimary :=
  ⟨user.primarySourceKind, user.primaryProfileIdentityId, user.primaryEmailIdentityId, noProfile⟩

/-! ## unlink -/

def activeIdentityCount (projectId userId : Uuid) : Nat :=
  (db.identities.filter fun i =>
      i.projectId = projectId ∧ i.userId = userId ∧ i.status = .active).length
    + (db.emailIdentities.filter fun i =>
      i.projectId = projectId ∧ i.userId = userId ∧ i.status = .active).length

def disableProviderIdentity : Tx Database := do
  let identity ← require
    (db.identities.find? fun i => i.projectId = projectId ∧ i.id = identityId
      ∧ i.userId = userId ∧ i.status = .active) .revisionConflict
  pure { db with
    identities := db.identities.set
      { identity with status := .disabled, identityRevision := identity.identityRevision + 1 } }

def disableEmailIdentity : Tx Database := do
  let identity ← require
    (db.emailIdentities.find? fun i => i.projectId = projectId ∧ i.id = identityId
      ∧ i.userId = userId ∧ i.status = .active) .revisionConflict
  pure { db with
    emailIdentities := db.emailIdentities.set
      { identity with status := .disabled, identityRevision := identity.identityRevision + 1 } }

/-- the identity the slot proved, disabled; a managed connection of it ends -/
def disableIdentity (projectId userId : Uuid) :
    ExistingIdentity → Tx Database
  | .provider id _ => do
    let db ← disconnectManagedIdentity projectId id env.databaseClock db
    disableProviderIdentity db projectId id userId
  | .email id _ => disableEmailIdentity db projectId id userId

def ExistingIdentity.id : ExistingIdentity → Uuid
  | provider id _ => id
  | email id _ => id

def unlinkPrimary (identityId : Uuid) (projectId : Uuid) (source : PrimarySource) : Tx Database :=
  let isPrimary := user.primaryProfileIdentityId = some identityId
    ∨ user.primaryEmailIdentityId = some identityId
  match source with
  | .preserve => do
    ensure (¬ isPrimary) .integrity
    pure db
  | .clear => do
    ensure isPrimary .integrity
    updateUserPrimary env db user (clearPrimary user)
  | .provider id revision => do
    ensure (id ≠ identityId) .integrity
    requireProviderIdentity db projectId id user.id revision
    let profile ← providerProfile db user id
    updateUserPrimary env db user ⟨.provider, some id, none, profile⟩
  | .email id revision => do
    ensure (id ≠ identityId) .integrity
    requireEmailIdentity db projectId id user.id revision
    updateUserPrimary env db user ⟨.email, none, some id, noProfile⟩

def confirmUnlink (intent : MutationIntent) (owner : FrozenUser) (db : Database) : Tx Database := do
  let projectId := intent.projectId
  ensure (1 < activeIdentityCount db projectId owner.userId) .invalidTransition
  let slot ← require
    (db.slots.find? fun s => s.projectId = projectId ∧ s.intentId = intent.id
      ∧ s.role = .identityOwner) .integrity
  let existing ← require slot.existing .integrity
  let db ← disableIdentity env db projectId owner.userId existing
  let user ← require (db.users.find? fun u => u.id = owner.userId) .integrity
  unlinkPrimary env db user existing.id projectId intent.primarySource

/-! ## merge -/

def ApplicationUserBinding.Standing (b : ApplicationUserBinding) : Prop :=
  b.status = .active ∨ b.status = .disabled
  deriving Decidable

variable (projectId winnerId loserId : Uuid)

/-- the applications either user has a binding in -/
def mergeBindingUnionCount : Nat :=
  (((db.bindings.filter fun b => b.projectId = projectId
    ∧ (b.userId = winnerId ∨ b.userId = loserId) ∧ b.Standing).map
      ApplicationUserBinding.applicationId).dedup).length

def revokeLoserSessions (projectId loserId : Uuid) (now : Instant) : Database :=
  { db with
    families := db.families.update
      (fun f => f.projectId = projectId ∧ f.userId = loserId ∧ f.status = .active)
      (fun f => revokedFamily f .ownerInvalidated now) (fun _ => rfl)
    sessions := db.sessions.update
      (fun s => s.projectId = projectId ∧ s.userId = loserId ∧ s.status = .active)
      (fun s => revokedSession s now) (fun _ => rfl)
    browserSessions := db.browserSessions.update
      (fun b => b.projectId = projectId ∧ b.userId = loserId ∧ b.status = .active)
      (fun b => terminatedBrowser b now) (fun _ => rfl)
    tickets := db.tickets.update
      (fun t => t.projectId = projectId ∧ t.userId = loserId ∧ t.status = .issued)
      (fun t => { t with status := .expired }) (fun _ => rfl) }

def mergedUser (winnerId : Uuid) (user : ProjectUser) : ProjectUser :=
  { user with
    status := .merged
    mergedIntoUserId := some winnerId
    primaryProfileIdentityId := none
    primaryEmailIdentityId := none
    profile := noProfile
    baseProfileDigest := env.profileDigest noProfile
    userRevision := user.userRevision + 1
    securityRevision := user.securityRevision + 1
    updatedAt := env.databaseClock }

/-- the loser is merged, and shown as disabled to its applications while it still has them -/
def retireLoser : Tx Database := do
  let loser ← require
    (db.users.find? fun u => u.projectId = projectId ∧ u.id = loserId ∧ u.status = .active)
    .revisionConflict
  let merged := mergedUser env winnerId loser
  fanOutUser env { db with users := db.users.set merged } { merged with status := .disabled }
    env.databaseClock

def moveProviderIdentity (winnerId : Uuid) (i : LinkedIdentity) : LinkedIdentity :=
  { i with userId := winnerId, identityRevision := i.identityRevision + 1 }

def moveEmailIdentity (winnerId : Uuid) (i : EmailIdentity) : EmailIdentity :=
  { i with userId := winnerId, identityRevision := i.identityRevision + 1 }

def moveIdentities : Database :=
  { db with
    identities := db.identities.update (fun i => i.projectId = projectId ∧ i.userId = loserId)
      (moveProviderIdentity winnerId) (fun _ => rfl)
    emailIdentities := db.emailIdentities.update
      (fun i => i.projectId = projectId ∧ i.userId = loserId)
      (moveEmailIdentity winnerId) (fun _ => rfl) }

def eraseProjections (projectId bindingId : Uuid) : Table ApplicationUserProjection :=
  db.projections.delete fun p => p.projectId = projectId ∧ p.bindingId = bindingId

def mergedBinding (winnerBindingId : Uuid) (now : Instant) (b : ApplicationUserBinding) :
    ApplicationUserBinding :=
  { b with
    status := .merged
    mergedIntoBindingId := some winnerBindingId
    mergedAt := some now
    bindingRevision := b.bindingRevision + 1 }

def movedBinding (winnerId : Uuid) (b : ApplicationUserBinding) : ApplicationUserBinding :=
  { b with userId := winnerId, bindingRevision := b.bindingRevision + 1 }

/-- one binding of the loser: the winner's own binding in the application replaces it, or it becomes
the winner's; the projection of a binding nobody sees any more goes -/
def mergeBinding (projectId winnerId : Uuid) (now : Instant) (db : Database)
    (b : ApplicationUserBinding) : Database :=
  match db.bindings.find? fun o => o.projectId = projectId ∧ o.applicationId = b.applicationId
      ∧ o.userId = winnerId ∧ o.Standing with
  | some winner =>
    { db with
      projections := eraseProjections db projectId b.id
      bindings := db.bindings.set (mergedBinding winner.id now b) }
  | none =>
    { db with
      projections :=
        if b.status = .disabled then eraseProjections db projectId b.id else db.projections
      bindings := db.bindings.set (movedBinding winnerId b) }

def mergeBindings (now : Instant) : Database :=
  (db.bindings.filter fun b => b.projectId = projectId ∧ b.userId = loserId ∧ b.Standing).foldl
    (mergeBinding projectId winnerId now) db

def mergePrimary (winner : ProjectUser) (projectId : Uuid) :
    PrimarySource → Tx Database
  | .provider id _ => do
    let identity ← require
      (db.identities.find? fun i => i.projectId = projectId ∧ i.id = id) .revisionConflict
    requireProviderIdentity db projectId id winner.id identity.identityRevision
    let profile ← providerProfile db winner id
    updateUserPrimary env db winner ⟨.provider, some id, none, profile⟩
  | .email id _ => do
    let identity ← require
      (db.emailIdentities.find? fun i => i.projectId = projectId ∧ i.id = id) .revisionConflict
    requireEmailIdentity db projectId id winner.id identity.identityRevision
    updateUserPrimary env db winner ⟨.email, none, some id, noProfile⟩
  | .preserve => .error .integrity
  | .clear => .error .integrity

def confirmMerge (intent : MutationIntent) (winner loser : FrozenUser) (db : Database) :
    Tx Database := do
  let projectId := intent.projectId
  let now := env.databaseClock
  let db := revokeLoserSessions db projectId loser.userId now
  let db ← retireLoser env db projectId winner.userId loser.userId
  let db := moveIdentities db projectId winner.userId loser.userId
  let db := moveManagedConnections
    ⟨projectId, loser.userId, winner.userId, winner.securityRevision⟩ db
  let db := mergeBindings db projectId winner.userId loser.userId now
  let user ← require (db.users.find? fun u => u.id = winner.userId) .integrity
  mergePrimary env db user projectId intent.primarySource

/-! ## the confirmation -/

/-- the receipts are consumed, the intent completed and its evidence deleted -/
def finishConfirmation (intent : MutationIntent) (db : Database) : Tx Database := do
  let now := env.databaseClock
  ensure ((db.receipts.filter (ReceiptLive env intent)).length = slotCount db intent.id)
    .revisionConflict
  let row ← require
    (db.intents.find? fun i => i.projectId = c.projectId ∧ i.id = c.intentId ∧ i.status = .ready
      ∧ i.intentRevision = c.expectedIntentRevision ∧ now < i.expiresAt) .revisionConflict
  pure { db with
    receipts := db.receipts.update (ReceiptLive env intent)
      (fun r => { r with status := .consumed, consumedAt := some now }) (fun _ => rfl)
    intents := db.intents.set (endedIntent .completed now row)
    evidence := deleteEvidenceOf db intent }

/-- the change of the intent; a candidate comes with a link only -/
def applyMutation (intent : MutationIntent) (db : Database) : Tx Database :=
  match intent.operation with
  | .link destination => confirmLink env c destination db
  | .unlink owner => do
    ensure (c.candidate.isNone = true) .integrity
    confirmUnlink env intent owner db
  | .merge winner loser => do
    ensure (c.candidate.isNone = true) .integrity
    confirmMerge env intent winner loser db

def MutationOperation.UnionTooLarge (projectId : Uuid) : MutationOperation → Prop
  | merge winner loser => maxApplicationBindingsPerUser
      < mergeBindingUnionCount db projectId winner.userId loser.userId
  | _ => False

instance (db : Database) (projectId : Uuid) :
    DecidablePred (MutationOperation.UnionTooLarge db projectId)
  | .merge _ _ => inferInstanceAs (Decidable (_ < _))
  | .link _ => inferInstanceAs (Decidable False)
  | .unlink _ => inferInstanceAs (Decidable False)

def confirmControl (db : Database) : Tx (Committed Unit) := do
  ensure (c.expectedKind = .link → c.candidate.isSome = true) .integrity
  let intent ← lockIntent db c.intentId
  ensure (intent.projectId = c.projectId) .notFound
  unlessExpired env db intent (.error .invalidTransition) do
    requireLiveReady env db intent c.expectedIntentRevision c.expectedKind
    revalidateFinalAuthority env db intent
    if intent.operation.UnionTooLarge db intent.projectId then cancelIntent env db intent ()
    else do
      let db ← applyMutation env c intent db
      let db ← finishConfirmation env c intent db
      pure (.done db ())

end OwlAuth
