import OwlAuth.Login.Challenges
import OwlAuth.Mail.Step
import OwlAuth.Mutation.Confirm

/-!
# The proofs of an identity mutation

The operator opens an intent with a slot for each identity it is about (`createIdentityMutation`).
In a browser each slot goes through a provider, or through a code sent by email, to a receipt
(`proveSlot`); with a receipt for every slot the intent is ready (`confirmMutationReady`).

A browser, a callback and a transferred link are told by digests that the rows here do not have: the
calls are those that presented the right ones.
-/

namespace OwlAuth

open Fallible Table

variable (env : Environment) (db : Database)

/-! ## creation -/

def SlotMethod.kind : SlotMethod → CandidateKind
  | provider _ => .provider
  | email _ => .email

def ExistingIdentity.kind : ExistingIdentity → CandidateKind
  | provider _ _ => .provider
  | email _ _ => .email

inductive ProofAuthority
  | provider (applicationId configurationId : Uuid)
  | email (applicationId : Uuid)

def ProofAuthority.applicationId : ProofAuthority → Uuid
  | provider a _ => a
  | email a => a

structure SlotSelection where
  id : Uuid
  identity : ExistingIdentity
  authority : ProofAuthority

structure CreateIdentityMutation where
  (projectId intentId : Uuid)
  operation : MutationOperation
  primarySource : PrimarySource
  admitted : operation.Admits primarySource
  selection : MutationSlotRole → SlotSelection
  /-- the adapters that prove identities, and their revisions -/
  capability : ProviderKind → Option (String × Int)

def MutationOperation.roles : MutationOperation → List (MutationSlotRole × FrozenUser)
  | link destination => [(.destinationOwner, destination), (.candidateIdentity, destination)]
  | unlink owner => [(.identityOwner, owner)]
  | merge winner loser => [(.winnerOwner, winner), (.loserOwner, loser)]

variable (c : CreateIdentityMutation)

/-- the candidate of a link is no identity yet -/
def CreateIdentityMutation.existing (role : MutationSlotRole) : Option ExistingIdentity :=
  if role = .candidateIdentity then none else some (c.selection role).identity

/-- `derive_and_lock_slots`: what is not there is not found, what differs is a conflict -/
def lockSeedUser (user : FrozenUser) : Tx Unit := do
  ensure (∃ u ∈ db.users.rows, u.projectId = c.projectId ∧ u.id = user.userId) .notFound
  requireFrozenUser db c.projectId user

def lockSeedIdentity (userId : Uuid) : ExistingIdentity → Tx Unit
  | .provider id revision => do
    ensure (∃ i ∈ db.identities.rows, i.projectId = c.projectId ∧ i.id = id) .notFound
    requireProviderIdentity db c.projectId id userId revision
  | .email id revision => do
    ensure (∃ i ∈ db.emailIdentities.rows, i.projectId = c.projectId ∧ i.id = id) .notFound
    requireEmailIdentity db c.projectId id userId revision

def ProviderKind.adapterKey : ProviderKind → String
  | oidc => "controlled_oidc_profile_v1"
  | google => "google_oidc_profile_v1"
  | github => "github_oauth_login_v1"

def snapshotMethod : ProofAuthority → Tx SlotMethod
  | .provider applicationId configurationId => do
    let provider ← require
      (db.providers.find? fun p => p.projectId = c.projectId ∧ p.id = configurationId) .notFound
    let assignment ← require
      (db.assignments.find? fun a => a.projectId = c.projectId ∧ a.providerId = configurationId
        ∧ a.applicationId = applicationId) .notFound
    ensure (provider.status = .active ∧ assignment.status = .active) .disabled
    let kind ← effectiveProviderKind provider
    -- who signs in at GitHub proves no identity
    ensure (kind ≠ .github) .invalidInput
    let (adapterKey, adapterRevision) ← require (c.capability kind) .invalidInput
    ensure (adapterKey = kind.adapterKey) .integrity
    let policy := db.egressPolicies.find? fun p => p.projectId = c.projectId ∧ kind = .oidc
    ensure (kind = .oidc → policy.isSome = true) .integrity
    pure (.provider ⟨configurationId, provider.revision, assignment.securityRevision,
      provider.secretMaterialId, policy.map ProviderEgressPolicy.revision, adapterKey,
      adapterRevision⟩)
  | .email applicationId => do
    let (policy, assignment) ← require (findEmailMethod db c.projectId applicationId) .notFound
    ensure (policy.status = .enabled ∧ assignment.status = .active) .disabled
    pure (.email ⟨policy.policyRevision, policy.securityRevision, assignment.securityRevision⟩)

def newSlot (role : MutationSlotRole) (user : FrozenUser) : Tx MutationSlot := do
  let ⟨id, _, authority⟩ := c.selection role
  let application ← require
    (db.applications.find? fun a => a.projectId = c.projectId ∧ a.id = authority.applicationId)
    .notFound
  ensure (application.status = .active) .disabled
  let method ← snapshotMethod db c authority
  pure ⟨id, c.projectId, c.intentId, role, user.userId, user.userRevision, user.securityRevision,
    c.existing role, application.id, application.securityRevision, method, .pending, 1, none, none⟩

def newIntent (project : Project) : MutationIntent :=
  ⟨c.intentId, c.projectId, c.operation, .pendingProof, 1, project.metadataRevision,
    project.securityRevision, c.primarySource, env.databaseClock + minutes 10, none, c.admitted⟩

def createIdentityMutation (db : Database) : Tx (Committed Unit) := do
  let project ← require
    (db.projects.find? fun p => p.id = c.projectId ∧ p.status = .active) .notFound
  let intent := newIntent env c project
  revalidatePrimarySource db intent
  let roles := c.operation.roles
  foldOk (fun _ s => lockSeedUser db c s.2) () roles
  foldOk (fun _ s => foldOk (fun _ => lockSeedIdentity db c s.2.userId) () (c.existing s.1).toList)
    () roles
  let slots ← roles.mapM fun s => newSlot db c s.1 s.2
  ensure (∀ s ∈ slots, ∀ e ∈ s.existing, e.kind = s.method.kind) .invalidInput
  let intents ← insertRow db.intents intent fun _ => True
  let slots ← foldOk (fun t s => insertRow t s fun _ => True) db.slots slots
  pure (.done { db with intents := intents, slots := slots } ())

/-! ## slots -/

variable (intent : MutationIntent)

/-- a slot is written, and the intent advances with it (`bump_intent`) -/
def writeSlot (slot : MutationSlot) : Tx (Committed Unit) := do
  ensure (intent.status = .pendingProof ∧ env.databaseClock < intent.expiresAt) .revisionConflict
  pure (.done
    { db with slots := db.slots.set slot, intents := db.intents.set (bumpedIntent intent) } ())

def bindMutationBrowser (intentId : Uuid) (db : Database) : Tx (Committed Unit) := do
  let intent ← lockIntent db intentId
  unlessExpired env db intent (.error .notFound) do
    ensure (intent.status = .pendingProof) .invalidTransition
    pure (.done { db with intents := db.intents.set (bumpedIntent intent) } ())

structure MutationSlotCall where
  (intentId proofSlotId : Uuid)
  expectedRevision : Int

/-- the first step of a slot, by the method it was opened with -/
def openSlot (kind : CandidateKind) (state : MutationSlotState) (c : MutationSlotCall)
    (db : Database) : Tx (Committed Unit) := do
  let intent ← lockIntent db c.intentId
  let slot ← lockSlot db c.intentId c.proofSlotId
  unlessExpired env db intent (.error .invalidTransition) do
    requirePendingRevision env db intent c.expectedRevision
    ensure (slot.state = .pending ∧ slot.method.kind = kind) .invalidTransition
    revalidateSlotAuthority env db intent slot
    writeSlot env db intent (movedSlot state slot)

def startMutationProvider : MutationSlotCall → Database → Tx (Committed Unit) :=
  openSlot env .provider .providerAuthorizationStarted

def beginMutationEmail : MutationSlotCall → Database → Tx (Committed Unit) :=
  openSlot env .email .emailAddressEntry

/-- a callback is claimed once; one that comes again is only answered -/
def claimMutationCallback (intentId slotId : Uuid) (db : Database) : Tx (Committed Unit) := do
  let intent ← lockIntent db intentId
  unlessExpired env db intent (.ok ()) do
    let slot ← lockSlot db intentId slotId
    match slot.state with
    | .pending | .emailAddressEntry | .emailChallengePending => .error .invalidTransition
    | .providerExchangeInProgress | .providerExchangeFailed | .proved | .expired =>
      pure (.done db ())
    | .providerAuthorizationStarted =>
      match revalidateSlotAuthority env db intent slot with
      | .ok _ => writeSlot env db intent (movedSlot .providerExchangeInProgress slot)
      | .error e => do
        ensure (e = .revisionConflict ∨ e = .disabled ∨ e = .notFound) e
        cancelIntent env db intent ()

def denyMutationCallback (intentId slotId : Uuid) (db : Database) : Tx (Committed Unit) := do
  let intent ← lockIntent db intentId
  unlessExpired env db intent (.ok ()) do
    let slot ← lockSlot db intentId slotId
    ensure (slot.state = .providerAuthorizationStarted) .invalidTransition
    cancelIntent env db intent ()

def failMutationCallback (c : MutationSlotCall) (db : Database) : Tx (Committed Unit) := do
  let intent ← lockIntent db c.intentId
  unlessExpired env db intent (.ok ()) do
    let slot ← lockSlot db c.intentId c.proofSlotId
    if slot.state = .providerExchangeInProgress ∧ intent.intentRevision = c.expectedRevision then
      cancelIntent env db intent ()
    else pure (.done db ())

/-! ## receipts -/

def proveSlot (slot : MutationSlot) (receiptId : Uuid) : Tx (Committed Unit) := do
  let now := env.databaseClock
  ensure (slot.state = match slot.method with
    | .provider _ => .providerExchangeInProgress
    | .email _ => .emailChallengePending) .revisionConflict
  let receipts ← insertRow db.receipts
    ⟨receiptId, intent.projectId, intent.id, slot.id, .issued,
      min (now + minutes 5) intent.expiresAt, none⟩
    fun r => ¬ (r.projectId = intent.projectId ∧ r.intentId = intent.id ∧ r.slotId = slot.id)
  writeSlot env { db with receipts := receipts } intent
    { movedSlot .proved slot with provedAt := some now }

/-- the sealed candidate of a link is kept; any other slot is about an identity that is there -/
def takeEvidence (slot : MutationSlot) (existing : Tx Unit) :
    Option CandidateEvidence → Tx (Table CandidateEvidence)
  | some m => do
    ensure (slot.role = .candidateIdentity ∧ m.projectId = slot.projectId
      ∧ m.intentId = slot.intentId ∧ m.slotId = slot.id ∧ 0 < m.candidateRevision
      ∧ m.identityKind = slot.method.kind) .integrity
    validateDigest m.digest
    insertRow db.evidence m fun e => ¬ (e.projectId = m.projectId ∧ e.intentId = m.intentId
      ∧ e.slotId = m.slotId)
  | none => do
    ensure (slot.role ≠ .candidateIdentity) .integrity
    existing
    pure db.evidence

structure CompleteMutationCallback extends MutationSlotCall where
  (projectId receiptId : Uuid)
  (issuer subject : String)
  candidate : Option CandidateEvidence

def revalidateExistingProvider (slot : MutationSlot) (c : CompleteMutationCallback) : Tx Unit :=
  match slot.existing with
  | some (.provider id revision) => do
    let identity ← require
      (db.identities.find? fun i => i.projectId = c.projectId ∧ i.id = id) .revisionConflict
    ensure (identity.status = .active ∧ identity.userId = slot.proofUserId
      ∧ identity.identityRevision = revision ∧ identity.issuer = c.issuer
      ∧ identity.subject = c.subject) .revisionConflict
  | _ => .error .integrity

def completeMutationCallback (c : CompleteMutationCallback) (db : Database) :
    Tx (Committed Unit) := do
  let intent ← lockIntent db c.intentId
  unlessExpired env db intent (.error .revisionConflict) do
    ensure (intent.projectId = c.projectId ∧ intent.intentRevision = c.expectedRevision
      ∧ intent.status = .pendingProof) .revisionConflict
    let slot ← lockSlot db c.intentId c.proofSlotId
    ensure (slot.state = .providerExchangeInProgress ∧ slot.method.kind = .provider)
      .revisionConflict
    revalidateSlotAuthority env db intent slot
    let evidence ← takeEvidence db slot (revalidateExistingProvider db slot c) c.candidate
    proveSlot env { db with evidence := evidence } intent slot c.receiptId

structure VerifyMutationEmailProof extends MutationSlotCall where
  (projectId challengeId : Uuid)
  generation : Int
  proofKind : EmailProofKind
  proofDigest : VersionedDigest

def MutationChallengeLive (slot : MutationSlot) (ch : EmailChallenge)
    (v : VerifyMutationEmailProof) : Prop :=
  intent.status = .pendingProof ∧ slot.state = .emailChallengePending ∧ ch.status = .pending
    ∧ env.databaseClock < intent.expiresAt ∧ env.databaseClock < ch.expiresAt
    ∧ newestGeneration (challengesOfSlot db v.projectId v.intentId v.proofSlotId) = v.generation
    ∧ ∃ t ∈ proofExpiresAt ch v.proofKind, ch.issuedAt < t ∧ env.databaseClock < t
  deriving Decidable

/-- the challenge a proof is for; one that ran out while it was pending ends the intent -/
def onMutationChallenge {α : Type} (v : VerifyMutationEmailProof)
    (late : Except ApplicationError α) (db : Database)
    (body : MutationIntent → MutationSlot → EmailChallenge → Tx (Committed α)) :
    Tx (Committed α) := do
  validateDigest v.proofDigest
  ensure (0 < v.generation) .invalidInput
  let intent ← lockIntent db v.intentId
  ensure (intent.projectId = v.projectId) .notFound
  unlessExpired env db intent late do
    ensure (intent.intentRevision = v.expectedRevision) .revisionConflict
    let slot ← lockSlot db v.intentId v.proofSlotId
    let challenge ← require
      (db.emailChallenges.find? fun ch => ch.id = v.challengeId ∧ ch.projectId = v.projectId
        ∧ ch.owner = .identityMutation v.intentId v.proofSlotId ∧ ch.generation = v.generation)
      .notFound
    if challenge.status = .pending ∧ challenge.expiresAt ≤ env.databaseClock then do
      let db ← terminalize env db intent .expired
      pure ⟨db, late⟩
    else body intent slot challenge

/-- the last wrong code ends the intent along with the challenge -/
def verifyMutationEmailProof (v : VerifyMutationEmailProof) (db : Database) :
    Tx (Committed (Option EmailChallenge)) :=
  onMutationChallenge env v (.ok none) db fun intent slot challenge =>
    if MutationChallengeLive env db intent slot challenge v then do
      revalidateSlotAuthority env db intent slot
      if proofDigest challenge v.proofKind = some v.proofDigest then
        pure (.done db (some challenge))
      else if v.proofKind = .otp then
        let db := { db with
          emailChallenges := db.emailChallenges.set (rejectedOtp env.databaseClock challenge) }
        if challenge.otpMaxAttempts ≤ challenge.otpAttempts + 1 then cancelIntent env db intent none
        else pure (.done db none)
      else pure (.done db none)
    else pure (.done db none)

structure ExistingEmailEvidence where
  identityId : Uuid
  identityRevision : Int
  verifiedChallengeLookup : VersionedDigest
  lookupAliases : List VersionedDigest
  activeAlias : VersionedDigest
  aliasAuthorityRevision : Int

def storedAliases (projectId identityId : Uuid) (db : Database) : List VersionedDigest :=
  (db.emailAliases.rows.filter fun a =>
    a.projectId = projectId ∧ a.identityId = identityId).map EmailIdentityAlias.lookupDigest

def revalidateExistingEmail (projectId : Uuid) (slot : MutationSlot) (m : ExistingEmailEvidence)
    (challengeLookup : VersionedDigest) (db : Database) : Tx Unit := do
  ensure (m.verifiedChallengeLookup = challengeLookup) .revisionConflict
  match slot.existing with
  | some (.email identityId revision) =>
    ensure (identityId = m.identityId ∧ revision = m.identityRevision) .revisionConflict
  | _ => .error .revisionConflict
  ensure (m.aliasAuthorityRevision = 1 ∧ m.activeAlias ∈ m.lookupAliases
    ∧ challengeLookup ∈ m.lookupAliases) .revisionConflict
  let identity ← require (db.emailIdentities.find? fun i =>
    i.projectId = projectId ∧ i.id = m.identityId) .revisionConflict
  ensure (identity.status = .active ∧ identity.userId = slot.proofUserId
    ∧ identity.identityRevision = m.identityRevision) .revisionConflict
  -- the two sets of aliases are compared whole
  let stored := storedAliases projectId m.identityId db
  ensure (0 < identity.canonicalizationVersion ∧ stored ⊆ m.lookupAliases
    ∧ m.lookupAliases ⊆ stored) .revisionConflict

structure CompleteMutationEmailProof extends VerifyMutationEmailProof where
  receiptId : Uuid
  verifiedChallengeLookup : VersionedDigest
  material : CandidateEvidence ⊕ ExistingEmailEvidence

def revalidateEmailMaterial (slot : MutationSlot) (c : CompleteMutationEmailProof) : Tx Unit :=
  match c.material with
  | .inl _ => pure ()
  | .inr m => revalidateExistingEmail c.projectId slot m c.verifiedChallengeLookup db

def completeMutationEmailProof (c : CompleteMutationEmailProof) (db : Database) :
    Tx (Committed Unit) :=
  let v := c.toVerifyMutationEmailProof
  onMutationChallenge env v (.error .invalidTransition) db fun intent slot challenge => do
    ensure (MutationChallengeLive env db intent slot challenge v
      ∧ proofDigest challenge v.proofKind = some v.proofDigest) .invalidTransition
    revalidateSlotAuthority env db intent slot
    ensure (challenge.lookupDigest = c.verifiedChallengeLookup) .notFound
    let evidence ← takeEvidence db slot (revalidateEmailMaterial db slot c) c.material.getLeft?
    proveSlot env
      { db with
        evidence := evidence
        emailChallenges := db.emailChallenges.set (consumedChallenge challenge env.databaseClock) }
      intent slot c.receiptId

/-- every slot has its receipt, and none of them has run out -/
def confirmMutationReady (intentId : Uuid) (expectedRevision : Int) (db : Database) :
    Tx (Committed Unit) := do
  let intent ← lockIntent db intentId
  unlessExpired env db intent (.ok ()) do
    requirePendingRevision env db intent expectedRevision
    let proved := db.slots.filter fun s => s.intentId = intentId ∧ s.state = .proved
    let fresh := proved.flatMap fun s => db.receipts.filter fun r =>
      r.projectId = s.projectId ∧ r.intentId = s.intentId ∧ r.slotId = s.id
        ∧ r.status = .issued ∧ env.databaseClock < r.expiresAt
    ensure (fresh.length = slotCount db intentId) .invalidTransition
    ensure (env.databaseClock < intent.expiresAt) .revisionConflict
    pure (.done
      { db with
        intents := db.intents.set
          { bumpedIntent intent with status := .ready } } ())

/-! ## what the calls leave alone -/

section
variable {env : Environment} {db db₁ : Database} {intent : MutationIntent} {α : Type}

/-- whatever the call commits is a step of the ceremony -/
abbrev Ceremonial (db : Database) (x : Tx (Committed α)) : Prop := Yields x (MutationStep db ·.db)

theorem MutationStep.trans {db₂} (h : MutationStep db db₁) (h' : MutationStep db₁ db₂) :
    MutationStep db db₂ := by
  refine ⟨?_, h.mail.trans h'.mail, h.challenges.trans h'.challenges⟩
  have hf := h'.frame
  rw [h.frame] at hf
  exact hf

theorem LoginChallengesKept.set {t : Table EmailChallenge} {ch ch' : EmailChallenge} (hch : ch ∈ t)
    (ho : ch.owner.OfMutation) (hid : ch'.id = ch.id) (howner : ch'.owner = ch.owner) :
    LoginChallengesKept t (t.set ch') := by
  intro o hno
  refine (mem_set_of hch hid).trans ⟨?_, fun h => .inl ⟨h, fun he => hno (he ▸ ho)⟩⟩
  rintro (⟨h, _⟩ | rfl)
  · exact h
  · exact absurd (howner ▸ ho) hno

theorem createIdentityMutation_step {c} : Ceremonial db (createIdentityMutation env c db) :=
  .bind fun _ => .bind fun _ => .bind fun _ => .bind fun _ => .bind fun _ => .bind fun _ =>
    .bind fun _ => .bind fun _ => .pure ⟨rfl, .refl .refl _, .refl _⟩

theorem unlessExpired_step {late} {body : Tx (Committed α)} (h : Ceremonial db body) :
    Ceremonial db (unlessExpired env db intent late body) := by
  intro r hr
  obtain ⟨_, he, hr⟩ := bind_ok.mp hr
  split at hr
  · cases hr; exact (expireLockedIfNeeded_ok he).step
  · exact h r hr

theorem cancelIntent_step {a : α} (h : MutationStep db db₁) :
    Ceremonial db (cancelIntent env db₁ intent a) := by
  intro r hr
  obtain ⟨_, hterm, hr⟩ := bind_ok.mp hr
  cases hr
  exact h.trans (terminalize_ok hterm).step

theorem cancelIdentityMutation_step {c} : Ceremonial db (cancelIdentityMutation env c db) :=
  .bind fun _ => .bind fun _ => unlessExpired_step (.bind fun _ => .bind fun _ =>
    cancelIntent_step (.refl db))

theorem commitIdentityMutationEmailGeneration_step {c} :
    Ceremonial db (commitIdentityMutationEmailGeneration env c db) :=
  .bind fun _ => .bind fun _ => .bind fun _ => unlessExpired_step (.bind fun _ => .bind fun _ =>
    .bind fun _ => .bind fun _ => .bind fun _ => .bind fun _ => .bind fun _ _ =>
      sendMutationChallenge_step)

theorem writeSlot_step {slot} (h : MutationStep db db₁) :
    Ceremonial db (writeSlot env db₁ intent slot) :=
  .bind fun _ => .pure (h.trans ⟨rfl, .refl .refl _, .refl _⟩)

theorem proveSlot_step {slot receiptId} (h : MutationStep db db₁) :
    Ceremonial db (proveSlot env db₁ intent slot receiptId) :=
  .bind fun _ => .bind fun _ => writeSlot_step (h.trans ⟨rfl, .refl .refl _, .refl _⟩)

theorem bindMutationBrowser_step {intentId} : Ceremonial db (bindMutationBrowser env intentId db) :=
  .bind fun _ => unlessExpired_step (.bind fun _ => .pure ⟨rfl, .refl .refl _, .refl _⟩)

theorem openSlot_step {kind state c} : Ceremonial db (openSlot env kind state c db) :=
  .bind fun _ => .bind fun _ => unlessExpired_step (.bind fun _ => .bind fun _ => .bind fun _ =>
    writeSlot_step (.refl db))

theorem claimMutationCallback_step {intentId slotId} :
    Ceremonial db (claimMutationCallback env intentId slotId db) := by
  refine .bind fun intent => unlessExpired_step (.bind fun slot => ?_)
  split
  any_goals exact .error
  any_goals exact .pure (.refl db)
  split
  · exact writeSlot_step (.refl db)
  · exact .bind fun _ => cancelIntent_step (.refl db)

theorem denyMutationCallback_step {intentId slotId} :
    Ceremonial db (denyMutationCallback env intentId slotId db) :=
  .bind fun _ => unlessExpired_step (.bind fun _ => .bind fun _ => cancelIntent_step (.refl db))

theorem failMutationCallback_step {c} : Ceremonial db (failMutationCallback env c db) :=
  .bind fun _ => unlessExpired_step (.bind fun _ =>
    .ite (cancelIntent_step (.refl db)) (.pure (.refl db)))

theorem completeMutationCallback_step {c} : Ceremonial db (completeMutationCallback env c db) :=
  .bind fun _ => unlessExpired_step (.bind fun _ => .bind fun _ => .bind fun _ => .bind fun _ =>
    .bind fun _ => proveSlot_step ⟨rfl, .refl .refl _, .refl _⟩)

theorem onMutationChallenge_step {v late}
    {body : MutationIntent → MutationSlot → EmailChallenge → Tx (Committed α)}
    (h : ∀ intent slot ch, (∀ ch' : EmailChallenge, ch'.id = ch.id → ch'.owner = ch.owner →
        LoginChallengesKept db.emailChallenges (db.emailChallenges.set ch')) →
      Ceremonial db (body intent slot ch)) :
    Ceremonial db (onMutationChallenge env v late db body) := by
  refine .bind fun _ => .bind fun _ => .bind fun intent => .bind fun _ => unlessExpired_step
    (.bind fun _ => .bind fun slot => ?_)
  intro r hr
  obtain ⟨ch, hch, hr⟩ := bind_ok.mp hr
  obtain ⟨hch, _, _, ho, _⟩ := find_ok hch
  split at hr
  · obtain ⟨_, hterm, hr⟩ := bind_ok.mp hr
    cases hr
    exact (terminalize_ok hterm).step
  · refine h intent slot ch (fun ch' hid howner => .set hch ?_ hid howner) r hr
    rw [ho]
    trivial

theorem verifyMutationEmailProof_step {v} : Ceremonial db (verifyMutationEmailProof env v db) := by
  refine onMutationChallenge_step fun intent slot ch hkept => ?_
  have hrejected : MutationStep db { db with
      emailChallenges := db.emailChallenges.set (rejectedOtp env.databaseClock ch) } :=
    ⟨rfl, .refl .refl _, hkept _ (rejectedOtp_id _ _) (rejectedOtp_move _ _).owner⟩
  exact .ite (.bind fun _ => .ite (.pure (.refl db))
    (.ite (.ite (cancelIntent_step hrejected) (.pure hrejected)) (.pure (.refl db))))
    (.pure (.refl db))

theorem completeMutationEmailProof_step {c} : Ceremonial db (completeMutationEmailProof env c db) :=
  onMutationChallenge_step fun _ _ _ hkept => .bind fun _ => .bind fun _ => .bind fun _ =>
    .bind fun _ => proveSlot_step ⟨rfl, .refl .refl _, hkept _ rfl rfl⟩

theorem confirmMutationReady_step {intentId expectedRevision} :
    Ceremonial db (confirmMutationReady env intentId expectedRevision db) :=
  .bind fun _ => unlessExpired_step (.bind fun _ => .bind fun _ => .bind fun _ =>
    .pure ⟨rfl, .refl .refl _, .refl _⟩)

end

end OwlAuth
