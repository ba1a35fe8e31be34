import OwlAuth.Data.Values

/-!
# Rows

One structure for each table, with the columns of the schema in the order of the schema;
`created_at` and `updated_at` only where something depends on them.  Columns that hold a digest and
its key version are one `VersionedDigest`, a ciphertext and its key version one `ProtectedValue`.
Counters the code advances by plain `+ 1` are integers without a bound.
-/

namespace OwlAuth

/-! ## configuration -/

structure Project where
  id : Uuid
  publicId : String
  status : ProjectStatus
  (metadataRevision securityRevision : Int)
  deletionRequestedAt : Option Instant

instance : Keyed Project Uuid := ⟨Project.id⟩

structure Application where
  (id projectId : Uuid)
  (publicId displayName : String)
  status : OwnerStatus
  (revision metadataRevision securityRevision : Int)

instance : Keyed Application Uuid := ⟨Application.id⟩

structure ApplicationRedirect where
  (projectId applicationId : Uuid)
  redirectUri : String
  deriving DecidableEq

instance : Keyed ApplicationRedirect ApplicationRedirect := ⟨id⟩

/-- `claims_policy` and `session_policy` are JSON; only the values read from them are columns -/
structure ProjectPolicy where
  projectId : Uuid
  (claimsRevision sessionRevision : Int)
  accessTokenLifetimeSeconds : Option Int
  browserSessionReuse : Option Bool
  browserSessionReuseMaxAgeSeconds : Option Int

instance : Keyed ProjectPolicy Uuid := ⟨ProjectPolicy.projectId⟩

inductive ProviderKind
  | oidc | google | github
  deriving DecidableEq

structure ProviderConfiguration where
  (id projectId : Uuid)
  providerKey : String
  kind : ProviderKind
  (displayName issuer callbackUrl : String)
  secretMaterialId : Uuid
  status : ProviderStatus
  revision : Int
  managedProfileEnabled : Bool
  managedProfileRevision : Int

instance : Keyed ProviderConfiguration Uuid := ⟨ProviderConfiguration.id⟩

structure ProviderEgressPolicy where
  projectId : Uuid
  revision : Int

instance : Keyed ProviderEgressPolicy Uuid := ⟨ProviderEgressPolicy.projectId⟩

structure ProviderAssignment where
  (projectId applicationId providerId : Uuid)
  status : OwnerStatus
  securityRevision : Int

instance : Keyed ProviderAssignment (Uuid × Uuid × Uuid) :=
  ⟨fun a => (a.projectId, a.applicationId, a.providerId)⟩

/-! ## identity -/

structure Profile where
  (displayName pictureUrl locale : Option String)
  deriving DecidableEq

/-- a profile field set locally hides the one of the primary identity -/
structure LocalProfileField where
  isSet : Bool
  value : Option String
  deriving DecidableEq

structure ProjectUser where
  (id projectId : Uuid)
  publicId : String
  status : MemberStatus
  mergedIntoUserId : Option Uuid
  (userRevision securityRevision : Int)
  (primaryProfileIdentityId primaryEmailIdentityId : Option Uuid)
  primarySourceKind : SourceKind
  baseProfileDigest : Digest
  (localDisplayName localPictureUrl localLocale : LocalProfileField)
  profile : Profile
  (createdAt updatedAt : Instant)

instance : Keyed ProjectUser Uuid := ⟨ProjectUser.id⟩

structure LinkedIdentity where
  (id projectId userId createdViaProviderConfigurationId : Uuid)
  (issuer subject : String)
  status : OwnerStatus
  identityRevision : Int
  sourceProfileDigest : Digest
  profile : Profile
  observedAt : Instant

instance : Keyed LinkedIdentity Uuid := ⟨LinkedIdentity.id⟩

structure EmailIdentity where
  (id projectId userId : Uuid)
  status : OwnerStatus
  (identityRevision canonicalizationVersion : Int)
  address : ProtectedValue
  verifiedAt : Option Instant

instance : Keyed EmailIdentity Uuid := ⟨EmailIdentity.id⟩

structure EmailIdentityAlias where
  (projectId identityId : Uuid)
  canonicalizationVersion : Int
  lookupDigest : VersionedDigest

instance : Keyed EmailIdentityAlias (Uuid × Int × VersionedDigest) :=
  ⟨fun a => (a.projectId, a.canonicalizationVersion, a.lookupDigest)⟩

/-! ## login -/

structure LoginTransaction where
  (id projectId applicationId : Uuid)
  interaction : VersionedDigest
  status : LoginTransactionStatus
  transactionRevision : Int
  (redirectUri applicationPkceChallenge : String)
  applicationState : ProtectedValue
  presentationHint : Option String
  (browserBinding csrf : Option VersionedDigest)
  selectedMethod : Option SourceKind
  (providerConfigurationId userId : Option Uuid)
  callbackUrl : Option String
  (upstreamState oidcNonce : Option VersionedDigest)
  providerPkce : Option ProtectedValue
  (projectMetadataRevision projectSecurityRevision applicationSecurityRevision : Int)
  (providerRevision assignmentSecurityRevision : Option Int)
  (claimsRevision sessionRevision : Int)
  authenticatedAt : Option Instant
  expiresAt : Instant
  terminalAt : Option Instant
  updatedAt : Instant

instance : Keyed LoginTransaction Uuid := ⟨LoginTransaction.id⟩

structure LoginTransactionMethod where
  (projectId transactionId : Uuid)
  methodKey : String
  methodKind : SourceKind
  providerConfigurationId : Option Uuid
  displayName : String
  (providerRevision assignmentSecurityRevision : Option Int)
  providerKind : Option ProviderKind
  providerEgressPolicyRevision : Option Int

instance : Keyed LoginTransactionMethod (Uuid × Uuid × String) :=
  ⟨fun m => (m.projectId, m.transactionId, m.methodKey)⟩

inductive SmtpSelectionKind
  | project | deploymentDefault
  deriving DecidableEq

/-- the exact SMTP generation that a challenge and its message are sent through -/
structure SmtpReference where
  selectionKind : SmtpSelectionKind
  configurationId : Option Uuid
  (generation securityEligibilityRevision : Int)
  deriving DecidableEq

/-- the email policy, assignment and SMTP generation a login or a challenge was admitted under -/
structure EmailMethodAuthority where
  (policyRevision securityRevision assignmentSecurityRevision : Int)
  smtpSelectionKind : SmtpSelectionKind
  smtpConfigurationId : Option Uuid
  (smtpGeneration smtpSecurityEligibilityRevision : Int)
  deriving DecidableEq

def EmailMethodAuthority.smtp (a : EmailMethodAuthority) : SmtpReference :=
  ⟨a.smtpSelectionKind, a.smtpConfigurationId, a.smtpGeneration, a.smtpSecurityEligibilityRevision⟩

structure AdmittedEmailMethod where
  authority : EmailMethodAuthority
  (otpEnabled magicLinkEnabled : Bool)
  (otpDigits otpValiditySeconds otpMaxAttempts resendAfterSeconds maxGenerations : Int)
  magicValiditySeconds : Int
  (signupEnabled transferredMagicLinkEnabled : Bool)
  deriving DecidableEq

structure LoginEmailMethodSnapshot where
  (projectId transactionId applicationId : Uuid)
  method : AdmittedEmailMethod

instance : Keyed LoginEmailMethodSnapshot (Uuid × Uuid) := ⟨fun s => (s.projectId, s.transactionId)⟩

inductive ChallengeStatus
  | pending | superseded | exhausted | consumed | expired | deliveryUnavailable
  deriving DecidableEq

inductive ChallengeOwner
  | login (transactionId : Uuid)
  | identityMutation (intentId slotId : Uuid)
  deriving DecidableEq

def ChallengeOwner.transactionId : ChallengeOwner → Option Uuid
  | login t => some t
  | identityMutation _ _ => none

structure EmailChallenge where
  (id projectId applicationId : Uuid)
  owner : ChallengeOwner
  generation : Int
  status : ChallengeStatus
  canonicalizationVersion : Int
  lookupDigest : VersionedDigest
  address : ProtectedValue
  otp : Option VersionedDigest
  (otpAttempts otpMaxAttempts : Int)
  magic : Option VersionedDigest
  authority : EmailMethodAuthority
  browserBindingRequired : Bool
  issuedAt : Instant
  (otpExpiresAt magicExpiresAt : Option Instant)
  expiresAt : Instant
  (consumedAt terminalAt : Option Instant)

instance : Keyed EmailChallenge Uuid := ⟨EmailChallenge.id⟩

inductive TransferStatus
  | pending | consumed | expired
  deriving DecidableEq

structure MagicTransferContext where
  (id challengeId : Uuid)
  (context csrf : VersionedDigest)
  browserBindingRequired : Bool
  status : TransferStatus
  expiresAt : Instant
  consumedAt : Option Instant

instance : Keyed MagicTransferContext Uuid := ⟨MagicTransferContext.id⟩

structure BrowserSession where
  (id projectId userId : Uuid)
  credential : VersionedDigest
  status : BrowserSessionStatus
  (sessionRevision projectSecurityRevision userSecurityRevision policySessionRevision : Int)
  (authenticatedAt lastActivityAt idleExpiresAt absoluteExpiresAt : Instant)
  terminatedAt : Option Instant

instance : Keyed BrowserSession Uuid := ⟨BrowserSession.id⟩

structure HandoffTicket where
  (id projectId loginTransactionId applicationId userId browserSessionId : Uuid)
  providerConfigurationId : Option Uuid
  ticket : VersionedDigest
  status : TicketStatus
  (redirectUri applicationPkceChallenge : String)
  authenticationMethod : AuthenticationMethod
  authenticatedAt : Instant
  (projectSecurityRevision applicationSecurityRevision userSecurityRevision : Int)
  (providerRevision assignmentSecurityRevision : Option Int)
  (claimsRevision policySessionRevision : Int)
  (issuedAt expiresAt : Instant)
  consumedAt : Option Instant

instance : Keyed HandoffTicket Uuid := ⟨HandoffTicket.id⟩

structure BrowserLogoutInteraction where
  (id projectId applicationId userId applicationSessionId browserSessionId : Uuid)
  preparation : VersionedDigest
  status : LogoutStatus
  interactionRevision : Int
  csrf : Option VersionedDigest
  (applicationSessionRevision browserSessionRevision : Int)
  expiresAt : Instant
  (csrfBoundAt consumedAt : Option Instant)

instance : Keyed BrowserLogoutInteraction Uuid := ⟨BrowserLogoutInteraction.id⟩

/-! ## mail -/

inductive EmailPolicyStatus
  | enabled | disabled
  deriving DecidableEq

structure ProjectEmailPolicy where
  projectId : Uuid
  status : EmailPolicyStatus
  (policyRevision securityRevision : Int)
  (otpEnabled magicLinkEnabled : Bool)
  (otpDigits otpValiditySeconds otpMaxAttempts resendAfterSeconds maxGenerations : Int)
  magicValiditySeconds : Int
  (signupEnabled transferredMagicLinkEnabled allowDeploymentDefault : Bool)

instance : Keyed ProjectEmailPolicy Uuid := ⟨ProjectEmailPolicy.projectId⟩

structure ApplicationEmailAssignment where
  (projectId applicationId : Uuid)
  status : OwnerStatus
  securityRevision : Int

instance : Keyed ApplicationEmailAssignment (Uuid × Uuid) :=
  ⟨fun a => (a.projectId, a.applicationId)⟩

inductive SmtpStatus
  | pending | reconciled | active | retained | disabled | compromised | retired
  deriving DecidableEq

structure SmtpServer where
  host : String
  port : UInt16
  tlsMode : SmtpTlsMode
  senderAddress : String
  (senderName replyTo : Option String)
  credentialMaterialId : Uuid
  safeFingerprint : Option Digest
  /-- the elements of a JSON array, `none` for those that are no strings -/
  allowedPrivateIps : List (Option String)

structure ProjectSmtpConfiguration where
  (id projectId : Uuid)
  status : SmtpStatus
  (generation securityEligibilityRevision : Int)
  retainedUntil : Option Instant
  server : SmtpServer

instance : Keyed ProjectSmtpConfiguration Uuid := ⟨ProjectSmtpConfiguration.id⟩

structure DeploymentSmtpGeneration where
  generation : Int
  status : SmtpStatus
  securityEligibilityRevision : Int
  retainedUntil : Option Instant
  server : SmtpServer

instance : Keyed DeploymentSmtpGeneration Int := ⟨DeploymentSmtpGeneration.generation⟩

inductive MailStatus
  | pending | leased | delivered | retry | permanentFailure | ambiguous | cancelled | expired
  deriving DecidableEq

inductive SafeMailOutcome
  | delivered | transient | permanent | ambiguous | policyDenied | expired
  deriving DecidableEq

/-- a message to send; the message of a login carries its `transactionId` -/
structure MailOutbox where
  (id projectId : Uuid)
  transactionId : Option Uuid
  challengeId : Uuid
  challengeGeneration : Int
  status : MailStatus
  smtp : SmtpReference
  messageId : String
  (envelope body : ProtectedValue)
  (attempts maxAttempts : Int)
  nextAttemptAt : Instant
  leaseOwner : Option String
  leaseExpiresAt : Option Instant
  safeOutcome : Option SafeMailOutcome
  usefulUntil : Instant
  (deliveredAt terminalAt : Option Instant)
  createdAt : Instant

instance : Keyed MailOutbox Uuid := ⟨MailOutbox.id⟩

/-! ## mutation -/

inductive MutationStatus
  | pendingProof | ready | completed | expired | cancelled
  deriving DecidableEq

/-- a user at the revisions an intent was created for -/
structure FrozenUser where
  userId : Uuid
  (userRevision securityRevision : Int)

inductive MutationOperation
  | link (destination : FrozenUser)
  | unlink (identityOwner : FrozenUser)
  | merge (winner loser : FrozenUser)

/-- where the profile and the email of a user come from after the mutation -/
inductive PrimarySource
  | preserve
  | clear
  | provider (identityId : Uuid) (identityRevision : Int)
  | email (identityId : Uuid) (identityRevision : Int)

/-- the check constraint on an intent: a link keeps the primary source, a merge of two users
names it -/
def MutationOperation.Admits : MutationOperation → PrimarySource → Prop
  | link _, source => source = .preserve
  | unlink _, _ => True
  | merge winner loser, source =>
    winner.userId ≠ loser.userId ∧ source ≠ .preserve ∧ source ≠ .clear

structure MutationIntent where
  (id projectId : Uuid)
  operation : MutationOperation
  status : MutationStatus
  (intentRevision projectMetadataRevision projectSecurityRevision : Int)
  primarySource : PrimarySource
  expiresAt : Instant
  terminalAt : Option Instant
  admitted : operation.Admits primarySource

instance : Keyed MutationIntent Uuid := ⟨MutationIntent.id⟩

inductive MutationSlotRole
  | destinationOwner | candidateIdentity | identityOwner | winnerOwner | loserOwner
  deriving DecidableEq

inductive MutationSlotState
  | pending | providerAuthorizationStarted | providerExchangeInProgress | providerExchangeFailed
  | emailAddressEntry | emailChallengePending | proved | expired
  deriving DecidableEq

/-- the identity whose control a slot proves, where it exists already -/
inductive ExistingIdentity
  | provider (identityId : Uuid) (identityRevision : Int)
  | email (identityId : Uuid) (identityRevision : Int)

structure SlotProvider where
  configurationId : Uuid
  (revision assignmentSecurityRevision : Int)
  secretMaterialId : Uuid
  egressPolicyRevision : Option Int
  adapterKey : String
  adapterCapabilityRevision : Int

structure SlotEmail where
  (policyRevision securityRevision assignmentSecurityRevision : Int)

inductive SlotMethod
  | provider (authority : SlotProvider)
  | email (authority : SlotEmail)

structure MutationSlot where
  (id projectId intentId : Uuid)
  role : MutationSlotRole
  proofUserId : Uuid
  (expectedUserRevision expectedUserSecurityRevision : Int)
  existing : Option ExistingIdentity
  applicationId : Uuid
  applicationSecurityRevision : Int
  method : SlotMethod
  state : MutationSlotState
  slotRevision : Int
  (provedAt terminalAt : Option Instant)

instance : Keyed MutationSlot Uuid := ⟨MutationSlot.id⟩

inductive ReceiptStatus
  | issued | consumed | expired
  deriving DecidableEq

structure ProofReceipt where
  (id projectId intentId slotId : Uuid)
  status : ReceiptStatus
  expiresAt : Instant
  consumedAt : Option Instant

instance : Keyed ProofReceipt Uuid := ⟨ProofReceipt.id⟩

inductive CandidateKind
  | provider | email
  deriving DecidableEq

/-- the sealed identity a link is to add; the digest binds the sealed content -/
structure CandidateEvidence where
  (id projectId intentId slotId : Uuid)
  identityKind : CandidateKind
  candidateRevision : Int
  digest : VersionedDigest

instance : Keyed CandidateEvidence Uuid := ⟨CandidateEvidence.id⟩

/-! ## sessions -/

structure ApplicationSession where
  (id projectId applicationId userId bindingId : Uuid)
  browserSessionId : Option Uuid
  status : SessionStatus
  (sessionRevision projectSecurityRevision applicationSecurityRevision userSecurityRevision : Int)
  (claimsRevision policySessionRevision : Int)
  (authenticatedAt absoluteExpiresAt : Instant)
  revokedAt : Option Instant

instance : Keyed ApplicationSession Uuid := ⟨ApplicationSession.id⟩

structure RefreshFamily where
  (id projectId applicationId userId applicationSessionId : Uuid)
  status : SessionStatus
  (familyRevision currentGeneration allowedClockSkewSeconds : Int)
  absoluteExpiresAt : Instant
  revokedAt : Option Instant
  revocationReason : Option RevocationReason

instance : Keyed RefreshFamily Uuid := ⟨RefreshFamily.id⟩

structure RefreshTokenGeneration where
  (id projectId familyId applicationId userId : Uuid)
  generation : Int
  token : VersionedDigest
  status : GenerationStatus
  (consumedAt replayDetectedAt : Option Instant)
  retainUntil : Instant

instance : Keyed RefreshTokenGeneration Uuid := ⟨RefreshTokenGeneration.id⟩

/-! ## projections -/

structure ApplicationUserBinding where
  (id projectId applicationId userId : Uuid)
  status : MemberStatus
  bindingRevision : Int
  mergedIntoBindingId : Option Uuid
  mergedAt : Option Instant

instance : Keyed ApplicationUserBinding Uuid := ⟨ApplicationUserBinding.id⟩

/-- the JSON document of a projection; the schema name is the constant `owlauth.user.v1` -/
structure ProjectionDocument where
  profile : Profile
  verifiedEmail : Option String
  projectionRevision : Int
  status : MemberStatus
  userId : String
  userRevision : Int
  (createdAt updatedAt : Instant)
  deriving DecidableEq

structure ApplicationUserProjection where
  (id projectId bindingId applicationId userId : Uuid)
  (projectionRevision sourceUserRevision : Int)
  (canonicalDigest sourceBaseProfileDigest : Digest)
  verifiedEmailSourceIdentityId : Option Uuid
  verifiedEmailCiphertext : Option (List UInt8)
  verifiedEmailKeyVersion : Option Int
  document : ProjectionDocument
  (createdAt updatedAt : Instant)

instance : Keyed ApplicationUserProjection Uuid := ⟨ApplicationUserProjection.id⟩

/-! ## signing -/

structure KeyRing where
  (id projectId : Uuid)
  (issuer purpose algorithm : String)
  (revision signingEpoch : Int)

instance : Keyed KeyRing Uuid := ⟨KeyRing.id⟩

structure SigningKey where
  (id projectId ringId : Uuid)
  kid : String
  publicJwk : Jwk
  signerMaterialId : Uuid
  signerMaterialGeneration : Int
  state : KeyState
  ringRevision : Int
  (provisionedAt publishedAt activatedAt signNotBefore retiringAt verifyNotAfter : Option Instant)
  (maintenanceClaimedAt retiredAt revokedAt : Option Instant)

instance : Keyed SigningKey Uuid := ⟨SigningKey.id⟩

structure KeyProvisioningOperation where
  (id projectId ringId keyId : Uuid)
  operationAlias : String
  requestDigest : List UInt8
  state : ProvisioningOperationState
  (attemptCount expectedProjectRevision expectedRingRevision : Int)
  maintenanceClaimedAt : Option Instant
  materialId : Uuid
  providerLeaseToken : Option Uuid
  providerLeaseExpiresAt : Option Instant
  (providerLeaseGeneration destroyAttemptCount : Int)
  nextAttemptAt : Option Instant
  lastProviderErrorClass : Option ProviderErrorClass
  lastRetryClassification : Option RetryClassification
  lastProviderErrorCode : Option String
  (abandonedAt destroyedAt lastAttemptAt completedAt : Option Instant)

instance : Keyed KeyProvisioningOperation Uuid := ⟨KeyProvisioningOperation.id⟩

/-- a secret held by a custody provider: the opaque handle, never the secret itself -/
structure ProtectedMaterial where
  id : Uuid
  projectId : Option Uuid
  ownerKind : MaterialOwnerKind
  ownerId : Uuid
  generation : Int
  materialKind : MaterialKind
  providerId : String
  providerFormatVersion : Int
  opaqueValue : Option (List UInt8)
  safeFingerprint : Option Digest
  state : ProtectedMaterialState
  erasedAt : Option Instant

instance : Keyed ProtectedMaterial Uuid := ⟨ProtectedMaterial.id⟩

/-! ## webhooks -/

/-- the JSON body of an event around the projection it carries -/
structure EventBody where
  eventId : Uuid
  eventType : ApplicationUserEventType
  (projectId applicationId userId : String)
  (userRevision projectionRevision : Int)
  occurredAt : Instant
  projection : ProjectionDocument
  deriving DecidableEq

structure ApplicationUserEvent where
  (id projectId applicationId bindingId userId : Uuid)
  eventType : ApplicationUserEventType
  (userRevision projectionRevision : Int)
  safeBody : EventBody
  canonicalBodyDigest : Digest
  verifiedEmailSourceIdentityId : Option Uuid
  verifiedEmailCiphertext : Option (List UInt8)
  verifiedEmailKeyVersion : Option Int
  (occurredAt replayUntil retainUntil : Instant)

instance : Keyed ApplicationUserEvent Uuid := ⟨ApplicationUserEvent.id⟩

structure WebhookEndpoint where
  (id projectId applicationId : Uuid)
  idempotencyKey : String
  secretRequestFingerprint : List UInt8
  url : String
  subscribedEventTypes : List ApplicationUserEventType
  status : EndpointStatus
  revision : Int
  (currentSecretGeneration overlapSecretGeneration : Option Int)
  overlapExpiresAt : Option Instant
  consecutiveFailureCount : Int
  (lastDeliveryAt lastSuccessAt : Option Instant)
  lastFailureClass : Option String
  (lastTestedAt lastTestSucceededAt : Option Instant)
  disabledAt : Option Instant

instance : Keyed WebhookEndpoint Uuid := ⟨WebhookEndpoint.id⟩

inductive SecretState
  | pending | active | overlap | retired | compromised
  deriving DecidableEq

structure WebhookSecretGeneration where
  endpointId : Uuid
  generation : Int
  idempotencyKey : String
  requestFingerprint : List UInt8
  safeFingerprint : Option String
  materialId : Uuid
  state : SecretState
  (provisionedAt activatedAt retiredAt : Option Instant)

instance : Keyed WebhookSecretGeneration (Uuid × Int) := ⟨fun s => (s.endpointId, s.generation)⟩

inductive SecretCleanupState
  | pending | leased | erased
  deriving DecidableEq

structure WebhookSecretCleanup where
  (id endpointId : Uuid)
  generation : Int
  materialId : Uuid
  state : SecretCleanupState
  leaseOwner : Option String
  leaseIncarnation : Option Uuid
  leaseGeneration : Int
  leaseExpiresAt : Option Instant
  (notBefore createdAt : Instant)
  erasedAt : Option Instant

instance : Keyed WebhookSecretCleanup Uuid := ⟨WebhookSecretCleanup.id⟩

structure DispatchState where
  (projectId applicationId : Uuid)
  lastClaimSequence : Int

instance : Keyed DispatchState (Uuid × Uuid) := ⟨fun s => (s.projectId, s.applicationId)⟩

structure WebhookDelivery where
  (id projectId applicationId endpointId eventId : Uuid)
  replaySequence : Int
  replayOfDeliveryId : Option Uuid
  state : DeliveryState
  attemptCount : Int
  nextAttemptAt : Instant
  leaseOwner : Option String
  leaseIncarnation : Option Uuid
  leaseGeneration : Int
  leaseExpiresAt : Option Instant
  (claimedSecretGeneration claimedOverlapGeneration : Option Int)
  (claimedSecretMaterialId claimedOverlapMaterialId : Option Uuid)
  lastOutcomeClass : Option String
  lastHttpStatus : Option Int
  (createdAt updatedAt : Instant)
  (deliveredAt terminalAt : Option Instant)

instance : Keyed WebhookDelivery Uuid := ⟨WebhookDelivery.id⟩

structure WebhookDeliveryAttempt where
  deliveryId : Uuid
  (attemptNumber leaseGeneration : Int)
  attemptedAt : Instant
  attemptTimestamp : Int
  outcomeClass : String
  httpStatus : Option Int
  durationMillis : Int
  correlationId : Uuid

instance : Keyed WebhookDeliveryAttempt (Uuid × Int) := ⟨fun a => (a.deliveryId, a.attemptNumber)⟩

end OwlAuth
