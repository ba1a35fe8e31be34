import OwlAuth.Base.Pool
import OwlAuth.Managed.Invariants
import OwlAuth.System.Calls

/-!
# Workers on managed connections

A worker runs from transaction to transaction with a call to the provider in between, and may vanish
at any point (`Pool`).  Every other call to the repositories is made in between as well, in any
order; what carries a worker's memory is called by that worker only.

* `Task`  where a worker is: `renew_one`, `revoke_one`, `rewrap_one` and the end of a
    reauthorization, cut where they wait for a transaction or for the provider;
* `Request.enter`  a call, or a worker that starts;
* `Task.advance`  the next step of a worker, with at most one transaction;
* `Sent`  a credential that is handed to the provider to be renewed;
* `Deployment.step`  one move of the deployment.
-/

namespace OwlAuth

open Fallible

/-! ## the provider -/

structure ManagedProfileCapability where
  adapterKey : String
  adapterRevision : Int
  exactScopes : List String
  (providerPkceRequired oidcNonceRequired readRetrySafe supportsRevocation : Bool)

/-- the scopes asked for, each once -/
def ManagedProfileCapability.scopesMatch (c : ManagedProfileCapability) (returned : List String) :
    Bool :=
  decide returned.Nodup && returned.isPerm c.exactScopes

structure ManagedProfileAdapter where
  /-- a renewal may be sent again under its attempt id -/
  replayable : Bool
  capabilityFor : ProviderKind → Option ManagedProfileCapability

inductive ProviderRenewalResult
  | success (renewable : RenewableCredential) (grantedScopes : List String)
  | transientBeforeDispatch
  | ambiguousAfterDispatch
  | invalidGrant
  | scopeLost
  | authoritativelyRevoked

inductive ProviderReadError
  | transient | ambiguous | invalidCredential | authoritativelyRevoked | invalidProfile

structure ReadProfile where
  profile : Profile
  observedAt : Instant

structure ExchangedIdentity where
  (issuer subject : String)
  renewable : Option RenewableCredential
  grantedScopes : List String
  supportsRevocation : Bool
  profile : Option ReadProfile

/-! ## tasks -/

structure RenewalWork where
  renewal : PreparedRenewal
  capability : ManagedProfileCapability
  /-- a renewal found submitted may be sent again -/
  canReplay : Bool

inductive Task
  | renewing (w : RenewalWork)
  | dispatching (w : RenewalWork) (credential : RenewableCredential)
  | answered (w : RenewalWork) (result : ProviderRenewalResult)
  | fenced (w : RenewalWork)
  | profiling (claim : SuccessorProfileClaim) (readRetrySafe : Bool)
  | revoking (claim : ClaimedManagedCredential) (supported : Bool)
  | calling (claim : ClaimedManagedCredential) (credential : RenewableCredential)
  | revoked (claim : ClaimedManagedCredential) (result : ProviderRevocationResult)
  | rewrapping (claim : ClaimedManagedCredential) (target : Int)
  | exchanging (record : ReauthorizationRecord)
  | failing (record : ReauthorizationRecord)
  | reauthorized (guard : ConnectionGuard) (profile : Option ReadProfile)

structure Sent where
  renewal : PreparedRenewal
  credential : RenewableCredential

abbrev WorkerOutcome := Pool.Outcome Database Task Sent

/-- a worker makes a call and goes on with its answer; an error ends it -/
def WorkerOutcome.after {α : Type} (db : Database) (body : Tx (Committed α))
    (next : α → List Task) : WorkerOutcome :=
  ⟨execute db body,
    match answer body with
    | .ok a => next a
    | .error _ => [],
    []⟩

def WorkerOutcome.stop (db : Database) : WorkerOutcome := ⟨db, [], []⟩

/-! ## requests -/

inductive Request
  | call (c : Call)
  | renew (env : Environment) (adapter : ManagedProfileAdapter) (pick : RenewalPick)
      (workerId : Uuid) (now leaseUntil : Instant)
  | revoke (adapter : ManagedProfileAdapter) (c : ClaimConnection)
  | rewrap (c : ClaimConnection) (target : Int)
  | completeCallback (interactionId : Uuid) (c : ReauthorizationCallback)

def Call.carries (c : Call) : Bool :=
  match c.op with
  | .managed o => o.carries
  | _ => false

/-- the capability of the provider, if the adapter has one -/
def renewalTask (adapter : ManagedProfileAdapter) (renewal : PreparedRenewal) : List Task :=
  match adapter.capabilityFor renewal.claim.guard.providerKind with
  | none => []
  | some capability =>
    [.renewing ⟨renewal, capability, adapter.replayable && renewal.adapterIdempotentReplay⟩]

def adapterMatches (guard : ConnectionGuard) (capability : ManagedProfileCapability) : Bool :=
  decide (guard.adapterKey = capability.adapterKey
    ∧ guard.adapterCapabilityRevision = capability.adapterRevision)

def revocationTask (adapter : ManagedProfileAdapter) (claim : ClaimedManagedCredential) :
    List Task :=
  match adapter.capabilityFor claim.guard.providerKind with
  | none => []
  | some capability =>
    [.revoking claim (capability.supportsRevocation && adapterMatches claim.guard capability)]

/-- only a claimed callback is exchanged -/
def callbackTask : ClaimManagedReauthorization → List Task
  | .claimed record => [.exchanging record]
  | .duplicate _ => []
  | .terminalizedStaleAuthority => []

def Request.enter (db : Database) : Request → WorkerOutcome
  | call c => ⟨if c.carries then db else OwlAuth.step c db, [], []⟩
  | renew env adapter pick workerId now leaseUntil =>
    .after db
      (prepareNextRenewal env ⟨pick, workerId, now, leaseUntil, adapter.replayable⟩ db)
      fun renewal => renewal.elim [] (renewalTask adapter)
  | revoke adapter c =>
    .after db (claimConnection c .revocation db) fun claim => claim.elim [] (revocationTask adapter)
  | rewrap c target =>
    .after db (claimConnection c (.rewrap target) db)
      fun claim => claim.elim [] fun claim => [.rewrapping claim target]
  | completeCallback interactionId c =>
    .after db (claimReauthorizationCallback interactionId c db) callbackTask

/-! ## steps of a worker -/

/-- what a worker meets on its next step -/
structure Input where
  env : Environment
  now : Instant
  /-- when to try again, or when the next profile is due -/
  later : Instant
  /-- the key versions the replica retains, and the one it seals with -/
  readable : List Int
  keyVersion : Int
  capability : Option ManagedProfileCapability
  renewal : ProviderRenewalResult
  revocation : ProviderRevocationResult
  read : Except ProviderReadError ReadProfile
  /-- everything up to the provider's answer went well -/
  exchanged : Option ExchangedIdentity

def endRenewal (w : RenewalWork) (outcome : String) (now : Instant) (db : Database) :
    WorkerOutcome :=
  .after db (terminalizeRenewal w.renewal .reauthRequired outcome now db) fun _ => []

variable (i : Input)

/-- `renew_one` up to the call of the provider -/
def submitRenewal (w : RenewalWork) (db : Database) : WorkerOutcome :=
  let r := w.renewal
  if adapterMatches r.claim.guard w.capability = false then
    endRenewal w "renewal_adapter_stale" i.now db
  else if r.operationState = .submitted ∧ r.authorityValid = false then
    endRenewal w "renewal_authority_stale" i.now db
  else if r.operationState = .submitted ∧ w.canReplay = false then
    endRenewal w "submitted_response_ambiguous" i.now db
  else
    match unprotectCredential i.readable (contextFor r.claim.guard) r.claim.value with
    | .error _ =>
      .after db (releasePreparedFailure r "local_credential_unavailable" i.later db) fun _ => []
    | .ok credential =>
      if r.operationState = .prepared then
        .after db (markRenewalSubmitted r i.now db)
          fun submitted => if submitted then [.dispatching w credential] else []
      else ⟨db, [.dispatching w credential], []⟩

/-- `renew_one` after the provider answered -/
def finishRenewal (w : RenewalWork) (db : Database) :
    ProviderRenewalResult → WorkerOutcome
  | .success renewable grantedScopes =>
    if w.capability.scopesMatch grantedScopes then
      .after db
        (commitRenewalSuccessor w.renewal
          (protectCredential i.keyVersion (successorContext w.renewal.claim.guard) renewable)
          i.now db)
        fun
          | none => [.fenced w]
          | some claim => [.profiling claim w.capability.readRetrySafe]
    else endRenewal w "required_scope_lost" i.now db
  | .transientBeforeDispatch =>
    if w.canReplay then .stop db else endRenewal w "submitted_prerequisite_failed" i.now db
  | .ambiguousAfterDispatch =>
    if w.canReplay then .stop db else endRenewal w "renewal_ambiguous" i.now db
  | .invalidGrant => endRenewal w "invalid_grant" i.now db
  | .scopeLost => endRenewal w "required_scope_lost" i.now db
  | .authoritativelyRevoked => endRenewal w "provider_confirmed_revocation" i.now db

def readOutcome : ProviderReadError → String
  | .transient => "read_transient"
  | .ambiguous => "read_ambiguous"
  | .invalidProfile => "read_invalid_profile"
  | .invalidCredential => "read_invalid_credential"
  | .authoritativelyRevoked => "read_confirmed_revocation"

def finishTransientProfile (claim : SuccessorProfileClaim) (db : Database) : WorkerOutcome :=
  match i.read with
  | .ok p =>
    .after db (commitProfileForGuard i.env
      ⟨claim.guard, some (claim.leaseOwner, claim.leaseExpiresAt), p.profile, p.observedAt, i.later,
        i.now⟩ db) fun _ => []
  | .error .invalidCredential =>
    .after db (fenceSuccessorReadEvidence claim false (readOutcome .invalidCredential) i.now db)
      fun _ => []
  | .error .authoritativelyRevoked =>
    .after db
      (fenceSuccessorReadEvidence claim true (readOutcome .authoritativelyRevoked) i.now db)
      fun _ => []
  | .error e =>
    .after db (finishSuccessorProfileFailure claim (readOutcome e) i.later i.now db) fun _ => []

/-- `revoke_one` up to the call of the provider -/
def dispatchRevocation (claim : ClaimedManagedCredential) (supported : Bool) (db : Database) :
    WorkerOutcome :=
  if supported then
    match unprotectCredential i.readable (contextFor claim.guard) claim.value with
    | .error _ => .after db (releaseRevocationClaim claim db) fun _ => []
    | .ok credential =>
      .after db (markRevocationDispatched claim i.now db)
        fun dispatched => if dispatched then [.calling claim credential] else []
  else
    .after db (markRevocationDispatched claim i.now db)
      fun dispatched => if dispatched then [.revoked claim .ambiguous] else []

/-- `rewrap_one` after the claim -/
def rewrapCredential (claim : ClaimedManagedCredential) (target : Int) (db : Database) :
    WorkerOutcome :=
  match unprotectCredential i.readable (contextFor claim.guard) claim.value with
  | .error _ => .stop db
  | .ok plaintext =>
    let value := protectCredential i.keyVersion (contextFor claim.guard) plaintext
    if value.keyVersion = target then
      .after db (finishRewrap claim claim.value.keyVersion value i.now db) fun _ => []
    else .stop db

def ManagedProfileCapability.matchesRecord (c : ManagedProfileCapability)
    (record : ReauthorizationRecord) : Bool :=
  let f := record.interaction.frozen
  decide (c.adapterKey = f.adapterKey ∧ c.adapterRevision = f.adapterRevision
    ∧ c.exactScopes = f.requiredScopes ∧ c.providerPkceRequired = f.providerPkceRequired
    ∧ c.oidcNonceRequired = f.oidcNonceRequired
    ∧ (record.interaction.supportsRevocation = true → c.supportsRevocation = true))

variable (record : ReauthorizationRecord)

/-- `validate_identity`: the same identity, with exactly the scopes asked for -/
def validateIdentity (identity : ExchangedIdentity) : Bool :=
  let f := record.interaction.frozen
  decide (identity.issuer = f.issuer ∧ identity.subject = f.subject
    ∧ identity.grantedScopes.Nodup
    ∧ identity.supportsRevocation = record.interaction.supportsRevocation)
    && identity.grantedScopes.isPerm f.requiredScopes

/-- the credential an exchange brought, if it is one of the interaction's identity -/
def acceptedCredential : Option (RenewableCredential × ExchangedIdentity) := do
  let capability ← i.capability
  guard (capability.matchesRecord record = true)
  guard (record.interaction.frozen.providerKind = .oidc → record.egressPolicy = true)
  let identity ← i.exchanged
  guard (validateIdentity record identity = true)
  let credential ← identity.renewable
  pure (credential, identity)

/-- `exchange_and_complete`: whatever goes wrong fails the interaction -/
def exchangeAndComplete (db : Database) : WorkerOutcome :=
  match acceptedCredential i record with
  | none => ⟨db, [.failing record], []⟩
  | some (credential, identity) =>
    let body := completeReauthorizationCallback record
      (protectCredential i.keyVersion (reauthorizedContext record.interaction.frozen) credential)
      i.now db
    ⟨execute db body,
      match answer body with
      | .ok guard => [.reauthorized guard identity.profile]
      | .error _ => [.failing record],
      []⟩

def Task.advance (db : Database) : Task → WorkerOutcome
  | renewing w => submitRenewal i w db
  | dispatching w credential => ⟨db, [.answered w i.renewal], [⟨w.renewal, credential⟩]⟩
  | answered w result => finishRenewal i w db result
  | fenced w => endRenewal w "successor_commit_fenced" i.now db
  | profiling claim readRetrySafe =>
    if readRetrySafe then finishTransientProfile i claim db
    else .after db (finishSuccessorWithoutProfile claim i.now db) fun _ => []
  | revoking claim supported => dispatchRevocation i claim supported db
  | calling claim _ => ⟨db, [.revoked claim i.revocation], []⟩
  | revoked claim result => .after db (finishRevocation claim result i.now db) fun _ => []
  | rewrapping claim target => rewrapCredential i claim target db
  | exchanging record => exchangeAndComplete i record db
  | failing record => .after db (failReauthorizationCallback record i.now db) fun _ => []
  | reauthorized guard profile =>
    match profile with
    | none => .stop db
    | some p =>
      .after db (commitProfileForGuard i.env ⟨guard, none, p.profile, p.observedAt, i.later, i.now⟩
        db) fun _ => []

/-! ## the deployment -/

abbrev Deployment := Pool.State Database Task

abbrev DeploymentMove := Pool.Move Request Input

def Deployment.step (m : DeploymentMove) (d : Deployment) : Deployment :=
  Pool.step (fun (r : Request) db => r.enter db) (fun i (t : Task) db => t.advance i db) m d

/-- the credentials the move hands to a provider -/
def Deployment.sent (m : DeploymentMove) (d : Deployment) : List Sent :=
  Pool.said (fun (r : Request) db => r.enter db) (fun i (t : Task) db => t.advance i db) m d

def Deployment.run (d : Deployment) (moves : List DeploymentMove) : Deployment :=
  Machine.run Deployment.step d moves

structure Deployment.Fresh (d : Deployment) : Prop where
  connections : d.store.managedConnections.rows = []
  credentials : d.store.managedCredentials.rows = []
  operations : d.store.renewalOperations.rows = []
  interactions : d.store.reauthorizations.rows = []
  tasks : d.tasks = []

end OwlAuth
