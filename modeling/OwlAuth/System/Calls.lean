import OwlAuth.Managed.Operations
import OwlAuth.Mutation.Confirmed
import OwlAuth.Mutation.Proofs
import OwlAuth.Signing.Step
import OwlAuth.Webhook.Step

/-!
# The system

A run is any sequence of calls to the repositories, by any number of clients, workers and replicas.
Each call is one transaction under the lock of its project, so a call is one step; it brings its
own clock, its own random identifiers and its own arguments, none of which is constrained.

* `Op`, `Call`  a call: its repository function with its arguments, and its environment;
* `step`  what the call leaves behind; a rollback leaves the database as it was;
* `LoginOp.step_login`, `CompletionOp.step_completion`, `SessionOp.step_session`,
  `ConfigurationOp.step_owner`, `UserOp.step_user`, `RevocationOp.step_revocation`,
  `SigningOp.step_signing`, `WebhookOp.step_webhook`, `MutationOp.step_mutation`, `MailOp.frame`,
  `step_confirmation`, `ManagedOp.step_managed`
    what the calls of one area can do;
* `step_only`  no call touches a table outside its area.
-/

namespace OwlAuth

open Fallible Table

/-- the calls that move a login without ending it -/
inductive LoginOp
  | createLoginTransaction (c : CreateLoginTransaction)
  | bindHostedBrowser (c : BindHostedBrowser)
  | selectProviderMethod (c : SelectProviderMethod)
  | claimProviderCallback (c : ClaimProviderCallback)
  | denyProviderCallback (c : DenyProviderCallback)
  | failProviderExchange (c : FailProviderExchange)
  | recoverAbandonedProviderExchanges (c : RecoverProviderExchanges)
  | selectEmailMethod (c : SelectEmailMethod)
  | commitEmailGeneration (c : CommitEmailGeneration)
  | establishMagicTransferContext (c : EstablishMagicTransferContext)
  | verifyEmailProof (c : VerifyEmailProof)

/-- the calls that end a login with a handoff ticket -/
inductive CompletionOp
  | completeAuthenticatedIdentity (c : CompleteAuthenticatedIdentity)
  | confirmBrowserSessionReuse (c : ConfirmBrowserSessionReuse)
  | completeEmailProof (c : CompleteEmailProof)

/-- the calls of applications and their users on tickets, sessions and tokens -/
inductive SessionOp
  | prepareHandoffExchange (c : PrepareHandoffExchange)
  | commitHandoffExchange (c : CommitHandoffExchange)
  | prepareRefreshRotation (c : PrepareRefreshRotation)
  | rotateRefreshToken (c : RotateRefreshToken)
  | logoutApplicationSession (c : LogoutApplicationSession)
  | prepareBrowserLogout (c : PrepareBrowserLogout)
  | bindBrowserLogout (c : BindBrowserLogout)
  | confirmBrowserLogout (c : ConfirmBrowserLogout)
  | currentSession (c : AccessTokenSessionLookup) (allowRevoked : Bool)

/-- the Control calls on projects, applications and policies -/
inductive ConfigurationOp
  | updateProjectPolicy (projectId : Uuid) (c : UpdateProjectPolicy)
  | updateProject (projectId : Uuid) (expectedMetadataRevision : Int)
  | disableProject (projectId : Uuid) (expectedSecurityRevision : Int)
  | enableProject (projectId : Uuid) (expectedSecurityRevision : Int)
  | deleteProject (projectId : Uuid) (expectedSecurityRevision : Int) (now : Instant)
  | updateApplication (projectId applicationId : Uuid) (c : UpdateApplication)
  | replaceApplicationConfiguration (projectId applicationId : Uuid)
      (c : ReplaceApplicationConfiguration)
  | disableApplication (projectId applicationId : Uuid) (expectedSecurityRevision : Int)
      (now : Instant)

inductive UserOp
  | disableProjectUser (c : ChangeProjectUser)
  | enableProjectUser (c : ChangeProjectUser)

inductive RevocationOp
  | revokeApplicationSession (c : RevokeSession)
  | revokeBrowserSession (c : RevokeSession)

/-- the calls on signing keys, by operators and by the workers that call the custody provider -/
inductive SigningOp
  | prepareSigningKey (c : PrepareSigningKey)
  | claimSigningProviderAction (c : ClaimSigningProviderAction)
  | recordSigningProviderFailure (c : RecordSigningProviderFailure)
  | recordSigningProviderAbsence (c : LeasedSigningCall)
  | queueSigningProviderCleanup (c : LeasedSigningCall)
  | completeSigningProviderCleanup (c : CompleteSigningProviderCleanup)
  | recordProtectedSigningKeyMaterial (c : RecordSigningKeyMaterial)
  | publishSigningKey (c : PublishSigningKey)
  | activateSigningKeyIfReady (c : ChangeSigningKey)
  | retireSigningKey (c : ChangeSigningKey)
  | revokeSigningKey (c : ChangeSigningKey)

/-- the calls on webhook endpoints, secrets and deliveries, by operators and by workers -/
inductive WebhookOp
  | prepareEndpoint (c : PrepareWebhookEndpoint)
  | recordEndpointTestSuccess (c : ChangeWebhookEndpoint)
  | activatePreparedEndpoint (c : ChangeWebhookEndpoint)
  | updateEndpoint (c : UpdateWebhookEndpoint)
  | disableEndpoint (c : ChangeWebhookEndpoint)
  | retireOneDisabledOwnerEndpoint (c : MaintainWebhookEndpoint)
  | prepareSecretRotation (c : PrepareWebhookRotation)
  | finalizeProtectedSecret (c : FinalizeProtectedSecret)
  | activateSecretRotation (c : ActivateSecretRotation)
  | retireOneExpiredOverlap (c : MaintainWebhookEndpoint)
  | claimSecretCleanup (c : ClaimSecretCleanup)
  | finishSecretCleanup (c : FinishSecretCleanup)
  | replayDelivery (c : ReplayDelivery)
  | claimOne (c : ClaimOne)
  | finish (c : FinishDelivery)
  | recoverOneExpiredDelivery (c : RecoverDelivery)
  | maintain (c : MaintainWebhooks)

inductive MutationOp
  | terminalizeDueIdentityMutations (limit : Nat) (due : List Uuid)
  | cancelIdentityMutation (c : CancelIdentityMutation)
  | commitIdentityMutationEmailGeneration (c : CommitIdentityMutationEmailGeneration)
  | createIdentityMutation (c : CreateIdentityMutation)
  | bindMutationBrowser (intentId : Uuid)
  | startMutationProvider (c : MutationSlotCall)
  | claimMutationCallback (intentId slotId : Uuid)
  | denyMutationCallback (intentId slotId : Uuid)
  | failMutationCallback (c : MutationSlotCall)
  | completeMutationCallback (c : CompleteMutationCallback)
  | beginMutationEmail (c : MutationSlotCall)
  | verifyMutationEmailProof (v : VerifyMutationEmailProof)
  | completeMutationEmailProof (c : CompleteMutationEmailProof)
  | confirmMutationReady (intentId : Uuid) (expectedRevision : Int)

/-- the calls of the workers that send mail, and the Control calls on what they send it with -/
inductive MailOp
  | claimDueMail (c : ClaimDueMail)
  | finishMailAttempt (c : FinishMailAttempt)
  | maintainShortTermData (c : MaintainShortTermData)
  | changeMailAuthority (c : ChangeMailAuthority)

inductive Op
  | login (o : LoginOp)
  | completion (o : CompletionOp)
  | session (o : SessionOp)
  | configuration (o : ConfigurationOp)
  | user (o : UserOp)
  | revocation (o : RevocationOp)
  | signing (o : SigningOp)
  | webhook (o : WebhookOp)
  | mutation (o : MutationOp)
  | mail (o : MailOp)
  | confirmation (c : PreparedIdentityMutationConfirmation)
  | managed (o : ManagedOp)

structure Call where
  env : Environment
  op : Op

def LoginOp.step (env : Environment) (db : Database) : LoginOp → Database
  | createLoginTransaction c => execute db (OwlAuth.createLoginTransaction c db)
  | bindHostedBrowser c => execute db (OwlAuth.bindHostedBrowser c db)
  | selectProviderMethod c => execute db (OwlAuth.selectProviderMethod c db)
  | claimProviderCallback c => execute db (OwlAuth.claimProviderCallback c db)
  | denyProviderCallback c => execute db (OwlAuth.denyProviderCallback c db)
  | failProviderExchange c => execute db (OwlAuth.failProviderExchange c db)
  | recoverAbandonedProviderExchanges c =>
    execute db (OwlAuth.recoverAbandonedProviderExchanges c db)
  | selectEmailMethod c => execute db (OwlAuth.selectEmailMethod c db)
  | commitEmailGeneration c => execute db (OwlAuth.commitEmailGeneration env c db)
  | establishMagicTransferContext c => execute db (OwlAuth.establishMagicTransferContext c db)
  | verifyEmailProof c => execute db (OwlAuth.verifyEmailProof c db)

def CompletionOp.step (env : Environment) (db : Database) : CompletionOp → Database
  | completeAuthenticatedIdentity c =>
    execute db (OwlAuth.completeAuthenticatedIdentity env c db)
  | confirmBrowserSessionReuse c => execute db (OwlAuth.confirmBrowserSessionReuse c db)
  | completeEmailProof c => execute db (OwlAuth.completeEmailProof env c db)

def SessionOp.step (env : Environment) (db : Database) : SessionOp → Database
  | prepareHandoffExchange c => execute db (OwlAuth.prepareHandoffExchange env c db)
  | commitHandoffExchange c => execute db (OwlAuth.commitHandoffExchange env c db)
  | prepareRefreshRotation c => execute db (OwlAuth.prepareRefreshRotation env c db)
  | rotateRefreshToken c => execute db (OwlAuth.rotateRefreshToken env c db)
  | logoutApplicationSession c => execute db (OwlAuth.logoutApplicationSession c db)
  | prepareBrowserLogout c => execute db (OwlAuth.prepareBrowserLogout c db)
  | bindBrowserLogout c => execute db (OwlAuth.bindBrowserLogout c db)
  | confirmBrowserLogout c => execute db (OwlAuth.confirmBrowserLogout c db)
  | currentSession c allowRevoked => execute db (OwlAuth.currentSession env c allowRevoked db)

def ConfigurationOp.step (env : Environment) (db : Database) : ConfigurationOp → Database
  | updateProjectPolicy p c => execute db (OwlAuth.updateProjectPolicy p c db)
  | updateProject p revision => execute db (OwlAuth.updateProject p revision db)
  | disableProject p revision => execute db (OwlAuth.disableProject p revision db)
  | enableProject p revision => execute db (OwlAuth.enableProject p revision db)
  | deleteProject p revision now => execute db (OwlAuth.deleteProject p revision now db)
  | updateApplication p a c => execute db (OwlAuth.updateApplication p a c db)
  | replaceApplicationConfiguration p a c =>
    execute db (OwlAuth.replaceApplicationConfiguration p a c db)
  | disableApplication p a revision now =>
    execute db (OwlAuth.disableApplication env p a revision now db)

def UserOp.step (env : Environment) (db : Database) : UserOp → Database
  | disableProjectUser c => execute db (OwlAuth.disableProjectUser env c db)
  | enableProjectUser c => execute db (OwlAuth.enableProjectUser env c db)

def RevocationOp.step (db : Database) : RevocationOp → Database
  | revokeApplicationSession c => execute db (OwlAuth.revokeApplicationSession c db)
  | revokeBrowserSession c => execute db (OwlAuth.revokeBrowserSession c db)

def SigningOp.step (env : Environment) (db : Database) : SigningOp → Database
  | prepareSigningKey c => execute db (OwlAuth.prepareSigningKey env c db)
  | claimSigningProviderAction c => execute db (OwlAuth.claimSigningProviderAction env c db)
  | recordSigningProviderFailure c => execute db (OwlAuth.recordSigningProviderFailure env c db)
  | recordSigningProviderAbsence c => execute db (OwlAuth.recordSigningProviderAbsence env c db)
  | queueSigningProviderCleanup c => execute db (OwlAuth.queueSigningProviderCleanup env c db)
  | completeSigningProviderCleanup c =>
    execute db (OwlAuth.completeSigningProviderCleanup env c db)
  | recordProtectedSigningKeyMaterial c =>
    execute db (OwlAuth.recordProtectedSigningKeyMaterial env c db)
  | publishSigningKey c => execute db (OwlAuth.publishSigningKey c db)
  | activateSigningKeyIfReady c => execute db (OwlAuth.activateSigningKeyIfReady env c db)
  | retireSigningKey c => execute db (OwlAuth.retireSigningKey env c db)
  | revokeSigningKey c => execute db (OwlAuth.revokeSigningKey env c db)

def WebhookOp.step (env : Environment) (db : Database) : WebhookOp → Database
  | prepareEndpoint c => execute db (OwlAuth.prepareEndpoint env c db)
  | recordEndpointTestSuccess c => execute db (OwlAuth.recordEndpointTestSuccess c db)
  | activatePreparedEndpoint c => execute db (OwlAuth.activatePreparedEndpoint c db)
  | updateEndpoint c => execute db (OwlAuth.updateEndpoint c db)
  | disableEndpoint c => execute db (OwlAuth.disableEndpoint env c db)
  | retireOneDisabledOwnerEndpoint c =>
    execute db (OwlAuth.retireOneDisabledOwnerEndpoint env c db)
  | prepareSecretRotation c => execute db (OwlAuth.prepareSecretRotation env c db)
  | finalizeProtectedSecret c => execute db (OwlAuth.finalizeProtectedSecret env c db)
  | activateSecretRotation c => execute db (OwlAuth.activateSecretRotation env c db)
  | retireOneExpiredOverlap c => execute db (OwlAuth.retireOneExpiredOverlap env c db)
  | claimSecretCleanup c => execute db (OwlAuth.claimSecretCleanup env c db)
  | finishSecretCleanup c => execute db (OwlAuth.finishSecretCleanup env c db)
  | replayDelivery c => execute db (OwlAuth.replayDelivery env c db)
  | claimOne c => execute db (OwlAuth.claimOne env c db)
  | finish c => execute db (OwlAuth.finish c db)
  | recoverOneExpiredDelivery c => execute db (OwlAuth.recoverOneExpiredDelivery env c db)
  | maintain c => OwlAuth.maintain env c db

def MutationOp.step (env : Environment) (db : Database) : MutationOp → Database
  | terminalizeDueIdentityMutations limit due =>
    execute db ((fun db' => .done db' ()) <$>
      OwlAuth.terminalizeDueIdentityMutations env limit due db)
  | cancelIdentityMutation c => execute db (OwlAuth.cancelIdentityMutation env c db)
  | commitIdentityMutationEmailGeneration c =>
    execute db (OwlAuth.commitIdentityMutationEmailGeneration env c db)
  | createIdentityMutation c => execute db (OwlAuth.createIdentityMutation env c db)
  | bindMutationBrowser id => execute db (OwlAuth.bindMutationBrowser env id db)
  | startMutationProvider c => execute db (OwlAuth.startMutationProvider env c db)
  | claimMutationCallback id slot => execute db (OwlAuth.claimMutationCallback env id slot db)
  | denyMutationCallback id slot => execute db (OwlAuth.denyMutationCallback env id slot db)
  | failMutationCallback c => execute db (OwlAuth.failMutationCallback env c db)
  | completeMutationCallback c => execute db (OwlAuth.completeMutationCallback env c db)
  | beginMutationEmail c => execute db (OwlAuth.beginMutationEmail env c db)
  | verifyMutationEmailProof v => execute db (OwlAuth.verifyMutationEmailProof env v db)
  | completeMutationEmailProof c => execute db (OwlAuth.completeMutationEmailProof env c db)
  | confirmMutationReady id revision => execute db (OwlAuth.confirmMutationReady env id revision db)

def MailOp.step (env : Environment) (db : Database) : MailOp → Database
  | claimDueMail c => execute db (OwlAuth.claimDueMail env c db)
  | finishMailAttempt c => execute db (OwlAuth.finishMailAttempt env c db)
  | maintainShortTermData c => OwlAuth.maintainShortTermData env c db
  | changeMailAuthority c => OwlAuth.changeMailAuthority c db

def step (call : Call) (db : Database) : Database :=
  match call.op with
  | .login o => o.step call.env db
  | .completion o => o.step call.env db
  | .session o => o.step call.env db
  | .configuration o => o.step call.env db
  | .user o => o.step call.env db
  | .revocation o => o.step db
  | .signing o => o.step call.env db
  | .webhook o => o.step call.env db
  | .mutation o => o.step call.env db
  | .mail o => o.step call.env db
  | .confirmation c => execute db (confirmControl call.env c db)
  | .managed o => o.step call.env db

def run (db : Database) (calls : List Call) : Database := Machine.run step db calls

theorem run_append (db) (xs ys : List Call) : run db (xs ++ ys) = run (run db xs) ys :=
  Machine.run_append step db xs ys

theorem run_snoc (db) (xs : List Call) (c : Call) : run db (xs ++ [c]) = step c (run db xs) :=
  Machine.run_snoc step db xs c

variable {email : Bool} {db db' : Database}

/-! ## what the calls of one area can do -/

theorem LoginStep.refl {denial} (db) : LoginStep denial email [] db db := by
  refine ⟨?_, .refl .refl _⟩
  cases email <;> rfl

def LoginOp.creations (db : Database) : LoginOp → List CreateLoginTransaction
  | createLoginTransaction c =>
    match answer (OwlAuth.createLoginTransaction c db) with
    | .ok _ => [c]
    | .error _ => []
  | _ => []

def LoginOp.denies : LoginOp → Bool
  | denyProviderCallback _ => true
  | _ => false

def LoginOp.challenges : LoginOp → Bool
  | commitEmailGeneration _ => true
  | establishMagicTransferContext _ => true
  | verifyEmailProof _ => true
  | _ => false

theorem LoginOp.step_login (o : LoginOp) (env db) :
    LoginStep o.denies o.challenges (o.creations db) db (o.step env db) := by
  cases o with
  | createLoginTransaction c =>
    show LoginStep false false (match answer (OwlAuth.createLoginTransaction c db) with
      | .ok _ => [c] | .error _ => []) db (execute db (OwlAuth.createLoginTransaction c db))
    cases h : OwlAuth.createLoginTransaction c db with
    | error e => exact .refl db
    | ok r =>
      obtain ⟨_, _, _, _, _, hrep⟩ := createLoginTransaction_ok h
      show LoginStep false false (match r.reply with | .ok _ => [c] | .error _ => []) db r.db
      rw [hrep]
      exact createLoginTransaction_step h
  | bindHostedBrowser c => exact execute_of (.refl db) fun _ => bindHostedBrowser_step
  | selectProviderMethod c => exact execute_of (.refl db) fun _ => selectProviderMethod_step
  | claimProviderCallback c => exact execute_of (.refl db) fun _ => claimProviderCallback_step
  | denyProviderCallback c => exact execute_of (.refl db) fun _ => denyProviderCallback_step
  | failProviderExchange c => exact execute_of (.refl db) fun _ => failProviderExchange_step
  | recoverAbandonedProviderExchanges c =>
    exact execute_of (.refl db) fun _ => recoverAbandonedProviderExchanges_step
  | selectEmailMethod c => exact execute_of (.refl db) fun _ => selectEmailMethod_step
  | commitEmailGeneration c => exact execute_of (.refl db) fun _ => commitEmailGeneration_step
  | establishMagicTransferContext c =>
    exact execute_of (.refl db) fun _ => establishMagicTransferContext_step
  | verifyEmailProof c =>
    refine execute_of (.refl db) fun _ h => ?_
    obtain ⟨_, hr⟩ := verifyEmailProof_frame h
    rw [hr]
    exact ⟨rfl, .refl .refl _⟩

/-- a completion only moved the login, or it issued a ticket -/
inductive CompletionStep (email : Bool) (db db' : Database) : Prop
  | moved (h : LoginStep false false [] db db')
  | issued (login : LoginTransaction) (ticket : HandoffTicket) (authenticatedAt now : Instant)
      (h : LoginIssued db db' login ticket authenticatedAt now)
      (browsers : Evolves (BrowserMove (CapturesNow db')) (CapturesNow db')
        db.browserSessions db'.browserSessions)
      (users : Evolves UserMove (fun _ => True) db.users db'.users)
      (frame : OnlyCompletion email db db')

def CompletionOp.byEmail : CompletionOp → Bool
  | completeEmailProof _ => true
  | _ => false

theorem CompletionOp.step_completion (o : CompletionOp) (env db) :
    CompletionStep o.byEmail db (o.step env db) := by
  cases o with
  | completeAuthenticatedIdentity c =>
    refine execute_of (.moved (.refl db)) fun r h => ?_
    rcases completeAuthenticatedIdentity_ok h with h | ⟨login, _, _, _, _, _, ticket, h⟩
    · exact .moved h
    · exact .issued login ticket _ _ h.issued h.browsersNow h.users h.onlyCompletion
  | confirmBrowserSessionReuse c =>
    refine execute_of (.moved (.refl db)) fun r h => ?_
    rcases confirmBrowserSessionReuse_ok h with h | ⟨login, _, ticket, h⟩
    · exact .moved h
    · exact .issued login ticket _ _ h.issued h.browsersNow (by rw [h.frame]; exact .refl .refl _)
        (by rw [h.frame]; rfl)
  | completeEmailProof c =>
    refine execute_of (.moved (.refl db)) fun r h => ?_
    obtain ⟨login, _, _, _, _, ticket, h⟩ := completeEmailProof_ok h
    exact .issued login ticket _ _ h.issued h.browsersNow h.users h.onlyCompletion

theorem CompletionStep.frame (h : CompletionStep email db db') : OnlyCompletion email db db' := by
  rcases h with h | ⟨_, _, _, _, _, _, _, hr⟩
  · -- a login that only moved is the least a completion does
    have hr := h.frame
    rw [hr]
    cases email <;> rfl
  · exact hr

def exchanges (call : Call) (db : Database) : List CommitHandoffExchange :=
  match call.op with
  | .session (.commitHandoffExchange c) =>
    match answer (commitHandoffExchange call.env c db) with
    | .ok _ => [c]
    | .error _ => []
  | _ => []

structure LiveBinding (db : Database) (binding : ApplicationUserBinding)
    (application : Application) (user : ProjectUser) : Prop where
  bindingMem : binding ∈ db.bindings
  applicationMem : application ∈ db.applications
  userMem : user ∈ db.users
  projectId : binding.projectId = user.projectId
  applicationId : binding.applicationId = application.id
  userId : binding.userId = user.id
  bindingActive : binding.status = .active
  applicationActive : application.status = .active
  userActive : user.status = .active

/-- what a call on tickets, sessions and tokens can do; the index lists the exchange it committed,
if it did -/
inductive SessionStep (env : Environment) (db : Database) :
    Database → List CommitHandoffExchange → Prop
  | kept : SessionStep env db db []
  | ticketExpired (ticket : HandoffTicket) (mem : ticket ∈ db.tickets)
      (issued : ticket.status = .issued) :
      SessionStep env db { db with tickets := db.tickets.set { ticket with status := .expired } } []
  | exchanged (c : CommitHandoffExchange) (ticket : HandoffTicket) (login : LoginTransaction)
      (owners : ExchangeOwners) (binding : ApplicationUserBinding)
      (projection : ApplicationUserProjection) (db₁ : Database)
      (sessions : Table ApplicationSession) (families : Table RefreshFamily)
      (generations : Table RefreshTokenGeneration)
      (accepted : ExchangeAccepted db c ticket login owners)
      (version : 0 < c.refreshToken.keyVersion)
      (views : ExchangeViews env c db owners binding projection db₁)
      (opened : SessionOpened db c ticket owners binding sessions families generations) :
      SessionStep env db
        { db₁ with
          sessions := sessions
          families := families
          generations := generations
          tickets := db.tickets.set (consumedTicket ticket c.now)
          logins := db.logins.set (completedLogin login c.now) } [c]
  | replayed (generation : RefreshTokenGeneration) (family : RefreshFamily) (now : Instant)
      (generationMem : generation ∈ db.generations) (familyMem : family ∈ db.families) :
      SessionStep env db (recordRefreshReplay db generation family now) []
  | repaired (projection : ApplicationUserProjection) (binding : ApplicationUserBinding)
      (application : Application) (user : ProjectUser) (material : ProjectionMaterial)
      (now : Instant) (live : LiveBinding db binding application user)
      (projectionMem : projection ∈ db.projections) (bound : projection.bindingId = binding.id)
      (made : authoritativeRuntimeProjectionMaterial env db (some projection) application.id user
        = .ok material) :
      SessionStep env db
        { db with
          projections := db.projections.set (repairedProjection projection user material now) } []
  | rotated (c : RotateRefreshToken) (route : RefreshRoute) (project : Project)
      (application : Application) (user : ProjectUser) (policy : ProjectPolicy)
      (generations : Table RefreshTokenGeneration)
      (routed : Routed db c.projectId c.applicationId c.presentedToken route)
      (version : 0 < c.successorToken.keyVersion)
      (accepted : RotationAccepted db c route project application user policy)
      (inserted : insertGeneration
        (db.generations.set (consumedGeneration route.generation c.now))
        (successorGeneration c route.family user.id (route.generation.generation + 1))
          = .ok generations) :
      SessionStep env db
        { db with
          generations := generations
          families := db.families.set
            (rotatedFamily route.family (route.generation.generation + 1)) } []
  | loggedOut (session : ApplicationSession) (family : RefreshFamily) (now : Instant)
      (sessionMem : session ∈ db.sessions) (familyMem : family ∈ db.families) :
      SessionStep env db (revokeSessionAndFamily db session family .logout now) []
  | logoutMoved (logouts : Table BrowserLogoutInteraction) :
      SessionStep env db { db with logouts := logouts } []
  | browserEnded (browser : BrowserSession) (now : Instant)
      (logouts : Table BrowserLogoutInteraction) (mem : browser ∈ db.browserSessions)
      (active : browser.status = .active) :
      SessionStep env db
        { db with
          browserSessions := db.browserSessions.set (terminatedBrowser browser now)
          logouts := logouts } []

theorem SessionStep.of_body {env : Environment} {α : Type} {body : Tx (Committed α)}
    (h : ∀ r, body = .ok r → SessionStep env db r.db []) :
    SessionStep env db (execute db body) [] :=
  execute_of (P := fun db' => SessionStep env db db' []) .kept h

theorem commitHandoffExchange_session {env c r} (h : commitHandoffExchange env c db = .ok r) :
    SessionStep env db r.db (match r.reply with | .ok _ => [c] | .error _ => []) := by
  rcases commitHandoffExchange_ok h with ⟨ticket, ht, hs, rfl⟩ | ⟨ticket, login, owners, binding,
    projection, db₁, sessions, families, generations, record, ha, hv, hviews, hopen, rfl⟩
  · exact .ticketExpired ticket ht hs
  · exact .exchanged c ticket login owners binding projection db₁ sessions families generations ha
      hv hviews hopen

theorem prepareRefreshRotation_session {env c r} (h : prepareRefreshRotation env c db = .ok r) :
    SessionStep env db r.db [] := by
  obtain ⟨_, hr, ⟨_, rfl⟩ | ⟨_, h⟩⟩ := prepareRefreshRotation_ok h
  · exact .replayed _ _ _ hr.generation hr.family
  · obtain ⟨_, application, user, _, binding, projection, material, _, ha, hb, hbs, hproj, hm, _, _,
      _, rfl⟩ := prepareCurrentGeneration_ok h
    obtain ⟨hbm, _, hbp, hba, hbu⟩ := find_ok hb
    obtain ⟨hpm, _, hpb⟩ := find_ok hproj
    obtain ⟨ham, haid, _⟩ := findApplication_ok ha.applicationFound
    obtain ⟨hum, _, hup⟩ := findUser_ok ha.userFound
    have hlive : LiveBinding db binding application user :=
      ⟨hbm, ham, hum, hbp.trans hup.symm, hba.trans haid.symm, hbu, hbs, ha.current.2.1,
        ha.current.2.2.1⟩
    exact .repaired projection binding application user material c.now hlive hpm hpb hm

theorem rotateRefreshToken_session {env c r} (h : rotateRefreshToken env c db = .ok r) :
    SessionStep env db r.db [] := by
  obtain ⟨route, hr, hv, _, ⟨_, rfl⟩ | ⟨_, h⟩⟩ := rotateRefreshToken_ok h
  · exact .replayed _ _ _ hr.generation hr.family
  · obtain ⟨project, application, user, policy, generations, ha, hi, rfl⟩ :=
      rotateCurrentGeneration_ok h
    exact .rotated c route project application user policy generations hr hv ha hi

theorem currentSession_session {env c allowRevoked r}
    (h : currentSession env c allowRevoked db = .ok r) : SessionStep env db r.db [] := by
  obtain ⟨o, binding, projection, material, ho, _, hbm, ⟨_, hbp, hba, hbu, hbs⟩, hproj, hm, hr⟩ :=
    currentSession_ok h
  obtain ⟨_, ⟨ham, _, has⟩, ⟨hum, hup, hus⟩, _⟩ := findSessionOwners_ok ho
  obtain ⟨hpm, _, hpb⟩ := find_ok hproj
  have hlive : LiveBinding db binding o.application o.user :=
    ⟨hbm, ham, hum, hbp.trans hup.symm, hba, hbu, hbs, has, hus⟩
  rw [hr]
  exact .repaired projection binding o.application o.user material c.now hlive hpm hpb hm

theorem expireBrowserLogout_session {env} (i : BrowserLogoutInteraction) :
    SessionStep env db (expireBrowserLogout db i).1 [] := by
  rcases expireBrowserLogout_db db i with h | ⟨_, h⟩
  · rw [h]; exact .kept
  · rw [h]; exact .logoutMoved _

theorem SessionOp.step_session (o : SessionOp) (env db) :
    SessionStep env db (o.step env db) (exchanges ⟨env, .session o⟩ db) := by
  cases o with
  | prepareHandoffExchange c =>
    refine .of_body fun r h => ?_
    rw [prepareHandoffExchange_db h]; exact .kept
  | commitHandoffExchange c =>
    show SessionStep env db (execute db (OwlAuth.commitHandoffExchange env c db))
      (match answer (OwlAuth.commitHandoffExchange env c db) with | .ok _ => [c] | .error _ => [])
    cases h : OwlAuth.commitHandoffExchange env c db with
    | error e => exact .kept
    | ok r => exact commitHandoffExchange_session h
  | prepareRefreshRotation c => exact .of_body fun r h => prepareRefreshRotation_session h
  | rotateRefreshToken c => exact .of_body fun r h => rotateRefreshToken_session h
  | logoutApplicationSession c =>
    refine .of_body fun r h => ?_
    obtain ⟨s, hs, f, hf, _, _, rfl⟩ := logoutApplicationSession_ok h
    exact .loggedOut s f c.now hs hf
  | prepareBrowserLogout c =>
    refine .of_body fun r h => ?_
    obtain ⟨_, _, _, logouts, _, _, _, rfl⟩ := prepareBrowserLogout_ok h
    exact .logoutMoved logouts
  | bindBrowserLogout c =>
    refine .of_body fun r h => ?_
    obtain ⟨i, _, _, ⟨_, rfl⟩ | ⟨_, _, rfl⟩⟩ := bindBrowserLogout_ok h
    · exact expireBrowserLogout_session i
    · exact .logoutMoved _
  | confirmBrowserLogout c =>
    refine .of_body fun r h => ?_
    obtain ⟨i, _, _, rfl | ⟨_, _, _, _, b, hb, rfl⟩⟩ := confirmBrowserLogout_ok h
    · exact expireBrowserLogout_session i
    · exact .browserEnded b c.now _ hb.browserMem hb.live.1
  | currentSession c allowRevoked => exact .of_body fun r h => currentSession_session h

variable (db db' : Database)

abbrev OnlySession : Prop :=
  db' = { db with
    logins := db'.logins
    browserSessions := db'.browserSessions
    tickets := db'.tickets
    logouts := db'.logouts
    sessions := db'.sessions
    families := db'.families
    generations := db'.generations
    bindings := db'.bindings
    projections := db'.projections
    events := db'.events
    deliveries := db'.deliveries
    dispatchStates := db'.dispatchStates }

theorem SessionStep.frame {env es} (h : SessionStep env db db' es) : OnlySession db db':= by
  cases h with
  | exchanged c ticket login owners binding projection db₁ _ _ _ _ _ hviews _ =>
    obtain ⟨_, _, _, _, _, rfl⟩ := hviews.only
    rfl
  | _ => rfl

def ConfigurationOp.deletes : ConfigurationOp → Bool
  | deleteProject _ _ _ => true
  | _ => false

theorem ConfigurationOp.step_owner (o : ConfigurationOp) (env db) :
    OwnerStep o.deletes db (o.step env db) := by
  have none : OwnerStep false db db := .refl false db
  cases o with
  | updateProjectPolicy p c => exact execute_of none fun _ => updateProjectPolicy_step
  | updateProject p revision => exact execute_of none fun _ => updateProject_step
  | disableProject p revision => exact execute_of none fun _ => disableProject_step
  | enableProject p revision => exact execute_of none fun _ => enableProject_step
  | deleteProject p revision now =>
    exact execute_of (.refl true db) fun _ => deleteProject_step
  | updateApplication p a c => exact execute_of none fun _ => updateApplication_step
  | replaceApplicationConfiguration p a c =>
    exact execute_of none fun _ => replaceApplicationConfiguration_step
  | disableApplication p a revision now =>
    exact execute_of none fun _ => disableApplication_step

theorem UserOp.step_user (o : UserOp) (env db) : ∃ now, UserMoved env now db (o.step env db) := by
  cases o with
  | disableProjectUser c =>
    exact ⟨c.now, execute_of (.inl rfl) fun _ => disableProjectUser_ok⟩
  | enableProjectUser c =>
    exact ⟨c.now, execute_of (.inl rfl) fun _ => enableProjectUser_ok⟩

inductive RevocationStep : Prop
  | kept (h : db' = db)
  | session (s : ApplicationSession) (now : Instant) (mem : s ∈ db.sessions)
      (active : s.status = .active)
      (h : db' = { db with sessions := db.sessions.set (revokedSession s now) })
  | browser (b : BrowserSession) (now : Instant) (mem : b ∈ db.browserSessions)
      (active : b.status = .active)
      (h : db' = { db with browserSessions := db.browserSessions.set (terminatedBrowser b now) })

theorem RevocationOp.step_revocation (o : RevocationOp) (db) : RevocationStep db (o.step db) := by
  cases o with
  | revokeApplicationSession c =>
    refine execute_of (.kept rfl) fun r h => ?_
    obtain ⟨_, _, _, _, s, hs, h⟩ := peel₃ h
    obtain ⟨_, _, h⟩ := later₂ h
    split at h
    · rename_i ha
      obtain ⟨_, h⟩ := later h
      cases h
      exact .session s c.now (find_ok hs).1 ha rfl
    · cases h; exact .kept rfl
    · cases h
  | revokeBrowserSession c =>
    refine execute_of (.kept rfl) fun r h => ?_
    obtain ⟨_, _, h⟩ := later₂ h
    obtain ⟨b, hb, _, _, h⟩ := peel₂ h
    split at h
    · rename_i ha
      obtain ⟨_, h⟩ := later h
      cases h
      exact .browser b c.now (find_ok hb).1 ha rfl
    · cases h; exact .kept rfl
    · cases h

abbrev OnlySessions : Prop :=
  db' = { db with sessions := db'.sessions, browserSessions := db'.browserSessions }

theorem RevocationStep.frame (h : RevocationStep db db') : OnlySessions db db' := by
  rcases h with hr | ⟨_, _, _, _, hr⟩ | ⟨_, _, _, _, hr⟩ <;> rw [hr]

theorem SigningOp.step_signing (o : SigningOp) (env db) : SigningStep env db (o.step env db) := by
  cases o with
  | prepareSigningKey c => exact execute_of (.refl env db) fun _ => prepareSigningKey_step
  | claimSigningProviderAction c =>
    exact execute_of (.refl env db) fun _ => claimSigningProviderAction_step
  | recordSigningProviderFailure c =>
    refine execute_of (.refl env db) fun _ h => ?_
    obtain ⟨_, _, h⟩ := later₂ h
    cases h
    exact .operated _ _
  | recordSigningProviderAbsence c =>
    exact execute_of (.refl env db) fun _ => recordSigningProviderAbsence_step
  | queueSigningProviderCleanup c =>
    exact execute_of (.refl env db) fun _ => queueSigningProviderCleanup_step
  | completeSigningProviderCleanup c =>
    exact execute_of (.refl env db) fun _ => completeSigningProviderCleanup_step
  | recordProtectedSigningKeyMaterial c =>
    exact execute_of (.refl env db) fun _ => recordProtectedSigningKeyMaterial_step
  | publishSigningKey c => exact execute_of (.refl env db) fun _ => publishSigningKey_step
  | activateSigningKeyIfReady c =>
    exact execute_of (.refl env db) fun _ => activateSigningKeyIfReady_step
  | retireSigningKey c =>
    refine execute_of (.refl env db) fun _ h => ?_
    obtain ⟨_, _, h⟩ := later₂ h
    exact transitionSigningKey_step h (.inl rfl)
  | revokeSigningKey c =>
    exact execute_of (.refl env db) fun _ h => transitionSigningKey_step h (.inr rfl)

/-- the endpoint a call disables with all its secrets, and the clock it brings -/
def WebhookOp.bares : WebhookOp → Option (Uuid × Instant)
  | disableEndpoint c => some (c.scope.endpointId, c.now)
  | retireOneDisabledOwnerEndpoint c => some (c.scope.endpointId, c.now)
  | _ => none

theorem WebhookOp.step_webhook (o : WebhookOp) (env db) :
    WebhookStep env o.bares db (o.step env db) := by
  cases o with
  | prepareEndpoint c => exact execute_of .kept fun _ => prepareEndpoint_step
  | recordEndpointTestSuccess c =>
    exact execute_of .kept fun _ => recordEndpointTestSuccess_step
  | activatePreparedEndpoint c => exact execute_of .kept fun _ => activatePreparedEndpoint_step
  | updateEndpoint c => exact execute_of .kept fun _ => updateEndpoint_step
  | disableEndpoint c => exact execute_of .kept fun _ => disableEndpoint_step
  | retireOneDisabledOwnerEndpoint c =>
    exact execute_of .kept fun _ => retireOneDisabledOwnerEndpoint_step
  | prepareSecretRotation c => exact execute_of .kept fun _ => prepareSecretRotation_step
  | finalizeProtectedSecret c => exact execute_of .kept fun _ => finalizeProtectedSecret_step
  | activateSecretRotation c => exact execute_of .kept fun _ => activateSecretRotation_step
  | retireOneExpiredOverlap c => exact execute_of .kept fun _ => retireOneExpiredOverlap_step
  | claimSecretCleanup c => exact execute_of .kept fun _ => claimSecretCleanup_step
  | finishSecretCleanup c => exact execute_of .kept fun _ => finishSecretCleanup_step
  | replayDelivery c => exact execute_of .kept fun _ => replayDelivery_step
  | claimOne c => exact execute_of .kept fun _ => claimOne_step
  | finish c => exact execute_of .kept fun _ => finish_step
  | recoverOneExpiredDelivery c =>
    exact execute_of .kept fun _ => recoverOneExpiredDelivery_step
  | maintain c => exact .maintained c

theorem MutationOp.step_mutation (o : MutationOp) (env db) : MutationStep db (o.step env db) := by
  cases o with
  | terminalizeDueIdentityMutations limit due =>
    refine execute_of (.refl db) fun r h => ?_
    cases hdue : OwlAuth.terminalizeDueIdentityMutations env limit due db with
    | error e => rw [hdue] at h; cases h
    | ok db' =>
      rw [hdue] at h
      cases h
      exact (terminalizeDueIdentityMutations_ok hdue).step
  | cancelIdentityMutation c =>
    exact execute_of (.refl db) cancelIdentityMutation_step
  | commitIdentityMutationEmailGeneration c =>
    exact execute_of (.refl db) commitIdentityMutationEmailGeneration_step
  | createIdentityMutation c => exact execute_of (.refl db) createIdentityMutation_step
  | bindMutationBrowser id => exact execute_of (.refl db) bindMutationBrowser_step
  | startMutationProvider c | beginMutationEmail c => exact execute_of (.refl db) openSlot_step
  | claimMutationCallback id slot => exact execute_of (.refl db) claimMutationCallback_step
  | denyMutationCallback id slot => exact execute_of (.refl db) denyMutationCallback_step
  | failMutationCallback c => exact execute_of (.refl db) failMutationCallback_step
  | completeMutationCallback c => exact execute_of (.refl db) completeMutationCallback_step
  | verifyMutationEmailProof v => exact execute_of (.refl db) verifyMutationEmailProof_step
  | completeMutationEmailProof c => exact execute_of (.refl db) completeMutationEmailProof_step
  | confirmMutationReady id revision => exact execute_of (.refl db) confirmMutationReady_step

abbrev OnlyMail : Prop :=
  db' = { db with
    emailChallenges := db'.emailChallenges
    transferContexts := db'.transferContexts
    emailPolicies := db'.emailPolicies
    emailAssignments := db'.emailAssignments
    smtpConfigurations := db'.smtpConfigurations
    deploymentSmtp := db'.deploymentSmtp
    mailOutbox := db'.mailOutbox
    intents := db'.intents
    slots := db'.slots
    receipts := db'.receipts
    evidence := db'.evidence }

theorem MailOp.frame (o : MailOp) (env db) : OnlyMail db (o.step env db) := by
  cases o with
  | claimDueMail c =>
    refine execute_of (P := OnlyMail db) rfl fun r h => ?_
    obtain ⟨_, _, _, hterm, ⟨_, hr⟩ | ⟨_, _, _, _, _, hr⟩⟩ := claimDueMail_ok h <;>
      · have hf := hterm.frame
        dsimp only at hr
        rw [hr, hf]
  | finishMailAttempt c =>
    refine execute_of (P := OnlyMail db) rfl fun r h => ?_
    obtain ⟨_, _, _, hr⟩ := finishMailAttempt_ok h
    rw [hr]
  | maintainShortTermData c =>
    show OnlyMail db (OwlAuth.maintainShortTermData env c db)
    unfold OwlAuth.maintainShortTermData
    split <;> rfl
  | changeMailAuthority c => rfl

theorem step_confirmation (env) (c : PreparedIdentityMutationConfirmation)
    (db) : ConfirmationStep db (execute db (confirmControl env c db)) :=
  execute_of (.refl db) fun _ => confirmControl_step

/-! ## what no call touches -/

/-- `db'` differs from `db` at most in what a call of its area touches -/
def Op.Only (db db' : Database) : Op → Prop
  | .login o => OnlyLogin o.challenges (o.creations db) db db'
  | .completion o => OnlyCompletion o.byEmail db db'
  | .session _ => OnlySession db db'
  | .configuration _ => OnlyOwners db db'
  | .user _ => OnlyUsers db db'
  | .revocation _ => OnlySessions db db'
  | .signing _ => OnlySigning db db'
  | .webhook _ => OnlyWebhooks db db'
  | .mutation _ => OnlyCeremony db db'
  | .mail _ => OnlyMail db db'
  | .confirmation _ => OnlyConfirmation db db'
  | .managed _ => OnlyManagedCalls db db'

/-- **Every call** touches at most the tables of its area. -/
theorem step_only (call : Call) (db : Database) : call.op.Only db (step call db) := by
  obtain ⟨env, op⟩ := call
  cases op with
  | login o => exact (o.step_login env db).frame
  | completion o => exact (o.step_completion env db).frame
  | session o => exact (o.step_session env db).frame
  | configuration o => exact (o.step_owner env db).frame
  | user o =>
    obtain ⟨_, h⟩ := o.step_user env db
    exact h.frame
  | revocation o => exact (o.step_revocation db).frame
  | signing o => exact (o.step_signing env db).frame
  | webhook o => exact (o.step_webhook env db).frame
  | mutation o => exact (o.step_mutation env db).frame
  | mail o => exact o.frame env db
  | confirmation c => exact (step_confirmation env c db).frame
  | managed o => exact (o.step_managed env db).frame

/-! ## a small deployment

One project with one application, one user with a live browser session, an active signing key and
a login whose ticket was issued at time `0`.  Statements about runs are instantiated on it. -/

namespace Demo

def env : Environment where
  databaseClock := 0
  eventId := fun binding revision => 1000 * binding + revision.toNat
  deliveryId := fun event endpoint => 1000 * event + endpoint
  newUuid := fun n => 500 + n
  projectionWriteVersion := 1
  projectionReadableVersions := [1]
  readDurableEmail := fun _ _ _ => .ok "owl@example.test"
  protectProjectionEmail := fun _ _ _ _ _ => .ok ⟨List.replicate 17 0, 1⟩
  unprotectProjectionEmail := fun _ _ _ _ _ => .ok "owl@example.test"
  profileDigest := fun _ => 0
  documentDigest := fun d => d.projectionRevision.toNat
  bodyDigest := fun _ => 0
  displayNameParses := fun _ => true
  pictureUrlParses := fun _ => true
  localeParses := fun _ => true
  emailParses := fun _ => true
  parseIp := fun _ => none
  pendingSecretReplacement := fun _ _ => false
  managedKeyVersion := some 1
  projectIssuer := fun publicId => .ok ("https://auth.example.test/projects/" ++ publicId ++ "/")
  signingProviderId := "local"
  signingProviderFormatVersion := 1
  secretProvider := some ("local", 1)
  claimSequence := 1
  verificationRetention := hours 1
  propagationDelay := minutes 5
  base64Url := fun _ => "AA"

def smtpServer : SmtpServer :=
  ⟨"smtp.example.test", 587, .startTlsRequired, "owl@example.test", none, none, 90, some 91, []⟩

def project : Project := ⟨1, "prj_roost", .active, 1, 1, none⟩

def application : Application := ⟨2, 1, "app_perch", "App", .active, 1, 1, 1⟩

def policy : ProjectPolicy := ⟨1, 1, 1, some 600, some true, some 3600⟩

def user : ProjectUser :=
  ⟨3, 1, "usr_owlet", .active, none, 1, 1, some 9, none, .provider, 0, ⟨false, none⟩, ⟨false, none⟩,
    ⟨false, none⟩, ⟨none, none, none⟩, 0, 0⟩

def identity : LinkedIdentity :=
  ⟨9, 1, 3, 10, "https://idp.example.test", "owl", .active, 1, 0, ⟨none, none, none⟩, 0⟩

def browser : BrowserSession :=
  ⟨4, 1, 3, ⟨40, 1⟩, .active, 1, 1, 1, 1, 0, 0, hours 8, hours 24, none⟩

def challenge : String := "AAAAAAAAAAAAAAAAAAAAAAAAAAAAAAAAAAAAAAAAAAA"

def login : LoginTransaction :=
  ⟨5, 1, 2, ⟨50, 1⟩, .handoffIssued, 3, "https://app.example.test/callback", challenge,
    ⟨List.replicate 17 0, 1⟩, none, some ⟨51, 1⟩, some ⟨52, 1⟩, none, none, some 3, none, none,
    none, none, 1, 1, 1, none, none, 1, 1, some 0, minutes 10, none, 0⟩

def ticket : HandoffTicket :=
  ⟨6, 1, 5, 2, 3, 4, none, ⟨60, 1⟩, .issued, "https://app.example.test/callback", challenge,
    .sessionReuse, 0, 1, 1, 1, none, none, 1, 1, 0, seconds 60, none⟩

def ring : KeyRing := ⟨7, 1, "https://auth.example.test/projects/prj_roost/", tokenPurpose,
  tokenAlgorithm, 3, 2⟩

def jwk : Jwk := [("kty", "OKP"), ("crv", "Ed25519"), ("alg", tokenAlgorithm), ("use", "sig"),
  ("kid", "kid"), ("x", "AA")]

def key : SigningKey := ⟨8, 1, 7, "kid", jwk, 80, 1, .active, 3, some 0, some 0, some 0, some 0,
  none, none, none, none, none⟩

def emailMethod : AdmittedEmailMethod :=
  ⟨⟨1, 1, 1, .deploymentDefault, none, 1, 1⟩, true, true, 6, 300, 5, 60, 5, 300, true, true⟩

def emailPolicy : ProjectEmailPolicy :=
  ⟨1, .enabled, 1, 1, true, true, 6, 300, 5, 60, 5, 300, true, true, true⟩

def start : Database :=
  { Database.empty with
    projects := .single project
    applications := .single application
    policies := .single policy
    emailPolicies := .single emailPolicy
    emailAssignments := .single ⟨1, 2, .active, 1⟩
    deploymentSmtp := .single ⟨1, .active, 1, none, smtpServer⟩
    users := .single user
    identities := .single identity
    logins := .single login
    browserSessions := .single browser
    tickets := .single ticket
    rings := .single ring
    keys := .single key }

def call (o : SessionOp) : Call := ⟨env, .session o⟩

def document : ProjectionDocument :=
  ⟨⟨none, none, none⟩, none, 1, .active, "usr_owlet", 1, 0, 0⟩

def prepared : TokenPreparation :=
  ⟨"prj_roost", ring.issuer, "app_perch", 3, "usr_owlet", 1, 1, 1, document, 7, 8, "kid", jwk, 80, 2,
    600, 0⟩

def handoff : HandoffPreparation := ⟨prepared, 6, 1, 1, 1, 1⟩

def exchangeCommand : CommitHandoffExchange :=
  ⟨1, 2, ⟨60, 1⟩, challenge, handoff, 20, 21, 22, 23, 24, ⟨240, 1⟩, 60, seconds 1⟩

def exchange : Call := call (.commitHandoffExchange exchangeCommand)

def refresh : RefreshPreparation := ⟨prepared, 24, 23, 1, 1, 22, 1, 20, 1, seconds 1 + days 30⟩

def rotate (preparation : RefreshPreparation) (successor : Uuid) (token : VersionedDigest)
    (now : Instant) : Call :=
  call (.rotateRefreshToken ⟨1, 2, ⟨240, 1⟩, preparation, successor, token, now⟩)

end Demo

end OwlAuth
