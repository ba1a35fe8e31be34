import OwlAuth.Managed.Transactions

/-!
# Calls on managed connections

* `ManagedOp`  every transaction on managed connections, by operators, browsers and workers;
* `ManagedOp.carries`  those that a worker makes with what it remembers from an earlier one;
* `ManagedStep`  what a call can do: it stays within the tables of connections or within the
    interactions, completes a reauthorization, or stores a profile, which the user's may follow.
-/

namespace OwlAuth

open Fallible Table

inductive ManagedOp
  | requestSynchronize (c : ChangeManagedConnection)
  | disconnect (c : ChangeManagedConnection)
  | requestRevocation (c : ChangeManagedConnection)
  | prepareNextRenewal (c : PrepareNextRenewal)
  | markRenewalSubmitted (r : PreparedRenewal) (now : Instant)
  | commitRenewalSuccessor (r : PreparedRenewal) (value : ProtectedCredential) (now : Instant)
  | releasePreparedFailure (r : PreparedRenewal) (outcome : String) (retryAt : Instant)
  | terminalizeRenewal (r : PreparedRenewal) (t : RenewalTermination) (outcome : String)
      (now : Instant)
  | finishSuccessorProfileFailure (c : SuccessorProfileClaim) (outcome : String)
      (retryAt now : Instant)
  | finishSuccessorWithoutProfile (c : SuccessorProfileClaim) (now : Instant)
  | fenceSuccessorReadEvidence (c : SuccessorProfileClaim) (revoked : Bool) (outcome : String)
      (now : Instant)
  | commitProfileForGuard (c : CommitManagedProfile)
  | terminalizeOneAmbiguousRevocation (connectionId : Uuid) (now : Instant)
  | terminalizeOneStaleRevocation (connectionId : Uuid) (now : Instant)
  | claimConnection (c : ClaimConnection) (kind : ClaimKind)
  | claimForRevocation (c : ClaimForRevocation)
  | markRevocationDispatched (c : ClaimedManagedCredential) (now : Instant)
  | finishRevocation (c : ClaimedManagedCredential) (result : ProviderRevocationResult)
      (now : Instant)
  | releaseRevocationClaim (c : ClaimedManagedCredential)
  | finishRewrap (c : ClaimedManagedCredential) (expectedKeyVersion : Int)
      (value : ProtectedCredential) (now : Instant)
  | createReauthorization (c : CreateReauthorization)
  | readReauthorization (n : NamedInteraction) (now : Instant)
  | cancelReauthorization (n : NamedInteraction) (expectedRevision : Int) (now : Instant)
  | digestVersions (interactionId : Uuid) (now : Instant)
  | bindReauthorizationBrowser (c : BindReauthorizationBrowser)
  | hostedReadReauthorization (interaction browserBinding : VersionedDigest) (now : Instant)
  | startReauthorizationProvider (c : StartReauthorizationProvider)
  | claimReauthorizationCallback (interactionId : Uuid) (c : ReauthorizationCallback)
  | denyReauthorizationCallback (c : ReauthorizationCallback)
  | completeReauthorizationCallback (record : ReauthorizationRecord)
      (successor : ProtectedCredential) (now : Instant)
  | failReauthorizationCallback (record : ReauthorizationRecord) (now : Instant)
  | terminalizeUnreadableInteractions (runtime target : List Int) (picked : List Uuid)
      (now : Instant)
  | terminalizeExpiredInteractions (picked : List Uuid) (now : Instant)

def ManagedOp.step (env : Environment) (db : Database) : ManagedOp → Database
  | requestSynchronize c => execute db (OwlAuth.requestSynchronize c db)
  | disconnect c => execute db (OwlAuth.disconnect c db)
  | requestRevocation c => execute db (OwlAuth.requestRevocation c db)
  | prepareNextRenewal c => execute db (OwlAuth.prepareNextRenewal env c db)
  | markRenewalSubmitted r now => execute db (OwlAuth.markRenewalSubmitted r now db)
  | commitRenewalSuccessor r value now =>
    execute db (OwlAuth.commitRenewalSuccessor r value now db)
  | releasePreparedFailure r outcome retryAt =>
    execute db (OwlAuth.releasePreparedFailure r outcome retryAt db)
  | terminalizeRenewal r t outcome now =>
    execute db (OwlAuth.terminalizeRenewal r t outcome now db)
  | finishSuccessorProfileFailure c outcome retryAt now =>
    execute db (OwlAuth.finishSuccessorProfileFailure c outcome retryAt now db)
  | finishSuccessorWithoutProfile c now =>
    execute db (OwlAuth.finishSuccessorWithoutProfile c now db)
  | fenceSuccessorReadEvidence c revoked outcome now =>
    execute db (OwlAuth.fenceSuccessorReadEvidence c revoked outcome now db)
  | commitProfileForGuard c => execute db (OwlAuth.commitProfileForGuard env c db)
  | terminalizeOneAmbiguousRevocation connectionId now =>
    execute db (OwlAuth.terminalizeOneAmbiguousRevocation connectionId now db)
  | terminalizeOneStaleRevocation connectionId now =>
    execute db (OwlAuth.terminalizeOneStaleRevocation connectionId now db)
  | claimConnection c kind => execute db (OwlAuth.claimConnection c kind db)
  | claimForRevocation c => execute db (OwlAuth.claimForRevocation c db)
  | markRevocationDispatched c now => execute db (OwlAuth.markRevocationDispatched c now db)
  | finishRevocation c result now => execute db (OwlAuth.finishRevocation c result now db)
  | releaseRevocationClaim c => execute db (OwlAuth.releaseRevocationClaim c db)
  | finishRewrap c expectedKeyVersion value now =>
    execute db (OwlAuth.finishRewrap c expectedKeyVersion value now db)
  | createReauthorization c => execute db (OwlAuth.createReauthorization c db)
  | readReauthorization n now => execute db (OwlAuth.readReauthorization n now db)
  | cancelReauthorization n expectedRevision now =>
    execute db (OwlAuth.cancelReauthorization n expectedRevision now db)
  | digestVersions interactionId now => execute db (OwlAuth.digestVersions interactionId now db)
  | bindReauthorizationBrowser c => execute db (OwlAuth.bindReauthorizationBrowser c db)
  | hostedReadReauthorization interaction browserBinding now =>
    execute db (OwlAuth.hostedReadReauthorization interaction browserBinding now db)
  | startReauthorizationProvider c => execute db (OwlAuth.startReauthorizationProvider c db)
  | claimReauthorizationCallback interactionId c =>
    execute db (OwlAuth.claimReauthorizationCallback interactionId c db)
  | denyReauthorizationCallback c => execute db (OwlAuth.denyReauthorizationCallback c db)
  | completeReauthorizationCallback record successor now =>
    execute db (OwlAuth.completeReauthorizationCallback record successor now db)
  | failReauthorizationCallback record now =>
    execute db (OwlAuth.failReauthorizationCallback record now db)
  | terminalizeUnreadableInteractions runtime target picked now =>
    OwlAuth.terminalizeUnreadableInteractions runtime target picked now db
  | terminalizeExpiredInteractions picked now =>
    OwlAuth.terminalizeExpiredInteractions picked now db

def ManagedOp.actor : ManagedOp → VaultActor
  | disconnect c => .asks c
  | requestRevocation c => .asks c
  | _ => .other

/-- the call carries what its caller remembers of the connection or the interaction -/
def ManagedOp.carries : ManagedOp → Bool
  | markRenewalSubmitted _ _ | commitRenewalSuccessor _ _ _ | releasePreparedFailure _ _ _
  | terminalizeRenewal _ _ _ _ | finishSuccessorProfileFailure _ _ _ _
  | finishSuccessorWithoutProfile _ _ | fenceSuccessorReadEvidence _ _ _ _
  | commitProfileForGuard _ | markRevocationDispatched _ _ | finishRevocation _ _ _
  | releaseRevocationClaim _ | finishRewrap _ _ _ _ | completeReauthorizationCallback _ _ _
  | failReauthorizationCallback _ _ => true
  | _ => false

/-! ## what a call touches -/

abbrev OnlyManagedCalls (db db' : Database) : Prop :=
  db' = { db with
    users := db'.users
    identities := db'.identities
    managedConnections := db'.managedConnections
    managedCredentials := db'.managedCredentials
    renewalOperations := db'.renewalOperations
    reauthorizations := db'.reauthorizations
    projections := db'.projections
    events := db'.events
    deliveries := db'.deliveries
    dispatchStates := db'.dispatchStates }

structure ProfileStored (env : Environment) (c : CommitManagedProfile) (rows : ProfileRows)
    (db followed db' : Database) : Prop where
  locked : lockProfileRows c db = some rows
  follow : followProfile env c rows.user
    { db with identities := db.identities.set (synchronizedIdentity env c rows.identity) }
      = .ok followed
  written : db' = { followed with
    managedConnections := followed.managedConnections.set
      (synchronizedConnection c (synchronizedIdentity env c rows.identity).identityRevision
        rows.connection) }

inductive ManagedStep (env : Environment) (db db' : Database) : Prop
  | vault (h : OnlyManaged db db')
  | interactions (h : InteractionsMoved db db')
  | reauthorized (record : ReauthorizationRecord) (successor : ProtectedCredential) (now : Instant)
      (i : ReauthorizationInteraction) (m : ManagedConnection)
      (credentials : Table ManagedCredential) (done : Committed ConnectionGuard)
      (h : ReauthorizationDone record successor now db i m credentials done)
      (written : db' = done.db)
  | profile (c : CommitManagedProfile) (rows : ProfileRows) (followed : Database)
      (h : ProfileStored env c rows db followed db')

variable {α : Type} {db db' : Database} {body : Tx (Committed α)}
  {c : CommitManagedProfile} {kind : ClaimKind} {env : Environment} {r : PreparedRenewal}
  {now retryAt : Instant} {done : Committed Bool} {value : ProtectedCredential}
  {outcome : String} {connectionId : Uuid} {rows : ProfileRows}

theorem InteractionsMoved.of_body (h : ∀ r, body = .ok r → InteractionsMoved db r.db) :
    InteractionsMoved db (execute db body) :=
  execute_of (.refl db) h

theorem OnlyManaged.of_body (h : ∀ r, body = .ok r → OnlyManaged db r.db) :
    OnlyManaged db (execute db body) :=
  execute_of (P := OnlyManaged db) rfl h

theorem VaultCall.of_body {actor} (h : ∀ r, body = .ok r → VaultCall actor db r.db) :
    VaultCall actor db (execute db body) :=
  execute_of (.refl db) h

theorem OnlyManaged.of_call (h : ∀ r, body = .ok r → VaultCall .other db r.db) :
    OnlyManaged db (execute db body) :=
  (VaultCall.of_body h).only

theorem commitRenewalSuccessor_only {done}
    (h : commitRenewalSuccessor r value now db = .ok done) : OnlyManaged db done.db := by
  obtain ⟨_, _, h⟩ := later₂ h
  split at h
  · cases h; rfl
  · obtain ⟨_, h⟩ := later h
    cases h; rfl

theorem terminalizeRenewal_only {t}
    (h : terminalizeRenewal r t outcome now db = .ok done) : OnlyManaged db done.db := by
  obtain ⟨_, h⟩ := later h
  dsimp only at h
  split at h
  · cases h; rfl
  · obtain ⟨_, h⟩ := later h
    split at h <;> (cases h; rfl)

theorem finishRewrap_only {c expectedKeyVersion}
    (h : finishRewrap c expectedKeyVersion value now db = .ok done) : OnlyManaged db done.db := by
  obtain ⟨_, h⟩ := later h
  dsimp only at h
  split at h <;> (cases h; rfl)

theorem completeReauthorizationCallback_step {record successor done}
    (h : completeReauthorizationCallback record successor now db = .ok done) :
    ManagedStep env db done.db := by
  obtain ⟨i, m, credentials, hdone⟩ := completeReauthorizationCallback_ok h
  exact .reauthorized record successor now i m credentials done hdone rfl

theorem commitProfileForGuard_ok (h : commitProfileForGuard env c db = .ok done) :
    done.db = db ∨ ∃ rows followed, ProfileStored env c rows db followed done.db := by
  obtain ⟨ok, _, h⟩ := bind_ok.mp h
  cases ok with
  | false => cases h; exact .inl rfl
  | true =>
    split at h
    · cases h; exact .inl rfl
    · rename_i rows hrows
      obtain ⟨followed, hf, h⟩ := bind_ok.mp h
      cases h
      exact .inr ⟨rows, followed, hrows, hf, rfl⟩

theorem commitProfileForGuard_step (h : commitProfileForGuard env c db = .ok done) :
    ManagedStep env db done.db := by
  rcases commitProfileForGuard_ok h with he | ⟨rows, followed, hs⟩
  · rw [he]; exact .vault rfl
  · exact .profile c rows followed hs

/-- a call that carries nothing keeps to the connections or to the interactions -/
theorem ManagedOp.plain (o : ManagedOp) (env db) (hc : o.carries = false) :
    VaultCall o.actor db (o.step env db) ∨ InteractionsMoved db (o.step env db) := by
  cases o with
  | requestSynchronize c => exact .inl (.of_body fun _ => requestSynchronize_call)
  | disconnect c => exact .inl (.of_body fun _ => disconnect_call)
  | requestRevocation c => exact .inl (.of_body fun _ => requestRevocation_call)
  | prepareNextRenewal c => exact .inl (.of_body fun _ => prepareNextRenewal_call)
  | terminalizeOneAmbiguousRevocation connectionId now =>
    exact .inl (.of_body fun _ => terminalizeOneAmbiguousRevocation_call)
  | terminalizeOneStaleRevocation connectionId now =>
    exact .inl (.of_body fun _ => terminalizeOneStaleRevocation_call)
  | claimConnection c kind => exact .inl (.of_body fun _ => claimConnection_call)
  | claimForRevocation c => exact .inl (.of_body fun _ => claimForRevocation_call)
  | createReauthorization c => exact .inr (.of_body fun _ => createReauthorization_moved)
  | readReauthorization n now => exact .inr (.of_body fun _ => readReauthorization_moved)
  | cancelReauthorization n revision now =>
    exact .inr (.of_body fun _ => cancelReauthorization_moved)
  | digestVersions id now => exact .inr (.of_body fun _ => digestVersions_moved)
  | bindReauthorizationBrowser c =>
    exact .inr (.of_body fun _ => bindReauthorizationBrowser_moved)
  | hostedReadReauthorization interaction browserBinding now =>
    exact .inr (.of_body fun _ => hostedReadReauthorization_moved)
  | startReauthorizationProvider c =>
    exact .inr (.of_body fun _ => startReauthorizationProvider_moved)
  | claimReauthorizationCallback id c =>
    exact .inr (.of_body fun _ => claimReauthorizationCallback_moved)
  | denyReauthorizationCallback c =>
    exact .inr (.of_body fun _ => denyReauthorizationCallback_moved)
  | terminalizeUnreadableInteractions runtime target picked now =>
    exact .inr (terminalizeUnreadableInteractions_moved runtime target picked now db)
  | terminalizeExpiredInteractions picked now =>
    exact .inr (terminalizeExpiredInteractions_moved picked now db)
  | _ => cases hc

theorem ManagedOp.step_managed (o : ManagedOp) (env db) : ManagedStep env db (o.step env db) := by
  by_cases hc : o.carries = false
  · exact (o.plain env db hc).elim (fun h => .vault h.only) .interactions
  cases o with
  | markRenewalSubmitted r now =>
    exact .vault (.of_body fun _ h => (markRenewalSubmitted_call h).only)
  | commitRenewalSuccessor r value now =>
    exact .vault (.of_body fun _ => commitRenewalSuccessor_only)
  | releasePreparedFailure r outcome retryAt =>
    exact .vault (.of_call fun _ => releasePreparedFailure_call)
  | terminalizeRenewal r t outcome now =>
    exact .vault (.of_body fun _ => terminalizeRenewal_only)
  | finishSuccessorProfileFailure c outcome retryAt now =>
    exact .vault (.of_call fun _ => finishSuccessorProfileFailure_call)
  | finishSuccessorWithoutProfile c now =>
    exact .vault (.of_call fun _ => finishSuccessorWithoutProfile_call)
  | fenceSuccessorReadEvidence c revoked outcome now =>
    exact .vault (.of_call fun _ => fenceSuccessorReadEvidence_call)
  | commitProfileForGuard c =>
    exact execute_of (.vault rfl) fun _ => commitProfileForGuard_step
  | markRevocationDispatched c now =>
    exact .vault (.of_call fun _ => markRevocationDispatched_call)
  | finishRevocation c result now => exact .vault (.of_call fun _ => finishRevocation_call)
  | releaseRevocationClaim c =>
    exact .vault (.of_call fun _ => releaseRevocationClaim_call)
  | finishRewrap c expectedKeyVersion value now =>
    exact .vault (.of_body fun _ => finishRewrap_only)
  | completeReauthorizationCallback record successor now =>
    exact execute_of (.vault rfl) fun _ => completeReauthorizationCallback_step
  | failReauthorizationCallback record now =>
    exact .interactions (.of_body fun _ => failReauthorizationCallback_moved)
  | _ => exact absurd rfl hc

/-! ## users -/

theorem followProfile_ok {user} (h : followProfile env c user db = .ok db') :
    db' = db ∨ fanOutUser env { db with users := db.users.set (synchronizedUser env c user) }
      (synchronizedUser env c user) c.now = .ok db' := by
  unfold followProfile at h
  split at h
  · exact .inr h
  · cases h; exact .inl rfl

theorem ManagedStep.frame (h : ManagedStep env db db') : OnlyManagedCalls db db' := by
  rcases h with h | h | ⟨_, _, _, _, _, _, _, h, hw⟩ | ⟨_, _, _, h⟩
  · rw [h]
  · obtain ⟨_, h, _⟩ := h
    rw [h]
  · rw [hw, h.written]
    rfl
  · have hw := h.written
    rcases followProfile_ok h.follow with hf | hf
    · rw [hw, hf]
    · obtain ⟨_, _, _, _, hf⟩ := fanOutUser_frame hf
      rw [hw, hf]

theorem ManagedStep.users (h : ManagedStep env db db') :
    Evolves UserMove (fun _ => False) db.users db'.users := by
  rcases h with h | h | ⟨_, _, _, _, _, _, _, h, hw⟩ | ⟨_, _, _, h⟩
  · exact .of_eq .refl (congrArg Database.users h :)
  · obtain ⟨_, h, _⟩ := h
    exact .of_eq .refl (congrArg Database.users h :)
  · exact .of_eq .refl (by rw [hw, h.written]; rfl)
  · obtain ⟨_, _, _, _, _, hu, hrows⟩ := bind_some₃.mp h.locked
    obtain ⟨_, _, hrows⟩ := Option.bind_eq_some_iff.mp hrows
    cases hrows
    have hmem := (find?_some hu).1
    rcases followProfile_ok h.follow with hf | hf
    · exact .of_eq .refl (by rw [h.written, hf])
    · obtain ⟨_, _, _, _, hf⟩ := fanOutUser_frame hf
      rw [h.written, hf]
      exact evolves_set .refl hmem rfl ⟨rfl, rfl, rfl, Int.le_refl _, fun h => h⟩

/-! ## interactions -/

theorem ProfileStored.reauthorizations {followed} (h : ProfileStored env c rows db followed db') :
    db'.reauthorizations = db.reauthorizations := by
  rw [h.written]
  rcases followProfile_ok h.follow with hf | hf
  · rw [hf]
  · obtain ⟨_, _, _, _, hf⟩ := fanOutUser_frame hf
    rw [hf]

theorem ManagedStep.reauthorizations (h : ManagedStep env db db') :
    Evolves (InteractionMove true) Opened db.reauthorizations db'.reauthorizations := by
  rcases h with h | h | ⟨_, _, _, _, _, _, _, h, hw⟩ | ⟨_, _, _, h⟩
  · exact .of_eq .refl (congrArg Database.reauthorizations h :)
  · obtain ⟨_, rfl, h⟩ := h
    exact h.mono (fun _ _ h => ⟨h.id, h.frozen, h.expiresAt, h.rank, h.lasting,
      fun hc => .inl ((h.completed hc).resolve_right fun hf => nomatch hf)⟩) fun _ ho => ho
  · rw [hw, h.written]
    exact evolves_set .refl h.mem rfl
      (endedInteraction_move (by rw [h.claimed.2.2]; rfl) rfl fun _ => rfl)
  · exact .of_eq .refl h.reauthorizations

end OwlAuth
