import OwlAuth.Managed.Interactions
import OwlAuth.Managed.Step

/-!
# Every transaction of a managed connection is a step

* `GuardOf`, `GuardHeld`  the guard of a worker: taken from a connection, and later the connection
    is as the guard says or has moved on;
* `…_call`, `…_vault`  each transaction is a `VaultStep`.  Those that write what the guard says
    need a guard that is held.
-/

namespace OwlAuth

open Fallible Table

/-! ## guards -/

structure GuardOf (g : ConnectionGuard) (c : ManagedConnection) : Prop where
  connectionId : g.connectionId = c.id
  projectId : g.projectId = c.projectId
  linkedIdentityId : g.linkedIdentityId = c.linkedIdentityId
  connectionRevision : g.connectionRevision = c.revision
  providerConfigurationId : g.providerConfigurationId = c.providerConfigurationId
  connectionGeneration : g.connectionGeneration = c.generation
  credentialGeneration : g.credentialGeneration = c.credentialGeneration

/-- the connection is as the guard says, or has moved on to another revision -/
structure Leads (g : ConnectionGuard) (c : ManagedConnection) : Prop where
  connectionId : c.id = g.connectionId
  projectId : c.projectId = g.projectId
  linkedIdentityId : c.linkedIdentityId = g.linkedIdentityId
  revision : g.connectionRevision ≤ c.revision
  current : c.revision = g.connectionRevision → GuardOf g c

variable {g : ConnectionGuard} {c c' : ManagedConnection} {v : Vault} {db db' : Database}
  {value : ProtectedCredential} {kind : ClaimKind} {r : PreparedRenewal} {env : Environment}
  {now retryAt : Instant} {o : RenewalOperation} {done : Committed Bool} {outcome : String}
  {u : UpsertManagedConnection}

theorem GuardOf.context (h : GuardOf g c) : contextFor g = c.context := by
  unfold contextFor ManagedConnection.context
  rw [h.projectId, h.providerConfigurationId, h.linkedIdentityId, h.connectionId,
    h.connectionGeneration, h.credentialGeneration]

theorem Leads.move (h : Leads g c) (hm : ConnectionMove c c') : Leads g c' := by
  refine ⟨hm.id.trans h.connectionId, hm.projectId.trans h.projectId,
    hm.linkedIdentityId.trans h.linkedIdentityId, Int.le_trans h.revision hm.fenced.1,
    fun he => ?_⟩
  have hr : c.revision = g.connectionRevision := by
    have h₁ : c.revision ≤ c'.revision := hm.fenced.1
    have h₂ := h.revision
    omega
  have hv := hm.fenced.2 (he.trans hr.symm)
  have hg := h.current hr
  exact ⟨hg.connectionId.trans hm.id.symm, hg.projectId.trans hm.projectId.symm,
    hg.linkedIdentityId.trans hm.linkedIdentityId.symm, he.symm,
    hg.providerConfigurationId.trans (congrArg ConnectionView.providerConfigurationId hv).symm,
    hg.connectionGeneration.trans (congrArg ConnectionView.generation hv).symm,
    hg.credentialGeneration.trans (congrArg ConnectionView.credentialGeneration hv).symm⟩

def GuardHeld (v : Vault) (g : ConnectionGuard) : Prop := ∃ c ∈ v.connections, Leads g c

theorem GuardHeld.guardOf (h : GuardHeld v g) (hc : c ∈ v.connections) (hi : c.id = g.connectionId)
    (hr : c.revision = g.connectionRevision) : GuardOf g c := by
  obtain ⟨m, hm, hl⟩ := h
  have he : m = c := eq_of_key hm hc (hl.connectionId.trans hi.symm)
  rw [he] at hl
  exact hl.current hr

theorem claimFromRow_ok {row workerId leaseUntil allowStale claim}
    (h : claimFromRow row workerId leaseUntil allowStale = .ok claim) :
    GuardOf claim.guard row.connection ∧ claim.value = row.value ∧ claim.leaseOwner = workerId
      ∧ claim.leaseExpiresAt = leaseUntil := by
  obtain ⟨_, _, h⟩ := later₂ h
  cases h
  exact ⟨⟨rfl, rfl, rfl, rfl, rfl, rfl, rfl⟩, rfl, rfl, rfl⟩

theorem currentCredential_some (h : currentCredential db c = some value) :
    ∃ k ∈ db.managedCredentials, CurrentCredential c k ∧ k.keyVersion = value.keyVersion
      ∧ k.ciphertext = some value.ciphertext := by
  obtain ⟨k, hk, hv⟩ := Option.bind_eq_some_iff.mp h
  obtain ⟨hm, hr⟩ := find?_some hk
  obtain ⟨_, hc, hv⟩ := Option.map_eq_some_iff.mp hv
  cases hv
  exact ⟨k, hm, hr, rfl, hc⟩

/-! ## claims -/

structure ClaimedOn (c : ClaimConnection) (kind : ClaimKind) (db db' : Database)
    (claimed : Option ClaimedManagedCredential) (m : ManagedConnection) : Prop where
  mem : m ∈ db.managedConnections
  id : m.id = c.connectionId
  active : m.state = .active
  due : ClaimDue db m c.now kind
  unleased : m.Unleased c.now
  written : db' = { db with
    managedConnections := db.managedConnections.set
      (leasedConnection kind.lease c.workerId c.leaseUntil m) }
  claim : ∀ claim ∈ claimed, GuardOf claim.guard m ∧ currentCredential db m = some claim.value
    ∧ claim.leaseOwner = c.workerId ∧ claim.leaseExpiresAt = c.leaseUntil

theorem claimConnectionOn_ok {c claimed} (h : claimConnectionOn c kind db = .ok (db', claimed)) :
    ∃ m, ClaimedOn c kind db db' claimed m := by
  obtain ⟨_, _, m, hm, h⟩ := peel₂ h
  obtain ⟨hmem, hid⟩ := find_ok hm
  obtain ⟨owners, _, _, hc, h⟩ := peel₂ h
  obtain ⟨hactive, hdue, hfree, _⟩ := ensure_ok.mp hc
  refine ⟨m, ?_⟩
  split at h
  · cases h
    exact ⟨hmem, hid, hactive, hdue, hfree, rfl, fun _ hn => by cases hn⟩
  · rename_i value hv
    obtain ⟨claim, hcl, h⟩ := bind_ok.mp h
    cases h
    refine ⟨hmem, hid, hactive, hdue, hfree, rfl, fun _ hs => ?_⟩
    cases hs
    obtain ⟨hg, hval, ho, he⟩ := claimFromRow_ok hcl
    exact ⟨⟨hg.connectionId, hg.projectId, hg.linkedIdentityId, hg.connectionRevision,
      hg.providerConfigurationId, hg.connectionGeneration, hg.credentialGeneration⟩,
      by rw [hval]; exact hv, ho, he⟩

theorem leasedConnection_quiet (kind : ConnectionLeaseKind) (workerId : Uuid)
    (leaseUntil : Instant) (c : ManagedConnection) :
    Quiet c (leasedConnection kind workerId leaseUntil c) :=
  ⟨rfl, rfl, rfl, rfl, rfl⟩

section
variable {actor : VaultActor}

theorem VaultStep.of_quiet (hc : c ∈ v.connections) (h : Quiet c c') :
    VaultStep actor v { v with connections := v.connections.set c' } :=
  .touched (evolves_set .refl hc h.id h) (.refl .refl _)

/-- a committed transaction on the vault: a step of it, with every other table kept -/
structure VaultCall (actor : VaultActor) (db db' : Database) : Prop where
  only : OnlyManaged db db'
  step : VaultStep actor db.vault db'.vault

theorem VaultCall.refl (db) : VaultCall actor db db := ⟨rfl, .refl _ _⟩

theorem claimConnection_call {c r}
    (h : claimConnection c kind db = .ok r) : VaultCall actor db r.db := by
  obtain ⟨⟨db', _⟩, hc, h⟩ := bind_ok.mp h
  cases h
  obtain ⟨_, hm⟩ := claimConnectionOn_ok hc
  show VaultCall actor db db'
  rw [hm.written]
  exact ⟨rfl, .of_quiet (v := db.vault) hm.mem (leasedConnection_quiet _ _ _ _)⟩

/-! ## renewals -/

theorem recoverRenewal_call {c operationId r} (h : recoverRenewal c operationId db = .ok r) :
    VaultCall actor db r.db := by
  obtain ⟨_, ho, _, hc, _, _, h⟩ := peel₃ h
  obtain ⟨_, _, h⟩ := later₂ h
  cases h
  obtain ⟨hop, _⟩ := find_ok ho
  obtain ⟨hcm, _⟩ := find_ok hc
  refine ⟨rfl, .touched (v := db.vault) ?_ ?_⟩
  · exact evolves_set .refl hcm rfl (leasedConnection_quiet _ _ _ _)
  · exact evolves_set .refl hop rfl ⟨rfl, rfl, rfl⟩

theorem startRenewal_call {c connectionId r}
    (h : startRenewal env c connectionId db = .ok r) : VaultCall actor db r.db := by
  obtain ⟨⟨db', claimed⟩, hc, h⟩ := bind_ok.mp h
  obtain ⟨m, hm⟩ := claimConnectionOn_ok hc
  have hw := hm.written
  subst hw
  have hquiet := leasedConnection_quiet ClaimKind.renewal.lease c.workerId c.leaseUntil m
  cases claimed with
  | none => cases h; exact ⟨rfl, .of_quiet (v := db.vault) hm.mem hquiet⟩
  | some claim =>
    obtain ⟨hg, hv, _, _⟩ := hm.claim claim rfl
    dsimp only at h
    split at h
    · cases h
      -- the lease is given back at once
      have hset : Evolves Quiet (fun _ => False) db.managedConnections _ :=
        evolves_set .refl hm.mem hquiet.id hquiet
      refine ⟨rfl, .touched (v := db.vault) ?_ (.refl .refl _)⟩
      exact hset.trans (fun _ _ _ => .trans) (fun _ _ => False.elim)
        (evolves_update Quiet.refl (f := generationTerminal) (fun _ => rfl)
          fun _ _ _ => ⟨rfl, rfl, rfl, rfl, rfl⟩)
    · rename_i hfirst
      obtain ⟨operations, hi, h⟩ := bind_ok.mp h
      cases h
      obtain ⟨_, hi⟩ := insertRow_ok hi
      obtain ⟨k, hk, hcur, _, _⟩ := currentCredential_some hv
      refine ⟨rfl, .prepared (v := db.vault) (c := m) (k := k) hm.mem hquiet hm.active hm.due.1 hk
        hcur ⟨hg.projectId, hg.connectionId, hg.connectionGeneration, hg.credentialGeneration⟩ rfl
        ?_ hi⟩
      rintro o ho ⟨hp, hid, hgen⟩
      exact hfirst ⟨o, ho, hp.trans hg.projectId.symm, hid.trans hg.connectionId.symm,
        hgen.trans hg.connectionGeneration.symm⟩

theorem prepareNextRenewal_call {c r} (h : prepareNextRenewal env c db = .ok r) :
    VaultCall actor db r.db := by
  obtain ⟨_, h⟩ := later h
  split at h
  · exact recoverRenewal_call h
  · exact startRenewal_call h

theorem AtGuard.acts {state} (h : AtGuard r.claim.guard c)
    (ho : OperationHeld r state now o) : RenewalActor.ActsOn ⟨r, now⟩ c o :=
  ⟨h.2.1, h.2.2.2.1, ho.2.2.1, ho.2.2.2.2.2.1, ho.2.2.2.2.2.2⟩

theorem lockSubmission_some (h : lockSubmission r now db = some o) :
    ∃ c ∈ db.managedConnections, ∃ k ∈ db.managedCredentials, o ∈ db.renewalOperations
      ∧ AtGuard r.claim.guard c ∧ CurrentCredential c k ∧ RenewsNow c o
      ∧ OperationHeld r .prepared now o := by
  obtain ⟨c, hc, k, hk, h⟩ := bind_some₂.mp h
  obtain ⟨hc, ⟨hat, _⟩, _⟩ := find?_some hc
  obtain ⟨hk, hcur⟩ := find?_some hk
  obtain ⟨ho, hheld, hgen, _⟩ := find?_some h
  obtain ⟨hp, hi, _, _, hcg, hkg⟩ := hat
  refine ⟨c, hc, k, hk, ho, ⟨hp, hi, ‹_›, ‹_›, hcg, hkg⟩, ?_, ?_, hheld⟩
  · unfold CurrentCredential
    rw [hp, hi, hkg]
    exact hcur
  · exact ⟨hheld.1.trans hp.symm, hheld.2.1.trans hi.symm, hgen.1.trans hcg.symm,
      hgen.2.trans hkg.symm⟩

theorem markRenewalSubmitted_call (h : markRenewalSubmitted r now db = .ok done) :
    VaultCall (.worker ⟨r, now⟩) db done.db := by
  obtain ⟨_, h⟩ := later h
  split at h
  · split at h
    · cases h; exact .refl _
    · rename_i o ho
      cases h
      obtain ⟨c, hc, k, hk, hom, hat, hcur, hren, hheld⟩ := lockSubmission_some ho
      exact ⟨rfl, .submitted (v := db.vault) hc hat.2.2.1 hk hcur hom hheld.2.2.2.2.1 hren
        ⟨_, rfl, hat.acts hheld⟩⟩
  · cases h; exact .refl _

theorem commitRenewalSuccessor_vault {done} (hheld : GuardHeld db.vault r.claim.guard)
    (hgen : ∀ o ∈ db.renewalOperations, o.id = r.operationId → OfGenerations r.claim.guard o)
    (hvalue : value.ciphertext.context = successorContext r.claim.guard)
    (hkey : value.ciphertext.sealedUnder = value.keyVersion)
    (h : commitRenewalSuccessor r value now db = .ok done) :
    VaultStep (.worker ⟨r, now⟩) db.vault done.db.vault := by
  obtain ⟨_, _, policyOk, _, h⟩ := peel₂ h
  split at h
  · cases h; exact .refl _ _
  · rename_i found hfound
    obtain ⟨credentials, hi, h⟩ := bind_ok.mp h
    cases h
    have hlock : lockSuccessor r now db = some found := by
      cases policyOk with
      | true => exact hfound
      | false => cases hfound
    obtain ⟨c, hc, _, _, o, ho, hlock⟩ := bind_some₃.mp hlock
    obtain ⟨_, _, _, _, hlock⟩ := bind_some₂.mp hlock
    cases hlock
    obtain ⟨hc, hat⟩ := find?_some hc
    obtain ⟨ho, hop⟩ := find?_some ho
    have hg : GuardOf r.claim.guard c := hheld.guardOf hc hat.2.1 hat.2.2.2.1
    have hog := hgen o ho hop.2.2.1
    have hctx : successorContext r.claim.guard = (successorConnection now c).context := by
      unfold successorContext ManagedConnection.context successorConnection
      rw [hg.context]
      unfold ManagedConnection.context
      rw [hg.connectionGeneration, hg.credentialGeneration]
    refine .succeeded (v := db.vault) ⟨_, rfl, hat.acts hop⟩ hc hat.2.2.1 ho hop.2.2.2.2.1 ?_
      ⟨hvalue.trans hctx, hkey⟩ ?_
    · exact ⟨hop.1.trans hg.projectId, hop.2.1.trans hg.connectionId,
        hog.1.trans hg.connectionGeneration, hog.2.trans hg.credentialGeneration⟩
    · refine Stored.of_insert (f := supersededCredential now) (fun k hk => ?_)
        (fun _ => ⟨rfl, rfl, rfl, rfl, .inr rfl⟩) (fun _ => rfl) ?_ (insertRow_ok hi).2
      · rw [hg.projectId, hg.connectionId, hg.credentialGeneration]
        exact hk
      · rw [hctx]
        exact sealedCredentialRow_for rfl rfl rfl rfl

theorem releasePreparedFailure_call (h : releasePreparedFailure r outcome retryAt db = .ok done) :
    VaultCall actor db done.db := by
  obtain ⟨_, h⟩ := later h
  split at h
  · cases h; exact .refl _
  · rename_i o ho
    cases h
    obtain ⟨ho, _⟩ := find?_some ho
    refine ⟨rfl, .touched (v := db.vault) ?_ ?_⟩
    · exact evolves_update Quiet.refl (f := releasedConnection outcome retryAt)
        (fun _ => rfl) fun _ _ _ => ⟨rfl, rfl, rfl, rfl, rfl⟩
    · exact evolves_set .refl ho rfl ⟨rfl, rfl, rfl⟩

theorem terminalizeRenewal_vault (hheld : GuardHeld db.vault r.claim.guard)
    (h : terminalizeRenewal r .reauthRequired outcome now db = .ok done) :
    VaultStep (.worker ⟨r, now⟩) db.vault done.db.vault := by
  obtain ⟨_, h⟩ := later h
  dsimp only at h
  split at h
  · cases h; exact .refl _ _
  · rename_i c hc
    obtain ⟨_, h⟩ := later h
    split at h
    · cases h; exact .refl _ _
    · rename_i o ho
      cases h
      obtain ⟨hc, _, hid, hrev, _⟩ := find?_some hc
      obtain ⟨ho, hp, hoid, hcid, _, hopen, hgen, howner, hexp, hlive⟩ := find?_some ho
      have hg : GuardOf r.claim.guard c := hheld.guardOf hc hid hrev
      refine .terminalized (v := db.vault) hc ho hopen ?_ ?_
        ⟨_, rfl, hid, hrev, hoid, howner, _, hexp, hlive⟩
      · exact ⟨hp.trans hg.projectId, hcid.trans hg.connectionId,
          hgen.1.trans hg.connectionGeneration, hgen.2.trans hg.credentialGeneration⟩
      · exact destroyGeneration_spent hg.projectId hg.connectionId hg.credentialGeneration

theorem underGuard_call {held} [DecidablePred held] {f} (h : underGuard db g held f = .ok done)
    (hf : ∀ c, Quiet c (f c)) : VaultCall actor db done.db := by
  obtain ⟨ok, _, h⟩ := bind_ok.mp h
  split at h
  · cases h; exact .refl _
  · rename_i c hc
    cases h
    have hfind : db.managedConnections.find? held = some c := by
      cases ok with
      | true => exact hc
      | false => cases hc
    exact ⟨rfl, .of_quiet (v := db.vault) (find?_some hfind).1 (hf c)⟩

theorem finishSuccessorProfileFailure_call {c}
    (h : finishSuccessorProfileFailure c outcome retryAt now db = .ok done) :
    VaultCall actor db done.db := by
  obtain ⟨_, h⟩ := later h
  exact underGuard_call h fun _ => ⟨rfl, rfl, rfl, rfl, rfl⟩

theorem finishSuccessorWithoutProfile_call {c}
    (h : finishSuccessorWithoutProfile c now db = .ok done) : VaultCall actor db done.db :=
  underGuard_call h fun _ => ⟨rfl, rfl, rfl, rfl, rfl⟩

theorem fenceSuccessorReadEvidence_call {c revoked}
    (h : fenceSuccessorReadEvidence c revoked outcome now db = .ok done) :
    VaultCall actor db done.db := by
  obtain ⟨ok, _, h⟩ := bind_ok.mp h
  dsimp only at h
  split at h
  · cases h; exact .refl _
  · rename_i m hfound
    cases h
    obtain ⟨_, _, m', hm, _, _, hfound⟩ := bind_some₃.mp hfound
    cases hfound
    obtain ⟨hm, ⟨⟨⟨hp, hi, _, _, _, hkg⟩, _⟩, _⟩, _, hfree, _⟩ := find?_some hm
    have hend : (evidencedConnection revoked outcome m).state ≠ .active := by
      cases revoked <;> exact fun hs => nomatch hs
    exact ⟨rfl, .ended (v := db.vault) hm ⟨.of_end rfl rfl rfl rfl rfl rfl hend, hend, rfl, hfree⟩
      (destroyGeneration_spent hp.symm hi.symm hkg.symm)⟩

/-! ## revocations -/

theorem endedConnection_ended {state} (hs : state ≠ .active) (outcome : String)
    (disconnectedAt : Option Instant) (c : ManagedConnection) :
    Ended c (endedConnection state outcome disconnectedAt c) :=
  ⟨.of_end rfl rfl rfl rfl rfl rfl hs, hs, rfl, rfl⟩

theorem RevocationDisposition.endState_ne (d : RevocationDisposition) : d.endState ≠ .active := by
  cases d <;> exact fun h => nomatch h

theorem terminalizeOneAmbiguousRevocation_call {connectionId}
    (h : terminalizeOneAmbiguousRevocation connectionId now db = .ok done) :
    VaultCall actor db done.db := by
  unfold terminalizeOneAmbiguousRevocation at h
  split at h
  · cases h; exact .refl _
  · rename_i m hm
    obtain ⟨request, _, _, hgone, h⟩ := peel₂ h
    cases h
    exact ⟨rfl, .ended (v := db.vault) (find?_some hm).1
      (endedConnection_ended request.disposition.endState_ne _ _ m)
      (.of_destroyed (ensure_ok.mp hgone))⟩

theorem terminalizeOneStaleRevocation_call {connectionId}
    (h : terminalizeOneStaleRevocation connectionId now db = .ok done) :
    VaultCall actor db done.db := by
  unfold terminalizeOneStaleRevocation at h
  split at h
  · cases h; exact .refl _
  · rename_i m hm
    obtain ⟨request, _, h⟩ := bind_ok.mp h
    cases h
    exact ⟨rfl, .ended (v := db.vault) (find?_some hm).1
      (endedConnection_ended request.disposition.endState_ne _ _ m)
      (destroyGeneration_spent rfl rfl rfl)⟩

theorem claimForRevocation_call {c done} (h : claimForRevocation c db = .ok done) :
    VaultCall actor db done.db := by
  obtain ⟨_, _, m, hm, _, _, h⟩ := peel₃ h
  obtain ⟨_, _, _, h⟩ := later₃ h
  cases h
  exact ⟨rfl, .of_quiet (v := db.vault) (find_ok hm).1 (leasedConnection_quiet _ _ _ m)⟩

theorem markRevocationDispatched_call {c} (h : markRevocationDispatched c now db = .ok done) :
    VaultCall actor db done.db := by
  obtain ⟨ok, _, h⟩ := bind_ok.mp h
  dsimp only at h
  split at h
  · cases h; exact .refl _
  · rename_i m hfound
    cases h
    obtain ⟨_, _, m', hm, _, _, hfound⟩ := bind_some₃.mp hfound
    cases hfound
    obtain ⟨hm, ⟨hp, hi, _, _, _, hkg⟩, _⟩ := find?_some hm
    exact ⟨rfl, .dispatched (v := db.vault) hm ⟨rfl, rfl, rfl, rfl, rfl⟩
      (destroyGeneration_spent hp.symm hi.symm hkg.symm)⟩

theorem finishRevocation_call {c result done} (h : finishRevocation c result now db = .ok done) :
    VaultCall actor db done.db := by
  obtain ⟨m, hm, request, _, _, hgone, h⟩ := peel₃ h
  cases h
  have hend : (revocationFinished request.disposition result now m).state ≠ .active := by
    cases request.disposition <;> cases result <;> exact fun h => nomatch h
  exact ⟨rfl, .ended (v := db.vault) (find_ok hm).1
    ⟨.of_end rfl rfl rfl rfl rfl rfl hend, hend, rfl, rfl⟩ (.of_destroyed (ensure_ok.mp hgone))⟩

theorem releaseRevocationClaim_call {c}
    (h : releaseRevocationClaim c db = .ok done) : VaultCall actor db done.db := by
  unfold releaseRevocationClaim at h
  split at h
  · cases h; exact .refl _
  · rename_i m hm
    cases h
    exact ⟨rfl, .of_quiet (v := db.vault) (find?_some hm).1 ⟨rfl, rfl, rfl, rfl, rfl⟩⟩

theorem finishRewrap_vault {c expectedKeyVersion}
    (hheld : GuardHeld db.vault c.guard) (hvalue : value.ciphertext.context = contextFor c.guard)
    (hkey : value.ciphertext.sealedUnder = value.keyVersion)
    (h : finishRewrap c expectedKeyVersion value now db = .ok done) :
    VaultStep actor db.vault done.db.vault := by
  obtain ⟨_, h⟩ := later h
  dsimp only at h
  split at h
  · cases h; exact .refl _ _
  · rename_i m k hfound
    cases h
    obtain ⟨m', hm, k', hk, hfound⟩ := bind_some₂.mp hfound
    cases hfound
    obtain ⟨hm, ⟨_, hi, _, hr, _, _⟩, _⟩ := find?_some hm
    obtain ⟨hk, hread, _⟩ := find?_some hk
    have hg : GuardOf c.guard m := hheld.guardOf hm hi hr
    refine .rewrapped (v := db.vault) hm ⟨rfl, rfl, rfl, rfl, rfl⟩ hk ?_
      ⟨hvalue.trans hg.context, hkey⟩
    rw [hg.projectId, hg.connectionId, hg.credentialGeneration] at hread
    exact hread

/-! ## logins and reauthorizations -/

theorem reconnectIdentity_vault {identity existing}
    (hmem : existing ∈ db.managedConnections) (hfree : existing.revocationRequest = none)
    (h : reconnectIdentity u identity existing db = .ok db') :
    VaultStep .consent db.vault db'.vault := by
  obtain ⟨_, _, _, hi, h⟩ := peel₂ h
  cases h
  refine .reconnected (v := db.vault) hmem hfree ?_
    (show SealedFor _ (protectCredential u.keyVersion _ u.grant.credential) from ⟨rfl, rfl⟩) ?_ ?_ rfl
  · exact ⟨.of_credential rfl rfl rfl rfl rfl rfl, rfl, rfl, rfl, rfl, rfl⟩
  · exact Stored.of_insert (f := supersededCredential u.now) (fun k hk => hk.1)
      (fun _ => ⟨rfl, rfl, rfl, rfl, .inr rfl⟩) (fun _ => rfl)
      (sealedCredentialRow_for rfl rfl rfl rfl) (insertRow_ok hi).2
  · exact evolves_update OperationDropped.refl (f := supersededRenewal u.now) (fun _ => rfl)
      fun _ _ ho => .of_open ho.2.2.2.2 rfl rfl (by rintro (h | h) <;> cases h) nofun

theorem upsertManagedConnection_vault (h : upsertManagedConnection env u db = .ok db') :
    VaultStep .consent db.vault db'.vault := by
  obtain ⟨_, _, identity, _, h⟩ := peel₂ h
  split at h
  · obtain ⟨connections, hc, credentials, hk, h⟩ := peel₂ h
    cases h
    exact .connected (v := db.vault) (c := newConnection u (env.newUuid 0) identity) rfl rfl
      (sealedCredentialRow_for rfl rfl rfl rfl)
      ⟨rfl, rfl⟩ (insertRow_ok hc).2
      (insertRow_ok hk).2 rfl
  · rename_i existing hex
    obtain ⟨_, h⟩ := later h
    split at h
    · cases h; exact .refl _ _
    · rename_i hnot
      refine reconnectIdentity_vault (find?_some hex).1 ?_ h
      cases hreq : existing.revocationRequest with
      | none => rfl
      | some request => exact absurd (.inl (by rw [hreq]; rfl)) hnot

theorem completeReauthorizationCallback_vault {record successor done}
    (hvalue : successor.ciphertext.context = reauthorizedContext record.interaction.frozen)
    (hkey : successor.ciphertext.sealedUnder = successor.keyVersion)
    (h : completeReauthorizationCallback record successor now db = .ok done) :
    VaultStep .consent db.vault done.db.vault := by
  obtain ⟨_, m, _, hdone⟩ := completeReauthorizationCallback_ok h
  obtain ⟨m', hm', _, hid, _, hprov, hident, _, _, _, hfree⟩ := hdone.current.connection
  have hm := hdone.connection
  have hmi := hdone.connectionId
  have hmp := hdone.projectId
  have hmg := hdone.generation
  have hmk := hdone.credentialGeneration
  have he : m' = m := eq_of_key hm' hm (hid.trans hmi.symm)
  rw [he] at hprov hident hfree
  have hgen : (reauthorizedConnection record.interaction now m).generation = m.generation + 1 := by
    rw [hmg]; rfl
  have hcred : (reauthorizedConnection record.interaction now m).credentialGeneration
      = m.credentialGeneration + 1 := by
    rw [hmk]; rfl
  have hctx : reauthorizedContext record.interaction.frozen
      = (reauthorizedConnection record.interaction now m).context := by
    unfold reauthorizedContext ManagedConnection.context reauthorizedConnection
    rw [hmp, hmi, hprov, hident]
  rw [hdone.written]
  have hre : Reconnected m (reauthorizedConnection record.interaction now m) :=
    ⟨.of_credential rfl rfl rfl rfl hgen hcred, rfl, rfl, hgen, hcred, rfl⟩
  refine .reconnected (v := db.vault) (c := m) hm hfree hre ⟨hvalue.trans hctx, hkey⟩ ?_
    (.refl .refl _) rfl
  · refine Stored.of_insert (f := replacedCredential now) (fun k hk => ?_)
      (fun _ => ⟨rfl, rfl, rfl, rfl, .inr rfl⟩) (fun _ => rfl) ?_ hdone.stored
    · rw [← hmp, ← hmi]
      exact hk.1
    · rw [hctx]
      exact sealedCredentialRow_for rfl rfl rfl rfl

theorem commitProfileForGuard_vault {c}
    (h : commitProfileForGuard env c db = .ok done) : VaultStep actor db.vault done.db.vault := by
  obtain ⟨ok, _, h⟩ := bind_ok.mp h
  split at h
  · cases h; exact .refl _ _
  · rename_i rows hrows
    obtain ⟨db₁, hf, h⟩ := bind_ok.mp h
    cases h
    have hlock : lockProfileRows c db = some rows := by
      cases ok with
      | true => exact hrows
      | false => cases hrows
    obtain ⟨m, hm, _, _, _, _, hlock⟩ := bind_some₃.mp hlock
    obtain ⟨_, _, hlock⟩ := Option.bind_eq_some_iff.mp hlock
    cases hlock
    have hsame : db₁.vault = db.vault := by
      unfold followProfile at hf
      split at hf
      · obtain ⟨_, _, _, _, rfl⟩ := fanOutUser_frame hf
        rfl
      · cases hf; rfl
    have hdb : db₁.managedConnections = db.managedConnections := congrArg Vault.connections hsame
    have hcr : db₁.managedCredentials = db.managedCredentials := congrArg Vault.credentials hsame
    have hop : db₁.renewalOperations = db.renewalOperations := congrArg Vault.operations hsame
    show VaultStep actor db.vault ⟨db₁.managedConnections.set _, db₁.managedCredentials,
      db₁.renewalOperations⟩
    rw [hdb, hcr, hop]
    exact .of_quiet (v := db.vault) (c := m) (find?_some hm).1 ⟨rfl, rfl, rfl, rfl, rfl⟩

/-! ## changes of the identity, the project and the operator -/

theorem disconnectManagedIdentity_vault {projectId identityId}
    (h : disconnectManagedIdentity projectId identityId now db = .ok db') :
    VaultStep actor db.vault db'.vault := by
  unfold disconnectManagedIdentity at h
  split at h
  · cases h; exact .refl _ _
  · rename_i c hc
    split at h
    · cases h; exact .refl _ _
    · obtain ⟨_, h⟩ := later h
      cases h
      obtain ⟨hc, hp, _⟩ := find?_some hc
      exact .ended (v := db.vault) hc (endedConnection_ended (by decide) _ _ c)
        (destroyGeneration_spent hp.symm rfl rfl)

theorem moveManagedConnections_vault (m : MoveManagedConnections) (db) :
    VaultStep actor db.vault (moveManagedConnections m db).vault := by
  refine .merged (v := db.vault)
    (evolves_update (fun c => ⟨.refl c, rfl, rfl, rfl⟩) (ownerMerged_id m db.identities)
      fun c _ _ => ?_)
  unfold ownerMerged
  split
  · exact ⟨.refl c, rfl, rfl, rfl⟩
  · exact ⟨.of_next rfl rfl rfl rfl (Int.le_refl _) (Int.le_refl _) fun _ hs => ⟨hs, rfl⟩, rfl, rfl,
      rfl⟩

theorem eraseManagedConnections_vault (projectId : Uuid) (now db) :
    VaultStep actor db.vault (eraseManagedConnections projectId now db).vault := by
  refine .erased (v := db.vault) ?_ ?_ ?_
  · exact evolves_update Quiet.refl (f := idledConnection) (fun _ => rfl)
      fun _ _ _ => ⟨rfl, rfl, rfl, rfl, rfl⟩
  · exact evolves_update CredentialMove.refl (f := destroyedCredential now) (fun _ => rfl)
      fun _ _ _ => ⟨rfl, rfl, rfl, rfl, .inr rfl⟩
  · exact evolves_update OperationDropped.refl (f := abandonedRenewal now) (fun _ => rfl)
      fun _ _ ho => .of_open ho.2 rfl rfl (by rintro (h | h) <;> cases h) nofun

variable {done : Committed ManagedConnection} {c : ChangeManagedConnection}

theorem requestSynchronize_call (h : requestSynchronize c db = .ok done) :
    VaultCall actor db done.db := by
  obtain ⟨_, hm, h⟩ := bind_ok.mp h
  cases h
  exact ⟨rfl, .of_quiet (v := db.vault) (find_ok hm).1 ⟨rfl, rfl, rfl, rfl, rfl⟩⟩

theorem disconnect_call (h : disconnect c db = .ok done) : VaultCall (.asks c) db done.db := by
  obtain ⟨m, hm, _, hfree, h⟩ := peel₂ h
  obtain ⟨hm, hnamed, _⟩ := find_ok hm
  obtain ⟨hfree, hunleased⟩ := ensure_ok.mp hfree
  split at h
  · rename_i hrev
    cases h
    exact ⟨rfl, .requested (v := db.vault) hm hrev.1 hfree
      ⟨c, rfl, hnamed, hrev.1, hrev.2.1, hfree, hunleased⟩⟩
  · cases h
    have hend : (locallyDisconnected c.now m).state ≠ .active := fun hs => nomatch hs
    exact ⟨rfl, .ended (v := db.vault) hm ⟨.of_end rfl rfl rfl rfl rfl rfl hend, hend, rfl, rfl⟩
      (destroyGeneration_spent rfl rfl rfl)⟩

theorem requestRevocation_call (h : requestRevocation c db = .ok done) :
    VaultCall (.asks c) db done.db := by
  obtain ⟨_, hm, h⟩ := bind_ok.mp h
  cases h
  obtain ⟨hm, hadmits⟩ := find_ok hm
  exact ⟨rfl, .requested (v := db.vault) hm hadmits.2.1 hadmits.2.2.2.1 ⟨c, rfl, hadmits⟩⟩

end

end OwlAuth
