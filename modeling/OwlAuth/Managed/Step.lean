import OwlAuth.Base.Fence
import OwlAuth.Managed.Profile
import OwlAuth.Managed.Revocation

/-!
# What a transaction does to managed connections

* `ConnectionMove`, `CredentialMove`, `OperationMove`  how one row can change: the revision of a
    connection fences what it stands for, a credential is never read again once
    it was destroyed, a renewal never goes back;
* `Spent`, `Stored`  what happens to the credentials of a connection that loses its credential, or
    gets another one;
* `VaultStep`  everything a transaction can do to the three tables.  The index is the worker
    that moves a renewal, if one does: a renewal is submitted, succeeds and ends
    only by the worker that holds it (`RenewalActor.ActsOn`).
-/

namespace OwlAuth

open Fallible Table

/-! ## rows -/

/-- what a revision of a connection stands for -/
structure ConnectionView where
  (providerConfigurationId userId : Uuid)
  state : ConnectionState
  (generation credentialGeneration : Int)
  revocationRequest : Option RevocationRequest

def ManagedConnection.view (c : ManagedConnection) : ConnectionView :=
  ⟨c.providerConfigurationId, c.userId, c.state, c.generation, c.credentialGeneration,
    c.revocationRequest⟩

structure ConnectionMove (c c' : ManagedConnection) : Prop where
  id : c'.id = c.id
  projectId : c'.projectId = c.projectId
  linkedIdentityId : c'.linkedIdentityId = c.linkedIdentityId
  generation : c.generation ≤ c'.generation
  credentialGeneration : c.credentialGeneration ≤ c'.credentialGeneration
  /-- an active connection has one generation for each credential -/
  lasting : c'.credentialGeneration = c.credentialGeneration → c'.state = .active →
    c.state = .active ∧ c'.generation = c.generation
  fenced : Fence.Fenced ManagedConnection.revision ManagedConnection.view c c'

theorem ConnectionMove.refl (c : ManagedConnection) : ConnectionMove c c :=
  ⟨rfl, rfl, rfl, Int.le_refl _, Int.le_refl _, fun _ hs => ⟨hs, rfl⟩, .refl c⟩

variable {a b c c' : ManagedConnection} {o o' : RenewalOperation} {t : Table ManagedCredential}
  {value : ProtectedCredential}

/-- a change that leaves everything alone a revision stands for, and the revision too -/
structure Quiet (c c' : ManagedConnection) : Prop where
  id : c'.id = c.id
  projectId : c'.projectId = c.projectId
  linkedIdentityId : c'.linkedIdentityId = c.linkedIdentityId
  revision : c'.revision = c.revision
  view : c'.view = c.view

theorem Quiet.refl (c : ManagedConnection) : Quiet c c := ⟨rfl, rfl, rfl, rfl, rfl⟩

theorem Quiet.trans (h : Quiet a b) (h' : Quiet b c) : Quiet a c :=
  ⟨h'.id.trans h.id, h'.projectId.trans h.projectId,
    h'.linkedIdentityId.trans h.linkedIdentityId, h'.revision.trans h.revision,
    h'.view.trans h.view⟩

theorem Quiet.move (h : Quiet c c') : ConnectionMove c c' :=
  ⟨h.id, h.projectId, h.linkedIdentityId,
    Int.le_of_eq (congrArg ConnectionView.generation h.view).symm,
    Int.le_of_eq (congrArg ConnectionView.credentialGeneration h.view).symm,
    fun _ hs => ⟨(congrArg ConnectionView.state h.view).symm.trans hs,
      congrArg ConnectionView.generation h.view⟩,
    .of_view (Int.le_of_eq h.revision.symm) h.view⟩

theorem Quiet.context (h : Quiet c c') : c'.context = c.context := by
  have hp := congrArg ConnectionView.providerConfigurationId h.view
  have hg := congrArg ConnectionView.generation h.view
  have hk := congrArg ConnectionView.credentialGeneration h.view
  dsimp only [ManagedConnection.view] at hp hg hk
  unfold ManagedConnection.context
  rw [h.id, h.projectId, h.linkedIdentityId, hp, hg, hk]

section
variable (id : c'.id = c.id) (projectId : c'.projectId = c.projectId)
  (linkedIdentityId : c'.linkedIdentityId = c.linkedIdentityId)
  (revision : c'.revision = c.revision + 1)
include id projectId linkedIdentityId revision

theorem ConnectionMove.of_next (generation : c.generation ≤ c'.generation)
    (credentialGeneration : c.credentialGeneration ≤ c'.credentialGeneration)
    (lasting : c'.credentialGeneration = c.credentialGeneration → c'.state = .active →
      c.state = .active ∧ c'.generation = c.generation) : ConnectionMove c c' :=
  ⟨id, projectId, linkedIdentityId, generation, credentialGeneration, lasting,
    .of_lt (by show c.revision < c'.revision; omega)⟩

theorem ConnectionMove.of_end (generation : c'.generation = c.generation + 1)
    (credentialGeneration : c'.credentialGeneration = c.credentialGeneration)
    (state : c'.state ≠ .active) : ConnectionMove c c' :=
  .of_next id projectId linkedIdentityId revision (by omega) (Int.le_of_eq credentialGeneration.symm)
    fun _ hs => absurd hs state

theorem ConnectionMove.of_credential (generation : c'.generation = c.generation + 1)
    (credentialGeneration : c'.credentialGeneration = c.credentialGeneration + 1) :
    ConnectionMove c c' :=
  .of_next id projectId linkedIdentityId revision (by omega) (by omega) fun hk _ => by omega

end

/-- what a credential holds goes once and for all -/
structure CredentialMove (k k' : ManagedCredential) : Prop where
  projectId : k'.projectId = k.projectId
  connectionId : k'.connectionId = k.connectionId
  connectionGeneration : k'.connectionGeneration = k.connectionGeneration
  credentialGeneration : k'.credentialGeneration = k.credentialGeneration
  content : (k'.ciphertext = k.ciphertext ∧ k'.keyVersion = k.keyVersion) ∨ k'.ciphertext = none

theorem CredentialMove.refl (k : ManagedCredential) : CredentialMove k k :=
  ⟨rfl, rfl, rfl, rfl, .inl ⟨rfl, rfl⟩⟩

/-- a renewal that has an outcome keeps it -/
def RenewalOperationState.Before (s s' : RenewalOperationState) : Prop :=
  s' = s ∨ s = .prepared ∨ (s = .submitted ∧ s' ≠ .prepared)

structure RenewalIdentity where
  (id projectId connectionId attemptId : Uuid)
  (expectedConnectionGeneration expectedCredentialGeneration : Int)

def RenewalOperation.identity (o : RenewalOperation) : RenewalIdentity :=
  ⟨o.id, o.projectId, o.connectionId, o.attemptId, o.expectedConnectionGeneration,
    o.expectedCredentialGeneration⟩

structure OperationMove (o o' : RenewalOperation) : Prop where
  identity : o'.identity = o.identity
  state : o.state.Before o'.state
  /-- that it was submitted stays on record -/
  submittedAt : o.submittedAt.isSome = true → o'.submittedAt.isSome = true
  stamped : o'.state = .submitted → o.state = .submitted ∨ o'.submittedAt.isSome = true

theorem OperationMove.refl (o : RenewalOperation) : OperationMove o o :=
  ⟨rfl, .inl rfl, id, .inl⟩

/-- only the lease changes -/
structure OperationKept (o o' : RenewalOperation) : Prop where
  identity : o'.identity = o.identity
  state : o'.state = o.state
  submittedAt : o'.submittedAt = o.submittedAt

theorem OperationKept.refl (o : RenewalOperation) : OperationKept o o := ⟨rfl, rfl, rfl⟩

theorem OperationKept.move (h : OperationKept o o') : OperationMove o o' :=
  ⟨h.identity, .inl h.state, fun hs => by rw [h.submittedAt]; exact hs,
    fun hs => .inl (h.state.symm.trans hs)⟩

theorem OperationMove.of_open (h : o.Open) (hi : o'.identity = o.identity)
    (hat : o'.submittedAt = o.submittedAt) (hs : ¬ o'.Open) : OperationMove o o' := by
  refine ⟨hi, ?_, fun ha => by rw [hat]; exact ha, fun ha => absurd (.inr ha) hs⟩
  rcases h with h | h
  · exact .inr (.inl h)
  · exact .inr (.inr ⟨h, fun hp => hs (.inl hp)⟩)

/-- the renewal was left as it was, or dropped without a result -/
structure OperationDropped (o o' : RenewalOperation) : Prop where
  move : OperationMove o o'
  state : o'.state = o.state ∨ (¬ o'.Open ∧ o'.state ≠ .successorCommitted)

theorem OperationDropped.refl (o : RenewalOperation) : OperationDropped o o := ⟨.refl o, .inl rfl⟩

theorem OperationDropped.of_open (h : o.Open) (hi : o'.identity = o.identity)
    (hat : o'.submittedAt = o.submittedAt) (hs : ¬ o'.Open) (hn : o'.state ≠ .successorCommitted) :
    OperationDropped o o' :=
  ⟨.of_open h hi hat hs, .inr ⟨hs, hn⟩⟩

/-! ## credentials of one connection -/

def CurrentCredential (c : ManagedConnection) (k : ManagedCredential) : Prop :=
  ReadableGeneration c.projectId c.id c.credentialGeneration k

/-- the current credential of a connection is gone; others may be gone with it -/
structure Spent (c : ManagedConnection) (t t' : Table ManagedCredential) : Prop where
  moved : Evolves CredentialMove (fun _ => False) t t'
  gone : ∀ k ∈ t', ¬ CurrentCredential c k

structure CredentialFor (c : ManagedConnection) (value : ProtectedCredential)
    (k : ManagedCredential) : Prop where
  projectId : k.projectId = c.projectId
  connectionId : k.connectionId = c.id
  connectionGeneration : k.connectionGeneration = c.generation
  credentialGeneration : k.credentialGeneration = c.credentialGeneration
  keyVersion : k.keyVersion = value.keyVersion
  ciphertext : k.ciphertext = some value.ciphertext

/-- the current credential of `c` is gone, and `value` is stored for `c'` -/
structure Stored (c c' : ManagedConnection) (value : ProtectedCredential)
    (t t' : Table ManagedCredential) : Prop where
  forward : ∀ k ∈ t, ∃ k' ∈ t', CredentialMove k k'
  backward : ∀ k' ∈ t', (∃ k ∈ t, CredentialMove k k' ∧ ¬ CurrentCredential c k')
    ∨ CredentialFor c' value k'
  added : ∃ k' ∈ t', CredentialFor c' value k' ∧ ∀ k ∈ t, Keyed.key k ≠ Keyed.key k'

structure SealedFor (c : ManagedConnection) (value : ProtectedCredential) : Prop where
  context : value.ciphertext.context = c.context
  sealedUnder : value.ciphertext.sealedUnder = value.keyVersion

theorem destroyGeneration_spent {now projectId connectionId credentialGeneration}
    (hp : projectId = c.projectId) (hi : connectionId = c.id)
    (hg : credentialGeneration = c.credentialGeneration) :
    Spent c t (destroyGeneration t projectId connectionId credentialGeneration now) := by
  rw [hp, hi, hg]
  constructor
  · exact evolves_update .refl _ fun _ _ _ => ⟨rfl, rfl, rfl, rfl, .inr rfl⟩
  · intro k hk hcur
    rcases mem_update.mp hk with ⟨_, hn⟩ | ⟨_, _, _, rfl⟩
    · exact hn hcur
    · exact absurd hcur.1.2.2 (by simp [destroyedCredential])

theorem Spent.of_destroyed (h : CredentialDestroyed t c) : Spent c t t := by
  obtain ⟨k, hk, hp, hi, hg, hn, _⟩ := h
  refine ⟨.refl .refl t, fun o ho hcur => ?_⟩
  obtain ⟨⟨hop, hoi, hor⟩, hog⟩ := hcur
  have he : o = k := eq_of_key ho hk
    (Prod.ext (hop.trans hp.symm) (Prod.ext (hoi.trans hi.symm) (hog.trans hg.symm)))
  rw [he, hn] at hor
  cases hor

theorem Stored.of_insert {t' k p} [DecidablePred p] {f hf} (hp : ∀ k, CurrentCredential c k → p k)
    (hm : ∀ k, CredentialMove k (f k)) (hn : ∀ k, (f k).ciphertext = none)
    (hk : CredentialFor c' value k) (hi : (t.update p f hf).insert k = some t') :
    Stored c c' value t t' := by
  have hold : ∀ o ∈ t.update p f hf, ∃ o₀ ∈ t, CredentialMove o₀ o ∧ ¬ CurrentCredential c o := by
    intro o ho
    rcases mem_update.mp ho with ⟨ho, hnp⟩ | ⟨o₀, ho₀, _, rfl⟩
    · exact ⟨o, ho, .refl o, fun hc => hnp (hp o hc)⟩
    · refine ⟨o₀, ho₀, hm o₀, fun hc => ?_⟩
      have := hc.1.2.2
      rw [hn o₀] at this
      cases this
  refine ⟨?_, ?_, ?_⟩
  · intro o ho
    by_cases h : p o
    · exact ⟨f o, (mem_insert hi).mpr (.inl (mem_update.mpr (.inr ⟨o, ho, h, rfl⟩))), hm o⟩
    · exact ⟨o, (mem_insert hi).mpr (.inl (mem_update.mpr (.inl ⟨ho, h⟩))), .refl o⟩
  · intro o ho
    rcases (mem_insert hi).mp ho with ho | rfl
    · exact .inl (hold o ho)
    · exact .inr hk
  · have hmem : k ∈ t' := (mem_insert hi).mpr (.inr rfl)
    exact ⟨k, hmem, hk, (new_of_insert hi hmem).mpr rfl⟩

theorem sealedCredentialRow_for {context}
    (hp : context.projectId = c.projectId) (hi : context.connectionId = c.id)
    (hg : context.connectionGeneration = c.generation)
    (hk : context.credentialGeneration = c.credentialGeneration) :
    CredentialFor c value (sealedCredentialRow context value) :=
  ⟨hp, hi, hg, hk, rfl, rfl⟩

/-! ## steps -/

structure RenewsNow (c : ManagedConnection) (o : RenewalOperation) : Prop where
  projectId : o.projectId = c.projectId
  connectionId : o.connectionId = c.id
  connectionGeneration : o.expectedConnectionGeneration = c.generation
  credentialGeneration : o.expectedCredentialGeneration = c.credentialGeneration

structure Ended (c c' : ManagedConnection) : Prop where
  move : ConnectionMove c c'
  state : c'.state ≠ .active
  revision : c'.revision = c.revision + 1
  free : c'.revocationRequest = none

structure Reconnected (c c' : ManagedConnection) : Prop where
  move : ConnectionMove c c'
  state : c'.state = .active
  revision : c'.revision = c.revision + 1
  generation : c'.generation = c.generation + 1
  credentialGeneration : c'.credentialGeneration = c.credentialGeneration + 1
  request : c'.revocationRequest = c.revocationRequest

structure OwnerMoved (c c' : ManagedConnection) : Prop where
  move : ConnectionMove c c'
  context : c'.context = c.context
  state : c'.state = c.state
  request : c'.revocationRequest = c.revocationRequest

/-- a worker that moves a renewal, with the clock it brings -/
structure RenewalActor where
  renewal : PreparedRenewal
  now : Instant

/-- who moves the vault: a worker that moves a renewal, somebody who brings a credential from the
provider (a login or a reauthorization), the operator that asks for a revocation, or anybody else -/
inductive VaultActor
  | worker (a : RenewalActor)
  | consent
  | asks (c : ChangeManagedConnection)
  | other

instance : Membership RenewalActor VaultActor := ⟨fun actor a => actor = .worker a⟩

/-- the connection is as the worker knows it, and the operation is the one the worker holds -/
structure RenewalActor.ActsOn (a : RenewalActor) (c : ManagedConnection) (o : RenewalOperation) :
    Prop where
  connectionId : c.id = a.renewal.claim.guard.connectionId
  revision : c.revision = a.renewal.claim.guard.connectionRevision
  operation : o.id = a.renewal.operationId
  owner : o.leaseOwner = some a.renewal.claim.leaseOwner
  unexpired : ∃ expiry ∈ o.leaseExpiresAt, a.now < expiry

inductive VaultStep (actor : VaultActor) (v : Vault) : Vault → Prop
  | touched {cs : Table ManagedConnection} {os : Table RenewalOperation}
      (connections : Evolves Quiet (fun _ => False) v.connections cs)
      (operations : Evolves OperationKept (fun _ => False) v.operations os) :
      VaultStep actor v ⟨cs, v.credentials, os⟩
  | prepared {c c' : ManagedConnection} {k : ManagedCredential} {o : RenewalOperation}
      {os : Table RenewalOperation} (mem : c ∈ v.connections) (quiet : Quiet c c')
      (active : c.state = .active) (free : c.revocationRequest = none)
      (credential : k ∈ v.credentials) (readable : CurrentCredential c k) (renews : RenewsNow c o)
      (fresh : o.state = .prepared)
      (first : ∀ o' ∈ v.operations, ¬ (o'.projectId = c.projectId ∧ o'.connectionId = c.id
        ∧ o'.expectedConnectionGeneration = c.generation))
      (inserted : v.operations.insert o = some os) :
      VaultStep actor v ⟨v.connections.set c', v.credentials, os⟩
  | submitted {c : ManagedConnection} {k : ManagedCredential} {o : RenewalOperation} {now : Instant}
      (mem : c ∈ v.connections) (active : c.state = .active)
      (credential : k ∈ v.credentials) (readable : CurrentCredential c k)
      (operation : o ∈ v.operations) (prepared : o.state = .prepared) (renews : RenewsNow c o)
      (acts : ∃ a ∈ actor, a.ActsOn c o) :
      VaultStep actor v { v with operations := v.operations.set (submittedRenewal now o) }
  | succeeded {c : ManagedConnection} {o : RenewalOperation} {value : ProtectedCredential}
      {now : Instant} {ks : Table ManagedCredential} (acts : ∃ a ∈ actor, a.ActsOn c o)
      (mem : c ∈ v.connections) (active : c.state = .active) (operation : o ∈ v.operations)
      (submitted : o.state = .submitted) (renews : RenewsNow c o)
      (sealed : SealedFor (successorConnection now c) value)
      (stored : Stored c (successorConnection now c) value v.credentials ks) :
      VaultStep actor v ⟨v.connections.set (successorConnection now c), ks,
        v.operations.set (committedRenewal now o)⟩
  | terminalized {c : ManagedConnection} {o : RenewalOperation} {outcome : String} {now : Instant}
      {ks : Table ManagedCredential} (mem : c ∈ v.connections) (operation : o ∈ v.operations)
      (isOpen : o.Open) (renews : RenewsNow c o) (spent : Spent c v.credentials ks)
      (acts : ∃ a ∈ actor, a.ActsOn c o) :
      VaultStep actor v ⟨v.connections.set (terminatedConnection .reauthRequired outcome c), ks,
        v.operations.set (terminatedRenewal .reauthRequired outcome now o)⟩
  | requested {c : ManagedConnection} {disposition : RevocationDisposition} {outcome : String}
      {now : Instant} (mem : c ∈ v.connections) (active : c.state = .active)
      (free : c.revocationRequest = none) (asks : ∃ r, actor = .asks r ∧ AdmitsRevocation r c) :
      VaultStep actor v { v with
        connections := v.connections.set (revocationRequested disposition outcome now c) }
  | dispatched {c c' : ManagedConnection} {ks : Table ManagedCredential} (mem : c ∈ v.connections)
      (quiet : Quiet c c') (spent : Spent c v.credentials ks) :
      VaultStep actor v ⟨v.connections.set c', ks, v.operations⟩
  | ended {c c' : ManagedConnection} {ks : Table ManagedCredential} (mem : c ∈ v.connections)
      (ended : Ended c c') (spent : Spent c v.credentials ks) :
      VaultStep actor v ⟨v.connections.set c', ks, v.operations⟩
  | reconnected {c c' : ManagedConnection} {value : ProtectedCredential}
      {ks : Table ManagedCredential} {os : Table RenewalOperation} (mem : c ∈ v.connections)
      (free : c.revocationRequest = none) (reconnected : Reconnected c c')
      (sealed : SealedFor c' value) (stored : Stored c c' value v.credentials ks)
      (operations : Evolves OperationDropped (fun _ => False) v.operations os)
      (consent : actor = .consent) :
      VaultStep actor v ⟨v.connections.set c', ks, os⟩
  | connected {c : ManagedConnection} {value : ProtectedCredential} {k : ManagedCredential}
      {cs : Table ManagedConnection} {ks : Table ManagedCredential} (active : c.state = .active)
      (free : c.revocationRequest = none) (holds : CredentialFor c value k)
      (sealed : SealedFor c value) (inserted : v.connections.insert c = some cs)
      (stored : v.credentials.insert k = some ks) (consent : actor = .consent) :
      VaultStep actor v ⟨cs, ks, v.operations⟩
  | merged {cs : Table ManagedConnection}
      (connections : Evolves OwnerMoved (fun _ => False) v.connections cs) :
      VaultStep actor v { v with connections := cs }
  | erased {cs : Table ManagedConnection} {ks : Table ManagedCredential}
      {os : Table RenewalOperation}
      (connections : Evolves Quiet (fun _ => False) v.connections cs)
      (credentials : Evolves CredentialMove (fun _ => False) v.credentials ks)
      (operations : Evolves OperationDropped (fun _ => False) v.operations os) :
      VaultStep actor v ⟨cs, ks, os⟩
  | rewrapped {c c' : ManagedConnection} {k : ManagedCredential} {value : ProtectedCredential}
      (mem : c ∈ v.connections) (quiet : Quiet c c') (credential : k ∈ v.credentials)
      (readable : CurrentCredential c k) (sealed : SealedFor c value) :
      VaultStep actor v ⟨v.connections.set c', v.credentials.set (rewrappedCredential value k),
        v.operations⟩

theorem VaultStep.refl (actor : VaultActor) (v : Vault) : VaultStep actor v v :=
  .touched (.refl .refl _) (.refl .refl _)

end OwlAuth
