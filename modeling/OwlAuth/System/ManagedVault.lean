import OwlAuth.Managed.Workers

/-!
# The vault of a deployment

* `step_vault`  every call that carries no worker's memory is a step of the vault that moves
    no renewal;
* `step_reauthorizations` every call moves interactions forward;
* `Task.Right`  what a worker remembers is right: its guard is held, its renewal is of the
    credential its guard names, its interaction is stored;
* `Task.advance_stepped`  the next step of a worker is a step of the vault by that worker;
* `deployment_sound`  so the vault of a deployment is sound in every reachable state.
-/

namespace OwlAuth

open Fallible Table WorkerOutcome

variable {env : Environment} {c : PrepareNextRenewal} {provider : ProviderConfiguration}
  {resolved : ResolvedUser} {db db' : Database} {α : Type} {body : Tx (Committed α)}
  {g : ConnectionGuard} {v : Vault} {o o' : RenewalOperation} {r : PreparedRenewal}
  {record : ReauthorizationRecord} {t u : Task} {done : Committed (Option PreparedRenewal)}
  {d : Deployment}

/-! ## calls -/

def Call.actor (c : Call) : VaultActor :=
  match c.op with
  | .completion _ => .consent
  | .managed o => o.actor
  | _ => .other

section
variable {actor : VaultActor}

theorem keepCredential_vault {c login}
    (h : keepCredential env c login provider resolved db = .ok db') :
    VaultStep .consent db.vault db'.vault := by
  unfold keepCredential at h
  split at h
  · cases h; exact .refl _ _
  · split at h
    · obtain ⟨_, h⟩ := later h
      exact upsertManagedConnection_vault h
    · cases h; exact .refl _ _

theorem ProviderIssued.vault {c login owner db₁ db₂ ticket}
    (h : ProviderIssued env c db login provider owner db₁ resolved db₂ db' ticket) :
    VaultStep .consent db.vault db'.vault := by
  obtain ⟨_, _, hf₁⟩ := storeIdentity_frame h.stored
  obtain ⟨_, _, _, _, hf₂⟩ := announceProfile_frame h.announced
  have hsame : db₂.vault = db.vault := by
    dsimp only at hf₁
    rw [hf₂, hf₁]
    rfl
  have hk : VaultStep .consent db₂.vault _ := keepCredential_vault h.kept
  rw [hsame] at hk
  exact hk

theorem VaultStep.of_eq {v'} (h : v' = v) : VaultStep actor v v' := by
  rw [h]; exact .refl _ _

theorem CompletionOp.step_vault (o : CompletionOp) (env db) :
    VaultStep .consent db.vault (o.step env db).vault := by
  cases o with
  | completeAuthenticatedIdentity c =>
    refine execute_on Database.vault (.refl _ _) fun r h => ?_
    rcases completeAuthenticatedIdentity_ok h with h | ⟨_, _, _, _, _, _, _, h⟩
    · exact .of_eq (congrArg Database.vault h.frame :)
    · exact h.vault
  | confirmBrowserSessionReuse c =>
    refine execute_on Database.vault (.refl _ _) fun r h => ?_
    rcases confirmBrowserSessionReuse_ok h with h | ⟨_, _, _, h⟩
    · exact .of_eq (congrArg Database.vault h.frame :)
    · exact .of_eq (congrArg Database.vault h.frame :)
  | completeEmailProof c =>
    refine execute_on Database.vault (.refl _ _) fun r h => ?_
    obtain ⟨_, _, _, _, _, _, h⟩ := completeEmailProof_ok h
    obtain ⟨_, _, _, hf⟩ := storeEmailIdentity_frame h.stored
    dsimp only at hf
    exact .of_eq (by rw [h.frame, hf]; rfl)

theorem InteractionsMoved.vault (h : InteractionsMoved db db') :
    VaultStep actor db.vault db'.vault := by
  obtain ⟨_, rfl, _⟩ := h
  exact .refl _ _

theorem VaultStep.of_body (h : ∀ r, body = .ok r → VaultStep actor db.vault r.db.vault) :
    VaultStep actor db.vault (execute db body).vault :=
  execute_on Database.vault (.refl _ _) h

/-- **Every call** but those that carry a worker's memory is a step of the vault, by no worker. -/
theorem step_vault (call db) (hc : call.carries = false) :
    VaultStep call.actor db.vault (step call db).vault := by
  have hr := step_only call db
  obtain ⟨env, op⟩ := call
  cases op with
  | completion o => exact o.step_vault env db
  | configuration o =>
    rcases (o.step_owner env db).vault with hv | ⟨_, projectId, now, hv⟩
    · exact .of_eq hv
    · have he : VaultStep .other db.vault _ := eraseManagedConnections_vault projectId now db
      rw [← hv] at he
      exact he
  | confirmation c => exact (step_confirmation env c db).vault .other
  | managed o => exact (o.plain env db hc).elim VaultCall.step InteractionsMoved.vault
  | login o => exact .of_eq (congrArg Database.vault (o.step_login env db).frame :)
  | _ => exact .of_eq (congrArg Database.vault hr :)

/-- **Every call** but those moves interactions forward, opens new ones and completes none. -/
theorem step_reauthorizations (call db) (hc : call.carries = false) :
    Evolves (InteractionMove false) Opened db.reauthorizations (step call db).reauthorizations := by
  have hr := step_only call db
  obtain ⟨env, op⟩ := call
  cases op with
  | managed o =>
    rcases o.plain env db hc with h | ⟨_, h, ht⟩
    · exact .of_eq .refl (congrArg Database.reauthorizations h.only :)
    · show Evolves _ _ _ (o.step env db).reauthorizations
      rw [h]
      exact ht
  | _ => exact .of_eq .refl (congrArg Database.reauthorizations hr :)

end

/-! ## what a worker remembers -/

def ConnectionGuard.credentialName (g : ConnectionGuard) : CredentialName :=
  ⟨g.projectId, g.connectionId, g.connectionGeneration, g.credentialGeneration⟩

/-- the renewal of a worker is stored, and of the credential the worker's guard names -/
structure RenewalHeld (v : Vault) (r : PreparedRenewal) : Prop where
  guard : GuardHeld v r.claim.guard
  operation : ∃ o ∈ v.operations, o.id = r.operationId
    ∧ o.credentialName = r.claim.guard.credentialName

def RenewalSubmitted (v : Vault) (r : PreparedRenewal) : Prop :=
  ∃ o ∈ v.operations, o.id = r.operationId ∧ o.state ≠ .prepared ∧ o.submittedAt.isSome = true

def RecordHeld (db : Database) (record : ReauthorizationRecord) : Prop :=
  ∃ i ∈ db.reauthorizations, i.id = record.interaction.id
    ∧ i.frozen = record.interaction.frozen

def Task.Right (db : Database) : Task → Prop
  | renewing w => RenewalHeld db.vault w.renewal
      ∧ (w.renewal.operationState = .prepared ∨ RenewalSubmitted db.vault w.renewal)
  | dispatching w _ => RenewalHeld db.vault w.renewal ∧ RenewalSubmitted db.vault w.renewal
  | answered w _ => RenewalHeld db.vault w.renewal ∧ RenewalSubmitted db.vault w.renewal
  | fenced w => RenewalHeld db.vault w.renewal ∧ RenewalSubmitted db.vault w.renewal
  | rewrapping claim _ => GuardHeld db.vault claim.guard
  | exchanging record => RecordHeld db record
  | failing record => RecordHeld db record
  | _ => True

variable (i : Input)

/-- a worker that renews acts on its renewal, under its clock -/
def Task.actor : Task → VaultActor
  | renewing w => .worker ⟨w.renewal, i.now⟩
  | answered w _ => .worker ⟨w.renewal, i.now⟩
  | fenced w => .worker ⟨w.renewal, i.now⟩
  | exchanging _ => .consent
  | _ => .other

/-! ### what the changes of others leave of it -/

theorem VaultStep.operation {actor v'} (h : VaultStep actor v v')
    (ho : o ∈ v.operations) : ∃ o' ∈ v'.operations, OperationMove o o' := by
  rcases h.operations with hm | ⟨_, _, hi⟩
  · exact hm.forward o ho
  · exact ⟨o, (mem_insert hi).mpr (.inl ho), .refl o⟩

theorem OperationMove.id (h : OperationMove o o') : o'.id = o.id :=
  congrArg RenewalIdentity.id h.identity

theorem OperationMove.submitted (h : OperationMove o o') (hs : o.state ≠ .prepared) :
    o'.state ≠ .prepared := by
  rcases h.state with he | he | ⟨_, hn⟩
  · rw [he]; exact hs
  · exact absurd he hs
  · exact hn

section
variable {actor : VaultActor} {v v' : Vault}

theorem RenewalHeld.step (hr : RenewalHeld v r) (h : VaultStep actor v v') : RenewalHeld v' r := by
  obtain ⟨_, ho, hid, hn⟩ := hr.operation
  obtain ⟨o', ho', hm⟩ := h.operation ho
  exact ⟨hr.guard.step h, o', ho', hm.id.trans hid, hm.credentialName.trans hn⟩

theorem RenewalSubmitted.step (hr : RenewalSubmitted v r) (h : VaultStep actor v v') :
    RenewalSubmitted v' r := by
  obtain ⟨_, ho, hid, hs, hat⟩ := hr
  obtain ⟨o', ho', hm⟩ := h.operation ho
  exact ⟨o', ho', hm.id.trans hid, hm.submitted hs, hm.submittedAt hat⟩

theorem RenewalHeld.generations (hr : RenewalHeld v r) :
    ∀ o ∈ v.operations, o.id = r.operationId → OfGenerations r.claim.guard o := by
  intro o ho hid
  obtain ⟨o', ho', hid', hn⟩ := hr.operation
  have he : o' = o := eq_of_key ho' ho (hid'.trans hid.symm)
  rw [he] at hn
  exact ⟨congrArg CredentialName.connectionGeneration hn,
    congrArg CredentialName.credentialGeneration hn⟩

end

/-- how the database moves under everything that happens in a deployment -/
structure ManagedMove (db db' : Database) : Prop where
  vault : ∃ actor, VaultStep actor db.vault db'.vault
  interactions : Evolves (InteractionMove true) Opened db.reauthorizations db'.reauthorizations

theorem RecordHeld.move (hr : RecordHeld db record) (h : ManagedMove db db') :
    RecordHeld db' record := by
  obtain ⟨i, hi, hid, hf⟩ := hr
  obtain ⟨i', hi', hm⟩ := h.interactions.forward i hi
  exact ⟨i', hi', hm.id.trans hid, hm.frozen.trans hf⟩

theorem Task.Right.move (ht : t.Right db) (h : ManagedMove db db') : t.Right db' := by
  obtain ⟨actor, hv⟩ := h.vault
  cases t with
  | renewing w => exact ⟨ht.1.step hv, ht.2.imp id fun hs => hs.step hv⟩
  | dispatching w credential => exact ⟨ht.1.step hv, ht.2.step hv⟩
  | answered w result => exact ⟨ht.1.step hv, ht.2.step hv⟩
  | fenced w => exact ⟨ht.1.step hv, ht.2.step hv⟩
  | rewrapping claim target => exact GuardHeld.step ht hv
  | exchanging record => exact RecordHeld.move ht h
  | failing record => exact RecordHeld.move ht h
  | _ => trivial

/-! ## workers that start -/

theorem GuardOf.held {c} (h : GuardOf g c) (hc : c ∈ v.connections) : GuardHeld v g :=
  ⟨c, hc, h.connectionId.symm, h.projectId.symm, h.linkedIdentityId.symm,
    Int.le_of_eq h.connectionRevision, fun _ => h⟩

structure TakenOver (db : Database) (operationId : Uuid) (r : PreparedRenewal)
    (o : RenewalOperation) (c : ManagedConnection) : Prop where
  operation : o ∈ db.renewalOperations
  operationId : o.id = operationId
  isOpen : o.Open
  connection : c ∈ db.managedConnections
  active : c.state = .active
  renews : RenewsNow c o
  guard : GuardOf r.claim.guard c
  named : r.operationId = o.id
  state : r.operationState = o.state

theorem recoverRenewal_ok {operationId} (h : recoverRenewal c operationId db = .ok done)
    (hr : done.reply = .ok (some r)) : ∃ o m, TakenOver db operationId r o m := by
  obtain ⟨o, ho, m, hm, owners, _, h⟩ := peel₃ h
  obtain ⟨_, hrec, value, _, h⟩ := peel₂ h
  obtain ⟨hopen, _, _, hactive, hgen, hcred, _⟩ := ensure_ok.mp hrec
  obtain ⟨ho, hoid⟩ := find_ok ho
  obtain ⟨hm, hmid, hmp⟩ := find_ok hm
  cases h
  cases hclaim : claimFromRow ⟨m, owners, o.providerEgressPolicyRevision,
      egressRevision db m.projectId, value⟩ c.workerId c.leaseUntil
      (decide (o.state = .submitted) && !decide (RenewalAuthority db owners m o)) with
  | error e => rw [hclaim] at hr; cases hr
  | ok claim =>
    rw [hclaim] at hr
    cases hr
    obtain ⟨hg, _⟩ := claimFromRow_ok hclaim
    exact ⟨o, m, ho, hoid, hopen, hm, hactive, ⟨hmp.symm, hmid.symm, hgen.symm, hcred.symm⟩,
      hg, rfl, rfl⟩

structure StartedOn (db : Database) (connectionId : Uuid) (r : PreparedRenewal)
    (m : ManagedConnection) (db' : Database) : Prop where
  connection : m ∈ db.managedConnections
  named : m.id = connectionId
  active : m.state = .active
  guard : GuardOf r.claim.guard m
  free : m.revocationRequest = none
  operation : ∃ o ∈ db'.renewalOperations, o.id = r.operationId
    ∧ o.credentialName = r.claim.guard.credentialName ∧ o.state = .prepared
  state : r.operationState = .prepared

theorem startRenewal_ok {connectionId} (h : startRenewal env c connectionId db = .ok done)
    (hr : done.reply = .ok (some r)) : ∃ m, StartedOn db connectionId r m done.db := by
  obtain ⟨⟨_, claimed⟩, hc, h⟩ := bind_ok.mp h
  obtain ⟨m, hm⟩ := claimConnectionOn_ok hc
  cases claimed with
  | none => cases h; cases hr
  | some claim =>
    dsimp only at h
    split at h
    · cases h; cases hr
    · obtain ⟨_, hi, h⟩ := bind_ok.mp h
      cases h
      cases hr
      obtain ⟨_, hi⟩ := insertRow_ok hi
      exact ⟨m, hm.mem, hm.id, hm.active, (hm.claim claim rfl).1, hm.due.1,
        ⟨_, (mem_insert hi).mpr (.inr rfl), rfl, rfl, rfl⟩, rfl⟩

theorem prepareNextRenewal_held (hs : db.vault.Sound) (h : prepareNextRenewal env c db = .ok done)
    (hr : done.reply = .ok (some r)) :
    RenewalHeld done.db.vault r
      ∧ (r.operationState = .prepared ∨ RenewalSubmitted done.db.vault r) := by
  obtain ⟨_, hv⟩ : VaultCall .other db done.db := prepareNextRenewal_call h
  obtain ⟨_, h⟩ := later h
  split at h
  · obtain ⟨o, m, ht⟩ := recoverRenewal_ok h hr
    have hname : o.credentialName = r.claim.guard.credentialName := by
      unfold RenewalOperation.credentialName ConnectionGuard.credentialName
      rw [ht.guard.projectId, ht.guard.connectionId, ht.guard.connectionGeneration,
        ht.guard.credentialGeneration, ht.renews.projectId, ht.renews.connectionId,
        ht.renews.connectionGeneration, ht.renews.credentialGeneration]
    have hheld : RenewalHeld db.vault r :=
      ⟨ht.guard.held ht.connection, o, ht.operation, ht.named.symm, hname⟩
    refine ⟨hheld.step hv, ?_⟩
    rcases ht.isOpen with ho | ho
    · exact .inl (ht.state.trans ho)
    · have hsub : RenewalSubmitted db.vault r :=
        ⟨o, ht.operation, ht.named.symm, by rw [ho]; decide, hs.stamped o ht.operation ho⟩
      exact .inr (hsub.step hv)
  · obtain ⟨m, hs⟩ := startRenewal_ok h hr
    obtain ⟨o, ho, hid, hn, _⟩ := hs.operation
    exact ⟨⟨(hs.guard.held hs.connection).step hv, o, ho, hid, hn⟩, .inl hs.state⟩

/-! ## steps of the deployment -/

/-- what a request or a worker does: a step of the vault by the actor, interactions that move
forward, and workers whose memory is right -/
structure WorkerOutcome.Stepped (actor : VaultActor) (completes : Bool) (db : Database)
    (o : WorkerOutcome) : Prop where
  vault : VaultStep actor db.vault o.store.vault
  interactions : Evolves (InteractionMove completes) Opened db.reauthorizations
    o.store.reauthorizations
  next : ∀ t ∈ o.next, t.Right o.store

theorem WorkerOutcome.after_next {next : α → List Task} {P : Database → Task → Prop}
    (h : ∀ db' a, body = .ok (.done db' a) → ∀ t ∈ next a, P db' t) :
    ∀ t ∈ (after db body next).next, P (after db body next).store t := by
  intro t ht
  unfold after at ht
  dsimp only at ht
  split at ht
  · rename_i a ha
    obtain ⟨db', hb⟩ := answer_ok ha
    show P (execute db body) t
    rw [execute_ok hb]
    exact h db' a hb t ht
  · cases ht

theorem WorkerOutcome.Stepped.move {actor : VaultActor} {completes : Bool}
    {o : WorkerOutcome} (h : o.Stepped actor completes db) : ManagedMove db o.store :=
  ⟨⟨actor, h.vault⟩, h.interactions.mono (fun _ _ h => ⟨h.id, h.frozen, h.expiresAt, h.rank, h.lasting,
    fun hc => (h.completed hc).imp_right fun _ => rfl⟩) fun _ ho => ho⟩

section
variable {actor : VaultActor} {completes : Bool} {α : Type} {db : Database}
  {body : Tx (Committed α)} {next : α → List Task}

theorem WorkerOutcome.Stepped.after (hv : ∀ r, body = .ok r → VaultStep actor db.vault r.db.vault)
    (hi : ∀ r, body = .ok r → Evolves (InteractionMove completes) Opened db.reauthorizations
      r.db.reauthorizations) (hn : ∀ db' a, body = .ok (.done db' a) → ∀ t ∈ next a, t.Right db') :
    (WorkerOutcome.after db body next).Stepped actor completes db := by
  refine ⟨.of_body hv, ?_, after_next hn⟩
  exact execute_of
    (P := fun db' : Database => Evolves (InteractionMove completes) Opened db.reauthorizations
      db'.reauthorizations) (.refl .refl _) hi

theorem WorkerOutcome.Stepped.after_call (hc : ∀ r, body = .ok r → VaultCall actor db r.db)
    (hn : ∀ db' a, body = .ok (.done db' a) → ∀ t ∈ next a, t.Right db') :
    (WorkerOutcome.after db body next).Stepped actor completes db :=
  .after (fun r h => (hc r h).step)
    (fun r h => .of_eq .refl (congrArg Database.reauthorizations (hc r h).only :)) hn

theorem WorkerOutcome.Stepped.after_last (hc : ∀ r, body = .ok r → VaultCall actor db r.db) :
    (WorkerOutcome.after db body fun _ => []).Stepped actor completes db :=
  .after_call hc fun _ _ _ _ ht => nomatch ht

theorem WorkerOutcome.Stepped.after_yes {body : Tx (Committed Bool)}
    (hc : ∀ r, body = .ok r → VaultCall actor db r.db)
    (hn : ∀ db', body = .ok (.done db' true) → u.Right db') :
    (WorkerOutcome.after db body fun yes => if yes then [u] else []).Stepped actor completes db := by
  refine .after_call hc fun db' yes h => ?_
  cases yes with
  | false => exact List.forall_mem_nil _
  | true => exact List.forall_mem_singleton.mpr (hn db' h)

theorem WorkerOutcome.Stepped.stay {tasks said}
    (hn : ∀ t ∈ tasks, t.Right db) : Stepped actor completes db ⟨db, tasks, said⟩ :=
  ⟨.refl _ _, .refl .refl _, hn⟩

theorem WorkerOutcome.Stepped.stop : (stop db).Stepped actor completes db :=
  .stay fun _ ht => nomatch ht

end

inductive Request.Started (db : Database) : Request → Database → Task → Prop
  | renewing {env : Environment} {adapter : ManagedProfileAdapter} {pick : RenewalPick}
      {workerId : Uuid} {now leaseUntil : Instant} {db' : Database} {renewal : PreparedRenewal}
      (capability : ManagedProfileCapability)
      (prepared : prepareNextRenewal env ⟨pick, workerId, now, leaseUntil, adapter.replayable⟩ db
        = .ok (.done db' (some renewal))) :
      Started db (.renew env adapter pick workerId now leaseUntil) db'
        (.renewing ⟨renewal, capability, adapter.replayable && renewal.adapterIdempotentReplay⟩)
  | revoking {adapter : ManagedProfileAdapter} {c : ClaimConnection} {db' : Database}
      {claim : ClaimedManagedCredential} (supported : Bool) :
      Started db (.revoke adapter c) db' (.revoking claim supported)
  | rewrapping {c : ClaimConnection} {target : Int} {db' : Database}
      {claim : ClaimedManagedCredential}
      (claimed : claimConnection c (.rewrap target) db = .ok (.done db' (some claim))) :
      Started db (.rewrap c target) db' (.rewrapping claim target)
  | exchanging {interactionId : Uuid} {c : ReauthorizationCallback} {db' : Database}
      {record : ReauthorizationRecord}
      (claimed : claimReauthorizationCallback interactionId c db
        = .ok (.done db' (.claimed record))) :
      Started db (.completeCallback interactionId c) db' (.exchanging record)

theorem Request.enter_started (r : Request) (db) :
    ∀ t ∈ (r.enter db).next, r.Started db (r.enter db).store t := by
  cases r with
  | call c => exact fun t ht => nomatch ht
  | renew env adapter pick workerId now leaseUntil =>
    refine after_next fun db' found h t ht => ?_
    cases found with
    | none => cases ht
    | some renewal =>
      change t ∈ renewalTask adapter renewal at ht
      unfold renewalTask at ht
      split at ht
      · cases ht
      · cases List.mem_singleton.mp ht
        exact .renewing _ h
  | revoke adapter c =>
    refine after_next fun db' found h t ht => ?_
    cases found with
    | none => cases ht
    | some claim =>
      change t ∈ revocationTask adapter claim at ht
      unfold revocationTask at ht
      split at ht
      · cases ht
      · cases List.mem_singleton.mp ht
        exact .revoking _
  | rewrap c target =>
    refine after_next fun db' found h t ht => ?_
    cases found with
    | none => cases ht
    | some claim =>
      cases List.mem_singleton.mp ht
      exact .rewrapping h
  | completeCallback interactionId c =>
    refine after_next fun db' answer h t ht => ?_
    cases answer with
    | claimed record =>
      cases List.mem_singleton.mp ht
      exact .exchanging h
    | duplicate | terminalizedStaleAuthority => cases ht

theorem Request.Started.right {r : Request} (h : r.Started db db' t) (hs : db.vault.Sound) :
    t.Right db' := by
  cases h with
  | renewing _ hp => exact prepareNextRenewal_held hs hp rfl
  | revoking => trivial
  | rewrapping h =>
    have hv : VaultCall .other _ _ := claimConnection_call h
    obtain ⟨⟨_, _⟩, hc, h⟩ := bind_ok.mp h
    cases h
    obtain ⟨_, hm⟩ := claimConnectionOn_ok hc
    exact ((hm.claim _ rfl).1.held hm.mem).step hv.step
  | @exchanging _ _ _ record hc =>
    rcases claimReauthorizationCallback_ok hc with ⟨_, hi, _, _, _, hr⟩ | ⟨_, hn⟩
    · cases hr
      exact ⟨_, mem_set_self _ hi rfl, rfl, rfl⟩
    · exact absurd rfl (hn record)

def Request.actor : Request → VaultActor
  | call c => c.actor
  | _ => .other

theorem Request.not_mem_actor (r : Request) (a) : a ∉ r.actor := by
  intro h
  cases r with
  | call c =>
    obtain ⟨_, op⟩ := c
    cases op with
    | managed o => cases o <;> cases h
    | _ => cases h
  | _ => cases h

theorem Request.enter_vault (r : Request) (db) :
    VaultStep r.actor db.vault (r.enter db).store.vault := by
  cases r with
  | call c =>
    show VaultStep c.actor db.vault (if c.carries then db else OwlAuth.step c db).vault
    split
    · exact .refl _ _
    · rename_i hc
      exact step_vault c db (Bool.eq_false_iff.mpr hc)
  | renew => exact (VaultCall.of_body fun _ => prepareNextRenewal_call).step
  | revoke => exact (VaultCall.of_body fun _ => claimConnection_call).step
  | rewrap => exact (VaultCall.of_body fun _ => claimConnection_call).step
  | completeCallback => exact .of_body fun _ h => (claimReauthorizationCallback_moved h).vault

theorem Request.enter_interactions (r : Request) (db) :
    Evolves (InteractionMove false) Opened db.reauthorizations
      (r.enter db).store.reauthorizations := by
  have only : ∀ {α : Type} {body : Tx (Committed α)},
      (∀ r, body = .ok r → VaultCall .other db r.db) → Evolves (InteractionMove false) Opened
        db.reauthorizations (execute db body).reauthorizations := by
    intro α body h
    exact .of_eq .refl (congrArg Database.reauthorizations (OnlyManaged.of_call h) :)
  cases r with
  | call c =>
    show Evolves (InteractionMove false) Opened db.reauthorizations
      (if c.carries then db else OwlAuth.step c db).reauthorizations
    split
    · exact .refl .refl _
    · rename_i hc
      exact step_reauthorizations c db (Bool.eq_false_iff.mpr hc)
  | renew => exact only fun _ => prepareNextRenewal_call
  | revoke => exact only fun _ => claimConnection_call
  | rewrap => exact only fun _ => claimConnection_call
  | completeCallback interactionId c =>
    obtain ⟨_, he, hm⟩ : InteractionsMoved db
        (execute db (claimReauthorizationCallback interactionId c db)) :=
      .of_body fun _ => claimReauthorizationCallback_moved
    show Evolves _ _ _ (execute db _).reauthorizations
    rw [he]
    exact hm

theorem Request.enter_stepped (r : Request) (db) (hs : db.vault.Sound) :
    (r.enter db).Stepped r.actor false db :=
  ⟨r.enter_vault db, r.enter_interactions db, fun t ht => (r.enter_started db t ht).right hs⟩

theorem markRenewalSubmitted_true {now} (h : markRenewalSubmitted r now db = .ok (.done db' true)) :
    ∃ o ∈ db.renewalOperations, o.id = r.operationId ∧ o.state = .prepared
      ∧ db' = { db with renewalOperations := db.renewalOperations.set (submittedRenewal now o) } := by
  obtain ⟨_, h⟩ := later h
  split at h
  · split at h
    · cases h
    · rename_i o ho
      cases h
      obtain ⟨_, _, _, _, hmem, _, _, _, hheld⟩ := lockSubmission_some ho
      exact ⟨o, hmem, hheld.2.2.1, hheld.2.2.2.2.1, rfl⟩
  · cases h

variable (w : RenewalWork)

theorem endRenewal_stepped (outcome : String) (now db) (hw : RenewalHeld db.vault w.renewal) :
    (endRenewal w outcome now db).Stepped (.worker ⟨w.renewal, now⟩) false db :=
  .after_last fun _ h => ⟨terminalizeRenewal_only h, terminalizeRenewal_vault hw.guard h⟩

theorem submitRenewal_stepped (db) (hw : (Task.renewing w).Right db) :
    (submitRenewal i w db).Stepped (.worker ⟨w.renewal, i.now⟩) false db := by
  unfold submitRenewal
  dsimp only
  iterate 3
    split
    · exact endRenewal_stepped w _ i.now db hw.1
  split
  · exact .after_last fun _ => releasePreparedFailure_call
  · split
    · refine .after_yes (fun _ => markRenewalSubmitted_call) fun db' h => ?_
      have hheld := hw.1.step (markRenewalSubmitted_call h).step
      obtain ⟨o, ho, hid, _, rfl⟩ := markRenewalSubmitted_true h
      exact ⟨hheld, _, mem_set_self _ ho rfl, hid, (fun hs => nomatch hs), rfl⟩
    · rename_i hs
      exact .stay (List.forall_mem_singleton.mpr ⟨hw.1, hw.2.resolve_left hs⟩)

theorem finishRenewal_stepped (db)
    (result : ProviderRenewalResult) (hw : (Task.answered w result).Right db) :
    (finishRenewal i w db result).Stepped (.worker ⟨w.renewal, i.now⟩) false db := by
  cases result with
  | success renewable grantedScopes =>
    dsimp only [finishRenewal]
    split
    · have hv : ∀ r, commitRenewalSuccessor w.renewal (protectCredential i.keyVersion
          (successorContext w.renewal.claim.guard) renewable) i.now db = .ok r →
          VaultStep (.worker ⟨w.renewal, i.now⟩) db.vault r.db.vault :=
        fun _ h => commitRenewalSuccessor_vault hw.1.guard hw.1.generations rfl rfl h
      refine .after_call (fun r h => ⟨commitRenewalSuccessor_only h, hv r h⟩) fun db' found h => ?_
      cases found with
      | none => exact List.forall_mem_singleton.mpr ⟨hw.1.step (hv _ h), hw.2.step (hv _ h)⟩
      | some claim => exact List.forall_mem_singleton.mpr trivial
    · exact endRenewal_stepped w _ i.now db hw.1
  | transientBeforeDispatch | ambiguousAfterDispatch =>
    dsimp only [finishRenewal]
    split
    · exact .stop
    · exact endRenewal_stepped w _ i.now db hw.1
  | invalidGrant | scopeLost | authoritativelyRevoked => exact endRenewal_stepped w _ i.now db hw.1

theorem commitProfile_stepped {actor} (env) (c : CommitManagedProfile) (db) :
    (after db (commitProfileForGuard env c db) fun _ => []).Stepped actor false db := by
  refine .after (fun _ => commitProfileForGuard_vault) (fun _ h => .of_eq .refl ?_)
    fun _ _ _ _ ht => nomatch ht
  rcases commitProfileForGuard_ok h with he | ⟨_, _, hs⟩
  · rw [he]
  · exact hs.reauthorizations

theorem finishTransientProfile_stepped {actor} (claim : SuccessorProfileClaim) (db) :
    (finishTransientProfile i claim db).Stepped actor false db := by
  unfold finishTransientProfile
  split
  · exact commitProfile_stepped i.env _ db
  · exact .after_last fun _ => fenceSuccessorReadEvidence_call
  · exact .after_last fun _ => fenceSuccessorReadEvidence_call
  · exact .after_last fun _ => finishSuccessorProfileFailure_call

theorem dispatchRevocation_stepped {actor}
    (claim : ClaimedManagedCredential) (supported : Bool) (db) :
    (dispatchRevocation i claim supported db).Stepped actor false db := by
  unfold dispatchRevocation
  split
  · split
    · exact .after_last fun _ => releaseRevocationClaim_call
    · exact .after_yes (fun _ => markRevocationDispatched_call) fun _ _ => trivial
  · exact .after_yes (fun _ => markRevocationDispatched_call) fun _ _ => trivial

theorem rewrapCredential_stepped {actor} (claim : ClaimedManagedCredential) (target : Int) (db)
    (hg : GuardHeld db.vault claim.guard) :
    (rewrapCredential i claim target db).Stepped actor false db := by
  unfold rewrapCredential
  split
  · exact .stop
  · dsimp only
    split
    · exact .after_last fun _ h => ⟨finishRewrap_only h, finishRewrap_vault hg rfl rfl h⟩
    · exact .stop

theorem exchangeAndComplete_stepped
    (record : ReauthorizationRecord) (db) (hr : RecordHeld db record) :
    (exchangeAndComplete i record db).Stepped .consent true db := by
  unfold exchangeAndComplete
  split
  · exact .stay (List.forall_mem_singleton.mpr hr)
  · rename_i credential identity _
    cases h : completeReauthorizationCallback record (protectCredential i.keyVersion
        (reauthorizedContext record.interaction.frozen) credential) i.now db with
    | error e => exact .stay (List.forall_mem_singleton.mpr hr)
    | ok done =>
      have hv : VaultStep .consent db.vault done.db.vault :=
        completeReauthorizationCallback_vault rfl rfl h
      have hi := (completeReauthorizationCallback_step h : ManagedStep i.env db _).reauthorizations
      refine ⟨hv, hi, fun t ht => ?_⟩
      dsimp only [h] at ht
      split at ht
      · exact List.forall_mem_singleton.mpr trivial t ht
      · cases List.mem_singleton.mp ht
        exact hr.move ⟨⟨_, hv⟩, hi⟩

/-- only the exchange of a callback completes an interaction -/
def Task.completes : Task → Bool
  | exchanging _ => true
  | _ => false

/-- **The next step of a worker** is a step of the vault by that worker. -/
theorem Task.advance_stepped (t : Task) (db) (ht : t.Right db) :
    (t.advance i db).Stepped (t.actor i) t.completes db := by
  cases t with
  | renewing w => exact submitRenewal_stepped i w db ht
  | dispatching w credential => exact .stay (List.forall_mem_singleton.mpr ht)
  | answered w result => exact finishRenewal_stepped i w db result ht
  | fenced w => exact endRenewal_stepped w _ i.now db ht.1
  | profiling claim readRetrySafe =>
    dsimp only [Task.advance]
    split
    · exact finishTransientProfile_stepped i claim db
    · exact .after_last fun _ => finishSuccessorWithoutProfile_call
  | revoking claim supported => exact dispatchRevocation_stepped i claim supported db
  | calling claim credential => exact .stay (List.forall_mem_singleton.mpr trivial)
  | revoked claim result =>
    exact .after_last fun _ => finishRevocation_call
  | rewrapping claim target => exact rewrapCredential_stepped i claim target db ht
  | exchanging record => exact exchangeAndComplete_stepped i record db ht
  | failing record =>
    refine .after (fun _ h => (failReauthorizationCallback_moved h).vault) (fun _ h => ?_)
      fun _ _ _ _ h => nomatch h
    obtain ⟨_, he, hm⟩ := failReauthorizationCallback_moved h
    rw [he]
    exact hm
  | reauthorized guard profile =>
    cases profile with
    | none => exact .stop
    | some p => exact commitProfile_stepped i.env _ db

/-! ## what a worker goes on with -/

inductive Task.Follows : Task → Task → Prop
  | dispatching (w : RenewalWork) (credential : RenewableCredential) :
      Follows (.renewing w) (.dispatching w credential)
  | answered (w : RenewalWork) (credential : RenewableCredential)
      (result : ProviderRenewalResult) : Follows (.dispatching w credential) (.answered w result)
  | fenced (w : RenewalWork) (result : ProviderRenewalResult) :
      Follows (.answered w result) (.fenced w)
  | profiling (w : RenewalWork) (result : ProviderRenewalResult) (claim : SuccessorProfileClaim)
      (readRetrySafe : Bool) : Follows (.answered w result) (.profiling claim readRetrySafe)
  | calling (claim : ClaimedManagedCredential) (supported : Bool)
      (credential : RenewableCredential) :
      Follows (.revoking claim supported) (.calling claim credential)
  | unsupported (claim : ClaimedManagedCredential) (supported : Bool)
      (result : ProviderRevocationResult) :
      Follows (.revoking claim supported) (.revoked claim result)
  | revoked (claim : ClaimedManagedCredential) (credential : RenewableCredential)
      (result : ProviderRevocationResult) :
      Follows (.calling claim credential) (.revoked claim result)
  | failing (record : ReauthorizationRecord) : Follows (.exchanging record) (.failing record)
  | reauthorized (record : ReauthorizationRecord) (guard : ConnectionGuard)
      (profile : Option ReadProfile) : Follows (.exchanging record) (.reauthorized guard profile)

section
variable {α : Type} {db : Database} {body : Tx (Committed α)} {t : Task}

theorem WorkerOutcome.after_follows {next} (h : ∀ a, ∀ u ∈ next a, t.Follows u) :
    ∀ u ∈ (after db body next).next, t.Follows u :=
  after_next (P := fun _ u => t.Follows u) fun _ a _ => h a

theorem WorkerOutcome.after_last_follows : ∀ u ∈ (after db body fun _ => []).next, t.Follows u :=
  after_follows fun _ _ hu => nomatch hu

theorem WorkerOutcome.after_yes_follows {body : Tx (Committed Bool)} (h : t.Follows u) :
    ∀ u' ∈ (after db body fun yes => if yes then [u] else []).next, t.Follows u' := by
  refine after_follows fun yes => ?_
  cases yes with
  | false => exact List.forall_mem_nil _
  | true => exact List.forall_mem_singleton.mpr h

end

theorem submitRenewal_follows (db) :
    ∀ u ∈ (submitRenewal i w db).next, (Task.renewing w).Follows u := by
  unfold submitRenewal
  dsimp only
  iterate 4
    split
    · exact after_last_follows
  split
  · exact after_yes_follows (.dispatching w _)
  · exact List.forall_mem_singleton.mpr (.dispatching w _)

theorem finishRenewal_follows (db) (result : ProviderRenewalResult) :
    ∀ u ∈ (finishRenewal i w db result).next, (Task.answered w result).Follows u := by
  cases result with
  | success renewable grantedScopes =>
    dsimp only [finishRenewal]
    split
    · refine after_follows fun found => ?_
      cases found with
      | none => exact List.forall_mem_singleton.mpr (.fenced w _)
      | some claim => exact List.forall_mem_singleton.mpr (.profiling w _ claim _)
    · exact after_last_follows
  | transientBeforeDispatch | ambiguousAfterDispatch =>
    dsimp only [finishRenewal]
    split
    · exact fun _ hu => nomatch hu
    · exact after_last_follows
  | invalidGrant | scopeLost | authoritativelyRevoked => exact after_last_follows

theorem Task.advance_follows (t : Task) (db) : ∀ u ∈ (t.advance i db).next, t.Follows u := by
  cases t with
  | renewing w => exact submitRenewal_follows i w db
  | dispatching w credential => exact List.forall_mem_singleton.mpr (.answered w credential _)
  | answered w result => exact finishRenewal_follows i w db result
  | fenced w => exact after_last_follows
  | profiling claim readRetrySafe =>
    dsimp only [Task.advance]
    split
    · unfold finishTransientProfile
      split <;> exact after_last_follows
    · exact after_last_follows
  | revoking claim supported =>
    dsimp only [Task.advance, dispatchRevocation]
    split
    · split
      · exact after_last_follows
      · exact after_yes_follows (.calling claim _ _)
    · exact after_yes_follows (.unsupported claim _ _)
  | calling claim credential => exact List.forall_mem_singleton.mpr (.revoked claim credential _)
  | revoked claim result => exact after_last_follows
  | rewrapping claim target =>
    dsimp only [Task.advance, rewrapCredential]
    split
    · exact fun _ hu => nomatch hu
    · split
      · exact after_last_follows
      · exact fun _ hu => nomatch hu
  | exchanging record =>
    dsimp only [Task.advance, exchangeAndComplete]
    split
    · exact List.forall_mem_singleton.mpr (.failing record)
    · dsimp only
      split
      · exact List.forall_mem_singleton.mpr (.reauthorized record _ _)
      · exact List.forall_mem_singleton.mpr (.failing record)
  | failing record => exact after_last_follows
  | reauthorized guard profile =>
    cases profile with
    | none => exact fun _ hu => nomatch hu
    | some p => exact after_last_follows

theorem Task.advance_said (t : Task) (db) : (t.advance i db).said = []
      ∨ ∃ w credential, t = .dispatching w credential
        ∧ (t.advance i db).said = [⟨w.renewal, credential⟩] := by
  cases t with
  | dispatching w credential => exact .inr ⟨w, credential, rfl, rfl⟩
  | renewing w =>
    refine .inl ?_
    dsimp only [Task.advance, submitRenewal]
    repeat' split
    all_goals rfl
  | answered w result =>
    refine .inl ?_
    cases result <;> dsimp only [Task.advance, finishRenewal]
    all_goals first | rfl | (split <;> rfl)
  | profiling claim readRetrySafe =>
    refine .inl ?_
    dsimp only [Task.advance, finishTransientProfile]
    repeat' split
    all_goals rfl
  | revoking claim supported =>
    refine .inl ?_
    dsimp only [Task.advance, dispatchRevocation]
    repeat' split
    all_goals rfl
  | rewrapping claim target =>
    refine .inl ?_
    dsimp only [Task.advance, rewrapCredential]
    repeat' split
    all_goals rfl
  | exchanging record =>
    refine .inl ?_
    dsimp only [Task.advance, exchangeAndComplete]
    repeat' split
    all_goals rfl
  | reauthorized guard profile => cases profile <;> exact .inl rfl
  | fenced | calling | revoked | failing => exact .inl rfl

/-! ## reachable states -/

/-- the vault is sound, and so is what every worker remembers -/
def Deployment.Sound (d : Deployment) : Prop :=
  Pool.Sound (fun db : Database => db.vault.Sound) Task.Right d

theorem Deployment.Sound.step (hd : d.Sound) (m : DeploymentMove) : (d.step m).Sound :=
  Pool.step_sound (R := ManagedMove) (fun _ _ _ hm ht => ht.move hm) m d
    (fun r _ hs =>
      have h := r.enter_stepped d.store hs
      ⟨hs.step h.vault, h.move, h.next⟩)
    (fun _ i t _ _ hs ht =>
      have h := t.advance_stepped i d.store ht
      ⟨hs.step h.vault, h.move, h.next⟩) hd

theorem Deployment.step_cases (d : Deployment) (m : DeploymentMove) :
    Pool.Cases (fun (r : Request) db => r.enter db) (fun i (t : Task) db => t.advance i db) d m
      (d.step m) (d.sent m) :=
  Pool.step_cases _ _ m d

def Deployment.actor (d : Deployment) : DeploymentMove → VaultActor
  | .enter r => r.actor
  | .advance n i => (d.tasks[n]?).elim .other (Task.actor i)
  | .crash _ => .other

theorem Deployment.actor_advance {n i} (hn : d.tasks[n]? = some t) :
    d.actor (.advance n i) = t.actor i := by
  rw [Deployment.actor, hn]
  rfl

theorem Deployment.Sound.step_vault (hd : d.Sound) (m : DeploymentMove) :
    VaultStep (d.actor m) d.store.vault (d.step m).store.vault := by
  have hc := d.step_cases m
  generalize d.step m = d' at hc
  generalize d.sent m = l at hc
  cases hc with
  | idle => exact .refl _ _
  | entered r => exact (r.enter_stepped d.store hd.store).vault
  | advanced n i t hn =>
    have ht := hd.tasks t (List.mem_of_getElem? hn)
    rw [d.actor_advance hn]
    exact (t.advance_stepped i d.store ht).vault

theorem Deployment.Sound.step_moved (hd : d.Sound) (m : DeploymentMove) :
    ManagedMove d.store (d.step m).store := by
  have hc := d.step_cases m
  generalize d.step m = d' at hc
  generalize d.sent m = l at hc
  cases hc with
  | idle => exact ⟨⟨.other, .refl _ _⟩, .refl .refl _⟩
  | entered r => exact (r.enter_stepped d.store hd.store).move
  | advanced n i t hn =>
    exact (t.advance_stepped i d.store (hd.tasks t (List.mem_of_getElem? hn))).move

theorem Deployment.Fresh.sound (hd : d.Fresh) : d.Sound := by
  have hk : ∀ k, ¬ k ∈ d.store.managedCredentials := fun k hk => by
    rw [← mem_rows, hd.credentials] at hk
    cases hk
  have ho : ∀ o, ¬ o ∈ d.store.renewalOperations := fun o ho => by
    rw [← mem_rows, hd.operations] at ho
    cases ho
  refine ⟨⟨fun k h => absurd h (hk k), fun k h => absurd h (hk k), fun o h => absurd h (ho o),
    fun o h => absurd h (ho o), fun o h => absurd h (ho o), fun o h => absurd h (ho o)⟩,
    fun t ht => ?_⟩
  rw [hd.tasks] at ht
  cases ht

theorem deployment_sound (hd : d.Fresh) (moves : List DeploymentMove) : (d.run moves).Sound :=
  Machine.run_inv (I := Deployment.Sound) Deployment.step (fun _ m hs => hs.step m) moves hd.sound

end OwlAuth
